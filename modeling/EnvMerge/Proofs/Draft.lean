import EnvMerge.Decision
import EnvMerge.Proofs.Line.Split

namespace EnvMerge

variable {line t : Text} {lines shown : List Text} {c : Char}

namespace Text

theorem joinLines_concat (h : lines ≠ []) :
    joinLines (lines ++ [line]) = joinLines lines ++ '\n' :: line := by
  induction lines
  case nil => contradiction
  case cons first lines ih =>
    cases lines
    case nil         => simp [joinLines]
    case cons l rest => simpa [joinLines] using ih (by simp)

theorem dropEnd_concat (h : c = '\n') : dropEnd (· == '\n') (t ++ [c]) = dropEnd (· == '\n') t :=
  List.rdropWhile_concat_pos _ t c (by simp [h])

theorem dropEnd_joinLines (h : c ≠ '\n') :
    dropEnd (· == '\n') (joinLines (lines ++ [t ++ [c]])) = joinLines (lines ++ [t ++ [c]]) := by
  have ⟨t', ht⟩ : ∃ t' : Text, joinLines (lines ++ [t ++ [c]]) = t' ++ [c] := by
    by_cases hl : lines = []
    case pos => exact ⟨t, by simp [hl, joinLines]⟩
    case neg => exact ⟨joinLines lines ++ '\n' :: t, by simp [joinLines_concat hl]⟩
  rw [ht]
  exact List.rdropWhile_concat_neg _ t' c (by simp [h])

end Text

namespace Draft

variable {r r' : Draft} {decisions : List Decision}

-- What the text of a draft shows of its lines.
structure Shows (r : Draft) (shown : List Text) : Prop where
  lines_eq : ∃ n, r.lines = shown ++ .replicate n []
  text_eq  : r.text = Text.joinLines (shown ++ [[]])

theorem text_concat_nil (h : lines ≠ []) :
    Draft.text ⟨lines ++ [[]], decisions⟩ = Draft.text ⟨lines, decisions⟩ := by
  simp [text, h, Text.joinLines_concat h, Text.dropEnd_concat]

theorem text_append_replicate (decisions : List Decision) (h : lines ≠ []) (n : Nat) :
    Draft.text ⟨lines ++ .replicate n [], decisions⟩ = Draft.text ⟨lines, decisions⟩ := by
  induction n
  case zero      => simp
  case succ n ih =>
    rw [List.replicate_succ', ← List.append_assoc, text_concat_nil (by simp [h]), ih]

theorem text_concat (h : c ≠ '\n') :
    Draft.text ⟨lines ++ [t ++ [c]], decisions⟩ = Text.joinLines (lines ++ [t ++ [c]] ++ [[]]) := by
  rw [Text.joinLines_concat (by simp)]
  simp [text, Text.dropEnd_joinLines h]

-- The lines without the empty ones at their end. Of lines that are all empty, one is left.
def visible (lines : List Text) : List Text :=
  if ∀ line ∈ lines, line = [] then lines.take 1 else lines.rdropWhile (· = [])

theorem visible_concat_nil (h : lines ≠ []) : visible (lines ++ [[]]) = visible lines := by
  have same : (∀ line ∈ lines ++ [[]], line = []) ↔ ∀ line ∈ lines, line = [] := by
    rw [List.forall_mem_append]
    exact and_iff_left (by simp)
  by_cases he : ∀ line ∈ lines, line = []
  case pos =>
    rw [visible, visible, if_pos he, if_pos (same.mpr he),
      List.take_append_of_le_length (List.length_pos_iff.mpr h)]
  case neg =>
    rw [visible, visible, if_neg he, if_neg (mt same.mp he), List.rdropWhile_concat_pos _ _ _ (by simp)]

theorem visible_concat (h : line ≠ []) : visible (lines ++ [line]) = lines ++ [line] := by
  have he : ¬∀ l ∈ lines ++ [line], l = [] := fun he => h (he line (by simp))
  rw [visible, if_neg he, List.rdropWhile_concat_neg _ _ _ (by simpa using h)]

theorem shows_visible (h : ∀ line ∈ r.lines, '\n' ∉ line) : r.Shows (visible r.lines) := by
  have ⟨lines, decisions⟩ := r
  induction lines using List.reverseRecOn
  case nil => exact ⟨⟨0, rfl⟩, rfl⟩
  case append_singleton lines line ih =>
    have ⟨⟨n, hl⟩, ht⟩ := ih fun l hm => h l (List.mem_append_left _ hm)
    cases List.eq_nil_or_concat line
    case inr hc =>
      have ⟨t, c, he⟩ := hc
      rw [List.concat_eq_append] at he
      subst he
      have hc : c ≠ '\n' := fun he => h (t ++ [c]) (by simp) (by simp [he])
      rw [visible_concat (by simp)]
      exact ⟨⟨0, by simp⟩, text_concat hc⟩
    case inl hn =>
      subst hn
      by_cases he : lines = []
      case pos => exact ⟨⟨0, by simp [he, visible]⟩, by simp [he, visible, text, Text.joinLines, Text.dropEnd]⟩
      case neg =>
        rw [visible_concat_nil he]
        refine ⟨⟨n + 1, ?_⟩, (text_concat_nil he).trans ht⟩
        simp only at hl
        rw [List.replicate_succ', ← List.append_assoc, ← hl]

theorem exists_shows (h : ∀ line ∈ r.lines, '\n' ∉ line) : ∃ shown, r.Shows shown :=
  ⟨_, shows_visible h⟩

theorem text_eq_nil_iff : r.text = [] ↔ r.lines = [] := by
  by_cases h : r.lines = [] <;> simp [text, h]

-- A text that is not empty ends with one line feed, and never with two.
theorem exists_text_eq_append (h : r.lines ≠ []) :
    ∃ t : Text, r.text = t ++ ['\n'] ∧ t.getLast? ≠ some '\n' := by
  refine ⟨_, if_neg h, fun hl => ?_⟩
  have ⟨ht, hc⟩ := List.mem_getLast?_eq_getLast hl
  exact List.rdropWhile_last_not (· == '\n') _ ht (beq_iff_eq.mpr hc.symm)

namespace Shows

theorem not_mem (s : r.Shows shown) (h : ∀ line ∈ r.lines, '\n' ∉ line) :
    ∀ line ∈ shown ++ [[]], '\n' ∉ line := by
  have ⟨n, hl⟩ := s.lines_eq
  intro line hm
  cases List.mem_append.mp hm
  case inl hm => exact h line (hl ▸ List.mem_append_left _ hm)
  case inr hm => simp [List.mem_singleton.mp hm]

theorem splitOn_text (s : r.Shows shown) (h : ∀ line ∈ r.lines, '\n' ∉ line) :
    r.text.splitOn '\n' = shown ++ [[]] := by
  rw [s.text_eq, Text.joinLines]
  exact List.splitOn_intercalate '\n' (s.not_mem h) (by simp)

theorem split_text (s : r.Shows shown) (h : ∀ line ∈ r.lines, '\n' ∉ line) :
    Line.split r.text = shown.map Line.dropReturn := by
  simp [Line.split, s.splitOn_text h]

-- A draft of the lines that are shown has the same text.
theorem text_eq_of_lines_eq (s : r.Shows shown) (h : r'.lines = shown) : r'.text = r.text := by
  by_cases hn : shown = []
  case pos =>
    rw [s.text_eq]
    simp [text, h, hn, Text.joinLines]
  case neg =>
    have ⟨n, hl⟩ := s.lines_eq
    have same := text_append_replicate r.decisions hn n
    simp only [text, h, hl] at same ⊢
    exact same.symm

end Shows
end Draft
end EnvMerge
