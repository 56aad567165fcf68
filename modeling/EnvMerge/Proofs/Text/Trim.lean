import EnvMerge.Text.Blank
import Mathlib.Data.List.DropRight

namespace EnvMerge.Text

variable {c : Char} {s t w w' : Text}

theorem not_isBlank_numberSign : ¬isBlank '#' := by decide

theorem trimStart_eq_nil_iff : t.trimStart = [] ↔ t.Blank :=
  List.dropWhile_eq_nil_iff

theorem trimStart_append_of_blank (h : w.Blank) : (w ++ t).trimStart = t.trimStart := by
  rw [trimStart, List.dropWhile_append_of_pos h, trimStart]

theorem trimStart_append_of_not_blank (h : ¬s.Blank) : (s ++ t).trimStart = s.trimStart ++ t := by
  have hs := mt trimStart_eq_nil_iff.mp h
  simp only [trimStart] at hs ⊢
  simp [List.dropWhile_append, hs]

theorem trimStart_cons_of_not_isBlank (h : ¬isBlank c) : trimStart (c :: t) = c :: t := by
  simp [trimStart, h]

-- A text is some blanks and what is left when they are taken off the front.
theorem exists_blank_append_trimStart (t : Text) : ∃ w : Text, w.Blank ∧ t = w ++ t.trimStart :=
  ⟨t.takeWhile isBlank, fun _ => List.mem_takeWhile_imp, List.takeWhile_append_dropWhile.symm⟩

theorem trimEnd_append_singleton (h : isBlank c) : trimEnd (t ++ [c]) = t.trimEnd :=
  List.rdropWhile_concat_pos isBlank t c h

theorem trimEnd_append_of_blank (h : w.Blank) : trimEnd (t ++ w) = t.trimEnd := by
  induction w using List.reverseRecOn
  case nil => simp
  case append_singleton w c ih =>
    have hw : Blank w := fun x hx => h x (List.mem_append_left _ hx)
    rw [← List.append_assoc, trimEnd_append_singleton (h c (by simp)), ih hw]

theorem trim_eq_nil_of_blank (h : t.Blank) : t.trim = [] := by
  rw [trim, trimStart_eq_nil_iff.mpr h]
  rfl

theorem trim_trimStart : t.trimStart.trim = t.trim := by
  have h := List.dropWhile_idempotent isBlank t
  simp only [trim, trimStart, h]

-- Blanks at the end do not matter.
theorem trim_append_of_blank (h : w.Blank) : trim (t ++ w) = t.trim := by
  by_cases ht : t.Blank
  case pos =>
    have hb : Blank (t ++ w) := fun c hc => (List.mem_append.mp hc).elim (ht c) (h c)
    rw [trim_eq_nil_of_blank ht, trim_eq_nil_of_blank hb]
  case neg => rw [trim, trimStart_append_of_not_blank ht, trimEnd_append_of_blank h, trim]

theorem trim_append_singleton (h : isBlank c) : trim (t ++ [c]) = t.trim :=
  trim_append_of_blank fun _ hx => List.mem_singleton.mp hx ▸ h

theorem trimStart_eq_self (h : ∀ c ∈ t.head?, ¬isBlank c) : t.trimStart = t := by
  cases t
  case nil      => rfl
  case cons c t => exact trimStart_cons_of_not_isBlank (h c rfl)

theorem trimEnd_eq_self (h : ∀ c ∈ t.getLast?, ¬isBlank c) : t.trimEnd = t :=
  List.rdropWhile_eq_self_iff.mpr fun hl => h _ (List.getLast_mem_getLast? hl)

theorem trim_eq_self (first : ∀ c ∈ t.head?, ¬isBlank c) (last : ∀ c ∈ t.getLast?, ¬isBlank c) :
    t.trim = t := by
  rw [trim, trimStart_eq_self first, trimEnd_eq_self last]

theorem exists_trimEnd_append_blank (t : Text) : ∃ w : Text, w.Blank ∧ t = t.trimEnd ++ w := by
  have ⟨w, hw, ht⟩ := exists_blank_append_trimStart t.reverse
  refine ⟨w.reverse, fun c hc => hw c (List.mem_reverse.mp hc), ?_⟩
  rw [trimEnd, dropEnd, ← trimStart, ← List.reverse_append, ← ht, List.reverse_reverse]

theorem not_isBlank_of_head?_trimStart (h : t.trimStart.head? = some c) : ¬isBlank c := by
  have first := List.head?_dropWhile_not isBlank t
  rw [← trimStart, h] at first
  simpa using first

-- A trimmed text and the blanks that were around it.
theorem exists_blank_append_trim (t : Text) :
    ∃ w w' : Text, w.Blank ∧ w'.Blank ∧ t = w ++ t.trim ++ w' := by
  have ⟨w, hw, ht⟩ := exists_blank_append_trimStart t
  have ⟨w', hw', ht'⟩ := exists_trimEnd_append_blank t.trimStart
  exact ⟨w, w', hw, hw', by rw [trim, List.append_assoc, ← ht', ← ht]⟩

theorem trim_eq_nil_iff : t.trim = [] ↔ t.Blank := by
  refine ⟨fun h => ?_, trim_eq_nil_of_blank⟩
  have ⟨w, w', hw, hw', ht⟩ := exists_blank_append_trim t
  rw [h, List.append_nil] at ht
  rw [ht]
  exact List.forall_mem_append.mpr ⟨hw, hw'⟩

theorem not_isBlank_of_head?_trim (h : t.trim.head? = some c) : ¬isBlank c := by
  have ⟨w, _, ht⟩ := exists_trimEnd_append_blank t.trimStart
  refine not_isBlank_of_head?_trimStart (t := t) ?_
  rw [ht, ← trim, List.head?_append, h, Option.some_or]

theorem not_isBlank_of_getLast?_trim (h : t.trim.getLast? = some c) : ¬isBlank c := by
  have last := List.head?_dropWhile_not isBlank t.trimStart.reverse
  rw [trim, trimEnd, dropEnd, List.getLast?_reverse] at h
  rw [h] at last
  simpa using last

theorem trim_trimEnd : t.trimEnd.trim = t.trim := by
  have ⟨w, hw, ht⟩ := exists_trimEnd_append_blank t
  calc t.trimEnd.trim
    _ = (t.trimEnd ++ w).trim := (trim_append_of_blank hw).symm
    _ = t.trim                := by rw [← ht]

-- What is taken off the end reaches no further than to a character that is not blank.
theorem trimEnd_append_cons (h : ¬isBlank c) : trimEnd (s ++ c :: t) = s ++ c :: t.trimEnd := by
  simp only [trimEnd, dropEnd, List.reverse_append, List.reverse_cons, List.append_assoc,
    List.singleton_append, List.dropWhile_append]
  split
  case isTrue empty   => simp_all
  case isFalse behind => simp

-- Blanks around a text that neither begins nor ends with one are what trimming takes off.
theorem trim_append_append (hw : w.Blank) (hw' : w'.Blank) (first : ∀ c ∈ t.head?, ¬isBlank c)
    (last : ∀ c ∈ t.getLast?, ¬isBlank c) : trim (w ++ t ++ w') = t := by
  rw [List.append_assoc, trim, trimStart_append_of_blank hw]
  by_cases ht : t = []
  case pos =>
    rw [ht, List.nil_append, trimStart_eq_nil_iff.mpr hw']
    rfl
  case neg =>
    have hf : ∀ c ∈ (t ++ w').head?, ¬isBlank c := by rwa [List.head?_append_of_ne_nil t ht]
    rw [trimStart_eq_self hf, trimEnd_append_of_blank hw', trimEnd_eq_self last]

end EnvMerge.Text
