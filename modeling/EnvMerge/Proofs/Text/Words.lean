import EnvMerge.Proofs.Text.Trim
import Mathlib.Data.List.Chain

namespace EnvMerge.Text

variable {c d : Char} {s t w w' : Text}

-- The words of a text, in order.
def words (t : Text) : List Text :=
  (t.splitOnP isBlank).filter (· ≠ [])

-- A text where nothing but single spaces stands between words, and nothing around them.
structure SinglySpaced (t : Text) : Prop where
  first  : ∀ c ∈ t.head?, ¬isBlank c
  last   : ∀ c ∈ t.getLast?, ¬isBlank c
  single : t.IsChain fun c d => ¬(isBlank c ∧ isBlank d)
  space  : ∀ c ∈ t, isBlank c → c = ' '

section Words

theorem words_append_cons (h : isBlank c) (s t : Text) : words (s ++ c :: t) = s.words ++ t.words := by
  rw [words, List.splitOnP_append_cons s t h, List.filter_append, words, words]

theorem words_cons_of_isBlank (h : isBlank c) (t : Text) : words (c :: t) = t.words :=
  words_append_cons h [] t

theorem words_append_of_blank (h : w.Blank) : words (w ++ t) = t.words := by
  induction w
  case nil         => rfl
  case cons c w ih =>
    have ⟨hc, hw⟩ := List.forall_mem_cons.mp h
    rw [List.cons_append, words_cons_of_isBlank hc, ih hw]

theorem words_append_blank (h : w.Blank) : words (t ++ w) = t.words := by
  cases w
  case nil      => rw [List.append_nil]
  case cons c w =>
    have ⟨hc, hw⟩ := List.forall_mem_cons.mp h
    rw [words_append_cons hc, ← List.append_nil w, words_append_of_blank hw]
    exact List.append_nil _

theorem words_trim (t : Text) : t.trim.words = t.words := by
  have ⟨w, w', hw, hw', ht⟩ := exists_blank_append_trim t
  calc t.trim.words
    _ = (w ++ t.trim).words       := (words_append_of_blank hw).symm
    _ = (w ++ t.trim ++ w').words := (words_append_blank hw').symm
    _ = t.words                   := by rw [← ht]

-- Whatever stands before, squeezing does not change the words. The induction needs what stands before,
-- since a word may have begun there.
theorem words_append_squeeze (s t : Text) : words (s ++ t.squeeze) = words (s ++ t) := by
  have space : isBlank ' ' := by decide
  fun_induction squeeze t generalizing s
  case case1           => rfl
  case case2 c hc      => rw [words_append_cons space, words_append_cons hc]
  case case3 c hc d t hd ih =>
    rw [ih, words_append_cons hd, words_append_cons hc, words_cons_of_isBlank hd]
  case case4 c hc d t _ ih =>
    have onward := ih []
    simp only [List.nil_append] at onward
    rw [words_append_cons space, words_append_cons hc, onward]
  case case5 c t _ ih  => simpa using ih (s ++ [c])

theorem words_normalSpace (t : Text) : t.normalSpace.words = t.words := by
  rw [normalSpace, words_trim]
  exact words_append_squeeze [] t

theorem words_singleton (h : ¬isBlank c) : words [c] = [[c]] := by
  rw [words, List.splitOnP_eq_singleton (by simpa using h)]
  rfl

-- A character in front of a word makes it longer.
theorem exists_words_cons (hc : ¬isBlank c) (hd : ¬isBlank d) (t : Text) :
    ∃ word rest, words (d :: t) = word :: rest ∧ words (c :: d :: t) = (c :: word) :: rest := by
  have ⟨word, rest, ht⟩ := List.exists_cons_of_ne_nil (List.splitOnP_ne_nil isBlank t)
  refine ⟨d :: word, rest.filter (· ≠ []), ?_, ?_⟩
  all_goals simp [words, List.splitOnP_cons_eq_if_modifyHead, hc, hd, ht]

end Words

namespace SinglySpaced

theorem tail (h : SinglySpaced (c :: d :: t)) (hd : ¬isBlank d) : SinglySpaced (d :: t) where
  first  := by simpa using hd
  last   := by simpa using h.last
  single := (List.isChain_cons_cons.mp h.single).2
  space  := fun x hx => h.space x (List.mem_cons_of_mem _ hx)

-- Such a text is its words, one space apart.
theorem intercalate_words : {t : Text} → SinglySpaced t → [' '].intercalate t.words = t
  | [], _ => rfl
  | [c], h => by
    rw [words_singleton (h.first c rfl)]
    rfl
  | c :: d :: t, h => by
    have hc := h.first c rfl
    by_cases hd : isBlank d
    case neg =>
      have ⟨word, rest, ht, hct⟩ := exists_words_cons hc hd t
      have onward := intercalate_words (h.tail hd)
      rw [ht] at onward
      rw [hct, ← onward]
      cases rest <;> simp [List.intercalate_cons_cons]
    case pos =>
      cases t
      case nil      => exact absurd hd (h.last d (by simp))
      case cons e t =>
        have chain := List.isChain_cons_cons.mp (List.isChain_cons_cons.mp h.single).2
        have he : ¬isBlank e := fun he => chain.1 ⟨hd, he⟩
        have rest : SinglySpaced (e :: t) :=
          ⟨by simpa using he, by simpa using h.last, chain.2, fun x hx => h.space x (by simp [hx])⟩
        have onward := intercalate_words rest
        have split : words (c :: d :: e :: t) = [c] :: words (e :: t) := by
          have cut := words_append_cons hd [c] (e :: t)
          rwa [words_singleton hc] at cut
        have some_ : words (e :: t) ≠ [] := by
          intro none_
          rw [none_] at onward
          simp at onward
        obtain ⟨word, more, hw⟩ := List.exists_cons_of_ne_nil some_
        rw [hw] at onward split
        rw [split, List.intercalate_cons_cons, onward, h.space d (by simp) hd]
        rfl

end SinglySpaced

theorem space_of_mem_squeeze (h : c ∈ t.squeeze) (hc : isBlank c) : c = ' ' := by
  fun_induction squeeze t
  case case1           => cases h
  case case2           => exact List.mem_singleton.mp h
  case case3 ih        => exact ih h
  case case4 ih        => exact (List.mem_cons.mp h).elim id ih
  case case5 d t hd ih => exact (List.mem_cons.mp h).elim (fun he => absurd hc (he ▸ hd)) ih

theorem squeeze_cons (h : ¬isBlank c) (t : Text) : squeeze (c :: t) = c :: t.squeeze := by
  cases t <;> simp [squeeze, h]

-- No two blanks are left side by side.
theorem isChain_squeeze (t : Text) : t.squeeze.IsChain fun c d => ¬(isBlank c ∧ isBlank d) := by
  fun_induction squeeze t
  case case1           => exact .nil
  case case2           => exact .singleton _
  case case3 ih        => exact ih
  case case4 c _ d t hd ih =>
    rw [squeeze_cons hd] at ih ⊢
    exact List.isChain_cons_cons.mpr ⟨fun h => hd h.2, ih⟩
  case case5 c t hc ih => exact List.isChain_cons.mpr ⟨fun _ _ h => hc h.1, ih⟩

theorem singlySpaced_normalSpace (t : Text) : t.normalSpace.SinglySpaced := by
  have ⟨w, w', _, _, ht⟩ := exists_blank_append_trim t.squeeze
  have inner : t.normalSpace <:+: t.squeeze := ⟨w, w', ht.symm⟩
  exact {
    first _ := not_isBlank_of_head?_trim
    last _  := not_isBlank_of_getLast?_trim
    single  := List.IsChain.infix (isChain_squeeze t) inner
    space _ := fun hc => space_of_mem_squeeze (inner.subset hc) }

theorem normalSpace_eq_iff : s.normalSpace = t.normalSpace ↔ s.words = t.words := by
  constructor
  case mp  => exact fun h => by rw [← words_normalSpace, h, words_normalSpace]
  case mpr =>
    intro h
    rw [← (singlySpaced_normalSpace s).intercalate_words, ← (singlySpaced_normalSpace t).intercalate_words,
      words_normalSpace, words_normalSpace, h]

end EnvMerge.Text
