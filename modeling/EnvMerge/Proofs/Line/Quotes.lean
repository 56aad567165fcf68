import EnvMerge.Proofs.Line.Comment

namespace EnvMerge.Value

variable {q x : Char} {b t v : Text}

-- A text with a quote on either side.
def between (q : Char) (b : Text) : Text :=
  q :: (b ++ [q])

theorem singleton_ne_between : [x] ≠ between q b := by
  simp [between]

theorem enclosedBy_between : enclosedBy q (between q b) := by
  rw [enclosedBy_eq_true_iff, between]
  exact ⟨rfl, List.getLast?_concat (l := q :: b)⟩

theorem trim_between (h : ¬isBlank q) : (between q b).trim = between q b := by
  have ⟨first, last⟩ := enclosedBy_eq_true_iff.mp (enclosedBy_between (q := q) (b := b))
  apply Text.trim_eq_self
  case first => simpa [first] using h
  case last  => simpa [last] using h

theorem inside_between : inside (between q b) = b := by
  simp [inside, between]

-- One quote is enough to count as both.
theorem ends_iff : t.head? = some q ∧ t.getLast? = some q ↔ t = [q] ∨ ∃ b, t = between q b := by
  constructor
  case mp =>
    intro ⟨first, last⟩
    have ⟨s, hs⟩ := List.head?_eq_some_iff.mp first
    subst hs
    cases List.eq_nil_or_concat' s
    case inl empty => exact .inl (congrArg (q :: ·) empty)
    case inr some =>
      have ⟨b, x, hx⟩ := some
      subst hx
      have same : x = q := Option.some.inj ((List.getLast?_concat (l := q :: b)).symm.trans last)
      exact .inr ⟨b, by rw [same, between]⟩
  case mpr =>
    rintro (lone | ⟨b, pair⟩)
    case inl => exact lone ▸ ⟨rfl, rfl⟩
    case inr => exact pair ▸ enclosedBy_eq_true_iff.mp enclosedBy_between

theorem decode_of_double (h : v.trim = between '"' b) : decode v = decodeEscapes b := by
  simp only [decode, h, enclosedBy_between, if_true, inside_between]

theorem decode_of_single (h : v.trim = between '\'' b) : decode v = b := by
  have other : ¬enclosedBy '"' (between '\'' b) := by simp [enclosedBy, between]
  simp only [decode, h, other, enclosedBy_between, if_true, inside_between, Bool.false_eq_true, if_false]

-- Whether quotes go as a pair, and otherwise nothing goes but a comment.
structure PairsQuotes (v : Text) : Prop where
  double : ∀ b, v.trim = between '"' b → decode v = decodeEscapes b
  single : ∀ b, v.trim = between '\'' b → decode v = b
  bare   : (∀ b, v.trim ≠ between '"' b) → (∀ b, v.trim ≠ between '\'' b) → decode v = dropComment v.trim ∧
    ∃ rest, v.trim = decode v ++ rest ∧ (rest = [] ∨ IsComment rest)

theorem unquoted_of_ne (double : v.trim ≠ ['"']) (single : v.trim ≠ ['\''])
    (noDouble : ∀ b, v.trim ≠ between '"' b) (noSingle : ∀ b, v.trim ≠ between '\'' b) : Unquoted v.trim where
  double := fun h => (ends_iff.mp h).elim double fun ⟨b, hb⟩ => noDouble b hb
  single := fun h => (ends_iff.mp h).elim single fun ⟨b, hb⟩ => noSingle b hb

theorem pairsQuotes_of_ne (double : v.trim ≠ ['"']) (single : v.trim ≠ ['\'']) : PairsQuotes v where
  double := fun _ => decode_of_double
  single := fun _ => decode_of_single
  bare   := by
    intro noDouble noSingle
    have cut := decode_of_unquoted (unquoted_of_ne double single noDouble noSingle)
    rw [cut]
    exact ⟨rfl, (exists_eq_dropComment_append (fun _ => Text.not_isBlank_of_head?_trim)
      fun _ => Text.not_isBlank_of_getLast?_trim).2⟩

-- Of a lone quote nothing is left.
theorem decode_of_lone (hq : q = '"' ∨ q = '\'') (h : v.trim = [q]) : decode v = [] := by
  cases hq
  case inl hq =>
    simp only [decode, h, hq]
    rfl
  case inr hq =>
    simp only [decode, h, hq]
    rfl

theorem not_pairsQuotes_of_lone (hq : q = '"' ∨ q = '\'') (h : v.trim = [q]) : ¬PairsQuotes v := by
  intro pairs
  have ⟨cut, _⟩ := pairs.bare (fun b => h ▸ singleton_ne_between) fun b => h ▸ singleton_ne_between
  rw [decode_of_lone hq h, h, dropComment_of_uncommented (List.isChain_singleton q)] at cut
  exact List.cons_ne_nil q [] cut.symm

-- Quotes go as a pair if and only if the value is more than one quote.
theorem pairsQuotes_iff (v : Text) : PairsQuotes v ↔ v.trim ≠ ['"'] ∧ v.trim ≠ ['\''] := by
  constructor
  case mp =>
    intro pairs
    exact ⟨fun lone => not_pairsQuotes_of_lone (.inl rfl) lone pairs,
      fun lone => not_pairsQuotes_of_lone (.inr rfl) lone pairs⟩
  case mpr => exact fun ⟨double, single⟩ => pairsQuotes_of_ne double single

def loneQuote : Text :=
  ['"']

-- The quote is dropped although it has no partner.
theorem not_pairsQuotes_of_loneQuote : decode loneQuote = [] ∧ ¬PairsQuotes loneQuote := by
  have lone : loneQuote.trim = ['"'] := by decide
  exact ⟨decode_of_lone (.inl rfl) lone, not_pairsQuotes_of_lone (.inl rfl) lone⟩

end EnvMerge.Value
