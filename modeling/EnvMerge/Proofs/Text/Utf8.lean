import EnvMerge.Text.Utf8
import Mathlib.Data.UInt

namespace EnvMerge.Utf8

variable {p : Nat} {x y : Bytes} {s t : Text} {c : Char}

-- The well-formed sequences of bytes, each with the character that it stands for.
inductive Sequence : Bytes → Char → Prop
  | one {a : UInt8} (ascii : a < 0x80) : Sequence [a] (Char.ofNat a.toNat)
  | two {a b : UInt8} (least : 0xC2 ≤ a) (below : a < 0xE0) (second : isSecond a b) :
      Sequence [a, b] (charOf (a.toNat % 0x20) [b])
  | three {a b c : UInt8} (least : 0xE0 ≤ a) (below : a < 0xF0) (second : isSecond a b)
      (third : isContinuation c) : Sequence [a, b, c] (charOf (a.toNat % 0x10) [b, c])
  | four {a b c d : UInt8} (least : 0xF0 ≤ a) (most : a ≤ 0xF4) (second : isSecond a b)
      (third : isContinuation c) (fourth : isContinuation d) :
      Sequence [a, b, c, d] (charOf (a.toNat % 0x8) [b, c, d])

-- The text that bytes spell.
inductive Spells : Bytes → Text → Prop
  | nil : Spells [] []
  | cons {x y : Bytes} {c : Char} {t : Text} (first : Sequence x c) (rest : Spells y t) :
      Spells (x ++ y) (c :: t)

theorem map_eq_ok_iff {f : Text → Text} {e : Except Fault Text} :
    f <$> e = .ok t ↔ ∃ s, e = .ok s ∧ f s = t := by
  cases e <;> simp [Functor.map, Except.map]

theorem spells_of_decodeFrom (h : decodeFrom p x = .ok t) : Spells x t := by
  fun_induction decodeFrom p x generalizing t
  case case1 =>
    cases h
    exact .nil
  case case2 a rest ascii ih =>
    have ⟨s, hs, he⟩ := map_eq_ok_iff.mp h
    exact he ▸ .cons (.one ascii) (ih hs)
  case case6 a high lead b rest second below ih =>
    have ⟨s, hs, he⟩ := map_eq_ok_iff.mp h
    simp only [Bool.or_eq_true, decide_eq_true_eq, not_or, UInt8.not_lt] at lead
    simp only [Bool.not_eq_true, Bool.not_eq_false'] at second
    exact he ▸ .cons (x := [a, b]) (.two lead.1 below second) (ih hs)
  case case9 a high lead b second least c rest third below ih =>
    have ⟨s, hs, he⟩ := map_eq_ok_iff.mp h
    simp only [Bool.not_eq_true, Bool.not_eq_false'] at second third
    exact he ▸ .cons (x := [a, b, c]) (.three (UInt8.not_lt.mp least) below second third) (ih hs)
  case case12 a high lead b second _ c third least d rest fourth ih =>
    have ⟨s, hs, he⟩ := map_eq_ok_iff.mp h
    simp only [Bool.or_eq_true, decide_eq_true_eq, not_or, UInt8.not_lt] at lead
    simp only [Bool.not_eq_true, Bool.not_eq_false'] at second third fourth
    exact he ▸ .cons (x := [a, b, c, d]) (.four (UInt8.not_lt.mp least) lead.2 second third fourth) (ih hs)
  all_goals cases h

theorem decodeFrom_append (h : Sequence x c) :
    decodeFrom p (x ++ y) = (c :: ·) <$> decodeFrom (p + x.length) y := by
  cases h
  case one a ascii =>
    rw [List.cons_append, decodeFrom.eq_def p]
    exact if_pos ascii
  case two a b least below second =>
    have high : ¬a < 0x80 := by grind
    have lead : ¬(a < 0xC2 || 0xF4 < a) := by grind
    rw [List.cons_append, decodeFrom.eq_def p]
    simp only [if_neg high, if_neg lead]
    simp [second, below]
  case three a b c least below second third =>
    have high : ¬a < 0x80 := by grind
    have lead : ¬(a < 0xC2 || 0xF4 < a) := by grind
    rw [List.cons_append, decodeFrom.eq_def p]
    simp only [if_neg high, if_neg lead]
    simp [second, third, below, UInt8.not_lt.mpr least]
  case four a b c d least most second third fourth =>
    have high : ¬a < 0x80 := by grind
    have lead : ¬(a < 0xC2 || 0xF4 < a) := by grind
    have long : ¬a < 0xE0 := by grind
    rw [List.cons_append, decodeFrom.eq_def p]
    simp only [if_neg high, if_neg lead]
    simp [second, third, fourth, long, UInt8.not_lt.mpr least]

theorem decodeFrom_eq_ok_iff : decodeFrom p x = .ok t ↔ Spells x t := by
  constructor
  case mp  => exact spells_of_decodeFrom
  case mpr =>
    intro h
    induction h generalizing p
    case nil => rw [decodeFrom]
    case cons x y c t first rest ih =>
      rw [decodeFrom_append first, ih]
      rfl

theorem Spells.append (h : Spells x s) (h' : Spells y t) : Spells (x ++ y) (s ++ t) := by
  induction h
  case nil => exact h'
  case cons first _ ih =>
    rw [List.append_assoc]
    exact .cons first ih

theorem isContinuation_of_isSecond {a b : UInt8} (h : isSecond a b) : isContinuation b := by
  simp only [isSecond, Bool.and_eq_true] at h
  exact h.1.1.1.1

-- A line feed is spelled by the byte of its own, which is part of no other sequence.
theorem Sequence.eq_feed (h : Sequence x c) (last : x.getLast? = some 0x0A) : c = '\n' := by
  have apart : ¬isContinuation 0x0A := by decide
  cases h
  case one ascii =>
    cases last
    rfl
  case two second =>
    cases last
    exact absurd (isContinuation_of_isSecond second) apart
  case three third =>
    cases last
    exact absurd third apart
  case four fourth =>
    cases last
    exact absurd fourth apart

theorem Sequence.ne_nil (h : Sequence x c) : x ≠ [] := by
  cases h <;> exact List.cons_ne_nil _ _

theorem Spells.getLast?_eq_feed (h : Spells x t) (last : x.getLast? = some 0x0A) :
    t.getLast? = some '\n' := by
  induction h
  case nil => cases last
  case cons x y c t first rest ih =>
    cases rest
    case nil =>
      rw [List.append_nil] at last
      rw [first.eq_feed last]
      rfl
    case cons y z c' t first' rest =>
      have some : y ++ z ≠ [] := List.append_ne_nil_of_left_ne_nil first'.ne_nil z
      rw [List.getLast?_append_of_ne_nil _ some] at last
      exact ih last

end EnvMerge.Utf8
