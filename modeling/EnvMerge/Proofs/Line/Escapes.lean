import EnvMerge.Line.Value
import Mathlib.Algebra.Group.Nat.Even
import Mathlib.Data.Nat.Init

namespace EnvMerge

namespace Text

variable {a b c x : Char} {t : Text} {n : Nat}

theorem replacePair_cons_of_ne (h : x ≠ a) :
    replacePair a b c (x :: t) = x :: replacePair a b c t := by
  cases t <;> simp [replacePair, h]

-- Of a run of `a`, only the last one can be half of a pair `a b`.
theorem replacePair_replicate_append (hb : b ≠ a) (ht : t.head? ≠ some a) :
    replacePair a b c (List.replicate n a ++ t)
      = if t.head? = some b ∧ n ≠ 0 then List.replicate (n - 1) a ++ c :: replacePair a b c t.tail
        else List.replicate n a ++ replacePair a b c t := by
  induction n
  case zero => simp
  case succ n ih =>
    cases n
    case zero =>
      cases t
      case nil => simp [replacePair]
      case cons x t => by_cases hx : x = b <;> simp [replacePair, hx]
    case succ n =>
      have step : replacePair a b c (List.replicate (n + 2) a ++ t)
          = a :: replacePair a b c (List.replicate (n + 1) a ++ t) := by
        simp [List.replicate_succ, replacePair, hb.symm]
      rw [step, ih]
      by_cases hx : t.head? = some b <;> simp [hx, List.replicate_succ]

-- A run of `a` is halved where two of them become one. A last one without a partner stays.
theorem replacePair_self (ht : t.head? ≠ some a) :
    replacePair a a a (List.replicate n a ++ t)
      = List.replicate ((n + 1) / 2) a ++ replacePair a a a t := by
  induction n using Nat.twoStepInduction
  case zero => rfl
  case one =>
    cases t
    case nil => rfl
    case cons x t =>
      have hx : x ≠ a := by simpa using ht
      simp [replacePair, hx]
  case more n ih _ =>
    have half : (n + 2 + 1) / 2 = (n + 1) / 2 + 1 := by omega
    simp [List.replicate_succ, replacePair, half, ih]

end Text

namespace Value

variable {x y : Char} {t u : Text} {n m : Nat}

-- What a character stands for behind a backslash, if the two are an escape.
def escaped? : Char → Option Char
  | 'n'  => some '\n'
  | 't'  => some '\t'
  | 'r'  => some '\r'
  | '"'  => some '"'
  | '\\' => some '\\'
  | _    => none

-- Reads escapes from the left, each character once. All that is no escape is copied.
def decodeOnce : Text → Text
  | x :: y :: t =>
    match if x = '\\' then escaped? y else none with
    | some c => c :: decodeOnce t
    | none   => x :: decodeOnce (y :: t)
  | t => t

def backslashes (n : Nat) : Text :=
  List.replicate n '\\'

-- The letters that stand for another character behind a backslash.
def letters : List Char :=
  ['n', 't', 'r']

-- What a character is read as behind a backslash.
def meant (x : Char) : Char :=
  (escaped? x).getD x

-- How many of `n` backslashes come out in front of `x`. One is used up if it makes `x` an escape.
def remaining (n : Nat) (x : Char) : Nat :=
  if (escaped? x).isSome then n / 2 else (n + 1) / 2

theorem meant_ne_iff (hx : x ≠ '\\') : meant x ≠ x ↔ x ∈ letters := by
  unfold meant escaped? letters
  split <;> simp_all

theorem meant_not_mem (hx : x ≠ '\\') : meant x ∉ letters ∧ meant x ≠ '\\' := by
  unfold meant escaped? letters
  split <;> simp_all

-- A text is runs of backslashes, each with another character behind it, and a last run. The two readings
-- are compared run by run.
@[elab_as_elim]
theorem runInduction {P : Text → Prop} (ended : ∀ n, P (backslashes n))
    (piece : ∀ n x t, x ≠ '\\' → P t → P (backslashes n ++ x :: t)) (t : Text) : P t := by
  -- the run that has been read so far stands in front
  have behind (t : Text) : ∀ n, P (backslashes n ++ t) := by
    induction t
    case nil => simpa using ended
    case cons x t ih =>
      intro n
      by_cases hx : x = '\\'
      case pos =>
        subst hx
        have longer := ih (n + 1)
        rwa [backslashes, List.replicate_succ', List.append_assoc] at longer
      case neg => exact piece n x t hx (ih 0)
  exact behind t 0

theorem backslashes_append_inj (hx : x ≠ '\\') (hy : y ≠ '\\')
    (h : backslashes n ++ x :: t = backslashes m ++ y :: u) : n = m ∧ x = y ∧ t = u := by
  induction n generalizing m
  case zero =>
    cases m
    case zero => simpa [backslashes] using h
    case succ => simp [backslashes, List.replicate_succ, hx] at h
  case succ n ih =>
    cases m
    case zero   => simp [backslashes, List.replicate_succ, hy.symm] at h
    case succ m =>
      have ⟨hn, hr⟩ := ih (List.cons.inj h).2
      exact ⟨congrArg (· + 1) hn, hr⟩

section Passes

variable {b c : Char}

theorem replacePair_backslashes (hb : b ≠ '\\') :
    Text.replacePair '\\' b c (backslashes n) = backslashes n := by
  simpa [Text.replacePair, backslashes]
    using Text.replacePair_replicate_append (t := []) (c := c) hb (by simp)

theorem replacePair_backslashes_append (hb : b ≠ '\\') (hx : x ≠ '\\') :
    Text.replacePair '\\' b c (backslashes n ++ x :: t)
      = if x = b ∧ n ≠ 0 then backslashes (n - 1) ++ c :: Text.replacePair '\\' b c t
        else backslashes n ++ x :: Text.replacePair '\\' b c t := by
  have behind : (x :: t).head? ≠ some '\\' := by simpa using hx
  simp [backslashes, Text.replacePair_replicate_append hb behind, Text.replacePair_cons_of_ne hx]

theorem replacePair_self_backslashes_append (hx : x ≠ '\\') :
    Text.replacePair '\\' '\\' '\\' (backslashes n ++ x :: t)
      = backslashes ((n + 1) / 2) ++ x :: Text.replacePair '\\' '\\' '\\' t := by
  have behind : (x :: t).head? ≠ some '\\' := by simpa using hx
  simp [backslashes, Text.replacePair_self behind, Text.replacePair_cons_of_ne hx]

end Passes

theorem decodeEscapes_backslashes : decodeEscapes (backslashes n) = backslashes ((n + 1) / 2) := by
  have halved := Text.replacePair_self (a := '\\') (t := []) (n := n) (by simp)
  rw [decodeEscapes, replacePair_backslashes (by decide), replacePair_backslashes (by decide),
    replacePair_backslashes (by decide), replacePair_backslashes (by decide)]
  simpa [Text.replacePair, backslashes] using halved

-- The passes read an escape wherever there is a backslash in front.
theorem decodeEscapes_append (hx : x ≠ '\\') :
    decodeEscapes (backslashes n ++ x :: t)
      = backslashes (remaining n x) ++ (if n = 0 then x else meant x) :: decodeEscapes t := by
  by_cases hn : n = 0
  case pos => simp [decodeEscapes, Text.replacePair_cons_of_ne hx, hn, remaining, backslashes]
  case neg =>
    have half : (n - 1 + 1) / 2 = n / 2 := by rw [Nat.sub_add_cancel (Nat.pos_of_ne_zero hn)]
    unfold remaining meant escaped?
    split <;> simp_all [decodeEscapes, replacePair_backslashes_append,
      replacePair_self_backslashes_append]

theorem decodeOnce_cons (hx : x ≠ '\\') : decodeOnce (x :: t) = x :: decodeOnce t := by
  cases t <;> simp [decodeOnce, hx]

theorem decodeOnce_pair : decodeOnce (backslashes (n + 2) ++ t) = '\\' :: decodeOnce (backslashes n ++ t) := by
  simp [backslashes, List.replicate_succ, decodeOnce, escaped?]

theorem decodeOnce_backslashes : decodeOnce (backslashes n) = backslashes ((n + 1) / 2) := by
  induction n using Nat.twoStepInduction
  case zero => rfl
  case one  => rfl
  case more n ih _ =>
    have half : (n + 2 + 1) / 2 = (n + 1) / 2 + 1 := by omega
    have pair := decodeOnce_pair (n := n) (t := [])
    rw [List.append_nil, List.append_nil] at pair
    rw [pair, ih, half]
    rfl

-- Reading once, backslashes pair up, and only one that is left over begins an escape.
theorem decodeOnce_append (hx : x ≠ '\\') :
    decodeOnce (backslashes n ++ x :: t)
      = backslashes (remaining n x) ++ (if Even n then x else meant x) :: decodeOnce t := by
  induction n using Nat.twoStepInduction
  case zero => simp [backslashes, remaining, decodeOnce_cons hx]
  case one =>
    cases he : escaped? x <;>
      simp [backslashes, remaining, meant, decodeOnce, he, decodeOnce_cons hx]
  case more n ih _ =>
    have step : remaining (n + 2) x = remaining n x + 1 := by
      unfold remaining
      split <;> omega
    have parity : Even (n + 2) ↔ Even n := Nat.even_add.trans (iff_true_right (by decide))
    rw [decodeOnce_pair, ih, step]
    simp only [parity]
    rfl

-- Whether a run of backslashes, whole and of even length, but not of none, stands right before one
-- of the letters.
def Ambiguous (t : Text) : Prop :=
  ∃ before n x behind, t = before ++ (backslashes n ++ x :: behind) ∧
    before.getLast? ≠ some '\\' ∧ n ≠ 0 ∧ Even n ∧ x ∈ letters

theorem not_ambiguous_backslashes : ¬Ambiguous (backslashes n) := by
  intro ⟨before, m, x, behind, h, _, _, _, hx⟩
  have mem : x ∈ backslashes n := by simp [h]
  rw [List.eq_of_mem_replicate mem] at hx
  simp [letters] at hx

theorem ambiguous_append_iff (hx : x ≠ '\\') :
    Ambiguous (backslashes n ++ x :: t) ↔ (n ≠ 0 ∧ Even n ∧ x ∈ letters) ∨ Ambiguous t := by
  constructor
  case mp =>
    intro ⟨before, m, y, behind, h, whole, found⟩
    have hy : y ≠ '\\' := by
      rintro rfl
      simp [letters] at found
    -- the run is the first one, or it stands behind the first piece
    cases before using runInduction
    case ended k =>
      have hk : k = 0 := by
        by_contra hk
        simp [backslashes, List.getLast?_replicate, hk] at whole
      have same : backslashes n ++ x :: t = backslashes m ++ y :: behind := by
        simpa [hk, backslashes] using h
      have ⟨hn, he, _⟩ := backslashes_append_inj hx hy same
      exact .inl (hn ▸ he ▸ found)
    case piece k z before hz _ =>
      rw [List.append_assoc, List.cons_append] at h
      have ⟨_, _, ht⟩ := backslashes_append_inj hx hz h
      refine .inr ⟨before, m, y, behind, ht, ?_, found⟩
      intro hl
      simp [List.getLast?_append, List.getLast?_cons, hl] at whole
  case mpr =>
    intro h
    cases h
    case inl h => exact ⟨[], n, x, t, rfl, by simp, h⟩
    case inr h =>
      have ⟨before, m, y, behind, he, whole, found⟩ := h
      refine ⟨backslashes n ++ x :: before, m, y, behind, by simp [he], ?_, found⟩
      cases before <;> simp_all

-- Replacing the escapes kind after kind is reading them once, if and only if the text has no run of
-- backslashes that pair up in front of a letter.
theorem decodeEscapes_eq_decodeOnce_iff (t : Text) :
    decodeEscapes t = decodeOnce t ↔ ¬Ambiguous t := by
  induction t using runInduction
  case ended n =>
    rw [decodeEscapes_backslashes, decodeOnce_backslashes]
    exact iff_of_true rfl not_ambiguous_backslashes
  case piece n x t hx ih =>
    have agree : (if n = 0 then x else meant x) = (if Even n then x else meant x) ↔
        ¬(n ≠ 0 ∧ Even n ∧ x ∈ letters) := by
      rw [← meant_ne_iff hx]
      by_cases hn : n = 0
      case pos => simp [hn]
      case neg => by_cases he : Even n <;> simp [hn, he]
    rw [decodeEscapes_append hx, decodeOnce_append hx, List.append_cancel_left_eq, List.cons.injEq,
      agree, ih, ambiguous_append_iff hx, not_or]

example : decodeEscapes ['\\', '\\', 'n'] = ['\\', '\n'] ∧ decodeOnce ['\\', '\\', 'n'] = ['\\', 'n'] := by
  decide

end Value
end EnvMerge
