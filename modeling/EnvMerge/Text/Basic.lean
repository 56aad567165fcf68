namespace EnvMerge

abbrev Text := List Char

namespace Text

-- What follows `start` in a text that begins with it.
def after? : (t start : Text) → Option Text
  | t, [] => some t
  | [], _ :: _ => none
  | c :: t, p :: start => if c = p then after? t start else none

theorem after?_eq_some_iff {t start rest : Text} :
    t.after? start = some rest ↔ t = start ++ rest := by
  induction start generalizing t with
  | nil => simp [after?, eq_comm]
  | cons p start ih =>
    cases t with
    | nil => simp [after?]
    | cons c t =>
      by_cases h : c = p
      · simp [after?, h, ih]
      · simp [after?, h]

-- The parts before and after the first `c`.
def cutAt? (c : Char) : Text → Option (Text × Text)
  | [] => none
  | x :: t => if x = c then some ([], t) else (cutAt? c t).map fun (l, r) => (x :: l, r)

theorem cutAt?_eq_some_iff {c : Char} {t l r : Text} :
    cutAt? c t = some (l, r) ↔ t = l ++ c :: r ∧ c ∉ l := by
  induction t generalizing l with
  | nil => simp [cutAt?]
  | cons x t ih =>
    by_cases h : x = c
    · subst h
      cases l with
      | nil => simp [cutAt?, eq_comm]
      | cons y l => simp [cutAt?]; rintro rfl; simp
    · cases l with
      | nil => simp [cutAt?, h]
      | cons y l =>
        simp only [cutAt?, h, if_false, Option.map_eq_some_iff, Prod.mk.injEq, List.cons.injEq,
          Prod.exists, List.cons_append, List.mem_cons, not_or]
        constructor
        · rintro ⟨a, b, hab, ⟨rfl, rfl⟩, rfl⟩
          exact ⟨⟨rfl, (ih.1 hab).1⟩, fun e => h e.symm, (ih.1 hab).2⟩
        · rintro ⟨⟨rfl, e⟩, _, n⟩
          exact ⟨l, r, ih.2 ⟨e, n⟩, ⟨rfl, rfl⟩, rfl⟩

-- All that is left of a text after some characters of its front are taken off, the whole first.
def suffixes : Text → List Text
  | [] => [[]]
  | c :: t => (c :: t) :: suffixes t

-- Every place where the pair `a b` stands, read from the left without overlap, becomes `c`.
def replacePair (a b c : Char) : Text → Text
  | x :: y :: t =>
    if x = a ∧ y = b then c :: replacePair a b c t else x :: replacePair a b c (y :: t)
  | t => t

def joinLines (lines : List Text) : Text :=
  ['\n'].intercalate lines

def commaSeparated (items : List Text) : Text :=
  [',', ' '].intercalate items

-- The text without the longest run of characters satisfying `p` at its end.
def dropEnd (p : Char → Bool) (t : Text) : Text :=
  (t.reverse.dropWhile p).reverse

def ofNat (n : Nat) : Text :=
  Nat.toDigits 10 n

def ofInt : Int → Text
  | .ofNat n => ofNat n
  | .negSucc n => '-' :: ofNat (n + 1)

-- Upper case letters of the ASCII range become lower case; all else stays.
def lowerAscii (t : Text) : Text :=
  t.map Char.toLower

-- Texts are ordered character by character, by code point; a shorter text comes before those that
-- it begins.
def le : Text → Text → Bool
  | [], _ => true
  | _ :: _, [] => false
  | c :: s, d :: t => c.toNat < d.toNat || (c == d && le s t)

end Text
end EnvMerge
