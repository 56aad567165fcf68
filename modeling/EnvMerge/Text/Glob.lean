import EnvMerge.Text.Basic

namespace EnvMerge

namespace Glob

-- One sign of a class: a member, or the hyphen that makes a range of its neighbours.
inductive Sign
  | member (c : Char)
  | through
deriving DecidableEq

-- The characters that a class admits.
structure CharClass where
  negated : Bool
  signs : List Sign
deriving DecidableEq

inductive Item
  | anyRun
  | anyChar
  | literal (c : Char)
  | oneOf (set : CharClass)
deriving DecidableEq

-- The pieces of a class body between its range hyphens. A hyphen is one of these only if at least
-- `gap` characters stand before it in its piece; the next one needs two.
def pieces : Nat → Text → List Text
  | _, [] => [[]]
  | gap, c :: body =>
    if c = '-' ∧ gap = 0 then
      [] :: pieces 2 body
    else
      match pieces (gap - 1) body with
      | [] => [[c]]
      | p :: ps => (c :: p) :: ps

-- A hyphen with nothing after it is a member of the last piece.
def closeLast : List Text → List Text
  | [] => []
  | [p] => [p]
  | [p, []] => [p ++ ['-']]
  | p :: ps => p :: closeLast ps

-- Ranges that run backwards hold nothing: their two ends go, and the pieces join.
def dropBackwards : List Text → List Text
  | [] => []
  | p :: ps =>
    match dropBackwards ps with
    | [] => [p]
    | q :: qs =>
      match p.getLast?, q with
      | some last, first :: rest =>
        if first < last then (p.dropLast ++ rest) :: qs else p :: q :: qs
      | _, _ => p :: q :: qs

def signsOf (ps : List Text) : List Sign :=
  [Sign.through].intercalate (ps.map (·.map Sign.member))

-- Reads a class body. An exclamation mark at the front of what is left of it negates the class.
def CharClass.ofBody (body : Text) : CharClass :=
  let gap := if body.head? = some '!' then 2 else 1
  match signsOf (dropBackwards (closeLast (pieces gap body))) with
  | .member '!' :: signs => ⟨true, signs⟩
  | signs => ⟨false, signs⟩

def inSigns (x : Char) : List Sign → Bool
  | .member a :: .through :: .member b :: rest => (a ≤ x && x ≤ b) || inSigns x rest
  | .member a :: rest => x == a || inSigns x rest
  | .through :: rest => x == '-' || inSigns x rest
  | [] => false

def CharClass.admits (k : CharClass) (x : Char) : Bool :=
  inSigns x k.signs != k.negated

-- The body of the class that begins here, just after its bracket, and what follows the class. The
-- first character after the optional exclamation mark belongs to the body even if it is a bracket.
def classBody? : Text → Option (Text × Text)
  | '!' :: c :: t => (Text.cutAt? ']' t).map fun (body, rest) => ('!' :: c :: body, rest)
  | c :: t =>
    if c = '!' then none else (Text.cutAt? ']' t).map fun (body, rest) => (c :: body, rest)
  | [] => none

theorem classBody?_length {t body rest : Text} (h : classBody? t = some (body, rest)) :
    rest.length < t.length := by
  have cut {s l r : Text} (e : Text.cutAt? ']' s = some (l, r)) : r.length < s.length := by
    rw [(Text.cutAt?_eq_some_iff.1 e).1]; simp; omega
  unfold classBody? at h
  split at h
  · obtain ⟨⟨l, r⟩, e, he⟩ := Option.map_eq_some_iff.1 h
    cases he; have := cut e; simp; omega
  · split at h
    · simp at h
    · obtain ⟨⟨l, r⟩, e, he⟩ := Option.map_eq_some_iff.1 h
      cases he; have := cut e; simp; omega
  · simp at h

def items : Text → List Item
  | [] => []
  | '*' :: t => .anyRun :: items t
  | '?' :: t => .anyChar :: items t
  | '[' :: t =>
    match _ : classBody? t with
    | none => .literal '[' :: items t
    | some (body, rest) => .oneOf (.ofBody body) :: items rest
  | c :: t => .literal c :: items t
termination_by t => t.length
decreasing_by
  all_goals simp
  have := classBody?_length ‹_›; omega

def Item.admits (x : Char) : Item → Bool
  | anyRun | anyChar => true
  | literal c => x == c
  | oneOf set => set.admits x

def matchItems : List Item → Text → Bool
  | [], t => t.isEmpty
  | .anyRun :: ps, t => t.suffixes.any (matchItems ps)
  | _ :: _, [] => false
  | p :: ps, c :: t => p.admits c && matchItems ps t

end Glob

-- A star matches any run of characters, a question mark any one character, and a bracketed class
-- one character of a set; every other character matches itself, and so does a bracket that is
-- never closed. No character is special in a name: not the dot, not the line feed.
def Glob.matches (pattern name : Text) : Bool :=
  matchItems (items pattern) name

end EnvMerge
