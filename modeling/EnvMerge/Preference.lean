import EnvMerge.Signature

namespace EnvMerge

namespace Classification

variable {α β : Type}

-- The first tag that a classifier gives to `x` and that `read` makes something of. Classifiers
-- after it are not asked.
def first? (read : Item → Except Failure (Option β)) (x : α) :
    List (α → Except Failure Item) → Except Failure (Option β)
  | [] => .ok none
  | classify :: rest => do
    match ← classify x with
    | .datum .null => first? read x rest
    | tag =>
      match ← read tag with
      | some b => return some b
      | none => first? read x rest

def anyTag (tag : Item) : Except Failure (Option Item) :=
  .ok (some tag)

def oneOf (recognized : List Plain) (tag : Item) : Except Failure (Option Item) :=
  match tag with
  | .statement _ => .ok none
  | .datum d => .ok (if recognized.any (·.key == d.key) then some tag else none)

end Classification

-- The sides of type tags, in the order in which the tags were first named.
abbrev TagSides := List (Text × Side)

namespace TagSides

def defaultTag : Text :=
  "default".toList

def get? (sides : TagSides) (tag : Text) : Option Side :=
  sides.lookup tag

-- Gives a tag its side. A tag named before keeps its place.
def put (sides : TagSides) (tag : Text) (side : Side) : TagSides :=
  match sides with
  | [] => [(tag, side)]
  | (t, s) :: rest => if t = tag then (t, side) :: rest else (t, s) :: put rest tag side

-- The side of a tag that a classifier gave. The default is no tag of its own.
def ofTag? (sides : TagSides) (tag : Item) : Except Failure (Option Side) :=
  match tag with
  | .statement _ => .ok none
  | .datum d =>
    match d.unhashable?, d with
    | some typeName, _ => .error (.unhashable typeName)
    | none, .text t => .ok (if t = defaultTag then none else get? sides t)
    | none, _ => .ok none

end TagSides

-- One side for all pairs, or a side for each type tag that classifiers give to statements.
inductive Preference
  | fixed (side : Side)
  | byTag (sides : TagSides)

namespace Preference

variable {α : Type}

-- The side that wins a pair: that of the template's first tag with a side, else that of the
-- destination's, else the default, else the destination.
def side (p : Preference) (classifiers : List (α → Except Failure Item)) (template destination : α) :
    Except Failure Side :=
  match p with
  | fixed side => .ok side
  | byTag sides => do
    match ← Classification.first? sides.ofTag? template classifiers with
    | some side => return side
    | none =>
      match ← Classification.first? sides.ofTag? destination classifiers with
      | some side => return side
      | none => return (sides.get? TagSides.defaultTag).getD .destination

end Preference
end EnvMerge
