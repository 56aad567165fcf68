import EnvMerge.Text.Basic

namespace EnvMerge

-- A root and the names below it. There are no empty names and no single dots; double dots stay,
-- since what they mean depends on the links before them.
structure Path where
  root : Text
  names : List Text
deriving DecidableEq

namespace Path

-- Exactly two slashes at the front are a root of their own; any other number counts as one.
def rootOf (t : Text) : Text :=
  match (t.takeWhile (· == '/')).length with
  | 0 => []
  | 2 => ['/', '/']
  | _ => ['/']

def namesOf (t : Text) : List Text :=
  (t.splitOn '/').filter fun name => name != [] && name != ['.']

def ofText (t : Text) : Path :=
  ⟨rootOf t, namesOf t⟩

def relative (names : List Text) : Path :=
  ⟨[], names⟩

-- The names as they are written. The path with no parts is written as a dot.
def shownNames (p : Path) : List Text :=
  if p.root = [] ∧ p.names = [] then [['.']] else p.names

def toText (p : Path) : Text :=
  p.root ++ ['/'].intercalate p.shownNames

def isAbsolute (p : Path) : Bool :=
  p.root != []

-- The path `q` seen from `p`.
def join (p q : Path) : Path :=
  if q.isAbsolute then q else ⟨p.root, p.names ++ q.names⟩

-- The path without its last part. A path that has none is its own parent.
def parent (p : Path) : Path :=
  ⟨p.root, p.names.dropLast⟩

def name (p : Path) : Text :=
  p.names.getLastD []

def hasNull (p : Path) : Bool :=
  p.names.any (·.contains '\x00')

-- What is below a path, which stays as it is written: below the path with no parts, it has the dot
-- in front.
def under (p : Path) (names : List Text) : Path :=
  ⟨p.root, p.shownNames ++ names⟩

-- The place of a file in the folder that it is copied into.
def entryFor (folder file : Path) : Path :=
  folder.under [file.shownNames.getLastD []]

-- A name that leads from a folder to something in it.
structure Plain (name : Text) : Prop where
  some      : name ≠ []
  ne_dot    : name ≠ ['.']
  ne_dots   : name ≠ ['.', '.']
  slashless : '/' ∉ name

instance (name : Text) : Decidable (Plain name) :=
  decidable_of_iff (name ≠ [] ∧ name ≠ ['.'] ∧ name ≠ ['.', '.'] ∧ '/' ∉ name)
    ⟨fun ⟨h₁, h₂, h₃, h₄⟩ => ⟨h₁, h₂, h₃, h₄⟩, fun ⟨h₁, h₂, h₃, h₄⟩ => ⟨h₁, h₂, h₃, h₄⟩⟩

end Path
end EnvMerge
