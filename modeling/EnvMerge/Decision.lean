import EnvMerge.Document

namespace EnvMerge

inductive Decision.Kind
  | fromTemplate
  | fromDestination
  | frozen
  | added
  | raw
deriving DecidableEq

-- Why a piece of output is there, how many lines it has and where they come from.
structure Decision where
  kind : Decision.Kind
  source : Option Side
  lines : Nat
  index : Option Nat
  span : Option Span
deriving DecidableEq

namespace Decision

def Kind.name : Kind → Text
  | fromTemplate    => "template".toList
  | fromDestination => "destination".toList
  | frozen          => "freeze_block".toList
  | added           => "added".toList
  | raw             => "raw".toList

def sourceName (d : Decision) : Text :=
  match d.source with
  | some side => side.name
  | none => "raw".toList

end Decision

-- One piece of output: the lines and all that its decision says beside their number.
structure Contribution where
  kind : Decision.Kind
  source : Option Side
  index : Option Nat
  span : Option Span
  lines : List Text

namespace Contribution

def decision (c : Contribution) : Decision :=
  ⟨c.kind, c.source, c.lines.length, c.index, c.span⟩

def ofStatement (kind : Decision.Kind) (source : Side) (index : Nat) (s : Statement) :
    Contribution :=
  ⟨kind, some source, some index, some s.span, s.rawLines⟩

-- A block of the destination, word for word.
def ofBlock (b : Block) : Contribution :=
  ⟨.frozen, some .destination, none, some b.span, b.rawLines⟩

def ofLines (kind : Decision.Kind) (lines : List Text) : Contribution :=
  ⟨kind, none, none, none, lines⟩

end Contribution

-- The lines that a merge has put out so far, with a record of why each piece was put out.
structure Draft where
  lines : List Text
  decisions : List Decision

namespace Draft

def empty : Draft :=
  ⟨[], []⟩

def add (r : Draft) (c : Contribution) : Draft :=
  ⟨r.lines ++ c.lines, r.decisions ++ [c.decision]⟩

-- Adds the statement with the given number; a number that no statement has adds nothing.
def addStatement (r : Draft) (source : Side) (d : Document) (index : Int)
    (kind : Decision.Kind) : Draft :=
  match d.statement? index with
  | none => r
  | some s => r.add (.ofStatement kind source index.toNat s)

def addTemplate (r : Draft) (template : Document) (index : Int)
    (kind : Decision.Kind) : Draft :=
  r.addStatement .template template index kind

def addDestination (r : Draft) (destination : Document) (index : Int)
    (kind : Decision.Kind) : Draft :=
  r.addStatement .destination destination index kind

def addBlock (r : Draft) (b : Block) : Draft :=
  r.add (.ofBlock b)

def addLines (r : Draft) (lines : List Text) (kind : Decision.Kind) : Draft :=
  r.add (.ofLines kind lines)

-- The lines as a text that ends in exactly one line feed, unless there are no lines.
def text (r : Draft) : Text :=
  if r.lines = [] then []
  else (Text.joinLines r.lines).dropEnd (· == '\n') ++ ['\n']

-- How many decisions and lines there are, and how many decisions of each kind, by first use.
structure Summary where
  decisions : Nat
  lines : Nat
  byKind : List (Decision.Kind × Nat)
deriving DecidableEq

def Summary.count (counts : List (Decision.Kind × Nat)) (kind : Decision.Kind) :
    List (Decision.Kind × Nat) :=
  match counts with
  | [] => [(kind, 1)]
  | (k, n) :: rest => if k = kind then (k, n + 1) :: rest else (k, n) :: count rest kind

def summary (r : Draft) : Summary where
  decisions := r.decisions.length
  lines := r.lines.length
  byKind := (r.decisions.map (·.kind)).foldl Summary.count []

end Draft
end EnvMerge
