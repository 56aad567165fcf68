import EnvMerge.Failure
import EnvMerge.Freeze.Block

namespace EnvMerge

-- What a merge takes over whole: a line that stands free, or a frozen block.
inductive Statement
  | line (l : Line)
  | frozen (b : Block)
deriving DecidableEq

def Content.kindName : Content → Text
  | assignment _ _ => "assignment".toList
  | comment        => "comment".toList
  | blank          => "blank".toList
  | invalid        => "invalid".toList

namespace Statement

def span : Statement → Span
  | line l   => l.span
  | frozen b => b.span

def rawLines : Statement → List Text
  | line l   => [l.raw]
  | frozen b => b.rawLines

def text : Statement → Text
  | line l   => l.raw
  | frozen b => b.text

def line? : Statement → Option Line
  | line l   => some l
  | frozen _ => none

def block? : Statement → Option Block
  | line _   => none
  | frozen b => some b

-- The line of an assignment that stands free.
def assignment? : Statement → Option Line
  | line l   => if l.isAssignment then some l else none
  | frozen _ => none

def kindName : Statement → Text
  | line l   => l.content.kindName
  | frozen _ => "frozen_block".toList

-- An assignment is known by its key and a block by its words; no other statement is matched.
def signature : Statement → Option Plain
  | line l   => l.key?.map fun key => .tuple [.text "env".toList, .text key]
  | frozen b => some (.tuple [.text "FrozenBlock".toList, .text b.text.normalSpace])

end Statement

-- What a caller may hand over or return where a statement is meant: a statement, or other data.
inductive Item
  | statement (s : Statement)
  | datum (d : Plain)

namespace Item

-- Nothing at all counts as null.
def ofStatement? : Option Statement → Item
  | some s => statement s
  | none => datum .null

def toStatement : Item → Except Failure Statement
  | statement s => .ok s
  | datum d => .error (.unsupported d.typeName)

-- The item as text: a text is itself, other data are as messages show them.
def text : Item → Text
  | statement s => s.text
  | datum (.text t) => t
  | datum d => d.quoted

end Item
end EnvMerge
