import EnvMerge.Signature

namespace EnvMerge.Rules

def nothing : Item := .datum .null

def word (t : Text) : Item := .datum (.text t)

def none : Rule := fun _ => .ok nothing

def self : Rule := fun i => .ok i

def constant (d : Plain) : Rule := fun _ => .ok (.datum d)

def refuse (message : Text) : Rule := fun _ => .error (.refused message)

def raw : Rule := fun i => .ok (word i.text)

def kind : Rule := fun i => (word ·.kindName) <$> i.toStatement

-- A rule about assignments that stand free; `other` answers for all else.
def onAssignment (answer : Line → (key value : Text) → Item) (other : Rule) : Rule := fun i =>
  match i with
  | .statement (.line l) =>
    match l.content with
    | .assignment key value => .ok (answer l key value)
    | _ => other i
  | _ => other i

-- Keys that differ in case only are the same.
def lowerKey : Rule :=
  onAssignment (fun _ key _ => .datum (.list [.text "env".toList, .text (Text.lowerAscii key)])) self

def value : Rule :=
  onAssignment (fun _ _ value => .datum (.list [.text "value".toList, .text value])) none

-- Keys with the same first `n` characters are the same.
def keyPrefix (n : Nat) : Rule :=
  onAssignment (fun _ key _ => .datum (.tuple [.text "prefix".toList, .text (key.take n)])) none

def startLine : Rule := fun i =>
  match i with
  | .statement s => .ok (.datum (.whole s.span.first))
  | .datum d => .error (.lacks d.typeName "location".toList)

-- A block is known by its first assignment.
def firstInBlock : Rule := fun i =>
  match i with
  | .statement (.frozen b) => .ok (.statement (b.assignments.head?.elim (.frozen b) .line))
  | _ => .ok i

def exported : Rule :=
  onAssignment (fun l _ _ => word (if l.exported then "exported".toList else "plain".toList)) none

def keySuffix (ending : Text) (tag : Plain) : Rule :=
  onAssignment (fun _ key _ => if ending.isSuffixOf key then .datum tag else nothing) none

def keyContains (part : Text) (tag : Plain) : Rule :=
  onAssignment
    (fun _ key _ => if (Text.suffixes key).any part.isPrefixOf then .datum tag else nothing) none

end EnvMerge.Rules
