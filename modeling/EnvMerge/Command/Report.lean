import EnvMerge.Files.Merge

namespace EnvMerge.Command

namespace Report

inductive Value
  | null
  | number (n : Int)
  | text (t : Text)
  | array (items : List Value)
  | object (fields : List (Text × Value))

def escapedUnit (n : Nat) : Text :=
  '\\' :: 'u' :: Text.hex 4 n

-- One character inside a JSON string. Past U+FFFF it is a pair of units.
def escapedChar (c : Char) : Text :=
  let n := c.toNat
  if c = '"' ∨ c = '\\' then ['\\', c]
  else if c = '\n' then ['\\', 'n']
  else if c = '\r' then ['\\', 'r']
  else if c = '\t' then ['\\', 't']
  else if n = 8 then ['\\', 'b']
  else if n = 12 then ['\\', 'f']
  else if 32 ≤ n ∧ n < 127 then [c]
  else if n < 0x10000 then escapedUnit n
  else escapedUnit (0xD800 + (n - 0x10000) / 0x400) ++ escapedUnit (0xDC00 + (n - 0x10000) % 0x400)

def escaped (t : Text) : Text :=
  '"' :: t.flatMap escapedChar ++ ['"']

def lineBreak (depth : Nat) : Text :=
  '\n' :: List.replicate (2 * depth) ' '

-- A group with each member on a line of its own, unless there is none.
def group (left right : Char) (depth : Nat) (members : List Text) : Text :=
  if members = [] then [left, right]
  else
    left :: lineBreak (depth + 1) ++ (',' :: lineBreak (depth + 1)).intercalate members
      ++ lineBreak depth ++ [right]

mutual

def Value.write (depth : Nat) : Value → Text
  | .null => "null".toList
  | .number n => Text.ofInt n
  | .text t => escaped t
  | .array items => group '[' ']' depth (writeItems (depth + 1) items)
  | .object fields => group '\x7b' '\x7d' depth (writeFields (depth + 1) fields)

def writeItems (depth : Nat) : List Value → List Text
  | [] => []
  | v :: vs => v.write depth :: writeItems depth vs

def writeFields (depth : Nat) : List (Text × Value) → List Text
  | [] => []
  | (name, v) :: vs => (escaped name ++ ':' :: ' ' :: v.write depth) :: writeFields depth vs

end

def object (fields : List (String × Value)) : Value :=
  .object (fields.map fun (name, v) => (name.toList, v))

def ofNat (n : Nat) : Value := .number n

def ofInt? (n : Option Int) : Value := n.elim .null .number

def ofSummary (s : Draft.Summary) : Value :=
  object
    [("total_decisions", ofNat s.decisions),
     ("total_lines", ofNat s.lines),
     ("by_decision", .object (s.byKind.map fun (kind, n) => (kind.name, ofNat n)))]

def ofDecision (d : Decision) : Value :=
  object
    [("decision", .text d.kind.name),
     ("source", .text d.sourceName),
     ("lines", ofNat d.lines),
     ("index", ofInt? (d.index.map Int.ofNat)),
     ("start_line", ofInt? (d.span.map (·.first))),
     ("end_line", ofInt? (d.span.map (·.last)))]

def ofDraft (r : Draft) : Value :=
  object [("summary", ofSummary r.summary), ("decisions", .array (r.decisions.map ofDecision))]

-- The drafts of a tree merge, by relative path.
def ofTree (r : TreeReport) : Value :=
  .object (r.outcomes.map fun (path, o) => (path, ofDraft o.draft))

end Report

variable {m : Type → Type} [Monad m] [Host m]

def writeReport (p : Option Path) (v : Report.Value) : Job m Unit := do
  match p with
  | none => return
  | some p => Job.writeText p (v.write 0)

end EnvMerge.Command
