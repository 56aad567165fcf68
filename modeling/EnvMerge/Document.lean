import EnvMerge.Freeze.Marker
import EnvMerge.Statement

namespace EnvMerge

inductive Warning
  | nested (line : Int)
  | stray (line : Int)
  | unclosed (line : Int)
deriving DecidableEq

inductive Source
  | text (t : Text)
  | bytes (b : Bytes)

-- Bytes are text only if they are well-formed UTF-8.
def Source.decode : Source → Except ParseFault Text
  | text t => .ok t
  | bytes b => (Utf8.decode b).mapError (.ofDecoding b)

-- A text read line by line, with each frozen range collapsed into one statement that stands where
-- its opening marker stood.
structure Document where
  lines : List Line
  statements : List Statement
  warnings : List Warning

namespace Document

def defaultToken : Text :=
  "dotenv-merge".toList

-- A freeze marker whose block is not closed yet, with the lines read since, the last one first.
structure Opening where
  start : Line
  reason : Option Text
  held : List Line

namespace Opening

-- The text behind the marker is the reason for freezing, unless it is blank.
def ofLine (l : Line) (rest : Text) : Opening :=
  let reason := rest.trim
  ⟨l, if reason = [] then none else some reason, [l]⟩

def hold (o : Opening) (l : Line) : Opening :=
  { o with held := l :: o.held }

def close (o : Opening) (l : Line) : Block :=
  ⟨⟨o.start.number, l.number⟩, (l :: o.held).reverse, o.reason⟩

-- Without an end there is no block: the lines stand free.
def abandon (o : Opening) : List Statement :=
  o.held.reverse.map .line

end Opening

-- Only comments can be markers.
def marker? (token : Text) (l : Line) : Option Marker :=
  if l.isComment then Marker.ofText? token l.raw else none

-- Collapses the frozen ranges of the given lines, read with at most one block open.
def collapse (token : Text) : Option Opening → List Line → List Statement × List Warning
  | none, [] => ([], [])
  | some o, [] => (o.abandon, [.unclosed o.start.number])
  | none, l :: ls =>
    match marker? token l with
    | none =>
      let (ss, ws) := collapse token none ls
      (.line l :: ss, ws)
    | some ⟨.freeze, rest⟩ => collapse token (some (.ofLine l rest)) ls
    | some ⟨.unfreeze, _⟩ =>
      let (ss, ws) := collapse token none ls
      (.line l :: ss, .stray l.number :: ws)
  | some o, l :: ls =>
    match marker? token l with
    | none => collapse token (some (o.hold l)) ls
    | some ⟨.freeze, _⟩ =>
      let (ss, ws) := collapse token (some (o.hold l)) ls
      (ss, .nested l.number :: ws)
    | some ⟨.unfreeze, _⟩ =>
      let (ss, ws) := collapse token none ls
      (.frozen (o.close l) :: ss, ws)

def ofText (token source : Text) : Document :=
  let lines := Line.ofSource source
  let (statements, warnings) := collapse token none lines
  ⟨lines, statements, warnings⟩

def ofSource (token : Text) (source : Source) : Except ParseFault Document :=
  ofText token <$> source.decode

variable (d : Document)

def blocks : List Block :=
  d.statements.filterMap (·.block?)

def freeAssignments : List Line :=
  d.statements.filterMap (·.assignment?)

-- All assignments, those inside frozen blocks included.
def assignments : List Line :=
  d.lines.filter (·.isAssignment)

def keys : List Text :=
  d.lines.filterMap (·.key?)

-- The statement with the given number, counted from zero.
def statement? (i : Int) : Option Statement :=
  if 0 ≤ i then d.statements[i.toNat]? else none

-- The line with the given number, counted from one.
def line? (n : Int) : Option Line :=
  if 1 ≤ n then d.lines[(n - 1).toNat]? else none

def assignment? (key : Text) : Option Line :=
  d.freeAssignments.find? fun l => l.key? = some key

end Document
end EnvMerge
