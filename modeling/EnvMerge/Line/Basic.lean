import EnvMerge.Line.Value

namespace EnvMerge

structure Span where
  first : Int
  last : Int
deriving DecidableEq

def Span.covers (s : Span) (line : Int) : Bool :=
  s.first ≤ line && line ≤ s.last

-- A line assigns a value to a key, is a comment, is blank, or is none of these.
inductive Content
  | assignment (key value : Text)
  | comment
  | blank
  | invalid
deriving DecidableEq

structure Line where
  raw : Text
  number : Int
  content : Content
  exported : Bool
deriving DecidableEq

namespace Key

def isFirst (c : Char) : Bool :=
  c.isAlpha || c == '_'

def isOther (c : Char) : Bool :=
  c.isAlphanum || c == '_'

-- A key is an ASCII letter or underscore followed by ASCII letters, digits and underscores.
def valid : Text → Bool
  | [] => false
  | c :: t => isFirst c && t.all isOther

end Key

def Content.key? : Content → Option Text
  | assignment key _ => some key
  | _ => none

def Content.value? : Content → Option Text
  | assignment _ value => some value
  | _ => none

namespace Line

def key? (l : Line) : Option Text := l.content.key?

def value? (l : Line) : Option Text := l.content.value?

def isAssignment (l : Line) : Bool := l.key?.isSome

def isComment (l : Line) : Bool := l.content = .comment

def span (l : Line) : Span := ⟨l.number, l.number⟩

-- What a text without blanks around it assigns, if it has the form of an assignment.
def assignment? (t : Text) : Option Content := do
  let (left, right) ← t.cutAt? '='
  let key := left.trim
  if Key.valid key then some (.assignment key (Value.decode right)) else none

-- Reads one line. A line that begins with `export` and a space but assigns nothing is invalid and
-- still counts as exported.
def ofRaw (raw : Text) (number : Int) : Line :=
  let t := raw.trim
  if t = [] then ⟨raw, number, .blank, false⟩
  else if t.head? = some '#' then ⟨raw, number, .comment, false⟩
  else match t.after? ['e', 'x', 'p', 'o', 'r', 't', ' '] with
    | some t => ⟨raw, number, (assignment? t).getD .invalid, true⟩
    | none => ⟨raw, number, (assignment? t).getD .invalid, false⟩

-- A line feed may have a carriage return before it, which goes with it.
def dropReturn (t : Text) : Text :=
  if t.getLast? = some '\r' then t.dropLast else t

-- The raw lines of a source. A line feed at its end ends the last line and begins no other.
def split (source : Text) : List Text :=
  let pieces := source.splitOn '\n'
  let pieces := if pieces.getLast? = some [] then pieces.dropLast else pieces
  pieces.map dropReturn

-- Lines numbered upward from `first`.
def numberedFrom (first : Int) : List Text → List Line
  | [] => []
  | raw :: rest => ofRaw raw first :: numberedFrom (first + 1) rest

def ofSource (source : Text) : List Line :=
  numberedFrom 1 (split source)

end Line
end EnvMerge
