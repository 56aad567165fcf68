import EnvMerge.Text.Blank

namespace EnvMerge.Value

-- Replaces the escapes for line feed, tab, carriage return, double quote and backslash, one kind
-- after the other over the whole text, the backslash last.
def decodeEscapes (t : Text) : Text :=
  t.replacePair '\\' 'n' '\n'
    |>.replacePair '\\' 't' '\t'
    |>.replacePair '\\' 'r' '\r'
    |>.replacePair '\\' '"' '"'
    |>.replacePair '\\' '\\' '\\'

-- The part before the first run of blanks that a number sign follows.
def beforeComment? : Text → Option Text
  | [] => none
  | c :: t =>
    if isBlank c ∧ (Text.trimStart t).head? = some '#' then some []
    else (beforeComment? t).map (c :: ·)

def dropComment (t : Text) : Text :=
  match beforeComment? t with
  | some value => value.trim
  | none => t

-- Whether the text begins and ends with `q`. One character alone does both.
def enclosedBy (q : Char) (t : Text) : Bool :=
  t.head? == some q && t.getLast? == some q

def inside (t : Text) : Text :=
  t.tail.dropLast

-- In double quotes a value has escapes, in single quotes it is taken as it is, and bare it is
-- ended by a comment.
def decode (t : Text) : Text :=
  let t := t.trim
  if enclosedBy '"' t then decodeEscapes (inside t)
  else if enclosedBy '\'' t then inside t
  else dropComment t

end EnvMerge.Value
