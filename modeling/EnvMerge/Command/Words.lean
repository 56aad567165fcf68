import EnvMerge.Command.Given
import EnvMerge.Command.Help
import EnvMerge.Text.Digit
import EnvMerge.Text.Quoted

namespace EnvMerge.Command

inductive Switch
  | help
  | output
  | preference
  | preferType
  | append
  | token
  | pattern
  | check
  | report
  | yes
  | verbose
deriving DecidableEq

inductive UsageError
  | ambiguous (word : Text) (candidates : List Text)
  | ignoredValue (s : Switch) (value : Text)
  | missingValue (s : Switch)
  | invalidChoice (s : Switch) (value : Text) (choices : List Text)
  | missingOperands (names : List Text)
  | unrecognized (words : List Text)
deriving DecidableEq

namespace Switch

-- All spellings, in the order of the help text.
def spellings : List (Text × Switch) :=
  [("-h", help), ("--help", help), ("--output", output), ("-o", output),
    ("--preference", preference), ("-p", preference), ("--prefer-type", preferType),
    ("--append-template-only", append), ("-a", append), ("--freeze-token", token), ("-t", token),
    ("--pattern", pattern), ("--check", check), ("--report", report), ("--yes", yes), ("-y", yes),
    ("--verbose", verbose), ("-v", verbose)].map fun (spelling, s) => (spelling.toList, s)

def ofSpelling? (t : Text) : Option Switch :=
  spellings.lookup t

def displayName (s : Switch) : Text :=
  ['/'].intercalate ((spellings.filter (·.2 = s)).map (·.1))

def takesValue : Switch → Bool
  | output | preference | preferType | token | pattern | report => true
  | help | append | check | yes | verbose => false

end Switch

namespace UsageError

def ofSwitch (s : Switch) (message : Text) : Text :=
  "argument ".toList ++ s.displayName ++ ": ".toList ++ message

def message : UsageError → Text
  | ambiguous word candidates =>
    "ambiguous option: ".toList ++ word ++ " could match ".toList
      ++ Text.commaSeparated candidates
  | ignoredValue s value =>
    ofSwitch s ("ignored explicit argument ".toList ++ value.quoted)
  | missingValue s => ofSwitch s "expected one argument".toList
  | invalidChoice s value choices =>
    ofSwitch s ("invalid choice: ".toList ++ value.quoted ++ " (choose from ".toList
      ++ Text.commaSeparated (choices.map Text.quoted) ++ [')'])
  | missingOperands names =>
    "the following arguments are required: ".toList ++ Text.commaSeparated names
  | unrecognized words => "unrecognized arguments: ".toList ++ [' '].intercalate words

end UsageError

-- What is joined to a switch in its word: after an equals sign, or right behind a short spelling.
structure Joined where
  short : Bool
  value : Text
deriving DecidableEq

-- The words of a command line. Behind the separator every word is an operand. Long switches may
-- be shortened as long as one switch is meant; short ones may share a word, the last of them with
-- its value.
inductive Word
  | operand (t : Text)
  | separator
  | switch (s : Switch) (joined : Option Joined)
  | unknown (t : Text)
deriving DecidableEq

namespace Word

-- A minus sign before digits, with at most one point among them. A last line feed is overlooked.
def isNegativeNumber (t : Text) : Bool :=
  match t with
  | '-' :: t =>
    let t := if t.getLast? = some '\n' then t.dropLast else t
    match t.dropWhile isDecimalDigit with
    | [] => !t.isEmpty
    | '.' :: places => !places.isEmpty && places.all isDecimalDigit
    | _ => false
  | _ => false

-- The switches that a shortened long spelling may mean.
def candidates (start : Text) : List (Text × Switch) :=
  Switch.spellings.filter fun (spelling, _) => start.isPrefixOf spelling

-- A word that is no spelling of a switch but looks like one.
def ofUnknown (t : Text) : Word :=
  if isNegativeNumber t || t.contains ' ' then operand t else unknown t

-- A word with two dashes that is not a whole spelling.
def ofLong (t : Text) : Except UsageError Word :=
  let (start, joined) : Text × Option Joined :=
    match t.cutAt? '=' with
    | some (start, value) => (start, some ⟨false, value⟩)
    | none => (t, none)
  match candidates start with
  | [] => .ok (ofUnknown t)
  | [(_, s)] => .ok (switch s joined)
  | several => .error (.ambiguous t (several.map (·.1)))

-- A word with one dash that is not a whole spelling.
def ofShort (t : Text) : Word :=
  match Switch.ofSpelling? (t.take 2) with
  | some s => switch s (some ⟨true, t.drop 2⟩)
  | none => ofUnknown t

def ofAssigned? (t : Text) : Option Word := do
  let (spelling, value) ← t.cutAt? '='
  let s ← Switch.ofSpelling? spelling
  some (switch s (some ⟨!dashes.isPrefixOf spelling, value⟩))

def ofText (t : Text) : Except UsageError Word :=
  if t.head? ≠ some '-' ∨ t = ['-'] then .ok (operand t)
  else
    match Switch.ofSpelling? t, ofAssigned? t with
    | some s, _ => .ok (switch s none)
    | none, some w => .ok w
    | none, none => if dashes.isPrefixOf t then ofLong t else .ok (ofShort t)

-- Reads the words one by one, up to the separator.
def ofTexts : List Text → Except UsageError (List Word)
  | [] => .ok []
  | t :: ts =>
    if t = dashes then .ok (separator :: ts.map operand)
    else do
      let w ← ofText t
      return w :: (← ofTexts ts)

end Word

-- What a word with switches comes to: the switches it sets, and the last of them if it is in want
-- of a value from the next word.
structure Cluster where
  set : List (Switch × Text)
  wants : Option Switch
deriving DecidableEq

namespace Cluster

def add (s : Switch) (c : Cluster) : Cluster :=
  { c with set := (s, []) :: c.set }

def single (s : Switch) : Cluster :=
  if s.takesValue then ⟨[], some s⟩ else ⟨[(s, [])], none⟩

-- A switch with `value` joined to it. Behind a short switch that takes no value, more short
-- switches may follow, each a single character.
def ofJoined (s : Switch) (short : Bool) (value : Text) : Except UsageError Cluster :=
  if s.takesValue then .ok ⟨[(s, value)], none⟩
  else
    match value with
    | [] => .error (.ignoredValue s [])
    | c :: more =>
      match if short then Switch.ofSpelling? ['-', c] else none with
      | none => .error (.ignoredValue s (c :: more))
      | some next =>
        if more = [] then .ok (add s (single next)) else add s <$> ofJoined next true more

def ofWord (s : Switch) : Option Joined → Except UsageError Cluster
  | none => .ok (single s)
  | some j => ofJoined s j.short j.value

end Cluster
end EnvMerge.Command
