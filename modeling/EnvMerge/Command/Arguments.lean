import EnvMerge.Command.Words
import EnvMerge.Files.Scan
import EnvMerge.Options
import EnvMerge.Rules

namespace EnvMerge.Command

structure Arguments where
  template : Given Path
  destination : Given Path
  output : Option (Given Path)
  preference : Given Side
  preferTypes : List (Given Text)
  append : Bool
  token : Given Text
  pattern : Given Text
  check : Bool
  report : Option (Given Path)
  yes : Bool
  verbose : Bool
deriving DecidableEq

inductive Stop
  | help
  | usage (e : UsageError)
deriving DecidableEq

namespace Arguments

def standard (template destination : Given Path) : Arguments where
  template := template
  destination := destination
  output := none
  preference := .value .destination
  preferTypes := []
  append := false
  token := .value Document.defaultToken
  pattern := .value Scan.defaultPattern
  check := false
  report := none
  yes := false
  verbose := false

def setPreference (a : Arguments) : Given Text → Except Stop Arguments
  | .void => .ok { a with preference := .void }
  | .value name =>
    match Side.ofName? name with
    | some side => .ok { a with preference := .value side }
    | none =>
      .error (.usage (.invalidChoice .preference name
        (([.template, .destination] : List Side).map (·.name))))

-- Acts on one switch. The text of a switch that takes no value is not looked at.
def set (a : Arguments) (s : Switch) (t : Text) : Except Stop Arguments :=
  let given := Given.ofText t
  match s with
  | .help => .error .help
  | .output => .ok { a with output := some (given.map .ofText) }
  | .preference => a.setPreference given
  | .preferType => .ok { a with preferTypes := a.preferTypes ++ [given] }
  | .append => .ok { a with append := true }
  | .token => .ok { a with token := given }
  | .pattern => .ok { a with pattern := given }
  | .check => .ok { a with check := true }
  | .report => .ok { a with report := some (given.map .ofText) }
  | .yes => .ok { a with yes := true }
  | .verbose => .ok { a with verbose := true }

-- What the word to be read next finds before it.
inductive Before
  -- An operand in its place.
  | operand
  -- A separator that goes with the operand to come.
  | separator
  | other
deriving DecidableEq

structure Reading where
  arguments : Arguments
  operands : List (Given Text)
  unexplained : List Text
  before : Before

namespace Reading

def start : Reading :=
  ⟨standard .void .void, [], [], .other⟩

def operandNames : List Text :=
  ["template".toList, "destination".toList]

def wantsOperand (r : Reading) : Bool :=
  r.operands.length < operandNames.length

def addUnexplained (r : Reading) (t : Text) : Reading :=
  { r with unexplained := r.unexplained ++ [t], before := .other }

-- With a separator before it, an operand is taken to the letter, even if it is two dashes.
def addOperand (r : Reading) (t : Text) : Reading :=
  if r.wantsOperand then
    let given := if r.before = .separator then .value t else .ofText t
    { r with operands := r.operands ++ [given], before := .operand }
  else r.addUnexplained t

-- A separator goes with the operand before it, or else with the one after it.
def addSeparator (r : Reading) (followed : Bool) : Reading :=
  if r.before = .operand then { r with before := .other }
  else if r.wantsOperand && followed then { r with before := .separator }
  else r.addUnexplained dashes

def setAll (r : Reading) (switches : List (Switch × Text)) : Except Stop Reading := do
  let arguments ← switches.foldlM (fun a (s, value) => a.set s value) r.arguments
  return { r with arguments := arguments, before := .other }

def readWords (r : Reading) : List Word → Except Stop Reading
  | [] => .ok r
  | .operand t :: ws => readWords (r.addOperand t) ws
  | .separator :: ws => readWords (r.addSeparator (!ws.isEmpty)) ws
  | .unknown t :: ws => readWords (r.addUnexplained t) ws
  | .switch s joined :: ws => do
    let c ← (Cluster.ofWord s joined).mapError .usage
    match c.wants, ws with
    | none, ws => readWords (← r.setAll c.set) ws
    | some w, .operand value :: ws => readWords (← r.setAll (c.set ++ [(w, value)])) ws
    | some w, _ => throw (.usage (.missingValue w))

-- The arguments, if all operands are there and every word is explained.
def finish (r : Reading) : Except Stop Arguments :=
  match r.operands with
  | [template, destination] =>
    if r.unexplained = [] then
      .ok { r.arguments with
        template := template.map .ofText, destination := destination.map .ofText }
    else .error (.usage (.unrecognized r.unexplained))
  | given => .error (.usage (.missingOperands (operandNames.drop given.length)))

end Reading

def ofTexts (words : List Text) : Except Stop Arguments := do
  let ws ← (Word.ofTexts words).mapError .usage
  (← Reading.start.readWords ws).finish

-- A tag and the text for its side. Without an equals sign all is tag.
def splitTag (item : Text) : Text × Text :=
  (item.cutAt? '=').getD (item, [])

def isTagSide (item : Text) : Bool :=
  match item.cutAt? '=' with
  | some (_ :: _, side) => (Side.ofName? side).isSome
  | _ => false

-- The items that name types, each of them a text.
def tagItems (a : Arguments) : Except Failure (List Text) :=
  a.preferTypes.mapM (·.get "partition")

-- The preference that the switches ask for, to be checked like any other.
def preferenceSetting (a : Arguments) (items : List Text) : Setting :=
  let standard := a.preference.toSetting (.text ·.name)
  if items = [] then standard
  else
    .ofPairs ((.text TagSides.defaultTag, standard) ::
      items.map fun item => (.text (splitTag item).1, .text (splitTag item).2))

def options (a : Arguments) : Except Failure EnvMerge.Options := do
  let items ← a.tagItems
  Settings.toOptions
    { Settings.standard with
      preference := a.preferenceSetting items
      append := .flag a.append
      token := a.token.toSetting .text
      classification := if items = [] then .tuple [] else .callback Rules.kind }

-- Where the merge goes, if not to the destination.
def output? (a : Arguments) : Option Path :=
  a.output.bind (·.value?)

def report? (a : Arguments) : Option Path :=
  a.report.bind (·.value?)

end Arguments
end EnvMerge.Command
