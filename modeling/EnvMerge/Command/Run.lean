import EnvMerge.Command.Arguments
import EnvMerge.Command.Report

namespace EnvMerge.Command

-- How a run ends; a complaint is about the usage.
structure Exit where
  code : Nat
  complaint : Option Text
deriving DecidableEq

namespace Exit

def good : Exit := ⟨0, none⟩

def bad : Exit := ⟨1, none⟩

def usage (e : UsageError) : Exit :=
  ⟨2, some (programName ++ ": error: ".toList ++ e.message)⟩

end Exit

variable {m : Type → Type} [Monad m] [Host m]

def say (t : Text) : Job m Unit :=
  Job.printLine t

def sayPath (label : String) (p : Path) : Job m Unit :=
  say (label.toList ++ p.toText)

def sayCount (label : String) (n : Nat) : Job m Unit :=
  say (label.toList ++ ": ".toList ++ Text.ofNat n)

def sayError (message : Text) : Job m Unit :=
  say ("Error: ".toList ++ message)

structure Inputs where
  template : Path
  destination : Path
deriving DecidableEq

def findInvalid? : List (Given Text) → Except Failure (Option Text)
  | [] => .ok none
  | given :: rest => do
    let item ← given.get "partition"
    if Arguments.isTagSide item then findInvalid? rest else return some item

-- The inputs, or what speaks against the arguments.
def inputs (a : Arguments) : Job m (Except Text Inputs) := do
  let template ← Job.ofExcept (a.template.get "exists")
  if !(← Job.present template) then
    return .error ("Template does not exist: ".toList ++ template.toText)
  let destination ← Job.ofExcept (a.destination.get "exists")
  if !(← Job.present destination) then
    return .error ("Destination does not exist: ".toList ++ destination.toText)
  if (← Job.isFolder template) != (← Job.isFolder destination) then
    return .error "Template and destination must both be files or both be directories".toList
  match ← Job.ofExcept (findInvalid? a.preferTypes) with
  | some item =>
    return .error ("Invalid --prefer-type value: ".toList ++ item
      ++ " (expected TAG=template|destination)".toList)
  | none => return .ok ⟨template, destination⟩

-- Whether an output may be replaced without asking: it is not there, it is the destination, or it
-- is an empty folder.
def isFree (output destination : Path) : Job m Bool := do
  if !(← Job.present output) then return true
  if (← Job.resolve output) == (← Job.resolve destination) then return true
  if ← Job.isFolder output then return !(← ExceptT.lift (Host.hasEntries output))
  return false

def isYes (answer : Text) : Bool :=
  answer.trim.lowerAscii = ['y']

-- Asks before an output other than the destination is replaced.
def confirm (output : Option Path) (destination : Path) : Job m Bool := do
  match output with
  | none => return true
  | some output =>
    if ← isFree output destination then return true
    sayPath "Warning: Output already exists: " output
    ExceptT.lift (Host.print "Continue anyway? (y/N): ".toList)
    match ← ExceptT.lift Host.ask with
    | some answer => return isYes answer
    | none => throw .endOfInput

def saySummary (s : Draft.Summary) : Job m Unit := do
  sayCount "Decisions" s.decisions
  sayCount "Lines written" s.lines
  s.byKind.forM fun (kind, n) =>
    say ("  - ".toList ++ kind.name ++ ": ".toList ++ Text.ofNat n)

def checkStopped : Job m Unit := do
  if ← ExceptT.lift Host.stopped then throw .interrupted

-- Merges two files; tells whether the output changed.
def runFiles (a : Arguments) (i : Inputs) (o : Options) : Job m Bool := do
  checkStopped
  let r ← mergeFiles i.template i.destination a.output? o a.check
  sayPath "Output: " r.output
  saySummary r.draft.summary
  writeReport a.report? (Report.ofDraft r.draft)
  say <|
    if a.check then (if r.changed then "Changes pending." else "Up to date.").toList
    else if r.written then "Merged file written.".toList
    else "No changes.".toList
  return r.changed

def maxShownFaults : Nat := 10

def sayFaults (faults : List Fault) : Job m Unit := do
  if faults = [] then return
  say ("\n--- Errors (".toList ++ Text.ofNat faults.length ++ " files failed) ---".toList)
  (faults.take maxShownFaults).forM fun f => do
    say ("  ".toList ++ f.relative)
    say ("    ".toList ++ f.message)
  if maxShownFaults < faults.length then
    say ("  ... and ".toList ++ Text.ofNat (faults.length - maxShownFaults)
      ++ " more errors".toList)

-- The pattern for two trees. A void one will do only as long as there is no file to match.
def patternFor (a : Arguments) (i : Inputs) : Job m Text := do
  match a.pattern with
  | .value pattern => return pattern
  | .void =>
    discard (Job.resolve (a.output?.getD i.destination))
    discard (Job.resolve i.destination)
    let found ← [i.template, i.destination].mapM fun p => ExceptT.lift (Host.filesBelow p)
    if found.flatten = [] then return [] else throw (.notPath Given.voidTypeName)

-- Merges two trees; tells whether any output changed.
def runTrees (a : Arguments) (i : Inputs) (o : Options) : Job m Bool := do
  checkStopped
  let pattern ← patternFor a i
  let r ← mergeTrees i.template i.destination a.output? o pattern a.check
  say "\n--- Merge Summary ---".toList
  sayCount "Merged" r.merged.length
  sayCount "Identical" r.identical.length
  sayCount "Copied from destination" r.copied.length
  sayCount "Seeded from template" r.seeded.length
  sayCount "Skipped (template only)" r.skipped.length
  sayCount (if a.check then "Would change" else "Changed") r.changed.length
  sayFaults r.faults
  say (List.replicate 20 '-')
  writeReport a.report? (Report.ofTree r)
  return !r.changed.isEmpty

def sayBanner (i : Inputs) : Job m Unit := do
  say (List.replicate 60 '=')
  say "DOTENV MERGE".toList
  say (List.replicate 60 '=')
  sayPath "Template:    " i.template
  sayPath "Destination: " i.destination

-- Merges, and turns the failures that a user can mend into messages.
def merging (a : Arguments) (i : Inputs) (o : Options) : Job m Exit :=
  tryCatch
    (do
      let changed ← if ← Job.isFolder i.template then runTrees a i o else runFiles a i o
      return if a.check && changed then .bad else .good)
    fun e => do
      if e.isConfiguration || e.isParse || e.isSystem then
        sayError e.message
        return .bad
      else if e = .interrupted then
        say "\n\nInterrupted!".toList
        return .bad
      else throw e

def leave (a : Arguments) (i : Inputs) : Job m Bool := do
  if a.check || a.yes then return true
  confirm (← Job.ofExcept (a.output.mapM (·.get "exists"))) i.destination

def runWith (a : Arguments) : Job m Exit := do
  match ← inputs a with
  | .error text =>
    sayError text
    return .bad
  | .ok i =>
    if a.verbose then ExceptT.lift Host.showDebug
    if !(← leave a i) then
      say "Aborted.".toList
      return .good
    match a.options with
    | .error e =>
      sayError e.message
      return .bad
    | .ok o =>
      sayBanner i
      merging a i o

def run (words : List Text) : Job m Exit := do
  match Arguments.ofTexts words with
  | .ok a => runWith a
  | .error .help =>
    ExceptT.lift (Host.print helpText)
    return .good
  | .error (.usage e) => return .usage e

end EnvMerge.Command
