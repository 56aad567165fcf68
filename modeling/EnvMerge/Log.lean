import EnvMerge.Document
import EnvMerge.Pairing

namespace EnvMerge

inductive Level
  | notSet
  | debug
  | info
  | warning
  | error
  | critical
deriving DecidableEq

namespace Level

def rank : Level → Nat
  | notSet   => 0
  | debug    => 10
  | info     => 20
  | warning  => 30
  | error    => 40
  | critical => 50

def name : Level → Text
  | notSet   => "NOTSET".toList
  | debug    => "DEBUG".toList
  | info     => "INFO".toList
  | warning  => "WARNING".toList
  | error    => "ERROR".toList
  | critical => "CRITICAL".toList

def ofName? (t : Text) : Option Level :=
  [notSet, debug, info, warning, error, critical].find? (·.name = t)

end Level

structure TreeCounts where
  merged : Nat
  identical : Nat
  copied : Nat
  seeded : Nat
  skipped : Nat
  errors : Nat
deriving DecidableEq

-- What a merge reports while it runs.
inductive Event
  | freeze (w : Warning)
  | analyzed (custom : Bool) (lines statements blocks assignments : Nat)
  | aligned (total matched templateOnly destinationOnly : Nat)
  -- The merge ended, well or not. How long it took is left open.
  | ended
  | mergedFile (template output : Path) (changed written : Bool)
  | mergedTrees (counts : TreeCounts)
deriving DecidableEq

def Warning.message : Warning → Text
  | nested line =>
    "Nested freeze block at line ".toList ++ Text.ofInt line ++ ", ignoring".toList
  | stray line =>
    "Unfreeze without freeze at line ".toList ++ Text.ofInt line ++ ", ignoring".toList
  | unclosed line =>
    "Unclosed freeze block starting at line ".toList ++ Text.ofInt line ++ ", ignoring".toList

namespace Event

def level : Event → Level
  | freeze _ => .warning
  | _ => .debug

def channel : Event → Text
  | freeze _ | analyzed ..              => "dotenv_merge.analysis".toList
  | aligned ..                          => "dotenv_merge.alignment".toList
  | ended | mergedFile .. | mergedTrees _ => "dotenv_merge.merger".toList

-- Counts after their names, one space apart.
def countsText (counts : List (String × Nat)) : Text :=
  [' '].intercalate (counts.map fun (name, n) => name.toList ++ '=' :: Text.ofNat n)

def flagText (b : Bool) : Text :=
  if b then "True".toList else "False".toList

def message : Event → Text
  | freeze w => w.message
  | analyzed custom lines statements blocks assignments =>
    "FileAnalysis initialized: signature_generator=".toList
      ++ (if custom then "custom ".toList else "default ".toList)
      ++ countsText [("lines", lines), ("statements", statements), ("freeze_blocks", blocks),
        ("assignments", assignments)]
  | aligned total matched templateOnly destinationOnly =>
    "Alignment complete: ".toList
      ++ countsText [("total", total), ("matches", matched), ("template_only", templateOnly),
        ("dest_only", destinationOnly)]
  | ended => "SmartMerger.merge completed in <ms>".toList
  | mergedFile template output changed written =>
    "Merged ".toList ++ template.toText ++ " into ".toList ++ output.toText
      ++ ": changed=".toList ++ flagText changed ++ " written=".toList ++ flagText written
  | mergedTrees c =>
    "Tree merge complete: ".toList
      ++ countsText [("merged", c.merged), ("identical", c.identical), ("copied", c.copied),
        ("seeded", c.seeded), ("skipped", c.skipped), ("errors", c.errors)]

def ofEntries (entries : List Pairing.Entry) : Event :=
  let count (kind : Pairing.Kind) := entries.countP (·.kind = kind)
  .aligned entries.length (count .matched) (count .templateOnly) (count .destinationOnly)

end Event

-- What reading a document reports; `custom` tells whether the caller signs the statements.
def Document.events (custom : Bool) (d : Document) : List Event :=
  d.warnings.map .freeze ++
    [.analyzed custom d.lines.length d.statements.length d.blocks.length d.freeAssignments.length]

class Journal (m : Type → Type) where
  record : Event → m Unit

abbrev Recording := StateM (List Event)

instance : Journal Recording where
  record e := modify (· ++ [e])

instance : Journal Id where
  record _ := ()

-- The package's logger: the least level that it shows, and how many handlers print.
structure Logger where
  level : Level
  handlers : Nat

namespace Logger

def rootName : Text :=
  "dotenv_merge".toList

-- Names outside the package are nested under it.
def nameOf (name : Text) : Text :=
  if name = [] ∨ name = rootName then rootName
  else if (name.after? (rootName ++ ['.'])).isSome then name
  else rootName ++ '.' :: name

-- Whether a variable of the environment asks for debugging.
def debugWanted (setting : Option Text) : Bool :=
  let value := ((setting.getD []).trim).lowerAscii
  ["1", "true", "yes", "on"].any fun word => value == word.toList

-- Adds the one handler if there is none, and settles a level that was left open.
def configure (l : Logger) (debug : Bool) : Logger :=
  if l.handlers = 0 then
    ⟨if l.level = .notSet then (if debug then .debug else .warning) else l.level, 1⟩
  else l

def enableDebug (l : Logger) : Logger :=
  { l with level := .debug }

def output (l : Logger) (level : Level) (message : Text) : Text :=
  if l.level.rank ≤ level.rank then
    (List.replicate l.handlers
      ("[dotenv-merge] ".toList ++ level.name ++ ": ".toList ++ message ++ ['\n'])).flatten
  else []

end Logger
end EnvMerge
