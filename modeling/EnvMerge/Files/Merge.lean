import EnvMerge.Files.Scan
import EnvMerge.Merge

namespace EnvMerge

structure FileOutcome where
  template : Path
  destination : Path
  output : Path
  changed : Bool
  written : Bool
  draft : Draft

-- What became of each file of two trees, by relative path.
structure TreeReport where
  merged : List Text
  identical : List Text
  copied : List Text
  seeded : List Text
  skipped : List Text
  changed : List Text
  faults : List Fault
  outcomes : List (Text × FileOutcome)

namespace TreeReport

def ofFaults (faults : List Fault) : TreeReport :=
  ⟨[], [], [], [], [], [], faults, []⟩

variable (r : TreeReport) (path : Text)

def addMerged (o : FileOutcome) : TreeReport :=
  { r with merged := r.merged ++ [path], outcomes := r.outcomes ++ [(path, o)] }

def addSeeded (o : FileOutcome) : TreeReport :=
  { r with seeded := r.seeded ++ [path], outcomes := r.outcomes ++ [(path, o)] }

def addIdentical : TreeReport :=
  { r with identical := r.identical ++ [path] }

def addCopied : TreeReport :=
  { r with copied := r.copied ++ [path] }

def addSkipped : TreeReport :=
  { r with skipped := r.skipped ++ [path] }

def addChanged (changed : Bool) : TreeReport :=
  if changed then { r with changed := r.changed ++ [path] } else r

def addFault (e : Failure) : TreeReport :=
  { r with faults := r.faults ++ [⟨path, e.message⟩] }

def counts : TreeCounts where
  merged := r.merged.length
  identical := r.identical.length
  copied := r.copied.length
  seeded := r.seeded.length
  skipped := r.skipped.length
  errors := r.faults.length

end TreeReport

variable {m : Type → Type} [Monad m] [Host m]

-- Merges a template file into a destination file, which counts as empty if it is not there.
def mergeFiles (template destination : Path) (output : Option Path) (o : Options) (check : Bool) :
    Job m FileOutcome := do
  let output := output.getD destination
  let templateBytes ← Job.read template
  let destinationBytes ← if ← Job.present destination then Job.read destination else pure []
  let draft ← Merge.sources o (.bytes templateBytes) (.bytes destinationBytes)
  let text := draft.text
  let changed ←
    if ← Job.present output then
      pure ((← Job.digestOf output Job.defaultPiece) != digest (Utf8.encode text))
    else pure true
  let written := changed && !check
  if written then Job.writeText output text
  Job.record (.mergedFile template output changed written)
  return ⟨template, destination, output, changed, written, draft⟩

namespace Trees

structure Plan where
  template : Path
  destination : Path
  output : Path
  options : Options
  check : Bool
  -- The output is the destination itself.
  inPlace : Bool

def below (folder : Path) (path : Text) : Path :=
  folder.join (.ofText path)

-- Copies the destination's file to the output unless it is there already; tells whether the
-- output changes.
def carry (plan : Plan) (path : Text) : Job m Bool := do
  let source := below plan.destination path
  let target := below plan.output path
  if ← Job.differ source target then
    if !plan.check then Job.copy source target
    return true
  else return false

def mergeAt (plan : Plan) (path : Text) : Job m FileOutcome :=
  mergeFiles (below plan.template path) (below plan.destination path) (some (below plan.output path))
    plan.options plan.check

-- A file of both trees is merged, unless its two versions are the same.
def both (plan : Plan) (same : Text → Bool) (r : TreeReport) (path : Text) : Job m TreeReport := do
  if same path then
    let changed ← if plan.inPlace then pure false else carry plan path
    return (r.addChanged path changed).addIdentical path
  else
    let o ← mergeAt plan path
    return (r.addMerged path o).addChanged path o.changed

-- A file that only the destination has is carried over to another tree.
def onlyDestination (plan : Plan) (r : TreeReport) (path : Text) : Job m TreeReport := do
  let changed ← carry plan path
  return (r.addChanged path changed).addCopied path

-- A file that only the template has begins empty, if additions are wanted.
def onlyTemplate (plan : Plan) (r : TreeReport) (path : Text) : Job m TreeReport := do
  if plan.options.append then
    let o ← mergeAt plan path
    return (r.addSeeded path o).addChanged path o.changed
  else return r.addSkipped path

-- Does one step and notes a failure of files or sources in the report.
def noting (caught : Failure → Bool) (step : TreeReport → Text → Job m TreeReport)
    (r : TreeReport) (path : Text) : Job m TreeReport :=
  tryCatch (step r path) fun e => if caught e then return r.addFault path e else throw e

def sameDigest (ts ds : List FileInfo) (path : Text) : Bool :=
  let digest? (fs : List FileInfo) := (fs.find? (·.relative == path)).map (·.digest)
  digest? ts == digest? ds

def sorted (paths : List Text) : List Text :=
  paths.mergeSort Text.le

end Trees

-- Merges every matching file of a template tree into a destination tree. Files are paired by
-- relative path; a failure with one of them is noted and does not stop the rest.
def mergeTrees (template destination : Path) (output : Option Path) (o : Options) (pattern : Text)
    (check : Bool) : Job m TreeReport := do
  let output := output.getD destination
  let inPlace := (← Job.resolve output) == (← Job.resolve destination)
  let plan : Trees.Plan := ⟨template, destination, output, o, check, inPlace⟩
  let ts ← Scan.run template pattern false
  let ds ← Scan.run destination pattern false
  let tPaths := ts.files.map (·.relative)
  let dPaths := ds.files.map (·.relative)
  let both := Trees.sorted (tPaths.filter (dPaths.contains ·))
  let dOnly := Trees.sorted (dPaths.filter (!tPaths.contains ·))
  let tOnly := Trees.sorted (tPaths.filter (!dPaths.contains ·))
  let readable (e : Failure) := e.isSystem || e.isParse
  let r := TreeReport.ofFaults (ts.faults ++ ds.faults)
  let r ← both.foldlM (Trees.noting readable (Trees.both plan (Trees.sameDigest ts.files ds.files))) r
  let r ←
    if inPlace then pure r
    else dOnly.foldlM (Trees.noting Failure.isSystem (Trees.onlyDestination plan)) r
  let r ← tOnly.foldlM (Trees.noting readable (Trees.onlyTemplate plan)) r
  Job.record (.mergedTrees r.counts)
  return r

end EnvMerge
