import EnvMerge.Proofs.Files.Check

namespace EnvMerge

open FileSystem Job Merge

def FileOutcome.unchanged (o : FileOutcome) : FileOutcome :=
  { o with changed := false, written := false }

-- The same report of a run that has found its outputs up to date.
def TreeReport.unchanged (r : TreeReport) : TreeReport :=
  { r with changed := [], outcomes := r.outcomes.map fun (path, o) => (path, o.unchanged) }

namespace Job

variable {w w' : World} {template destination output : Path} {o : Options} {r : FileOutcome}

-- Where a merge of two files may write so that it can be run again.
structure Aside (fs : FileSystem) (template destination output : Path) : Prop where
  linkless : fs.Linkless
  parent   : fs.Anchored output.parent
  base     : fs.Anchored destination
  apart    : fs.place output ≠ fs.place template
  outside  : ¬fs.place destination <+: fs.place output
  short    : ∀ name ∈ destination.names, (Utf8.encode name).length ≤ maxNameLength

theorem tells_unchanged_of_mergeFiles (aside : Aside w.files template destination output)
    (run : Returns (mergeFiles template destination output o false) w r w') (check : Bool) :
    Tells (mergeFiles template destination output o check) w'.files r.unchanged := by
  have parent : w.files.Anchored ((some output).getD destination).parent := aside.parent
  have ⟨draft, changed, held, merges, he, updates⟩ :=
    exists_updates_of_mergeFiles aside.linkless parent run
  have again : Merges w'.files o template destination output draft false := by
    refine merges.settle (fun a ha => ?template) (fun x hx => ?destination) updates.reads updates.same
    case template => exact ha.some_onward updates.writes.toGrows aside.linkless aside.apart.symm
    case destination =>
      refine hx.onward updates.writes.toFills aside.linkless aside.base ?_ aside.short
      intro goal hg
      exact hg ▸ aside.outside
  rw [he]
  exact tells_mergeFiles again rfl

end Job

namespace Trees

variable {w w' : World} {r : TreeReport} {pattern : Text}
variable {template destination : Path} {output : Option Path} {o : Options}

theorem note_unchanged (plan : Plan) (check : Bool) (r : TreeReport) (path : Text) (v : Verdict) :
    { plan with check }.note r.unchanged path v.settled = (plan.note r path v).unchanged := by
  cases v
  case copied changed    => cases changed <;> rfl
  case identical changed => cases changed <;> rfl
  case skipped           => rfl
  case merged changed draft | seeded changed draft =>
    cases changed <;> simp [TreeReport.unchanged, FileOutcome.unchanged, Plan.note, Verdict.settled,
      TreeReport.addMerged, TreeReport.addSeeded, TreeReport.addChanged, Plan.outcome]

theorem tells_unchanged_of_mergeTrees
    (suited : Suited w.files template destination (output.getD destination))
    (apart : Apart (w.files.place (output.getD destination)) (w.files.place destination))
    (short : ∀ name ∈ destination.names, (Utf8.encode name).length ≤ maxNameLength)
    (run : Returns (mergeTrees template destination output o pattern false) w r w') (clean : r.faults = [])
    (check : Bool) : Tells (mergeTrees template destination output o pattern check) w'.files r.unchanged := by
  have ⟨log, course, report⟩ := exists_course suited run clean
  have separate : ∀ e ∈ log, Separate w.files
      (planOf w.files template destination output o false) e.names := by
    intro e he
    refine ⟨apart, fun name hm => ?_⟩
    simp only [Plan.destinationAt, Path.join_relative, List.mem_append] at hm
    exact hm.elim (short name) (course.short e he name)
  have below {loc : Location} (h : Apart (w.files.place (output.getD destination)) loc) (names : List Text) :
      ¬w.files.place (output.getD destination) <+: loc ++ names :=
    fun ⟨rest, he⟩ => h.append_ne rest names he
  have beside : Apart (w.files.place (output.getD destination)) (w.files.place template) := by
    cases suited.target
    case inl same  => exact absurd (same ▸ List.prefix_rfl) apart.outside
    case inr apart => exact apart.1
  rw [report, ← Plan.report_revise (note_unchanged _ check)]
  refine course.tells suited.sited course.fills.toGrows (below beside) (below apart) (course.settled separate) ?_
  exact fun e _ => by rw [Verdict.changed_settled, Bool.false_and]

-- Merges that have gone through with an output of their own find nothing to change when they are run
-- again.
theorem tells_unchanged (template destination : Path) (o : Options) (check : Bool) {w w' : World} :
    (∀ {output : Option Path} {pattern : Text} {r : TreeReport},
      Suited w.files template destination (output.getD destination) →
      Apart (w.files.place (output.getD destination)) (w.files.place destination) →
      (∀ name ∈ destination.names, (Utf8.encode name).length ≤ maxNameLength) →
      Returns (mergeTrees template destination output o pattern false) w r w' → r.faults = [] →
        Tells (mergeTrees template destination output o pattern check) w'.files r.unchanged) ∧
      ∀ {output : Path} {r : FileOutcome}, Aside w.files template destination output →
        Returns (mergeFiles template destination output o false) w r w' →
          Tells (mergeFiles template destination output o check) w'.files r.unchanged := by
  constructor
  case left =>
    intro output pattern r suited apart short run clean
    exact tells_unchanged_of_mergeTrees suited apart short run clean check
  case right =>
    intro output r aside run
    exact tells_unchanged_of_mergeFiles aside run check

def templateFile : Path :=
  .ofText "t/n/a.env".toList

def missingFile : Path :=
  .ofText "d/c.env".toList

def outputFile : Path :=
  .ofText "o/c.env".toList

theorem tells_unchanged_of_scattered_trees :
    (∃ r w', Returns (mergeTrees templateFolder destinationFolder outputFolder .appending
        Scan.defaultPattern false) (onlyFiles scatteredTrees) r w' ∧ r.faults = [] ∧
      Tells (mergeTrees templateFolder destinationFolder outputFolder .appending Scan.defaultPattern false)
        w'.files r.unchanged) ∧
    ∃ r w', Returns (mergeFiles templateFile missingFile outputFile .appending false)
        (onlyFiles scatteredTrees) r w' ∧
      Tells (mergeFiles templateFile missingFile outputFile .appending true) w'.files r.unchanged := by
  constructor
  case left =>
    have ended : endsClean (fun _ => true) ((mergeTrees templateFolder destinationFolder outputFolder
        .appending Scan.defaultPattern false : Job World.Run TreeReport).run.run (onlyFiles scatteredTrees)) := by
      decide +kernel
    have ⟨r, w', run, clean, _⟩ := exists_of_endsClean ended
    refine ⟨r, w', run, clean, (tells_unchanged templateFolder destinationFolder .appending false).1
      ?suited ?apart ?short run clean⟩ <;> decide +kernel
  case right =>
    have ended : ((mergeFiles templateFile missingFile outputFile .appending false :
        Job World.Run FileOutcome).run.run (onlyFiles scatteredTrees)).1.isOk := by decide +kernel
    have ⟨r, w', run⟩ := exists_returns_of_isOk ended
    have aside : Aside scatteredTrees templateFile missingFile outputFile := by
      constructor <;> decide +kernel
    exact ⟨r, w', run, (tells_unchanged templateFile missingFile .appending true).2 aside run⟩

section Unmade

variable (folder : Path)

def seedingRun (check : Bool) : Job World.Run TreeReport :=
  mergeTrees templateFolder folder newFolder .appending Scan.defaultPattern check

-- Whether a run notes no fault, but a check after it notes one or seeds other files.
def strays : Bool :=
  let ended := (seedingRun folder false).run.run (onlyFiles smallTrees)
  endsWith (fun r => r.faults.isEmpty && endsWith (fun r' => r'.seeded != r.seeded || !r'.faults.isEmpty)
    ((seedingRun folder true).run.run ended.2)) ended

theorem not_tells_of_strays (h : strays folder) :
    ∃ r w', Returns (seedingRun folder false) (onlyFiles smallTrees) r w' ∧ r.faults = [] ∧
      ¬Tells (seedingRun folder true) w'.files r.unchanged := by
  have ⟨r, w', run, found⟩ := exists_of_endsWith h
  have ⟨clean, again⟩ := Bool.and_eq_true_iff.mp found
  have clean := List.isEmpty_iff.mp clean
  refine ⟨r, w', run, clean, fun told => ?_⟩
  have ⟨w'', told, _⟩ := told w' rfl
  rw [run, told, endsWith] at again
  simp [TreeReport.unchanged, clean] at again

end Unmade

-- A folder with a name that no folder can have.
def longFolder : Path :=
  .relative [['x'], List.replicate 256 'd']

-- A single template, and room for all else.
def loneTemplate : FileSystem where
  entries := [(["t.env".toList], .file (Utf8.encode "A=1\n".toList))]
  here := []
  distinct := by decide +kernel
  placed := by decide +kernel

def loneFile : Path :=
  .ofText "t.env".toList

def unmadeFile : Path :=
  .ofText "new".toList

def innerFile : Path :=
  .ofText "new/out.env".toList

theorem not_tells_of_output_below :
    ∃ r w', Returns (mergeFiles loneFile unmadeFile innerFile .appending false) (onlyFiles loneTemplate) r w' ∧
      ∀ check r', ¬Tells (mergeFiles loneFile unmadeFile innerFile .appending check) w'.files r' := by
  have ended : ((mergeFiles loneFile unmadeFile innerFile .appending false :
      Job World.Run FileOutcome).run.run (onlyFiles loneTemplate)).1.isOk := by decide +kernel
  have ⟨r, w', run⟩ := exists_returns_of_isOk ended
  have fails : ∀ check, ((mergeFiles loneFile unmadeFile innerFile .appending check :
      Job World.Run FileOutcome).run.run ((mergeFiles loneFile unmadeFile innerFile .appending false :
        Job World.Run FileOutcome).run.run (onlyFiles loneTemplate)).2).1.isOk = false := by decide +kernel
  refine ⟨r, w', run, fun check r' told => ?_⟩
  have ⟨w'', again, _⟩ := told w' rfl
  have failed := fails check
  rw [run, again] at failed
  cases failed

-- An output below the destination, which is missing, makes a folder of the destination. A folder on
-- the way that a run makes lets the next one see the destination, or fail for its name.
theorem not_tells_unchanged_of_unmade_folders :
    (loneTemplate.Linkless ∧ loneTemplate.place innerFile ≠ loneTemplate.place loneFile ∧
      loneTemplate.place innerFile ≠ loneTemplate.place unmadeFile ∧
      ∃ r w', Returns (mergeFiles loneFile unmadeFile innerFile .appending false) (onlyFiles loneTemplate) r w' ∧
        ∀ check r', ¬Tells (mergeFiles loneFile unmadeFile innerFile .appending check) w'.files r') ∧
    smallTrees.Linkless ∧
      Apart (smallTrees.place newFolder) (smallTrees.place templateFolder) ∧
    ∀ folder ∈ [turningFolder, longFolder],
      Apart (smallTrees.place newFolder) (smallTrees.place folder) ∧
      Apart (smallTrees.place templateFolder) (smallTrees.place folder) ∧
      ∃ r w', Returns (seedingRun folder false) (onlyFiles smallTrees) r w' ∧ r.faults = [] ∧
        ¬Tells (seedingRun folder true) w'.files r.unchanged := by
  constructor
  case left =>
    exact ⟨by decide +kernel, by decide +kernel, by decide +kernel, not_tells_of_output_below⟩
  case right =>
    have strayed : ∀ folder ∈ [turningFolder, longFolder], Apart (smallTrees.place newFolder)
        (smallTrees.place folder) ∧ Apart (smallTrees.place templateFolder) (smallTrees.place folder) ∧
          strays folder := by decide +kernel
    refine ⟨by decide +kernel, by decide +kernel, fun folder hm => ?_⟩
    have ⟨out, base, strays⟩ := strayed folder hm
    exact ⟨out, base, not_tells_of_strays folder strays⟩

end Trees
end EnvMerge
