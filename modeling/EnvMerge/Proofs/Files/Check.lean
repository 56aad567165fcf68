import EnvMerge.Proofs.Files.Course

namespace EnvMerge

open FileSystem Job Merge

-- The same report of a run that writes nothing.
def TreeReport.unwritten (r : TreeReport) : TreeReport :=
  { r with outcomes := r.outcomes.map fun (path, o) => (path, { o with written := false }) }

namespace Trees

variable {w : World} {plan : Plan}

section Keeps

variable (check : plan.check = true)
include check

theorem keeps_carry (path : Text) : Keeps (carry plan path) := by
  refine (looks_differ _ _).keeps.bind fun differs => .ite ?_ (keeps_pure _)
  simp only [check, Bool.not_true, Bool.false_eq_true, if_false]
  exact keeps_pure _

theorem keeps_mergeAt (path : Text) : Keeps (mergeAt plan path) := by
  rw [mergeAt, check]
  exact keeps_mergeFiles _ _ _ _

theorem keeps_step (task : Task) (r : TreeReport) (path : Text) : Keeps (task.step plan r path) := by
  have merging : Keeps (mergeAt plan path) := keeps_mergeAt check path
  have carrying : Keeps (carry plan path) := keeps_carry check path
  cases task
  case both same =>
    refine .ite ?_ (merging.bind fun _ => keeps_pure _)
    exact .ite (keeps_pure _) (carrying.bind fun _ => keeps_pure _)
  case onlyDestination => exact carrying.bind fun _ => keeps_pure _
  case onlyTemplate    => exact .ite (merging.bind fun _ => keeps_pure _) (keeps_pure _)

end Keeps

theorem keeps_mergeTrees (template destination : Path) (output : Option Path) (o : Options) (pattern : Text) :
    Keeps (mergeTrees template destination output o pattern true) := by
  rw [mergeTrees_eq]
  refine (looks_resolve _).keeps.bind fun _ => (looks_resolve _).keeps.bind fun _ => ?_
  refine (Scan.looks_run _ _ _).keeps.bind fun ts => (Scan.looks_run _ _ _).keeps.bind fun ds => ?_
  refine .bind ?_ fun _ => (keeps_record _).bind fun _ => keeps_pure _
  rw [rounds_eq]
  refine keeps_foldlM (fun r item => .tryCatch ?_ fun e => .ite (keeps_pure _) (looks_throw _).keeps) _ _
  exact keeps_step rfl _ _ _

theorem unwritten_addChanged (r : TreeReport) (path : Text) (changed : Bool) :
    (r.addChanged path changed).unwritten = r.unwritten.addChanged path changed := by
  cases changed <;> rfl

theorem note_unwritten (plan : Plan) (r : TreeReport) (path : Text) (v : Verdict) :
    { plan with check := true }.note r.unwritten path v = (plan.note r path v).unwritten := by
  cases v
  case copied changed    => cases changed <;> rfl
  case identical changed => cases changed <;> rfl
  case skipped           => rfl
  case merged changed draft | seeded changed draft =>
    rw [Plan.note, Plan.note, unwritten_addChanged]
    simp [TreeReport.unwritten, TreeReport.addMerged, TreeReport.addSeeded, Plan.outcome]

-- No check changes a file, and a check of a run that notes no fault reports what the run does.
theorem keeps_and_tells_unwritten (template destination : Path) (output : Option Path) (o : Options)
    (pattern : Text) :
    Keeps (mergeFiles template destination output o true) ∧
      Keeps (mergeTrees template destination output o pattern true) ∧
      ∀ {w w' : World} {r : TreeReport}, Suited w.files template destination (output.getD destination) →
        Returns (mergeTrees template destination output o pattern false) w r w' → r.faults = [] →
          Tells (mergeTrees template destination output o pattern true) w.files r.unwritten := by
  refine ⟨keeps_mergeFiles _ _ _ _, keeps_mergeTrees _ _ _ _ _, fun suited run clean => ?_⟩
  have ⟨log, course, report⟩ := exists_course suited run clean
  rw [report, ← Plan.report_revise (f := id) (note_unwritten _)]
  exact course.tells suited.sited (.refl _ fun _ => False) (fun _ => id) (fun _ => id) course.judged (by simp)

-- Two trees with a file each that the other does not have.
def scatteredTrees : FileSystem where
  entries := [
    ([['t']], .folder),
    ([['t'], ['n']], .folder),
    ([['t'], ['n'], "a.env".toList], .file (Utf8.encode "A=1\n".toList)),
    ([['d']], .folder),
    ([['d'], "b.env".toList], .file (Utf8.encode "B=0\n".toList))]
  here := []
  distinct := by decide +kernel
  placed := by decide +kernel

theorem keeps_and_tells_unwritten_of_scattered_trees :
    ∃ r w', Returns (mergeTrees templateFolder destinationFolder outputFolder .appending
        Scan.defaultPattern false) (onlyFiles scatteredTrees) r w' ∧ r.faults = [] ∧
      w'.files.content? [['o'], ['n'], "a.env".toList] = some (Utf8.encode "A=1\n".toList) ∧
      Tells (mergeTrees templateFolder destinationFolder outputFolder .appending Scan.defaultPattern true)
        scatteredTrees r.unwritten := by
  have ended : endsClean (fun fs => fs.content? [['o'], ['n'], "a.env".toList] ==
      some (Utf8.encode "A=1\n".toList)) ((mergeTrees templateFolder destinationFolder outputFolder
        .appending Scan.defaultPattern false : Job World.Run TreeReport).run.run (onlyFiles scatteredTrees)) := by
    decide +kernel
  have ⟨r, w', run, clean, written⟩ := exists_of_endsClean ended
  have ⟨_, _, truth⟩ := keeps_and_tells_unwritten templateFolder destinationFolder outputFolder .appending
    Scan.defaultPattern
  exact ⟨r, w', run, clean, by simpa using written, truth (by decide +kernel) run clean⟩

-- Two files of the template, one of which the destination has, too.
def sharedTrees : FileSystem where
  entries := [
    ([['t']], .folder),
    ([['t'], "a.env".toList], .file (Utf8.encode "A=1\n".toList)),
    ([['t'], "b.env".toList], .file (Utf8.encode "B=1\n".toList)),
    ([['d']], .folder),
    ([['d'], "b.env".toList], .file (Utf8.encode "B=0\n".toList))]
  here := []
  distinct := by decide +kernel
  placed := by decide +kernel

-- The way to the destination goes through a folder that is missing, until the output is made in it.
def turningFolder : Path :=
  .ofText "x/../d".toList

def newFolder : Path :=
  .ofText "x/o".toList

def texts (r : TreeReport) : List Text :=
  r.outcomes.map (·.2.draft.text)

def foundTexts : Bool → List Text
  | true  => ["A=1\n".toList, "B=1\n".toList]
  | false => ["A=1\n".toList, "B=0\n".toList]

-- The scan of the template finds both files, in order.
theorem visits_sharedTrees : Scan.visits Scan.defaultPattern (sharedTrees.filesBelow templateFolder) =
    [["a.env".toList], ["b.env".toList]] := by
  have found : (sharedTrees.filesBelow templateFolder).filter (fun names =>
      Glob.matches Scan.defaultPattern (names.getLastD [])) = [["a.env".toList], ["b.env".toList]] := by
    decide +kernel
  rw [Scan.visits, found]
  exact List.mergeSort_of_pairwise (by decide +kernel)

theorem reads_sharedTrees : ∀ names ∈ [["a.env".toList], ["b.env".toList]],
    ∃ c, Reads sharedTrees (templateFolder.join (.relative names)) (some c) := by
  intro names hm
  cases hm
  case head    => exact ⟨Utf8.encode "A=1\n".toList, .content (by decide +kernel) (by decide +kernel)⟩
  case tail hm =>
    cases List.mem_singleton.mp hm
    exact ⟨Utf8.encode "B=1\n".toList, .content (by decide +kernel) (by decide +kernel)⟩

theorem exists_scan_sharedTrees : ∃ is : List FileInfo,
    Returns (Scan.run templateFolder Scan.defaultPattern false) (onlyFiles sharedTrees) ⟨is, []⟩
      (onlyFiles sharedTrees) ∧ is.map (·.relative) = ["a.env".toList, "b.env".toList] := by
  have ⟨is, describes, tells⟩ := Scan.exists_tells_foldlM ⟨[], []⟩ reads_sharedTrees
  have ⟨w₁, folded, _⟩ := tells (onlyFiles sharedTrees) rfl
  obtain ⟨rfl, _⟩ := Scan.of_foldlM_visit folded rfl
  refine ⟨is, Scan.returns_run_iff.mpr ⟨by decide +kernel, visits_sharedTrees ▸ folded⟩, ?_⟩
  exact (Scan.relative_of_describes describes).trans (by decide +kernel)

theorem exists_returns_of_turning_folder (check : Bool) :
    ∃ r w', Returns (mergeTrees templateFolder turningFolder newFolder .appending Scan.defaultPattern check)
      (onlyFiles sharedTrees) r w' ∧ r.faults = [] ∧ texts r = foundTexts check := by
  have ended : endsWith (fun r => r.faults.isEmpty && texts r == foundTexts check)
      ((([("a.env".toList, .onlyTemplate), ("b.env".toList, .onlyTemplate)] : List (Text × Task)).foldlM
        (attend (planOf sharedTrees templateFolder turningFolder newFolder .appending check))
          (.ofFaults [])).run.run (onlyFiles sharedTrees)) := by
    cases check <;> decide +kernel
  have ⟨r, w₁, attended, found⟩ := exists_of_endsWith ended
  have ⟨is, scanned, listed⟩ := exists_scan_sharedTrees
  have unvisited : Scan.visits Scan.defaultPattern (sharedTrees.filesBelow turningFolder) = [] := by
    decide +kernel
  have ordered : sorted ["a.env".toList, "b.env".toList] = ["a.env".toList, "b.env".toList] :=
    List.mergeSort_of_pairwise (by decide +kernel)
  have unscanned : Returns (Scan.run turningFolder Scan.defaultPattern false) (onlyFiles sharedTrees) ⟨[], []⟩
      (onlyFiles sharedTrees) := Scan.returns_run_iff.mpr ⟨by decide +kernel, unvisited ▸ rfl⟩
  have rounded : Returns (rounds (planOf sharedTrees templateFolder turningFolder newFolder .appending check)
      is [] (.ofFaults [])) (onlyFiles sharedTrees) r w₁ := by
    rw [rounds_eq, schedule_nil, listed, ordered]
    exact attended
  rw [Bool.and_eq_true_iff, List.isEmpty_iff, beq_iff_eq] at found
  have linkless : sharedTrees.Linkless := by decide +kernel
  have target : ((some newFolder).getD turningFolder).hasNull = false := by decide +kernel
  have ⟨w', run⟩ := exists_returns_of_rounds linkless target (by decide +kernel) scanned unscanned rounded
  exact ⟨r, w', run, found⟩

-- The check sees no destination, but the run does once it has made the folder on the way, and merges
-- what it reports as seeded.
theorem not_tells_unwritten_of_turning_folder :
    sharedTrees.Linkless ∧
    Apart (sharedTrees.place templateFolder) (sharedTrees.place turningFolder) ∧
    Apart (sharedTrees.place newFolder) (sharedTrees.place templateFolder) ∧
    Apart (sharedTrees.place newFolder) (sharedTrees.place turningFolder) ∧
    ∃ r w', Returns (mergeTrees templateFolder turningFolder newFolder .appending Scan.defaultPattern false)
        (onlyFiles sharedTrees) r w' ∧ r.faults = [] ∧
      ¬Tells (mergeTrees templateFolder turningFolder newFolder .appending Scan.defaultPattern true)
        sharedTrees r.unwritten := by
  have ⟨r, w', run, clean, found⟩ := exists_returns_of_turning_folder false
  have ⟨r₀, w₀, run₀, _, found₀⟩ := exists_returns_of_turning_folder true
  refine ⟨by decide +kernel, by decide +kernel, by decide +kernel, by decide +kernel, r, w', run, clean,
    fun truth => ?_⟩
  have ⟨w₁, told, _⟩ := truth (onlyFiles sharedTrees) rfl
  have same : r₀ = r.unwritten := Except.ok.inj (World.pair_eq_iff.mp (run₀.symm.trans told)).1
  have kept : texts r.unwritten = texts r := by simp [texts, TreeReport.unwritten]
  rw [← same, found₀, found] at kept
  revert kept
  decide +kernel

end Trees
end EnvMerge
