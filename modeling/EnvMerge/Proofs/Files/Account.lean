import EnvMerge.Proofs.Files.Failures
import EnvMerge.Proofs.Files.Ledger
import EnvMerge.Proofs.Files.Loops

namespace EnvMerge

open FileSystem Job Merge

namespace Scan

variable {folder : Path} {pattern : Text} {found : List (List Text)} {w w' : World} {r r' : Report}

-- The relative paths of the files that a scan has read.
def Report.paths (r : Report) : List Text :=
  r.files.map (·.relative)

-- Relative paths that a scan can list: of proper names that can be asked for, and no path twice.
structure Listing (paths : List Text) : Prop where
  nodup : paths.Nodup
  named : ∀ path ∈ paths, ∃ names, path = (Path.relative names).toText ∧ Path.Proper names ∧
    (Path.relative names).hasNull = false

theorem exists_sublist_of_foldlM_visit (h : Returns (found.foldlM (visit folder false) r) w r' w') :
    ∃ ns : List (List Text), ns.Sublist found ∧
      r'.paths = r.paths ++ ns.map fun names => (Path.relative names).toText := by
  induction found generalizing r w
  case nil =>
    obtain ⟨rfl, _⟩ := returns_pure_iff.mp h
    exact ⟨[], .slnil, by simp⟩
  case cons names found ih =>
    rw [List.foldlM_cons] at h
    have ⟨r₁, w₁, hv, hf⟩ := returns_bind_iff.mp h
    have ⟨ns, sub, listed⟩ := ih hf
    obtain ⟨i, _, describes, rfl⟩ | ⟨f, rfl⟩ := visit_cases hv
    case inl =>
      refine ⟨names :: ns, sub.cons_cons names, listed.trans ?_⟩
      simp [Report.paths, describes.relative]
    case inr => exact ⟨ns, sub.cons names, listed⟩

theorem listing_of_run (h : Returns (run folder pattern false) w r w') :
    Listing r.paths := by
  have ⟨ns, sub, listed⟩ := exists_sublist_of_foldlM_visit (returns_run_iff.mp h).2
  have below : ∀ names ∈ ns, names ∈ w.files.filesBelow folder :=
    fun names hm => (mem_visits_iff.mp (sub.subset hm)).1
  simp only [Report.paths, List.map_nil, List.nil_append] at listed
  rw [Report.paths, listed]
  constructor
  case nodup =>
    have nodup := (nodup_visits (nodup_filesBelow w.files folder)).sublist sub
    exact nodup.map_on fun n hm n' hm' same => Path.relative_toText_inj
      (proper_of_mem_filesBelow (below n hm)) (proper_of_mem_filesBelow (below n' hm')) same
  case named =>
    intro path hm
    obtain ⟨names, hn, rfl⟩ := List.mem_map.mp hm
    exact ⟨names, rfl, proper_of_mem_filesBelow (below names hn), hasNull_of_mem_filesBelow (below names hn)⟩

end Scan

-- What the scans say of a path that comes under a heading.
def Heading.Fits (append : Bool) (ts ds : Scan.Report) (path : Text) : Heading → Prop
  | .merged    => path ∈ ts.paths ∧ path ∈ ds.paths ∧ Trees.sameDigest ts.files ds.files path = false
  | .identical => path ∈ ts.paths ∧ path ∈ ds.paths ∧ Trees.sameDigest ts.files ds.files path = true
  | .copied    => path ∉ ts.paths ∧ path ∈ ds.paths
  | .seeded    => path ∈ ts.paths ∧ path ∉ ds.paths ∧ append = true
  | .skipped   => path ∈ ts.paths ∧ path ∉ ds.paths ∧ append = false

namespace Trees

variable {plan : Plan} {task : Task} {path : Text} {names : List Text} {w w' : World} {r r' : TreeReport}
variable {inPlace append : Bool} {ts ds : Scan.Report} {later : List Fault}

section Schedule

-- What a path calls for is what the scans say of it.
theorem fits_of_mem_schedule (append : Bool) (h : (path, task) ∈ schedule inPlace ts.files ds.files) :
    (task.heading append).Fits append ts ds path := by
  have fits := mem_schedule_iff.mp h
  cases task
  case both same       => cases same <;> exact fits
  case onlyDestination => exact ⟨fits.1, fits.2.1⟩
  case onlyTemplate    => cases append <;> exact ⟨fits.1, fits.2, rfl⟩

end Schedule

-- How a report accounts for the files that two scans have read: under which headings it names them, and
-- which of them it notes with a fault.
structure Accounts (inPlace append : Bool) (ts ds : Scan.Report) (r : TreeReport)
    (later : List Fault) : Prop where
  faults    : r.faults = ts.faults ++ ds.faults ++ later
  once      : ∀ path, (r.places later).count path =
    if path ∈ ts.paths ∨ path ∈ ds.paths ∧ inPlace = false then 1 else 0
  called    : ∀ k, ∀ path ∈ r.under k, k.Fits append ts ds path
  seeded    : append = false → r.seeded = []
  skipped   : append = true → r.skipped = []
  changed   : r.changed.Nodup ∧ r.changed ⊆ r.merged ++ r.identical ++ r.copied ++ r.seeded
  outcomes  : (r.outcomes.map (·.1)).Perm (r.merged ++ r.seeded)
  failed    : ∀ f ∈ later, f.relative ∉ r.changed ∧ f.relative ∉ r.outcomes.map (·.1)

theorem Ledger.accounts (ht : ts.paths.Nodup) (hd : ds.paths.Nodup)
    (h : Ledger append (ts.faults ++ ds.faults) (schedule inPlace ts.files ds.files) r later) :
    Accounts inPlace append ts ds r later := by
  have nodup : ((schedule inPlace ts.files ds.files).map (·.1)).Nodup := nodup_schedule ht hd
  have called (k : Heading) (path : Text) (hm : path ∈ r.under k) : k.Fits append ts ds path := by
    obtain ⟨task, hs, hk⟩ := h.called k path hm
    exact hk ▸ fits_of_mem_schedule append hs
  refine ⟨h.faults, fun path => ?once, called, fun off => ?seeded, fun on => ?skipped,
    ⟨h.nodup_changed nodup, h.changed_subset⟩, h.outcomes, fun f hf => h.not_mem_of_fault nodup hf⟩
  case once =>
    rw [h.once, nodup.count]
    exact if_congr mem_map_fst_schedule_iff rfl rfl
  case seeded =>
    refine List.eq_nil_iff_forall_not_mem.mpr fun path hm => ?_
    exact Bool.false_ne_true (off.symm.trans (called .seeded path hm).2.2)
  case skipped =>
    refine List.eq_nil_iff_forall_not_mem.mpr fun path hm => ?_
    exact Bool.false_ne_true ((called .skipped path hm).2.2.symm.trans on)

section Raises

variable (answers : plan.options.Answers) (template : plan.template.hasNull = false)
  (destination : plan.destination.hasNull = false) (output : plan.output.hasNull = false)
include answers template destination output

-- A step over names that can be asked for fails only in ways that are noted.
theorem raises_step (task : Task) (r : TreeReport) (proper : Path.Proper names)
    (known : (Path.relative names).hasNull = false) :
    Raises task.catches (task.step plan r (Path.relative names).toText) := by
  have under {folder : Path} (h : folder.hasNull = false) :
      (below folder (Path.relative names).toText).hasNull = false := by
    rw [below_toText folder proper, Path.hasNull_join_relative, h, known]
    rfl
  have carried : Raises Failure.isSystem (carry plan (Path.relative names).toText) := by
    refine (raises_differ (under destination) (under output)).bind fun _ => .ite (.ite ?_ (raises_pure _ _))
      (raises_pure _ _)
    exact (raises_copy (under destination) (under output)).bind fun _ => raises_pure _ _
  have merged : Raises readable (mergeAt plan (Path.relative names).toText) :=
    raises_mergeFiles answers plan.check (under template) (under destination) (under output)
  cases task
  case both same =>
    refine .ite (.ite (raises_pure _ _) ?_) (merged.bind fun _ => raises_pure _ _)
    exact carried.readable_of_isSystem.bind fun _ => raises_pure _ _
  case onlyDestination => exact carried.bind fun _ => raises_pure _ _
  case onlyTemplate    => exact .ite (merged.bind fun _ => raises_pure _ _) (raises_pure _ _)

theorem raises_attend (r : TreeReport) (task : Task) (proper : Path.Proper names)
    (known : (Path.relative names).hasNull = false) :
    Raises (fun _ => false) (attend plan r ((Path.relative names).toText, task)) := by
  refine (raises_step answers template destination output task r proper known).tryCatch fun e he => ?_
  rw [if_pos he]
  exact raises_pure _ _

-- The rounds return over whatever the scans have read.
theorem exists_returns_rounds (ht : Scan.Listing ts.paths) (hd : Scan.Listing ds.paths)
    (r : TreeReport) (w : World) : ∃ r' w', Returns (rounds plan ts.files ds.files r) w r' w' := by
  rw [rounds_eq]
  refine Raises.exists_returns (.foldlM (fun r (path, task) hm => ?_) r) w
  have named : ∃ names, path = (Path.relative names).toText ∧ Path.Proper names ∧
      (Path.relative names).hasNull = false := by
    cases mem_map_fst_schedule_iff.mp (List.mem_map_of_mem hm)
    case inl hp => exact ht.named path hp
    case inr hp => exact hd.named path hp.1
  obtain ⟨names, rfl, proper, known⟩ := named
  exact raises_attend answers template destination output r task proper known

end Raises

-- In a file system whose links do not lead back to themselves, a merge of trees returns. It attends to all
-- that its scans have read, one path after the other, and its report accounts for each path once.
theorem proceeds_and_accounts (template destination : Path) (output : Option Path) (o : Options)
    (pattern : Text) (check : Bool) (here : w.files.node? w.files.here = some .folder)
    (loopless : w.files.Loopless) (ht : template.hasNull = false) (hd : destination.hasNull = false)
    (ho : (output.getD destination).hasNull = false) (answers : o.Answers) :
    ∃ target base ts ds later r w₁ w', w.files.resolve (output.getD destination) = .ok target ∧
      w.files.resolve destination = .ok base ∧
      Returns (Scan.run template pattern false) w ts w ∧
      Returns (Scan.run destination pattern false) w ds w ∧
      Proceeds ⟨template, destination, output.getD destination, o, check, target == base⟩
        (schedule (target == base) ts.files ds.files) (.ofFaults (ts.faults ++ ds.faults)) w later r w₁ ∧
      Returns (mergeTrees template destination output o pattern check) w r w' ∧ w'.files = w₁.files ∧
      Accounts (target == base) o.append ts ds r later := by
  have ⟨target, meant⟩ := exists_resolve loopless (node?_start here (output.getD destination))
  have ⟨base, meant'⟩ := exists_resolve loopless (node?_start here destination)
  have ⟨ts, hts⟩ := Scan.exists_returns_run pattern ht w
  have ⟨ds, hds⟩ := Scan.exists_returns_run pattern hd w
  have tListing := Scan.listing_of_run hts
  have dListing := Scan.listing_of_run hds
  have ⟨r, w₁, rounded⟩ : ∃ r w₁, Returns (rounds
      ⟨template, destination, output.getD destination, o, check, target == base⟩ ts.files ds.files
        (.ofFaults (ts.faults ++ ds.faults))) w r w₁ :=
    exists_returns_rounds answers ht hd ho tListing dListing _ w
  have ⟨later, proceeds⟩ := exists_proceeds (rounds_eq _ ▸ rounded)
  have ledger := (Ledger.start o.append (ts.faults ++ ds.faults)).follow proceeds
  refine ⟨target, base, ts, ds, later, r, w₁, { w₁ with events := w₁.events ++ [.mergedTrees r.counts] },
    meant, meant', hts, hds, proceeds, ?_, rfl, ledger.accounts tListing.nodup dListing.nodup⟩
  rw [mergeTrees_eq]
  refine returns_bind_iff.mpr ⟨target, w, returns_resolve ho meant, ?_⟩
  refine returns_bind_iff.mpr ⟨base, w, returns_resolve hd meant', ?_⟩
  refine returns_bind_iff.mpr ⟨ts, w, hts, returns_bind_iff.mpr ⟨ds, w, hds, ?_⟩⟩
  exact returns_bind_iff.mpr ⟨r, w₁, rounded, rfl⟩

-- A template that is no text, and a destination that is a link to the folder with its file.
def linkedTrees : FileSystem where
  entries := [
    ([['t']], .folder),
    ([['t'], "a.env".toList], .file [0xff]),
    ([['d']], .link ['r']),
    ([['r']], .folder),
    ([['r'], "b.env".toList], .file (Utf8.encode "B=0\n".toList))]
  here := []
  distinct := by decide +kernel
  placed := by decide +kernel

-- The failure is noted, and the other file is still copied.
theorem accounts_of_linked_trees :
    ∃ ts ds later r w', Returns (mergeTrees templateFolder destinationFolder outputFolder .appending
        Scan.defaultPattern false) (onlyFiles linkedTrees) r w' ∧
      Accounts false true ts ds r later ∧ r.copied = ["b.env".toList] ∧ r.changed = ["b.env".toList] ∧
      r.faults.map (·.relative) = ["a.env".toList] := by
  have ⟨target, base, ts, ds, later, r, w₁, w', meant, meant', _, _, _, run, _, accounts⟩ :=
    proceeds_and_accounts (w := onlyFiles linkedTrees) templateFolder destinationFolder outputFolder
      .appending Scan.defaultPattern false (by decide +kernel) (by decide +kernel) (by decide +kernel)
      (by decide +kernel) (by decide +kernel) Options.appending_answers
  have ended : endsWith (fun r => r.copied == ["b.env".toList] && r.changed == ["b.env".toList] &&
      r.faults.map (·.relative) == ["a.env".toList]) ((mergeTrees templateFolder destinationFolder outputFolder
        .appending Scan.defaultPattern false : Job World.Run TreeReport).run.run (onlyFiles linkedTrees)) := by
    decide +kernel
  have ⟨r', _, run', found⟩ := exists_of_endsWith ended
  cases run.symm.trans run'
  have apart : (target == base) = false := by
    have outside : linkedTrees.resolve outputFolder = .ok [['o']] := by decide +kernel
    have inside : linkedTrees.resolve destinationFolder = .ok [['r']] := by decide +kernel
    cases outside.symm.trans meant
    cases inside.symm.trans meant'
    decide
  simp only [Bool.and_eq_true, beq_iff_eq] at found
  exact ⟨ts, ds, later, r, w', run, apart ▸ accounts, found.1.1, found.1.2, found.2⟩

end Trees
end EnvMerge
