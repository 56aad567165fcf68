import EnvMerge.Proofs.Files.Progress
import EnvMerge.Proofs.Files.Schedule

namespace EnvMerge

open FileSystem Job Merge

namespace Trees

variable {fs : FileSystem} {plan : Plan} {pattern : Text} {names : List Text} {done : List (List Text)}
variable {task : Task} {agenda : List (List Text × Task)} {w w' : World} {r r' : TreeReport}
variable {p : Path} {loc : Location}

theorem returns_resolve_iff (hl : w.files.Linkless) : Returns (Job.resolve p) w loc w' ↔
    p.hasNull = false ∧ loc = w.files.place p ∧ w = w' := by
  simp [Job.resolve, returns_bind_iff, resolve_eq hl, eq_comm (a := loc)]

theorem foldlM_ite_nil {α β : Type} {m : Type → Type} [Monad m] {c : Prop} [Decidable c] (xs : List α)
    (f : β → α → m β) (b : β) :
    (if c then [] else xs).foldlM f b = if c then pure b else xs.foldlM f b := by
  split <;> rfl

-- A run resolves its folders, scans both trees and goes through its rounds.
theorem mergeTrees_eq (template destination : Path) (output : Option Path) (o : Options) (pattern : Text)
    (check : Bool) : (mergeTrees template destination output o pattern check : Job World.Run TreeReport) = do
      let target ← Job.resolve (output.getD destination)
      let base ← Job.resolve destination
      let ts ← Scan.run template pattern false
      let ds ← Scan.run destination pattern false
      let r ← rounds ⟨template, destination, output.getD destination, o, check, target == base⟩
        ts.files ds.files (.ofFaults (ts.faults ++ ds.faults))
      record (.mergedTrees r.counts)
      return r := by
  simp only [mergeTrees, rounds, foldlM_ite_nil, ite_bind, bind_assoc, pure_bind]

theorem exists_rounds {template destination : Path} {output : Option Path} {o : Options}
    (hl : w.files.Linkless) (h : Returns (mergeTrees template destination output o pattern false) w r w') :
    ∃ ts ds w₁ w₂ w₃, Returns (Scan.run template pattern false) w ts w₁ ∧
      Returns (Scan.run destination pattern false) w₁ ds w₂ ∧
      Returns (rounds ⟨template, destination, output.getD destination, o, false,
          w.files.place (output.getD destination) == w.files.place destination⟩ ts.files ds.files
        (.ofFaults (ts.faults ++ ds.faults))) w₂ r w₃ ∧ w'.files = w₃.files := by
  rw [mergeTrees_eq] at h
  have ⟨_, _, h₁, next₁⟩ := returns_bind_iff.mp h
  obtain ⟨_, rfl, rfl⟩ := (returns_resolve_iff hl).mp h₁
  have ⟨_, _, h₂, next₂⟩ := returns_bind_iff.mp next₁
  obtain ⟨_, rfl, rfl⟩ := (returns_resolve_iff hl).mp h₂
  have ⟨ts, w₁, hts, next₃⟩ := returns_bind_iff.mp next₂
  have ⟨ds, w₂, hds, next₄⟩ := returns_bind_iff.mp next₃
  have ⟨_, w₃, hr, next₅⟩ := returns_bind_iff.mp next₄
  have ⟨_, w₄, he, next₆⟩ := returns_bind_iff.mp next₅
  obtain ⟨rfl, rfl⟩ := returns_pure_iff.mp next₆
  exact ⟨ts, ds, w₁, w₂, w₃, hts, hds, hr, files_of_record he⟩

-- A run that notes no fault has found all files of both trees before it goes through them.
theorem exists_complete_rounds {template destination : Path} {output : Option Path} {o : Options}
    (suited : Suited w.files template destination (output.getD destination))
    (run : Returns (mergeTrees template destination output o pattern false) w r w') (clean : r.faults = []) :
    ∃ ts ds w₁, (template.hasNull = false ∧ Scan.Complete w.files pattern template ts) ∧
      (destination.hasNull = false ∧ Scan.Complete w.files pattern destination ds) ∧
      Returns (rounds ⟨template, destination, output.getD destination, o, false,
          w.files.place (output.getD destination) == w.files.place destination⟩ ts ds (.ofFaults [])) w r w₁ ∧
      w'.files = w₁.files := by
  have ⟨ts, ds, w₁, w₂, w₃, hts, hds, hr, same⟩ := exists_rounds suited.linkless run
  have faultless : ts.faults ++ ds.faults = [] := clean_of_attends (rounds_eq _ ▸ hr) clean
  have ⟨tClean, dClean⟩ := List.append_eq_nil_iff.mp faultless
  obtain ⟨rfl, tComplete⟩ :=
    Scan.complete_of_run suited.linkless suited.template_anchored hts tClean
  obtain ⟨rfl, dComplete⟩ :=
    Scan.complete_of_run suited.linkless suited.destination_anchored hds dClean
  have tNull := (Scan.returns_run_iff.mp hts).1
  have dNull := (Scan.returns_run_iff.mp hds).1
  rw [faultless] at hr
  exact ⟨ts.files, ds.files, w₃, ⟨tNull, tComplete⟩, ⟨dNull, dComplete⟩, hr, same⟩

section Attends

variable {ts ds : List FileInfo} (ready : Ready fs plan pattern)
  (ht : Scan.Complete fs pattern plan.template ts) (hd : Scan.Complete fs pattern plan.destination ds)
include ready ht hd

-- A step settles its path, when its task fits what the scans have found there.
theorem progress_of_step (progress : Progress fs plan pattern done w.files) (fresh : names ∉ done)
    (proper : Path.Proper names) (fits : task.Fits plan.inPlace ts ds (Path.relative names).toText)
    (h : Returns (task.step plan r (Path.relative names).toText) w r' w') :
    Progress fs plan pattern (names :: done) w'.files := by
  have tListed := lists_of_complete ht
  have dListed := lists_of_complete hd
  cases task
  all_goals
    simp only [Task.Fits, tListed.mem_toText_iff proper, dListed.mem_toText_iff proper,
      Option.not_isSome_iff_eq_none] at fits
  case both same =>
    have ⟨hta, hdb, digests⟩ := fits
    have ⟨a, ha⟩ := Option.isSome_iff_exists.mp hta
    have ⟨b, hb⟩ := Option.isSome_iff_exists.mp hdb
    have ⟨null, hr⟩ := hd.readable _ b hb
    have h : Returns (both plan (fun _ => same) r (Path.relative names).toText) w r' w' := h
    exact progress_of_both ready progress fresh ha hb
      (digests.symm.trans (sameDigest_eq (ht.digest _ a ha) (hd.digest _ b hb))) null hr h
  case onlyDestination =>
    have ⟨ha, hdb, _⟩ := fits
    have ⟨b, hb⟩ := Option.isSome_iff_exists.mp hdb
    exact progress_of_onlyDestination ready progress fresh ha hb h
  case onlyTemplate =>
    have ⟨hta, hb⟩ := fits
    have ⟨a, ha⟩ := Option.isSome_iff_exists.mp hta
    exact progress_of_onlyTemplate ready progress fresh ha hb h

-- Steps over different paths settle them all.
theorem progress_of_attends (nodup : (agenda.map (·.1)).Nodup) (fresh : ∀ e ∈ agenda, e.1 ∉ done)
    (proper : ∀ e ∈ agenda, Path.Proper e.1)
    (fits : ∀ e ∈ agenda, e.2.Fits plan.inPlace ts ds (Path.relative e.1).toText)
    (h : Returns ((agenda.map fun e => ((Path.relative e.1).toText, e.2)).foldlM (attend plan) r) w r' w')
    (clean : r'.faults = []) (progress : Progress fs plan pattern done w.files) :
    Progress fs plan pattern ((agenda.map (·.1)).reverse ++ done) w'.files := by
  induction agenda generalizing done r w
  case nil =>
    obtain ⟨_, rfl⟩ := returns_pure_iff.mp h
    exact progress
  case cons item agenda ih =>
    obtain ⟨names, task⟩ := item
    rw [List.map_cons, List.foldlM_cons] at h
    have ⟨r₁, w₁, ha, hf⟩ := returns_bind_iff.mp h
    have ⟨_, hs⟩ := step_of_attend ha (clean_of_attends hf clean)
    have ⟨apart, nodup⟩ := List.nodup_cons.mp nodup
    have first := progress_of_step ready ht hd progress (fresh _ List.mem_cons_self)
      (proper _ List.mem_cons_self) (fits _ List.mem_cons_self) hs
    have later : ∀ e ∈ agenda, e.1 ∉ names :: done := by
      intro e he hd
      have listed : e.1 ∈ agenda.map (·.1) := List.mem_map_of_mem he
      cases hd
      case head    => exact apart listed
      case tail hd => exact fresh e (List.mem_cons_of_mem _ he) hd
    have rest := ih nodup later (fun e he => proper e (List.mem_cons_of_mem _ he))
      (fun e he => fits e (List.mem_cons_of_mem _ he)) hf first
    simpa using rest

-- The rounds settle all paths that the scans have found, but leave a destination that is the output.
theorem exists_progress_of_rounds (hw : w.files = fs) (h : Returns (rounds plan ts ds r) w r' w')
    (clean : r'.faults = []) : ∃ done, Progress fs plan pattern done w'.files ∧
      ∀ names, names ∉ done → plan.template? fs pattern names = none ∧
        (plan.destination? fs pattern names = none ∨ plan.inPlace = true) := by
  subst hw
  have tListed := lists_of_complete ht
  have dListed := lists_of_complete hd
  have ⟨agenda, scheduled, nodup, mem⟩ := exists_agenda plan.inPlace tListed dListed
  rw [rounds_eq, scheduled] at h
  have proper : ∀ e ∈ agenda, Path.Proper e.1 := fun e he =>
    (lists_schedule plan.inPlace tListed dListed).proper e.1 ((mem e.1).mp (List.mem_map_of_mem he))
  have fits : ∀ e ∈ agenda, e.2.Fits plan.inPlace ts ds (Path.relative e.1).toText := fun e he =>
    mem_schedule_iff.mp (scheduled ▸ List.mem_map_of_mem he)
  have progress := progress_of_attends ready ht hd nodup (fun _ _ => List.not_mem_nil) proper fits h clean
    (.start w.files plan pattern)
  refine ⟨_, progress, fun names hn => ?_⟩
  rw [List.append_nil, List.mem_reverse, mem, not_or, not_and_or, Option.not_isSome_iff_eq_none,
    Option.not_isSome_iff_eq_none, Bool.not_eq_false] at hn
  exact hn

end Attends

theorem Progress.settles (ready : Ready fs plan pattern) {fs' : FileSystem}
    (h : Progress fs plan pattern done fs')
    (rest : names ∉ done → plan.template? fs pattern names = none ∧
      (plan.destination? fs pattern names = none ∨ plan.inPlace = true)) :
    Settles plan.options (plan.template? fs pattern names) (plan.destination? fs pattern names)
      (plan.output? fs names) (plan.output? fs' names) := by
  by_cases hn : names ∈ done
  case pos => exact h.settled names hn
  case neg =>
    have ⟨ht, hd⟩ := rest hn
    rw [h.output?_eq hn, ht]
    cases hb : plan.destination? fs pattern names with
    | none   => exact .absent
    | some b =>
      have inPlace := hd.resolve_left (by simp [hb])
      have held : plan.output? fs names = some b := by
        rw [Plan.output?, ready.inPlace.mp inPlace, (found?_eq_some_iff.mp hb).2.2.2]
      rw [held]
      exact .carried

-- A run that notes no fault makes of each path what it should, and touches nothing else.
theorem settles_of_returns {template destination : Path} {output : Option Path} {o : Options}
    (suited : Suited w.files template destination (output.getD destination))
    (told : ToldApart o (w.files.found? pattern template) (w.files.found? pattern destination)
      fun names => w.files.content? (w.files.place (output.getD destination) ++ names))
    (run : Returns (mergeTrees template destination output o pattern false) w r w')
    (clean : r.faults = []) :
    (∀ names, Settles o (w.files.found? pattern template names) (w.files.found? pattern destination names)
        (w.files.content? (w.files.place (output.getD destination) ++ names))
        (w'.files.content? (w.files.place (output.getD destination) ++ names))) ∧
      (∀ loc, ¬w.files.place (output.getD destination) <+: loc →
        w'.files.content? loc = w.files.content? loc) ∧
      w'.files.Linkless := by
  have ⟨ts, ds, w₁, ⟨_, tComplete⟩, ⟨_, dComplete⟩, hr, same⟩ := exists_complete_rounds suited run clean
  have ready : Ready w.files ⟨template, destination, output.getD destination, o, false,
      w.files.place (output.getD destination) == w.files.place destination⟩ pattern :=
    ⟨suited, told, rfl, by simp⟩
  have ⟨done, progress, rest⟩ := exists_progress_of_rounds ready tComplete dComplete rfl hr clean
  rw [same]
  refine ⟨fun names => ?_, fun loc hloc => ?_, progress.grows.linkless suited.linkless⟩
  case refine_1 =>
    have settles := progress.settles ready (rest names)
    rw [Plan.output?, Plan.output?, progress.grows.place_eq] at settles
    exact settles
  case refine_2 =>
    refine progress.grows.content loc ?_
    rintro ⟨names, _, he⟩
    exact hloc (he ▸ List.prefix_append _ _)

-- A world with nothing in it but files.
def onlyFiles (fs : FileSystem) : World :=
  ⟨fs, [], [], [], false⟩

-- Whether a run has noted no fault and has left files as they are wanted.
def endsClean (wanted : FileSystem → Bool) : Except Failure TreeReport × World → Bool
  | (.ok r, w)    => r.faults.isEmpty && wanted w.files
  | (.error _, _) => false

theorem exists_of_endsClean {x : Job World.Run TreeReport} {wanted : FileSystem → Bool}
    (h : endsClean wanted (x.run.run w)) :
    ∃ r w', Returns x w r w' ∧ r.faults = [] ∧ wanted w'.files := by
  have ⟨r, w', returns, ended⟩ := exists_returns_of_ended (P := (endsClean wanted ·)) (fun _ _ => nofun) h
  have ⟨clean, found⟩ := Bool.and_eq_true_iff.mp ended
  exact ⟨r, w', returns, List.isEmpty_iff.mp clean, found⟩

-- Whether a run returns a report as it is wanted.
def endsWith (wanted : TreeReport → Bool) : Except Failure TreeReport × World → Bool
  | (.ok r, _)    => wanted r
  | (.error _, _) => false

theorem exists_of_endsWith {x : Job World.Run TreeReport} {wanted : TreeReport → Bool}
    (h : endsWith wanted (x.run.run w)) : ∃ r w', Returns x w r w' ∧ wanted r :=
  exists_returns_of_ended (P := (endsWith wanted ·)) (fun _ _ => nofun) h

def templateFolder : Path :=
  .ofText ['t']

def destinationFolder : Path :=
  .ofText ['d']

def outputFolder : Path :=
  .ofText ['o']

-- Two trees with a file each that is to be merged, and one that is not.
def smallTrees : FileSystem where
  entries := [
    ([['t']], .folder),
    ([['t'], "a.env".toList], .file (Utf8.encode "A=1\n".toList)),
    ([['d']], .folder),
    ([['d'], "a.env".toList], .file (Utf8.encode "A=0\n".toList)),
    ([['d'], "b.txt".toList], .file (Utf8.encode "B=0\n".toList))]
  here := []
  distinct := by decide +kernel
  placed := by decide +kernel

theorem toldApart_smallTrees : ToldApart .appending
    (smallTrees.found? Scan.defaultPattern templateFolder)
    (smallTrees.found? Scan.defaultPattern destinationFolder)
    fun names => smallTrees.content? (smallTrees.place outputFolder ++ names) := by
  have tPlace : smallTrees.place templateFolder = [['t']] := by decide +kernel
  have dPlace : smallTrees.place destinationFolder = [['d']] := by decide +kernel
  have oPlace : smallTrees.place outputFolder = [['o']] := by decide +kernel
  have nothing (names : List Text) (c : Bytes) : smallTrees.content? ([['o']] ++ names) ≠ some c :=
    fun h => by simpa [smallTrees] using mem_entries_of_content? h
  rw [oPlace]
  intro a b h
  cases h
  case copies ho  => exact absurd ho (nothing _ _)
  case results ho => exact absurd ho (nothing _ _)
  case versions names ht hd =>
    have ht := mem_entries_of_content? (found?_eq_some_iff.mp ht).2.2.2
    have hd := mem_entries_of_content? (found?_eq_some_iff.mp hd).2.2.2
    rw [tPlace] at ht
    rw [dPlace] at hd
    simp [smallTrees] at ht hd
    obtain ⟨rfl, rfl⟩ := ht
    simp at hd
    subst hd
    decide +kernel

theorem settles_of_small_trees :
    ∃ r w', Returns (mergeTrees templateFolder destinationFolder outputFolder .appending
        Scan.defaultPattern false) (onlyFiles smallTrees) r w' ∧ r.faults = [] ∧
      (∃ draft, Yields .appending (.bytes (Utf8.encode "A=1\n".toList))
          (.bytes (Utf8.encode "A=0\n".toList)) draft ∧
        w'.files.content? [['o'], "a.env".toList] = some (Utf8.encode draft.text)) ∧
      w'.files.content? [['d'], "a.env".toList] = some (Utf8.encode "A=0\n".toList) := by
  have ended : endsClean (fun _ => true) ((mergeTrees templateFolder destinationFolder outputFolder
      .appending Scan.defaultPattern false : Job World.Run TreeReport).run.run (onlyFiles smallTrees)) := by
    decide +kernel
  have ⟨r, w', run, clean, _⟩ := exists_of_endsClean ended
  have ⟨settles, others, _⟩ := settles_of_returns (by decide +kernel) toldApart_smallTrees run clean
  refine ⟨r, w', run, clean, ?merged, ?kept⟩
  case merged =>
    have template : smallTrees.found? Scan.defaultPattern templateFolder ["a.env".toList] =
        some (Utf8.encode "A=1\n".toList) := by decide +kernel
    have destination : smallTrees.found? Scan.defaultPattern destinationFolder ["a.env".toList] =
        some (Utf8.encode "A=0\n".toList) := by decide +kernel
    have merged := settles ["a.env".toList]
    rw [onlyFiles, template, destination] at merged
    exact merged.exists_yields (by decide +kernel)
  case kept =>
    refine (others _ ?_).trans ?_ <;> decide +kernel

def deep : Text :=
  "deep".toList

-- A destination with a file two folders down.
def deepTrees : FileSystem where
  entries := [
    ([['t']], .folder),
    ([['d']], .folder),
    ([['d'], deep], .folder),
    ([['d'], deep, "b.env".toList], .file (Utf8.encode "B=1\n".toList))]
  here := []
  distinct := by decide +kernel
  placed := by decide +kernel

-- The way to the destination takes so many turns that the next folder is out of reach.
def windingFolder : Path :=
  .relative (['d'] :: (List.replicate 818 [['.', '.'], ['d']]).flatten)

-- What stands in a folder out of reach is not carried over, and no fault tells of it.
theorem not_settles_of_deep_trees :
    Suited deepTrees templateFolder windingFolder outputFolder ∧
    ToldApart .appending
      (deepTrees.matching? Scan.defaultPattern (deepTrees.place templateFolder))
      (deepTrees.matching? Scan.defaultPattern (deepTrees.place windingFolder))
      (fun names => deepTrees.content? (deepTrees.place outputFolder ++ names)) ∧
    ∃ r w', Returns (mergeTrees templateFolder windingFolder outputFolder .appending
        Scan.defaultPattern false) (onlyFiles deepTrees) r w' ∧ r.faults = [] ∧
      ¬∀ names, Settles .appending
        (deepTrees.matching? Scan.defaultPattern (deepTrees.place templateFolder) names)
        (deepTrees.matching? Scan.defaultPattern (deepTrees.place windingFolder) names)
        (deepTrees.content? (deepTrees.place outputFolder ++ names))
        (w'.files.content? (deepTrees.place outputFolder ++ names)) := by
  have tPlace : deepTrees.place templateFolder = [['t']] := by decide +kernel
  have oPlace : deepTrees.place outputFolder = [['o']] := by decide +kernel
  have tNothing (names : List Text) (c : Bytes) : deepTrees.content? ([['t']] ++ names) ≠ some c :=
    fun h => by simpa [deepTrees] using mem_entries_of_content? h
  have oNothing (names : List Text) (c : Bytes) : deepTrees.content? ([['o']] ++ names) ≠ some c :=
    fun h => by simpa [deepTrees] using mem_entries_of_content? h
  refine ⟨by decide +kernel, ?told, ?run⟩
  case told =>
    rw [tPlace, oPlace]
    intro a b h
    cases h
    case versions ht hd => exact absurd (matching?_eq_some_iff.mp ht).2.2 (tNothing _ _)
    case copies ho      => exact absurd ho (oNothing _ _)
    case results ho     => exact absurd ho (oNothing _ _)
  case run =>
    have ended : endsClean (fun fs => (fs.content? [['o'], deep, "b.env".toList]).isNone)
        ((mergeTrees templateFolder windingFolder outputFolder .appending Scan.defaultPattern
          false : Job World.Run TreeReport).run.run (onlyFiles deepTrees)) := by
      decide +kernel
    obtain ⟨r, w', run, clean, nothing⟩ := exists_of_endsClean ended
    refine ⟨r, w', run, clean, fun settles => ?_⟩
    have template : deepTrees.matching? Scan.defaultPattern (deepTrees.place templateFolder)
        [deep, "b.env".toList] = none := by decide +kernel
    have destination : deepTrees.matching? Scan.defaultPattern (deepTrees.place windingFolder)
        [deep, "b.env".toList] = some (Utf8.encode "B=1\n".toList) := by decide +kernel
    have lost := settles [deep, "b.env".toList]
    rw [template, destination, oPlace, List.cons_append, List.nil_append,
      Option.isNone_iff_eq_none.mp nothing] at lost
    cases lost

end Trees
end EnvMerge
