import EnvMerge.Proofs.Files.Verdict

namespace EnvMerge

open FileSystem Job Merge

namespace Trees

-- What a run has noted about a path.
structure Entry where
  names : List Text
  task : Task
  verdict : Verdict

namespace Entry

def path (e : Entry) : Text :=
  (Path.relative e.names).toText

def item (e : Entry) : Text × Task :=
  (e.path, e.task)

def revise (f : Verdict → Verdict) (e : Entry) : Entry :=
  { e with verdict := f e.verdict }

end Entry

def Plan.report (plan : Plan) (r : TreeReport) (log : List Entry) : TreeReport :=
  log.foldl (fun r e => plan.note r e.path e.verdict) r

-- A change that carries over from verdicts to what is noted of them carries over to reports.
theorem Plan.report_revise {plan plan' : Plan} {f : Verdict → Verdict} {g : TreeReport → TreeReport}
    (note : ∀ r path v, plan'.note (g r) path (f v) = g (plan.note r path v)) (r : TreeReport)
    (log : List Entry) : plan'.report (g r) (log.map (.revise f)) = g (plan.report r log) := by
  induction log generalizing r
  case nil => rfl
  case cons e log ih =>
    have first := note r e.path e.verdict
    simp only [Plan.report, List.map_cons, List.foldl_cons]
    exact first ▸ ih _

variable {fs fs' fs'' : FileSystem} {plan : Plan} {task : Task} {filled : Location → Prop}
variable {agenda : List (List Text × Task)} {log : List Entry} {path pattern : Text}
variable {w w' : World} {r r' : TreeReport}

-- The induction is on the agenda. What later steps find is taken back to the start, and what earlier
-- steps have settled stays settled to the end.
theorem exists_log_of_attends (sited : Sited w.files plan) (check : plan.check = false)
    (proper : ∀ e ∈ agenda, Path.Proper e.1) (nodup : (agenda.map (·.1)).Nodup)
    (h : Returns ((agenda.map fun e => ((Path.relative e.1).toText, e.2)).foldlM (attend plan) r) w r' w')
    (clean : r'.faults = []) : ∃ log : List Entry, agenda = log.map (fun e => (e.names, e.task)) ∧
      (∀ e ∈ log, Judges w.files plan e.names e.task e.verdict) ∧ r' = plan.report r log ∧
        Fills w.files w'.files (plan.Targets w.files (agenda.map (·.1))) ∧
          ((∀ e ∈ agenda, Separate w.files plan e.1) →
            ∀ e ∈ log, Judges w'.files plan e.names e.task e.verdict.settled) := by
  induction agenda generalizing r w
  case nil =>
    obtain ⟨rfl, rfl⟩ := returns_pure_iff.mp h
    exact ⟨[], rfl, by simp, rfl, .refl _ _, by simp⟩
  case cons item agenda ih =>
    obtain ⟨names, task⟩ := item
    rw [List.map_cons, List.foldlM_cons] at h
    have ⟨r₁, w₁, ha, hf⟩ := returns_bind_iff.mp h
    have ⟨_, hs⟩ := step_of_attend ha (clean_of_attends hf clean)
    have here := proper _ List.mem_cons_self
    have ⟨v, judges, note, fills, later⟩ := exists_judges_of_step sited check here hs
    have ⟨fresh, nodup⟩ := List.nodup_cons.mp nodup
    have ⟨log, ha, judged, report, fills', rest⟩ := ih (sited.grows fills.toGrows)
      (fun e he => proper e (List.mem_cons_of_mem _ he)) nodup hf
    have listed : ∀ e ∈ log, (e.names, e.task) ∈ agenda := fun e he => ha ▸ List.mem_map_of_mem he
    have other : ∀ e ∈ log, e.names ∉ [names] := by
      intro e he hn
      have hm : e.names ∈ agenda.map (·.1) := List.mem_map_of_mem (listed e he)
      exact fresh (List.mem_singleton.mp hn ▸ hm)
    refine ⟨⟨names, task, v⟩ :: log, ?agenda, ?judged, ?report, ?fills, fun separate => ?settled⟩
    case agenda => rw [List.map_cons, ← ha]
    case report => rw [report, note]; rfl
    case judged =>
      intro e he
      cases he
      case head    => exact judges
      case tail he =>
        exact (judged e he).back sited fills.toGrows (other e he)
          (proper _ (List.mem_cons_of_mem _ (listed e he)))
    case fills =>
      rw [Plan.targets_eq fills.toGrows] at fills'
      refine (fills.weaken fun _ => Plan.Targets.mono ?_).trans (fills'.weaken fun _ => Plan.Targets.mono ?_)
      case refine_1 => simp
      case refine_2 => exact List.subset_cons_self _ _
    case settled =>
      have separate₁ : ∀ e ∈ (names, task) :: agenda, Separate w₁.files plan e.1 :=
        fun e he => (separate e he).grows fills.toGrows
      intro e he
      cases he
      case head =>
        exact (later (separate _ List.mem_cons_self)).onward v.changed_settled (sited.grows fills.toGrows)
          (separate₁ _ List.mem_cons_self) fills' fresh here
      case tail he => exact rest (fun e he => separate₁ e (List.mem_cons_of_mem _ he)) e he

-- A run over paths whose verdicts have nothing to write tells them all.
theorem tells_attends (proper : ∀ e ∈ log, Path.Proper e.names)
    (judged : ∀ e ∈ log, Judges fs plan e.names e.task e.verdict)
    (kept : ∀ e ∈ log, (e.verdict.changed && !plan.check) = false) (r : TreeReport) :
    Tells ((log.map Entry.item).foldlM (attend plan) r) fs (plan.report r log) := by
  induction log generalizing r
  case nil => exact tells_pure r fs
  case cons e log ih =>
    rw [List.map_cons, List.foldlM_cons]
    have first := tells_step (proper e List.mem_cons_self) (judged e List.mem_cons_self)
      (kept e List.mem_cons_self) r
    exact first.tryCatch.bind (ih (fun e he => proper e (List.mem_cons_of_mem _ he))
      (fun e he => judged e (List.mem_cons_of_mem _ he)) (fun e he => kept e (List.mem_cons_of_mem _ he)) _)

-- The plan of a merge of trees, and where it writes in place.
def planOf (fs : FileSystem) (template destination : Path) (output : Option Path) (o : Options) (check : Bool) :
    Plan :=
  ⟨template, destination, output.getD destination, o, check,
    fs.place (output.getD destination) == fs.place destination⟩

-- The course of a run: its log accounts for all that its scans have found.
structure Course (fs : FileSystem) (plan : Plan) (pattern : Text) (log : List Entry) (fs' : FileSystem) :
    Prop where
  output_null : plan.output.hasNull = false
  template    : Scan.Legible fs pattern plan.template
  destination : Scan.Legible fs pattern plan.destination
  scheduled   : ∃ ts ds, Scan.Complete fs pattern plan.template ts ∧
    Scan.Complete fs pattern plan.destination ds ∧ schedule plan.inPlace ts ds = log.map Entry.item
  proper      : ∀ e ∈ log, Path.Proper e.names
  short       : ∀ e ∈ log, ∀ name ∈ e.names, (Utf8.encode name).length ≤ maxNameLength
  judged      : ∀ e ∈ log, Judges fs plan e.names e.task e.verdict
  fills       : Fills fs fs' (fs.place plan.output <+: ·)
  settled     : (∀ e ∈ log, Separate fs plan e.names) →
    ∀ e ∈ log, Judges fs' plan e.names e.task e.verdict.settled

variable {template destination : Path} {output : Option Path} {o : Options} {files : List FileInfo}
variable {folder : Path}

theorem legible_of_complete (null : folder.hasNull = false)
    (h : Scan.Complete fs pattern folder files) : Scan.Legible fs pattern folder where
  null            := null
  readable _ _ hc :=
    have ⟨known, hr⟩ := h.readable _ _ hc
    .content known hr

theorem hasNull_of_mergeTrees {check : Bool} (hl : w.files.Linkless)
    (h : Returns (mergeTrees template destination output o pattern check) w r w') :
    (output.getD destination).hasNull = false := by
  rw [mergeTrees_eq] at h
  have ⟨_, _, h, _⟩ := returns_bind_iff.mp h
  exact ((returns_resolve_iff hl).mp h).1

-- A run whose rounds return goes through.
theorem exists_returns_of_rounds {check : Bool} {ts ds : Scan.Report} {w₁ : World} (hl : w.files.Linkless)
    (target : (output.getD destination).hasNull = false) (base : destination.hasNull = false)
    (ht : Returns (Scan.run template pattern false) w ts w)
    (hd : Returns (Scan.run destination pattern false) w ds w)
    (hr : Returns (rounds (planOf w.files template destination output o check) ts.files ds.files
      (.ofFaults (ts.faults ++ ds.faults))) w r w₁) :
    ∃ w', Returns (mergeTrees template destination output o pattern check) w r w' := by
  have resolved {p : Path} (null : p.hasNull = false) : Returns (Job.resolve p) w (w.files.place p) w :=
    (returns_resolve_iff hl).mpr ⟨null, rfl, rfl⟩
  refine ⟨{ w₁ with events := w₁.events ++ [.mergedTrees r.counts] }, ?_⟩
  rw [mergeTrees_eq]
  refine returns_bind_iff.mpr ⟨_, w, resolved target, returns_bind_iff.mpr ⟨_, w, resolved base, ?_⟩⟩
  refine returns_bind_iff.mpr ⟨ts, w, ht, returns_bind_iff.mpr ⟨ds, w, hd, ?_⟩⟩
  exact returns_bind_iff.mpr ⟨r, w₁, hr, rfl⟩

theorem exists_course (suited : Suited w.files template destination (output.getD destination))
    (run : Returns (mergeTrees template destination output o pattern false) w r w') (clean : r.faults = []) :
    ∃ log, Course w.files (planOf w.files template destination output o false) pattern log w'.files ∧
      r = (planOf w.files template destination output o false).report (.ofFaults []) log := by
  have ⟨ts, ds, w₁, ⟨tNull, tComplete⟩, ⟨dNull, dComplete⟩, hr, same⟩ := exists_complete_rounds suited run clean
  have ⟨agenda, scheduled, nodup, mem⟩ := exists_agenda
    (w.files.place (output.getD destination) == w.files.place destination)
    (lists_of_complete tComplete) (lists_of_complete dComplete)
  simp only [Option.isSome_iff_exists] at mem
  have found : ∀ e ∈ agenda, ∃ folder c, w.files.found? pattern folder e.1 = some c := fun e he =>
    ((mem e.1).mp (List.mem_map_of_mem he)).elim (fun ⟨c, h⟩ => ⟨_, c, h⟩) fun ⟨⟨c, h⟩, _⟩ => ⟨_, c, h⟩
  have proper : ∀ e ∈ agenda, Path.Proper e.1 := fun e he =>
    have ⟨_, _, h⟩ := found e he
    proper_of_found h
  rw [rounds_eq, scheduled] at hr
  have ⟨log, listed, judged, report, fills, later⟩ :=
    exists_log_of_attends suited.sited rfl proper nodup hr clean
  have entry : ∀ e ∈ log, (e.names, e.task) ∈ agenda := fun e he => listed ▸ List.mem_map_of_mem he
  have tLegible := legible_of_complete tNull tComplete
  have dLegible := legible_of_complete dNull dComplete
  refine ⟨log, ⟨hasNull_of_mergeTrees suited.linkless run, tLegible, dLegible, ⟨ts, ds, tComplete,
    dComplete, ?scheduled⟩, fun e he => proper _ (entry e he), fun e he name hm => ?short, judged, ?fills,
      fun separate => ?settled⟩, report⟩
  case scheduled =>
    refine scheduled.trans ?_
    rw [listed, List.map_map]
    rfl
  case short =>
    have ⟨_, _, h⟩ := found _ (entry e he)
    exact (entryName_of_found h name hm).short
  case fills =>
    rw [same]
    refine fills.weaken fun loc ⟨names, _, he⟩ => ?_
    exact he ▸ List.prefix_append _ _
  case settled =>
    rw [same]
    refine later fun item hm => ?_
    rw [listed, List.mem_map] at hm
    obtain ⟨e, he, rfl⟩ := hm
    exact separate e he

theorem tells_resolve {p : Path} (hl : fs.Linkless) (null : p.hasNull = false) :
    Tells (Job.resolve p) fs (fs.place p) := by
  refine tells_of_returns fun w hw => ?_
  subst hw
  exact (returns_resolve_iff hl).mpr ⟨null, rfl, rfl⟩

-- Scans that find the same files again make the schedule of the log again.
theorem Course.schedule_eq (course : Course fs plan pattern log fs') {ts ds : List FileInfo}
    (tFound : fs''.found? pattern plan.template = fs.found? pattern plan.template)
    (dFound : fs''.found? pattern plan.destination = fs.found? pattern plan.destination)
    (ht : Scan.Complete fs'' pattern plan.template ts) (hd : Scan.Complete fs'' pattern plan.destination ds) :
    schedule plan.inPlace ts ds = log.map Entry.item := by
  have ⟨ts₀, ds₀, ht₀, hd₀, scheduled⟩ := course.scheduled
  have tListed := lists_of_complete ht
  have dListed := lists_of_complete hd
  rw [tFound] at tListed
  rw [dFound] at dListed
  rw [← scheduled]
  refine Trees.schedule_eq tListed dListed (lists_of_complete ht₀) (lists_of_complete hd₀)
    fun names htn hdn => ?_
  have ⟨a, ha⟩ := Option.isSome_iff_exists.mp htn
  have ⟨b, hb⟩ := Option.isSome_iff_exists.mp hdn
  rw [sameDigest_eq (ht₀.digest names a ha) (hd₀.digest names b hb)]
  exact sameDigest_eq (ht.digest names a (tFound ▸ ha)) (hd.digest names b (dFound ▸ hb))

-- A run with nothing left to write goes by the log of an earlier run.
theorem Course.tells {check : Bool} {f : Verdict → Verdict}
    (course : Course fs (planOf fs template destination output o false) pattern log fs')
    (sited : Sited fs (planOf fs template destination output o false)) (grows : Grows fs fs'' filled)
    (tFree : ∀ names, ¬filled (fs.place template ++ names))
    (dFree : ∀ names, ¬filled (fs.place destination ++ names))
    (judged : ∀ e ∈ log, Judges fs'' (planOf fs template destination output o false) e.names e.task
      (f e.verdict))
    (kept : ∀ e ∈ log, ((f e.verdict).changed && !check) = false) :
    Tells (mergeTrees template destination output o pattern check) fs''
      ((planOf fs template destination output o check).report (.ofFaults []) (log.map (.revise f))) := by
  have hl := grows.linkless sited.linkless
  have ⟨ts, tTells, tComplete⟩ := (course.template.grows sited.linkless grows tFree).exists_tells_run hl
    (grows.anchored sited.template_anchored)
  have ⟨ds, dTells, dComplete⟩ := (course.destination.grows sited.linkless grows dFree).exists_tells_run hl
    (grows.anchored sited.destination_anchored)
  have scheduled := course.schedule_eq (grows.found?_eq tFree) (grows.found?_eq dFree) tComplete dComplete
  have again : log.map Entry.item = (log.map (.revise f)).map Entry.item := by
    rw [List.map_map]
    rfl
  have attended : Tells (rounds (planOf fs template destination output o check) ts ds (.ofFaults [])) fs''
      ((planOf fs template destination output o check).report (.ofFaults []) (log.map (.revise f))) := by
    rw [rounds_eq]
    refine scheduled.symm ▸ again ▸ tells_attends (fun _ hm => ?_) (fun _ hm => ?_) (fun _ hm => ?_) _
    all_goals
      obtain ⟨e, he, rfl⟩ := List.mem_map.mp hm
    case refine_1 => exact course.proper e he
    case refine_2 => exact (judged e he).with_check check
    case refine_3 => exact kept e he
  rw [mergeTrees_eq]
  refine (tells_resolve hl course.output_null).bind ((tells_resolve hl course.destination.null).bind ?_)
  refine tTells.bind (dTells.bind ?_)
  rw [grows.place_eq, grows.place_eq]
  exact attended.bind ((tells_record _ fs'').bind (tells_pure _ fs''))

end Trees
end EnvMerge
