import EnvMerge.Proofs.Files.Verdict

namespace EnvMerge

open FileSystem Job Merge

-- The headings of a report.
inductive Heading
  | merged
  | identical
  | copied
  | seeded
  | skipped
deriving DecidableEq

namespace TreeReport

def under (r : TreeReport) : Heading → List Text
  | .merged    => r.merged
  | .identical => r.identical
  | .copied    => r.copied
  | .seeded    => r.seeded
  | .skipped   => r.skipped

-- All places where a report can name a path for what became of it: its headings and some of its faults.
def places (r : TreeReport) (faults : List Fault) : List Text :=
  r.merged ++ r.identical ++ r.copied ++ r.seeded ++ r.skipped ++ faults.map (·.relative)

end TreeReport

namespace Trees

variable {plan : Plan} {task : Task} {v : Verdict} {path : Text} {w w' : World} {r r' : TreeReport}
variable {faults later : List Fault} {append : Bool} {done items : List (Text × Task)}

def Verdict.heading : Verdict → Heading
  | merged _ _ => .merged
  | identical _ => .identical
  | copied _    => .copied
  | seeded _ _  => .seeded
  | skipped     => .skipped

-- The heading that a path calls for. A file that only the template has is skipped or seeded.
def Task.heading (append : Bool) : Task → Heading
  | both false      => .merged
  | both true       => .identical
  | onlyDestination => .copied
  | onlyTemplate    => if append then .seeded else .skipped

-- A step that succeeds adds a verdict under the heading that its path calls for.
theorem exists_note_of_step (h : Returns (task.step plan r path) w r' w') :
    ∃ v : Verdict, v.heading = task.heading plan.options.append ∧ r' = plan.note r path v := by
  have noted {o : FileOutcome} {w w' : World} (h : Returns (mergeAt plan path) w o w') :
      ∃ changed draft, o = plan.outcome path changed draft :=
    have ⟨draft, changed, _, ho, _⟩ := exists_update_of_mergeFiles h
    ⟨changed, draft, ho⟩
  cases task
  case both same =>
    cases same
    case false =>
      have ⟨o, w₁, hm, h₁⟩ := returns_bind_iff.mp h
      obtain ⟨changed, draft, rfl⟩ := noted hm
      exact ⟨.merged changed draft, rfl, (returns_pure_iff.mp h₁).1.symm⟩
    case true =>
      have ⟨changed, _, hr⟩ := returns_identical_iff.mp h
      exact ⟨.identical changed, rfl, hr⟩
  case onlyDestination =>
    have ⟨changed, w₁, _, h₁⟩ := returns_bind_iff.mp h
    exact ⟨.copied changed, rfl, (returns_pure_iff.mp h₁).1.symm⟩
  case onlyTemplate =>
    rcases returns_onlyTemplate_iff.mp h with ⟨keep, hr, _⟩ | ⟨append, o, hm, hr⟩
    case inl => exact ⟨.skipped, by simp [Task.heading, Verdict.heading, keep], hr⟩
    case inr =>
      obtain ⟨changed, draft, rfl⟩ := noted hm
      exact ⟨.seeded changed draft, by simp [Task.heading, Verdict.heading, append], hr⟩

-- What becomes of the items of a run, one after the other. A step that succeeds makes the next report, and
-- one that fails is noted and changes nothing else in the report.
inductive Proceeds (plan : Plan) :
    List (Text × Task) → TreeReport → World → List Fault → TreeReport → World → Prop
  | done {r : TreeReport} {w : World} : Proceeds plan [] r w [] r w
  | works {path : Text} {task : Task} {items : List (Text × Task)} {r r₁ r' : TreeReport} {w w₁ w' : World}
      {later : List Fault} (step : Returns (task.step plan r path) w r₁ w₁)
      (next : Proceeds plan items r₁ w₁ later r' w') : Proceeds plan ((path, task) :: items) r w later r' w'
  | fails {path : Text} {task : Task} {items : List (Text × Task)} {r r' : TreeReport} {e : Failure}
      {w w₁ w' : World} {later : List Fault} (step : (task.step plan r path).run.run w = (.error e, w₁))
      (caught : task.catches e = true) (next : Proceeds plan items (r.addFault path e) w₁ later r' w') :
      Proceeds plan ((path, task) :: items) r w (⟨path, e.message⟩ :: later) r' w'

theorem exists_proceeds (h : Returns (items.foldlM (attend plan) r) w r' w') :
    ∃ later, Proceeds plan items r w later r' w' := by
  induction items generalizing r w
  case nil =>
    obtain ⟨rfl, rfl⟩ := returns_pure_iff.mp h
    exact ⟨[], .done⟩
  case cons item items ih =>
    rw [List.foldlM_cons] at h
    have ⟨r₁, w₁, ha, hf⟩ := returns_bind_iff.mp h
    have ⟨later, next⟩ := ih hf
    obtain worked | ⟨e, failed, caught, rfl⟩ := noting_cases ha
    case inl => exact ⟨later, .works worked next⟩
    case inr => exact ⟨_, .fails failed caught next⟩

section Note

variable (plan : Plan) (r : TreeReport) (path : Text) (v : Verdict)

theorem under_note (k : Heading) :
    (plan.note r path v).under k = r.under k ++ if v.heading = k then [path] else [] := by
  rcases v with ⟨⟨⟩, _⟩ | ⟨⟨⟩⟩ | ⟨⟨⟩⟩ | ⟨⟨⟩, _⟩ | _ <;> cases k <;>
    simp [Plan.note, Verdict.heading, TreeReport.under, TreeReport.addMerged, TreeReport.addIdentical,
      TreeReport.addCopied, TreeReport.addSeeded, TreeReport.addSkipped, TreeReport.addChanged]

theorem changed_note : (plan.note r path v).changed = r.changed ++ if v.changed then [path] else [] := by
  rcases v with ⟨⟨⟩, _⟩ | ⟨⟨⟩⟩ | ⟨⟨⟩⟩ | ⟨⟨⟩, _⟩ | _ <;>
    simp [Plan.note, Verdict.changed, TreeReport.addMerged, TreeReport.addIdentical, TreeReport.addCopied,
      TreeReport.addSeeded, TreeReport.addSkipped, TreeReport.addChanged]

theorem outcomes_note : (plan.note r path v).outcomes.map (·.1) =
    r.outcomes.map (·.1) ++ if v.heading = .merged ∨ v.heading = .seeded then [path] else [] := by
  rcases v with ⟨⟨⟩, _⟩ | ⟨⟨⟩⟩ | ⟨⟨⟩⟩ | ⟨⟨⟩, _⟩ | _ <;>
    simp [Plan.note, Verdict.heading, TreeReport.addMerged, TreeReport.addIdentical, TreeReport.addCopied,
      TreeReport.addSeeded, TreeReport.addSkipped, TreeReport.addChanged]

theorem faults_note : (plan.note r path v).faults = r.faults := by
  rcases v with ⟨⟨⟩, _⟩ | ⟨⟨⟩⟩ | ⟨⟨⟩⟩ | ⟨⟨⟩, _⟩ | _ <;> rfl

end Note

-- What a report accounts for while a run goes on, with the items that are done.
structure Ledger (append : Bool) (faults : List Fault) (done : List (Text × Task)) (r : TreeReport)
    (later : List Fault) : Prop where
  faults   : r.faults = faults ++ later
  once     : ∀ path, (r.places later).count path = (done.map (·.1)).count path
  called   : ∀ k, ∀ path ∈ r.under k, ∃ task, (path, task) ∈ done ∧ task.heading append = k
  changed  : ∀ path, r.changed.count path ≤ (r.merged ++ r.identical ++ r.copied ++ r.seeded).count path
  outcomes : (r.outcomes.map (·.1)).Perm (r.merged ++ r.seeded)

namespace Ledger

theorem start (append : Bool) (faults : List Fault) : Ledger append faults [] (.ofFaults faults) [] where
  faults   := by simp [TreeReport.ofFaults]
  once     := by simp [TreeReport.ofFaults, TreeReport.places]
  called k := by cases k <;> simp [TreeReport.ofFaults, TreeReport.under]
  changed  := by simp [TreeReport.ofFaults]
  outcomes := by simp [TreeReport.ofFaults]

theorem note (h : Ledger append faults done r later) (hv : v.heading = task.heading append) :
    Ledger append faults (done ++ [(path, task)]) (plan.note r path v) later := by
  have under := under_note plan r path v
  have merged : (plan.note r path v).merged = _ := under .merged
  have identical : (plan.note r path v).identical = _ := under .identical
  have copied : (plan.note r path v).copied = _ := under .copied
  have seeded : (plan.note r path v).seeded = _ := under .seeded
  have skipped : (plan.note r path v).skipped = _ := under .skipped
  refine ⟨(faults_note plan r path v).trans h.faults, fun p => ?once, fun k p hp => ?called, fun p => ?changed,
    ?outcomes⟩
  case once =>
    have before := h.once p
    rw [TreeReport.places] at before ⊢
    rw [merged, identical, copied, seeded, skipped]
    simp only [TreeReport.under, List.count_append, List.map_append, List.map_singleton] at before ⊢
    cases v <;> simp [Verdict.heading] <;> omega
  case called =>
    rw [under, List.mem_append] at hp
    cases hp
    case inl hp =>
      have ⟨task, hm, hk⟩ := h.called k p hp
      exact ⟨task, List.mem_append_left _ hm, hk⟩
    case inr hp =>
      split at hp
      case isFalse  => cases hp
      case isTrue hk => exact ⟨task, by simp [List.mem_singleton.mp hp], hv.symm.trans hk⟩
  case changed =>
    have before := h.changed p
    rw [changed_note, merged, identical, copied, seeded]
    simp only [TreeReport.under, List.count_append] at before ⊢
    rcases v with ⟨⟨⟩, _⟩ | ⟨⟨⟩⟩ | ⟨⟨⟩⟩ | ⟨⟨⟩, _⟩ | _ <;> simp [Verdict.heading, Verdict.changed] <;> omega
  case outcomes =>
    rw [outcomes_note, merged, seeded, List.perm_iff_count]
    intro p
    have before := h.outcomes.count_eq p
    simp only [TreeReport.under, List.count_append] at before ⊢
    cases v <;> simp [Verdict.heading] <;> omega

theorem addFault (h : Ledger append faults done r later) (path : Text) (task : Task) (e : Failure) :
    Ledger append faults (done ++ [(path, task)]) (r.addFault path e) (later ++ [⟨path, e.message⟩]) where
  faults       := by simp [TreeReport.addFault, h.faults]
  changed      := h.changed
  outcomes     := h.outcomes
  called k p hp :=
    have ⟨task, hm, hk⟩ := h.called k p (by cases k <;> exact hp)
    ⟨task, List.mem_append_left _ hm, hk⟩
  once p := by
    have before := h.once p
    simp only [TreeReport.places, TreeReport.addFault, List.count_append, List.map_append, List.map_singleton]
      at before ⊢
    omega

-- A run accounts for all its items, however its steps end.
theorem follow {later' : List Fault} (h : Ledger plan.options.append faults done r later)
    (proceeds : Proceeds plan items r w later' r' w') :
    Ledger plan.options.append faults (done ++ items) r' (later ++ later') := by
  induction proceeds generalizing done later
  case done => simpa using h
  case works step _ ih =>
    obtain ⟨v, hv, rfl⟩ := exists_note_of_step step
    simpa using ih (h.note hv)
  case fails path task _ _ _ e _ _ _ _ _ _ _ ih => simpa using ih (h.addFault path task e)

theorem changed_subset (h : Ledger append faults done r later) :
    r.changed ⊆ r.merged ++ r.identical ++ r.copied ++ r.seeded := by
  intro path hm
  rw [← List.count_pos_iff] at hm ⊢
  exact Nat.lt_of_lt_of_le hm (h.changed path)

-- Where each path is done once, no path is named in two places, nor twice in one.
theorem count_le_one (h : Ledger append faults done r later) (nodup : (done.map (·.1)).Nodup) (path : Text) :
    (r.merged ++ r.identical ++ r.copied ++ r.seeded).count path + (later.map (·.relative)).count path ≤ 1 := by
  have single : (r.places later).count path ≤ 1 := h.once path ▸ List.nodup_iff_count_le_one.mp nodup path
  simp only [TreeReport.places, List.count_append] at single ⊢
  omega

theorem nodup_changed (h : Ledger append faults done r later) (nodup : (done.map (·.1)).Nodup) :
    r.changed.Nodup := by
  refine List.nodup_iff_count_le_one.mpr fun path => ?_
  have named := h.changed path
  have single := h.count_le_one nodup path
  omega

-- What is noted with a fault has no other place in the report.
theorem not_mem_of_fault {f : Fault} (h : Ledger append faults done r later) (nodup : (done.map (·.1)).Nodup)
    (hf : f ∈ later) : f.relative ∉ r.changed ∧ f.relative ∉ r.outcomes.map (·.1) := by
  have noted : 0 < (later.map (·.relative)).count f.relative := List.count_pos_iff.mpr (List.mem_map_of_mem hf)
  have named := h.changed f.relative
  have single := h.count_le_one nodup f.relative
  rw [h.outcomes.mem_iff, ← List.count_pos_iff, ← List.count_pos_iff]
  simp only [List.count_append] at named single ⊢
  omega

end Ledger

end Trees
end EnvMerge
