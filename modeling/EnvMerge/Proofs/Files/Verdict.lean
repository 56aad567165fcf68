import EnvMerge.Proofs.Files.Query
import EnvMerge.Proofs.Files.Trees

namespace EnvMerge

open FileSystem Job Merge

namespace Trees

-- What is found out about a path: whether its output changes, and what a merge puts together.
inductive Verdict
  | merged (changed : Bool) (draft : Draft)
  | identical (changed : Bool)
  | copied (changed : Bool)
  | seeded (changed : Bool) (draft : Draft)
  | skipped

namespace Verdict

def changed : Verdict → Bool
  | merged changed _ | identical changed | copied changed | seeded changed _ => changed
  | skipped => false

-- The verdict when the output is up to date.
def settled : Verdict → Verdict
  | merged _ draft => merged false draft
  | identical _    => identical false
  | copied _       => copied false
  | seeded _ draft => seeded false draft
  | skipped        => skipped

theorem changed_settled (v : Verdict) : v.settled.changed = false := by
  cases v <;> rfl

end Verdict

namespace Plan

variable (plan : Plan)

abbrev templateAt (names : List Text) : Path :=
  plan.template.join (.relative names)

abbrev destinationAt (names : List Text) : Path :=
  plan.destination.join (.relative names)

abbrev outputAt (names : List Text) : Path :=
  plan.output.join (.relative names)

def outcome (path : Text) (changed : Bool) (draft : Draft) : FileOutcome :=
  ⟨below plan.template path, below plan.destination path, below plan.output path, changed,
    changed && !plan.check, draft⟩

-- Adds a verdict to a report.
def note (r : TreeReport) (path : Text) : Verdict → TreeReport
  | .merged changed draft => (r.addMerged path (plan.outcome path changed draft)).addChanged path changed
  | .identical changed    => (r.addChanged path changed).addIdentical path
  | .copied changed       => (r.addChanged path changed).addCopied path
  | .seeded changed draft => (r.addSeeded path (plan.outcome path changed draft)).addChanged path changed
  | .skipped              => r.addSkipped path

-- The places of the output at some relative paths.
def Targets (fs : FileSystem) (done : List (List Text)) (loc : Location) : Prop :=
  ∃ names ∈ done, loc = fs.place plan.output ++ names

end Plan

-- Which verdict a path deserves.
inductive Judges (fs : FileSystem) (plan : Plan) (names : List Text) : Task → Verdict → Prop
  | merged {changed : Bool} {draft : Draft} (h : Merges fs plan.options (plan.templateAt names)
      (plan.destinationAt names) (plan.outputAt names) draft changed) :
      Judges fs plan names (.both false) (.merged changed draft)
  | kept (inPlace : plan.inPlace = true) : Judges fs plan names (.both true) (.identical false)
  | identical {changed : Bool} (away : plan.inPlace = false)
      (h : Compares fs (plan.destinationAt names) (plan.outputAt names) changed) :
      Judges fs plan names (.both true) (.identical changed)
  | copied {changed : Bool} (h : Compares fs (plan.destinationAt names) (plan.outputAt names) changed) :
      Judges fs plan names .onlyDestination (.copied changed)
  | seeded {changed : Bool} {draft : Draft} (append : plan.options.append = true)
      (h : Merges fs plan.options (plan.templateAt names) (plan.destinationAt names) (plan.outputAt names)
        draft changed) : Judges fs plan names .onlyTemplate (.seeded changed draft)
  | skipped (keep : plan.options.append = false) : Judges fs plan names .onlyTemplate .skipped

-- A file system without links, and folders that are there or can be made. What is written to the
-- output is not read from the template, nor from the destination unless they are one.
structure Sited (fs : FileSystem) (plan : Plan) : Prop where
  linkless             : fs.Linkless
  template_anchored    : fs.Anchored plan.template
  destination_anchored : fs.Anchored plan.destination
  output_anchored      : fs.Anchored plan.output
  inputs               : Apart (fs.place plan.template) (fs.place plan.destination)
  target               : fs.place plan.output = fs.place plan.destination ∨
    Apart (fs.place plan.output) (fs.place plan.template) ∧
      Apart (fs.place plan.output) (fs.place plan.destination)

variable {fs fs' : FileSystem} {plan : Plan} {names : List Text} {done : List (List Text)} {task : Task}
variable {v : Verdict} {filled : Location → Prop} {w w' : World} {r r' : TreeReport}

theorem Suited.sited (h : Suited fs plan.template plan.destination plan.output) : Sited fs plan where
  linkless             := h.linkless
  template_anchored    := h.template_anchored
  destination_anchored := h.destination_anchored
  output_anchored      := h.output_anchored
  inputs               := h.inputs
  target               := h.target

namespace Sited

theorem grows (h : Sited fs plan) (grows : Grows fs fs' filled) : Sited fs' plan where
  linkless             := grows.linkless h.linkless
  template_anchored    := grows.anchored h.template_anchored
  destination_anchored := grows.anchored h.destination_anchored
  output_anchored      := grows.anchored h.output_anchored
  inputs               := by
    rw [grows.place_eq, grows.place_eq]
    exact h.inputs
  target               := by
    rw [grows.place_eq, grows.place_eq, grows.place_eq]
    exact h.target

theorem template_free (h : Sited fs plan) (proper : Path.Proper names) :
    ¬plan.Targets fs done (fs.place (plan.templateAt names)) := by
  rw [place_join proper.plain]
  intro ⟨names', _, he⟩
  cases h.target
  case inl same  => exact h.inputs.append_ne _ _ (same ▸ he)
  case inr apart => exact apart.1.append_ne _ _ he.symm

theorem output_free (hn : names ∉ done) (proper : Path.Proper names) :
    ¬plan.Targets fs done (fs.place (plan.outputAt names)) := by
  rw [place_join proper.plain]
  intro ⟨names', hm, he⟩
  exact hn (List.append_cancel_left he ▸ hm)

theorem destination_free (h : Sited fs plan) (hn : names ∉ done) (proper : Path.Proper names) :
    ¬plan.Targets fs done (fs.place (plan.destinationAt names)) := by
  cases h.target
  case inl same =>
    rw [place_join proper.plain, ← same, ← place_join proper.plain]
    exact output_free hn proper
  case inr apart =>
    rw [place_join proper.plain]
    intro ⟨names', _, he⟩
    exact apart.2.append_ne _ _ he.symm

end Sited

-- What is written to the output stays clear of the destination, where no name is too long.
structure Separate (fs : FileSystem) (plan : Plan) (names : List Text) : Prop where
  apart : Apart (fs.place plan.output) (fs.place plan.destination)
  short : ∀ name ∈ (plan.destinationAt names).names, (Utf8.encode name).length ≤ maxNameLength

theorem Separate.clear (h : Separate fs plan names) (proper : Path.Proper names) {goal : Location}
    (hg : plan.Targets fs done goal) : ¬fs.place (plan.destinationAt names) <+: goal := by
  obtain ⟨names', _, rfl⟩ := hg
  rw [place_join proper.plain]
  intro hp
  have ⟨rest, he⟩ := hp
  rw [List.append_assoc] at he
  exact h.apart.append_ne _ _ he.symm

theorem Separate.grows (h : Separate fs plan names) (grows : Grows fs fs' filled) :
    Separate fs' plan names where
  short := h.short
  apart := by
    rw [grows.place_eq, grows.place_eq]
    exact h.apart

theorem Plan.Targets.mono {done' : List (List Text)} {loc : Location} (sub : done ⊆ done')
    (h : plan.Targets fs done loc) : plan.Targets fs done' loc :=
  have ⟨names, hm, he⟩ := h
  ⟨names, sub hm, he⟩

theorem Plan.targets_eq (grows : Grows fs fs' filled) : plan.Targets fs' done = plan.Targets fs done := by
  funext loc
  rw [Plan.Targets, grows.place_eq, Plan.Targets]

namespace Judges

theorem imp (h : Judges fs plan names task v)
    (ht : ∀ a, Reads fs (plan.templateAt names) (some a) → Reads fs' (plan.templateAt names) (some a))
    (hd : ∀ x, Reads fs (plan.destinationAt names) x → Reads fs' (plan.destinationAt names) x)
    (ho : ∀ y, (v.changed = false → y.isSome) →
      Reads fs (plan.outputAt names) y → Reads fs' (plan.outputAt names) y) :
    Judges fs' plan names task v := by
  cases h
  case merged h         => exact .merged (h.imp ht hd ho)
  case kept inPlace     => exact .kept inPlace
  case identical away h => exact .identical away (h.imp (fun s => hd (some s)) ho)
  case copied h         => exact .copied (h.imp (fun s => hd (some s)) ho)
  case seeded append h  => exact .seeded append (h.imp ht hd ho)
  case skipped keep     => exact .skipped keep

theorem with_check (h : Judges fs plan names task v) (check : Bool) :
    Judges fs { plan with check } names task v := by
  cases h
  case merged h         => exact .merged h
  case kept inPlace     => exact .kept inPlace
  case identical away h => exact .identical away h
  case copied h         => exact .copied h
  case seeded append h  => exact .seeded append h
  case skipped keep     => exact .skipped keep

-- A verdict that is due after other paths were written was due before.
theorem back (h : Judges fs' plan names task v) (sited : Sited fs plan)
    (grows : Grows fs fs' (plan.Targets fs done)) (hn : names ∉ done) (proper : Path.Proper names) :
    Judges fs plan names task v := by
  have hl := sited.linkless
  refine h.imp (fun a ha => ?template) (fun x hx => ?destination) fun y _ hy => ?output
  case template =>
    exact ha.back grows hl (sited.template_anchored.join proper.plain) (sited.template_free proper)
  case destination =>
    exact hx.back grows hl (sited.destination_anchored.join proper.plain) (sited.destination_free hn proper)
  case output =>
    exact hy.back grows hl (sited.output_anchored.join proper.plain) (Sited.output_free hn proper)

-- A verdict on an output that is up to date stays due while other paths are written.
theorem onward (h : Judges fs plan names task v) (current : v.changed = false) (sited : Sited fs plan)
    (separate : Separate fs plan names) (fills : Fills fs fs' (plan.Targets fs done)) (hn : names ∉ done)
    (proper : Path.Proper names) : Judges fs' plan names task v := by
  have hl := sited.linkless
  refine h.imp (fun a ha => ?template) (fun x hx => ?destination) fun y stands hy => ?output
  case template => exact ha.some_onward fills.toGrows hl (sited.template_free proper)
  case destination =>
    exact hx.onward fills hl (sited.destination_anchored.join proper.plain)
      (fun _ => separate.clear proper) separate.short
  case output =>
    have ⟨c, he⟩ := Option.isSome_iff_exists.mp (stands current)
    subst he
    exact hy.some_onward fills.toGrows hl (Sited.output_free hn proper)

end Judges

section Steps

variable {path : Text}

theorem returns_identical_iff : Returns (both plan (fun _ => true) r path) w r' w' ↔ ∃ changed,
    (plan.inPlace = true ∧ changed = false ∧ w = w' ∨
      plan.inPlace = false ∧ Returns (carry plan path) w changed w') ∧
    r' = (r.addChanged path changed).addIdentical path := by
  cases inPlace : plan.inPlace
  case true  => simp [both, inPlace, eq_comm (a := r'), and_comm]
  case false => simp [both, inPlace, returns_bind_iff, eq_comm (a := r'), -bind_pure_comp, -Bool.exists_bool]

theorem returns_onlyTemplate_iff : Returns (onlyTemplate plan r path) w r' w' ↔
    plan.options.append = false ∧ r' = r.addSkipped path ∧ w = w' ∨
    plan.options.append = true ∧ ∃ outcome, Returns (mergeAt plan path) w outcome w' ∧
      r' = (r.addSeeded path outcome).addChanged path outcome.changed := by
  cases append : plan.options.append <;>
    simp [onlyTemplate, append, returns_bind_iff, eq_comm (a := r'), -bind_pure_comp]

variable (sited : Sited w.files plan) (check : plan.check = false) (proper : Path.Proper names)
include sited check proper

-- What a copy of a file finds, and what it would find when it is done.
theorem compares_of_carry {changed : Bool} (h : Returns (carry plan (Path.relative names).toText) w changed w') :
    Compares w.files (plan.destinationAt names) (plan.outputAt names) changed ∧
      Fills w.files w'.files (plan.Targets w.files [names]) ∧
        (Separate w.files plan names →
          Compares w'.files (plan.destinationAt names) (plan.outputAt names) false) := by
  have ⟨compares, s, held, _, updates, apart⟩ := exists_updates_of_carry sited.linkless
    sited.output_anchored check proper h
  refine ⟨compares, updates.writes.weaken fun loc he => ⟨names, by simp, ?_⟩, fun separate => ?_⟩
  case refine_1 => rw [he, place_join proper.plain]
  case refine_2 =>
    have current : (digest s != digest held) = false := by simp [updates.same]
    rw [← current]
    exact .digests (apart (separate.apart.append_ne _ _).symm) updates.reads

-- What a merge at a path finds, and what it would find when it is done.
theorem exists_merges_of_mergeAt {outcome : FileOutcome}
    (h : Returns (mergeAt plan (Path.relative names).toText) w outcome w') : ∃ draft changed,
      Merges w.files plan.options (plan.templateAt names) (plan.destinationAt names) (plan.outputAt names)
          draft changed ∧
        outcome = plan.outcome (Path.relative names).toText changed draft ∧
        Fills w.files w'.files (plan.Targets w.files [names]) ∧
        (Separate w.files plan names → Merges w'.files plan.options (plan.templateAt names)
          (plan.destinationAt names) (plan.outputAt names) draft false) := by
  have ⟨draft, changed, held, merges, he, updates⟩ := exists_updates_of_mergeAt sited.linkless
    sited.output_anchored check proper h
  have fills : Fills w.files w'.files (plan.Targets w.files [names]) :=
    updates.writes.weaken fun loc he => ⟨names, by simp, by rw [he, place_join proper.plain]⟩
  refine ⟨draft, changed, merges, ?_, fills, fun separate => ?_⟩
  case refine_1 => simp only [he, Plan.outcome, below_toText _ proper, check, Bool.not_false, Bool.and_true]
  case refine_2 =>
    refine merges.settle (fun a ha => ?template) (fun x hx => ?destination) updates.reads updates.same
    case template => exact ha.some_onward fills.toGrows sited.linkless (sited.template_free proper)
    case destination =>
      exact hx.onward fills sited.linkless (sited.destination_anchored.join proper.plain)
        (fun _ => separate.clear proper) separate.short

-- A step that succeeds adds the verdict that is due, and writes to its own path only.
theorem exists_judges_of_step (h : Returns (task.step plan r (Path.relative names).toText) w r' w') :
    ∃ v, Judges w.files plan names task v ∧ r' = plan.note r (Path.relative names).toText v ∧
      Fills w.files w'.files (plan.Targets w.files [names]) ∧
        (Separate w.files plan names → Judges w'.files plan names task v.settled) := by
  cases task
  case both same =>
    cases same
    case false =>
      have ⟨outcome, w₁, hm, h₁⟩ := returns_bind_iff.mp h
      have ⟨draft, changed, merges, ho, fills, later⟩ := exists_merges_of_mergeAt sited check proper hm
      obtain ⟨hr, rfl⟩ := returns_pure_iff.mp h₁
      subst ho hr
      exact ⟨.merged changed draft, .merged merges, rfl, fills, fun separate => .merged (later separate)⟩
    case true =>
      have ⟨changed, hc, hr⟩ := returns_identical_iff.mp h
      cases hc
      case inl hc =>
        obtain ⟨inPlace, rfl, rfl⟩ := hc
        exact ⟨.identical false, .kept inPlace, hr, .refl _ _, fun _ => .kept inPlace⟩
      case inr hc =>
        have ⟨away, hc⟩ := hc
        have ⟨compares, fills, later⟩ := compares_of_carry sited check proper hc
        refine ⟨.identical changed, .identical away compares, hr, fills, fun separate => ?_⟩
        exact .identical away (later separate)
  case onlyDestination =>
    have ⟨changed, w₁, hc, h₁⟩ := returns_bind_iff.mp h
    have ⟨compares, fills, later⟩ := compares_of_carry sited check proper hc
    obtain ⟨hr, rfl⟩ := returns_pure_iff.mp h₁
    exact ⟨.copied changed, .copied compares, hr.symm, fills, fun separate => .copied (later separate)⟩
  case onlyTemplate =>
    cases returns_onlyTemplate_iff.mp h
    case inl h =>
      obtain ⟨keep, hr, rfl⟩ := h
      exact ⟨.skipped, .skipped keep, hr, .refl _ _, fun _ => .skipped keep⟩
    case inr h =>
      have ⟨append, outcome, hm, hr⟩ := h
      have ⟨draft, changed, merges, ho, fills, later⟩ := exists_merges_of_mergeAt sited check proper hm
      subst ho hr
      refine ⟨.seeded changed draft, .seeded append merges, rfl, fills, fun separate => ?_⟩
      exact .seeded append (later separate)

end Steps

section Tells

variable {changed : Bool} {draft : Draft} (proper : Path.Proper names)
include proper

theorem tells_carry (h : Compares fs (plan.destinationAt names) (plan.outputAt names) changed)
    (kept : (changed && !plan.check) = false) : Tells (carry plan (Path.relative names).toText) fs changed := by
  simp only [carry, below_toText _ proper]
  refine (tells_differ h).bind ?_
  cases changed
  case false => exact tells_pure _ fs
  case true  =>
    have check : plan.check = true := by simpa using kept
    simp only [check, if_true, Bool.not_true, Bool.false_eq_true, if_false]
    exact tells_pure _ fs

theorem tells_mergeAt (h : Merges fs plan.options (plan.templateAt names) (plan.destinationAt names)
      (plan.outputAt names) draft changed) (kept : (changed && !plan.check) = false) :
    Tells (mergeAt plan (Path.relative names).toText) fs
      (plan.outcome (Path.relative names).toText changed draft) := by
  simp only [mergeAt, Plan.outcome, below_toText _ proper, kept]
  exact tells_mergeFiles h kept

-- A step whose verdict has nothing to write tells it.
theorem tells_step (h : Judges fs plan names task v) (kept : (v.changed && !plan.check) = false)
    (r : TreeReport) :
    Tells (task.step plan r (Path.relative names).toText) fs (plan.note r (Path.relative names).toText v) := by
  cases h
  case merged h => exact (tells_mergeAt proper h kept).bind (tells_pure _ fs)
  case copied h => exact (tells_carry proper h kept).bind (tells_pure _ fs)
  case kept inPlace =>
    simp only [Task.step, both, if_true, inPlace]
    exact tells_pure _ fs
  case identical away h =>
    simp only [Task.step, both, if_true, away, Bool.false_eq_true, if_false]
    exact (tells_carry proper h kept).bind (tells_pure _ fs)
  case seeded append h =>
    simp only [Task.step, onlyTemplate, append, if_true]
    exact (tells_mergeAt proper h kept).bind (tells_pure _ fs)
  case skipped keep =>
    simp only [Task.step, onlyTemplate, keep, Bool.false_eq_true, if_false]
    exact tells_pure _ fs

end Tells

end Trees
end EnvMerge
