import EnvMerge.Proofs.Command.Consent
import EnvMerge.Proofs.Command.Preference
import EnvMerge.Proofs.Files.Check
import EnvMerge.Proofs.Files.Delivery
import EnvMerge.Proofs.Files.Failures

namespace EnvMerge.Command

open FileSystem Job Merge

variable {w w' : World} {words : List Text} {a : Arguments} {i : Inputs} {o : Options}

section Check

theorem talks_forM {α : Type} {f : α → Job World.Run Unit} (h : ∀ x, Talks (f x)) (xs : List α) :
    Talks (xs.forM f) := by
  induction xs
  case nil          => exact talks_pure _
  case cons x xs ih => exact (h x).bind fun _ => ih

theorem talks_saySummary (s : Draft.Summary) : Talks (saySummary s) :=
  (talks_say _).bind fun _ => (talks_say _).bind fun _ => talks_forM (fun _ => talks_say _) _

theorem talks_sayFaults (faults : List Fault) : Talks (sayFaults faults) := by
  refine .ite (talks_pure _) ((talks_say _).bind fun _ => .bind (talks_forM (fun _ => ?_) _) fun _ => ?_)
  case refine_1 => exact (talks_say _).bind fun _ => talks_say _
  case refine_2 => exact .ite (talks_say _) (talks_pure _)

theorem looks_checkStopped : Looks checkStopped :=
  (looks_lift fun _ => rfl).bind fun _ => .ite (looks_throw _) (looks_pure _)

theorem looks_discard {α : Type} {x : Job World.Run α} (h : Looks x) : Looks (discard x) := by
  have discarded : discard x = x >>= fun _ => pure () := by
    simp [Functor.discard, map_const, ← bind_pure_comp]
  exact discarded ▸ h.bind fun _ => looks_pure _

theorem looks_mapM {α β : Type} {f : α → Job World.Run β} (h : ∀ x, Looks (f x)) (xs : List α) :
    Looks (xs.mapM f) := by
  induction xs
  case nil => exact looks_pure _
  case cons x xs ih =>
    rw [List.mapM_cons]
    exact (h x).bind fun _ => ih.bind fun _ => looks_pure _

theorem looks_patternFor (a : Arguments) (i : Inputs) : Looks (patternFor a i) := by
  rw [patternFor]
  cases a.pattern
  case value => exact looks_pure _
  case void =>
    refine (looks_discard (looks_resolve _)).bind fun _ => (looks_discard (looks_resolve _)).bind fun _ => ?_
    refine (looks_mapM (fun _ => looks_lift fun _ => rfl) _).bind fun _ => ?_
    exact .ite (looks_pure _) (looks_throw _)

variable (check : a.check = true) (unreported : a.report? = none)
include check unreported

theorem keeps_runFiles (i : Inputs) (o : Options) : Keeps (runFiles a i o) := by
  refine looks_checkStopped.keeps.bind fun _ => .bind ?_ fun r => ?_
  case refine_1 => exact check ▸ keeps_mergeFiles _ _ _ _
  case refine_2 =>
    refine (talks_say _).keeps.bind fun _ => (talks_saySummary _).keeps.bind fun _ => .bind ?_ fun _ => ?_
    case refine_1 => exact unreported ▸ keeps_pure _
    case refine_2 => exact (talks_say _).keeps.bind fun _ => keeps_pure _

theorem keeps_runTrees (i : Inputs) (o : Options) : Keeps (runTrees a i o) := by
  refine looks_checkStopped.keeps.bind fun _ => (looks_patternFor a i).keeps.bind fun pattern => .bind ?_ fun r => ?_
  case refine_1 => exact check ▸ Trees.keeps_mergeTrees _ _ _ _ _
  case refine_2 =>
    refine (talks_say _).keeps.bind fun _ => (talks_say _).keeps.bind fun _ => (talks_say _).keeps.bind fun _ => ?_
    refine (talks_say _).keeps.bind fun _ => (talks_say _).keeps.bind fun _ => (talks_say _).keeps.bind fun _ => ?_
    refine (talks_say _).keeps.bind fun _ => (talks_sayFaults _).keeps.bind fun _ => ?_
    refine (talks_say _).keeps.bind fun _ => ?_
    exact (unreported ▸ keeps_pure _ : Keeps (writeReport a.report? (Report.ofTree r))).bind fun _ => keeps_pure _

-- A check without a report writes nothing, whatever comes of it.
theorem keeps_merging (i : Inputs) (o : Options) : Keeps (merging a i o) := by
  refine .tryCatch ((looks_isFolder _).keeps.bind fun _ => .ite ?trees ?files) fun e => .ite ?_ (.ite ?_ ?_)
  case trees => exact (keeps_runTrees check unreported i o).bind fun _ => keeps_pure _
  case files => exact (keeps_runFiles check unreported i o).bind fun _ => keeps_pure _
  case refine_3 => exact (looks_throw _).keeps
  all_goals exact (talks_say _).keeps.bind fun _ => keeps_pure _

end Check

section Sources

variable {e : Failure} {s t : FileSystem.Status}

-- Sources that are no text fail as such.
theorem isParse_or_decoded {template destination : Source}
    (h : (sources o template destination : Job World.Run Draft).run.run w = (.error e, w')) :
    e.isParse = true ∨ (∃ t, template.decode = .ok t) ∧ ∃ d, destination.decode = .ok d := by
  refine (isParse_or_merge_eq_error (outcome_of_run h).1).imp_right ?_
  intro ⟨t, d, ht, hd, _⟩
  have ⟨text, ht, _⟩ := Document.exists_decode ht
  have ⟨text', hd, _⟩ := Document.exists_decode hd
  exact ⟨⟨text, ht⟩, text', hd⟩

theorem readable_of_drafted {template destination : Path} (known : template.hasNull = false)
    (known' : destination.hasNull = false) (untextual : ¬Textual w.files template destination)
    (h : (drafted o template destination : Job World.Run Draft).run.run w = (.error e, w')) :
    readable e = true := by
  rw [drafted, run_bind] at h
  split at h
  case h_2 e₁ w₁ failed =>
    cases h
    simp [readable, raises_read known _ _ _ failed]
  case h_1 c w₁ read =>
    obtain ⟨_, hc, rfl⟩ := returns_read_iff.mp read
    rw [run_bind] at h
    split at h
    case h_2 e₁ w₁ failed =>
      cases h
      simp [readable, raises_readPresent known' _ _ _ failed]
    case h_1 b w₂ present_ =>
      obtain ⟨x, hx, rfl, rfl⟩ := returns_readPresent_iff.mp present_
      cases isParse_or_decoded h
      case inl parse => simp [readable, parse]
      case inr decoded =>
        obtain ⟨⟨t, ht⟩, d, hd⟩ := decoded
        exact absurd ⟨c, x, t, d, .content known hc, hx, ht, hd⟩ untextual

theorem run_checkStopped (w : World) : (checkStopped : Job World.Run Unit).run.run w =
    (if w.stopped then .error .interrupted else .ok (), w) := by
  have asked : (ExceptT.lift Host.stopped : Job World.Run Bool).run.run w = (.ok w.stopped, w) := rfl
  rw [checkStopped, run_bind, asked]
  cases w.stopped <;> rfl

-- A merge of files that are no text stops there, or before that if the user wants it to.
theorem exists_error_of_runFiles (known : i.template.hasNull = false) (known' : i.destination.hasNull = false)
    (untextual : ¬Textual w.files i.template i.destination) (a : Arguments) (o : Options) :
    ∃ e w', (runFiles a i o : Job World.Run Bool).run.run w = (.error e, w') ∧ w'.files = w.files ∧
      (readable e = true ∨ e = .interrupted) := by
  cases hs : w.stopped
  case true =>
    refine ⟨.interrupted, w, run_bind_of_error ?_, rfl, .inr rfl⟩
    rw [run_checkStopped, hs]
    rfl
  case false =>
    obtain ⟨e, w', failed⟩ := exists_error_of_not_returns fun _ _ hd => untextual (textual_of_drafted (o := o) hd)
    have same := keeps_drafted o i.template i.destination w
    rw [failed] at same
    refine ⟨e, w', ?_, same, .inl (readable_of_drafted known known' untextual failed)⟩
    rw [runFiles, run_bind, run_checkStopped, hs]
    refine run_bind_of_error ?_
    rw [mergeFiles_eq_drafted]
    exact run_bind_of_error failed

theorem exists_merging_of_untextual (there : Learns w.files i.template (some s)) (file : s.isFolder = false)
    (known : i.destination.hasNull = false) (untextual : ¬Textual w.files i.template i.destination)
    (a : Arguments) (o : Options) : ∃ w', Returns (merging a i o) w .bad w' ∧ w'.files = w.files := by
  obtain ⟨e, w₁, failed, same, cause⟩ := exists_error_of_runFiles there.known known untextual a o
  have kind : (isFolder i.template : Job World.Run Bool).run.run w = (.ok false, w) :=
    file ▸ there.run_isFolder
  rw [merging]
  simp only [Returns, run_tryCatch, run_bind, kind, Bool.false_eq_true, if_false, failed]
  cases cause
  case inl caught =>
    have caught : (e.isConfiguration || e.isParse || e.isSystem) = true := by
      rw [readable, Bool.or_comm] at caught
      rw [Bool.or_assoc, caught, Bool.or_true]
    simp only [caught, if_true]
    exact ⟨_, rfl, same⟩
  case inr interrupted =>
    subst interrupted
    exact ⟨_, rfl, same⟩

end Sources

section Told

variable {s : FileSystem.Status} {r : FileOutcome}

theorem exists_forM {α : Type} {f : α → Job World.Run Unit} (h : ∀ x w, ∃ w', Returns (f x) w () w')
    (xs : List α) (w : World) : ∃ w', Returns (xs.forM f) w () w' := by
  induction xs generalizing w
  case nil => exact ⟨w, rfl⟩
  case cons x xs ih =>
    obtain ⟨w₁, first⟩ := h x w
    obtain ⟨w', rest⟩ := ih w₁
    exact ⟨w', returns_bind_iff.mpr ⟨(), w₁, first, rest⟩⟩

theorem exists_saySummary (s : Draft.Summary) (w : World) : ∃ w', Returns (saySummary s) w () w' := by
  obtain ⟨w₁, decisions⟩ := exists_say ("Decisions".toList ++ ": ".toList ++ Text.ofNat s.decisions) w
  obtain ⟨w₂, lines⟩ := exists_say ("Lines written".toList ++ ": ".toList ++ Text.ofNat s.lines) w₁
  obtain ⟨w', kinds⟩ := exists_forM (fun _ w => exists_say _ w) s.byKind w₂
  exact ⟨w', returns_bind_iff.mpr ⟨(), w₁, decisions, returns_bind_iff.mpr ⟨(), w₂, lines, kinds⟩⟩⟩

-- What was read is stale if it is not the text, where digests tell it apart.
theorem stale_eq_true_iff {t : Text} {y : Option Bytes}
    (discerned : ∀ c, y = some c → digest c = digest (Utf8.encode t) → c = Utf8.encode t) :
    stale t y = true ↔ y ≠ some (Utf8.encode t) := by
  rw [← Bool.not_eq_false, not_iff_not, stale_eq_false_iff]
  constructor
  case mp  => exact fun ⟨c, hc, same⟩ => discerned c hc same ▸ hc
  case mpr => exact fun hy => ⟨_, hy, rfl⟩

-- A check of a merge that succeeds tells what the merge tells.
theorem exists_runFiles_of_check (check : a.check = true) (unreported : a.report? = none)
    (going : w.stopped = false) {w₁ : World}
    (merged : Returns (mergeFiles i.template i.destination a.output? o true) w r w₁) :
    ∃ w', Returns (runFiles a i o) w r.changed w' := by
  obtain ⟨w₂, path⟩ := exists_say ("Output: ".toList ++ r.output.toText) w₁
  obtain ⟨w₃, summary⟩ := exists_saySummary r.draft.summary w₂
  obtain ⟨w', verdict⟩ := exists_say (if r.changed then "Changes pending." else "Up to date.").toList w₃
  refine ⟨w', returns_bind_iff.mpr ⟨(), w, by rw [Returns, run_checkStopped, going]; rfl, ?_⟩⟩
  rw [check, unreported]
  refine returns_bind_iff.mpr ⟨r, w₁, merged, returns_bind_iff.mpr ⟨(), w₂, path, ?_⟩⟩
  refine returns_bind_iff.mpr ⟨(), w₃, summary, returns_bind_iff.mpr ⟨(), w₃, rfl, ?_⟩⟩
  exact returns_bind_iff.mpr ⟨(), w', verdict, returns_pure_iff.mpr ⟨rfl, rfl⟩⟩

theorem exists_merging_of_check (there : Learns w.files i.template (some s)) (file : s.isFolder = false)
    (check : a.check = true) (unreported : a.report? = none) (going : w.stopped = false) {w₁ : World}
    (merged : Returns (mergeFiles i.template i.destination a.output? o true) w r w₁) :
    ∃ w', Returns (merging a i o) w (if r.changed then .bad else .good) w' := by
  have kind : (isFolder i.template : Job World.Run Bool).run.run w = (.ok false, w) :=
    file ▸ there.run_isFolder
  obtain ⟨w', ran⟩ := exists_runFiles_of_check check unreported going merged
  refine ⟨w', ?_⟩
  rw [Returns] at ran
  rw [merging]
  simp only [Returns, run_tryCatch, run_bind, kind, Bool.false_eq_true, if_false, ran, check, Bool.true_and]
  rfl

end Told

section Leave

theorem run_eq (read : Arguments.ofTexts words = .ok a) : (run words : Job World.Run Exit) = prepare a >>= fun
    | .error exit => pure exit
    | .ok (i, o)  => merging a i o := by
  rw [run, read]
  exact runWith_eq a

-- A run that changes a file was ready to merge.
theorem exists_ready_of_changed (changed : ((run words : Job World.Run Exit).run.run w).2.files ≠ w.files) :
    ∃ a i o, Arguments.ofTexts words = .ok a ∧ Prepares w.files a w.input (.ok (i, o)) := by
  cases read : Arguments.ofTexts words
  case error stop =>
    rw [run, read] at changed
    cases stop
    case help  => exact absurd rfl changed
    case usage => exact absurd rfl changed
  case ok a =>
    have same := (talks_prepare a w).1
    rw [run_eq read, run_bind] at changed
    cases hp : (prepare a : Job World.Run _).run.run w with
    | mk prepared w₁ =>
      rw [hp] at same changed
      cases prepared
      case error e => exact absurd same changed
      case ok prepared =>
        cases prepared
        case error exit => exact absurd same changed
        case ok ready   => exact ⟨a, ready.1, ready.2, rfl, prepares_of_prepare hp⟩

theorem keeps_run_of_check (read : Arguments.ofTexts words = .ok a) (check : a.check = true)
    (unreported : a.report = none) : Keeps (run words) := by
  rw [run_eq read]
  refine (talks_prepare a).keeps.bind fun prepared => ?_
  cases prepared
  case error exit => exact keeps_pure _
  case ok ready   => exact keeps_merging check (by rw [Arguments.report?, unreported]; rfl) _ _

-- The ends of a run before it merges anything: at its usage, at its preparations, or at files to merge that
-- are no text.
inductive Stops (words : List Text) (fs : FileSystem) (input : Text) : Exit → Prop
  | usage {e : UsageError} (read : Arguments.ofTexts words = .error (.usage e)) :
      Stops words fs input (.usage e)
  | unprepared {a : Arguments} {exit : Exit} (read : Arguments.ofTexts words = .ok a)
      (ended : Prepares fs a input (.error exit)) : Stops words fs input exit
  | untextual {a : Arguments} {i : Inputs} {o : Options} {s : Status} (read : Arguments.ofTexts words = .ok a)
      (ready : Prepares fs a input (.ok (i, o))) (there : Learns fs i.template (some s))
      (file : s.isFolder = false) (untextual : ¬Textual fs i.template i.destination) :
      Stops words fs input .bad

theorem exists_run_of_stops {exit : Exit} (h : Stops words w.files w.input exit) :
    ∃ w', Returns (run words) w exit w' ∧ w'.files = w.files := by
  cases h
  case usage e read =>
    refine ⟨w, ?_, rfl⟩
    rw [run, read]
    rfl
  case unprepared a read ended =>
    obtain ⟨w', prepared, same, _⟩ := exists_prepared ended
    rw [run_eq read]
    exact ⟨w', returns_bind_iff.mpr ⟨_, w', prepared, returns_pure_iff.mpr ⟨rfl, rfl⟩⟩, same⟩
  case untextual a i o s read ready there file untextual =>
    obtain ⟨w₁, prepared, same, _⟩ := exists_prepared ready
    obtain ⟨_, t, named, _⟩ := ready.named
    have known : i.destination.hasNull = false := named.there'.known
    obtain ⟨w', merged, same'⟩ := exists_merging_of_untextual (same ▸ there) file known (same ▸ untextual) a o
    rw [run_eq read]
    exact ⟨w', returns_bind_iff.mpr ⟨_, w₁, prepared, merged⟩, same'.trans same⟩

-- A run that changes a file though its output is taken has been told to go on.
theorem exists_answer_of_changed {output destination : Path} (read : Arguments.ofTexts words = .ok a)
    (untold : (a.check || a.yes) = false) (output_ : a.output = some (.value output))
    (destination_ : a.destination = .value destination) (taken : ¬Free w.files output destination)
    (changed : ((run words : Job World.Run Exit).run.run w).2.files ≠ w.files) :
    ∃ answer, World.answer? w.input = some answer ∧ isYes answer = true := by
  obtain ⟨_, i, o, read', ready⟩ := exists_ready_of_changed changed
  cases read.symm.trans read'
  obtain ⟨_, _, named, _⟩ := ready.named
  cases Given.value.inj (destination_.symm.trans named.destination)
  cases ready
  case ready judged granted options => exact granted.answered untold output_ taken

-- How a check of two files ends if their merge succeeds.
theorem exists_run_of_check {s : FileSystem.Status} {r : FileOutcome} {w₁ : World}
    (read : Arguments.ofTexts words = .ok a) (check : a.check = true) (unreported : a.report = none)
    (ready : Prepares w.files a w.input (.ok (i, o))) (there : Learns w.files i.template (some s))
    (file : s.isFolder = false) (going : w.stopped = false)
    (merged : Returns (mergeFiles i.template i.destination a.output? o true) w r w₁) :
    ∃ y w', Reads w.files (a.output?.getD i.destination) y ∧
      Returns (run words) w (if stale r.draft.text y then .bad else .good) w' := by
  obtain ⟨draft, _, merges, rfl, _⟩ := exists_update_of_mergeFiles merged
  obtain @⟨_, _, y, template, destination, yields, output⟩ := merges
  obtain ⟨w₂, prepared, same, unstopped⟩ := exists_prepared ready
  have kept : (stale draft.text y && !true) = false := Bool.and_false _
  obtain ⟨w₃, again, _⟩ := tells_mergeFiles (.intro template destination yields output) kept w₂ same
  have unreported : a.report? = none := by rw [Arguments.report?, unreported]; rfl
  obtain ⟨w', ended⟩ := exists_merging_of_check (same ▸ there) file check unreported (unstopped.trans going) again
  refine ⟨y, w', output, ?_⟩
  rw [run_eq read]
  exact returns_bind_iff.mpr ⟨_, w₂, prepared, ended⟩

-- What a command does to files, and what it does not do without leave.
structure Guarded (words : List Text) (w : World) : Prop where
  -- A run changes files only when its inputs are valid, it has leave and its options are put together.
  ready   : ((run words : Job World.Run Exit).run.run w).2.files ≠ w.files →
    ∃ a i o, Arguments.ofTexts words = .ok a ∧ Prepares w.files a w.input (.ok (i, o))
  -- A run that ends before it merges anything leaves the files as they are.
  stopped : ∀ exit, Stops words w.files w.input exit → ∃ w', Returns (run words) w exit w' ∧ w'.files = w.files
  -- So does one that has to ask and is given no leave.
  asked   : ∀ a output destination, Arguments.ofTexts words = .ok a → a.yes = false → a.check = false →
    a.output = some (.value output) → a.destination = .value destination →
    ¬Free w.files output destination → (∀ answer, World.answer? w.input = some answer → isYes answer = false) →
    ((run words : Job World.Run Exit).run.run w).2.files = w.files
  -- So does a check without a report.
  checked : ∀ a, Arguments.ofTexts words = .ok a → a.check = true → a.report = none →
    ((run words : Job World.Run Exit).run.run w).2.files = w.files
  -- For two files whose merge succeeds, it tells whether the output is what the merge puts together.
  told    : ∀ a i o s r w₁, Arguments.ofTexts words = .ok a → a.check = true → a.report = none →
    Prepares w.files a w.input (.ok (i, o)) → Learns w.files i.template (some s) → s.isFolder = false →
    w.stopped = false → Returns (mergeFiles i.template i.destination a.output? o true) w r w₁ →
    ∃ y exit w', Reads w.files (a.output?.getD i.destination) y ∧ Returns (run words) w exit w' ∧
      ((∀ c, y = some c → digest c = digest (Utf8.encode r.draft.text) → c = Utf8.encode r.draft.text) →
        (exit.code = 1 ↔ y ≠ some (Utf8.encode r.draft.text)))

-- Whatever its words are, a command guards the files.
theorem guarded_run (words : List Text) (w : World) : Guarded words w := by
  refine ⟨exists_ready_of_changed, fun _ => exists_run_of_stops, ?asked, fun a read check unreported => ?checked,
    ?told⟩
  case checked => exact keeps_run_of_check read check unreported w
  case asked =>
    intro a output destination read unforced unchecked output_ destination_ taken unanswered
    have untold : (a.check || a.yes) = false := by rw [unchecked, unforced]; rfl
    by_contra changed
    obtain ⟨answer, answered, yes⟩ := exists_answer_of_changed read untold output_ destination_ taken changed
    exact absurd ((unanswered answer answered).symm.trans yes) (by decide)
  case told =>
    intro a i o s r w₁ read check unreported ready there file going merged
    obtain ⟨y, w', output, ran⟩ := exists_run_of_check read check unreported ready there file going merged
    refine ⟨y, _, w', output, ran, fun discerned => ?_⟩
    rw [← stale_eq_true_iff discerned]
    cases stale r.draft.text y <;> simp [Exit.bad, Exit.good]

-- Two files to merge and an output that is a third one.
def takenOutput : FileSystem where
  entries := [
    ([['t']], .file (Utf8.encode "A=1\n".toList)),
    ([['d']], .file (Utf8.encode "A=0\n".toList)),
    ([['o']], .file (Utf8.encode "A=2\n".toList))]
  here := []
  distinct := by decide +kernel
  placed := by decide +kernel

def answering (input : Text) : World :=
  { Trees.onlyFiles takenOutput with input := input }

def takingInputs : Inputs :=
  ⟨.ofText ['t'], .ofText ['d']⟩

def takenPath : Path :=
  .ofText ['o']

def takingArguments (check : Bool) : Arguments :=
  { Arguments.standard (.value takingInputs.template) (.value takingInputs.destination) with
    output := some (.value takenPath)
    check  := check }

def takingWords (check : Bool) : List Text :=
  [['t'], ['d'], "--output".toList, ['o']] ++ if check then ["--check".toList] else []

theorem ofTexts_takingWords (check : Bool) : Arguments.ofTexts (takingWords check) = .ok (takingArguments check) := by
  cases check <;> decide +kernel

theorem options_takingArguments (check : Bool) :
    (takingArguments check).options = .ok (.oneSided .destination false Document.defaultToken) :=
  options_of_no_items rfl rfl rfl (by decide)

theorem named_takingArguments (check : Bool) :
    Named takenOutput (takingArguments check) takingInputs ⟨false, 4⟩ ⟨false, 4⟩ where
  template    := rfl
  there       := .found (by decide +kernel) (by decide +kernel)
  destination := rfl
  there'      := .found (by decide +kernel) (by decide +kernel)

theorem judges_takingArguments (check : Bool) : Judges takenOutput (takingArguments check) (.ok takingInputs) :=
  .valid (named_takingArguments check) rfl nofun

theorem frees_takenPath : Frees takenOutput takenPath takingInputs.destination false := by
  have there : Learns takenOutput takenPath (some ⟨false, 4⟩) := .found (by decide +kernel) (by decide +kernel)
  have leads : takenOutput.resolve takenPath = .ok [['o']] := by decide +kernel
  have leads' : takenOutput.resolve takingInputs.destination = .ok [['d']] := by decide +kernel
  exact .other there (by decide +kernel) leads leads' (by decide)

-- Without leave the output stays as it is, and a check tells that the merge would change it.
theorem guarded_run_of_taken_output :
    (∃ w', Returns (run (takingWords false)) (answering "no\n".toList) .good w' ∧ w'.files = takenOutput) ∧
    ∃ exit w', Returns (run (takingWords true)) (answering []) exit w' ∧ exit.code = 1 ∧ w'.files = takenOutput := by
  constructor
  case left =>
    refine (guarded_run (takingWords false) (answering "no\n".toList)).stopped _ ?_
    have answered : World.answer? "no\n".toList = some "no".toList := rfl
    have refused : Leaves takenOutput (takingArguments false) takingInputs.destination "no\n".toList false :=
      .asked rfl rfl frees_takenPath answered
    exact .unprepared (ofTexts_takingWords false) (.declined (judges_takingArguments false) refused)
  case right =>
    have guarded := guarded_run (takingWords true) (answering [])
    have read := ofTexts_takingWords true
    have ready : Prepares takenOutput (takingArguments true) [] (.ok (takingInputs, _)) :=
      .ready (judges_takingArguments true) (.flag rfl) (options_takingArguments true)
    have ⟨r, w₁, merged⟩ : ∃ r w₁, Returns (mergeFiles takingInputs.template takingInputs.destination
        (some takenPath) (.oneSided .destination false Document.defaultToken) true) (answering []) r w₁ :=
      exists_returns_of_isOk (by decide +kernel)
    obtain ⟨y, exit, w', output, ran, tells⟩ := guarded.told _ _ _ _ r w₁ read rfl rfl ready
      (named_takingArguments true).there rfl rfl merged
    have taken : Reads takenOutput takenPath (some (Utf8.encode "A=2\n".toList)) :=
      .content (by decide +kernel) (by decide +kernel)
    cases output.unique taken
    have text : ((mergeFiles takingInputs.template takingInputs.destination (some takenPath)
        (.oneSided .destination false Document.defaultToken) true : Job World.Run _).run.run
        (answering [])).1.toOption.map (·.draft.text) = some "A=0\n".toList := by
      decide +kernel
    rw [merged] at text
    have text : r.draft.text = "A=0\n".toList := Option.some.inj text
    rw [text] at tells
    have discerned : ∀ c, some (Utf8.encode "A=2\n".toList) = some c →
        digest c = digest (Utf8.encode "A=0\n".toList) → c = Utf8.encode "A=0\n".toList := by
      decide +kernel
    have same := guarded.checked _ read rfl rfl
    rw [ran] at same
    exact ⟨exit, w', ran, (tells discerned).mpr (by decide +kernel), same⟩

end Leave

end EnvMerge.Command
