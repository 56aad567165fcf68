import EnvMerge.Proofs.Command.Inputs

namespace EnvMerge

open FileSystem

namespace World

-- The answer that an input begins with, which is its first line.
def answer? (input : Text) : Option Text :=
  if input = [] then none else some (input.takeWhile (· != '\n'))

theorem exists_run_ask (w : World) : ∃ rest,
    (Host.ask : Run (Option Text)).run w = (answer? w.input, { w with input := rest }) := by
  change ∃ rest, nextLine.run w = _
  by_cases hi : w.input = []
  case pos =>
    refine ⟨w.input, ?_⟩
    rw [answer?, if_pos hi]
    simp only [nextLine, StateT.run_bind, StateT.run_get, pure_bind, if_pos hi]
    rfl
  case neg =>
    refine ⟨(w.input.dropWhile (· != '\n')).drop 1, ?_⟩
    rw [answer?, if_neg hi]
    simp only [nextLine, StateT.run_bind, StateT.run_get, pure_bind, if_neg hi]
    rfl

end World

namespace Job

variable {α β : Type} {b : α} {fs : FileSystem} {w w' : World} {p : Path} {loc : Location}
variable {x y : Job World.Run α} {f : α → Job World.Run β}

theorem resolves_of_returns (h : Returns (Job.resolve p) w loc w') :
    p.hasNull = false ∧ w.files.resolve p = .ok loc ∧ w = w' := by
  obtain ⟨_, w₁, hc, h⟩ := returns_bind_iff.mp h
  obtain ⟨known, rfl⟩ := returns_checkPath_iff.mp hc
  obtain ⟨found, w₂, hf, h⟩ := returns_bind_iff.mp h
  simp only [returns_lift_iff, World.run_resolve, World.pair_eq_iff] at hf
  obtain ⟨rfl, rfl⟩ := hf
  split at h
  case h_1 found =>
    obtain ⟨rfl, rfl⟩ := returns_pure_iff.mp h
    exact ⟨known, found, rfl⟩
  case h_2 => exact absurd h (not_returns_throw _)

-- A job that may talk with the user, but leaves the files and the wish to stop as they are, also when it
-- fails.
def Talks (x : Job World.Run α) : Prop :=
  Moves (fun w w' => w'.files = w.files ∧ w'.stopped = w.stopped) x

section Talks

theorem Looks.talks (h : Looks x) : Talks x :=
  fun w => (h w).symm ▸ ⟨rfl, rfl⟩

theorem Talks.keeps (h : Talks x) : Keeps x :=
  fun w => (h w).1

theorem talks_pure (a : α) : Talks (pure a) :=
  (looks_pure a).talks

theorem Talks.bind (hx : Talks x) (hf : ∀ a, Talks (f a)) : Talks (x >>= f) :=
  Moves.bind (fun h h' => ⟨h'.1.trans h.1, h'.2.trans h.2⟩) hx hf

theorem Talks.ite {c : Prop} [Decidable c] (hx : Talks x) (hy : Talks y) : Talks (if c then x else y) :=
  Moves.ite (R := fun w w' => w'.files = w.files ∧ w'.stopped = w.stopped) hx hy

theorem talks_print (t : Text) : Talks (ExceptT.lift (Host.print t)) :=
  fun _ => ⟨rfl, rfl⟩

theorem exists_returns_ask (w : World) : ∃ rest,
    Returns (ExceptT.lift Host.ask) w (World.answer? w.input) { w with input := rest } :=
  have ⟨rest, asked⟩ := World.exists_run_ask w
  ⟨rest, returns_lift_iff.mpr asked⟩

theorem talks_ask : Talks (ExceptT.lift Host.ask) := by
  intro w
  have ⟨rest, asked⟩ := exists_returns_ask w
  rw [asked]
  exact ⟨rfl, rfl⟩

end Talks
end Job

namespace Command

open Job

variable {fs : FileSystem} {w w' : World} {a : Arguments}

section Outputs

variable {output destination : Path} {i : Inputs} {b : Bool}

-- How it is found out whether an output may be replaced without asking.
inductive Frees (fs : FileSystem) (output destination : Path) : Bool → Prop
  | missing (absent : Learns fs output none) : Frees fs output destination true
  | same {s : Status} {loc : Location} (there : Learns fs output (some s))
      (known : destination.hasNull = false) (leads : fs.resolve output = .ok loc)
      (leads' : fs.resolve destination = .ok loc) : Frees fs output destination true
  | other {s : Status} {loc loc' : Location} (there : Learns fs output (some s))
      (known : destination.hasNull = false) (leads : fs.resolve output = .ok loc)
      (leads' : fs.resolve destination = .ok loc') (apart : loc ≠ loc') :
      Frees fs output destination (s.isFolder && !fs.hasEntries output)

theorem frees_of_isFree (h : Returns (isFree output destination) w b w') :
    Frees w.files output destination b ∧ w = w' := by
  have ⟨_, w₁, hs, h⟩ := returns_bind_iff.mp h
  obtain ⟨s, learns, rfl, rfl⟩ := returns_present_iff.mp hs
  cases s
  case none =>
    obtain ⟨rfl, rfl⟩ := returns_pure_iff.mp h
    exact ⟨.missing learns, rfl⟩
  case some s =>
    have ⟨loc, w₂, hl, h⟩ := returns_bind_iff.mp h
    obtain ⟨_, leads, rfl⟩ := resolves_of_returns hl
    have ⟨loc', w₃, hl', h⟩ := returns_bind_iff.mp h
    obtain ⟨known, leads', rfl⟩ := resolves_of_returns hl'
    split at h
    case isTrue same =>
      obtain ⟨rfl, rfl⟩ := returns_pure_iff.mp h
      exact ⟨.same learns known leads (beq_iff_eq.mp same ▸ leads'), rfl⟩
    case isFalse apart =>
      have apart : loc ≠ loc' := by simpa using apart
      have ⟨_, w₄, hf, h⟩ := returns_bind_iff.mp h
      obtain ⟨_, seen, rfl, rfl⟩ := returns_isFolder_iff.mp hf
      cases seen.unique learns
      have other := Frees.other learns known leads leads' apart
      cases hs : s.isFolder
      case false =>
        rw [hs] at other
        simp only [Option.any_some, hs] at h
        obtain ⟨rfl, rfl⟩ := returns_pure_iff.mp h
        exact ⟨other, rfl⟩
      case true =>
        rw [hs] at other
        simp only [Option.any_some, hs] at h
        obtain ⟨entries, w₅, he, h⟩ := returns_bind_iff.mp h
        obtain ⟨rfl, rfl⟩ := returns_pure_iff.mp h
        cases returns_lift_iff.mp he
        exact ⟨other, rfl⟩

theorem isFree_of_frees (h : Frees w.files output destination b) :
    Returns (isFree output destination) w b w := by
  have leadsTo {p : Path} {loc : Location} (known : p.hasNull = false) (h : w.files.resolve p = .ok loc) :
      (Job.resolve p : Job World.Run Location).run.run w = (.ok loc, w) :=
    returns_resolve known h
  rw [Returns, isFree]
  cases h
  case missing absent =>
    simp only [run_bind, absent.run_present]
    rfl
  case same s loc there known leads leads' =>
    simp only [run_bind, there.run_present, leadsTo there.known leads, leadsTo known leads', Option.isSome_some,
      Bool.not_true, Bool.false_eq_true, if_false, beq_self_eq_true, if_true]
    rfl
  case other s loc loc' there known leads leads' apart =>
    simp only [run_bind, there.run_present, leadsTo there.known leads, leadsTo known leads', Option.isSome_some,
      Bool.not_true, Bool.false_eq_true, if_false, beq_eq_false_iff_ne.mpr apart, there.run_isFolder]
    cases s.isFolder <;> rfl

theorem looks_isFree (output destination : Path) : Looks (isFree output destination) := by
  refine (looks_present _).bind fun _ => .ite (looks_pure _) ?_
  refine (looks_resolve _).bind fun _ => (looks_resolve _).bind fun _ => .ite (looks_pure _) ?_
  refine (looks_isFolder _).bind fun _ => .ite ?_ (looks_pure _)
  exact (looks_lift fun _ => rfl).bind fun _ => looks_pure _

-- An output that is missing, or the destination itself, or an empty folder.
inductive Free (fs : FileSystem) (output destination : Path) : Prop
  | missing (absent : Learns fs output none) : Free fs output destination
  | same {loc : Location} (leads : fs.resolve output = .ok loc) (leads' : fs.resolve destination = .ok loc) :
      Free fs output destination
  | empty {loc : Location} (stands : fs.locate .node output = .ok loc) (folder : fs.node? loc = some .folder)
      (nothing : ∀ name, fs.node? (loc ++ [name]) = none) : Free fs output destination

theorem nothing_of_hasEntries {loc : Location} {name : Text} (stands : fs.locate .node output = .ok loc)
    (h : fs.hasEntries output = false) : fs.node? (loc ++ [name]) = none := by
  rw [hasEntries, stands] at h
  refine Option.eq_none_iff_forall_not_mem.mpr fun n hn => ?_
  have listed := (mem_entries_iff (by simp)).mpr hn
  simpa using List.any_eq_false.mp h _ listed

theorem free_of_frees (h : Frees fs output destination true) : Free fs output destination := by
  generalize hb : true = b at h
  cases h
  case missing absent          => exact .missing absent
  case same there _ leads leads' => exact .same leads leads'
  case other s loc loc' there known leads leads' apart =>
    rw [eq_comm, Bool.and_eq_true, Bool.not_eq_true'] at hb
    obtain ⟨folder, nothing⟩ := hb
    cases there
    case found null status =>
      obtain ⟨n, found, kind⟩ := exists_of_status status
      rw [folder] at kind
      rw [FileSystem.find] at found
      cases stands : fs.locate .node output
      case error => rw [stands] at found; cases found
      case ok loc =>
        simp only [stands, bind, Except.bind] at found
        split at found
        case h_2 => cases found
        case h_1 here =>
          cases found
          cases n
          case folder => exact .empty stands here fun _ => nothing_of_hasEntries stands nothing
          all_goals cases kind

-- How leave is found, or not, to replace an output: it is not needed, or the user is asked.
inductive Leaves (fs : FileSystem) (a : Arguments) (destination : Path) (input : Text) : Bool → Prop
  | flag (told : a.check || a.yes) : Leaves fs a destination input true
  | unnamed (output : a.output = none) : Leaves fs a destination input true
  | free {p : Path} (output : a.output = some (.value p)) (free : Frees fs p destination true) :
      Leaves fs a destination input true
  | asked {p : Path} {answer : Text} (untold : (a.check || a.yes) = false) (output : a.output = some (.value p))
      (taken : Frees fs p destination false) (answered : World.answer? input = some answer) :
      Leaves fs a destination input (isYes answer)

-- An output that is none of those that are free is left to the answer.
theorem Leaves.answered {p : Path} {input : Text} (h : Leaves fs a destination input b)
    (untold : (a.check || a.yes) = false) (output : a.output = some (.value p)) (taken : ¬Free fs p destination) :
    ∃ answer, World.answer? input = some answer ∧ isYes answer = b := by
  cases h
  case flag told     => exact absurd (untold.symm.trans told) (by decide)
  case unnamed none_ => cases output.symm.trans none_
  case free q given free =>
    cases output.symm.trans given
    exact absurd (free_of_frees free) taken
  case asked q answer _ given _ answered => exact ⟨answer, answered, rfl⟩

theorem talks_confirm (output : Option Path) (destination : Path) : Talks (confirm output destination) := by
  cases output
  case none        => exact talks_pure _
  case some output =>
    refine (looks_isFree _ _).talks.bind fun _ => .ite (talks_pure _) ?_
    refine (talks_print _).bind fun _ => (talks_print _).bind fun _ => talks_ask.bind fun answer => ?_
    cases answer
    case none => exact (looks_throw _).talks
    case some => exact talks_pure _

theorem talks_leave (a : Arguments) (i : Inputs) : Talks (leave a i) :=
  .ite (talks_pure _) ((looks_ofExcept _).talks.bind fun _ => talks_confirm _ _)

theorem mapM_get_eq_ok_iff {g : Option (Given Path)} {p : Option Path} {feature : String} :
    g.mapM (·.get feature) = .ok p ↔ g = p.map .value := by
  cases g
  case none => cases p <;> simp [pure, Except.pure]
  case some g =>
    cases g <;> cases p <;> simp [Given.get, Functor.map, Except.map]

-- What follows when an output may not be replaced without asking.
theorem run_confirm_of_taken (taken : Frees w.files output destination false) : ∃ w',
    (confirm (some output) destination : Job World.Run Bool).run.run w =
      ((World.answer? w.input).elim (.error .endOfInput) fun answer => .ok (isYes answer), w') := by
  rw [confirm, run_bind, isFree_of_frees taken]
  simp only [Bool.false_eq_true, if_false]
  obtain ⟨rest, asked⟩ := exists_returns_ask { w with output := w.output
    ++ ("Warning: Output already exists: ".toList ++ output.toText ++ ['\n']) ++ "Continue anyway? (y/N): ".toList }
  have said (t : Text) (w : World) : (ExceptT.lift (Host.print t) : Job World.Run Unit).run.run w =
      (.ok (), { w with output := w.output ++ t }) := rfl
  rw [run_bind, sayPath, say, printLine, said]
  dsimp only
  rw [run_bind, said]
  dsimp only
  rw [run_bind, asked]
  dsimp only
  cases World.answer? w.input
  case none => exact ⟨_, rfl⟩
  case some => exact ⟨_, rfl⟩

theorem leaves_of_leave (h : Returns (leave a i) w b w') : Leaves w.files a i.destination w.input b := by
  rw [leave] at h
  split at h
  case isTrue told =>
    obtain ⟨rfl, _⟩ := returns_pure_iff.mp h
    exact .flag told
  case isFalse untold =>
    obtain ⟨output, w₁, ho, h⟩ := returns_bind_iff.mp h
    obtain ⟨given, rfl⟩ := returns_ofExcept_iff.mp ho
    have named := mapM_get_eq_ok_iff.mp given
    cases output
    case none =>
      obtain ⟨rfl, _⟩ := returns_pure_iff.mp h
      exact .unnamed named
    case some p =>
      obtain ⟨free, w₂, hf, h'⟩ := returns_bind_iff.mp h
      obtain ⟨frees, rfl⟩ := frees_of_isFree hf
      cases free
      case true =>
        obtain ⟨rfl, _⟩ := returns_pure_iff.mp h'
        exact .free named frees
      case false =>
        obtain ⟨w₃, confirmed⟩ := run_confirm_of_taken frees
        rw [Returns, confirmed] at h
        cases answered : World.answer? w.input
        case none =>
          rw [answered] at h
          cases h
        case some answer =>
          rw [answered] at h
          cases h
          exact .asked (by simpa using untold) named frees answered

theorem exists_leave_of_leaves (h : Leaves w.files a i.destination w.input b) :
    ∃ w', Returns (leave a i) w b w' := by
  have told (h : a.check || a.yes) : Returns (leave a i) w true w := by
    rw [leave, if_pos h]
    exact returns_pure_iff.mpr ⟨rfl, rfl⟩
  have untold {p : Option Path} {b : Bool} {w' : World} (h : (a.check || a.yes) = false)
      (output : a.output = p.map .value) (confirmed : Returns (confirm p i.destination) w b w') :
      Returns (leave a i) w b w' := by
    rw [leave, h]
    simp only [Bool.false_eq_true, if_false]
    exact returns_bind_iff.mpr
      ⟨p, w, returns_ofExcept_iff.mpr ⟨mapM_get_eq_ok_iff.mpr output, rfl⟩, confirmed⟩
  have granted {p : Option Path} {w' : World} (output : a.output = p.map .value)
      (confirmed : Returns (confirm p i.destination) w true w') : ∃ w', Returns (leave a i) w true w' := by
    cases h : a.check || a.yes
    case false => exact ⟨w', untold h output confirmed⟩
    case true  => exact ⟨w, told h⟩
  cases h
  case flag h         => exact ⟨w, told h⟩
  case unnamed output => exact granted (p := none) output (returns_pure_iff.mpr ⟨rfl, rfl⟩)
  case free p output free =>
    have confirmed : Returns (confirm (some p) i.destination) w true w :=
      returns_bind_iff.mpr ⟨true, w, isFree_of_frees free, returns_pure_iff.mpr ⟨rfl, rfl⟩⟩
    exact granted (p := some p) output confirmed
  case asked p answer h output taken answered =>
    obtain ⟨w', confirmed⟩ := run_confirm_of_taken taken
    rw [answered] at confirmed
    exact ⟨w', untold (p := some p) h output confirmed⟩

end Outputs

section Prepare

section Parts

variable {m : Type → Type} [Monad m] [Host m]

-- Asks for leave to merge inputs and puts the options together, unless the run ends here.
def settle (a : Arguments) (i : Inputs) : Job m (Except Exit (Inputs × Options)) := do
  if !(← leave a i) then
    say "Aborted.".toList
    return .error .good
  match a.options with
  | .error e =>
    sayError e.message
    return .error .bad
  | .ok o =>
    sayBanner i
    return .ok (i, o)

-- What a run does before it merges.
def prepare (a : Arguments) : Job m (Except Exit (Inputs × Options)) := do
  match ← inputs a with
  | .error text =>
    sayError text
    return .error .bad
  | .ok i =>
    if a.verbose then ExceptT.lift Host.showDebug
    settle a i

-- A run merges unless it has come to its end.
theorem runWith_eq [LawfulMonad m] (a : Arguments) : (runWith a : Job m Exit) = prepare a >>= fun
    | .error exit => pure exit
    | .ok (i, o)  => merging a i o := by
  rw [runWith, prepare, bind_assoc]
  congr 1
  funext judged
  cases judged
  case error text => simp only [bind_assoc, pure_bind]
  case ok i =>
    simp only [settle, ite_bind, bind_assoc]
    cases a.options
    case error e => simp only [pure_bind, bind_assoc]
    case ok o    => simp only [pure_bind, bind_assoc]

end Parts

-- What comes of the preparations.
inductive Prepares (fs : FileSystem) (a : Arguments) (input : Text) : Except Exit (Inputs × Options) → Prop
  | invalid {text : Text} (judged : Judges fs a (.error text)) : Prepares fs a input (.error .bad)
  | declined {i : Inputs} (judged : Judges fs a (.ok i)) (refused : Leaves fs a i.destination input false) :
      Prepares fs a input (.error .good)
  | misset {i : Inputs} {e : Failure} (judged : Judges fs a (.ok i))
      (granted : Leaves fs a i.destination input true) (options : a.options = .error e) :
      Prepares fs a input (.error .bad)
  | ready {i : Inputs} {o : Options} (judged : Judges fs a (.ok i))
      (granted : Leaves fs a i.destination input true) (options : a.options = .ok o) :
      Prepares fs a input (.ok (i, o))

theorem Prepares.named {input : Text} {i : Inputs} {o : Options} (h : Prepares fs a input (.ok (i, o))) :
    ∃ s t, Named fs a i s t ∧ s.isFolder = t.isFolder := by
  cases h
  case ready judged granted options =>
    cases judged
    case valid s t alike good named => exact ⟨s, t, named, alike⟩

theorem talks_say (t : Text) : Talks (say t) :=
  talks_print _

theorem talks_sayBanner (i : Inputs) : Talks (sayBanner i) :=
  (talks_say _).bind fun _ => (talks_say _).bind fun _ => (talks_say _).bind fun _ =>
    (talks_say _).bind fun _ => talks_say _

theorem talks_settle (a : Arguments) (i : Inputs) : Talks (settle a i) := by
  refine (talks_leave a i).bind fun _ => .ite ((talks_say _).bind fun _ => talks_pure _) ?_
  cases a.options
  case error => exact (talks_say _).bind fun _ => talks_pure _
  case ok    => exact (talks_sayBanner i).bind fun _ => talks_pure _

theorem talks_prepare (a : Arguments) : Talks (prepare a) := by
  refine (looks_inputs a).talks.bind fun judged => ?_
  cases judged
  case error => exact (talks_say _).bind fun _ => talks_pure _
  case ok i  => exact .ite ((looks_lift fun _ => rfl).talks.bind fun _ => talks_settle a i) (talks_settle a i)

theorem prepares_of_settle {x : Except Exit (Inputs × Options)} {i : Inputs} (judged : Judges w.files a (.ok i))
    (h : Returns (settle a i) w x w') : Prepares w.files a w.input x := by
  obtain ⟨granted, w₁, hl, h⟩ := returns_bind_iff.mp h
  have leaves := leaves_of_leave hl
  cases granted
  case false =>
    obtain ⟨_, w₂, _, h⟩ := returns_bind_iff.mp h
    obtain ⟨rfl, _⟩ := returns_pure_iff.mp h
    exact .declined judged leaves
  case true =>
    simp only [Bool.not_true, Bool.false_eq_true, if_false] at h
    split at h
    case h_1 e options =>
      obtain ⟨_, w₂, _, h⟩ := returns_bind_iff.mp h
      obtain ⟨rfl, _⟩ := returns_pure_iff.mp h
      exact .misset judged leaves options
    case h_2 o options =>
      obtain ⟨_, w₂, _, h⟩ := returns_bind_iff.mp h
      obtain ⟨rfl, _⟩ := returns_pure_iff.mp h
      exact .ready judged leaves options

theorem prepares_of_prepare {x : Except Exit (Inputs × Options)} (h : Returns (prepare a) w x w') :
    Prepares w.files a w.input x := by
  obtain ⟨judged, w₁, hj, h⟩ := returns_bind_iff.mp h
  obtain ⟨judges, rfl⟩ := returns_inputs_iff.mp hj
  cases judged
  case error text =>
    obtain ⟨_, w₂, _, h⟩ := returns_bind_iff.mp h
    obtain ⟨rfl, _⟩ := returns_pure_iff.mp h
    exact .invalid judges
  case ok i =>
    dsimp only at h
    split at h
    case isTrue =>
      obtain ⟨_, w₂, hd, h⟩ := returns_bind_iff.mp h
      cases hd
      exact prepares_of_settle judges h
    case isFalse => exact prepares_of_settle judges h

theorem exists_say (t : Text) (w : World) : ∃ w', Returns (say t) w () w' :=
  ⟨_, rfl⟩

theorem exists_sayBanner (i : Inputs) (w : World) : ∃ w', Returns (sayBanner i) w () w' :=
  ⟨_, rfl⟩

theorem exists_prepare_of_prepares {x : Except Exit (Inputs × Options)} (h : Prepares w.files a w.input x) :
    ∃ w', Returns (prepare a) w x w' := by
  have settled {i : Inputs} (judged : Judges w.files a (.ok i)) (h : ∃ w', Returns (settle a i) w x w') :
      ∃ w', Returns (prepare a) w x w' := by
    obtain ⟨w', h⟩ := h
    refine ⟨w', returns_bind_iff.mpr ⟨.ok i, w, inputs_of_judges judged, ?_⟩⟩
    cases hv : a.verbose
    all_goals exact h
  cases h
  case invalid text judged =>
    obtain ⟨w', said⟩ := exists_say ("Error: ".toList ++ text) w
    refine ⟨w', returns_bind_iff.mpr ⟨.error text, w, inputs_of_judges judged, ?_⟩⟩
    exact returns_bind_iff.mpr ⟨(), w', said, returns_pure_iff.mpr ⟨rfl, rfl⟩⟩
  case declined i judged refused =>
    obtain ⟨w₁, left_⟩ := exists_leave_of_leaves refused
    obtain ⟨w', said⟩ := exists_say "Aborted.".toList w₁
    refine settled judged ⟨w', returns_bind_iff.mpr ⟨false, w₁, left_, ?_⟩⟩
    exact returns_bind_iff.mpr ⟨(), w', said, returns_pure_iff.mpr ⟨rfl, rfl⟩⟩
  case misset i e judged granted options =>
    obtain ⟨w₁, left_⟩ := exists_leave_of_leaves granted
    obtain ⟨w', said⟩ := exists_say ("Error: ".toList ++ e.message) w₁
    refine settled judged ⟨w', returns_bind_iff.mpr ⟨true, w₁, left_, ?_⟩⟩
    rw [options]
    exact returns_bind_iff.mpr ⟨(), w', said, returns_pure_iff.mpr ⟨rfl, rfl⟩⟩
  case ready i o judged granted options =>
    obtain ⟨w₁, left_⟩ := exists_leave_of_leaves granted
    obtain ⟨w', said⟩ := exists_sayBanner i w₁
    refine settled judged ⟨w', returns_bind_iff.mpr ⟨true, w₁, left_, ?_⟩⟩
    rw [options]
    exact returns_bind_iff.mpr ⟨(), w', said, returns_pure_iff.mpr ⟨rfl, rfl⟩⟩

-- Preparations come to what they come to, and leave the files as they are.
theorem exists_prepared {x : Except Exit (Inputs × Options)} (h : Prepares w.files a w.input x) :
    ∃ w', Returns (prepare a) w x w' ∧ w'.files = w.files ∧ w'.stopped = w.stopped := by
  obtain ⟨w', prepared⟩ := exists_prepare_of_prepares h
  have talked := talks_prepare a w
  rw [prepared] at talked
  exact ⟨w', prepared, talked⟩

end Prepare

end Command
end EnvMerge
