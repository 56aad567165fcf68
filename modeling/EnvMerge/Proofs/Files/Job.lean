import EnvMerge.Files.Merge
import EnvMerge.Proofs.Files.Growth

namespace EnvMerge

namespace World

variable {α : Type} {a b : α} {w w' : World}

@[simp] theorem pair_eq_iff : @Eq (Id (α × World)) (a, w) (b, w') ↔ a = b ∧ w = w' :=
  iff_of_eq (Prod.mk.injEq ..)

@[simp] theorem run_status (p : Path) (w : World) :
    (Host.status p : Run _).run w = (w.files.status p, w) :=
  rfl

@[simp] theorem run_read (p : Path) (w : World) : (Host.read p : Run _).run w = (w.files.read p, w) :=
  rfl

@[simp] theorem run_filesBelow (p : Path) (w : World) :
    (Host.filesBelow p : Run _).run w = (w.files.filesBelow p, w) :=
  rfl

@[simp] theorem run_same (p q : Path) (w : World) :
    (Host.same p q : Run _).run w = (w.files.same p q, w) :=
  rfl

@[simp] theorem run_resolve (p : Path) (w : World) :
    (Host.resolve p : Run _).run w = (w.files.resolve p, w) :=
  rfl

-- A change either happens to the files or is refused.
theorem exists_of_change {f : FileSystem → Except FileError FileSystem} {x : Except FileError Unit}
    (h : (change f).run w = (x, w')) :
    (∃ fs, f w.files = .ok fs ∧ x = .ok () ∧ w'.files = fs) ∨
      ∃ e, f w.files = .error e ∧ x = .error e ∧ w' = w := by
  simp only [change, bind, StateT.bind, get, getThe, MonadStateOf.get, StateT.get, StateT.run, pure] at h
  cases hf : f w.files with
  | ok fs   =>
    rw [hf] at h
    cases h
    exact .inl ⟨fs, rfl, rfl, rfl⟩
  | error e =>
    rw [hf] at h
    cases h
    exact .inr ⟨e, rfl, rfl, rfl⟩

end World

namespace Job

open FileSystem

variable {α β : Type} {a b : α} {w w' w'' : World} {p : Path} {names : List Text} {c : Bytes}

-- Whether a job that begins in one world returns a value and ends in another.
def Returns (x : Job World.Run α) (w : World) (a : α) (w' : World) : Prop :=
  x.run.run w = (.ok a, w')

section Steps

variable {x : Job World.Run α} {f : α → Job World.Run β} {handle : Failure → Job World.Run α} {y : β}

-- A job that ends as no failure does returns.
theorem exists_returns_of_ended {P : Except Failure α × World → Prop} (failed : ∀ e w', ¬P (.error e, w'))
    (ended : P (x.run.run w)) : ∃ a w', Returns x w a w' ∧ P (.ok a, w') := by
  cases hx : x.run.run w with
  | mk result w' =>
    rw [hx] at ended
    cases result
    case error e => exact absurd ended (failed e w')
    case ok a    => exact ⟨a, w', hx, ended⟩

theorem exists_returns_of_isOk (h : (x.run.run w).1.isOk) : ∃ a w', Returns x w a w' :=
  have ⟨a, w', returns, _⟩ := exists_returns_of_ended (P := fun ended => ended.1.isOk) (fun _ _ => nofun) h
  ⟨a, w', returns⟩

theorem run_bind (x : Job World.Run α) (f : α → Job World.Run β) (w : World) :
    (x >>= f).run.run w = match x.run.run w with
      | (.ok a, w')    => (f a).run.run w'
      | (.error e, w') => (.error e, w') := by
  simp only [bind, ExceptT.bind, ExceptT.bindCont, ExceptT.run, ExceptT.mk, StateT.bind, StateT.run]
  cases x w with
  | mk result w' => cases result <;> rfl

theorem run_tryCatch (x : Job World.Run α) (handle : Failure → Job World.Run α) (w : World) :
    (tryCatch x handle).run.run w = match x.run.run w with
      | (.ok a, w')    => (.ok a, w')
      | (.error e, w') => (handle e).run.run w' := by
  simp only [tryCatch, tryCatchThe, MonadExceptOf.tryCatch, ExceptT.tryCatch, ExceptT.run, ExceptT.mk,
    bind, StateT.bind, StateT.run]
  cases x w with
  | mk result w' => cases result <;> rfl

@[simp] theorem returns_pure_iff : Returns (pure a) w b w' ↔ a = b ∧ w = w' := by
  change (Except.ok a, w) = (Except.ok b, w') ↔ _
  simp

@[simp] theorem not_returns_throw (e : Failure) : ¬Returns (throw e : Job World.Run α) w a w' := by
  intro h
  cases h

theorem returns_bind_iff :
    Returns (x >>= f) w y w'' ↔ ∃ a w', Returns x w a w' ∧ Returns (f a) w' y w'' := by
  simp only [Returns, run_bind]
  constructor
  case mp =>
    intro h
    split at h
    case h_1 a w' he => exact ⟨a, w', he, h⟩
    case h_2         => cases h
  case mpr =>
    intro ⟨a, w', hx, hf⟩
    rw [hx]
    exact hf

theorem returns_of_tryCatch (h : Returns (tryCatch x handle) w a w'') :
    Returns x w a w'' ∨ ∃ e w', Returns (handle e) w' a w'' := by
  rw [Returns, run_tryCatch] at h
  split at h
  case h_1 he      => exact .inl (he.trans h)
  case h_2 e w' he => exact .inr ⟨e, w', h⟩

@[simp] theorem returns_lift_iff {x : World.Run α} :
    Returns (ExceptT.lift x) w a w' ↔ x.run w = (a, w') := by
  change ((Except.ok (x.run w).1, (x.run w).2) : Id (Except Failure α × World)) = _ ↔ _
  cases x.run w with
  | mk result w₁ => simp

@[simp] theorem returns_ofFiles_iff {x : World.Run (Except FileError α)} :
    Returns (ofFiles x) w a w' ↔ x.run w = (.ok a, w') := by
  change (((x.run w).1.mapError Failure.file, (x.run w).2) : Id (Except Failure α × World)) = _ ↔ _
  cases x.run w with
  | mk result w₁ => cases result <;> simp [Except.mapError]

end Steps

@[simp] theorem returns_checkPath_iff {u : Unit} :
    Returns (checkPath p) w u w' ↔ p.hasNull = false ∧ w = w' := by
  rw [checkPath]
  split
  case isTrue h  => simp [h]
  case isFalse h => simp [h]

theorem returns_read_iff :
    Returns (read p) w c w' ↔ p.hasNull = false ∧ w.files.read p = .ok c ∧ w = w' := by
  simp only [read, returns_bind_iff, returns_checkPath_iff, returns_ofFiles_iff, World.run_read]
  aesop

-- How a job finds out what a path leads to.
inductive Learns (fs : FileSystem) (p : Path) : Option Status → Prop
  | null (h : p.hasNull = true) : Learns fs p none
  | absent {e : FileError} (h : fs.status p = .error e) (absent : e.cause.meansAbsent = true) :
      Learns fs p none
  | found {s : Status} (null : p.hasNull = false) (h : fs.status p = .ok s) : Learns fs p (some s)

theorem returns_status?_iff {s : Option Status} :
    Returns (status? p) w s w' ↔ Learns w.files p s ∧ w = w' := by
  rw [status?]
  split
  case isTrue null =>
    rw [returns_pure_iff, and_congr_left_iff]
    refine fun _ => ⟨fun he => he ▸ .null null, fun h => ?_⟩
    cases h
    case null          => rfl
    case absent        => rfl
    case found known _ => simp [null] at known
  case isFalse known =>
    have known : p.hasNull = false := by simpa using known
    simp only [returns_bind_iff, returns_lift_iff, World.run_status, World.pair_eq_iff]
    constructor
    case mp =>
      intro ⟨found, w₁, ⟨hf, hw⟩, h⟩
      subst hw
      split at h
      case h_1 =>
        have ⟨hs, hw⟩ := returns_pure_iff.mp h
        exact ⟨hs ▸ .found known hf, hw⟩
      case h_2 =>
        split at h
        case isTrue absent =>
          have ⟨hs, hw⟩ := returns_pure_iff.mp h
          exact ⟨hs ▸ .absent hf absent, hw⟩
        case isFalse => exact absurd h (not_returns_throw _)
    case mpr =>
      intro ⟨h, hw⟩
      subst hw
      refine ⟨_, w, ⟨rfl, rfl⟩, ?_⟩
      cases h
      case null null         => simp [known] at null
      case absent e h absent => simp [h, absent]
      case found s _ h       => simp [h]

theorem Learns.not_found {fs : FileSystem} {n : Node} (h : Learns fs p none) (null : p.hasNull = false) :
    fs.find p ≠ .ok n := by
  intro hf
  have ⟨_, hs, _⟩ := exists_status hf
  cases h
  case null h     => simp [null] at h
  case absent h _ => rw [hs] at h; cases h

-- A folder that stands at the place of a path is learnt of.
theorem Learns.not_folder {fs : FileSystem} (h : Learns fs p none) (null : p.hasNull = false)
    (hl : fs.Linkless) (ha : fs.Anchored p) : fs.node? (fs.place p) ≠ some .folder := by
  intro hf
  cases long : isTooLong p
  case false => exact h.not_found null (find_of_folder hl ha long hf)
  case true =>
    cases h
    case null h => simp [null] at h
    case absent e h absent =>
      rw [status_of_isTooLong long] at h
      cases h
      simp [FileError.Cause.meansAbsent] at absent

theorem returns_present_iff {b : Bool} :
    Returns (present p) w b w' ↔ ∃ s, Learns w.files p s ∧ b = s.isSome ∧ w = w' := by
  simp only [present, returns_bind_iff, returns_status?_iff, returns_pure_iff]
  constructor
  case mp =>
    intro ⟨s, w₁, ⟨learns, hw⟩, hb, hw'⟩
    exact ⟨s, learns, hb.symm, hw.trans hw'⟩
  case mpr => exact fun ⟨s, learns, hb, hw⟩ => ⟨s, w, ⟨learns, rfl⟩, hb.symm, hw⟩

theorem eq_of_isFolder {b : Bool} (h : Returns (isFolder p) w b w') : w' = w := by
  have ⟨s, w₁, hs, h⟩ := returns_bind_iff.mp h
  exact (returns_pure_iff.mp h).2 ▸ (returns_status?_iff.mp hs).2.symm

theorem eq_of_allowFolder {e : FileError} {u : Unit} (h : Returns (allowFolder p e) w u w') : w' = w := by
  have ⟨b, w₁, hb, h⟩ := returns_bind_iff.mp h
  split at h
  case isTrue  => exact absurd h (not_returns_throw _)
  case isFalse => exact (returns_pure_iff.mp h).2 ▸ eq_of_isFolder hb

-- A peek at a path shows what it leads to, or nothing.
theorem of_peek {s : Option Status} (h : Returns (peek? p) w s w') : w' = w ∧ ∀ t, s = some t →
    p.hasNull = false ∧ ∃ n, w.files.find p = .ok n ∧ t.isFolder = n.isFolder := by
  rw [peek?] at h
  split at h
  case isTrue =>
    have ⟨hs, hw⟩ := returns_pure_iff.mp h
    exact ⟨hw.symm, by simp [← hs]⟩
  case isFalse null =>
    have ⟨found, w₁, hf, hn⟩ := returns_bind_iff.mp h
    simp only [returns_lift_iff, World.run_status, World.pair_eq_iff] at hf
    obtain ⟨hf, rfl⟩ := hf
    have ⟨hs, hw⟩ := returns_pure_iff.mp hn
    refine ⟨hw.symm, fun t ht => ⟨by simpa using null, exists_of_status ?_⟩⟩
    rw [hf]
    cases found
    case error => simp [ht, Except.toOption] at hs
    case ok    => simpa [ht, Except.toOption] using hs

variable {u : Unit}

-- A system that is asked for a folder makes it, or refuses and changes nothing.
theorem makes_or_eq {made : Except FileError Unit} (hl : w.files.Linkless)
    (ha : w.files.AnchoredFrom (w.files.start p) (p.names ++ names))
    (h : Returns (ExceptT.lift (Host.makeFolder p)) w made w') :
    made = .ok () ∧ Makes w.files w'.files (written (w.files.start p) (p.names ++ names)) ∨
      ∃ e, made = .error e ∧ w' = w := by
  cases World.exists_of_change (returns_lift_iff.mp h)
  case inl h =>
    obtain ⟨fs, hfs, hm, rfl⟩ := h
    exact .inl ⟨hm, makes_makeFolder hl ha hfs⟩
  case inr h =>
    have ⟨e, _, hm, hw⟩ := h
    exact .inr ⟨e, hm, hw⟩

theorem makes_of_makeFolder (hl : w.files.Linkless)
    (ha : w.files.AnchoredFrom (w.files.start p) (p.names ++ names)) (h : Returns (makeFolder p) w u w') :
    Makes w.files w'.files (written (w.files.start p) (p.names ++ names)) := by
  have ⟨made, w₁, hm, hn⟩ := returns_bind_iff.mp h
  cases makes_or_eq hl ha hm
  case inl hm =>
    obtain ⟨rfl, makes⟩ := hm
    exact (returns_pure_iff.mp hn).2 ▸ makes
  case inr hm =>
    obtain ⟨e, rfl, rfl⟩ := hm
    dsimp only at hn
    split at hn
    case isTrue  => exact absurd hn (not_returns_throw _)
    case isFalse => exact eq_of_allowFolder hn ▸ .refl _ _

theorem makeFoldersUpTo_zero (p : Path) : (makeFoldersUpTo 0 p : Job World.Run Unit) = makeFolder p := by
  rw [makeFoldersUpTo, makeFolder]

-- The induction is on the depth; the names that were taken off the path lead on to the same goal.
theorem makes_of_makeFoldersUpTo {depth : Nat} (hl : w.files.Linkless)
    (ha : w.files.AnchoredFrom (w.files.start p) (p.names ++ names))
    (h : Returns (makeFoldersUpTo depth p) w u w') :
    Makes w.files w'.files (written (w.files.start p) (p.names ++ names)) := by
  induction depth generalizing p names w u w'
  case zero          => exact makes_of_makeFolder hl ha (makeFoldersUpTo_zero p ▸ h)
  case succ depth ih =>
    rw [makeFoldersUpTo] at h
    have ⟨made, w₁, hm, hn⟩ := returns_bind_iff.mp h
    cases makes_or_eq hl ha hm
    case inl hm =>
      obtain ⟨rfl, makes⟩ := hm
      exact (returns_pure_iff.mp hn).2 ▸ makes
    case inr hm =>
      obtain ⟨e, rfl, rfl⟩ := hm
      dsimp only at hn
      split at hn
      case isFalse => exact eq_of_allowFolder hn ▸ .refl _ _
      case isTrue =>
        have ⟨_, w₂, hp, hn⟩ := returns_bind_iff.mp hn
        have ⟨last, hs⟩ := List.dropLast_prefix p.names
        have same : p.parent.names ++ (last ++ names) = p.names ++ names := by
          rw [← List.append_assoc]
          exact congrArg (· ++ names) hs
        have onward := ha
        rw [← same] at onward
        have makes := ih hl (p := p.parent) onward hp
        rw [same] at makes
        have again := makes_of_makeFolder (makes.grows.linkless hl)
          (by rw [makes.grows.start_eq]; exact ha.mono makes.grows.folder) hn
        rw [makes.grows.start_eq] at again
        exact makes.trans again

theorem makes_of_makeFolders (hl : w.files.Linkless) (ha : w.files.Anchored p)
    (h : Returns (makeFolders p) w u w') : Makes w.files w'.files (w.files.place p) := by
  have ⟨_, w₁, hc, hm⟩ := returns_bind_iff.mp h
  obtain ⟨_, rfl⟩ := returns_checkPath_iff.mp hc
  have turns := ha.turns
  rw [← List.append_nil p.names] at turns
  have makes := makes_of_makeFoldersUpTo hl turns hm
  rwa [List.append_nil] at makes

theorem writes_of_write (hl : w.files.Linkless) (h : Returns (write p c) w u w') :
    p.hasNull = false ∧ Writes w.files w'.files p c := by
  have ⟨_, w₁, hc, hw⟩ := returns_bind_iff.mp h
  obtain ⟨null, rfl⟩ := returns_checkPath_iff.mp hc
  cases World.exists_of_change (returns_ofFiles_iff.mp hw)
  case inl hw =>
    obtain ⟨fs, hfs, _, rfl⟩ := hw
    exact ⟨null, FileSystem.writes_of_write hl hfs⟩
  case inr hw =>
    have ⟨_, _, he, _⟩ := hw
    cases he

theorem writes_of_writeText {t : Text} (hl : w.files.Linkless)
    (ha : w.files.Anchored p.parent) (h : Returns (writeText p t) w u w') :
    p.hasNull = false ∧ Writes w.files w'.files p (Utf8.encode t) := by
  have ⟨_, w₁, hm, hw⟩ := returns_bind_iff.mp h
  have makes := makes_of_makeFolders hl ha hm
  have ⟨null, writes⟩ := writes_of_write (makes.grows.linkless hl) hw
  exact ⟨null, makes.writes hl writes⟩

theorem returns_digestOf_iff {d : UInt64} : Returns (digestOf p defaultPiece) w d w' ↔
    ∃ c, p.hasNull = false ∧ w.files.read p = .ok c ∧ d = digest c ∧ w = w' := by
  simp only [digestOf, returns_bind_iff, returns_read_iff, returns_pure_iff]
  constructor
  case mp =>
    intro ⟨c, w₁, ⟨null, read, hw⟩, hd, hw'⟩
    exact ⟨c, null, read, by simpa [defaultPiece] using hd.symm, hw.trans hw'⟩
  case mpr =>
    intro ⟨c, null, read, hd, hw⟩
    exact ⟨c, w, ⟨null, read, rfl⟩, by simp [defaultPiece, hd], hw⟩

theorem returns_resolve {loc : Location} (known : p.hasNull = false) (h : w.files.resolve p = .ok loc) :
    Returns (resolve p) w loc w := by
  simp [resolve, returns_bind_iff, known, h]

-- What is read of a file that may be missing.
inductive Reads (fs : FileSystem) (p : Path) : Option Bytes → Prop
  | content {c : Bytes} (null : p.hasNull = false) (h : fs.read p = .ok c) : Reads fs p (some c)
  | nothing (h : Learns fs p none) : Reads fs p none

theorem Reads.content?_eq {fs : FileSystem} (h : Reads fs p (some c)) (hl : fs.Linkless) :
    fs.content? (fs.place p) = some c := by
  cases h
  case content h => exact content?_of_read hl h

theorem learns_of_read {fs : FileSystem} (null : p.hasNull = false) (h : fs.read p = .ok c) :
    ∃ s, Learns fs p (some s) :=
  have ⟨s, hs, _⟩ := exists_status (read_eq_ok_iff.mp h)
  ⟨s, .found null hs⟩

-- Whoever works on a file only if it is there works on it, or knows that there is none.
theorem returns_ifPresent_iff {α : Type} {x : Job World.Run α} {a b : α} :
    Returns (present p >>= fun there => if there then x else pure b) w a w' ↔
      (Reads w.files p none ∧ a = b ∧ w = w') ∨ ((∃ s, Learns w.files p (some s)) ∧ Returns x w a w') := by
  constructor
  case mp =>
    intro h
    have ⟨there, w₁, hp, hx⟩ := returns_bind_iff.mp h
    obtain ⟨found, learns, rfl, rfl⟩ := returns_present_iff.mp hp
    cases found
    case none =>
      obtain ⟨rfl, rfl⟩ := returns_pure_iff.mp hx
      exact .inl ⟨.nothing learns, rfl, rfl⟩
    case some s => exact .inr ⟨⟨s, learns⟩, hx⟩
  case mpr =>
    rintro (⟨nothing, rfl, rfl⟩ | ⟨⟨s, learns⟩, hx⟩)
    case inl =>
      cases nothing with
      | nothing learns =>
        exact returns_bind_iff.mpr
          ⟨false, w, returns_present_iff.mpr ⟨none, learns, rfl, rfl⟩, returns_pure_iff.mpr ⟨rfl, rfl⟩⟩
    case inr => exact returns_bind_iff.mpr ⟨true, w, returns_present_iff.mpr ⟨some s, learns, rfl, rfl⟩, hx⟩

-- How two files compare by their digests. A second file that is missing is different.
inductive Compares (fs : FileSystem) (source target : Path) : Bool → Prop
  | missing (h : Reads fs target none) : Compares fs source target true
  | digests {s t : Bytes} (hs : Reads fs source (some s)) (ht : Reads fs target (some t)) :
      Compares fs source target (digest s != digest t)

theorem Compares.exists_digest_eq {fs : FileSystem} {source target : Path} {b : Bool}
    (h : Compares fs source target b) (same : b = false) :
    ∃ s t, Reads fs source (some s) ∧ Reads fs target (some t) ∧ digest t = digest s := by
  cases h
  case missing           => cases same
  case digests s t hs ht => exact ⟨s, t, hs, ht, (bne_eq_false_iff_eq.mp same).symm⟩

theorem returns_differ_iff {source target : Path} {b : Bool} :
    Returns (differ source target) w b w' ↔ Compares w.files source target b ∧ w = w' := by
  rw [differ, returns_ifPresent_iff]
  constructor
  case mp =>
    rintro (⟨missing, rfl, rfl⟩ | ⟨_, h⟩)
    case inl => exact ⟨.missing missing, rfl⟩
    case inr =>
      have ⟨_, w₁, hds, h₁⟩ := returns_bind_iff.mp h
      obtain ⟨s, sNull, hs, rfl, rfl⟩ := returns_digestOf_iff.mp hds
      have ⟨_, w₂, hdt, h₂⟩ := returns_bind_iff.mp h₁
      obtain ⟨t, tNull, ht, rfl, rfl⟩ := returns_digestOf_iff.mp hdt
      obtain ⟨rfl, rfl⟩ := returns_pure_iff.mp h₂
      exact ⟨.digests (.content sNull hs) (.content tNull ht), rfl⟩
  case mpr =>
    rintro ⟨compares, rfl⟩
    cases compares
    case missing missing => exact .inl ⟨missing, rfl, rfl⟩
    case digests s t hs ht =>
      cases hs with
      | content sNull hs =>
        cases ht with
        | content tNull ht =>
          refine .inr ⟨learns_of_read tNull ht, ?_⟩
          refine returns_bind_iff.mpr ⟨_, w, returns_digestOf_iff.mpr ⟨s, sNull, hs, rfl, rfl⟩, ?_⟩
          exact returns_bind_iff.mpr
            ⟨_, w, returns_digestOf_iff.mpr ⟨t, tNull, ht, rfl, rfl⟩, returns_pure_iff.mpr ⟨rfl, rfl⟩⟩

theorem writes_of_writeCopy (hl : w.files.Linkless)
    (h : Returns (writeCopy p c) w u w') : p.hasNull = false ∧ Writes w.files w'.files p c := by
  cases returns_of_tryCatch h
  case inl h => exact writes_of_write hl h
  case inr h =>
    have ⟨e, w₁, h⟩ := h
    split at h
    case isTrue =>
      have ⟨_, _, _, h⟩ := returns_bind_iff.mp h
      split at h <;> exact absurd h (not_returns_throw _)
    case isFalse => exact absurd h (not_returns_throw _)

-- A copy becomes its target, if that is no folder.
theorem writes_of_copy {source target : Path} (hl : w.files.Linkless)
    (ha : w.files.Anchored target.parent) (outside : ¬w.files.place target <+: w.files.place target.parent)
    (hf : target.hasNull = false → w.files.node? (w.files.place target) ≠ some .folder)
    (h : Returns (copy source target) w u w') :
    ∃ c, w.files.content? (w.files.place source) = some c ∧
      (w.files.place source ≠ w.files.place target → Reads w'.files source (some c)) ∧
        target.hasNull = false ∧ Writes w.files w'.files target c := by
  have ⟨_, w₁, hm, h₁⟩ := returns_bind_iff.mp h
  have makes := makes_of_makeFolders hl ha hm
  have hl₁ := makes.grows.linkless hl
  have ⟨seen, w₂, hs, h₂⟩ := returns_bind_iff.mp h₁
  obtain ⟨rfl, found⟩ := of_peek hs
  have inside : seen.any (·.isFolder) = false := by
    cases seen
    case none   => rfl
    case some t =>
      have ⟨null, n, hn, ht⟩ := found t rfl
      have there := ((find_eq_ok_iff hl₁).mp hn).2.2
      rw [makes.grows.place_eq, makes.other _ outside] at there
      cases n <;> simp [ht, Node.isFolder]
      exact hf null there
  simp only [inside] at h₂
  have ⟨_, w₃, hc, h₃⟩ := returns_bind_iff.mp h₂
  obtain ⟨sourceNull, rfl⟩ := returns_checkPath_iff.mp hc
  have ⟨_, w₄, hc, h₄⟩ := returns_bind_iff.mp h₃
  obtain ⟨null, rfl⟩ := returns_checkPath_iff.mp hc
  have ⟨same, w₅, hi, h₅⟩ := returns_bind_iff.mp h₄
  simp only [returns_lift_iff, World.run_same, World.pair_eq_iff] at hi
  obtain ⟨_, rfl⟩ := hi
  split at h₅
  case isTrue =>
    have ⟨_, _, ht, _⟩ := returns_bind_iff.mp h₅
    exact absurd ht (not_returns_throw _)
  case isFalse =>
    have ⟨c, w₆, hc, h₆⟩ := returns_bind_iff.mp h₅
    obtain ⟨_, read, rfl⟩ := returns_read_iff.mp hc
    have ⟨targetNull, writes⟩ := writes_of_writeCopy hl₁ h₆
    simp only [Bool.false_eq_true, if_false] at targetNull writes
    have held := content?_of_read hl₁ read
    rw [makes.grows.place_eq, makes.grows.content _ id] at held
    refine ⟨c, held, fun apart => .content sourceNull ?_, targetNull, makes.writes hl writes⟩
    rw [← makes.grows.place_eq source, ← makes.grows.place_eq target] at apart
    exact writes.toGrows.read hl₁ apart read

end Job
end EnvMerge
