import EnvMerge.Proofs.Files.Reading
import EnvMerge.Proofs.Files.Scan

namespace EnvMerge

open FileSystem Merge

namespace Job

variable {α β : Type} {a : α} {b : β} {w : World} {fs : FileSystem} {p source target : Path}
variable {x : Job World.Run α} {f : α → Job World.Run β} {handle : Failure → Job World.Run α}

-- How a job moves the world, also when it fails.
def Moves (R : World → World → Prop) (x : Job World.Run α) : Prop :=
  ∀ w, R w (x.run.run w).2

namespace Moves

variable {R : World → World → Prop}

theorem bind (trans : ∀ {w w' w''}, R w w' → R w' w'' → R w w'') (hx : Moves R x)
    (hf : ∀ a, Moves R (f a)) : Moves R (x >>= f) := by
  intro w
  have before := hx w
  rw [run_bind]
  split
  all_goals
    rename_i he
    rw [he] at before
  case h_1 => exact trans before (hf _ _)
  case h_2 => exact before

theorem tryCatch (trans : ∀ {w w' w''}, R w w' → R w' w'' → R w w'') (hx : Moves R x)
    (hh : ∀ e, Moves R (handle e)) : Moves R (tryCatch x handle) := by
  intro w
  have before := hx w
  rw [run_tryCatch]
  split
  all_goals
    rename_i he
    rw [he] at before
  case h_1 => exact before
  case h_2 => exact trans before (hh _ _)

theorem ite {c : Prop} [Decidable c] {y : Job World.Run α} (hx : Moves R x) (hy : Moves R y) :
    Moves R (if c then x else y) := by
  split
  case isTrue  => exact hx
  case isFalse => exact hy

theorem foldlM {step : β → α → Job World.Run β} (refl : ∀ w, R w w)
    (trans : ∀ {w w' w''}, R w w' → R w' w'' → R w w'') (h : ∀ b a, Moves R (step b a)) (as : List α)
    (b : β) : Moves R (as.foldlM step b) := by
  induction as generalizing b
  case nil          => exact refl
  case cons a as ih => exact (h b a).bind trans ih

end Moves

-- A job that only looks at the world, also when it fails.
def Looks (x : Job World.Run α) : Prop :=
  Moves (fun w w' => w' = w) x

section Looks

theorem looks_pure (a : α) : Looks (pure a) :=
  fun _ => rfl

theorem looks_throw (e : Failure) : Looks (throw e : Job World.Run α) :=
  fun _ => rfl

theorem looks_lift {y : World.Run α} (h : ∀ w, (y.run w).2 = w) : Looks (ExceptT.lift y) :=
  h

theorem looks_ofFiles {y : World.Run (Except FileError α)} (h : ∀ w, (y.run w).2 = w) : Looks (ofFiles y) :=
  h

theorem Looks.bind (hx : Looks x) (hf : ∀ a, Looks (f a)) : Looks (x >>= f) :=
  Moves.bind (fun h h' => h'.trans h) hx hf

theorem Looks.tryCatch (hx : Looks x) (hh : ∀ e, Looks (handle e)) : Looks (tryCatch x handle) :=
  Moves.tryCatch (fun h h' => h'.trans h) hx hh

theorem Looks.ite {c : Prop} [Decidable c] {y : Job World.Run α} (hx : Looks x) (hy : Looks y) :
    Looks (if c then x else y) :=
  Moves.ite hx hy

theorem looks_foldlM {step : β → α → Job World.Run β} (h : ∀ b a, Looks (step b a)) (as : List α) (b : β) :
    Looks (as.foldlM step b) :=
  Moves.foldlM (R := fun w w' => w' = w) (fun _ => rfl) (fun h h' => h'.trans h) h as b

theorem looks_checkPath (p : Path) : Looks (checkPath p) :=
  .ite (looks_throw _) (looks_pure _)

theorem looks_read (p : Path) : Looks (read p) :=
  (looks_checkPath p).bind fun _ => looks_ofFiles fun _ => rfl

theorem looks_status? (p : Path) : Looks (status? p) := by
  refine .ite (looks_pure _) (.bind (looks_lift fun _ => rfl) fun found => ?_)
  cases found
  case ok      => exact looks_pure _
  case error e => exact .ite (looks_pure _) (looks_throw _)

theorem looks_present (p : Path) : Looks (present p) :=
  (looks_status? p).bind fun _ => looks_pure _

theorem looks_digestOf (p : Path) (size : Int) : Looks (digestOf p size) :=
  (looks_read p).bind fun _ => looks_pure _

theorem looks_resolve (p : Path) : Looks (resolve p) := by
  refine (looks_checkPath p).bind fun _ => .bind (looks_lift fun _ => rfl) fun found => ?_
  cases found
  case ok    => exact looks_pure _
  case error => exact looks_throw _

theorem looks_differ (source target : Path) : Looks (differ source target) :=
  (looks_present target).bind fun _ => .ite
    ((looks_digestOf _ _).bind fun _ => (looks_digestOf _ _).bind fun _ => looks_pure _) (looks_pure _)

theorem looks_readPresent (p : Path) : Looks (readPresent p) :=
  (looks_present p).bind fun _ => .ite (looks_read p) (looks_pure _)

theorem looks_outdated (p : Path) (t : Text) : Looks (outdated p t) :=
  (looks_present p).bind fun _ => .ite ((looks_digestOf _ _).bind fun _ => looks_pure _) (looks_pure _)

end Looks

-- A job that leaves the files as they are, also when it fails.
def Keeps (x : Job World.Run α) : Prop :=
  ∀ w, (x.run.run w).2.files = w.files

section Keeps

theorem Looks.keeps (h : Looks x) : Keeps x :=
  fun w => congrArg World.files (h w)

theorem keeps_pure (a : α) : Keeps (pure a) :=
  (looks_pure a).keeps

theorem keeps_record (e : Event) : Keeps (record e) :=
  fun _ => rfl

theorem Keeps.bind (hx : Keeps x) (hf : ∀ a, Keeps (f a)) : Keeps (x >>= f) :=
  Moves.bind (R := fun w w' => w'.files = w.files) (fun h h' => h'.trans h) hx hf

theorem Keeps.tryCatch (hx : Keeps x) (hh : ∀ e, Keeps (handle e)) : Keeps (tryCatch x handle) :=
  Moves.tryCatch (R := fun w w' => w'.files = w.files) (fun h h' => h'.trans h) hx hh

theorem Keeps.ite {c : Prop} [Decidable c] {y : Job World.Run α} (hx : Keeps x) (hy : Keeps y) :
    Keeps (if c then x else y) :=
  Moves.ite (R := fun w w' => w'.files = w.files) hx hy

theorem keeps_foldlM {step : β → α → Job World.Run β} (h : ∀ b a, Keeps (step b a)) (as : List α) (b : β) :
    Keeps (as.foldlM step b) :=
  Moves.foldlM (R := fun w w' => w'.files = w.files) (fun _ => rfl) (fun h h' => h'.trans h) h as b

theorem keeps_sources (o : Options) (template destination : Source) :
    Keeps (sources o template destination) := by
  intro w
  rw [run_sources_eq, StateT.run_bind]
  have ⟨w', hw, same⟩ := exists_of_forM_record (report o template destination) w
  rw [hw]
  exact same

theorem keeps_update (p : Path) (t : Text) : Keeps (update true p t) := by
  refine (looks_outdated p t).keeps.bind fun changed => ?_
  simp only [Bool.not_true, Bool.and_false, Bool.false_eq_true, if_false]
  exact keeps_pure _

theorem keeps_mergeFiles (template destination : Path) (output : Option Path) (o : Options) :
    Keeps (mergeFiles template destination output o true) := by
  rw [mergeFiles_eq]
  exact (looks_read _).keeps.bind fun _ => (looks_readPresent _).keeps.bind fun _ =>
    (keeps_sources _ _ _).bind fun _ => (keeps_update _ _).bind fun _ => (keeps_record _).bind fun _ =>
      keeps_pure _

end Keeps

-- A job that returns a value on certain files and leaves them as they are.
def Tells (x : Job World.Run α) (fs : FileSystem) (a : α) : Prop :=
  ∀ w, w.files = fs → ∃ w', Returns x w a w' ∧ w'.files = fs

section Tells

variable {c : Bytes} {y : Option Bytes} {t : Text} {o : Options} {draft : Draft} {check changed : Bool}

theorem tells_of_returns (h : ∀ w, w.files = fs → Returns x w a w) : Tells x fs a :=
  fun w hw => ⟨w, h w hw, hw⟩

theorem tells_pure (a : α) (fs : FileSystem) : Tells (pure a) fs a :=
  tells_of_returns fun _ _ => returns_pure_iff.mpr ⟨rfl, rfl⟩

theorem tells_record (e : Event) (fs : FileSystem) : Tells (record e) fs () :=
  fun w hw => ⟨{ w with events := w.events ++ [e] }, rfl, hw⟩

theorem Tells.bind (hx : Tells x fs a) (hf : Tells (f a) fs b) : Tells (x >>= f) fs b := by
  intro w hw
  have ⟨w₁, h₁, hw₁⟩ := hx w hw
  have ⟨w₂, h₂, hw₂⟩ := hf w₁ hw₁
  exact ⟨w₂, returns_bind_iff.mpr ⟨a, w₁, h₁, h₂⟩, hw₂⟩

theorem Tells.tryCatch (hx : Tells x fs a) : Tells (tryCatch x handle) fs a := by
  intro w hw
  have ⟨w', h, hw'⟩ := hx w hw
  refine ⟨w', ?_, hw'⟩
  rw [Returns, run_tryCatch, h]

theorem tells_read (h : Reads fs p (some c)) : Tells (read p) fs c := by
  refine tells_of_returns fun w hw => ?_
  subst hw
  cases h
  case content null hc => exact returns_read_iff.mpr ⟨null, hc, rfl⟩

theorem tells_readPresent (h : Reads fs p y) : Tells (readPresent p) fs (y.getD []) := by
  refine tells_of_returns fun w hw => ?_
  subst hw
  exact returns_readPresent_iff.mpr ⟨y, h, rfl, rfl⟩

theorem tells_differ (h : Compares fs source target changed) : Tells (differ source target) fs changed := by
  refine tells_of_returns fun w hw => ?_
  subst hw
  exact returns_differ_iff.mpr ⟨h, rfl⟩

theorem tells_sources {template destination : Source} (h : Yields o template destination draft)
    (fs : FileSystem) : Tells (sources o template destination) fs draft := by
  intro w hw
  have ⟨w', recorded, same⟩ := exists_of_forM_record (report o template destination) w
  refine ⟨w', ?_, same.trans hw⟩
  rw [Returns, run_sources_eq, StateT.run_bind, recorded, yields_iff_outcome_eq.mp h]
  rfl

theorem tells_update (h : Reads fs p y) (kept : (stale t y && !check) = false) :
    Tells (update check p t) fs (stale t y) := by
  refine .bind (a := stale t y) (tells_of_returns fun w hw => ?_) ?_
  case refine_1 =>
    subst hw
    exact returns_outdated_iff.mpr ⟨y, h, rfl, rfl⟩
  case refine_2 =>
    simp only [kept, Bool.false_eq_true, if_false]
    exact tells_pure _ _

-- A merge that has nothing to write tells what it would return.
theorem tells_mergeFiles {template destination : Path} {output : Option Path}
    (h : Merges fs o template destination (output.getD destination) draft changed)
    (kept : (changed && !check) = false) : Tells (mergeFiles template destination output o check) fs
      ⟨template, destination, output.getD destination, changed, false, draft⟩ := by
  rw [mergeFiles_eq]
  cases h
  case intro ht hd yields ho =>
    refine (tells_read ht).bind ((tells_readPresent hd).bind ((tells_sources yields fs).bind ?_))
    refine (tells_update ho kept).bind ((tells_record _ fs).bind ?_)
    rw [kept]
    exact tells_pure _ fs

theorem tells_digestOf (h : Reads fs p (some c)) : Tells (digestOf p defaultPiece) fs (digest c) := by
  refine tells_of_returns fun w hw => ?_
  subst hw
  cases h
  case content null hc => exact returns_digestOf_iff.mpr ⟨c, null, hc, rfl, rfl⟩

end Tells
end Job

namespace Scan

open Job

variable {fs : FileSystem} {folder : Path} {pattern : Text} {names : List Text} {found : List (List Text)}
variable {c : Bytes}

theorem looks_run (folder : Path) (pattern : Text) (failFast : Bool) : Looks (run folder pattern failFast) := by
  refine (looks_checkPath folder).bind fun _ => .bind (looks_lift fun _ => rfl) fun found => ?_
  refine looks_foldlM (fun r names => ?_) _ _
  refine .tryCatch (.bind ?_ fun _ => looks_pure _) fun e => .ite (looks_pure _) (looks_throw _)
  exact (looks_ofFiles fun _ => rfl).bind fun _ => (looks_digestOf _ _).bind fun _ => looks_pure _

theorem exists_tells_fileInfo (h : Reads fs (folder.join (.relative names)) (some c)) :
    ∃ i, Tells (fileInfo folder names) fs i ∧ Describes fs folder names i := by
  cases h
  case content null hc =>
    have ⟨s, hs, _⟩ := exists_status (read_eq_ok_iff.mp hc)
    have asked : Tells (ofFiles (Host.status (folder.join (.relative names))) : Job World.Run _) fs s := by
      refine tells_of_returns fun w hw => returns_ofFiles_iff.mpr ?_
      rw [World.run_status, hw, hs]
    exact ⟨_, asked.bind ((tells_digestOf (.content null hc)).bind (tells_pure _ fs)), rfl, null, c, hc, rfl⟩

theorem exists_tells_foldlM (r : Report)
    (h : ∀ names ∈ found, ∃ c, Reads fs (folder.join (.relative names)) (some c)) :
    ∃ is, List.Forall₂ (Describes fs folder) found is ∧
      Tells (found.foldlM (visit folder false) r) fs { r with files := r.files ++ is } := by
  induction found generalizing r
  case nil => exact ⟨[], .nil, by simpa using tells_pure r fs⟩
  case cons names found ih =>
    have ⟨c, hc⟩ := h names List.mem_cons_self
    have ⟨i, tells, describes⟩ := exists_tells_fileInfo hc
    have ⟨is, all, rest⟩ := ih { r with files := r.files ++ [i] } fun n hn => h n (List.mem_cons_of_mem _ hn)
    refine ⟨i :: is, .cons describes all, ?_⟩
    rw [List.foldlM_cons]
    refine .bind (.tryCatch (tells.bind (tells_pure _ fs))) ?_
    simpa using rest

-- A folder where all files that a scan finds can be read.
structure Legible (fs : FileSystem) (pattern : Text) (folder : Path) : Prop where
  null     : folder.hasNull = false
  readable : ∀ names c, fs.found? pattern folder names = some c →
    Reads fs (folder.join (.relative names)) (some c)

-- What can be read stays so while nothing is written below the folder.
theorem Legible.grows {fs' : FileSystem} {filled : Location → Prop} (h : Legible fs pattern folder)
    (hl : fs.Linkless) (grows : Grows fs fs' filled) (free : ∀ names, ¬filled (fs.place folder ++ names)) :
    Legible fs' pattern folder where
  null                := h.null
  readable names c hc := by
    rw [grows.found?_eq free] at hc
    refine (h.readable names c hc).some_onward grows hl ?_
    rw [place_join (proper_of_found hc).plain]
    exact free names

-- A scan of such a folder tells of all files in it.
theorem Legible.exists_tells_run (h : Legible fs pattern folder) (hl : fs.Linkless) (ha : fs.Anchored folder) :
    ∃ files, Tells (run folder pattern false) fs ⟨files, []⟩ ∧ Complete fs pattern folder files := by
  have readableFound : ∀ names ∈ visits pattern (fs.filesBelow folder),
      ∃ c, Reads fs (folder.join (.relative names)) (some c) := fun names hm =>
    have ⟨c, hc⟩ := (mem_visits_filesBelow_iff hl ha).mp hm
    ⟨c, h.readable names c hc⟩
  have ⟨is, describes, tells⟩ := exists_tells_foldlM ⟨[], []⟩ readableFound
  refine ⟨is, fun w hw => ?_, complete_of_describes hl ha describes⟩
  subst hw
  have ⟨w', told, same⟩ := tells w rfl
  exact ⟨w', returns_run_iff.mpr ⟨h.null, told⟩, same⟩

end Scan
end EnvMerge
