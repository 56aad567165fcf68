import EnvMerge.Proofs.Files.Job
import EnvMerge.Proofs.Merge.Run

namespace EnvMerge

open FileSystem Job Merge

namespace Job

section Parts

variable {m : Type → Type} [Monad m] [Host m]

-- The content of a file, or nothing if it is not there.
def readPresent (p : Path) : Job m Bytes := do
  if ← present p then read p else return []

-- Whether a file is not known to hold a text.
def outdated (p : Path) (t : Text) : Job m Bool := do
  if ← present p then return (← digestOf p defaultPiece) != digest (Utf8.encode t) else return true

-- Sees to it that a file holds a text, unless this is a check; tells whether it has to be written.
def update (check : Bool) (p : Path) (t : Text) : Job m Bool := do
  let changed ← outdated p t
  if changed && !check then writeText p t
  return changed

omit [Host m] in
theorem ite_bind {α β : Type} {c : Prop} [Decidable c] (x y : Job m α) (f : α → Job m β) :
    (if c then x else y) >>= f = if c then x >>= f else y >>= f := by
  split <;> rfl

-- A merge of two files in its parts.
theorem mergeFiles_eq [LawfulMonad m] (template destination : Path) (output : Option Path) (o : Options)
    (check : Bool) :
    (mergeFiles template destination output o check : Job m FileOutcome) = do
      let a ← read template
      let b ← readPresent destination
      let draft ← sources o (.bytes a) (.bytes b)
      let changed ← update check (output.getD destination) draft.text
      record (.mergedFile template (output.getD destination) changed (changed && !check))
      return ⟨template, destination, output.getD destination, changed, changed && !check, draft⟩ := by
  simp only [mergeFiles, readPresent, update, outdated, bind_assoc, pure_bind, ite_bind]

end Parts

variable {w w' : World} {o : Options} {template destination output p : Path} {c : Bytes} {t : Text} {u : Unit}

theorem exists_of_forM_record (es : List Event) (w : World) :
    ∃ w', (es.forM Journal.record : World.Run Unit).run w = ((), w') ∧ w'.files = w.files := by
  induction es generalizing w
  case nil => exact ⟨w, rfl, rfl⟩
  case cons e es ih =>
    have ⟨w', hw, hf⟩ := ih { w with events := w.events ++ [e] }
    exact ⟨w', hw, hf⟩

-- A run on two sources ends as its outcome says, and leaves the files as they are.
theorem outcome_of_run {template destination : Source} {result : Except Failure Draft}
    (h : (sources o template destination : Job World.Run Draft).run.run w = (result, w')) :
    outcome o template destination = result ∧ w'.files = w.files := by
  obtain ⟨w₁, recorded, same⟩ := exists_of_forM_record (report o template destination) w
  rw [run_sources_eq, StateT.run_bind, recorded] at h
  obtain ⟨ended, rfl⟩ := World.pair_eq_iff.mp h
  exact ⟨ended, same⟩

theorem yields_of_returns {template destination : Source} {r : Draft}
    (h : Returns (sources o template destination) w r w') :
    w'.files = w.files ∧ Yields o template destination r :=
  have ⟨ended, same⟩ := outcome_of_run h
  ⟨same, yields_iff_outcome_eq.mpr ended⟩

theorem files_of_record {e : Event} (h : Returns (record e) w u w') : w'.files = w.files := by
  cases h
  rfl

theorem returns_readPresent_iff : Returns (readPresent p) w c w' ↔
    ∃ x, Reads w.files p x ∧ c = x.getD [] ∧ w = w' := by
  rw [readPresent, returns_ifPresent_iff]
  constructor
  case mp =>
    rintro (⟨nothing, rfl, rfl⟩ | ⟨_, h⟩)
    case inl => exact ⟨none, nothing, rfl, rfl⟩
    case inr =>
      have ⟨null, hc, hw⟩ := returns_read_iff.mp h
      exact ⟨some c, .content null hc, rfl, hw⟩
  case mpr =>
    rintro ⟨x, hx, rfl, rfl⟩
    cases hx
    case nothing learns => exact .inl ⟨.nothing learns, rfl, rfl⟩
    case content null h => exact .inr ⟨learns_of_read null h, returns_read_iff.mpr ⟨null, h, rfl⟩⟩

-- Whether what was read does not have the digest of a text.
def stale (t : Text) : Option Bytes → Bool
  | some c => digest c != digest (Utf8.encode t)
  | none   => true

theorem stale_eq_false_iff {x : Option Bytes} :
    stale t x = false ↔ ∃ c, x = some c ∧ digest c = digest (Utf8.encode t) := by
  cases x
  case none   => simp [stale]
  case some c => simp only [stale, bne_eq_false_iff_eq, Option.some.injEq, exists_eq_left']

theorem returns_outdated_iff {b : Bool} : Returns (outdated p t) w b w' ↔
    ∃ x, Reads w.files p x ∧ b = stale t x ∧ w = w' := by
  rw [outdated, returns_ifPresent_iff]
  constructor
  case mp =>
    rintro (⟨nothing, rfl, rfl⟩ | ⟨_, h⟩)
    case inl => exact ⟨none, nothing, rfl, rfl⟩
    case inr =>
      have ⟨_, w₁, hd, h₁⟩ := returns_bind_iff.mp h
      obtain ⟨c, null, hc, rfl, rfl⟩ := returns_digestOf_iff.mp hd
      obtain ⟨rfl, rfl⟩ := returns_pure_iff.mp h₁
      exact ⟨some c, .content null hc, rfl, rfl⟩
  case mpr =>
    rintro ⟨x, hx, rfl, rfl⟩
    cases hx
    case nothing learns => exact .inl ⟨.nothing learns, rfl, rfl⟩
    case content c null h =>
      refine .inr ⟨learns_of_read null h, returns_bind_iff.mpr ?_⟩
      exact ⟨_, w, returns_digestOf_iff.mpr ⟨c, null, h, rfl, rfl⟩, returns_pure_iff.mpr ⟨rfl, rfl⟩⟩

-- Either nothing is written or the text is, and never by a check.
theorem of_update {b check : Bool} (h : Returns (update check p t) w b w') :
    ∃ x, Reads w.files p x ∧ b = stale t x ∧
      ((b && !check) = false ∧ w = w' ∨ ∃ u, (b && !check) = true ∧ Returns (writeText p t) w u w') := by
  have ⟨changed, w₁, ho, h₁⟩ := returns_bind_iff.mp h
  obtain ⟨x, hx, rfl, rfl⟩ := returns_outdated_iff.mp ho
  split at h₁
  case isTrue hw =>
    have ⟨u, w₂, hu, h₂⟩ := returns_bind_iff.mp h₁
    obtain ⟨rfl, rfl⟩ := returns_pure_iff.mp h₂
    exact ⟨x, hx, rfl, .inr ⟨u, hw, hu⟩⟩
  case isFalse hw =>
    obtain ⟨rfl, rfl⟩ := returns_pure_iff.mp h₁
    exact ⟨x, hx, rfl, .inl ⟨by simpa using hw, rfl⟩⟩

-- A file that is brought up to date holds what is wanted of it, or keeps what has the same digest.
structure Updates (fs fs' : FileSystem) (p : Path) (wanted held : Bytes) : Prop where
  same   : digest held = digest wanted
  old    : held = wanted ∨ fs.content? (fs.place p) = some held
  null   : p.hasNull = false
  writes : Writes fs fs' p held

theorem Updates.reads {fs fs' : FileSystem} {wanted held : Bytes} (h : Updates fs fs' p wanted held) :
    Reads fs' p (some held) :=
  .content h.null h.writes.read

theorem exists_updates_of_update {b : Bool} (hl : w.files.Linkless)
    (ha : w.files.Anchored p.parent) (h : Returns (update false p t) w b w') :
    ∃ held, Updates w.files w'.files p (Utf8.encode t) held := by
  obtain ⟨x, hx, rfl, ⟨kept, rfl⟩ | ⟨u, _, hw⟩⟩ := of_update h
  case inl =>
    obtain ⟨c, rfl, same⟩ := stale_eq_false_iff.mp (by simpa using kept)
    cases hx with
    | content null hc => exact ⟨c, same, .inr (content?_of_read hl hc), null, .refl hc⟩
  case inr =>
    have ⟨null, writes⟩ := writes_of_writeText hl ha hw
    exact ⟨_, rfl, .inl rfl, null, writes⟩

-- What a merge of two files finds and puts together, and whether it changes its output.
inductive Merges (fs : FileSystem) (o : Options) (template destination output : Path) (draft : Draft) :
    Bool → Prop
  | intro {a : Bytes} {x y : Option Bytes} (ht : Reads fs template (some a)) (hd : Reads fs destination x)
      (yields : Yields o (.bytes a) (.bytes (x.getD [])) draft) (ho : Reads fs output y) :
      Merges fs o template destination output draft (stale draft.text y)

theorem Merges.exists_yields {fs : FileSystem} {draft : Draft} {changed : Bool}
    (h : Merges fs o template destination output draft changed) :
    ∃ a x, Reads fs template (some a) ∧ Reads fs destination x ∧
      Yields o (.bytes a) (.bytes (x.getD [])) draft := by
  cases h
  case intro ht hd yields _ => exact ⟨_, _, ht, hd, yields⟩

end Job

section Whole

variable {w w' : World} {o : Options} {template destination : Path} {output : Option Path} {r : FileOutcome}
variable {check : Bool}

-- What a merge of two files returns, and how it updates its output.
theorem exists_update_of_mergeFiles (h : Returns (mergeFiles template destination output o check) w r w') :
    ∃ draft changed, Merges w.files o template destination (output.getD destination) draft changed ∧
      r = ⟨template, destination, output.getD destination, changed, changed && !check, draft⟩ ∧
        ∃ w₁ w₂, w₁.files = w.files ∧ w'.files = w₂.files ∧
          Returns (update check (output.getD destination) draft.text) w₁ changed w₂ := by
  rw [mergeFiles_eq] at h
  have ⟨a, w₁, hra, h₁⟩ := returns_bind_iff.mp h
  obtain ⟨null, ra, rfl⟩ := returns_read_iff.mp hra
  have ⟨b, w₂, hrb, h₂⟩ := returns_bind_iff.mp h₁
  obtain ⟨x, rb, rfl, rfl⟩ := returns_readPresent_iff.mp hrb
  have ⟨draft, w₃, hd, h₃⟩ := returns_bind_iff.mp h₂
  have ⟨same, yields⟩ := yields_of_returns hd
  have ⟨changed, w₄, hu, h₄⟩ := returns_bind_iff.mp h₃
  have ⟨_, w₅, he, h₅⟩ := returns_bind_iff.mp h₄
  obtain ⟨rfl, rfl⟩ := returns_pure_iff.mp h₅
  obtain ⟨y, ro, rfl, _⟩ := of_update hu
  exact ⟨draft, _, .intro (.content null ra) rb yields (same ▸ ro), rfl, w₃, w₄, same, files_of_record he, hu⟩

-- A successful merge of two files brings its output up to date.
theorem exists_updates_of_mergeFiles (hl : w.files.Linkless)
    (ha : w.files.Anchored (output.getD destination).parent)
    (h : Returns (mergeFiles template destination output o false) w r w') :
    ∃ draft changed held, Merges w.files o template destination (output.getD destination) draft changed ∧
      r = ⟨template, destination, output.getD destination, changed, changed, draft⟩ ∧
        Updates w.files w'.files (output.getD destination) (Utf8.encode draft.text) held := by
  have ⟨draft, changed, merges, he, w₁, w₂, same, same', hu⟩ := exists_update_of_mergeFiles h
  rw [Bool.not_false, Bool.and_true] at he
  rw [← same] at hl ha
  have ⟨held, updates⟩ := exists_updates_of_update hl ha hu
  rw [same, ← same'] at updates
  exact ⟨draft, changed, held, merges, he, updates⟩

end Whole

end EnvMerge
