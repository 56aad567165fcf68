import EnvMerge.Proofs.Files.Links
import EnvMerge.Proofs.Files.Query
import EnvMerge.Proofs.Files.Trees
import EnvMerge.Proofs.Merge.Environment

namespace EnvMerge

open FileSystem Job Merge

namespace Job

variable {α β : Type} {a b : α} {w w' : World} {fs fs' : FileSystem} {p : Path} {c : Bytes} {t : Text}
variable {x : Job World.Run α} {f : α → Job World.Run β} {e : Failure}

theorem run_bind_of_error (h : x.run.run w = (.error e, w')) : (x >>= f).run.run w = (.error e, w') := by
  rw [run_bind, h]

theorem exists_error_of_not_returns (h : ∀ a w', ¬Returns x w a w') : ∃ e w', x.run.run w = (.error e, w') := by
  cases hx : x.run.run w with
  | mk result w' =>
    cases result
    case error e => exact ⟨e, w', rfl⟩
    case ok a    => exact absurd hx (h a w')

-- A job that adds folders where nothing stood and does nothing else to the files, also when it fails.
def Expands (x : Job World.Run α) : Prop :=
  Moves (fun w w' => w.files.Adds w'.files) x

section Expands

theorem Looks.expands (h : Looks x) : Expands x :=
  fun w => (h w).symm ▸ .refl _

theorem Expands.bind (hx : Expands x) (hf : ∀ a, Expands (f a)) : Expands (x >>= f) :=
  Moves.bind (fun h h' => h.trans h') hx hf

theorem expands_lift_makeFolder (p : Path) : Expands (ExceptT.lift (Host.makeFolder p)) := by
  intro w
  change w.files.Adds ((Host.makeFolder p : World.Run _).run w).2.files
  cases hm : (Host.makeFolder p : World.Run _).run w with
  | mk made w' =>
    cases World.exists_of_change hm
    case inl h =>
      obtain ⟨fs, hfs, _, rfl⟩ := h
      exact adds_of_makeFolder hfs
    case inr h =>
      obtain ⟨_, _, _, rfl⟩ := h
      exact .refl _

theorem looks_allowFolder (p : Path) (e : FileError) : Looks (allowFolder p e) := by
  refine .bind ((looks_status? p).bind fun _ => looks_pure _) fun _ => ?_
  exact .ite (looks_throw _) (looks_pure _)

theorem expands_makeFolder (p : Path) : Expands (makeFolder p) := by
  refine (expands_lift_makeFolder p).bind fun made => Looks.expands ?_
  cases made
  case ok      => exact looks_pure _
  case error e => exact .ite (looks_throw _) (looks_allowFolder p e)

theorem expands_makeFoldersUpTo (depth : Nat) (p : Path) : Expands (makeFoldersUpTo depth p) := by
  induction depth generalizing p
  case zero          => exact makeFoldersUpTo_zero p ▸ expands_makeFolder p
  case succ depth ih =>
    rw [makeFoldersUpTo]
    refine (expands_lift_makeFolder p).bind fun made => ?_
    cases made
    case ok      => exact (looks_pure _).expands
    case error e => exact .ite ((ih p.parent).bind fun _ => expands_makeFolder p) (looks_allowFolder p e).expands

theorem expands_makeFolders (p : Path) : Expands (makeFolders p) :=
  (looks_checkPath p).expands.bind fun _ => expands_makeFoldersUpTo _ p

end Expands

-- A file that is read one way is not read another way.
theorem Reads.unique {y z : Option Bytes} (h : Reads fs p y) (h' : Reads fs p z) : y = z := by
  cases h
  case nothing missing =>
    cases h'
    case nothing         => rfl
    case content null hc => exact absurd (read_eq_ok_iff.mp hc) (missing.not_found null)
  case content null hc =>
    cases h'
    case nothing missing => exact absurd (read_eq_ok_iff.mp hc) (missing.not_found null)
    case content hc'     => exact congrArg some (Except.ok.inj (hc.symm.trans hc'))

-- A path leads to a place with a content, and elsewhere nothing has changed but for new folders.
structure Delivers (fs fs' : FileSystem) (p : Path) (c : Bytes) : Prop where
  reads : Reads fs' p (some c)
  frame : ∃ loc, fs'.locate .node p = .ok loc ∧ ∀ other, other ≠ loc →
    fs'.node? other = fs.node? other ∨ fs.node? other = none ∧ fs'.node? other = some .folder

theorem delivers_of_writeText {u : Unit} (h : Returns (writeText p t) w u w') :
    Delivers w.files w'.files p (Utf8.encode t) := by
  have ⟨_, w₁, hm, h₁⟩ := returns_bind_iff.mp h
  have adds := expands_makeFolders p.parent w
  rw [hm] at adds
  have ⟨_, w₂, hc, h₂⟩ := returns_bind_iff.mp h₁
  obtain ⟨null, rfl⟩ := returns_checkPath_iff.mp hc
  cases World.exists_of_change (returns_ofFiles_iff.mp h₂)
  case inr h =>
    have ⟨_, _, he, _⟩ := h
    cases he
  case inl h =>
    obtain ⟨fs, hfs, _, rfl⟩ := h
    have ⟨loc, holds⟩ := holds_of_write hfs
    refine ⟨.content null holds.read, loc, holds.locate, fun other ho => ?_⟩
    rw [holds.other other ho]
    exact adds other

section Parts

variable {m : Type → Type} [Monad m] [Host m]

-- What a merge of two files puts together before it looks at its output.
def drafted (o : Options) (template destination : Path) : Job m Draft := do
  let a ← read template
  let b ← readPresent destination
  sources o (.bytes a) (.bytes b)

theorem mergeFiles_eq_drafted [LawfulMonad m] (template destination : Path) (output : Option Path)
    (o : Options) (check : Bool) :
    (mergeFiles template destination output o check : Job m FileOutcome) = do
      let draft ← drafted o template destination
      let changed ← update check (output.getD destination) draft.text
      record (.mergedFile template (output.getD destination) changed (changed && !check))
      return ⟨template, destination, output.getD destination, changed, changed && !check, draft⟩ := by
  simp only [mergeFiles_eq, drafted, bind_assoc]

end Parts

variable {o : Options} {template destination output : Path} {draft : Draft}

-- Whether a template and a destination can be read as text. A destination that is missing can.
def Textual (fs : FileSystem) (template destination : Path) : Prop :=
  ∃ a x t d, Reads fs template (some a) ∧ Reads fs destination x ∧ (Source.bytes a).decode = .ok t ∧
    (Source.bytes (x.getD [])).decode = .ok d

theorem keeps_drafted (o : Options) (template destination : Path) : Keeps (drafted o template destination) :=
  (looks_read _).keeps.bind fun _ => (looks_readPresent _).keeps.bind fun _ => keeps_sources _ _ _

theorem textual_of_drafted (h : Returns (drafted o template destination) w draft w') :
    Textual w.files template destination := by
  have ⟨a, w₁, ha, h₁⟩ := returns_bind_iff.mp h
  obtain ⟨null, read, rfl⟩ := returns_read_iff.mp ha
  have ⟨b, w₂, hb, h₂⟩ := returns_bind_iff.mp h₁
  obtain ⟨x, hx, rfl, rfl⟩ := returns_readPresent_iff.mp hb
  have ⟨_, _, ht, hd, _⟩ := exists_merge_of_yields (yields_of_returns h₂).2
  have ⟨t, ht, _⟩ := Document.exists_decode ht
  have ⟨d, hd, _⟩ := Document.exists_decode hd
  exact ⟨a, x, t, d, .content null read, hx, ht, hd⟩

-- Whether digests tell an output's content from a merge's text.
def Discerns (fs : FileSystem) (o : Options) (template destination output : Path) : Prop :=
  ∀ draft changed c, Merges fs o template destination output draft changed → Reads fs output (some c) →
    digest c = digest (Utf8.encode draft.text) → c = Utf8.encode draft.text

-- What a merge of two files has done when it returns.
structure Achieves (fs fs' : FileSystem) (o : Options) (template destination output : Path) (check : Bool)
    (r : FileOutcome) : Prop where
  yields  : ∃ a x, Reads fs template (some a) ∧ Reads fs destination x ∧
    Yields o (.bytes a) (.bytes (x.getD [])) r.draft
  changed : r.changed = false ↔ Reads fs output (some (Utf8.encode r.draft.text))
  written : r.written = (r.changed && !check)
  checked : check = true → fs' = fs
  kept    : r.written = false → fs' = fs
  ran     : check = false → Reads fs' output (some (Utf8.encode r.draft.text))
  frame   : r.written = true → Delivers fs fs' output (Utf8.encode r.draft.text)

theorem achieves_of_mergeFiles {output : Option Path} {check : Bool} {r : FileOutcome}
    (told : Discerns w.files o template destination (output.getD destination))
    (h : Returns (mergeFiles template destination output o check) w r w') :
    Achieves w.files w'.files o template destination (output.getD destination) check r := by
  have ⟨draft, changed, merges, he, w₁, w₂, same, same', hu⟩ := exists_update_of_mergeFiles h
  subst he
  have ⟨y, hy, stale_, ended⟩ := of_update hu
  rw [same] at hy
  have current : changed = false ↔ Reads w.files (output.getD destination) (some (Utf8.encode draft.text)) := by
    rw [stale_, stale_eq_false_iff]
    constructor
    case mp =>
      intro ⟨c, hc, hd⟩
      rw [hc] at hy
      exact told _ _ c merges hy hd ▸ hy
    case mpr => exact fun hr => ⟨_, hy.unique hr, rfl⟩
  have kept : (changed && !check) = false → w'.files = w.files := by
    intro hw
    rcases ended with ⟨_, hk⟩ | ⟨_, hw', _⟩
    case inl => rw [same', ← hk, same]
    case inr => simp [hw] at hw'
  have delivered : (changed && !check) = true →
      Delivers w.files w'.files (output.getD destination) (Utf8.encode draft.text) := by
    intro hw
    rcases ended with ⟨hw', _⟩ | ⟨u, _, written⟩
    case inl => simp [hw] at hw'
    case inr => exact same' ▸ same ▸ delivers_of_writeText written
  refine ⟨merges.exists_yields, current, rfl, fun hc => kept (by simp [hc]), kept, fun hc => ?ran, delivered⟩
  case ran =>
    by_cases hn : changed = false
    case pos => exact kept (by simp [hn]) ▸ current.mp hn
    case neg => exact (delivered (by simp [hn, hc])).reads

-- A merge of two files brings its output to what it puts together, or tells in a check whether it is
-- there, and all else stays but for folders on the way. Without sources that are text it fails and
-- leaves the files as they are.
theorem achieves_or_keeps (w : World) (template destination : Path) (output : Option Path) (o : Options)
    (check : Bool) :
    (Discerns w.files o template destination (output.getD destination) →
      ∀ r w', Returns (mergeFiles template destination output o check) w r w' →
        Achieves w.files w'.files o template destination (output.getD destination) check r) ∧
    (¬Textual w.files template destination → ∃ e w',
      (mergeFiles template destination output o check : Job World.Run _).run.run w = (.error e, w') ∧
        w'.files = w.files) ∧
    (o.Answers → Textual w.files template destination →
      (∃ y, Reads w.files (output.getD destination) y) → check = true →
        ∃ r w', Returns (mergeFiles template destination output o check) w r w') := by
  refine ⟨fun told _ _ => achieves_of_mergeFiles told, fun untextual => ?failed,
    fun answers textual there checked => ?told⟩
  case failed =>
    have failing : ∀ draft w', ¬Returns (drafted o template destination) w draft w' :=
      fun _ _ hd => untextual (textual_of_drafted hd)
    have ⟨e, w', he⟩ := exists_error_of_not_returns failing
    have same := keeps_drafted o template destination w
    rw [he] at same
    refine ⟨e, w', ?_, same⟩
    rw [mergeFiles_eq_drafted]
    exact run_bind_of_error he
  case told =>
    subst checked
    have ⟨a, x, t, d, ha, hx, ht, hd⟩ := textual
    have ⟨y, hy⟩ := there
    have ⟨draft, yields⟩ := exists_yields answers (Document.ofSource_of_decode o.token ht)
      (Document.ofSource_of_decode o.token hd)
    have kept : (stale draft.text y && !true) = false := Bool.and_false _
    have ⟨w', tells, _⟩ := tells_mergeFiles (.intro ha hx yields hy) kept w rfl
    exact ⟨_, w', tells⟩

-- A destination that is a link to a file in another folder, and a file that is no text.
def linkedFile : FileSystem where
  entries := [
    ([['t']], .file (Utf8.encode "A=1\n".toList)),
    ([['b']], .file [0xff]),
    ([['d']], .link "r/x".toList),
    ([['r']], .folder),
    ([['r'], ['x']], .file (Utf8.encode "A=0\n".toList))]
  here := []
  distinct := by decide +kernel
  placed := by decide +kernel

def templateFile : Path :=
  .ofText ['t']

def brokenFile : Path :=
  .ofText ['b']

def destinationLink : Path :=
  .ofText ['d']

-- The same link, by way of a folder and back.
def turningLink : Path :=
  .ofText "r/../d".toList

theorem reads_turningLink : Reads linkedFile turningLink (some (Utf8.encode "A=0\n".toList)) :=
  .content (by decide +kernel) (by decide +kernel)

theorem text_of_linkedFile {a : Bytes} {x : Option Bytes} (ha : Reads linkedFile templateFile (some a))
    (hx : Reads linkedFile destinationLink x) (yields : Yields templateWins (.bytes a) (.bytes (x.getD [])) draft) :
    draft.text = "A=1\n".toList := by
  have template : Reads linkedFile templateFile (some (Utf8.encode "A=1\n".toList)) :=
    .content (by decide +kernel) (by decide +kernel)
  have destination : Reads linkedFile destinationLink (some (Utf8.encode "A=0\n".toList)) :=
    .content (by decide +kernel) (by decide +kernel)
  cases ha.unique template
  cases hx.unique destination
  have text : (outcome templateWins (.bytes (Utf8.encode "A=1\n".toList))
      (.bytes (Utf8.encode "A=0\n".toList))).toOption.map Draft.text = some "A=1\n".toList := by
    decide +kernel
  rw [Option.getD_some, yields_iff_outcome_eq] at yields
  rw [yields] at text
  exact Option.some.inj text

theorem discerns_linkedFile :
    Discerns linkedFile templateWins templateFile destinationLink turningLink := by
  intro draft changed c merges hc
  have ⟨a, x, ha, hx, yields⟩ := merges.exists_yields
  cases hc.unique reads_turningLink
  rw [text_of_linkedFile ha hx yields]
  decide +kernel

theorem not_textual_brokenFile : ¬Textual linkedFile brokenFile destinationLink := by
  intro ⟨a, _, t, _, ha, _, ht, _⟩
  have broken : Reads linkedFile brokenFile (some [0xff]) := .content (by decide +kernel) (by decide +kernel)
  cases ha.unique broken
  have undecoded : (Source.bytes [0xff]).decode.toOption = none := by decide +kernel
  rw [ht] at undecoded
  cases undecoded

-- What the links lead to is written, and nothing is if the template is no text.
theorem achieves_of_linked_file :
    (∃ r w', Returns (mergeFiles templateFile destinationLink (some turningLink) templateWins false)
        (Trees.onlyFiles linkedFile) r w' ∧ r.written = true ∧
      Delivers linkedFile w'.files turningLink (Utf8.encode "A=1\n".toList)) ∧
    ∃ e w', (mergeFiles brokenFile destinationLink none templateWins false : Job World.Run _).run.run
      (Trees.onlyFiles linkedFile) = (.error e, w') ∧ w'.files = linkedFile := by
  constructor
  case left =>
    have ⟨r, w', run⟩ : ∃ r w', Returns (mergeFiles templateFile destinationLink (some turningLink)
        templateWins false) (Trees.onlyFiles linkedFile) r w' :=
      exists_returns_of_isOk (by decide +kernel)
    have ⟨achieves, _⟩ := achieves_or_keeps (Trees.onlyFiles linkedFile) templateFile destinationLink
      (some turningLink) templateWins false
    have achieved := achieves discerns_linkedFile r w' run
    have ⟨a, x, ha, hx, yields⟩ := achieved.yields
    have text := text_of_linkedFile ha hx yields
    have outdated : ¬Reads linkedFile turningLink (some (Utf8.encode r.draft.text)) := by
      intro current
      rw [text] at current
      exact absurd (current.unique reads_turningLink) (by decide +kernel)
    have written : r.written = true := by
      rw [achieved.written, Bool.not_false, Bool.and_true]
      exact eq_true_of_ne_false (mt achieved.changed.mp outdated)
    exact ⟨r, w', run, written, text ▸ achieved.frame written⟩
  case right =>
    have ⟨_, keeps, _⟩ := achieves_or_keeps (Trees.onlyFiles linkedFile) brokenFile destinationLink none
      templateWins false
    exact keeps not_textual_brokenFile

end Job
end EnvMerge
