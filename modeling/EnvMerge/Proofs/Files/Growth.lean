import EnvMerge.Proofs.Files.Walk

namespace EnvMerge.FileSystem

variable {fs fs' fs'' : FileSystem} {aim : Aim} {p : Path} {loc goal : Location} {names : List Text}
variable {c : Bytes} {n : Node} {filled filled' : Location → Prop}

-- What a file holds. Folders hold nothing of their own.
def content? (fs : FileSystem) (loc : Location) : Option Bytes :=
  match fs.node? loc with
  | some (.file content) => some content
  | _                    => none

theorem content?_eq_some_iff : fs.content? loc = some c ↔ fs.node? loc = some (.file c) := by
  rw [content?]
  split <;> simp_all

theorem mem_entries_of_content? (h : fs.content? loc = some c) : (loc, .file c) ∈ fs.entries := by
  have hn := content?_eq_some_iff.mp h
  refine (mem_entries_iff fun he => ?_).mpr hn
  simp [he] at hn

theorem content?_congr (h : fs'.node? loc = fs.node? loc) : fs'.content? loc = fs.content? loc := by
  rw [content?, h, content?]

-- What may happen to a file system: files are written at some places and no folder goes away.
structure Grows (fs fs' : FileSystem) (filled : Location → Prop) : Prop where
  here     : fs'.here = fs.here
  folder   : ∀ loc, fs.node? loc = some .folder → fs'.node? loc = some .folder
  linkless : fs.Linkless → fs'.Linkless
  content  : ∀ loc, ¬filled loc → fs'.content? loc = fs.content? loc

namespace Grows

theorem refl (fs : FileSystem) (filled : Location → Prop) : Grows fs fs filled where
  here        := rfl
  folder _    := id
  linkless    := id
  content _ _ := rfl

theorem trans (h : Grows fs fs' filled) (h' : Grows fs' fs'' filled) : Grows fs fs'' filled where
  here         := h'.here.trans h.here
  folder l     := h'.folder l ∘ h.folder l
  linkless     := h'.linkless ∘ h.linkless
  content l hf := (h'.content l hf).trans (h.content l hf)

theorem weaken (h : Grows fs fs' filled) (hw : ∀ loc, filled loc → filled' loc) :
    Grows fs fs' filled' where
  here         := h.here
  folder       := h.folder
  linkless     := h.linkless
  content l hf := h.content l fun hl => hf (hw l hl)

theorem start_eq (h : Grows fs fs' filled) (p : Path) : fs'.start p = fs.start p := by
  rw [start, start, h.here]

theorem place_eq (h : Grows fs fs' filled) (p : Path) : fs'.place p = fs.place p := by
  rw [place, place, h.start_eq]

theorem begun (h : Grows fs fs' filled) (hs : fs.node? (fs.start p) = some .folder) :
    fs'.node? (fs'.start p) = some .folder :=
  h.start_eq p ▸ h.folder _ hs

theorem admits (h : Grows fs fs' filled) (ha : fs.Admits p) : fs'.Admits p where
  short := ha.short
  begun := h.begun ha.begun

theorem anchored (h : Grows fs fs' filled) (ha : fs.Anchored p) : fs'.Anchored p where
  begun := h.begun ha.begun
  turns := h.start_eq p ▸ ha.turns.mono h.folder

end Grows

-- The same, where folders are made only on the way to the places that are written.
structure Fills (fs fs' : FileSystem) (filled : Location → Prop) : Prop extends Grows fs fs' filled where
  made : ∀ loc, fs'.node? loc = some .folder →
    fs.node? loc = some .folder ∨ ∃ goal, filled goal ∧ loc <+: goal

namespace Fills

theorem refl (fs : FileSystem) (filled : Location → Prop) : Fills fs fs filled where
  toGrows  := .refl fs filled
  made _   := .inl

theorem trans (h : Fills fs fs' filled) (h' : Fills fs' fs'' filled) : Fills fs fs'' filled where
  toGrows   := h.toGrows.trans h'.toGrows
  made l hf := (h'.made l hf).elim (h.made l) .inr

theorem weaken (h : Fills fs fs' filled) (hw : ∀ loc, filled loc → filled' loc) :
    Fills fs fs' filled' where
  toGrows   := h.toGrows.weaken hw
  made l hf := (h.made l hf).imp_right fun ⟨goal, hg, hp⟩ => ⟨goal, hw goal hg, hp⟩

end Fills

-- Anything but a link may be put where it fits.
theorem grows_put (fits : fs.Fits loc) (hn : ∀ target, n ≠ .link target) :
    Grows fs (fs.put loc n) (· = loc) where
  here := fs.here_put loc n
  folder l hf := by
    rwa [node?_put_of_ne]
    exact fun he => fits.free (he ▸ hf)
  linkless hl l target := by
    by_cases he : l = loc
    case pos =>
      rw [he, node?_put_self _ _ fits]
      exact fun h => hn target (Option.some.inj h)
    case neg =>
      rw [node?_put_of_ne _ _ he]
      exact hl l target
  content l hf := content?_congr (node?_put_of_ne _ _ hf)

theorem of_locate (hl : fs.Linkless) (h : fs.locate aim p = .ok loc) :
    fs.Admits p ∧ Leads fs (fs.start p) p.names loc ∧ loc = fs.place p := by
  have ⟨admits, reaches⟩ := exists_reaches_of_locate h
  have leads := reaches.leads hl
  exact ⟨admits, leads, leads.eq_written⟩

theorem locate_of_leads (hl : fs.Linkless) (ha : aim ≠ .output) (admits : fs.Admits p)
    (h : Leads fs (fs.start p) p.names loc) : fs.locate aim p = .ok loc :=
  locate_of_reaches ha admits (h.reaches hl)

-- What is found stands at the place of the path, and the way to it is open.
theorem find_eq_ok_iff (hl : fs.Linkless) : fs.find p = .ok n ↔
    fs.Admits p ∧ Leads fs (fs.start p) p.names (fs.place p) ∧ fs.node? (fs.place p) = some n := by
  rw [find_eq_ok_iff_exists]
  constructor
  case mp =>
    intro ⟨loc, hloc, hn⟩
    have ⟨admits, leads, he⟩ := of_locate hl hloc
    subst he
    exact ⟨admits, leads, hn⟩
  case mpr => exact fun ⟨admits, leads, hn⟩ => ⟨_, locate_of_leads hl (by simp) admits leads, hn⟩

-- What a folder's path leads to is found, unless the path is too long.
theorem find_of_folder (hl : fs.Linkless) (ha : fs.Anchored p)
    (short : isTooLong p = false) (hf : fs.node? (fs.place p) = some .folder) :
    fs.find p = .ok .folder :=
  (find_eq_ok_iff hl).mpr ⟨⟨short, ha.begun⟩, leads_of_anchoredFrom ha.turns hf, hf⟩

theorem read_eq_ok_iff : fs.read p = .ok c ↔ fs.find p = .ok (.file c) := by
  rw [read]
  cases hf : fs.find p
  case error => simp [bind, Except.bind]
  case ok n  => cases n <;> simp [bind, Except.bind, pure, Except.pure, throw, throwThe, MonadExceptOf.throw]

theorem exists_of_status {s : Status} (h : fs.status p = .ok s) :
    ∃ n, fs.find p = .ok n ∧ s.isFolder = n.isFolder := by
  rw [status] at h
  cases hf : fs.find p
  case error => rw [hf] at h; cases h
  case ok n  =>
    rw [hf] at h
    cases n <;> cases h <;> exact ⟨_, rfl, rfl⟩

theorem exists_status (h : fs.find p = .ok n) :
    ∃ s, fs.status p = .ok s ∧ s.isFolder = n.isFolder := by
  rw [status, h]
  cases n <;> exact ⟨_, rfl, rfl⟩

theorem status_of_isTooLong (h : isTooLong p = true) : fs.status p = .error ⟨.nameTooLong, p⟩ := by
  rw [status, find, locate, if_pos h]
  rfl

theorem find_of_status {e : FileError} (h : fs.status p = .error e) : fs.find p = .error e := by
  rw [status] at h
  cases hf : fs.find p
  case error => rw [hf] at h; cases h; rfl
  case ok n  => rw [hf] at h; cases n <;> cases h

-- Nothing stands where a way ends early, unless it ends for a name that is too long.
theorem meansAbsent_iff {e : FileError} (hl : fs.Linkless) (begun : fs.node? (fs.start p) = some .folder)
    (h : fs.status p = .error e) :
    e.cause.meansAbsent = true ↔ isTooLong p = false ∧ ¬Chokes fs (fs.start p) p.names := by
  have h := find_of_status h
  rw [find, locate] at h
  split at h
  case isTrue long =>
    cases h
    simp [FileError.Cause.meansAbsent, long]
  case isFalse short =>
    rw [if_neg (not_not.mpr begun)] at h
    have free (notLong : fs.walkLinks .node maxLinks (fs.start p) p.names ≠ .error .nameTooLong) :
        isTooLong p = false ∧ ¬Chokes fs (fs.start p) p.names :=
      ⟨by simpa using short, fun chokes => notLong (walkLinks_of_chokes (by simp) chokes)⟩
    have ended : Walked fs (fs.start p) p.names (fs.walkLinks .node maxLinks (fs.start p) p.names) :=
      walked_links hl (by simp)
    generalize fs.walkLinks .node maxLinks (fs.start p) p.names = way at h ended free
    cases ended
    case choked chokes =>
      cases h
      simp [FileError.Cause.meansAbsent, chokes]
    case missing | notDirectory =>
      cases h
      exact iff_of_true rfl (free (by simp))
    case arrived =>
      refine iff_of_true ?_ (free (by simp))
      simp only [Except.mapError, bind, Except.bind] at h
      split at h
      case h_1 => cases h
      case h_2 =>
        cases h
        rfl

theorem content?_of_read (hl : fs.Linkless) (h : fs.read p = .ok c) :
    fs.content? (fs.place p) = some c :=
  content?_eq_some_iff.mpr ((find_eq_ok_iff hl).mp (read_eq_ok_iff.mp h)).2.2

-- A way that was open stays open.
theorem Grows.find (h : Grows fs fs' filled) (hl : fs.Linkless) (hf : fs.find p = .ok n)
    {n' : Node} (hn : fs'.node? (fs.place p) = some n') : fs'.find p = .ok n' := by
  have ⟨admits, leads, _⟩ := (find_eq_ok_iff hl).mp hf
  rw [find_eq_ok_iff (h.linkless hl), h.place_eq, h.start_eq]
  exact ⟨h.admits admits, leads.mono h.folder, hn⟩

-- The path of a file ends with the file's own name.
theorem exists_init_of_read (hl : fs.Linkless) (h : fs.read p = .ok c) :
    ∃ init name, p.names = init ++ [name] ∧ ¬(name = [] ∨ name = ['.']) ∧ name ≠ ['.', '.'] ∧
      (Utf8.encode name).length ≤ maxNameLength ∧ fs.place p = written (fs.start p) init ++ [name] := by
  have ⟨admits, leads, file⟩ := (find_eq_ok_iff hl).mp (read_eq_ok_iff.mp h)
  have ⟨init, name, he, dotless, down, short, end_, _⟩ := leads.exists_init admits.begun (by simp [file])
  exact ⟨init, name, he, dotless, down, short, end_⟩

theorem place_parent_prefix (hl : fs.Linkless) (h : fs.read p = .ok c) :
    fs.place p.parent <+: fs.place p := by
  have ⟨init, name, he, _, _, _, end_⟩ := exists_init_of_read hl h
  have above : fs.place p.parent = written (fs.start p) init := by
    rw [place, Path.parent, he, List.dropLast_concat]
    rfl
  rw [end_, above]
  exact List.prefix_append _ _

-- A file that is read later was there before, unless it was written.
theorem Grows.read_back (h : Grows fs fs' filled) (hl : fs.Linkless)
    (ha : fs.Anchored p) (hf : ¬filled (fs.place p)) (hc : fs'.read p = .ok c) : fs.read p = .ok c := by
  have ⟨init, name, he, dotless, down, short, end_⟩ :=
    exists_init_of_read (h.linkless hl) hc
  have ⟨admits, _, _⟩ := (find_eq_ok_iff (h.linkless hl)).mp (read_eq_ok_iff.mp hc)
  have held := content?_of_read (h.linkless hl) hc
  rw [h.place_eq, h.content _ hf] at held
  have file := content?_eq_some_iff.mp held
  rw [h.start_eq, h.place_eq] at end_
  have parent := folder_of_isSome (end_ ▸ Option.isSome_of_eq_some file)
  have turns := ha.turns
  rw [he, anchoredFrom_append] at turns
  have leads := (leads_of_anchoredFrom turns.1 parent).concat parent dotless down short
  rw [← he, ← end_] at leads
  exact read_eq_ok_iff.mpr ((find_eq_ok_iff hl).mpr ⟨⟨admits.short, ha.begun⟩, leads, file⟩)

-- A file can still be read unless it was written.
theorem Grows.read (h : Grows fs fs' filled) (hl : fs.Linkless) (hf : ¬filled (fs.place p))
    (hc : fs.read p = .ok c) : fs'.read p = .ok c := by
  have held := (h.content _ hf).trans (content?_of_read hl hc)
  exact read_eq_ok_iff.mpr (h.find hl (read_eq_ok_iff.mp hc) (content?_eq_some_iff.mp held))

-- A file is written, and no other.
structure Writes (fs fs' : FileSystem) (p : Path) (c : Bytes) : Prop extends
    Fills fs fs' (· = fs.place p) where
  read : fs'.read p = .ok c

theorem Writes.refl (h : fs.read p = .ok c) : Writes fs fs p c where
  toFills := .refl fs _
  read    := h

theorem Writes.holds (h : Writes fs fs' p c) (hl : fs.Linkless) : fs'.content? (fs.place p) = some c :=
  h.place_eq p ▸ content?_of_read (h.linkless hl) h.read

theorem writes_of_write (hl : fs.Linkless) (h : fs.write p c = .ok fs') : Writes fs fs' p c := by
  obtain ⟨loc, hloc, fits, rfl⟩ := write_eq_ok_iff.mp h
  obtain ⟨admits, leads, rfl⟩ := of_locate hl hloc
  have grows := grows_put (n := .file c) fits (by simp)
  have file : (fs.put (fs.place p) (.file c)).node? (fs.place p) = some (.file c) := node?_put_self _ _ fits
  refine ⟨⟨grows, fun l hf => .inl ?made⟩, read_eq_ok_iff.mpr ?read⟩
  case made =>
    rwa [node?_put_of_ne] at hf
    intro same
    rw [same, file] at hf
    cases hf
  case read =>
    rw [find_eq_ok_iff (grows.linkless hl), grows.place_eq, grows.start_eq]
    exact ⟨grows.admits admits, leads.mono grows.folder, file⟩

-- Folders are made on the way to a place and nowhere else, and nothing is lost.
structure Makes (fs fs' : FileSystem) (goal : Location) : Prop where
  grows : Grows fs fs' fun _ => False
  other : ∀ loc, ¬loc <+: goal → fs'.node? loc = fs.node? loc

namespace Makes

theorem refl (fs : FileSystem) (goal : Location) : Makes fs fs goal where
  grows     := .refl fs _
  other _ _ := rfl

theorem trans (h : Makes fs fs' goal) (h' : Makes fs' fs'' goal) : Makes fs fs'' goal where
  grows      := h.grows.trans h'.grows
  other l hl := (h'.other l hl).trans (h.other l hl)

end Makes

-- A file is written into a folder that was made for it.
theorem Makes.writes (h : Makes fs fs' (fs.place p.parent)) (hl : fs.Linkless)
    (h' : Writes fs' fs'' p c) : Writes fs fs'' p c where
  toGrows    := (h.grows.weaken fun _ => False.elim).trans (h.grows.place_eq p ▸ h'.toGrows)
  read       := h'.read
  made l hf  := by
    have all := (h.grows.weaken fun _ => False.elim).trans h'.toGrows
    have above := place_parent_prefix (all.linkless hl) h'.read
    rw [all.place_eq, all.place_eq] at above
    cases h'.made l hf
    case inr hg =>
      have ⟨goal, he, hp⟩ := hg
      exact .inr ⟨goal, he.trans (h.grows.place_eq p), hp⟩
    case inl hf' =>
      by_cases hp : l <+: fs.place p.parent
      case pos => exact .inr ⟨_, rfl, hp.trans above⟩
      case neg => exact .inl (h.other l hp ▸ hf')

-- A folder is made on the way along all names of which the path's are the first.
theorem makes_makeFolder (hl : fs.Linkless) (ha : fs.AnchoredFrom (fs.start p) (p.names ++ names))
    (h : fs.makeFolder p = .ok fs') : Makes fs fs' (written (fs.start p) (p.names ++ names)) := by
  obtain ⟨loc, hloc, hn, fits, rfl⟩ := makeFolder_eq_ok_iff.mp h
  have he : loc = fs.place p := (of_locate hl hloc).2.2
  have grown := grows_put (n := .folder) fits (by simp)
  refine ⟨⟨grown.here, grown.folder, grown.linkless, fun l _ => ?content⟩,
    fun l hp => node?_put_of_ne _ _ ?other⟩
  case content =>
    -- A new folder takes the place of nothing.
    by_cases hne : l = loc
    case neg => exact grown.content l hne
    case pos =>
      subst hne
      rw [content?, content?, hn, node?_put_self _ _ fits]
  case other =>
    intro hne
    have free := fits.free
    rw [written_append] at hp
    rw [hne, he, place] at hp
    rw [he, place] at free
    exact hp (prefix_written (anchoredFrom_append.mp ha).2 free)

end EnvMerge.FileSystem
