import EnvMerge.Proofs.Files.Growth

namespace EnvMerge.FileSystem

variable {fs fs' fs'' : FileSystem} {aim : Aim} {p : Path} {loc loc' : Location} {names : List Text}
variable {links : Nat} {c : Bytes}

theorem node?_targetStart (hf : fs.node? loc = some .folder) (target : Text) :
    fs.node? (targetStart loc target) = some .folder := by
  rw [targetStart]
  split
  case isTrue  => exact node?_root
  case isFalse => exact hf

-- A way ends at no link, unless links are what is looked for.
theorem Reaches.unlinked (h : Reaches fs aim links loc names loc') (ha : aim ≠ .entry)
    (hf : fs.node? loc = some .folder) (target : Text) : fs.node? loc' ≠ some (.link target) := by
  induction h
  case done              => simp [hf]
  case stay ih           => exact ih hf
  case up ih             => exact ih (folder_dropLast hf)
  case enter folder _ ih => exact ih folder
  case follow ih         => exact ih (node?_targetStart hf _)
  case stop last         => exact fun ht => ha (last target ht)

-- A file is put at the end of a way, and the way leads to it.
theorem Reaches.put (h : Reaches fs .output links loc names loc') (hf : fs.node? loc = some .folder)
    (fits : fs.Fits loc') : Reaches (fs.put loc' (.file c)) .node links loc names loc' := by
  refine (h.mono (fun l folder => ?folder) fun l target => ?link).retarget (by simp) (by simp)
  case folder =>
    rwa [node?_put_of_ne]
    exact fun he => fits.free (he ▸ folder)
  case link =>
    by_cases he : l = loc'
    case pos => simp [he, node?_put_self _ _ fits, h.unlinked (by simp) hf target]
    case neg => rw [node?_put_of_ne _ _ he]

-- A path to which a content is written leads to that content, and nothing changes elsewhere.
structure Holds (fs fs' : FileSystem) (p : Path) (c : Bytes) (loc : Location) : Prop where
  locate : fs'.locate .node p = .ok loc
  node   : fs'.node? loc = some (.file c)
  other  : ∀ other, other ≠ loc → fs'.node? other = fs.node? other

theorem Holds.read (h : Holds fs fs' p c loc) : fs'.read p = .ok c := by
  rw [read_eq_ok_iff, find_eq_ok_iff_exists]
  exact ⟨loc, h.locate, h.node⟩

theorem holds_of_write (h : fs.write p c = .ok fs') : ∃ loc, Holds fs fs' p c loc := by
  obtain ⟨loc, hloc, fits, rfl⟩ := write_eq_ok_iff.mp h
  have ⟨admits, reaches⟩ := exists_reaches_of_locate hloc
  have grows : Grows fs (fs.put loc (.file c)) (· = loc) := grows_put fits (by simp)
  have reached := reaches.put (c := c) admits.begun fits
  rw [← grows.start_eq p] at reached
  exact ⟨loc, locate_of_reaches (by simp) (grows.admits admits) reached, node?_put_self _ _ fits,
    fun other ho => node?_put_of_ne _ _ ho⟩

-- Folders are added where nothing stood.
def Adds (fs fs' : FileSystem) : Prop :=
  ∀ loc, fs'.node? loc = fs.node? loc ∨ fs.node? loc = none ∧ fs'.node? loc = some .folder

namespace Adds

theorem refl (fs : FileSystem) : Adds fs fs :=
  fun _ => .inl rfl

theorem trans (h : Adds fs fs') (h' : Adds fs' fs'') : Adds fs fs'' := by
  intro loc
  cases h' loc
  case inl same => exact same ▸ h loc
  case inr made =>
    cases h loc
    case inl same => exact .inr ⟨same ▸ made.1, made.2⟩
    case inr both => simp [both.2] at made

end Adds

theorem adds_of_makeFolder (h : fs.makeFolder p = .ok fs') : Adds fs fs' := by
  obtain ⟨loc, _, free, fits, rfl⟩ := makeFolder_eq_ok_iff.mp h
  intro l
  by_cases he : l = loc
  case pos => exact .inr ⟨he ▸ free, by rw [he, node?_put_self _ _ fits]⟩
  case neg => exact .inl (node?_put_of_ne _ _ he)

end EnvMerge.FileSystem
