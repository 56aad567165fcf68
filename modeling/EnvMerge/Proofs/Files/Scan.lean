import EnvMerge.Proofs.Files.Below
import EnvMerge.Proofs.Files.Job
import EnvMerge.Proofs.List

namespace EnvMerge

open FileSystem Job

variable {fs : FileSystem} {w w' : World} {folder : Path} {pattern path : Text} {loc : Location}
variable {names : List Text} {found : List (List Text)} {c : Bytes}

namespace FileSystem

-- The content of a matching file below a location.
def matching? (fs : FileSystem) (pattern : Text) (loc : Location) (names : List Text) : Option Bytes :=
  if names ≠ [] ∧ Glob.matches pattern (names.getLastD []) then fs.content? (loc ++ names) else none

-- The same for a file that a scan comes to: the path of its own folder is not too long.
def found? (fs : FileSystem) (pattern : Text) (folder : Path) (names : List Text) : Option Bytes :=
  if isTooLong (folder.under names.dropLast) then none
  else fs.matching? pattern (fs.place folder) names

theorem matching?_eq_some_iff : fs.matching? pattern loc names = some c ↔
    names ≠ [] ∧ Glob.matches pattern (names.getLastD []) ∧ fs.content? (loc ++ names) = some c := by
  simp [matching?, and_assoc]

theorem found?_eq_some_iff : fs.found? pattern folder names = some c ↔
    isTooLong (folder.under names.dropLast) = false ∧ names ≠ [] ∧
      Glob.matches pattern (names.getLastD []) ∧ fs.content? (fs.place folder ++ names) = some c := by
  simp [found?, matching?_eq_some_iff]

-- A scan finds the same files where nothing is written below its folder.
theorem Grows.found?_eq {fs' : FileSystem} {filled : Location → Prop} (h : Grows fs fs' filled)
    (free : ∀ names, ¬filled (fs.place folder ++ names)) :
    fs'.found? pattern folder = fs.found? pattern folder := by
  funext names
  simp only [found?, matching?, h.place_eq, h.content _ (free names)]

theorem entryName_of_found (hf : fs.found? pattern folder names = some c) : ∀ name ∈ names, EntryName name :=
  have ⟨_, _, _, content⟩ := found?_eq_some_iff.mp hf
  entryName_of_append (Option.isSome_of_eq_some (content?_eq_some_iff.mp content))

theorem proper_of_found (hf : fs.found? pattern folder names = some c) : Path.Proper names where
  plain name hm := (entryName_of_found hf name hm).toPlain
  some          := (found?_eq_some_iff.mp hf).2.1

end FileSystem

namespace Scan

theorem mem_visits_iff : names ∈ visits pattern found ↔
    names ∈ found ∧ Glob.matches pattern (names.getLastD []) := by
  rw [visits, List.mem_mergeSort, List.mem_filter]

theorem nodup_visits (h : found.Nodup) : (visits pattern found).Nodup :=
  (List.mergeSort_perm _ _).nodup_iff.mpr (h.filter _)

theorem mem_visits_filesBelow_iff (hl : fs.Linkless) (ha : fs.Anchored folder) :
    names ∈ visits pattern (fs.filesBelow folder) ↔ ∃ c, fs.found? pattern folder names = some c := by
  rw [mem_visits_iff, mem_filesBelow_iff hl ha, Option.isSome_iff_exists]
  simp only [found?_eq_some_iff]
  grind

-- The paths that a scan visits can be asked for.
theorem hasNull_of_mem_visits (known : folder.hasNull = false)
    (hm : names ∈ visits pattern (fs.filesBelow folder)) : (folder.join (.relative names)).hasNull = false := by
  rw [Path.hasNull_join_relative, known, hasNull_of_mem_filesBelow (mem_visits_iff.mp hm).1]
  rfl

-- What a scan tells about a file.
structure Describes (fs : FileSystem) (folder : Path) (names : List Text) (i : FileInfo) : Prop where
  relative : i.relative = (Path.relative names).toText
  null     : (folder.join (.relative names)).hasNull = false
  content  : ∃ c, fs.read (folder.join (.relative names)) = .ok c ∧ i.digest = digest c

theorem of_fileInfo {i : FileInfo} (h : Returns (fileInfo folder names) w i w') :
    w' = w ∧ Describes w.files folder names i := by
  obtain ⟨s, w₁, hs, h₁⟩ := returns_bind_iff.mp h
  simp only [returns_ofFiles_iff, World.run_status, World.pair_eq_iff] at hs
  obtain ⟨_, rfl⟩ := hs
  obtain ⟨_, w₂, hd, h₂⟩ := returns_bind_iff.mp h₁
  obtain ⟨c, null, hr, rfl, rfl⟩ := returns_digestOf_iff.mp hd
  obtain ⟨rfl, hw⟩ := returns_pure_iff.mp h₂
  exact ⟨hw.symm, rfl, null, c, hr, rfl⟩

-- A visit adds a file to the report, or a fault.
theorem visit_cases {r r' : Report} (h : Returns (visit folder false r names) w r' w') :
    (∃ i, w' = w ∧ Describes w.files folder names i ∧ r' = { r with files := r.files ++ [i] }) ∨
      ∃ f, r' = { r with faults := r.faults ++ [f] } := by
  cases returns_of_tryCatch h
  case inl h =>
    have ⟨i, w₁, hi, h₁⟩ := returns_bind_iff.mp h
    obtain ⟨rfl, describes⟩ := of_fileInfo hi
    obtain ⟨rfl, rfl⟩ := returns_pure_iff.mp h₁
    exact .inl ⟨i, rfl, describes, rfl⟩
  case inr h =>
    have ⟨e, w₁, h₁⟩ := h
    split at h₁
    case isTrue =>
      obtain ⟨rfl, _⟩ := returns_pure_iff.mp h₁
      exact .inr ⟨_, rfl⟩
    case isFalse => exact absurd h₁ (not_returns_throw _)

-- A file that cannot be read is a fault, which stays in the report.
theorem of_visit {r r' : Report} (h : Returns (visit folder false r names) w r' w')
    (clean : r'.faults = []) :
    w' = w ∧ r.faults = [] ∧ ∃ i, Describes w.files folder names i ∧ r'.files = r.files ++ [i] := by
  obtain ⟨i, hw, describes, rfl⟩ | ⟨f, rfl⟩ := visit_cases h
  case inl => exact ⟨hw, clean, i, describes, rfl⟩
  case inr => simp at clean

theorem of_foldlM_visit {r r' : Report} (h : Returns (found.foldlM (visit folder false) r) w r' w')
    (clean : r'.faults = []) : w' = w ∧ r.faults = [] ∧
      ∃ is, List.Forall₂ (Describes w.files folder) found is ∧ r'.files = r.files ++ is := by
  induction found generalizing r w
  case nil =>
    obtain ⟨rfl, rfl⟩ := returns_pure_iff.mp h
    exact ⟨rfl, clean, [], .nil, by simp⟩
  case cons names found ih =>
    rw [List.foldlM_cons] at h
    have ⟨r₁, w₁, hv, hf⟩ := returns_bind_iff.mp h
    obtain ⟨rfl, clean₁, is, describes, hr⟩ := ih hf
    obtain ⟨rfl, clean₀, i, hi, hr₁⟩ := of_visit hv clean₁
    exact ⟨rfl, clean₀, i :: is, .cons hi describes, by simp [hr, hr₁]⟩

-- What a scan without faults tells about the files below a folder.
structure Complete (fs : FileSystem) (pattern : Text) (folder : Path) (files : List FileInfo) : Prop where
  mem_iff  : ∀ path, path ∈ files.map (·.relative) ↔
    ∃ names c, path = (Path.relative names).toText ∧ fs.found? pattern folder names = some c
  nodup    : (files.map (·.relative)).Nodup
  readable : ∀ names c, fs.found? pattern folder names = some c →
    (folder.join (.relative names)).hasNull = false ∧ fs.read (folder.join (.relative names)) = .ok c
  digest   : ∀ names c, fs.found? pattern folder names = some c →
    (files.find? (·.relative == (Path.relative names).toText)).map (·.digest) = some (digest c)

section Described

variable {is : List FileInfo}

theorem relative_of_describes (h : List.Forall₂ (Describes fs folder) found is) :
    is.map (·.relative) = found.map fun names => (Path.relative names).toText := by
  rw [eq_comm, ← List.forall₂_eq_eq_eq, List.forall₂_map_left_iff, List.forall₂_map_right_iff]
  exact h.imp fun _ _ describes => describes.relative.symm

-- A file is described where its relative path is looked up.
theorem exists_find?_of_describes (h : List.Forall₂ (Describes fs folder) found is)
    (proper : ∀ names ∈ found, Path.Proper names) (hm : names ∈ found) :
    ∃ i, is.find? (·.relative == (Path.relative names).toText) = some i ∧ Describes fs folder names i := by
  have rel := find?_of_forall₂ (p := fun n => (Path.relative n).toText == (Path.relative names).toText)
    (q := (·.relative == (Path.relative names).toText)) h fun n i hd => by rw [hd.relative]
  cases hf : found.find? fun n => (Path.relative n).toText == (Path.relative names).toText with
  | none =>
    have := List.find?_eq_none.mp hf names hm
    simp at this
  | some n =>
    have same := Path.relative_toText_inj (proper _ (List.mem_of_find?_eq_some hf)) (proper _ hm)
      (by simpa using List.find?_some hf)
    subst same
    rw [hf] at rel
    cases hi : is.find? (·.relative == (Path.relative n).toText) with
    | none   => rw [hi] at rel; cases rel
    | some i => rw [hi] at rel; cases rel with | some hd => exact ⟨i, rfl, hd⟩

theorem Describes.read_eq {i : FileInfo} (h : Describes fs folder names i) (hl : fs.Linkless)
    (proper : Path.Proper names) (hf : fs.found? pattern folder names = some c) :
    fs.read (folder.join (.relative names)) = .ok c ∧ i.digest = digest c := by
  have ⟨c', hr, hd⟩ := h.content
  have held := content?_of_read hl hr
  rw [place_join proper.plain, (found?_eq_some_iff.mp hf).2.2.2] at held
  cases held
  exact ⟨hr, hd⟩

theorem complete_of_describes (hl : fs.Linkless) (ha : fs.Anchored folder)
    (h : List.Forall₂ (Describes fs folder) (visits pattern (fs.filesBelow folder)) is) :
    Complete fs pattern folder is := by
  have visited {names : List Text} : names ∈ visits pattern (fs.filesBelow folder) ↔
      ∃ c, fs.found? pattern folder names = some c := mem_visits_filesBelow_iff hl ha
  have proper : ∀ names ∈ visits pattern (fs.filesBelow folder), Path.Proper names := fun _ hm =>
    have ⟨_, hc⟩ := visited.mp hm
    proper_of_found hc
  refine ⟨fun path => ?mem, ?nodup, fun names c hn => ?readable, fun names c hn => ?digest⟩
  case mem =>
    rw [relative_of_describes h, List.mem_map]
    constructor
    case mp =>
      intro ⟨names, hm, he⟩
      have ⟨c, hc⟩ := visited.mp hm
      exact ⟨names, c, he.symm, hc⟩
    case mpr =>
      intro ⟨names, c, he, hc⟩
      exact ⟨names, visited.mpr ⟨c, hc⟩, he.symm⟩
  case nodup =>
    rw [relative_of_describes h]
    exact (nodup_visits (nodup_filesBelow fs folder)).map_on fun n hm n' hm' same =>
      Path.relative_toText_inj (proper n hm) (proper n' hm') same
  case readable =>
    have ⟨i, _, describes⟩ := exists_find?_of_describes h proper (visited.mpr ⟨c, hn⟩)
    exact ⟨describes.null, (describes.read_eq hl (proper_of_found hn) hn).1⟩
  case digest =>
    have ⟨i, hi, describes⟩ := exists_find?_of_describes h proper (visited.mpr ⟨c, hn⟩)
    rw [hi, Option.map_some, (describes.read_eq hl (proper_of_found hn) hn).2]

end Described

theorem returns_run_iff {r : Report} : Returns (run folder pattern false) w r w' ↔ folder.hasNull = false ∧
    Returns ((visits pattern (w.files.filesBelow folder)).foldlM (visit folder false) ⟨[], []⟩) w r w' := by
  simp [run, returns_bind_iff, and_assoc]

theorem complete_of_run {r : Report} (hl : w.files.Linkless)
    (ha : w.files.Anchored folder) (h : Returns (run folder pattern false) w r w')
    (clean : r.faults = []) : w' = w ∧ Complete w.files pattern folder r.files := by
  obtain ⟨rfl, _, is, describes, hr⟩ := of_foldlM_visit (returns_run_iff.mp h).2 clean
  rw [hr, List.nil_append]
  exact ⟨rfl, complete_of_describes hl ha describes⟩

end Scan
end EnvMerge
