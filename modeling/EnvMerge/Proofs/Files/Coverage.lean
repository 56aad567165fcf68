import EnvMerge.Proofs.Files.Account
import EnvMerge.Proofs.Files.Tour
import Mathlib.Algebra.Order.BigOperators.Group.List
import Mathlib.Algebra.Order.Group.Nat

namespace EnvMerge

open FileSystem Job

variable {fs : FileSystem} {w : World} {folder p : Path} {pattern : Text} {names : List Text}
variable {found : List (List Text)}

namespace Job

theorem run_digestOf (known : p.hasNull = false) (w : World) :
    (digestOf p defaultPiece : Job World.Run UInt64).run.run w =
      (((w.files.read p).map digest).mapError .file, w) := by
  have read : (Job.read p : Job World.Run Bytes).run.run w = ((w.files.read p).mapError .file, w) := by
    rw [Job.read, checkPath, if_neg (by simp [known])]
    rfl
  rw [digestOf, run_bind, read]
  cases w.files.read p <;> rfl

end Job

namespace Scan

-- What is seen of a file.
def seen (fs : FileSystem) (folder : Path) (names : List Text) : Except FileError FileInfo :=
  let p := folder.join (.relative names)
  (fs.read p).map fun c => ⟨(Path.relative names).toText, p.toText, digest c, c.length⟩

-- What is noted of a file that cannot be read.
def fault? (fs : FileSystem) (folder : Path) (names : List Text) : Option Fault :=
  match seen fs folder names with
  | .ok _    => none
  | .error e => some ⟨(Path.relative names).toText, e.message⟩

-- The report on some files, one after the other.
def reportOn (fs : FileSystem) (folder : Path) (found : List (List Text)) : Report :=
  ⟨found.filterMap fun names => (seen fs folder names).toOption, found.filterMap (fault? fs folder)⟩

section Visits

variable {r : Report} {i : FileInfo} {e : FileError}

theorem reportOn_cons_of_seen (h : seen fs folder names = .ok i) : reportOn fs folder (names :: found) =
    ⟨i :: (reportOn fs folder found).files, (reportOn fs folder found).faults⟩ := by
  simp [reportOn, fault?, h, Except.toOption]

theorem reportOn_cons_of_error (h : seen fs folder names = .error e) : reportOn fs folder (names :: found) =
    ⟨(reportOn fs folder found).files,
      ⟨(Path.relative names).toText, e.message⟩ :: (reportOn fs folder found).faults⟩ := by
  simp [reportOn, fault?, h, Except.toOption]

theorem run_fileInfo (known : (folder.join (.relative names)).hasNull = false) (w : World) :
    (fileInfo folder names : Job World.Run FileInfo).run.run w =
      ((seen w.files folder names).mapError .file, w) := by
  have asked (p : Path) : (ofFiles (Host.status p) : Job World.Run Status).run.run w =
      ((w.files.status p).mapError .file, w) := rfl
  rw [fileInfo, run_bind, asked, seen, FileSystem.read]
  cases hs : w.files.status (folder.join (.relative names))
  case error =>
    rw [find_of_status hs]
    rfl
  case ok s =>
    -- What has a status is found, and a file has its length as its size.
    obtain ⟨n, hf, _⟩ := exists_of_status hs
    simp only [Except.mapError]
    rw [run_bind, run_digestOf known, FileSystem.read, hf]
    rw [FileSystem.status, hf] at hs
    cases n
    case folder | link => rfl
    case file =>
      cases hs
      rfl

theorem run_visit_of_seen (failFast : Bool) (known : (folder.join (.relative names)).hasNull = false)
    (h : seen w.files folder names = .ok i) :
    Returns (visit folder failFast r names) w { r with files := r.files ++ [i] } w := by
  rw [Returns, visit, run_tryCatch, run_bind, run_fileInfo known, h]
  rfl

theorem run_visit_of_error (failFast : Bool) (known : (folder.join (.relative names)).hasNull = false)
    (h : seen w.files folder names = .error e) :
    (visit folder failFast r names : Job World.Run Report).run.run w = if failFast then (.error (.file e), w)
      else (.ok { r with faults := r.faults ++ [⟨(Path.relative names).toText, e.message⟩] }, w) := by
  rw [visit, run_tryCatch, run_bind, run_fileInfo known, h]
  cases failFast <;> rfl

variable (known : ∀ names ∈ found, (folder.join (.relative names)).hasNull = false)
include known

-- A scan reports on all files, if it goes on after faults or there are none.
theorem returns_foldlM_visit (failFast : Bool)
    (clean : failFast = true → (reportOn w.files folder found).faults = []) (r : Report) :
    Returns (found.foldlM (visit folder failFast) r) w
      ⟨r.files ++ (reportOn w.files folder found).files, r.faults ++ (reportOn w.files folder found).faults⟩ w := by
  induction found generalizing r
  case nil => exact returns_pure_iff.mpr ⟨by simp [reportOn], rfl⟩
  case cons names found ih =>
    have ⟨first, rest⟩ := List.forall_mem_cons.mp known
    rw [List.foldlM_cons]
    refine returns_bind_iff.mpr ?_
    cases hs : seen w.files folder names
    case ok i =>
      rw [reportOn_cons_of_seen hs] at clean ⊢
      refine ⟨_, w, run_visit_of_seen failFast first hs, ?_⟩
      simpa using ih rest clean { r with files := r.files ++ [i] }
    case error e =>
      rw [reportOn_cons_of_error hs] at clean ⊢
      cases failFast
      case true  => cases clean rfl
      case false =>
        refine ⟨_, w, run_visit_of_error false first hs, ?_⟩
        simpa using ih rest nofun { r with faults := r.faults ++ [⟨(Path.relative names).toText, e.message⟩] }

theorem exists_run_foldlM_visit_of_fault {f : Fault} {later : List Fault}
    (noted : (reportOn w.files folder found).faults = f :: later) (r : Report) :
    ∃ e, (found.foldlM (visit folder true) r : Job World.Run Report).run.run w = (.error e, w) ∧
      e.message = f.message := by
  induction found generalizing r
  case nil => cases noted
  case cons names found ih =>
    have ⟨first, rest⟩ := List.forall_mem_cons.mp known
    rw [List.foldlM_cons, run_bind]
    cases hs : seen w.files folder names
    case ok i =>
      rw [reportOn_cons_of_seen hs] at noted
      rw [run_visit_of_seen true first hs]
      exact ih rest noted _
    case error e =>
      rw [reportOn_cons_of_error hs] at noted
      cases noted
      exact ⟨.file e, by rw [run_visit_of_error true first hs]; rfl, rfl⟩

end Visits

-- What a scan is to find: what is no folder, not even behind a link, and has a name that matches.
structure Sought (fs : FileSystem) (folder : Path) (pattern : Text) (names : List Text) : Prop where
  some    : names ≠ []
  leaf    : fs.Leaf folder names
  matched : Glob.matches pattern (names.getLastD [])

-- Whether a system lists the folder of a file.
def Listed (folder : Path) (names : List Text) : Prop :=
  isTooLong (folder.under names.dropLast) = false

-- The report of a scan on all that is wanted below a folder: each path once, as a file or as a fault, in
-- the order of a tour. A file is told as it is read, and a fault is the reason why one is not.
structure Covers (fs : FileSystem) (folder : Path) (wanted : List Text → Prop) (r : Report) : Prop where
  mem_iff : ∀ path, path ∈ r.paths ++ r.faults.map (·.relative) ↔
    ∃ names, wanted names ∧ path = (Path.relative names).toText
  nodup   : (r.paths ++ r.faults.map (·.relative)).Nodup
  tour    : ∃ visited, Tour wanted (fun names => fs.below? folder names = some .folder) [] visited ∧
    r.paths.Sublist (visited.map fun names => (Path.relative names).toText) ∧
    (r.faults.map (·.relative)).Sublist (visited.map fun names => (Path.relative names).toText)
  content : ∀ i ∈ r.files, ∃ c, fs.read (folder.join (.ofText i.relative)) = .ok c ∧
    i.absolute = (folder.join (.ofText i.relative)).toText ∧ i.digest = digest c ∧ i.size = c.length
  reason  : ∀ f ∈ r.faults, ∃ e, fs.read (folder.join (.ofText f.relative)) = .error e ∧ f.message = e.message

section Covers

variable {wanted : List Text → Prop} {visited : List (List Text)} {i : FileInfo} {e : FileError}

theorem seen_eq_ok_iff : seen fs folder names = .ok i ↔ ∃ c, fs.read (folder.join (.relative names)) = .ok c ∧
    i = ⟨(Path.relative names).toText, (folder.join (.relative names)).toText, digest c, c.length⟩ := by
  rw [seen]
  cases fs.read (folder.join (.relative names)) <;> simp [Except.map, eq_comm]

theorem seen_eq_error_iff : seen fs folder names = .error e ↔
    fs.read (folder.join (.relative names)) = .error e := by
  rw [seen]
  cases fs.read (folder.join (.relative names)) <;> simp [Except.map]

theorem paths_reportOn : (reportOn fs folder visited).paths =
    (visited.filter fun names => (fault? fs folder names).isNone).map fun names => (Path.relative names).toText := by
  induction visited
  case nil => rfl
  case cons names visited ih =>
    cases hs : seen fs folder names
    case ok i =>
      obtain ⟨c, _, hi⟩ := seen_eq_ok_iff.mp hs
      rw [reportOn_cons_of_seen hs]
      simpa [Report.paths, fault?, hs, hi] using ih
    case error e =>
      rw [reportOn_cons_of_error hs]
      simpa [Report.paths, fault?, hs] using ih

theorem map_relative_faults_reportOn : (reportOn fs folder visited).faults.map (·.relative) =
    (visited.filter fun names => (fault? fs folder names).isSome).map fun names => (Path.relative names).toText := by
  induction visited
  case nil => rfl
  case cons names visited ih =>
    cases hs : seen fs folder names
    case ok i =>
      rw [reportOn_cons_of_seen hs]
      simpa [fault?, hs] using ih
    case error e =>
      rw [reportOn_cons_of_error hs]
      simpa [fault?, hs] using ih

-- Files and faults together are what has been visited.
theorem perm_reportOn :
    ((reportOn fs folder visited).paths ++ (reportOn fs folder visited).faults.map (·.relative)).Perm
      (visited.map fun names => (Path.relative names).toText) := by
  rw [paths_reportOn, map_relative_faults_reportOn, ← List.map_append]
  refine List.Perm.map _ ?_
  simpa using List.filter_append_perm (fun names => (fault? fs folder names).isNone) visited

theorem mem_files_reportOn_iff :
    i ∈ (reportOn fs folder visited).files ↔ ∃ names ∈ visited, seen fs folder names = .ok i := by
  rw [reportOn, List.mem_filterMap]
  refine exists_congr fun names => and_congr_right fun _ => ?_
  cases seen fs folder names <;> simp [Except.toOption]

theorem mem_faults_reportOn_iff {f : Fault} : f ∈ (reportOn fs folder visited).faults ↔
    ∃ names ∈ visited, ∃ e, seen fs folder names = .error e ∧ f = ⟨(Path.relative names).toText, e.message⟩ := by
  rw [reportOn, List.mem_filterMap]
  refine exists_congr fun names => and_congr_right fun _ => ?_
  rw [fault?]
  cases seen fs folder names <;> simp [eq_comm]

theorem covers_reportOn (mem : ∀ names, names ∈ visited ↔ wanted names) (nodup : visited.Nodup)
    (proper : ∀ names ∈ visited, Path.Proper names)
    (tour : Tour wanted (fun names => fs.below? folder names = some .folder) [] visited) :
    Covers fs folder wanted (reportOn fs folder visited) := by
  refine ⟨fun path => ?mem, ?nodup, ⟨visited, tour, ?files, ?faults⟩, fun i hi => ?content, fun f hf => ?reason⟩
  case mem => simp only [perm_reportOn.mem_iff, List.mem_map, mem, eq_comm]
  case nodup =>
    refine perm_reportOn.nodup_iff.mpr (nodup.map_on fun n hn n' hn' same => ?_)
    exact Path.relative_toText_inj (proper n hn) (proper n' hn') same
  case files  => exact paths_reportOn ▸ List.filter_sublist.map _
  case faults => exact map_relative_faults_reportOn ▸ List.filter_sublist.map _
  case content =>
    obtain ⟨names, hm, hs⟩ := mem_files_reportOn_iff.mp hi
    obtain ⟨c, hr, rfl⟩ := seen_eq_ok_iff.mp hs
    rw [Path.ofText_toText_relative (proper names hm)]
    exact ⟨c, hr, rfl, rfl, rfl⟩
  case reason =>
    obtain ⟨names, hm, e, hs, rfl⟩ := mem_faults_reportOn_iff.mp hf
    rw [Path.ofText_toText_relative (proper names hm)]
    exact ⟨e, seen_eq_error_iff.mp hs, rfl⟩

end Covers

section Folders

-- The folders below a folder, as a tour of files in them meets them.
theorem exists_nested (leaf : ∀ names, wanted names → fs.Leaf folder names) :
    ∃ depth, Nested wanted (fun names => fs.below? folder names = some .folder) depth := by
  have listed {names : List Text} (hn : names ≠ []) (h : fs.below? folder names = some .folder) :
      ∃ base, (base ++ names, Node.folder) ∈ fs.entries := by
    have ⟨base, _, stands⟩ := below?_eq_some_iff.mp h
    exact ⟨base, (mem_entries_iff (by simp [hn])).mpr stands⟩
  refine ⟨(fs.entries.map fun e => e.1.length).sum, fun dir sub name rest h => ?deeper,
    fun dir => ⟨fs.entries.map fun e => e.1.getLastD [], fun name h => ?finite⟩, fun names h => ?bounded⟩
  case deeper =>
    have ⟨base, n, hb, stands⟩ := (leaf _ h).exists_node
    have below : (fs.node? ((base ++ (dir ++ [sub])) ++ name :: rest)).isSome := by
      simpa using Option.isSome_of_eq_some stands
    exact below?_eq_some_iff.mpr ⟨base, hb, folder_of_append (by simp) below⟩
  case finite =>
    have ⟨base, hm⟩ := listed (by simp) h
    exact List.mem_map.mpr ⟨_, hm, by simp [← List.append_assoc]⟩
  case bounded =>
    by_cases hn : names = []
    case pos => simp [hn]
    case neg =>
      have ⟨base, hm⟩ := listed hn h
      have le := List.le_sum_of_mem (List.mem_map_of_mem (f := fun e : Location × Node => e.1.length) hm)
      rw [List.length_append] at le
      exact le_of_add_le_right le

-- The files in folders that are listed, in the order of visits.
theorem mem_visits_iff_sought : names ∈ visits pattern (fs.filesBelow folder) ↔
    Sought fs folder pattern names ∧ Listed folder names := by
  rw [mem_visits_iff, mem_filesBelow_iff_leaf]
  exact ⟨fun ⟨⟨hn, leaf, listed⟩, matched⟩ => ⟨⟨hn, leaf, matched⟩, listed⟩,
    fun ⟨⟨hn, leaf, matched⟩, listed⟩ => ⟨⟨hn, leaf, listed⟩, matched⟩⟩

theorem Sought.proper (h : Sought fs folder pattern names) : Path.Proper names :=
  ⟨fun name hm => (h.leaf.entryName name hm).toPlain, h.some⟩

theorem tour_visits :
    Tour (fun names => Sought fs folder pattern names ∧ Listed folder names)
      (fun names => fs.below? folder names = some .folder) [] (visits pattern (fs.filesBelow folder)) := by
  have ⟨depth, nested⟩ := exists_nested fun names h =>
    show fs.Leaf folder names from (h : Sought fs folder pattern names ∧ Listed folder names).1.leaf
  refine Visits.tour ⟨ordered_of_nodup _ ((nodup_filesBelow fs folder).filter _), fun names => ?_⟩ nested
  rw [mem_visits_iff_sought, iff_self_and]
  intro ⟨h, _⟩
  have ⟨name, rest, hn⟩ := List.exists_cons_of_ne_nil h.some
  exact ⟨name, rest, hn⟩

theorem covers_visits (fs : FileSystem) (folder : Path) (pattern : Text) : Covers fs folder
    (fun names => Sought fs folder pattern names ∧ Listed folder names)
    (reportOn fs folder (visits pattern (fs.filesBelow folder))) :=
  covers_reportOn (fun _ => mem_visits_iff_sought) (nodup_visits (nodup_filesBelow fs folder))
    (fun _ hm => (mem_visits_iff_sought.mp hm).1.proper) tour_visits

end Folders

section Run

variable (known : folder.hasNull = false)
include known

theorem returns_run : Returns (run folder pattern false) w
    (reportOn w.files folder (visits pattern (w.files.filesBelow folder))) w := by
  refine returns_run_iff.mpr ⟨known, ?_⟩
  simpa using returns_foldlM_visit (fun _ hm => hasNull_of_mem_visits known hm) false nofun ⟨[], []⟩

-- A scan that stops at the first fault beside the report of one that goes on.
structure Strict (folder : Path) (pattern : Text) (w : World) (r : Report) : Prop where
  raises_iff : (∃ e w', (run folder pattern true : Job World.Run Report).run.run w = (.error e, w')) ↔
    r.faults ≠ []
  returns    : r.faults = [] → Returns (run folder pattern true) w r w
  first      : ∀ f ∈ r.faults.head?,
    ∃ e, (run folder pattern true : Job World.Run Report).run.run w = (.error e, w) ∧ e.message = f.message

theorem strict_run : Strict folder pattern w
    (reportOn w.files folder (visits pattern (w.files.filesBelow folder))) := by
  have visited (names : List Text) (hm : names ∈ visits pattern (w.files.filesBelow folder)) :=
    hasNull_of_mem_visits known hm
  have strict : (run folder pattern true : Job World.Run Report).run.run w =
      ((visits pattern (w.files.filesBelow folder)).foldlM (visit folder true) ⟨[], []⟩ :
        Job World.Run Report).run.run w := by
    rw [run, run_bind, checkPath, if_neg (by simp [known])]
    rfl
  cases hf : (reportOn w.files folder (visits pattern (w.files.filesBelow folder))).faults
  case nil =>
    have returns : Returns (run folder pattern true) w
        (reportOn w.files folder (visits pattern (w.files.filesBelow folder))) w := by
      refine strict.trans ((returns_foldlM_visit visited true (fun _ => hf) ⟨[], []⟩).trans ?_)
      rw [List.nil_append, List.nil_append]
    refine ⟨⟨?_, fun some => absurd hf some⟩, fun _ => returns, by simp [hf]⟩
    rintro ⟨e, w', raises⟩
    cases returns.symm.trans raises
  case cons f later =>
    obtain ⟨e, raises, shown⟩ := exists_run_foldlM_visit_of_fault visited hf ⟨[], []⟩
    have raises := strict.trans raises
    refine ⟨⟨fun _ => by simp [hf], fun _ => ⟨e, w, raises⟩⟩, fun clean => ?_, fun f' hf' => ⟨e, raises, ?_⟩⟩
    case refine_1 => cases hf.symm.trans clean
    case refine_2 =>
      rw [hf] at hf'
      cases hf'
      exact shown

end Run

-- A scan tells of all that is sought in folders that are listed.
theorem covers_iff_listed (folder : Path) (pattern : Text) (known : folder.hasNull = false) :
    ∃ r, Returns (run folder pattern false) w r w ∧
      Covers w.files folder (fun names => Sought w.files folder pattern names ∧ Listed folder names) r ∧
      (Covers w.files folder (Sought w.files folder pattern) r ↔
        ∀ names, Sought w.files folder pattern names → Listed folder names) ∧
      Strict folder pattern w r := by
  have covers := covers_visits w.files folder pattern
  refine ⟨_, returns_run known, covers, ⟨fun whole names h => ?listed, fun listed => ?whole⟩,
    strict_run known⟩
  case listed =>
    obtain ⟨names', ⟨h', listed⟩, same⟩ := (covers.mem_iff _).mp ((whole.mem_iff _).mpr ⟨names, h, rfl⟩)
    cases Path.relative_toText_inj h.proper h'.proper same
    exact listed
  case whole =>
    have same : (fun names => Sought w.files folder pattern names ∧ Listed folder names) =
        Sought w.files folder pattern := by
      funext names
      exact propext (and_iff_left_of_imp (listed names))
    exact same ▸ covers

end Scan

namespace Trees

-- A folder with a link that leads nowhere, one to a file, one to a folder, and with a file in a subfolder.
def folderOfLinks : FileSystem where
  entries := [
    ([['d']], .folder),
    ([['d'], "a.env".toList], .link "gone".toList),
    ([['d'], "c.env".toList], .link "s/b.env".toList),
    ([['d'], "l.env".toList], .link ['s']),
    ([['d'], ['s']], .folder),
    ([['d'], ['s'], "b.env".toList], .file (Utf8.encode "B=1\n".toList)),
    ([['d'], "z.txt".toList], .file [])]
  here := []
  distinct := by decide +kernel
  placed := by decide +kernel

theorem visits_folderOfLinks :
    Scan.visits Scan.defaultPattern (folderOfLinks.filesBelow destinationFolder) =
      [["a.env".toList], ["c.env".toList], [['s'], "b.env".toList]] := by
  have found : (folderOfLinks.filesBelow destinationFolder).filter (fun names =>
      Glob.matches Scan.defaultPattern (names.getLastD [])) =
        [["a.env".toList], ["c.env".toList], [['s'], "b.env".toList]] := by
    decide +kernel
  rw [Scan.visits, found]
  exact List.mergeSort_of_pairwise (by decide +kernel)

-- The link that leads nowhere is a fault, and what the link to a folder leads to is found in that folder only.
theorem covers_of_folder_of_links :
    ∃ r, Returns (Scan.run destinationFolder Scan.defaultPattern false) (onlyFiles folderOfLinks) r
        (onlyFiles folderOfLinks) ∧
      Scan.Covers folderOfLinks destinationFolder
        (Scan.Sought folderOfLinks destinationFolder Scan.defaultPattern) r ∧
      r.paths = ["c.env".toList, "s/b.env".toList] ∧ r.faults.map (·.relative) = ["a.env".toList] ∧
      ∃ e w', (Scan.run destinationFolder Scan.defaultPattern true : Job World.Run Scan.Report).run.run
        (onlyFiles folderOfLinks) = (.error e, w') := by
  have known : destinationFolder.hasNull = false := by decide +kernel
  have ⟨r, returns, covers, whole, strict⟩ :=
    Scan.covers_iff_listed (w := onlyFiles folderOfLinks) destinationFolder Scan.defaultPattern known
  have scanned : Returns (Scan.run destinationFolder Scan.defaultPattern false) (onlyFiles folderOfLinks)
      (Scan.reportOn folderOfLinks destinationFolder
        [["a.env".toList], ["c.env".toList], [['s'], "b.env".toList]]) (onlyFiles folderOfLinks) :=
    visits_folderOfLinks ▸ Scan.returns_run (w := onlyFiles folderOfLinks) known
  cases Except.ok.inj (World.pair_eq_iff.mp (scanned.symm.trans returns)).1
  refine ⟨_, returns, whole.mpr fun names sought => ?listed, by decide +kernel, by decide +kernel,
    strict.raises_iff.mpr (by decide +kernel)⟩
  case listed =>
    have short : ∀ entry ∈ folderOfLinks.entries,
        isTooLong (destinationFolder.under (entry.1.drop 1).dropLast) = false := by
      decide +kernel
    have ⟨base, n, hb, stands⟩ := sought.leaf.exists_node
    have here : folderOfLinks.locate .node destinationFolder = .ok [['d']] := by decide +kernel
    cases here.symm.trans hb
    have listed := short (['d'] :: names, n) ((mem_entries_iff (by simp)).mpr stands)
    rwa [List.drop_one, List.tail_cons] at listed

-- No word of the file in a folder out of reach, though it is sought.
theorem not_covers_of_deep_trees :
    Returns (Scan.run windingFolder Scan.defaultPattern false) (onlyFiles deepTrees) ⟨[], []⟩
      (onlyFiles deepTrees) ∧
    ¬Scan.Covers deepTrees windingFolder (Scan.Sought deepTrees windingFolder Scan.defaultPattern) ⟨[], []⟩ := by
  have unvisited : Scan.visits Scan.defaultPattern (deepTrees.filesBelow windingFolder) = [] := by
    decide +kernel
  refine ⟨Scan.returns_run_iff.mpr ⟨by decide +kernel, unvisited ▸ rfl⟩, fun covers => ?_⟩
  have sought : Scan.Sought deepTrees windingFolder Scan.defaultPattern [deep, "b.env".toList] :=
    ⟨by decide, .file (c := Utf8.encode "B=1\n".toList) (by decide +kernel), by decide +kernel⟩
  exact absurd ((covers.mem_iff _).mpr ⟨_, sought, rfl⟩) (by decide)

end Trees
end EnvMerge
