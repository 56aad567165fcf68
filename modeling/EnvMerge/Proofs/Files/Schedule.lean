import EnvMerge.Proofs.Files.Scan

namespace EnvMerge

open FileSystem Job

namespace Text

variable {a b c : Text}

theorem le_cons_iff {x y : Char} : le (x :: a) (y :: b) ↔ x.toNat < y.toNat ∨ x = y ∧ le a b := by
  simp [le]

theorem le_trans (h : le a b) (h' : le b c) : le a c := by
  induction a generalizing b c
  case nil => exact rfl
  case cons x a ih =>
    cases b
    case nil => cases h
    case cons y b =>
      cases c
      case nil => cases h'
      case cons z c =>
        rw [le_cons_iff] at h h' ⊢
        grind

theorem le_total (a b : Text) : le a b || le b a := by
  induction a generalizing b
  case nil => rfl
  case cons x a ih =>
    cases b
    case nil => rfl
    case cons y b =>
      have tail := ih b
      rw [Bool.or_eq_true] at tail ⊢
      rw [le_cons_iff, le_cons_iff]
      have same : x.toNat = y.toNat → x = y := Char.toNat_inj.mp
      grind

theorem le_antisymm (h : le a b) (h' : le b a) : a = b := by
  induction a generalizing b
  case nil =>
    cases b
    case nil    => rfl
    case cons _ => cases h'
  case cons x a ih =>
    cases b
    case nil => cases h
    case cons y b =>
      rw [le_cons_iff] at h h'
      grind

end Text

namespace Trees

-- What a path calls for, as the scans have seen it.
inductive Task
  | both (same : Bool)
  | onlyDestination
  | onlyTemplate

namespace Task

-- The failures that are noted in the report.
def catches : Task → Failure → Bool
  | onlyDestination       => Failure.isSystem
  | both _ | onlyTemplate => fun e => e.isSystem || e.isParse

def step (plan : Plan) : Task → TreeReport → Text → Job World.Run TreeReport
  | both same       => Trees.both plan fun _ => same
  | onlyDestination => Trees.onlyDestination plan
  | onlyTemplate    => Trees.onlyTemplate plan

end Task

def attend (plan : Plan) (r : TreeReport) (item : Text × Task) : Job World.Run TreeReport :=
  noting item.2.catches (item.2.step plan) r item.1

def schedule (inPlace : Bool) (ts ds : List FileInfo) : List (Text × Task) :=
  let tPaths := ts.map (·.relative)
  let dPaths := ds.map (·.relative)
  (sorted (tPaths.filter (dPaths.contains ·))).map (fun path => (path, .both (sameDigest ts ds path)))
    ++ (if inPlace then [] else sorted (dPaths.filter (!tPaths.contains ·))).map (·, .onlyDestination)
    ++ (sorted (tPaths.filter (!dPaths.contains ·))).map (·, .onlyTemplate)

-- The three rounds of a run, over paths in both trees, in the destination and in the template.
def rounds (plan : Plan) (ts ds : List FileInfo) (r : TreeReport) : Job World.Run TreeReport := do
  let tPaths := ts.map (·.relative)
  let dPaths := ds.map (·.relative)
  let readable (e : Failure) := e.isSystem || e.isParse
  let r ← (sorted (tPaths.filter (dPaths.contains ·))).foldlM
    (noting readable (both plan (sameDigest ts ds))) r
  let r ← (if plan.inPlace then [] else sorted (dPaths.filter (!tPaths.contains ·))).foldlM
    (noting Failure.isSystem (onlyDestination plan)) r
  (sorted (tPaths.filter (!dPaths.contains ·))).foldlM (noting readable (onlyTemplate plan)) r

variable {fs : FileSystem} {plan : Plan} {pattern path : Text} {inPlace : Bool}
variable {ts ds ts' ds' : List FileInfo} {paths paths' : List Text} {Q Q' : List Text → Prop}
variable {task : Task} {w w' : World} {r r' : TreeReport}

-- A listing of relative paths, each of them once.
structure Lists (paths : List Text) (Q : List Text → Prop) : Prop where
  nodup   : paths.Nodup
  proper  : ∀ names, Q names → Path.Proper names
  mem_iff : ∀ path, path ∈ paths ↔ ∃ names, Q names ∧ path = (Path.relative names).toText

namespace Lists

theorem mem_toText_iff (h : Lists paths Q) (hn : Path.Proper names) :
    (Path.relative names).toText ∈ paths ↔ Q names := by
  rw [h.mem_iff]
  constructor
  case mp =>
    intro ⟨names', hq, he⟩
    exact Path.relative_toText_inj hn (h.proper _ hq) he ▸ hq
  case mpr => exact fun hq => ⟨names, hq, rfl⟩

-- Paths that are listed may be chosen by another listing, and sorted.
theorem sorted_filter {f : Text → Bool} (h : Lists paths Q)
    (hf : ∀ names, Q names → (f (Path.relative names).toText = true ↔ Q' names)) :
    Lists (sorted (paths.filter f)) fun names => Q names ∧ Q' names where
  nodup        := (List.mergeSort_perm _ _).nodup_iff.mpr (h.nodup.filter _)
  proper n hq  := h.proper n hq.1
  mem_iff path := by
    rw [sorted, List.mem_mergeSort, List.mem_filter, h.mem_iff]
    constructor
    case mp =>
      intro ⟨⟨names, hq, he⟩, hp⟩
      exact ⟨names, ⟨hq, (hf names hq).mp (he ▸ hp)⟩, he⟩
    case mpr =>
      intro ⟨names, ⟨hq, hq'⟩, he⟩
      exact ⟨⟨names, hq, he⟩, he ▸ (hf names hq).mpr hq'⟩

theorem both (h : Lists paths Q) (h' : Lists paths' Q') :
    Lists (sorted (paths.filter (paths'.contains ·))) fun names => Q names ∧ Q' names :=
  h.sorted_filter fun names hq => by rw [List.contains_iff_mem, h'.mem_toText_iff (h.proper names hq)]

theorem only (h : Lists paths Q) (h' : Lists paths' Q') :
    Lists (sorted (paths.filter (!paths'.contains ·))) fun names => Q names ∧ ¬Q' names :=
  h.sorted_filter fun names hq => by
    rw [Bool.not_eq_true', ← Bool.not_eq_true, List.contains_iff_mem, h'.mem_toText_iff (h.proper names hq)]

theorem exists_map (h : Lists paths Q) : ∃ ns : List (List Text),
    paths = ns.map (fun names => (Path.relative names).toText) ∧ ns.Nodup ∧
      ∀ names, names ∈ ns ↔ Q names := by
  have ⟨ns, listed⟩ := exists_forall₂ fun path hm => (h.mem_iff path).mp hm
  have he : paths = ns.map fun names => (Path.relative names).toText := by
    rw [← List.forall₂_eq_eq_eq, List.forall₂_map_right_iff]
    exact listed.imp fun _ _ hq => hq.2
  refine ⟨ns, he, .of_map _ (he ▸ h.nodup), fun names => ⟨fun hm => ?_, fun hq => ?_⟩⟩
  case refine_1 =>
    have ⟨_, _, hq, _⟩ := exists_mem_of_forall₂ listed hm
    exact hq
  case refine_2 =>
    have hm := (h.mem_toText_iff (h.proper _ hq)).mpr hq
    rw [he, List.mem_map] at hm
    have ⟨names', hm', same⟩ := hm
    have ⟨_, _, hq', _⟩ := exists_mem_of_forall₂ listed hm'
    exact Path.relative_toText_inj (h.proper _ hq') (h.proper _ hq) same ▸ hm'

end Lists

theorem lists_of_complete {folder : Path} {files : List FileInfo}
    (h : Scan.Complete fs pattern folder files) :
    Lists (files.map (·.relative)) fun names => (fs.found? pattern folder names).isSome where
  nodup        := h.nodup
  proper _ hq  := have ⟨_, hc⟩ := Option.isSome_iff_exists.mp hq; proper_of_found hc
  mem_iff path := by
    rw [h.mem_iff]
    simp only [Option.isSome_iff_exists]
    exact exists_congr fun names => by grind

-- A step succeeds, or its failure is noted.
theorem noting_cases {caught : Failure → Bool} {step : TreeReport → Text → Job World.Run TreeReport}
    (h : Returns (noting caught step r path) w r' w') : Returns (step r path) w r' w' ∨
      ∃ e, (step r path).run.run w = (.error e, w') ∧ caught e = true ∧ r' = r.addFault path e := by
  rw [noting, Returns, run_tryCatch] at h
  split at h
  case h_1 worked      => exact .inl (worked.trans h)
  case h_2 e w₁ failed =>
    split at h
    case isFalse       => exact absurd h (not_returns_throw _)
    case isTrue caught =>
      obtain ⟨rfl, rfl⟩ := returns_pure_iff.mp h
      exact .inr ⟨e, failed, caught, rfl⟩

theorem faults_addChanged (r : TreeReport) (path : Text) (changed : Bool) :
    (r.addChanged path changed).faults = r.faults := by
  cases changed <;> rfl

theorem faults_of_both {same : Text → Bool} (h : Returns (both plan same r path) w r' w') :
    r'.faults = r.faults := by
  rw [both] at h
  split at h
  case isTrue =>
    have add {changed : Bool} : ((r.addChanged path changed).addIdentical path).faults = r.faults :=
      faults_addChanged r path changed
    split at h
    case isTrue  => exact (returns_pure_iff.mp h).1 ▸ add
    case isFalse =>
      obtain ⟨_, _, _, h₁⟩ := returns_bind_iff.mp h
      exact (returns_pure_iff.mp h₁).1 ▸ add
  case isFalse =>
    obtain ⟨_, _, _, h₁⟩ := returns_bind_iff.mp h
    exact (returns_pure_iff.mp h₁).1 ▸ faults_addChanged _ _ _

theorem faults_of_onlyDestination (h : Returns (onlyDestination plan r path) w r' w') :
    r'.faults = r.faults := by
  obtain ⟨_, _, _, h₁⟩ := returns_bind_iff.mp h
  exact (returns_pure_iff.mp h₁).1 ▸ faults_addChanged _ _ _

theorem faults_of_onlyTemplate (h : Returns (onlyTemplate plan r path) w r' w') :
    r'.faults = r.faults := by
  rw [onlyTemplate] at h
  split at h
  case isTrue =>
    obtain ⟨_, _, _, h₁⟩ := returns_bind_iff.mp h
    exact (returns_pure_iff.mp h₁).1 ▸ faults_addChanged _ _ _
  case isFalse => exact (returns_pure_iff.mp h).1 ▸ rfl

theorem faults_of_step (h : Returns (task.step plan r path) w r' w') : r'.faults = r.faults := by
  cases task
  case both same =>
    have h : Returns (both plan (fun _ => same) r path) w r' w' := h
    exact faults_of_both h
  case onlyDestination => exact faults_of_onlyDestination h
  case onlyTemplate    => exact faults_of_onlyTemplate h

-- What goes wrong in a step stays in the report.
theorem step_of_attend {item : Text × Task} (h : Returns (attend plan r item) w r' w') (clean : r'.faults = []) :
    r.faults = [] ∧ Returns (item.2.step plan r item.1) w r' w' := by
  obtain worked | ⟨e, _, _, rfl⟩ := noting_cases h
  case inl => exact ⟨faults_of_step worked ▸ clean, worked⟩
  case inr => simp [TreeReport.addFault] at clean

theorem clean_of_attends {items : List (Text × Task)} (h : Returns (items.foldlM (attend plan) r) w r' w')
    (clean : r'.faults = []) : r.faults = [] := by
  induction items generalizing r w
  case nil => exact (returns_pure_iff.mp h).1 ▸ clean
  case cons item items ih =>
    rw [List.foldlM_cons] at h
    have ⟨r₁, w₁, ha, hf⟩ := returns_bind_iff.mp h
    exact (step_of_attend ha (ih hf)).1

-- The rounds of a run go through its schedule.
theorem rounds_eq (r : TreeReport) :
    rounds plan ts ds r = (schedule plan.inPlace ts ds).foldlM (attend plan) r := by
  simp only [schedule, List.foldlM_append, List.foldlM_map, bind_assoc]
  rfl

theorem mem_sorted {paths : List Text} : path ∈ sorted paths ↔ path ∈ paths :=
  List.mem_mergeSort

-- What the scans say of a path that calls for a task.
def Task.Fits (inPlace : Bool) (ts ds : List FileInfo) (path : Text) : Task → Prop
  | both same       => path ∈ ts.map (·.relative) ∧ path ∈ ds.map (·.relative) ∧ sameDigest ts ds path = same
  | onlyDestination => path ∉ ts.map (·.relative) ∧ path ∈ ds.map (·.relative) ∧ inPlace = false
  | onlyTemplate    => path ∈ ts.map (·.relative) ∧ path ∉ ds.map (·.relative)

theorem mem_schedule_iff : (path, task) ∈ schedule inPlace ts ds ↔ task.Fits inPlace ts ds path := by
  unfold schedule Task.Fits
  generalize ts.map (·.relative) = tPaths, ds.map (·.relative) = dPaths
  simp only [List.mem_append, List.mem_map, List.mem_ite_nil_left, mem_sorted, List.mem_filter]
  cases task <;> grind

theorem map_fst_schedule : (schedule inPlace ts ds).map (·.1) =
    sorted ((ts.map (·.relative)).filter ((ds.map (·.relative)).contains ·)) ++
      (if inPlace then [] else sorted ((ds.map (·.relative)).filter (!(ts.map (·.relative)).contains ·))) ++
      sorted ((ts.map (·.relative)).filter (!(ds.map (·.relative)).contains ·)) := by
  simp [schedule, Function.comp_def]

theorem mem_map_fst_schedule_iff : path ∈ (schedule inPlace ts ds).map (·.1) ↔
    path ∈ ts.map (·.relative) ∨ path ∈ ds.map (·.relative) ∧ inPlace = false := by
  rw [map_fst_schedule]
  cases inPlace <;> simp [mem_sorted] <;> grind

theorem nodup_schedule (ht : (ts.map (·.relative)).Nodup) (hd : (ds.map (·.relative)).Nodup) :
    ((schedule inPlace ts ds).map (·.1)).Nodup := by
  have chosen {paths : List Text} (h : paths.Nodup) (p : Text → Bool) : (sorted (paths.filter p)).Nodup :=
    (List.mergeSort_perm _ _).nodup_iff.mpr (h.filter p)
  rw [map_fst_schedule, List.nodup_append, List.nodup_append]
  refine ⟨⟨chosen ht _, ?destination, ?apart⟩, chosen ht _, ?apart'⟩
  case destination =>
    split
    case isTrue  => exact List.nodup_nil
    case isFalse => exact chosen hd _
  all_goals
    cases inPlace <;> simp [mem_sorted] <;> grind

-- Where the destination has no files, all paths are the template's alone.
theorem schedule_nil (inPlace : Bool) (ts : List FileInfo) :
    schedule inPlace ts [] = (sorted (ts.map (·.relative))).map (·, .onlyTemplate) := by
  simp [schedule, sorted]

theorem Lists.sorted_eq (h : Lists (sorted paths) Q) (h' : Lists (sorted paths') Q) :
    sorted paths = sorted paths' := by
  have trans (a b c : Text) : Text.le a b → Text.le b c → Text.le a c := Text.le_trans
  have ordered (paths : List Text) : (sorted paths).Pairwise (Text.le · ·) :=
    List.pairwise_mergeSort trans Text.le_total paths
  refine List.Perm.eq_of_pairwise ?_ (ordered paths) (ordered paths') ?_
  · exact fun a b _ _ => Text.le_antisymm
  · exact (List.perm_ext_iff_of_nodup h.nodup h'.nodup).mpr fun path => by rw [h.mem_iff, h'.mem_iff]

-- Scans that find the same files make the same schedule.
theorem schedule_eq (ht : Lists (ts.map (·.relative)) Q) (hd : Lists (ds.map (·.relative)) Q')
    (ht' : Lists (ts'.map (·.relative)) Q) (hd' : Lists (ds'.map (·.relative)) Q')
    (same : ∀ names, Q names → Q' names →
      sameDigest ts ds (Path.relative names).toText = sameDigest ts' ds' (Path.relative names).toText) :
    schedule inPlace ts ds = schedule inPlace ts' ds' := by
  simp only [schedule, (ht.both hd).sorted_eq (ht'.both hd'), (hd.only ht).sorted_eq (hd'.only ht'),
    (ht.only hd).sorted_eq (ht'.only hd')]
  congr 2
  refine List.map_congr_left fun path hm => ?_
  have ⟨names, ⟨hq, hq'⟩, he⟩ := ((ht'.both hd').mem_iff path).mp hm
  rw [he, same names hq hq']

theorem sameDigest_eq {ts ds : List FileInfo} {x y : UInt64}
    (hx : (ts.find? (·.relative == path)).map (·.digest) = some x)
    (hy : (ds.find? (·.relative == path)).map (·.digest) = some y) :
    sameDigest ts ds path = (x == y) := by
  simp only [sameDigest, hx, hy, Option.some_beq_some]

theorem lists_schedule (inPlace : Bool) (ht : Lists (ts.map (·.relative)) Q)
    (hd : Lists (ds.map (·.relative)) Q') :
    Lists ((schedule inPlace ts ds).map (·.1)) fun names => Q names ∨ Q' names ∧ inPlace = false where
  nodup        := nodup_schedule ht.nodup hd.nodup
  proper n hq  := hq.elim (ht.proper n) fun hq => hd.proper n hq.1
  mem_iff path := by
    rw [mem_map_fst_schedule_iff, ht.mem_iff, hd.mem_iff]
    grind

-- The items of a schedule, with the names that their paths are made of.
theorem exists_agenda (inPlace : Bool) (ht : Lists (ts.map (·.relative)) Q)
    (hd : Lists (ds.map (·.relative)) Q') : ∃ agenda : List (List Text × Task),
      schedule inPlace ts ds = agenda.map (fun e => ((Path.relative e.1).toText, e.2)) ∧
        (agenda.map (·.1)).Nodup ∧
          ∀ names, names ∈ agenda.map (·.1) ↔ Q names ∨ Q' names ∧ inPlace = false := by
  have ⟨ns, he, nodup, mem⟩ := (lists_schedule inPlace ht hd).exists_map
  obtain ⟨tasks, ht⟩ : ∃ tasks, tasks = (schedule inPlace ts ds).map (·.2) := ⟨_, rfl⟩
  have same : ns.length = tasks.length := by
    rw [ht, List.length_map, ← List.length_map (fun names => (Path.relative names).toText), ← he, List.length_map]
  have names : (ns.zip tasks).map (·.1) = ns := List.map_fst_zip (Nat.le_of_eq same)
  refine ⟨ns.zip tasks, ?_, names.symm ▸ nodup, names.symm ▸ mem⟩
  calc schedule inPlace ts ds
    _ = ((schedule inPlace ts ds).map (·.1)).zip tasks := List.zip_of_prod rfl ht.symm
    _ = (ns.zip tasks).map (Prod.map _ id) := by rw [he, List.zip_map_left]
    _ = (ns.zip tasks).map fun e => ((Path.relative e.1).toText, e.2) := rfl

end Trees
end EnvMerge
