import EnvMerge.Proofs.Files.Schedule
import Mathlib.Data.List.Dedup

namespace EnvMerge.Scan

variable {a b name : Text} {p q r dir names : List Text} {own subs : List Text} {depth : Nat}
variable {visited visited' : List (List Text)} {P : Text → Prop} {wanted inner : List Text → Prop}

section Order

theorem visitedBefore_total (p q : List Text) : visitedBefore p q || visitedBefore q p := by
  fun_induction visitedBefore p q
  case case1         => rfl
  case case2         => rfl
  case case3 a b     => exact Text.le_total a b
  case case4         => rfl
  case case5         => simp [visitedBefore]
  case case6 ih      => simpa [visitedBefore] using ih
  case case7 a x p b y q ne =>
    simpa [visitedBefore, Ne.symm ne] using Text.le_total a b

theorem visitedBefore_antisymm (h : visitedBefore p q) (h' : visitedBefore q p) : p = q := by
  fun_induction visitedBefore p q
  case case1 q =>
    cases q
    case nil  => rfl
    case cons => cases h'
  case case2                => cases h
  case case3                => exact congrArg (· :: []) (Text.le_antisymm h h')
  case case4                => cases h'
  case case5                => cases h
  case case6 ih             => exact congrArg (_ :: ·) (ih h (by simpa [visitedBefore] using h'))
  case case7 a x p b y q ne =>
    exact absurd (Text.le_antisymm h (by simpa [visitedBefore, Ne.symm ne] using h')) ne

theorem visitedBefore_trans (h : visitedBefore p q) (h' : visitedBefore q r) : visitedBefore p r := by
  fun_induction visitedBefore p q generalizing r
  case case1 => simp [visitedBefore]
  case case2 => cases h
  case case5 => cases h
  case case3 a b =>
    match r, h' with
    | [], h'         => cases h'
    | [c], h'        => exact Text.le_trans h h'
    | _ :: _ :: _, _ => rfl
  case case4 =>
    match r, h' with
    | [], h'         => cases h'
    | [_], h'        => cases h'
    | _ :: _ :: _, _ => rfl
  case case6 a x p y q ih =>
    match r, h' with
    | [], h'  => cases h'
    | [_], h' => cases h'
    | c :: z :: r, h' =>
      rw [visitedBefore] at h' ⊢
      split at h'
      case isTrue same  => rw [if_pos same]; exact ih h h'
      case isFalse less => rw [if_neg less]; exact h'
  case case7 a x p b y q ne =>
    match r, h' with
    | [], h'  => cases h'
    | [_], h' => cases h'
    | c :: z :: r, h' =>
      rw [visitedBefore] at h' ⊢
      split at h'
      case isTrue same  => rw [← same, if_neg ne]; exact h
      case isFalse less =>
        have further := Text.le_trans h h'
        rw [if_neg fun same : a = c => ne (Text.le_antisymm h (same ▸ h'))]
        exact further

-- What two ways have in common does not matter.
theorem visitedBefore_append (hp : p ≠ []) (hq : q ≠ []) (dir : List Text) :
    visitedBefore (dir ++ p) (dir ++ q) = visitedBefore p q := by
  induction dir
  case nil => rfl
  case cons name dir ih =>
    obtain ⟨x, p', hp'⟩ := List.exists_cons_of_ne_nil (List.append_ne_nil_of_right_ne_nil dir hp)
    obtain ⟨y, q', hq'⟩ := List.exists_cons_of_ne_nil (List.append_ne_nil_of_right_ne_nil dir hq)
    rw [← ih, List.cons_append, List.cons_append, hp', hq', visitedBefore, if_pos rfl]

end Order

-- The names with a property, each of them once and in order.
structure InOrder (P : Text → Prop) (names : List Text) : Prop where
  sorted  : names.Pairwise fun a b => Text.le a b ∧ a ≠ b
  mem_iff : ∀ name, name ∈ names ↔ P name

mutual

-- A tour of what is wanted below the folder at `dir`, where `inner` tells of a folder.
inductive Tour (wanted inner : List Text → Prop) : List Text → List (List Text) → Prop
  | folder {dir own subs : List Text} {rest : List (List Text)}
      (files : InOrder (fun name => wanted (dir ++ [name])) own)
      (folders : InOrder (fun name => inner (dir ++ [name])) subs) (next : Tours wanted inner dir subs rest) :
      Tour wanted inner dir (own.map (dir ++ [·]) ++ rest)

-- Tours of some subfolders, one after the other.
inductive Tours (wanted inner : List Text → Prop) : List Text → List Text → List (List Text) → Prop
  | done {dir : List Text} : Tours wanted inner dir [] []
  | enter {dir subs : List Text} {name : Text} {tour rest : List (List Text)}
      (first : Tour wanted inner (dir ++ [name]) tour) (next : Tours wanted inner dir subs rest) :
      Tours wanted inner dir (name :: subs) (tour ++ rest)

end

-- The order of visits, without repetition.
def Ordered (visited : List (List Text)) : Prop :=
  visited.Pairwise fun p q => visitedBefore p q ∧ p ≠ q

theorem ordered_of_nodup (found : List (List Text)) (h : found.Nodup) :
    Ordered (found.mergeSort visitedBefore) := by
  have trans (p q r : List Text) : visitedBefore p q → visitedBefore q r → visitedBefore p r :=
    visitedBefore_trans
  have sorted := List.pairwise_mergeSort trans visitedBefore_total found
  exact sorted.and (List.nodup_iff_pairwise_ne.mp ((List.mergeSort_perm _ _).nodup_iff.mpr h))

-- Two such lists of the same names are one.
theorem Ordered.eq (h : Ordered visited) (h' : Ordered visited')
    (same : ∀ names, names ∈ visited ↔ names ∈ visited') : visited = visited' := by
  have nodup {visited : List (List Text)} (h : Ordered visited) : visited.Nodup :=
    List.nodup_iff_pairwise_ne.mpr (h.imp And.right)
  refine List.Perm.eq_of_pairwise (fun _ _ _ _ h h' => visitedBefore_antisymm h.1 h'.1) h h' ?_
  exact (List.perm_ext_iff_of_nodup (nodup h) (nodup h')).mpr same

theorem exists_inOrder (some_ : List Text) (h : ∀ name, P name → name ∈ some_) :
    ∃ names, InOrder P names := by
  classical
  refine ⟨(some_.dedup.filter (P ·)).mergeSort Text.le, ?sorted, fun name => ?mem⟩
  case sorted =>
    have trans (a b c : Text) : Text.le a b → Text.le b c → Text.le a c := Text.le_trans
    have sorted := List.pairwise_mergeSort trans Text.le_total (some_.dedup.filter (P ·))
    have nodup : (some_.dedup.filter (P ·)).Nodup := (List.nodup_dedup some_).filter _
    exact sorted.and (List.nodup_iff_pairwise_ne.mp ((List.mergeSort_perm _ _).nodup_iff.mpr nodup))
  case mem =>
    rw [List.mem_mergeSort, List.mem_filter, List.mem_dedup, decide_eq_true_iff]
    exact ⟨And.right, fun hp => ⟨h name hp, hp⟩⟩

-- What is visited below the folder at `dir`.
structure Visits (wanted : List Text → Prop) (dir : List Text) (visited : List (List Text)) : Prop where
  ordered : Ordered visited
  mem_iff : ∀ names, names ∈ visited ↔ wanted names ∧ ∃ name rest, names = dir ++ name :: rest

-- Of what is visited, that which lies below a subfolder.
theorem Visits.exists_behind (h : Visits wanted dir visited) (sub : Text) :
    ∃ behind, Visits wanted (dir ++ [sub]) behind := by
  classical
  refine ⟨visited.filter fun names => ∃ name rest, names = dir ++ [sub] ++ name :: rest,
    h.ordered.filter _, fun names => ?_⟩
  rw [List.mem_filter, decide_eq_true_iff, h.mem_iff, and_assoc, and_congr_right_iff, and_iff_right_iff_imp]
  rintro - ⟨name, rest, rfl⟩
  exact ⟨sub, name :: rest, by simp⟩

theorem tours_flatMap {behind : Text → List (List Text)}
    (h : ∀ sub ∈ subs, Tour wanted inner (dir ++ [sub]) (behind sub)) :
    Tours wanted inner dir subs (subs.flatMap behind) := by
  induction subs
  case nil => exact .done
  case cons sub subs ih =>
    have ⟨first, rest⟩ := List.forall_mem_cons.mp h
    rw [List.flatMap_cons]
    exact .enter first (ih rest)

section Parts

variable {behind : Text → List (List Text)} (own_ : InOrder (fun name => wanted (dir ++ [name])) own)
  (subs_ : InOrder (fun name => inner (dir ++ [name])) subs)
  (behind_ : ∀ sub, Visits wanted (dir ++ [sub]) (behind sub))
include own_ subs_ behind_

theorem ordered_append : Ordered (own.map (dir ++ [·]) ++ subs.flatMap behind) := by
  have deep {sub : Text} {names : List Text} (hm : names ∈ behind sub) :
      ∃ name rest, names = dir ++ sub :: name :: rest := by
    obtain ⟨_, name, rest, rfl⟩ := ((behind_ sub).mem_iff names).mp hm
    exact ⟨name, rest, by simp⟩
  refine List.pairwise_append.mpr ⟨?own, ?behind, ?across⟩
  case own =>
    refine List.pairwise_map.mpr (own_.sorted.imp fun h => ⟨?_, by simpa using h.2⟩)
    rw [visitedBefore_append (by simp) (by simp)]
    exact h.1
  case behind =>
    refine List.pairwise_flatMap.mpr ⟨fun sub _ => (behind_ sub).ordered, subs_.sorted.imp ?_⟩
    intro a b h p hp q hq
    obtain ⟨_, _, rfl⟩ := deep hp
    obtain ⟨_, _, rfl⟩ := deep hq
    rw [visitedBefore_append (by simp) (by simp), visitedBefore, if_neg h.2]
    exact ⟨h.1, by simp [h.2]⟩
  case across =>
    intro p hp q hq
    obtain ⟨name, _, rfl⟩ := List.mem_map.mp hp
    obtain ⟨sub, _, hq⟩ := List.mem_flatMap.mp hq
    obtain ⟨_, _, rfl⟩ := deep hq
    rw [visitedBefore_append (by simp) (by simp)]
    exact ⟨rfl, by simp⟩

-- What is visited below a folder is its own and what lies below its subfolders.
theorem Visits.eq_append (h : Visits wanted dir visited)
    (deeper : ∀ sub name rest, wanted (dir ++ sub :: name :: rest) → inner (dir ++ [sub])) :
    visited = own.map (dir ++ [·]) ++ subs.flatMap behind := by
  refine h.ordered.eq (ordered_append own_ subs_ behind_) fun names => ?_
  rw [h.mem_iff, List.mem_append, List.mem_map, List.mem_flatMap]
  constructor
  case mp =>
    rintro ⟨found, name, rest, rfl⟩
    cases rest
    case nil            => exact .inl ⟨name, (own_.mem_iff name).mpr found, rfl⟩
    case cons next rest =>
      refine .inr ⟨name, (subs_.mem_iff name).mpr (deeper name next rest found), ?_⟩
      exact ((behind_ name).mem_iff _).mpr ⟨found, next, rest, by simp⟩
  case mpr =>
    rintro (⟨name, hm, rfl⟩ | ⟨sub, _, hm⟩)
    case inl => exact ⟨(own_.mem_iff name).mp hm, name, [], rfl⟩
    case inr =>
      obtain ⟨found, name, rest, rfl⟩ := ((behind_ sub).mem_iff names).mp hm
      exact ⟨found, sub, name :: rest, by simp⟩

end Parts

-- Folders as a tour meets them: what is wanted lies in folders, of which each folder has finitely many,
-- and they are no deeper than some depth.
structure Nested (wanted inner : List Text → Prop) (depth : Nat) : Prop where
  deeper  : ∀ dir sub name rest, wanted (dir ++ sub :: name :: rest) → inner (dir ++ [sub])
  finite  : ∀ dir, ∃ some_ : List Text, ∀ name, inner (dir ++ [name]) → name ∈ some_
  bounded : ∀ names, inner names → names.length ≤ depth

-- What is visited in order below a folder is visited on a tour. The induction is on how much deeper the
-- subfolders can be.
theorem Visits.tour (h : Visits wanted dir visited) (nested : Nested wanted inner depth) :
    Tour wanted inner dir visited := by
  have ⟨levels, enough⟩ : ∃ levels, depth < dir.length + levels := ⟨depth + 1, by omega⟩
  induction levels generalizing dir visited
  all_goals
    have ⟨some_, hs⟩ := nested.finite dir
    have ⟨subs, subs_⟩ := exists_inOrder some_ hs
    have ⟨own, own_⟩ : ∃ own, InOrder (fun name => wanted (dir ++ [name])) own :=
      exists_inOrder (visited.map (·.getLastD [])) fun name found => List.mem_map.mpr
        ⟨dir ++ [name], (h.mem_iff _).mpr ⟨found, name, [], rfl⟩, by simp⟩
    choose behind behind_ using h.exists_behind
    rw [h.eq_append own_ subs_ behind_ (nested.deeper dir)]
    refine .folder own_ subs_ (tours_flatMap fun sub hm => ?_)
    have shallow := nested.bounded _ ((subs_.mem_iff sub).mp hm)
    rw [List.length_append, List.length_singleton] at shallow
  case zero           => omega
  case succ levels ih => exact ih (behind_ sub) (by simp; omega)

end EnvMerge.Scan
