import EnvMerge.Files.Path
import Mathlib.Data.List.Basic

namespace EnvMerge.Path

-- The names of something below a folder.
structure Proper (names : List Text) : Prop where
  plain : ∀ name ∈ names, Plain name
  some  : names ≠ []

theorem Proper.dropLast {names : List Text} (h : Proper names) : ∀ name ∈ names.dropLast, Plain name :=
  fun name hm => h.plain name (List.dropLast_subset names hm)

variable {p : Path} {names names' : List Text}

@[simp] theorem join_relative (p : Path) (names : List Text) :
    p.join (relative names) = ⟨p.root, p.names ++ names⟩ := by
  simp [join, relative, isAbsolute]

theorem parent_join_relative (hn : names ≠ []) :
    (p.join (relative names)).parent = p.join (relative names.dropLast) := by
  simp [parent, List.dropLast_append_of_ne_nil hn]

theorem toText_relative (hn : names ≠ []) : (relative names).toText = ['/'].intercalate names := by
  simp [toText, relative, shownNames, hn]

theorem rootOf_intercalate (h : ∀ name ∈ names, Plain name) : rootOf (['/'].intercalate names) = [] := by
  cases names
  case nil => rfl
  case cons name names =>
    have plain := h name List.mem_cons_self
    cases name
    case nil      => exact absurd rfl plain.some
    case cons c t =>
      have hc : (c == '/') = false := beq_false_of_ne fun he => plain.slashless (he ▸ List.mem_cons_self)
      cases names <;> simp [rootOf, List.intercalate_cons_cons, hc]

theorem namesOf_intercalate (h : ∀ name ∈ names, Plain name) (hn : names ≠ []) :
    namesOf (['/'].intercalate names) = names := by
  rw [namesOf, List.splitOn_intercalate '/' (fun name hm => (h name hm).slashless) hn, List.filter_eq_self]
  intro name hm
  simp [(h name hm).some, (h name hm).ne_dot]

theorem ofText_toText_relative (h : Proper names) : ofText (relative names).toText = relative names := by
  rw [toText_relative h.some, ofText, rootOf_intercalate h.plain, namesOf_intercalate h.plain h.some,
    relative]

-- Different names are shown differently.
theorem relative_toText_inj (h : Proper names) (h' : Proper names')
    (same : (relative names).toText = (relative names').toText) : names = names' := by
  have := ofText_toText_relative h
  rw [same, ofText_toText_relative h'] at this
  exact ((mk.injEq ..).mp this).2.symm

theorem prefix_intercalate_append (names names' : List Text) :
    ['/'].intercalate names <+: ['/'].intercalate (names ++ names') := by
  induction names
  case nil => exact List.nil_prefix
  case cons name names ih =>
    cases names
    case nil =>
      cases names' <;> simp [List.intercalate_cons_cons]
    case cons _ _ =>
      simp only [List.cons_append, List.intercalate_cons_cons] at ih ⊢
      exact List.prefix_append_right_inj _ |>.mpr ih

theorem shownNames_eq (hp : p.root ≠ [] ∨ p.names ≠ []) : p.shownNames = p.names := by
  rw [shownNames, if_neg]
  exact fun ⟨hr, hn⟩ => hp.elim (· hr) (· hn)

theorem shownNames_under (p : Path) (names : List Text) : (p.under names).shownNames = p.shownNames ++ names := by
  refine shownNames_eq ?_
  rw [under, shownNames]
  split
  case isTrue  => simp
  case isFalse some => exact (not_and_or.mp some).imp_right fun hn => List.append_ne_nil_of_left_ne_nil hn _

theorem under_append (p : Path) (names names' : List Text) :
    p.under (names ++ names') = (p.under names).under names' := by
  rw [under, under, shownNames_under, List.append_assoc]
  rfl

-- A path gets longer by the names behind it.
theorem prefix_toText_under (p : Path) (names : List Text) : p.toText <+: (p.under names).toText := by
  rw [toText, toText, shownNames_under]
  exact (List.prefix_append_right_inj _).mpr (prefix_intercalate_append _ _)

@[simp] theorem hasNull_join_relative (p : Path) (names : List Text) :
    (p.join (relative names)).hasNull = (p.hasNull || (relative names).hasNull) := by
  simp [hasNull, relative, join, isAbsolute]

theorem hasNull_parent (h : p.hasNull = false) : p.parent.hasNull = false := by
  rw [hasNull, List.any_eq_false] at h ⊢
  exact fun name hm => h name (List.dropLast_subset _ hm)

theorem mem_shownNames_of_hasNull {name : Text} (h : p.hasNull = false) (hm : name ∈ p.shownNames) :
    name.contains '\x00' = false := by
  rw [shownNames] at hm
  split at hm
  case isTrue  => simp [List.mem_singleton.mp hm]
  case isFalse => simpa using List.any_eq_false.mp h name hm

theorem hasNull_entryFor {folder file : Path} (h : folder.hasNull = false) (h' : file.hasNull = false) :
    (folder.entryFor file).hasNull = false := by
  rw [hasNull, List.any_eq_false, entryFor]
  intro name hm
  rw [Bool.not_eq_true]
  cases List.mem_append.mp hm
  case inl hm => exact mem_shownNames_of_hasNull h hm
  case inr hm =>
    rw [List.mem_singleton.mp hm]
    cases hs : file.shownNames.getLast?
    case none      => simp [List.getLastD_eq_getLast?, hs]
    case some last =>
      rw [List.getLastD_eq_getLast?, hs]
      exact mem_shownNames_of_hasNull h' (List.mem_of_getLast? hs)

end EnvMerge.Path
