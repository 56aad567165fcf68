import Mathlib.Data.List.Forall2
import Mathlib.Data.List.Pairwise

namespace EnvMerge

variable {α β : Type} {R : α → β → Prop} {xs xs' : List α} {ys : List β}

theorem exists_forall₂ (h : ∀ x ∈ xs, ∃ y, R x y) :
    ∃ ys, List.Forall₂ R xs ys := by
  induction xs
  case nil => exact ⟨[], .nil⟩
  case cons x xs ih =>
    have ⟨y, hy⟩ := h x List.mem_cons_self
    have ⟨ys, hys⟩ := ih fun x' hx => h x' (List.mem_cons_of_mem _ hx)
    exact ⟨y :: ys, .cons hy hys⟩

theorem exists_mem_of_forall₂ {y : β} (h : List.Forall₂ R xs ys) (hy : y ∈ ys) : ∃ x ∈ xs, R x y := by
  induction h
  case nil => cases hy
  case cons x y' xs ys hr _ ih =>
    cases hy
    case head => exact ⟨x, List.mem_cons_self, hr⟩
    case tail hy =>
      have ⟨x', hx, hr⟩ := ih hy
      exact ⟨x', List.mem_cons_of_mem _ hx, hr⟩

theorem forall₂_of_range {R : Nat → β → Prop}
    (h : List.Forall₂ R (List.range xs.length) ys) :
    List.Forall₂ (fun x y => ∃ i, xs[i]? = some x ∧ R i y) xs ys := by
  have ⟨hl, hr⟩ := List.forall₂_iff_get.mp h
  rw [List.length_range] at hl
  refine List.forall₂_iff_get.mpr ⟨hl, ?_⟩
  intro i hi hi'
  exact ⟨i, by simp [hi], by simpa using hr i (by simpa using hi) hi'⟩

theorem exists_append_of_forall₂ (h : List.Forall₂ R (xs ++ xs') ys) :
    ∃ zs zs', ys = zs ++ zs' ∧ List.Forall₂ R xs zs ∧ List.Forall₂ R xs' zs' := by
  induction xs generalizing ys
  case nil => exact ⟨[], ys, rfl, .nil, h⟩
  case cons x xs ih =>
    cases h
    case cons y ys hr h =>
      have ⟨zs, zs', he, hz, hz'⟩ := ih h
      exact ⟨y :: zs, zs', by rw [he, List.cons_append], .cons hr hz, hz'⟩

-- Searching two related lists alike finds nothing in both, or two related elements.
theorem find?_of_forall₂ {p : α → Bool} {q : β → Bool} (h : List.Forall₂ R xs ys)
    (hp : ∀ x y, R x y → p x = q y) : Option.Rel R (xs.find? p) (ys.find? q) := by
  induction h
  case nil => exact .none
  case cons x y xs ys hr _ ih =>
    have same := hp x y hr
    cases hx : p x
    case false => simpa [hx, ← same] using ih
    case true  => simpa [hx, ← same] using hr

theorem forall₂_filterMap (f : α → Option β) (xs : List α) :
    List.Forall₂ (fun x y => f x = some y) (xs.filter fun x => (f x).isSome) (xs.filterMap f) := by
  induction xs
  case nil => exact .nil
  case cons x xs ih =>
    cases hx : f x
    case none   => simpa [hx] using ih
    case some y => simpa [hx] using ih

theorem eq_filterMap_of_forall₂ {f : α → Option β} (h : List.Forall₂ (fun x y => f x = some y) xs ys) :
    ys = xs.filterMap f := by
  induction h
  case nil => rfl
  case cons x y xs ys hy _ ih => rw [List.filterMap_cons_some hy, ih]

theorem flatMap_eq_of_forall₂ {γ : Type} {f : α → List γ} {g : β → List γ} (h : List.Forall₂ R xs ys)
    (hr : ∀ x y, R x y → f x = g y) : xs.flatMap f = ys.flatMap g := by
  induction h
  case nil => rfl
  case cons x y xs ys h _ ih => rw [List.flatMap_cons, List.flatMap_cons, hr x y h, ih]

-- Where `f` finds each thing once, it finds it in one element.
theorem eq_of_nodup_filterMap {f : α → Option β} {x x' : α} {y : β} (h : (xs.filterMap f).Nodup)
    (hx : x ∈ xs) (hx' : x' ∈ xs) (hy : f x = some y) (hy' : f x' = some y) : x = x' := by
  by_contra hne
  have apart := List.pairwise_filterMap.mp h
  have : Std.Symm fun x x' => ∀ y, f x = some y → ∀ y', f x' = some y' → y ≠ y' :=
    ⟨fun _ _ h y hy y' hy' => (h y' hy' y hy).symm⟩
  exact apart.forall hx hx' hne y hy y hy' rfl

-- Choosing places is choosing what stands there.
theorem filterMap_getElem?_filter_range {p : Nat → Bool} {q : α → Bool}
    (h : ∀ i x, xs[i]? = some x → p i = q x) :
    ((List.range xs.length).filter p).filterMap (xs[·]?) = xs.filter q := by
  induction xs generalizing p
  case nil => rfl
  case cons x xs ih =>
    have hx : p 0 = q x := h 0 x rfl
    have hi := ih (p := fun i => p (i + 1)) fun i y hy => h (i + 1) y hy
    cases hq : q x <;>
      simpa [List.range_succ_eq_map, List.filter_cons, List.filter_map, List.filterMap_map,
        Function.comp_def, hx, hq] using hi

end EnvMerge
