import EnvMerge.Failure
import Mathlib.Data.List.Forall2

namespace EnvMerge

variable {α β : Type}

theorem bind_eq_ok_iff {x : Except Failure α} {f : α → Except Failure β} {y : β} :
    x >>= f = .ok y ↔ ∃ a, x = .ok a ∧ f a = .ok y := by
  cases x
  case error => simp [bind, Except.bind]
  case ok    => simp [bind, Except.bind]

theorem map_eq_ok_iff {x : Except Failure α} {f : α → β} {y : β} :
    x.map f = .ok y ↔ ∃ a, x = .ok a ∧ f a = y := by
  cases x
  case error => simp [Except.map]
  case ok    => simp [Except.map]

theorem mapM_eq_ok_iff {f : α → Except Failure β} {xs : List α} {ys : List β} :
    xs.mapM f = .ok ys ↔ List.Forall₂ (fun x y => f x = .ok y) xs ys := by
  induction xs generalizing ys
  case nil => simp [pure, Except.pure, eq_comm]
  case cons x xs ih =>
    simp only [List.mapM_cons, bind_eq_ok_iff, ih, List.forall₂_cons_left_iff]
    constructor
    case mp =>
      intro ⟨y, hy, ys', hys, h⟩
      cases h
      exact ⟨y, ys', hy, hys, rfl⟩
    case mpr =>
      intro ⟨y, ys', hy, hys, h⟩
      exact ⟨y, hy, ys', hys, h ▸ rfl⟩

theorem mapM_append_eq_ok_iff {f : α → Except Failure β} {xs xs' : List α} {ys : List β} :
    (xs ++ xs').mapM f = .ok ys ↔
      ∃ zs zs', xs.mapM f = .ok zs ∧ xs'.mapM f = .ok zs' ∧ ys = zs ++ zs' := by
  simp only [List.mapM_append, bind_eq_ok_iff]
  constructor
  case mp =>
    intro ⟨zs, hz, zs', hz', h⟩
    cases h
    exact ⟨zs, zs', hz, hz', rfl⟩
  case mpr =>
    intro ⟨zs, zs', hz, hz', h⟩
    exact ⟨zs, hz, zs', hz', h ▸ rfl⟩

end EnvMerge
