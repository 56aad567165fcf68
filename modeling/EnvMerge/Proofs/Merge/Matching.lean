import EnvMerge.Proofs.Document.Identity
import EnvMerge.Proofs.Merge.Resolution

namespace EnvMerge

namespace Merge

open Pairing Document

variable {o : Options} {template : Source} {t d : Document} {r : Draft}
variable {ts ds : List (Option Signature)} {kept : List Contribution} {s s' : Statement}
variable {n n' : Nat} {x : Signature}

theorem signatures_builtIn (d : Document) : signatures .builtIn d = .ok d.marks := by
  rw [signatures, mapM_eq_ok_iff, marks, List.forall₂_map_right_iff, List.forall₂_same]
  exact fun s _ => Signature.ofStatement_builtIn s

theorem Trail.eq_marks (h : Trail o t d r ts ds kept) (hg : o.generator = none) :
    ts = t.marks ∧ ds = d.marks := by
  have ht := h.templateSigned
  have hd := h.destinationSigned
  rw [Options.signer, hg, Signer.ofRule?, signatures_builtIn] at ht hd
  cases ht
  cases hd
  exact ⟨rfl, rfl⟩

-- Whether a statement of the template is paired with one of the destination.
def isMatched (t d : Document) (s : Statement) : Bool :=
  s.identity?.any fun i => t.first? i = some s && (d.first? i).isSome

-- What a merge adds if additions are wanted.
def unmatched (t d : Document) : List Statement :=
  t.statements.filter fun s => isAddable s && !isMatched t d s

theorem isMatched_iff :
    isMatched t d s ↔ ∃ i, t.first? i = some s ∧ ∃ s', d.first? i = some s' := by
  simp only [isMatched, Option.any_eq_true, Bool.and_eq_true, decide_eq_true_eq,
    Option.isSome_iff_exists]
  constructor
  case mp  => exact fun ⟨i, _, ht, hd⟩ => ⟨i, ht, hd⟩
  case mpr => exact fun ⟨i, ht, hd⟩ => ⟨i, identity?_of_first? ht, ht, hd⟩

theorem exists_partners_iff (ht : ofSource o.token template = .ok t) (hs : t.statements[n]? = some s) :
    (∃ n' x, Partners t.marks d.marks n n' x) ↔ isMatched t d s := by
  simp only [partners_marks_iff, isMatched_iff, ← Option.isSome_iff_exists, ← isSome_place?,
    ← place?_eq_some_iff ht hs]
  constructor
  case mp  => exact fun ⟨n', _, i, _, hi, hd⟩ => ⟨i, hi, Option.isSome_of_eq_some hd⟩
  case mpr =>
    intro ⟨i, hi, hd⟩
    have ⟨n', hn⟩ := Option.isSome_iff_exists.mp hd
    exact ⟨n', _, i, rfl, hi, hn⟩

theorem filterMap_alone (ht : ofSource o.token template = .ok t) :
    (alone t.marks d.marks).filterMap (t.statements[·]?)
      = t.statements.filter fun s => !isMatched t d s := by
  rw [alone, marks, List.length_map]
  refine filterMap_getElem?_filter_range fun n s hs => ?_
  rw [Bool.eq_iff_iff, Bool.not_eq_true', ← Bool.not_eq_true, ← exists_partners_iff ht hs]
  simp [partner?_eq_none_iff, marks]

-- What is read off the contributions that are added is read off the unmatched statements.
theorem filterMap_additions {β : Type} {f : Contribution → Option β} {g : Statement → β}
    (ht : ofSource o.token template = .ok t)
    (h : ∀ n s, t.statements[n]? = some s → f (.ofStatement .added .template n s) = some (g s)) :
    (additions o t t.marks d.marks).filterMap f = if o.append then (unmatched t d).map g else [] := by
  let read (s : Statement) := if o.append && isAddable s then some (g s) else none
  have each (n : Nat) : (ofTemplate o t n).bind f = (t.statements[n]?).bind read := by
    cases hs : t.statements[n]?
    case none   => simp [ofTemplate, hs]
    case some s =>
      cases ha : o.append <;> cases hi : isAddable s <;> simp [ofTemplate, read, hs, ha, hi, h n s hs]
  calc (additions o t t.marks d.marks).filterMap f
    _ = ((alone t.marks d.marks).filterMap (t.statements[·]?)).filterMap read := by
      simp [additions, List.filterMap_filterMap, each]
    _ = (t.statements.filter fun s => !isMatched t d s).filterMap read := by
      rw [filterMap_alone ht]
    _ = if o.append then (unmatched t d).map g else [] := by
      cases ha : o.append
      case false => simp [read, ha]
      case true  =>
        simp only [read, ha, unmatched, ← List.filter_filter, Bool.true_and, if_true]
        rw [← List.filterMap_eq_map, List.filterMap_filter (p := isAddable)]
        rfl

end Merge
end EnvMerge
