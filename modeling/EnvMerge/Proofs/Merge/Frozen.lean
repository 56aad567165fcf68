import EnvMerge.Proofs.Document.Layout
import EnvMerge.Proofs.Draft
import EnvMerge.Proofs.Merge.Run
import EnvMerge.Rules

namespace EnvMerge

variable {α : Type} {run xs ys : List α} {runs : List (List α)}

-- Whether the runs stand in a list one after the other and each in one piece.
def Interleaved : List (List α) → List α → Prop
  | [], _           => True
  | run :: runs, xs => ∃ before after, xs = before ++ (run ++ after) ∧ Interleaved runs after

namespace Interleaved

theorem append_left (h : Interleaved runs xs) : Interleaved runs (ys ++ xs) := by
  cases runs
  case nil => trivial
  case cons run runs =>
    have ⟨before, after, he, hr⟩ := h
    exact ⟨ys ++ before, after, by rw [he, List.append_assoc], hr⟩

theorem append_right (h : Interleaved runs xs) : Interleaved runs (xs ++ ys) := by
  induction runs generalizing xs
  case nil => trivial
  case cons run runs ih =>
    have ⟨before, after, he, hr⟩ := h
    exact ⟨before, after ++ ys, by simp [he], ih hr⟩

theorem cons (h : Interleaved runs xs) : Interleaved (run :: runs) (run ++ xs) :=
  ⟨[], xs, rfl, h⟩

-- What no run ends with may be taken off the end.
theorem of_concat {x : α} (h : Interleaved runs (xs ++ [x]))
    (hr : ∀ run ∈ runs, ∃ inner last, run = inner ++ [last] ∧ last ≠ x) : Interleaved runs xs := by
  induction runs generalizing xs
  case nil => trivial
  case cons run runs ih =>
    have ⟨before, after, he, hi⟩ := h
    have ⟨inner, last, hl, hx⟩ := hr run List.mem_cons_self
    cases List.eq_nil_or_concat after
    case inl ha =>
      rw [hl, ha, List.append_nil, ← List.append_assoc] at he
      have := (List.append_singleton_inj.mp he).2
      exact absurd this.symm hx
    case inr ha =>
      have ⟨after', x', ha⟩ := ha
      rw [ha, List.concat_eq_append, ← List.append_assoc, ← List.append_assoc] at he
      have ⟨he, hx'⟩ := List.append_singleton_inj.mp he
      refine ⟨before, after', by rw [he, List.append_assoc], ih ?_ fun r hm => hr r ?_⟩
      case refine_1 => rwa [ha, List.concat_eq_append, ← hx'] at hi
      case refine_2 => exact List.mem_cons_of_mem _ hm

theorem of_append_replicate {x : α} {n : Nat} (h : Interleaved runs (xs ++ .replicate n x))
    (hr : ∀ run ∈ runs, ∃ inner last, run = inner ++ [last] ∧ last ≠ x) : Interleaved runs xs := by
  induction n
  case zero => simpa using h
  case succ n ih =>
    rw [List.replicate_succ', ← List.append_assoc] at h
    exact ih (h.of_concat hr)

end Interleaved

namespace Merge

open Pairing

variable {o : Options} {template destination : Source} {t d : Document} {r : Draft}

section Trail

variable {ts ds : List (Option Signature)} {kept : List Contribution} {ss : List Statement}

-- Statement by statement: a block puts out its own lines, any other statement may put out anything.
theorem interleaved_of_forall₂
    (h : List.Forall₂ (fun s c => ∃ i, d.statements[i]? = some s ∧ Resolves o t d ts ds i c) ss kept) :
    Interleaved ((ss.filterMap (·.block?)).map (·.rawLines)) (kept.flatMap (·.lines)) := by
  induction h
  case nil => trivial
  case cons s c ss kept hc _ ih =>
    have ⟨i, hs, resolves⟩ := hc
    cases s
    case line l   => exact ih.append_left
    case frozen b =>
      rw [resolves.of_frozen hs]
      exact ih.cons

theorem frozen_decisions_of_forall₂
    (h : List.Forall₂ (fun s c => ∃ i, d.statements[i]? = some s ∧ Resolves o t d ts ds i c) ss kept) :
    (kept.map (·.decision)).filter (·.kind = .frozen)
      = (ss.filterMap (·.block?)).map fun b => (Contribution.ofBlock b).decision := by
  induction h
  case nil => rfl
  case cons s c ss kept hc _ ih =>
    have ⟨i, hs, resolves⟩ := hc
    cases s
    case line l =>
      have : c.decision.kind ≠ .frozen := resolves.kind_ne_frozen hs
      simpa [Statement.block?, this] using ih
    case frozen b =>
      rw [resolves.of_frozen hs]
      simpa [Statement.block?, Contribution.decision, Contribution.ofBlock] using ih

theorem Trail.interleaved (h : Trail o t d r ts ds kept) :
    Interleaved (d.blocks.map (·.rawLines)) r.lines := by
  rw [h.lines_eq]
  exact (interleaved_of_forall₂ h.forall₂_statements).append_right

theorem Trail.frozen_decisions (h : Trail o t d r ts ds kept) :
    r.decisions.filter (·.kind = .frozen)
      = d.blocks.map fun b => ⟨.frozen, some .destination, b.lines.length, none, some b.span⟩ := by
  have added : ((additions o t ts ds).map (·.decision)).filter (·.kind = .frozen) = [] := by
    refine List.filter_eq_nil_iff.mpr fun x hx => ?_
    have ⟨c, hc, he⟩ := List.mem_map.mp hx
    have ⟨_, _, _, _, _, _, hs⟩ := mem_additions.mp hc
    simp [← he, hs, Contribution.decision, Contribution.ofStatement]
  rw [h.decisions_eq, List.filter_append, added, List.append_nil,
    frozen_decisions_of_forall₂ h.forall₂_statements]
  simp [Document.blocks, Contribution.decision, Contribution.ofBlock, Block.rawLines]

end Trail

-- The invariant of freezing: each block of the destination is in the merged text, and one decision
-- records it.
theorem exists_interleaved_blocks (h : o.Answers) (ht : Document.ofSource o.token template = .ok t)
    (hd : Document.ofSource o.token destination = .ok d) :
    ∃ r, Yields o template destination r ∧
      Interleaved (d.blocks.map (·.rawLines)) (r.text.splitOn '\n') ∧
      r.decisions.filter (·.kind = .frozen)
        = d.blocks.map fun b => ⟨.frozen, some .destination, b.lines.length, none, some b.span⟩ := by
  have ⟨r, hr⟩ := exists_merge h t d
  have ⟨ts, ds, kept, trail⟩ := merge_eq_ok_iff.mp hr
  have oneLine := not_mem_lines ht hd hr
  have ⟨shown, shows⟩ := Draft.exists_shows oneLine
  have ⟨n, hl⟩ := shows.lines_eq
  refine ⟨r, (yields_iff ht hd).mpr hr, ?_, trail.frozen_decisions⟩
  rw [shows.splitOn_text oneLine]
  apply Interleaved.append_right
  apply Interleaved.of_append_replicate (hl ▸ trail.interleaved)
  intro run hm
  have ⟨b, hb, he⟩ := List.mem_map.mp hm
  exact he ▸ Document.exists_rawLines_eq_append (Document.framed_of_mem_blocks hd hb)

-- Options under which a block can be paired with an assignment, and the template can win the pair.
def blockwise : Options where
  preference  := .byTag [("assignment".toList, .template)]
  append      := true
  token       := Document.defaultToken
  generator   := some Rules.firstInBlock
  classifiers := [Rules.kind]

theorem blockwise_answers : blockwise.Answers :=
  Options.answers_of_rules (fun _ hr => Option.mem_some.mp hr ▸ .tagging .firstInBlock)
    (List.forall_mem_singleton.mpr .kind)

def oneBlock : Text :=
  "# dotenv-merge:freeze\nA=2\n# dotenv-merge:unfreeze\nB=3\n".toList

theorem exists_interleaved_block_paired_with_assignment :
    ∃ r, Yields blockwise (.text "A=1\n".toList) (.text oneBlock) r ∧
      Interleaved [["# dotenv-merge:freeze".toList, "A=2".toList, "# dotenv-merge:unfreeze".toList]]
        (r.text.splitOn '\n') ∧
      r.decisions.filter (·.kind = .frozen) = [⟨.frozen, some .destination, 3, none, some ⟨1, 3⟩⟩] := by
  have lines : (Document.ofText blockwise.token oneBlock).blocks.map (·.rawLines)
      = [["# dotenv-merge:freeze".toList, "A=2".toList, "# dotenv-merge:unfreeze".toList]] := by
    decide +kernel
  have ⟨r, hy, hi, hd⟩ : ∃ r, Yields blockwise (.text "A=1\n".toList) (.text oneBlock) r ∧ _ :=
    exists_interleaved_blocks blockwise_answers rfl rfl
  refine ⟨r, hy, lines ▸ hi, hd.trans ?_⟩
  decide +kernel

end Merge
end EnvMerge
