import EnvMerge.Proofs.Document.Span
import EnvMerge.Proofs.Merge.Frozen

namespace EnvMerge

open Pairing

variable {o : Options} {template destination : Source} {t d : Document} {r : Draft}
variable {entries : List Entry} {n k : Nat} {x : Decision} {c : Contribution}

def Side.pick {α : Type} (side : Side) (template destination : α) : α :=
  match side with
  | .template    => template
  | .destination => destination

namespace Decision

-- The lines that a decision points to, in the document that it names.
def cited (t d : Document) (x : Decision) : List Text :=
  match x.source, x.span with
  | some side, some span => ((side.pick t d).excerpt span).map (·.raw)
  | _, _                 => []

-- What is decided about the destination's statement in place `k`.
inductive Settles (t d : Document) (entries : List Entry) (k : Nat) : Decision → Prop
  | frozen {b : Block} (here : d.statements[k]? = some (.frozen b)) :
      Settles t d entries k ⟨.frozen, some .destination, b.lines.length, none, some b.span⟩
  | destination {l : Line} (here : d.statements[k]? = some (.line l)) :
      Settles t d entries k ⟨.fromDestination, some .destination, 1, some k, some l.span⟩
  | template {l : Line} {n : Nat} {y : Signature} {s : Statement}
      (here : d.statements[k]? = some (.line l)) (matched : .matched n k y ∈ entries)
      (there : t.statements[n]? = some s) :
      Settles t d entries k ⟨.fromTemplate, some .template, s.lines.length, some n, some s.span⟩

-- The decision to add the template's statement in place `n`.
inductive Adds (t : Document) (n : Nat) : Decision → Prop
  | intro {s : Statement} (there : t.statements[n]? = some s) :
      Adds t n ⟨.added, some .template, s.lines.length, some n, some s.span⟩

end Decision

namespace Draft

structure Accounted (append : Bool) (t d : Document) (entries : List Entry) (r : Draft) : Prop where
  ordered   : ∃ (kept added : List Decision) (places : List Nat), r.decisions = kept ++ added ∧
    List.Forall₂ (Decision.Settles t d entries) (List.range d.statements.length) kept ∧
    List.Forall₂ (Decision.Adds t) places added ∧ places.Pairwise (· < ·) ∧
    (append = false → added = [])
  spanned   : ∀ x ∈ r.decisions, ∃ s, x.span = some s ∧ (x.lines : Int) = s.last - s.first + 1
  cited_eq  : r.decisions.flatMap (Decision.cited t d) = r.lines

end Draft

namespace Contribution

-- Whether a contribution is a statement of one of the documents, all its lines and its span.
def IsStatement (t d : Document) (c : Contribution) : Prop :=
  ∃ side s, s ∈ (Side.pick side t d).statements ∧ c.source = some side ∧ c.span = some s.span ∧
    c.lines = s.rawLines

namespace IsStatement

variable (ht : Document.ofSource o.token template = .ok t)
variable (hd : Document.ofSource o.token destination = .ok d)

include ht hd

theorem cited_decision (h : c.IsStatement t d) : c.decision.cited t d = c.lines := by
  have ⟨side, s, hs, source, span, lines⟩ := h
  rw [Decision.cited, decision, source, span, lines, s.rawLines_eq]
  cases side
  case template    => exact congrArg _ (Document.excerpt_span ht hs)
  case destination => exact congrArg _ (Document.excerpt_span hd hs)

theorem exists_span (h : c.IsStatement t d) :
    ∃ s, c.decision.span = some s ∧ (c.decision.lines : Int) = s.last - s.first + 1 := by
  have ⟨side, s, hs, _, span, lines⟩ := h
  refine ⟨s.span, span, ?_⟩
  rw [decision, lines, s.rawLines_eq, List.length_map]
  cases side
  case template    => exact Document.length_lines ht hs
  case destination => exact Document.length_lines hd hs

end IsStatement
end Contribution

namespace Merge

variable {ts ds : List (Option Signature)} {kept : List Contribution}

theorem Resolves.isStatement (h : Resolves o t d ts ds k c) : c.IsStatement t d := by
  cases h
  case frozen b here =>
    exact ⟨.destination, .frozen b, List.mem_of_getElem? here, rfl, rfl, rfl⟩
  case alone l here _ =>
    exact ⟨.destination, .line l, List.mem_of_getElem? here, rfl, rfl, rfl⟩
  case template l n y s here _ there _ =>
    exact ⟨.template, s, List.mem_of_getElem? there, rfl, rfl, rfl⟩
  case destination l n y s here _ _ _ =>
    exact ⟨.destination, .line l, List.mem_of_getElem? here, rfl, rfl, rfl⟩

theorem Resolves.settles (h : Resolves o t d ts ds k c) :
    Decision.Settles t d (arranged ts ds) k c.decision := by
  cases h
  case frozen b here =>
    simpa [Contribution.decision, Contribution.ofBlock, Block.rawLines] using .frozen here
  case alone l here _ => exact .destination here
  case template l n y s here partners there _ =>
    have matched : .matched n k y ∈ arranged ts ds := matched_mem_arranged_iff.mpr partners
    simpa [Contribution.decision, Contribution.ofStatement, Statement.rawLines_eq]
      using .template here matched there
  case destination l n y s here _ _ _ => exact .destination here

theorem isStatement_of_mem_additions (h : c ∈ additions o t ts ds) : c.IsStatement t d := by
  have ⟨n, _, s, hs, _, _, hc⟩ := mem_additions.mp h
  exact ⟨.template, s, List.mem_of_getElem? hs, by rw [hc]; rfl, by rw [hc]; rfl, by rw [hc]; rfl⟩

theorem adds_of_ofTemplate (h : ofTemplate o t n = some c) : Decision.Adds t n c.decision := by
  cases hs : t.statements[n]?
  case none   => simp [ofTemplate, hs] at h
  case some s =>
    simp only [ofTemplate, hs, Option.ite_none_right_eq_some, Option.some.injEq] at h
    rw [← h.2]
    simpa [Contribution.decision, Contribution.ofStatement, Statement.rawLines_eq] using .intro hs

theorem Trail.accounted (trail : Trail o t d r ts ds kept)
    (ht : Document.ofSource o.token template = .ok t)
    (hd : Document.ofSource o.token destination = .ok d) :
    r.Accounted o.append t d (arranged ts ds) := by
  have statements : ∀ c ∈ kept ++ additions o t ts ds, c.IsStatement t d := by
    intro c hc
    cases List.mem_append.mp hc
    case inl hc =>
      have ⟨_, _, resolves⟩ := exists_mem_of_forall₂ trail.resolved hc
      exact resolves.isStatement
    case inr hc => exact isStatement_of_mem_additions hc
  have decisions : r.decisions = (kept ++ additions o t ts ds).map (·.decision) := by
    rw [trail.drafted]
    rfl
  let places := (alone ts ds).filter fun n => (ofTemplate o t n).isSome
  refine ⟨⟨_, _, places, trail.decisions_eq, ?settled, ?added, ?sorted, ?none⟩, ?spanned, ?cited⟩
  case settled =>
    rw [List.forall₂_map_right_iff]
    exact trail.resolved.imp fun _ _ h => h.settles
  case added =>
    rw [List.forall₂_map_right_iff]
    have added := forall₂_filterMap (ofTemplate o t) (alone ts ds)
    exact added.imp fun _ _ h => adds_of_ofTemplate h
  case sorted => exact (List.pairwise_lt_range.filter _).filter _
  case none   => exact fun h => by rw [additions_eq_nil h, List.map_nil]
  case spanned =>
    intro x hx
    have ⟨c, hc, he⟩ := List.mem_map.mp (decisions ▸ hx)
    exact he ▸ (statements c hc).exists_span ht hd
  case cited =>
    rw [decisions, List.flatMap_map, trail.drafted, Draft.ofContributions]
    exact List.flatMap_congr fun c hc => (statements c hc).cited_decision ht hd

-- A run leaves a record that accounts for every line.
theorem exists_accounted (h : o.Answers) (ht : Document.ofSource o.token template = .ok t)
    (hd : Document.ofSource o.token destination = .ok d) :
    ∃ r entries, Yields o template destination r ∧
      Pairing.ofDocuments o.signer t d = .ok entries ∧ r.Accounted o.append t d entries := by
  have ⟨r, hr⟩ := exists_merge h t d
  have ⟨ts, ds, kept, trail⟩ := merge_eq_ok_iff.mp hr
  have paired := ofSigned_eq trail.templateSigned trail.destinationSigned
  exact ⟨r, arranged ts ds, (yields_iff ht hd).mpr hr, paired, trail.accounted ht hd⟩

def looseLines : Text :=
  "A=1\nC=1\n".toList

-- A block of the template wins over a single line of the destination.
theorem exists_accounted_of_block_over_line :
    ∃ r entries, Yields blockwise (.text oneBlock) (.text looseLines) r ∧
      Pairing.ofDocuments blockwise.signer (.ofText Document.defaultToken oneBlock)
        (.ofText Document.defaultToken looseLines) = .ok entries ∧
      r.Accounted true (.ofText Document.defaultToken oneBlock)
        (.ofText Document.defaultToken looseLines) entries ∧
      r.decisions =
        [⟨.fromTemplate, some .template, 3, some 0, some ⟨1, 3⟩⟩,
          ⟨.fromDestination, some .destination, 1, some 1, some ⟨2, 2⟩⟩,
          ⟨.added, some .template, 1, some 1, some ⟨4, 4⟩⟩] := by
  have template := Document.ofSource_text Document.defaultToken oneBlock
  have destination := Document.ofSource_text Document.defaultToken looseLines
  have ⟨r, entries, hy, paired, accounted⟩ :
      ∃ r entries, Yields blockwise (.text oneBlock) (.text looseLines) r ∧ _ :=
    exists_accounted blockwise_answers template destination
  exact ⟨r, entries, hy, paired, accounted, hy.eq_of_ordered template destination (by decide +kernel)⟩

end Merge
end EnvMerge
