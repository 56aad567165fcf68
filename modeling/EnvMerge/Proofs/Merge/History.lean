import EnvMerge.Proofs.Merge.Extension
import Mathlib.Algebra.Order.Ring.Nat

namespace EnvMerge

theorem Decision.Kind.name_injective : Function.Injective name := by
  intro k k' h
  cases k <;> cases k' <;> first | rfl | cases h

namespace Draft

variable {t d : Document} {r r' : Draft} {added : List Contribution}
variable {kind k : Decision.Kind} {kinds : List Decision.Kind} {counts : List (Decision.Kind × Nat)}

-- What can be added to a draft.
inductive Addition
  | template (index : Int) (kind : Decision.Kind)
  | destination (index : Int) (kind : Decision.Kind)
  | block (b : Block)
  | lines (ls : List Text) (kind : Decision.Kind)

namespace Addition

def apply (t d : Document) (r : Draft) : Addition → Draft
  | template index kind    => r.addTemplate t index kind
  | destination index kind => r.addDestination d index kind
  | block b                => r.addBlock b
  | lines ls kind          => r.addLines ls kind

-- Only statements are added by number, so all else is in range.
def InRange (t d : Document) : Addition → Prop
  | template index _    => 0 ≤ index ∧ index < t.statements.length
  | destination index _ => 0 ≤ index ∧ index < d.statements.length
  | block _             => True
  | lines _ _           => True

-- The contribution that an addition brings: the statement, the block or the lines that it names.
inductive Brings (t d : Document) : Addition → Contribution → Prop
  | template {n : Nat} {s : Statement} {kind : Decision.Kind} (there : t.statements[n]? = some s) :
      Brings t d (.template n kind) (.ofStatement kind .template n s)
  | destination {n : Nat} {s : Statement} {kind : Decision.Kind} (there : d.statements[n]? = some s) :
      Brings t d (.destination n kind) (.ofStatement kind .destination n s)
  | block (b : Block) : Brings t d (.block b) (.ofBlock b)
  | lines (ls : List Text) (kind : Decision.Kind) : Brings t d (.lines ls kind) (.ofLines kind ls)

end Addition

-- The draft after the given additions.
def after (t d : Document) (as : List Addition) : Draft :=
  as.foldl (Addition.apply t d) empty

namespace Extends

theorem add (c : Contribution) : Extends [c] r (r.add c) :=
  ⟨by simp [Draft.add], by simp [Draft.add]⟩

theorem sum_lines_eq (h : Extends added r r')
    (balanced : (r.decisions.map (·.lines)).sum = r.lines.length) :
    (r'.decisions.map (·.lines)).sum = r'.lines.length := by
  have shares : (added.map (·.decision)).map (·.lines) = added.map (·.lines.length) := by
    simp [Contribution.decision]
  rw [h.decisions, h.lines, List.map_append, List.sum_append, List.length_append, balanced, shares,
    List.length_flatMap]

end Extends

theorem exists_statement_of_inRange {i : Int} (h : 0 ≤ i ∧ i < d.statements.length) :
    ∃ (n : Nat) (s : Statement), (n : Int) = i ∧ d.statements[n]? = some s := by
  have ⟨n, hn⟩ := Int.eq_ofNat_of_zero_le h.1
  have lt : n < d.statements.length := by omega
  exact ⟨n, _, hn.symm, List.getElem?_eq_getElem lt⟩

theorem addStatement_eq_self {i : Int} (h : ¬(0 ≤ i ∧ i < d.statements.length)) (r : Draft) (source : Side)
    (kind : Decision.Kind) : r.addStatement source d i kind = r := by
  have nothing : d.statement? i = none := by
    rw [Document.statement?, ite_eq_right_iff]
    exact fun nonneg => List.getElem?_eq_none (by omega)
  rw [addStatement, nothing]

namespace Addition

variable {a : Addition} {c : Contribution}

theorem exists_brings (h : a.InRange t d) : ∃ c, a.Brings t d c := by
  cases a
  case template index kind =>
    obtain ⟨n, s, rfl, there⟩ := exists_statement_of_inRange h
    exact ⟨_, .template there⟩
  case destination index kind =>
    obtain ⟨n, s, rfl, there⟩ := exists_statement_of_inRange h
    exact ⟨_, .destination there⟩
  case block b       => exact ⟨_, .block b⟩
  case lines ls kind => exact ⟨_, .lines ls kind⟩

theorem Brings.apply_eq (h : a.Brings t d c) (r : Draft) : a.apply t d r = r.add c := by
  cases h
  case template there    => rw [apply, addTemplate, addStatement_natCast, there, Option.elim_some]
  case destination there => rw [apply, addDestination, addStatement_natCast, there, Option.elim_some]
  case block b           => rfl
  case lines ls kind     => rfl

theorem apply_eq_self (h : ¬a.InRange t d) (r : Draft) : a.apply t d r = r := by
  cases a
  case template index kind    => exact addStatement_eq_self h r .template kind
  case destination index kind => exact addStatement_eq_self h r .destination kind
  case block b                => exact absurd trivial h
  case lines ls kind          => exact absurd trivial h

end Addition

theorem after_concat (as : List Addition) (a : Addition) :
    after t d (as ++ [a]) = a.apply t d (after t d as) := by
  simp [after]

theorem sum_lines_after (t d : Document) (as : List Addition) :
    ((after t d as).decisions.map (·.lines)).sum = (after t d as).lines.length := by
  induction as using List.reverseRecOn
  case nil => rfl
  case append_singleton as a ih =>
    rw [after_concat]
    by_cases h : a.InRange t d
    case pos =>
      have ⟨c, brings⟩ := Addition.exists_brings h
      rw [brings.apply_eq]
      exact (Extends.add c).sum_lines_eq ih
    case neg => rwa [Addition.apply_eq_self h]

-- Contributions that additions bring make up a draft that additions lead to.
theorem exists_ofContributions_eq_after {cs : List Contribution}
    (h : ∀ c ∈ cs, ∃ a, Addition.Brings t d a c) : ∃ as, ofContributions cs = after t d as := by
  induction cs using List.reverseRecOn
  case nil => exact ⟨[], rfl⟩
  case append_singleton cs c ih =>
    have ⟨as, before⟩ := ih fun c hc => h c (List.mem_append_left _ hc)
    have ⟨a, brings⟩ := h c (List.mem_append_right _ (List.mem_singleton_self c))
    refine ⟨as ++ [a], ?_⟩
    rw [after_concat, brings.apply_eq, ← before, add_ofContributions]

-- Whether counts tell how often each kind occurs, in the order of first use.
structure Tallies (kinds : List Decision.Kind) (counts : List (Decision.Kind × Nat)) : Prop where
  mem_iff  : ∀ k, k ∈ counts.map (·.1) ↔ k ∈ kinds
  ordered  : (counts.map (·.1)).Pairwise fun k k' => kinds.idxOf k < kinds.idxOf k'
  count_eq : ∀ k n, (k, n) ∈ counts → n = kinds.count k
  sum_eq   : (counts.map (·.2)).sum = kinds.length

namespace Summary

theorem map_fst_count (counts : List (Decision.Kind × Nat)) (k : Decision.Kind) :
    (count counts k).map (·.1) =
      if k ∈ counts.map (·.1) then counts.map (·.1) else counts.map (·.1) ++ [k] := by
  induction counts
  case nil => rfl
  case cons e rest ih =>
    have ⟨k', n⟩ := e
    by_cases he : k' = k
    case pos => simp [count, he]
    case neg =>
      by_cases hm : k ∈ rest.map (·.1)
      case pos => simp_all [count]
      case neg => simp_all [count, Ne.symm he]

theorem sum_map_snd_count (counts : List (Decision.Kind × Nat)) (k : Decision.Kind) :
    ((count counts k).map (·.2)).sum = (counts.map (·.2)).sum + 1 := by
  induction counts
  case nil => rfl
  case cons e rest ih =>
    have ⟨k', n⟩ := e
    by_cases he : k' = k
    case pos => simp [count, he]; omega
    case neg => simp [count, he, ih]; omega

-- Where each kind is listed once, counting raises the count of one kind by one.
theorem mem_count (h : (counts.map (·.1)).Nodup) {n : Nat} (hm : (k, n) ∈ count counts kind) :
    (k ≠ kind ∧ (k, n) ∈ counts) ∨ (k = kind ∧ k ∉ counts.map (·.1) ∧ n = 1) ∨
      k = kind ∧ ∃ m, (k, m) ∈ counts ∧ n = m + 1 := by
  induction counts
  case nil => simp_all [count]
  case cons e rest ih =>
    have ⟨k', m⟩ := e
    rw [List.map_cons, List.nodup_cons] at h
    by_cases he : k' = kind
    case pos =>
      rw [count, if_pos he, List.mem_cons] at hm
      cases hm
      case inl hm =>
        cases hm
        exact .inr (.inr ⟨he, m, List.mem_cons_self, rfl⟩)
      case inr hm =>
        have later : k ∈ rest.map (·.1) := List.mem_map_of_mem hm
        exact .inl ⟨fun hk => h.1 (he.trans hk.symm ▸ later), List.mem_cons_of_mem _ hm⟩
    case neg =>
      rw [count, if_neg he, List.mem_cons] at hm
      cases hm
      case inl hm =>
        cases hm
        exact .inl ⟨he, List.mem_cons_self⟩
      case inr hm =>
        rcases ih h.2 hm with ⟨hk, hm⟩ | ⟨hk, new, hn⟩ | ⟨hk, m', hm', hn⟩
        case inl         => exact .inl ⟨hk, List.mem_cons_of_mem _ hm⟩
        case inr.inl     =>
          refine .inr (.inl ⟨hk, ?_, hn⟩)
          simp only [List.map_cons, List.mem_cons, not_or]
          exact ⟨fun same => he (same.symm.trans hk), new⟩
        case inr.inr     => exact .inr (.inr ⟨hk, m', List.mem_cons_of_mem _ hm', hn⟩)

end Summary

namespace Tallies

theorem nodup (h : Tallies kinds counts) : (counts.map (·.1)).Nodup :=
  h.ordered.imp fun hlt he => by simp [he] at hlt

theorem pos (h : Tallies kinds counts) {n : Nat} (hm : (k, n) ∈ counts) : 0 < n := by
  have used : k ∈ kinds := (h.mem_iff k).mp (List.mem_map_of_mem hm)
  rw [h.count_eq k n hm]
  exact List.count_pos_iff.mpr used

-- One more kind at the end, counted.
theorem count (h : Tallies kinds counts) (kind : Decision.Kind) :
    Tallies (kinds ++ [kind]) (Summary.count counts kind) := by
  have places {k k'} (hk : k ∈ kinds) (hk' : k' ∈ kinds) (hlt : kinds.idxOf k < kinds.idxOf k') :
      (kinds ++ [kind]).idxOf k < (kinds ++ [kind]).idxOf k' := by
    rwa [List.idxOf_append_of_mem hk, List.idxOf_append_of_mem hk']
  have kept : (counts.map (·.1)).Pairwise fun k k' =>
      (kinds ++ [kind]).idxOf k < (kinds ++ [kind]).idxOf k' :=
    h.ordered.imp_of_mem fun hk hk' => places ((h.mem_iff _).mp hk) ((h.mem_iff _).mp hk')
  refine ⟨fun k => ?mem_iff, ?ordered, fun k n hm => ?count_eq, ?sum_eq⟩
  case mem_iff =>
    rw [Summary.map_fst_count]
    split
    case isTrue hk  =>
      rw [h.mem_iff, List.mem_append, List.mem_singleton]
      exact ⟨.inl, fun hm => hm.elim id fun he => he ▸ (h.mem_iff kind).mp hk⟩
    case isFalse hk => simp only [List.mem_append, h.mem_iff]
  case ordered =>
    rw [Summary.map_fst_count]
    split
    case isTrue  => exact kept
    case isFalse hk =>
      refine List.pairwise_append.mpr ⟨kept, List.pairwise_singleton _ _, fun k hm k' hm' => ?_⟩
      have new : kind ∉ kinds := mt (h.mem_iff kind).mpr hk
      have old : k ∈ kinds := (h.mem_iff k).mp hm
      rw [List.mem_singleton.mp hm', List.idxOf_append_of_mem old, List.idxOf_append_of_notMem new]
      exact Nat.lt_add_right _ (List.idxOf_lt_length_iff.mpr old)
  case count_eq =>
    rcases Summary.mem_count h.nodup hm with ⟨hk, hm⟩ | ⟨hk, new, hn⟩ | ⟨hk, m, hm, hn⟩
    case inl     => simp [h.count_eq k n hm, List.count_append, Ne.symm hk]
    case inr.inl =>
      have unused : k ∉ kinds := mt (h.mem_iff k).mpr new
      simp [List.count_append, ← hk, List.count_eq_zero_of_not_mem unused, hn]
    case inr.inr => simp [List.count_append, ← hk, hn, h.count_eq k m hm]
  case sum_eq =>
    rw [Summary.sum_map_snd_count, h.sum_eq, List.length_append, List.length_singleton]

theorem foldl_count (kinds : List Decision.Kind) : Tallies kinds (kinds.foldl Summary.count []) := by
  induction kinds using List.reverseRecOn
  case nil                            => exact ⟨by simp, .nil, by simp, rfl⟩
  case append_singleton kinds kind ih =>
    rw [List.foldl_append]
    exact ih.count kind

end Tallies

-- What a summary says of a draft.
structure Summarizes (r : Draft) (s : Summary) : Prop where
  decisions : s.decisions = r.decisions.length
  lines     : s.lines = r.lines.length
  byKind    : Tallies (r.decisions.map (·.kind)) s.byKind
  distinct  : (s.byKind.map (·.1.name)).Nodup
  positive  : ∀ e ∈ s.byKind, 0 < e.2
  total     : (s.byKind.map (·.2)).sum = s.decisions

theorem summarizes_summary (r : Draft) : Summarizes r r.summary := by
  have byKind : Tallies (r.decisions.map (·.kind)) r.summary.byKind := .foldl_count _
  have distinct := byKind.nodup.map Decision.Kind.name_injective
  rw [List.map_map] at distinct
  exact ⟨rfl, rfl, byKind, distinct, fun _ => byKind.pos, byKind.sum_eq.trans (List.length_map _)⟩

-- After any additions the decisions account for all lines, and so does the summary. One more addition
-- puts what it brings behind all that is there, with one decision, or nothing if its number is out of range.
theorem accounts_after (t d : Document) (as : List Addition) :
    ((after t d as).decisions.map (·.lines)).sum = (after t d as).lines.length ∧
    Summarizes (after t d as) (after t d as).summary ∧
    ∀ a, (a.InRange t d → ∃ c, a.Brings t d c ∧ Extends [c] (after t d as) (after t d (as ++ [a]))) ∧
      (¬a.InRange t d → after t d (as ++ [a]) = after t d as) := by
  refine ⟨sum_lines_after t d as, summarizes_summary _, fun a => ?_⟩
  rw [after_concat]
  refine ⟨fun inRange => ?brought, fun outside => Addition.apply_eq_self outside _⟩
  case brought =>
    have ⟨c, brings⟩ := Addition.exists_brings inRange
    exact ⟨c, brings, brings.apply_eq _ ▸ .add c⟩

end Draft

namespace Merge

variable {o : Options} {template destination : Document} {ts ds : List (Option Signature)} {r : Draft}

theorem Resolves.exists_brings {k : Nat} {c : Contribution} (h : Resolves o template destination ts ds k c) :
    ∃ a, Draft.Addition.Brings template destination a c := by
  cases h
  case frozen b here           => exact ⟨_, .block b⟩
  case alone here _            => exact ⟨_, .destination here⟩
  case template there _        => exact ⟨_, .template there⟩
  case destination here _ _ _  => exact ⟨_, .destination here⟩

-- A merge builds its draft by additions alone.
theorem exists_eq_after (h : merge o template destination = .ok r) :
    ∃ as, r = Draft.after template destination as := by
  have ⟨ts, ds, kept, trail⟩ := merge_eq_ok_iff.mp h
  rw [trail.drafted]
  refine Draft.exists_ofContributions_eq_after fun c hc => ?_
  cases List.mem_append.mp hc
  case inl hc =>
    have ⟨_, _, resolves⟩ := exists_mem_of_forall₂ trail.resolved hc
    exact resolves.exists_brings
  case inr hc =>
    have ⟨_, _, _, there, _, _, he⟩ := mem_additions.mp hc
    exact ⟨_, by rw [he]; exact .template there⟩

end Merge
end EnvMerge
