import EnvMerge.Proofs.Merge.Contributions
import EnvMerge.Proofs.Pairing.Exactness

namespace EnvMerge

namespace Merge

open Pairing

variable {o : Options} {template destination : Document} {ts ds : List (Option Signature)}
variable {t d : Nat} {l : Line} {b : Block} {s : Statement} {c : Contribution} {r : Draft}

-- What becomes of the destination's statement in place `d`, one case for each way it is settled.
inductive Resolves (o : Options) (template destination : Document) (ts ds : List (Option Signature))
    (d : Nat) : Contribution → Prop
  | frozen {b : Block} (here : destination.statements[d]? = some (.frozen b)) :
      Resolves o template destination ts ds d (.ofBlock b)
  | alone {l : Line} (here : destination.statements[d]? = some (.line l))
      (alone : ∀ t s, ¬Partners ts ds t d s) :
      Resolves o template destination ts ds d (.ofStatement .fromDestination .destination d (.line l))
  | template {l : Line} {t : Nat} {sig : Signature} {s : Statement}
      (here : destination.statements[d]? = some (.line l)) (partners : Partners ts ds t d sig)
      (there : template.statements[t]? = some s)
      (wins : o.preference.side o.classifiers (.statement s) (.statement (.line l)) = .ok .template) :
      Resolves o template destination ts ds d (.ofStatement .fromTemplate .template t s)
  | destination {l : Line} {t : Nat} {sig : Signature} {s : Statement}
      (here : destination.statements[d]? = some (.line l)) (partners : Partners ts ds t d sig)
      (there : template.statements[t]? = some s)
      (wins : o.preference.side o.classifiers (.statement s) (.statement (.line l)) = .ok .destination) :
      Resolves o template destination ts ds d (.ofStatement .fromDestination .destination d (.line l))

namespace Resolves

theorem of_frozen (h : Resolves o template destination ts ds d c)
    (hs : destination.statements[d]? = some (.frozen b)) : c = .ofBlock b := by
  cases h <;> simp_all

theorem kind_ne_frozen (h : Resolves o template destination ts ds d c)
    (hs : destination.statements[d]? = some (.line l)) : c.kind ≠ .frozen := by
  cases h
  case frozen b here => simp_all
  all_goals exact nofun

-- A contribution has the lines of a statement.
theorem exists_statement (h : Resolves o template destination ts ds d c) :
    ∃ s, (s ∈ template.statements ∨ s ∈ destination.statements) ∧ c.lines = s.rawLines := by
  cases h
  case frozen b here                     => exact ⟨_, .inr (List.mem_of_getElem? here), rfl⟩
  case alone l here _                    => exact ⟨_, .inr (List.mem_of_getElem? here), rfl⟩
  case template l t sig s here _ there _ => exact ⟨_, .inl (List.mem_of_getElem? there), rfl⟩
  case destination l t sig s here _ _ _  => exact ⟨_, .inr (List.mem_of_getElem? here), rfl⟩

end Resolves

theorem ofMatch_eq_ok_iff {x : Option Contribution} (ht : template.statements[t]? = some s)
    (hd : destination.statements[d]? = some (.line l)) :
    ofMatch o template destination t d = .ok x ↔
      ∃ side, o.preference.side o.classifiers (.statement s) (.statement (.line l)) = .ok side ∧
        x = some (match side with
          | .template    => .ofStatement .fromTemplate .template t s
          | .destination => .ofStatement .fromDestination .destination d (.line l)) := by
  simp only [ofMatch, ht, hd, bind_eq_ok_iff]
  constructor
  case mp =>
    rintro ⟨side, hs, h⟩
    cases side <;> cases h <;> exact ⟨_, hs, rfl⟩
  case mpr =>
    rintro ⟨side, hs, h⟩
    refine ⟨side, hs, ?_⟩
    cases side <;> cases h <;> rfl

theorem contribution_of_resolves (h : Resolves o template destination ts ds d c) :
    contribution o template destination (destinationEntry ts ds d) = .ok (some c) := by
  cases h
  case frozen b here =>
    by_cases hp : ∃ t s, Partners ts ds t d s
    case pos =>
      have ⟨t, s, hp⟩ := hp
      simp [destinationEntry_eq_matched hp, contribution, ofMatch, here]
    case neg =>
      simp only [not_exists] at hp
      simp [destinationEntry_eq_destinationOnly hp, contribution, keep, here]
  case alone l here alone =>
    simp [destinationEntry_eq_destinationOnly alone, contribution, keep, here]
  case template l t sig s here partners there wins =>
    rw [destinationEntry_eq_matched partners]
    exact (ofMatch_eq_ok_iff there here).mpr ⟨.template, wins, rfl⟩
  case destination l t sig s here partners there wins =>
    rw [destinationEntry_eq_matched partners]
    exact (ofMatch_eq_ok_iff there here).mpr ⟨.destination, wins, rfl⟩

theorem exists_resolves {x : Option Contribution} (ht : ts.length = template.statements.length)
    (hd : d < destination.statements.length)
    (h : contribution o template destination (destinationEntry ts ds d) = .ok x) :
    ∃ c, x = some c ∧ Resolves o template destination ts ds d c := by
  have hs := List.getElem?_eq_getElem hd
  cases hc : destination.statements[d] <;> rw [hc] at hs
  case frozen b =>
    have resolves : Resolves o template destination ts ds d (.ofBlock b) := .frozen hs
    cases h.symm.trans (contribution_of_resolves resolves)
    exact ⟨_, rfl, resolves⟩
  case line l =>
    by_cases hp : ∃ t s, Partners ts ds t d s
    case pos =>
      have ⟨t, sig, hp⟩ := hp
      have there := List.getElem?_eq_getElem (ht ▸ hp.template_lt)
      rw [destinationEntry_eq_matched hp] at h
      have ⟨side, wins, hx⟩ := (ofMatch_eq_ok_iff there hs).mp h
      cases side
      case template    => exact ⟨_, hx, .template hs hp there wins⟩
      case destination => exact ⟨_, hx, .destination hs hp there wins⟩
    case neg =>
      simp only [not_exists] at hp
      have resolves : Resolves o template destination ts ds d _ := .alone hs hp
      cases h.symm.trans (contribution_of_resolves resolves)
      exact ⟨_, rfl, resolves⟩

-- The contributions of the template's statements that are added at the end.
def additions (o : Options) (template : Document) (ts ds : List (Option Signature)) : List Contribution :=
  (Pairing.alone ts ds).filterMap (ofTemplate o template)

theorem mem_additions : c ∈ additions o template ts ds ↔
    ∃ t ∈ alone ts ds, ∃ s, template.statements[t]? = some s ∧ o.append ∧ isAddable s ∧
      c = .ofStatement .added .template t s := by
  simp only [additions, List.mem_filterMap]
  constructor
  case mp =>
    rintro ⟨t, ha, hc⟩
    cases hs : template.statements[t]?
    case none   => simp [ofTemplate, hs] at hc
    case some s =>
      simp only [ofTemplate, hs, Option.ite_none_right_eq_some, Bool.and_eq_true, Option.some.injEq] at hc
      exact ⟨t, ha, s, hs, hc.1.1, hc.1.2, hc.2.symm⟩
  case mpr =>
    rintro ⟨t, ha, s, hs, happ, hadd, hc⟩
    exact ⟨t, ha, by simp [ofTemplate, hs, happ, hadd, hc]⟩

theorem additions_eq_nil (h : o.append = false) : additions o template ts ds = [] := by
  refine List.eq_nil_iff_forall_not_mem.mpr fun c hc => ?_
  have ⟨_, _, _, _, append, _, _⟩ := mem_additions.mp hc
  simp [h] at append

-- How a merge came to its draft.
structure Trail (o : Options) (template destination : Document) (r : Draft)
    (ts ds : List (Option Signature)) (kept : List Contribution) : Prop where
  templateSigned    : signatures o.signer template = .ok ts
  destinationSigned : signatures o.signer destination = .ok ds
  resolved          : List.Forall₂ (Resolves o template destination ts ds)
    (List.range destination.statements.length) kept
  drafted           : r = .ofContributions (kept ++ additions o template ts ds)

-- The destination's part of a pairing puts out one contribution for each place.
theorem mapM_destinationEntry_eq_ok_iff {xs : List (Option Contribution)} {places : List Nat}
    (ht : ts.length = template.statements.length)
    (hp : ∀ d ∈ places, d < destination.statements.length) :
    (places.map (destinationEntry ts ds)).mapM (contribution o template destination) = .ok xs ↔
      ∃ kept, List.Forall₂ (Resolves o template destination ts ds) places kept ∧
        xs = kept.map some := by
  rw [mapM_eq_ok_iff, List.forall₂_map_left_iff]
  constructor
  case mp =>
    intro h
    induction h
    case nil => exact ⟨[], .nil, rfl⟩
    case cons d x places xs hx _ ih =>
      have ⟨c, hc, resolves⟩ := exists_resolves ht (hp d List.mem_cons_self) hx
      have ⟨kept, hk, he⟩ := ih fun d hd => hp d (List.mem_cons_of_mem _ hd)
      exact ⟨c :: kept, .cons resolves hk, by rw [hc, he, List.map_cons]⟩
  case mpr =>
    intro ⟨kept, hk, he⟩
    rw [he, List.forall₂_map_right_iff]
    exact hk.imp fun _ _ => contribution_of_resolves

theorem mapM_templateEntry (places : List Nat) :
    (places.map (templateEntry ts)).mapM (contribution o template destination)
      = .ok (places.map (ofTemplate o template)) := by
  rw [mapM_eq_ok_iff, List.forall₂_map_left_iff, List.forall₂_map_right_iff, List.forall₂_same]
  exact fun _ _ => rfl

theorem ofEntries_eq_ok_iff (ht : ts.length = template.statements.length)
    (hd : ds.length = destination.statements.length) :
    ofEntries o template destination (arranged ts ds) = .ok r ↔
      ∃ kept, List.Forall₂ (Resolves o template destination ts ds)
          (List.range destination.statements.length) kept ∧
        r = .ofContributions (kept ++ additions o template ts ds) := by
  have hp : ∀ d ∈ List.range ds.length, d < destination.statements.length := by simp [hd]
  simp only [ofEntries_eq, map_eq_ok_iff, arranged, mapM_append_eq_ok_iff, mapM_templateEntry,
    mapM_destinationEntry_eq_ok_iff ht hp, ← hd]
  constructor
  case mp =>
    rintro ⟨xs, ⟨ys, zs, ⟨kept, hk, hy⟩, hz, hx⟩, hr⟩
    cases hz
    exact ⟨kept, hk, by simp [← hr, hx, hy, additions, List.filterMap_map]⟩
  case mpr =>
    rintro ⟨kept, hk, hr⟩
    refine ⟨_, ⟨_, _, ⟨kept, hk, rfl⟩, rfl, rfl⟩, ?_⟩
    simp [hr, additions, List.filterMap_map]

-- The merge with the entries of the pairing in order from the start, so that nothing is sorted.
def ordered (o : Options) (template destination : Document) : Except Failure Draft := do
  let ds ← signatures o.signer destination
  let ts ← signatures o.signer template
  ofEntries o template destination (arranged ts ds)

theorem merge_eq_ordered : merge o template destination = ordered o template destination := by
  cases hd : signatures o.signer destination <;> cases ht : signatures o.signer template <;>
    simp [merge, ofDocuments, ofSigned, ordered, hd, ht, bind, Except.bind, pure, Except.pure,
      ofSignatures_eq_arranged]

theorem merge_eq_ok_iff :
    merge o template destination = .ok r ↔ ∃ ts ds kept, Trail o template destination r ts ds kept := by
  simp only [merge_eq_ordered, ordered, bind_eq_ok_iff]
  constructor
  case mp =>
    intro ⟨ds, hd, ts, ht, hr⟩
    have ⟨kept, hk, hr⟩ := (ofEntries_eq_ok_iff (length_signatures ht) (length_signatures hd)).mp hr
    exact ⟨ts, ds, kept, ht, hd, hk, hr⟩
  case mpr =>
    intro ⟨ts, ds, kept, ht, hd, hk, hr⟩
    refine ⟨ds, hd, ts, ht, ?_⟩
    exact (ofEntries_eq_ok_iff (length_signatures ht) (length_signatures hd)).mpr ⟨kept, hk, hr⟩

theorem merge_eq_ok_iff_of_signed (ht : signatures o.signer template = .ok ts)
    (hd : signatures o.signer destination = .ok ds) :
    merge o template destination = .ok r ↔ ∃ kept, Trail o template destination r ts ds kept := by
  rw [merge_eq_ok_iff]
  constructor
  case mpr => exact fun ⟨kept, trail⟩ => ⟨ts, ds, kept, trail⟩
  case mp  =>
    intro ⟨_, _, kept, trail⟩
    cases ht.symm.trans trail.templateSigned
    cases hd.symm.trans trail.destinationSigned
    exact ⟨kept, trail⟩

namespace Trail

variable {kept : List Contribution}

-- What is kept, statement by statement of the destination.
theorem forall₂_statements (h : Trail o template destination r ts ds kept) :
    List.Forall₂ (fun s c => ∃ d, destination.statements[d]? = some s ∧
      Resolves o template destination ts ds d c) destination.statements kept :=
  forall₂_of_range h.resolved

-- What is kept has the lines that each statement of the destination comes to.
theorem flatMap_lines_kept {f : Statement → List Text} (h : Trail o template destination r ts ds kept)
    (hf : ∀ d s c, destination.statements[d]? = some s → Resolves o template destination ts ds d c →
      c.lines = f s) :
    kept.flatMap (·.lines) = destination.statements.flatMap f := by
  refine (flatMap_eq_of_forall₂ h.forall₂_statements ?_).symm
  intro s c ⟨d, hs, resolves⟩
  exact (hf d s c hs resolves).symm

theorem lines_eq (h : Trail o template destination r ts ds kept) :
    r.lines = kept.flatMap (·.lines) ++ (additions o template ts ds).flatMap (·.lines) := by
  simp [h.drafted, Draft.ofContributions]

theorem decisions_eq (h : Trail o template destination r ts ds kept) :
    r.decisions = kept.map (·.decision) ++ (additions o template ts ds).map (·.decision) := by
  simp [h.drafted, Draft.ofContributions]

theorem drafted_of_append_eq_false (happ : o.append = false)
    (h : Trail o template destination r ts ds kept) : r = .ofContributions kept := by
  rw [h.drafted, additions_eq_nil happ, List.append_nil]

-- Every line of the draft is a line of a statement.
theorem exists_statement {line : Text} (h : Trail o template destination r ts ds kept)
    (hl : line ∈ r.lines) :
    ∃ s, (s ∈ template.statements ∨ s ∈ destination.statements) ∧ line ∈ s.rawLines := by
  rw [h.lines_eq] at hl
  cases List.mem_append.mp hl
  case inl hl =>
    have ⟨c, hc, hl⟩ := List.mem_flatMap.mp hl
    have ⟨_, _, hr⟩ := exists_mem_of_forall₂ h.resolved hc
    have ⟨s, hs, hcl⟩ := hr.exists_statement
    exact ⟨s, hs, hcl ▸ hl⟩
  case inr hl =>
    have ⟨c, hc, hl⟩ := List.mem_flatMap.mp hl
    have ⟨t, _, s, hs, _, _, he⟩ := mem_additions.mp hc
    rw [he] at hl
    exact ⟨s, .inl (List.mem_of_getElem? hs), hl⟩

end Trail

theorem exists_resolves_of_answers (h : o.Answers) (ht : ts.length = template.statements.length)
    (hd : d < destination.statements.length) : ∃ c, Resolves o template destination ts ds d c := by
  have here := List.getElem?_eq_getElem hd
  cases hs : destination.statements[d] <;> rw [hs] at here
  case frozen b => exact ⟨_, .frozen here⟩
  case line l =>
    by_cases hp : ∃ t s, Partners ts ds t d s
    case neg =>
      simp only [not_exists] at hp
      exact ⟨_, .alone here hp⟩
    case pos =>
      have ⟨t, sig, hp⟩ := hp
      have ⟨s, there⟩ : ∃ s, template.statements[t]? = some s :=
        ⟨_, List.getElem?_eq_getElem (ht ▸ hp.template_lt)⟩
      have ⟨side, wins⟩ := h.exists_side s (.line l)
      cases side
      case template    => exact ⟨_, .template here hp there wins⟩
      case destination => exact ⟨_, .destination here hp there wins⟩

-- If the rules answer, then nothing can go wrong.
theorem exists_merge (h : o.Answers) (template destination : Document) :
    ∃ r, merge o template destination = .ok r := by
  have ⟨ts, ht⟩ := exists_signatures h.signs template
  have ⟨ds, hd⟩ := exists_signatures h.signs destination
  have resolves (d) (hr : d ∈ List.range destination.statements.length) :
      ∃ c, Resolves o template destination ts ds d c :=
    exists_resolves_of_answers h (length_signatures ht) (List.mem_range.mp hr)
  have ⟨kept, hk⟩ := exists_forall₂ resolves
  exact ⟨_, merge_eq_ok_iff.mpr ⟨ts, ds, kept, ht, hd, hk, rfl⟩⟩

-- If one side wins every pair, then classifiers are not asked.
theorem exists_merge_of_fixed {side : Side} (hp : o.preference = .fixed side) (h : o.Signs)
    (template destination : Document) : ∃ r, merge o template destination = .ok r := by
  have unasked : merge o template destination
      = merge { o with classifiers := [] } template destination := by
    have ⟨preference, append, token, generator, classifiers⟩ := o
    cases hp
    rfl
  have answers : { o with classifiers := [] }.Answers := ⟨h, nofun⟩
  exact unasked ▸ exists_merge answers template destination

end Merge
end EnvMerge
