import EnvMerge.Proofs.Pairing.Walk

namespace EnvMerge.Pairing

variable {ts ds : List (Option Signature)} {s : Signature} {t d : Nat}

theorem walkEntry_eq_matched (h : Partners ts ds t d s) : walkEntry ts ds t = .matched t d s := by
  simp [walkEntry, h.signed, partner?_eq_some_iff.mpr ⟨s, h⟩]

theorem walkEntry_eq_templateEntry (h : ∀ d s, ¬Partners ts ds t d s) :
    walkEntry ts ds t = templateEntry ts t := by
  simp [walkEntry, templateEntry, partner?_eq_none_iff.mpr h]

theorem template?_walkEntry : (walkEntry ts ds t).template? = some t := by
  unfold walkEntry
  split <;> rfl

theorem destination?_destinationEntry : (destinationEntry ts ds d).destination? = some d := by
  unfold destinationEntry
  split <;> rfl

theorem rank_destinationEntry : (destinationEntry ts ds d).rank = ⟨false, d⟩ := by
  unfold destinationEntry
  split <;> rfl

theorem rank_templateEntry : (templateEntry ts t).rank = ⟨true, t⟩ :=
  rfl

theorem mem_alone_or_partners (ds : List (Option Signature)) (h : t < ts.length) :
    t ∈ alone ts ds ∨ ∃ d s, Partners ts ds t d s := by
  by_cases hp : ∃ d s, Partners ts ds t d s
  case pos => exact .inr hp
  case neg =>
    simp only [not_exists] at hp
    exact .inl (mem_alone.mpr ⟨h, hp⟩)

-- The entries before they are arranged: those of the walk, then those left over.
def unarranged (ts ds : List (Option Signature)) : List Entry :=
  (List.range ts.length).map (walkEntry ts ds) ++
    ((List.range ds.length).filter fun d => (suitor? ts ds d).isNone).map
      fun d => .destinationOnly d ds[d]?.join

-- The entries after they are arranged.
def arranged (ts ds : List (Option Signature)) : List Entry :=
  (List.range ds.length).map (destinationEntry ts ds) ++ (alone ts ds).map (templateEntry ts)

theorem nodup_map_of_place {f : Nat → Entry} (g : Entry → Option Nat) (h : ∀ i, g (f i) = some i)
    {places : List Nat} (hp : places.Nodup) : (places.map f).Nodup := by
  apply List.Nodup.of_map g
  simpa [Function.comp_def, h] using hp.map fun _ _ => Option.some.inj

theorem nodup_unarranged : (unarranged ts ds).Nodup := by
  refine List.nodup_append.mpr ⟨?walked, ?left, ?apart⟩
  case walked => exact nodup_map_of_place Entry.template? (fun _ => template?_walkEntry) List.nodup_range
  case left   => exact nodup_map_of_place Entry.destination? (fun _ => rfl) (List.nodup_range.filter _)
  case apart  =>
    intro e he e' he' h
    have ⟨t, _, ht⟩ := List.mem_map.mp he
    have ⟨d, _, hd⟩ := List.mem_map.mp he'
    have : e.template? = some t := ht ▸ template?_walkEntry
    simp [h, ← hd, Entry.template?] at this

theorem nodup_arranged : (arranged ts ds).Nodup := by
  refine List.nodup_append.mpr ⟨?places, ?alone, ?apart⟩
  case places =>
    exact nodup_map_of_place Entry.destination? (fun _ => destination?_destinationEntry) List.nodup_range
  case alone  => exact nodup_map_of_place Entry.template? (fun _ => rfl) (List.nodup_range.filter _)
  case apart  =>
    intro e he e' he' h
    have ⟨d, _, hd⟩ := List.mem_map.mp he
    have ⟨t, _, ht⟩ := List.mem_map.mp he'
    have : e.destination? = some d := hd ▸ destination?_destinationEntry
    simp [h, ← ht, templateEntry, Entry.destination?] at this

theorem mem_unarranged_iff {e : Entry} : e ∈ unarranged ts ds ↔ e ∈ arranged ts ds := by
  simp only [unarranged, arranged, List.mem_append, List.mem_map, List.mem_filter, List.mem_range,
    Option.isNone_iff_eq_none, suitor?_eq_none_iff]
  constructor
  case mp =>
    intro h
    cases h
    case inl h =>
      have ⟨t, ht, he⟩ := h
      cases mem_alone_or_partners ds ht
      case inl ha =>
        rw [walkEntry_eq_templateEntry (mem_alone.mp ha).2] at he
        exact .inr ⟨t, ha, he⟩
      case inr hp =>
        have ⟨d, s, hp⟩ := hp
        rw [walkEntry_eq_matched hp] at he
        exact .inl ⟨d, hp.destination_lt, he ▸ destinationEntry_eq_matched hp⟩
    case inr h =>
      have ⟨d, ⟨hd, hp⟩, he⟩ := h
      exact .inl ⟨d, hd, he ▸ destinationEntry_eq_destinationOnly hp⟩
  case mpr =>
    intro h
    cases h
    case inl h =>
      have ⟨d, hd, he⟩ := h
      by_cases hp : ∃ t s, Partners ts ds t d s
      case pos =>
        have ⟨t, s, hp⟩ := hp
        rw [destinationEntry_eq_matched hp] at he
        exact .inl ⟨t, hp.template_lt, he ▸ walkEntry_eq_matched hp⟩
      case neg =>
        simp only [not_exists] at hp
        exact .inr ⟨d, ⟨hd, hp⟩, he ▸ (destinationEntry_eq_destinationOnly hp).symm⟩
    case inr h =>
      have ⟨t, ha, he⟩ := h
      have ⟨ht, hp⟩ := mem_alone.mp ha
      exact .inl ⟨t, ht, he ▸ walkEntry_eq_templateEntry hp⟩

namespace Rank

variable {a b c : Rank}

theorem le_iff :
    a.le b ↔ (a.appended = b.appended ∧ a.position ≤ b.position) ∨
      (a.appended ≠ b.appended ∧ b.appended) := by
  unfold le
  split <;> simp_all

theorem le_trans (h₁ : a.le b) (h₂ : b.le c) : a.le c := by
  cases a; cases b; cases c
  simp only [le_iff] at *
  grind

theorem le_total : a.le b || b.le a := by
  cases a; cases b
  simp only [Bool.or_eq_true, le_iff]
  grind

theorem le_antisymm (h₁ : a.le b) (h₂ : b.le a) : a = b := by
  cases a; cases b
  simp only [le_iff] at *
  grind

end Rank

theorem pairwise_arranged : (arranged ts ds).Pairwise fun a b => a.rank.le b.rank := by
  refine List.pairwise_append.mpr ⟨?places, ?alone, ?apart⟩
  case places =>
    rw [List.pairwise_map]
    refine List.pairwise_lt_range.imp fun h => ?_
    simp only [rank_destinationEntry, Rank.le_iff]
    exact .inl ⟨trivial, by omega⟩
  case alone =>
    rw [List.pairwise_map]
    refine (List.pairwise_lt_range.filter _).imp fun h => ?_
    simp only [rank_templateEntry, Rank.le_iff]
    exact .inl ⟨trivial, by omega⟩
  case apart =>
    intro a ha b hb
    have ⟨d, _, hd⟩ := List.mem_map.mp ha
    have ⟨t, _, ht⟩ := List.mem_map.mp hb
    simp [← hd, ← ht, rank_destinationEntry, rank_templateEntry, Rank.le_iff]

theorem eq_of_rank_eq {a b : Entry} (ha : a ∈ arranged ts ds) (hb : b ∈ arranged ts ds)
    (h : a.rank = b.rank) : a = b := by
  simp only [arranged, List.mem_append, List.mem_map] at ha hb
  cases ha <;> cases hb
  case inl.inl ha hb =>
    have ⟨d, _, hd⟩ := ha
    have ⟨d', _, hd'⟩ := hb
    simp only [← hd, ← hd', rank_destinationEntry, Rank.mk.injEq, Int.natCast_inj, true_and] at h
    rw [← hd, ← hd', h]
  case inr.inr ha hb =>
    have ⟨t, _, ht⟩ := ha
    have ⟨t', _, ht'⟩ := hb
    simp only [← ht, ← ht', rank_templateEntry, Rank.mk.injEq, Int.natCast_inj, true_and] at h
    rw [← ht, ← ht', h]
  case inl.inr ha hb =>
    have ⟨d, _, hd⟩ := ha
    have ⟨t, _, ht⟩ := hb
    simp [← hd, ← ht, rank_destinationEntry, rank_templateEntry] at h
  case inr.inl ha hb =>
    have ⟨t, _, ht⟩ := ha
    have ⟨d, _, hd⟩ := hb
    simp [← hd, ← ht, rank_destinationEntry, rank_templateEntry] at h

theorem perm_arranged (ts ds : List (Option Signature)) : (unarranged ts ds).Perm (arranged ts ds) :=
  (List.perm_ext_iff_of_nodup nodup_unarranged nodup_arranged).mpr fun _ => mem_unarranged_iff

-- Sorting by rank leaves no choice: no two entries of a pairing have the same rank.
theorem arrange_unarranged : arrange Entry.rank (unarranged ts ds) = arranged ts ds := by
  have perm := perm_arranged ts ds
  have sorted := List.mergeSort_perm (unarranged ts ds) fun a b => a.rank.le b.rank
  have trans (a b c : Entry) : a.rank.le b.rank → b.rank.le c.rank → a.rank.le c.rank := Rank.le_trans
  have total (a b : Entry) : a.rank.le b.rank || b.rank.le a.rank := Rank.le_total
  refine List.Perm.eq_of_pairwise ?_ ?_ pairwise_arranged (sorted.trans perm)
  · intro a b ha hb hab hba
    exact eq_of_rank_eq (perm.mem_iff.mp <| sorted.mem_iff.mp ha) hb (Rank.le_antisymm hab hba)
  · exact List.pairwise_mergeSort trans total _

-- The pairing has one entry for each place of the destination, in order, and after these one for
-- each place of the template that stays alone.
theorem ofSignatures_eq_arranged : ofSignatures ts ds = arranged ts ds := by
  have untaken : ∀ d, d ∈ ([] : List Nat) ↔ Claimed ds [] d := by simp [Claimed]
  obtain ⟨he, ht⟩ := walk_spec [] ts untaken
  have left := leftOver_eq (walk (.ofSignatures ds) [] 0 ts).2 [] ds
  simp only [List.length_nil, List.nil_append, ← List.range_eq_range'] at he ht left
  have free : ∀ d, d ∉ (walk (.ofSignatures ds) [] 0 ts).2 ↔ (suitor? ts ds d).isNone := by
    simp [ht, claimed_iff, suitor?_eq_none_iff]
  simp only [ofSignatures, he, left, decide_eq_decide.mpr (free _), ← arrange_unarranged, unarranged,
    Bool.decide_eq_true]

end EnvMerge.Pairing
