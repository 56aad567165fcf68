import EnvMerge.Proofs.Merge.Matching
import EnvMerge.Proofs.Merge.Run
import Mathlib.Data.List.Pairwise

namespace EnvMerge

variable {o : Options} {template destination : Source} {t d : Document} {r : Draft}
variable {s s' : Statement} {k : Text}

-- The key that a statement gives a value to.
def Statement.key? (s : Statement) : Option Text :=
  s.assignment?.bind (·.key?)

-- The keys of the assignments that stand free.
def Document.freeKeys (d : Document) : List Text :=
  d.freeAssignments.filterMap (·.key?)

namespace Draft

-- The statements that were added, read off the record of the decisions.
def added (r : Draft) (template : Document) : List Statement :=
  (r.decisions.filter (·.kind = .added)).filterMap fun x => x.index.bind (template.statements[·]?)

def addedKeys (r : Draft) (template : Document) : List Text :=
  (r.added template).filterMap (·.key?)

-- Whether only missing keys were added, and each of them once.
structure AddsMissing (r : Draft) (template destination : Document) : Prop where
  missing : ∀ k ∈ r.addedKeys template, destination.assignment? k = none
  once    : (r.addedKeys template).Nodup

end Draft

theorem Statement.key?_eq_some_iff : s.key? = some k ↔ s.identity? = some (.key k) := by
  cases s
  case line l   => cases h : l.key? <;> simp [key?, assignment?, Line.isAssignment, identity?, h]
  case frozen b => simp [key?, assignment?, identity?]

theorem Document.freeKeys_eq : d.freeKeys = d.statements.filterMap (·.key?) := by
  simp only [freeKeys, freeAssignments, List.filterMap_filterMap]
  rfl

namespace Merge

open Document Pairing

variable {ts ds : List (Option Signature)} {kept : List Contribution} {c : Contribution} {n : Nat}

theorem Resolves.kind_ne_added (h : Resolves o t d ts ds n c) : c.kind ≠ .added := by
  cases h <;> exact nofun

theorem Trail.added_eq (h : Trail o t d r t.marks d.marks kept)
    (ht : ofSource o.token template = .ok t) :
    r.added t = if o.append then unmatched t d else [] := by
  have left : (kept.map (·.decision)).filter (·.kind = .added) = [] := by
    refine List.filter_eq_nil_iff.mpr fun x hx => ?_
    have ⟨c, hc, he⟩ := List.mem_map.mp hx
    have ⟨_, _, resolves⟩ := exists_mem_of_forall₂ h.resolved hc
    simpa [← he, Contribution.decision] using resolves.kind_ne_added
  have right : ((additions o t t.marks d.marks).map (·.decision)).filter (·.kind = .added)
      = (additions o t t.marks d.marks).map (·.decision) := by
    refine List.filter_eq_self.mpr fun x hx => ?_
    have ⟨c, hc, he⟩ := List.mem_map.mp hx
    have ⟨_, _, _, _, _, _, hs⟩ := mem_additions.mp hc
    simp [← he, hs, Contribution.decision, Contribution.ofStatement]
  have read := filterMap_additions (d := d) (g := id)
    (f := fun c => c.decision.index.bind (t.statements[·]?)) ht fun _ _ hs => hs
  rw [Draft.added, h.decisions_eq, List.filter_append, left, right, List.nil_append,
    List.filterMap_map]
  simpa [Function.comp_def] using read

theorem added_eq_of_merge (ht : ofSource o.token template = .ok t) (hg : o.generator = none)
    (h : merge o t d = .ok r) : r.added t = if o.append then unmatched t d else [] := by
  have ⟨ts, ds, kept, trail⟩ := merge_eq_ok_iff.mp h
  have ⟨hts, hds⟩ := trail.eq_marks hg
  subst hts hds
  exact trail.added_eq ht

theorem isAddable_of_key? (h : s.key? = some k) : isAddable s := by
  cases s
  case frozen b => rfl
  case line l   =>
    have ⟨l', hl, _⟩ := Option.bind_eq_some_iff.mp h
    exact (Option.ite_none_right_eq_some.mp hl).1

theorem isMatched_iff_of_key? (h : s.key? = some k) :
    isMatched t d s ↔ t.first? (.key k) = some s ∧ d.assignment? k ≠ none := by
  rw [isMatched_iff, Ne, assignment?_eq_none_iff, ← Ne, Option.ne_none_iff_exists']
  constructor
  case mp =>
    intro ⟨i, ht, hd⟩
    cases (identity?_of_first? ht).symm.trans (Statement.key?_eq_some_iff.mp h)
    exact ⟨ht, hd⟩
  case mpr => exact fun ⟨ht, hd⟩ => ⟨_, ht, hd⟩

theorem mem_unmatched_of_key? (h : s.key? = some k) :
    s ∈ unmatched t d ↔ s ∈ t.statements ∧ ¬(t.first? (.key k) = some s ∧ d.assignment? k ≠ none) := by
  simp [unmatched, isAddable_of_key? h, ← isMatched_iff_of_key? h]

-- Whether two statements give values to different keys, if they both do to any.
def Apart (s s' : Statement) : Prop :=
  ∀ k, s.key? = some k → ∀ k', s'.key? = some k' → k ≠ k'

instance : Std.Symm Apart where
  symm _ _ h k hk k' hk' := (h k' hk' k hk).symm

theorem nodup_filterMap_key?_iff {ss : List Statement} :
    (ss.filterMap (·.key?)).Nodup ↔ ss.Pairwise Apart :=
  List.pairwise_filterMap

theorem mem_addedKeys (h : s ∈ r.added t) (hk : s.key? = some k) : k ∈ r.addedKeys t :=
  List.mem_filterMap.mpr ⟨s, h, hk⟩

-- If a key is repeated, then one of its two assignments is not the first, so it is unmatched. That
-- adds a key which the destination has; and without the key there, both are added.
theorem pairwise_apart_of_addsMissing (ht : ofSource o.token template = .ok t)
    (ha : r.added t = unmatched t d) (h : r.AddsMissing t d) : t.statements.Pairwise Apart := by
  have once := h.once
  rw [Draft.addedKeys, ha, nodup_filterMap_key?_iff] at once
  have absent {s : Statement} {k : Text} (hs : s ∈ unmatched t d) (hk : s.key? = some k) :
      d.assignment? k = none :=
    h.missing k (mem_addedKeys (ha ▸ hs) hk)
  refine (nodup_statements ht).imp_of_mem fun {s s'} hs hs' hne k hk k' hk' he => ?_
  subst he
  by_cases hd : d.assignment? k = none
  case pos =>
    have hu := (mem_unmatched_of_key? hk).mpr ⟨hs, fun h => h.2 hd⟩
    have hu' := (mem_unmatched_of_key? hk').mpr ⟨hs', fun h => h.2 hd⟩
    exact once.forall hu hu' hne k hk k hk' rfl
  case neg =>
    by_cases hf : t.first? (.key k) = some s
    case pos =>
      have later : ¬t.first? (.key k) = some s' := fun hf' => hne (Option.some.inj (hf.symm.trans hf'))
      exact hd (absent ((mem_unmatched_of_key? hk').mpr ⟨hs', fun h => later h.1⟩) hk')
    case neg => exact hd (absent ((mem_unmatched_of_key? hk).mpr ⟨hs, fun h => hf h.1⟩) hk)

theorem addsMissing_of_pairwise_apart (ha : r.added t = unmatched t d)
    (h : t.statements.Pairwise Apart) : r.AddsMissing t d where
  missing := by
    intro k hk
    have ⟨s, hs, hk⟩ := List.mem_filterMap.mp hk
    have ⟨hm, hu⟩ := (mem_unmatched_of_key? hk).mp (ha ▸ hs)
    by_contra hd
    have hi := Statement.key?_eq_some_iff.mp hk
    have ⟨s', hf⟩ := exists_first? hm hi
    have hk' := Statement.key?_eq_some_iff.mpr (identity?_of_first? hf)
    have hne : s ≠ s' := fun he => hu ⟨he ▸ hf, hd⟩
    exact h.forall hm (List.mem_of_find?_eq_some hf) hne k hk k hk' rfl
  once := by
    rw [Draft.addedKeys, ha, nodup_filterMap_key?_iff]
    exact h.filter _

theorem addsMissing_iff (ht : ofSource o.token template = .ok t) (ha : o.append)
    (hg : o.generator = none) (h : merge o t d = .ok r) : r.AddsMissing t d ↔ t.freeKeys.Nodup := by
  have added : r.added t = unmatched t d := by rw [added_eq_of_merge ht hg h, if_pos ha]
  rw [freeKeys_eq, nodup_filterMap_key?_iff]
  exact ⟨pairwise_apart_of_addsMissing ht added, addsMissing_of_pairwise_apart added⟩

-- A run adds no more than what is missing if and only if the template repeats no key.
theorem addsMissing_iff_of_yields (ha : o.append) (hg : o.generator = none)
    (ht : ofSource o.token template = .ok t) (hd : ofSource o.token destination = .ok d)
    (h : Yields o template destination r) : r.AddsMissing t d ↔ t.freeKeys.Nodup :=
  addsMissing_iff ht ha hg ((yields_iff ht hd).mp h)

theorem exists_yields_appending (template destination : Text) :
    ∃ r, Yields .appending (.text template) (.text destination) r ∧
      r.added (ofText defaultToken template)
        = unmatched (ofText defaultToken template) (ofText defaultToken destination) := by
  have ⟨r, hr⟩ := exists_merge Options.appending_answers (ofText defaultToken template)
    (ofText defaultToken destination)
  have added := added_eq_of_merge (o := .appending) (ofSource_text _ template) rfl hr
  exact ⟨r, (yields_iff (ofSource_text _ template) (ofSource_text _ destination)).mpr hr, added⟩

def oneKey : Text :=
  "A=0\n".toList

def twoKeys : Text :=
  "A=1\nB=2\n".toList

def oneKeyTwice : Text :=
  "A=1\nA=2\n".toList

theorem addsMissing_of_two_keys :
    ∃ r, Yields .appending (.text twoKeys) (.text oneKey) r ∧
      r.AddsMissing (ofText defaultToken twoKeys) (ofText defaultToken oneKey) := by
  have ⟨r, hy, _⟩ := exists_yields_appending twoKeys oneKey
  exact ⟨r, hy, (addsMissing_iff_of_yields rfl rfl rfl rfl hy).mpr (by decide +kernel)⟩

-- A repeated key is added although the destination has it.
theorem not_addsMissing_of_key_twice :
    ∃ r, Yields .appending (.text oneKeyTwice) (.text oneKey) r ∧
      ¬r.AddsMissing (ofText defaultToken oneKeyTwice) (ofText defaultToken oneKey) := by
  have ⟨r, hy, added⟩ := exists_yields_appending oneKeyTwice oneKey
  refine ⟨r, hy, fun h => ?_⟩
  have key : "A".toList ∈ r.addedKeys (ofText defaultToken oneKeyTwice) := by
    rw [Draft.addedKeys, added]
    decide +kernel
  have known : (ofText defaultToken oneKey).assignment? "A".toList ≠ none := by
    decide +kernel
  exact known (h.missing _ key)

end Merge
end EnvMerge
