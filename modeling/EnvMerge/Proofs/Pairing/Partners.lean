import EnvMerge.Pairing
import Mathlib.Data.List.Nodup

namespace EnvMerge.Pairing

-- Whether a statement has a signature, and it is the one with this key.
def carries (k : Datum.Key) (s : Option Signature) : Bool :=
  s.any (·.key == k)

-- The first place of a signature.
def first? (signatures : List (Option Signature)) (k : Datum.Key) : Option Nat :=
  signatures.findIdx? (carries k)

variable {ts ds : List (Option Signature)} {k : Datum.Key} {s : Signature} {t d i : Nat}

theorem carries_iff {x : Option Signature} : carries k x ↔ ∃ s, x = some s ∧ s.key = k := by
  simp [carries, Option.any_eq_true]

theorem first?_eq_some_iff :
    first? ts k = some i ↔
      (∃ s, ts[i]? = some (some s) ∧ s.key = k) ∧ ∀ j < i, ∀ s, ts[j]? = some (some s) → s.key ≠ k := by
  simp only [first?, List.findIdx?_eq_some_iff_getElem, carries_iff]
  constructor
  case mp =>
    intro ⟨hi, ⟨s, hs, hk⟩, hj⟩
    refine ⟨⟨s, by simp [List.getElem?_eq_getElem hi, hs], hk⟩, ?_⟩
    intro j hlt s' hs' he
    have hl : j < ts.length := by omega
    have := hj j hlt
    simp [List.getElem?_eq_getElem hl] at hs'
    simp [hs', he] at this
  case mpr =>
    intro ⟨⟨s, hs, hk⟩, hj⟩
    have ⟨hi, he⟩ := List.getElem?_eq_some_iff.mp hs
    refine ⟨hi, ⟨s, he, hk⟩, ?_⟩
    intro j hlt
    have hl : j < ts.length := by omega
    cases hx : ts[j] with
    | none => simp
    | some s' => simpa [carries] using hj j hlt s' (by simp [List.getElem?_eq_getElem hl, hx])

theorem first?_lt (h : first? ts k = some i) : i < ts.length := by
  have ⟨⟨_, h, _⟩, _⟩ := first?_eq_some_iff.mp h
  exact (List.getElem?_eq_some_iff.mp h).1

-- A place is first for one signature only.
theorem first?_inj {k' : Datum.Key} (h : first? ts k = some i) (h' : first? ts k' = some i) :
    k = k' := by
  have ⟨⟨_, hs, hk⟩, _⟩ := first?_eq_some_iff.mp h
  have ⟨⟨_, hs', hk'⟩, _⟩ := first?_eq_some_iff.mp h'
  cases hs.symm.trans hs'
  exact hk.symm.trans hk'

theorem exists_first?_of_mem (h : some s ∈ ts) : ∃ i, first? ts s.key = some i := by
  apply Option.isSome_iff_exists.mp
  simp only [first?, List.findIdx?_isSome, List.any_eq_true]
  exact ⟨_, h, carries_iff.mpr ⟨s, rfl, rfl⟩⟩

-- Place `t` of the template and place `d` of the destination are partners, known by `s`.
structure Partners (ts ds : List (Option Signature)) (t d : Nat) (s : Signature) : Prop where
  signed      : ts[t]? = some (some s)
  template    : first? ts s.key = some t
  destination : first? ds s.key = some d

namespace Partners

variable {t' : Nat} {s' : Signature}

theorem template_lt (h : Partners ts ds t d s) : t < ts.length :=
  first?_lt h.template

theorem destination_lt (h : Partners ts ds t d s) : d < ds.length :=
  first?_lt h.destination

end Partners

-- Whether the statement in place `i` has a signature, and one that no statement before it has.
def IsFirst (ss : List (Option Signature)) (i : Nat) : Prop :=
  ∃ s, ss[i]? = some (some s) ∧ ∀ j < i, ∀ s', ss[j]? = some (some s') → s'.key ≠ s.key

-- Paired with itself, a list has such a statement as its own partner, and no other partners.
theorem isFirst_iff : IsFirst ts i ↔ ∃ d s, Partners ts ts i d s := by
  constructor
  case mp =>
    intro ⟨s, hs, earlier⟩
    have first := first?_eq_some_iff.mpr ⟨⟨s, hs, rfl⟩, earlier⟩
    exact ⟨i, s, hs, first, first⟩
  case mpr =>
    intro ⟨_, s, partners⟩
    have ⟨_, earlier⟩ := first?_eq_some_iff.mp partners.template
    exact ⟨s, partners.signed, earlier⟩

theorem Partners.eq_of_self (h : Partners ts ts t d s) : t = d :=
  Option.some.inj (h.template.symm.trans h.destination)

-- The destination's place that a place of the template is paired with.
def partner? (ts ds : List (Option Signature)) (t : Nat) : Option Nat := do
  let s ← ts[t]?.join
  if first? ts s.key = some t then first? ds s.key else none

-- The template's place that a place of the destination is paired with, and the signature there.
def suitor? (ts ds : List (Option Signature)) (d : Nat) : Option (Nat × Signature) :=
  ds[d]?.join.bind fun s =>
    (if first? ds s.key = some d then first? ts s.key else none).bind fun t =>
      ts[t]?.join.map (t, ·)

theorem partner?_eq_some_iff : partner? ts ds t = some d ↔ ∃ s, Partners ts ds t d s := by
  simp only [partner?, Option.bind_eq_bind, Option.bind_eq_some_iff, Option.join_eq_some_iff,
    Option.ite_none_right_eq_some]
  constructor
  case mp  => exact fun ⟨s, hs, ht, hd⟩ => ⟨s, hs, ht, hd⟩
  case mpr => exact fun ⟨s, hs, ht, hd⟩ => ⟨s, hs, ht, hd⟩

theorem partner?_eq_none_iff : partner? ts ds t = none ↔ ∀ d s, ¬Partners ts ds t d s := by
  simp [Option.eq_none_iff_forall_ne_some, partner?_eq_some_iff]

theorem suitor?_eq_some_iff : suitor? ts ds d = some (t, s) ↔ Partners ts ds t d s := by
  simp only [suitor?, Option.bind_eq_some_iff, Option.join_eq_some_iff, Option.map_eq_some_iff,
    Option.ite_none_right_eq_some, Prod.mk.injEq]
  constructor
  case mp =>
    intro ⟨s', _, t', ⟨hd, ht⟩, s'', hs, he, he'⟩
    subst he he'
    have ⟨⟨_, h, hk⟩, _⟩ := first?_eq_some_iff.mp ht
    cases hs.symm.trans h
    exact ⟨hs, hk ▸ ht, hk ▸ hd⟩
  case mpr =>
    intro h
    have ⟨⟨s', hs', hk⟩, _⟩ := first?_eq_some_iff.mp h.destination
    exact ⟨s', hs', t, ⟨hk ▸ h.destination, hk ▸ h.template⟩, s, h.signed, rfl, rfl⟩

theorem suitor?_eq_none_iff : suitor? ts ds d = none ↔ ∀ t s, ¬Partners ts ds t d s := by
  simp [Option.eq_none_iff_forall_ne_some, suitor?_eq_some_iff, Prod.forall]

-- The entry of a place of the destination.
def destinationEntry (ts ds : List (Option Signature)) (d : Nat) : Entry :=
  match suitor? ts ds d with
  | some (t, s) => .matched t d s
  | none        => .destinationOnly d ds[d]?.join

-- The entry of a place of the template that stays alone.
def templateEntry (ts : List (Option Signature)) (t : Nat) : Entry :=
  .templateOnly t ts[t]?.join

-- The places of the template that stay alone.
def alone (ts ds : List (Option Signature)) : List Nat :=
  (List.range ts.length).filter fun t => (partner? ts ds t).isNone

theorem mem_alone : t ∈ alone ts ds ↔ t < ts.length ∧ ∀ d s, ¬Partners ts ds t d s := by
  simp [alone, partner?_eq_none_iff]

theorem destinationEntry_eq_matched (h : Partners ts ds t d s) :
    destinationEntry ts ds d = .matched t d s := by
  simp [destinationEntry, suitor?_eq_some_iff.mpr h]

theorem destinationEntry_eq_destinationOnly (h : ∀ t s, ¬Partners ts ds t d s) :
    destinationEntry ts ds d = .destinationOnly d ds[d]?.join := by
  simp [destinationEntry, suitor?_eq_none_iff.mpr h]

end EnvMerge.Pairing
