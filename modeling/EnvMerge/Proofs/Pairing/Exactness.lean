import EnvMerge.Proofs.Except
import EnvMerge.Proofs.List
import EnvMerge.Proofs.Pairing.Arrangement
import EnvMerge.Proofs.Rules

namespace EnvMerge.Pairing

variable {ts ds : List (Option Signature)} {s : Signature} {t d : Nat}

-- The entry that is due to a place of the destination. It is a match if the place is the first with
-- its signature and the template has that signature too.
inductive Due (ts ds : List (Option Signature)) (d : Nat) : Entry → Prop
  | matched {t : Nat} {s : Signature} (partners : Partners ts ds t d s) :
      Due ts ds d (.matched t d s)
  | alone (alone : ∀ t s, ¬Partners ts ds t d s) :
      Due ts ds d (.destinationOnly d ds[d]?.join)

structure Exact (ts ds : List (Option Signature)) (entries : List Entry) : Prop where
  ordered          : ∃ (front : List Entry) (lone : List Nat),
    entries = front ++ lone.map (templateEntry ts) ∧
      List.Forall₂ (Due ts ds) (List.range ds.length) front ∧ lone.Pairwise (· < ·) ∧
      ∀ t, t ∈ lone ↔ t < ts.length ∧ ∀ d s, .matched t d s ∉ front
  template_once    : (entries.filterMap (·.template?)).Perm (List.range ts.length)
  destination_once : entries.filterMap (·.destination?) = List.range ds.length

theorem due_destinationEntry (ts ds : List (Option Signature)) (d : Nat) :
    Due ts ds d (destinationEntry ts ds d) := by
  by_cases hp : ∃ t s, Partners ts ds t d s
  case pos =>
    have ⟨t, s, hp⟩ := hp
    exact destinationEntry_eq_matched hp ▸ .matched hp
  case neg =>
    simp only [not_exists] at hp
    exact destinationEntry_eq_destinationOnly hp ▸ .alone hp

theorem matched_mem_iff :
    .matched t d s ∈ (List.range ds.length).map (destinationEntry ts ds) ↔ Partners ts ds t d s := by
  rw [List.mem_map]
  constructor
  case mp =>
    intro ⟨d', _, he⟩
    have due := he ▸ due_destinationEntry ts ds d'
    cases due
    case matched partners => exact partners
  case mpr =>
    intro h
    exact ⟨d, List.mem_range.mpr h.destination_lt, destinationEntry_eq_matched h⟩

theorem matched_mem_arranged_iff : .matched t d s ∈ arranged ts ds ↔ Partners ts ds t d s := by
  rw [arranged, List.mem_append, matched_mem_iff]
  apply or_iff_left
  intro h
  simp [templateEntry] at h

theorem template?_unarranged :
    (unarranged ts ds).filterMap (·.template?) = List.range ts.length := by
  have walked : (fun t => (walkEntry ts ds t).template?) = some := funext fun _ => template?_walkEntry
  have left : (fun d => (Entry.destinationOnly d ds[d]?.join).template?) = fun _ => none := rfl
  simp [unarranged, List.filterMap_map, walked, left]

theorem destination?_arranged :
    (arranged ts ds).filterMap (·.destination?) = List.range ds.length := by
  have places : (fun d => (destinationEntry ts ds d).destination?) = some :=
    funext fun _ => destination?_destinationEntry
  have alone : (fun t => (templateEntry ts t).destination?) = fun _ => none := rfl
  simp [arranged, List.filterMap_map, places, alone]

theorem exact_arranged : Exact ts ds (arranged ts ds) where
  ordered := by
    refine ⟨_, alone ts ds, rfl, ?due, List.pairwise_lt_range.filter _, ?lone⟩
    case due  =>
      rw [List.forall₂_map_right_iff, List.forall₂_same]
      exact fun d _ => due_destinationEntry ts ds d
    case lone =>
      intro t
      simp only [mem_alone, matched_mem_iff]
  template_once    := template?_unarranged ▸ (perm_arranged ts ds).symm.filterMap _
  destination_once := destination?_arranged

variable {rule? rule?' : Option Rule}

theorem exists_signatures (h : ∀ rule ∈ rule?, ∀ s, ∃ i, rule (.statement s) = .ok i ∧ i.Signs)
    (d : Document) : ∃ ss, signatures (.ofRule? rule?) d = .ok ss := by
  have ⟨ss, hs⟩ :=
    exists_forall₂ fun s (_ : s ∈ d.statements) => Signature.exists_ofStatement_ofRule? h s
  exact ⟨ss, mapM_eq_ok_iff.mpr hs⟩

theorem length_signatures {sign : Signer} {d : Document} (h : signatures sign d = .ok ts) :
    ts.length = d.statements.length :=
  (mapM_eq_ok_iff.mp h).length_eq.symm

theorem ofSigned_eq {sign sign' : Signer} {template destination : Document}
    (ht : signatures sign template = .ok ts) (hd : signatures sign' destination = .ok ds) :
    ofSigned sign sign' template destination = .ok (arranged ts ds) := by
  rw [← ofSignatures_eq_arranged, ofSigned, ht, hd]
  rfl

-- Two documents are paired exactly, each by the signatures that its own rule gives.
theorem exists_exact (h : ∀ rule ∈ rule?, ∀ s, ∃ i, rule (.statement s) = .ok i ∧ i.Signs)
    (h' : ∀ rule ∈ rule?', ∀ s, ∃ i, rule (.statement s) = .ok i ∧ i.Signs)
    (template destination : Document) :
    ∃ ts ds entries, signatures (.ofRule? rule?) template = .ok ts ∧
      signatures (.ofRule? rule?') destination = .ok ds ∧
      ofSigned (.ofRule? rule?) (.ofRule? rule?') template destination = .ok entries ∧
      Exact ts ds entries := by
  have ⟨ts, ht⟩ := exists_signatures h template
  have ⟨ds, hd⟩ := exists_signatures h' destination
  exact ⟨ts, ds, arranged ts ds, ht, hd, ofSigned_eq ht hd, exact_arranged⟩

def upperKeys : Text :=
  "B=1\nA=2\nC=4\nb=7\n".toList

def lowerKeys : Text :=
  "a=5\na=6\n# c\nb=7\n".toList

def Entry.places (e : Entry) : Option Nat × Option Nat :=
  (e.template?, e.destination?)

-- The keys of the template are compared in lower case, those of the destination as they are.
theorem exists_exact_across_cases :
    ∃ ts ds entries,
      signatures (.ofRule? (some Rules.lowerKey)) (.ofText Document.defaultToken upperKeys) = .ok ts ∧
      signatures (.ofRule? none) (.ofText Document.defaultToken lowerKeys) = .ok ds ∧
      ofSigned (.ofRule? (some Rules.lowerKey)) (.ofRule? none)
        (.ofText Document.defaultToken upperKeys) (.ofText Document.defaultToken lowerKeys)
          = .ok entries ∧
      Exact ts ds entries ∧
      entries.map Entry.places
        = [(some 1, some 0), (none, some 1), (none, some 2), (some 0, some 3), (some 2, none),
          (some 3, none)] := by
  have lower : ∀ rule ∈ some Rules.lowerKey, ∀ s, ∃ i, rule (.statement s) = .ok i ∧ i.Signs := by
    intro rule hr s
    cases hr
    exact Rules.Signing.lowerKey.exists_signs s
  have builtIn : ∀ rule ∈ (none : Option Rule), ∀ s, ∃ i, rule (.statement s) = .ok i ∧ i.Signs :=
    nofun
  have ⟨ts, ds, entries, ht, hd, he, exact⟩ := exists_exact lower builtIn
    (.ofText Document.defaultToken upperKeys) (.ofText Document.defaultToken lowerKeys)
  have places : (do
      let ts ← signatures (.ofRule? (some Rules.lowerKey)) (.ofText Document.defaultToken upperKeys)
      let ds ← signatures (.ofRule? none) (.ofText Document.defaultToken lowerKeys)
      return (arranged ts ds).map Entry.places).toOption
        = some [(some 1, some 0), (none, some 1), (none, some 2), (some 0, some 3), (some 2, none),
          (some 3, none)] := by
    decide +kernel
  rw [ht, hd] at places
  cases he.symm.trans (ofSigned_eq ht hd)
  exact ⟨ts, ds, _, ht, hd, he, exact, Option.some.inj places⟩

end EnvMerge.Pairing
