import EnvMerge.Pairing
import EnvMerge.Proofs.Document.Layout
import EnvMerge.Proofs.List
import EnvMerge.Proofs.Options
import EnvMerge.Proofs.Pairing.Partners

namespace EnvMerge

-- An assignment is known by its key, a block by its words.
inductive Identity
  | key (k : Text)
  | words (t : Text)
deriving DecidableEq

def Statement.identity? : Statement → Option Identity
  | line l   => l.key?.map .key
  | frozen b => some (.words b.text.normalSpace)

def Identity.plain : Identity → Plain
  | key k   => .tuple [.text "env".toList, .text k]
  | words t => .tuple [.text "FrozenBlock".toList, .text t]

def Identity.signature (i : Identity) : Signature :=
  ⟨i.plain, i.plain.key⟩

variable {i j : Identity} {s s' : Statement} {l : Line} {b : Block} {k : Text} {n n' : Nat}

theorem Identity.key_signature_inj : i.signature.key = j.signature.key ↔ i = j := by
  constructor
  case mp  => cases i <;> cases j <;> simp [signature, plain, Datum.key, Datum.keys]
  case mpr => exact fun h => h ▸ rfl

theorem Identity.plain_injective : Function.Injective plain := by
  intro i j h
  cases i <;> cases j <;> simp_all [plain]

namespace Statement

theorem signature_eq (s : Statement) : s.signature = s.identity?.map Identity.plain := by
  cases s
  case line l   => simp [signature, identity?, Function.comp_def, Identity.plain]
  case frozen b => rfl

theorem exists_line_of_identity? (h : s.identity? = some (.key k)) :
    ∃ l, s = .line l ∧ l.key? = some k := by
  cases s
  case line l   => exact ⟨l, rfl, by simpa [identity?] using h⟩
  case frozen b => simp [identity?] at h

theorem assignment?_line (h : l.key? = some k) : (line l).assignment? = some l := by
  simp [assignment?, Line.isAssignment, h]

theorem assignment?_any (s : Statement) :
    s.assignment?.any (fun l => l.key? = some k) = (s.identity? = some (.key k) : Bool) := by
  cases s
  case frozen b => simp [assignment?, identity?]
  case line l   => cases hk : l.key? <;> simp [assignment?, identity?, Line.isAssignment, hk]

end Statement

theorem Signature.ofStatement_builtIn (s : Statement) :
    ofStatement .builtIn s = .ok (s.identity?.map Identity.signature) := by
  have signed : Signer.builtIn (.statement s) = .ok (s.identity?.map Identity.plain) :=
    congrArg _ s.signature_eq
  cases hi : s.identity?
  case none   => exact ofStatement_eq_none (by simpa [hi] using signed)
  case some i =>
    have hashable : i.plain.unhashable? = none :=
      Statement.unhashable?_signature (s := s) (by simp [s.signature_eq, hi])
    exact ofStatement_eq_some (by simpa [hi] using signed) hashable

namespace Document

variable {token : Text} {source : Source} {d t : Document} {x : Signature}

-- The place of the first statement known by an identity.
def place? (d : Document) (i : Identity) : Option Nat :=
  d.statements.findIdx? fun s => s.identity? = some i

-- The first statement known by an identity.
def first? (d : Document) (i : Identity) : Option Statement :=
  d.statements.find? fun s => s.identity? = some i

theorem first?_eq : d.first? i = (d.place? i).bind (d.statements[·]?) :=
  List.find?_eq_bind_findIdx?_getElem?

theorem identity?_of_first? (h : d.first? i = some s) : s.identity? = some i := by
  simpa using List.find?_some h

theorem getElem?_of_place? (h : d.place? i = some n) : d.statements[n]? = d.first? i := by
  simp [first?_eq, h]

theorem exists_of_place? (h : d.place? i = some n) :
    ∃ s, d.statements[n]? = some s ∧ d.first? i = some s := by
  have ⟨hn, _⟩ := List.findIdx?_eq_some_iff_getElem.mp h
  exact ⟨_, List.getElem?_eq_getElem hn, by rw [first?_eq, h]; exact List.getElem?_eq_getElem hn⟩

theorem isSome_place? : (d.place? i).isSome = (d.first? i).isSome := by
  rw [place?, first?, Bool.eq_iff_iff, List.findIdx?_isSome]
  simp

-- Being the first assignment of a key is being the first statement known by it.
theorem assignment?_eq_some_iff : d.assignment? k = some l ↔ d.first? (.key k) = some (.line l) := by
  simp only [assignment?, freeAssignments, List.find?_filterMap, Statement.assignment?_any]
  rw [← first?]
  cases hf : d.first? (.key k)
  case none => simp
  case some s =>
    have ⟨l', hs, hk⟩ := Statement.exists_line_of_identity? (identity?_of_first? hf)
    simp [hs, Statement.assignment?_line hk]

theorem key?_of_assignment? (h : d.assignment? k = some l) : l.key? = some k := by
  simpa using List.find?_some h

theorem assignment?_eq_none_iff : d.assignment? k = none ↔ d.first? (.key k) = none := by
  constructor
  case mp =>
    intro h
    cases hf : d.first? (.key k)
    case none   => rfl
    case some s =>
      have ⟨l, hs, _⟩ := Statement.exists_line_of_identity? (identity?_of_first? hf)
      cases h.symm.trans (assignment?_eq_some_iff.mpr (hs ▸ hf))
  case mpr =>
    intro h
    refine Option.eq_none_iff_forall_ne_some.mpr fun l hl => ?_
    cases h.symm.trans (assignment?_eq_some_iff.mp hl)

theorem exists_first? (hs : s ∈ d.statements) (hi : s.identity? = some i) :
    ∃ s', d.first? i = some s' := by
  apply Option.isSome_iff_exists.mp
  exact List.find?_isSome.mpr ⟨s, hs, by simpa using hi⟩

-- Where no two statements are known by the same identity, each is the first.
theorem first?_of_nodup (h : (d.statements.filterMap (·.identity?)).Nodup) (hs : s ∈ d.statements)
    (hi : s.identity? = some i) : d.first? i = some s := by
  have ⟨s', hf⟩ := exists_first? hs hi
  rw [hf, eq_of_nodup_filterMap h (List.mem_of_find?_eq_some hf) hs (identity?_of_first? hf) hi]

-- No statement stands in a document twice, so a place and the statement there say the same.
theorem place?_eq_some_iff (h : ofSource token source = .ok d) (hs : d.statements[n]? = some s) :
    d.place? i = some n ↔ d.first? i = some s := by
  constructor
  case mp => exact fun hp => getElem?_of_place? hp ▸ hs
  case mpr =>
    intro hf
    have ⟨n', hp⟩ := Option.isSome_iff_exists.mp (isSome_place?.trans (Option.isSome_of_eq_some hf))
    have hn := (getElem?_of_place? hp).trans (hf.trans hs.symm)
    have ⟨hlt, _⟩ := List.getElem?_eq_some_iff.mp ((getElem?_of_place? hp).trans hf)
    exact hp.trans (congrArg some ((List.getElem?_inj hlt (nodup_statements h)).mp hn))

-- The built-in signatures tell apart what identities do.
theorem nodup_signatures_iff :
    (d.statements.filterMap (·.signature)).Nodup ↔ (d.statements.filterMap (·.identity?)).Nodup := by
  have signatures : d.statements.filterMap (·.signature)
      = (d.statements.filterMap (·.identity?)).map Identity.plain := by
    rw [List.map_filterMap]
    exact List.filterMap_congr fun s _ => s.signature_eq
  rw [signatures, List.nodup_map_iff Identity.plain_injective]

-- The built-in signatures of a document.
def marks (d : Document) : List (Option Signature) :=
  d.statements.map fun s => s.identity?.map Identity.signature

theorem first?_marks : Pairing.first? d.marks i.signature.key = d.place? i := by
  have carries (s : Statement) :
      Pairing.carries i.signature.key (s.identity?.map Identity.signature)
        = (s.identity? = some i : Bool) := by
    rw [Bool.eq_iff_iff]
    cases s.identity? <;> simp [Pairing.carries, Identity.key_signature_inj]
  simp [Pairing.first?, marks, place?, Function.comp_def, carries]

theorem partners_marks_iff :
    Pairing.Partners t.marks d.marks n n' x ↔
      ∃ i, x = i.signature ∧ t.place? i = some n ∧ d.place? i = some n' := by
  constructor
  case mp =>
    intro h
    have ⟨s, _, hx⟩ : ∃ s ∈ t.statements, s.identity?.map Identity.signature = some x :=
      List.mem_map.mp (List.mem_of_getElem? h.signed)
    have ⟨i, _, hi⟩ := Option.map_eq_some_iff.mp hx
    subst hi
    exact ⟨i, rfl, first?_marks ▸ h.template, first?_marks ▸ h.destination⟩
  case mpr =>
    intro ⟨i, hx, ht, hd⟩
    have ⟨s, hs, hf⟩ := exists_of_place? ht
    have hi := identity?_of_first? hf
    exact ⟨by simp [marks, hs, hi, hx], by rw [hx, first?_marks, ht], by rw [hx, first?_marks, hd]⟩

end Document
end EnvMerge
