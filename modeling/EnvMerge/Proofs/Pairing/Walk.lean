import EnvMerge.Proofs.Pairing.Partners

namespace EnvMerge.Pairing

variable {ts ds : List (Option Signature)} {k : Datum.Key} {s : Signature} {t d i : Nat}

theorem first?_cons (x : Option Signature) :
    first? (x :: ts) k = if carries k x then some 0 else (first? ts k).map (· + 1) := by
  simp [first?, List.findIdx?_cons]

namespace Index

variable {index index' : Index}

theorem find?_append : find? (index ++ index') k = (find? index k).or (find? index' k) := by
  simp [find?, List.find?_append, Option.map_or]

theorem find?_singleton : find? [(s, i)] k = if s.key = k then some i else none := by
  by_cases h : s.key = k <;> simp [find?, h]

-- What an index holds already comes before all that is added to it.
theorem find?_extend (signatures : List (Option Signature)) :
    find? (extend index i signatures) k
      = (find? index k).or ((first? signatures k).map (· + i)) := by
  induction signatures generalizing index i
  case nil => simp [extend, first?]
  case cons x rest ih =>
    have shift : (first? rest k).map (· + (i + 1)) = ((first? rest k).map (· + 1)).map (· + i) := by
      simp [Function.comp_def, Nat.add_assoc, Nat.add_comm 1]
    cases x
    case none => simp [extend, ih, first?_cons, carries, shift]
    case some s =>
      cases hs : find? index s.key <;> by_cases hk : s.key = k
      · simp [extend, ih, first?_cons, carries, find?_append, find?_singleton, hk, hk ▸ hs]
      · simp [extend, ih, hs, first?_cons, carries, find?_append, find?_singleton, hk, shift]
      · simp [extend, ih, first?_cons, carries, hk, hk ▸ hs]
      · simp [extend, ih, hs, first?_cons, carries, hk, shift]

theorem find?_ofSignatures : find? (ofSignatures ds) k = first? ds k := by
  rw [ofSignatures, find?_extend]
  simp [find?]

end Index

-- The entry of a place of the template, whether it is paired or not.
def walkEntry (ts ds : List (Option Signature)) (t : Nat) : Entry :=
  match ts[t]?.join, partner? ts ds t with
  | some s, some d => .matched t d s
  | s, _           => .templateOnly t s

-- The destination places that some of the given statements are known by.
def Claimed (ds past : List (Option Signature)) (d : Nat) : Prop :=
  ∃ s, some s ∈ past ∧ first? ds s.key = some d

theorem claimed_append_some {past : List (Option Signature)} :
    Claimed ds (past ++ [some s]) d ↔ Claimed ds past d ∨ first? ds s.key = some d := by
  simp only [Claimed, List.mem_append, List.mem_singleton, Option.some.injEq]
  constructor
  case mp =>
    intro ⟨s', h, hd⟩
    cases h
    case inl h => exact .inl ⟨s', h, hd⟩
    case inr h => exact .inr (h ▸ hd)
  case mpr =>
    intro h
    cases h
    case inl h => have ⟨s', h, hd⟩ := h; exact ⟨s', .inl h, hd⟩
    case inr h => exact ⟨s, .inr rfl, h⟩

theorem claimed_append_none {past : List (Option Signature)} :
    Claimed ds (past ++ [none]) d ↔ Claimed ds past d := by
  simp [Claimed]

-- A statement is the first with its signature if no earlier one has claimed its place.
theorem first?_eq_length_iff {past : List (Option Signature)} (rest : List (Option Signature))
    (h : first? ds s.key = some d) :
    first? (past ++ some s :: rest) s.key = some past.length ↔ ¬Claimed ds past d := by
  rw [first?_eq_some_iff]
  constructor
  case mp =>
    intro ⟨_, hj⟩ ⟨s', hm, hd⟩
    have ⟨j, hlt, he⟩ := List.mem_iff_getElem.mp hm
    have hs' : (past ++ some s :: rest)[j]? = some (some s') := by
      rw [List.getElem?_append_left hlt, List.getElem?_eq_getElem hlt, he]
    exact hj j hlt s' hs' (first?_inj hd h)
  case mpr =>
    intro hc
    refine ⟨⟨s, by simp, rfl⟩, ?_⟩
    intro j hlt s' hs' hk
    rw [List.getElem?_append_left hlt] at hs'
    exact hc ⟨s', List.mem_of_getElem? hs', hk ▸ h⟩

section Walk

variable {past rest : List (Option Signature)} {taken : List Nat}

theorem walkEntry_none :
    walkEntry (past ++ none :: rest) ds past.length = .templateOnly past.length none := by
  simp [walkEntry, partner?]

theorem walkEntry_unknown (h : first? ds s.key = none) :
    walkEntry (past ++ some s :: rest) ds past.length = .templateOnly past.length (some s) := by
  simp [walkEntry, partner?, h]

theorem walkEntry_claimed (h : first? ds s.key = some d) (hc : Claimed ds past d) :
    walkEntry (past ++ some s :: rest) ds past.length = .templateOnly past.length (some s) := by
  have := mt (first?_eq_length_iff rest h).mp (not_not_intro hc)
  simp [walkEntry, partner?, this]

theorem walkEntry_free (h : first? ds s.key = some d) (hc : ¬Claimed ds past d) :
    walkEntry (past ++ some s :: rest) ds past.length = .matched past.length d s := by
  simp [walkEntry, partner?, (first?_eq_length_iff rest h).mpr hc, h]

-- The places taken are those that the statements walked so far are known by. This carries the walk
-- through: a statement finds its place taken if and only if it is not the first with its signature.
theorem walk_spec (past rest : List (Option Signature)) (h : ∀ d, d ∈ taken ↔ Claimed ds past d) :
    let walked := walk (.ofSignatures ds) taken past.length rest
    walked.1 = (List.range' past.length rest.length).map (walkEntry (past ++ rest) ds) ∧
      ∀ d, d ∈ walked.2 ↔ Claimed ds (past ++ rest) d := by
  induction rest generalizing past taken
  case nil => simpa [walk] using h
  case cons x rest ih =>
    replace ih (taken : List Nat) (h : ∀ d, d ∈ taken ↔ Claimed ds (past ++ [x]) d) := ih (past ++ [x]) h
    simp only [List.append_assoc, List.singleton_append, List.length_append, List.length_singleton] at ih
    cases x
    case none =>
      have ⟨he, ht⟩ := ih taken fun d => (h d).trans claimed_append_none.symm
      simp [walk, List.range'_succ, walkEntry_none, he, ht]
    case some s =>
      cases hf : first? ds s.key
      case none =>
        have ⟨he, ht⟩ := ih taken fun d => by simp [h, claimed_append_some, hf]
        simp [walk, Index.find?_ofSignatures, hf, List.range'_succ, walkEntry_unknown hf, he, ht]
      case some d' =>
        by_cases hc : Claimed ds past d'
        case pos =>
          have ⟨he, ht⟩ := ih taken fun d => by
            rw [h, claimed_append_some, hf]
            exact ⟨.inl, fun h => h.elim id fun h => by cases h; exact hc⟩
          have hm := (h d').mpr hc
          simp [walk, Index.find?_ofSignatures, hf, hm, List.range'_succ, walkEntry_claimed hf hc, he, ht]
        case neg =>
          have ⟨he, ht⟩ := ih (d' :: taken) fun d => by
            simp [h, claimed_append_some, hf, or_comm, eq_comm]
          have hm := mt (h d').mp hc
          simp [walk, Index.find?_ofSignatures, hf, hm, List.range'_succ, walkEntry_free hf hc, he, ht]

theorem leftOver_eq (taken : List Nat) (past rest : List (Option Signature)) :
    leftOver taken past.length rest
      = ((List.range' past.length rest.length).filter (· ∉ taken)).map
        fun d => .destinationOnly d (past ++ rest)[d]?.join := by
  induction rest generalizing past
  case nil => simp [leftOver]
  case cons x rest ih =>
    replace ih := ih (past ++ [x])
    simp only [List.append_assoc, List.singleton_append, List.length_append, List.length_singleton] at ih
    by_cases h : past.length ∈ taken <;> simp [leftOver, List.range'_succ, h, ih]

end Walk

theorem claimed_iff : Claimed ds ts d ↔ ∃ t s, Partners ts ds t d s := by
  constructor
  case mp =>
    intro ⟨s, hm, hd⟩
    have ⟨t, ht⟩ := exists_first?_of_mem hm
    have ⟨⟨s', hs, hk⟩, _⟩ := first?_eq_some_iff.mp ht
    exact ⟨t, s', hs, hk ▸ ht, hk ▸ hd⟩
  case mpr =>
    intro ⟨t, s, h⟩
    exact ⟨s, List.mem_of_getElem? h.signed, h.destination⟩

end EnvMerge.Pairing
