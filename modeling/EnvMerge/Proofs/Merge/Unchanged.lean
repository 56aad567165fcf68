import EnvMerge.Proofs.Merge.LineByLine

namespace EnvMerge

open Pairing Document

variable {o : Options} {template template' destination : Source} {t d : Document} {r : Draft}
variable {ts ds ss : List (Option Signature)} {kept : List Contribution} {n : Nat} {s : Statement}
variable {c : Contribution} {x x' y : Text}

namespace Merge

theorem lines_of_keep (hs : d.statements[n]? = some s) (h : keep d n = some c) :
    c.lines = s.rawLines := by
  unfold keep at h
  rw [hs] at h
  cases s <;> cases h <;> rfl

namespace Resolves

-- If the destination wins every pair, then the template is not heard.
theorem keep_eq_some (hp : o.preference = .fixed .destination) (h : Resolves o t d ts ds n c) :
    keep d n = some c := by
  cases h
  case template l i sig s here partners there wins =>
    rw [hp] at wins
    cases wins
  all_goals simp [keep, *]

-- A statement is not replaced unless by itself.
theorem lines_eq_of_self (hs : d.statements[n]? = some s) (h : Resolves o d d ss ss n c) :
    c.lines = s.rawLines := by
  cases h
  case frozen b here =>
    cases hs.symm.trans here
    rfl
  case alone l here _ =>
    cases hs.symm.trans here
    rfl
  case template l i sig s' here partners there _ =>
    cases partners.eq_of_self
    cases hs.symm.trans there
    rfl
  case destination l i sig s' here _ _ _ =>
    cases hs.symm.trans here
    rfl

end Resolves

namespace Trail

-- If each statement comes to its own lines, then all of them together come to those of the source.
theorem flatMap_lines_eq_split {token : Text} (trail : Trail o t (ofText token y) r ts ds kept)
    (h : ∀ n s c, (ofText token y).statements[n]? = some s →
      Resolves o t (ofText token y) ts ds n c → c.lines = s.rawLines) :
    kept.flatMap (·.lines) = Line.split y :=
  (trail.flatMap_lines_kept h).trans (flatMap_rawLines_statements token y)

-- Whatever the template is, the same is kept of the destination.
theorem kept_eq (hp : o.preference = .fixed .destination) (trail : Trail o t d r ts ds kept) :
    kept = (List.range d.statements.length).filterMap (keep d) :=
  eq_filterMap_of_forall₂ (trail.resolved.imp fun _ _ h => h.keep_eq_some hp)

end Trail

-- If the destination wins every pair, then its lines come out as they went in, whatever the template.
theorem exists_split_prefix (hp : o.preference = .fixed .destination) (hs : o.Signs)
    (ht : template.decode = .ok x) (ht' : template'.decode = .ok x')
    (hd : destination.decode = .ok y) :
    ∃ r r', Yields o template destination r ∧ Yields o template' destination r' ∧
      Line.split y <+: r.lines ∧
      (o.append = false → r.lines = Line.split y ∧ r'.text = r.text ∧ r'.decisions = r.decisions) := by
  replace ht := ofSource_of_decode o.token ht
  replace ht' := ofSource_of_decode o.token ht'
  replace hd := ofSource_of_decode o.token hd
  have ⟨r, hr⟩ := exists_merge_of_fixed hp hs (ofText o.token x) (ofText o.token y)
  have ⟨r', hr'⟩ := exists_merge_of_fixed hp hs (ofText o.token x') (ofText o.token y)
  refine ⟨r, r', (yields_iff ht hd).mpr hr, (yields_iff ht' hd).mpr hr', ?_⟩
  have ⟨ts, ds, kept, trail⟩ := merge_eq_ok_iff.mp hr
  have ⟨ts', ds', kept', trail'⟩ := merge_eq_ok_iff.mp hr'
  have lines : kept.flatMap (·.lines) = Line.split y :=
    trail.flatMap_lines_eq_split fun _ _ _ hs resolves => lines_of_keep hs (resolves.keep_eq_some hp)
  constructor
  case left =>
    rw [trail.lines_eq, lines]
    exact List.prefix_append _ _
  case right =>
    intro off
    have drafted := trail.drafted_of_append_eq_false off
    have drafted' := trail'.drafted_of_append_eq_false off
    have same : r' = r := by rw [drafted, drafted', trail.kept_eq hp, trail'.kept_eq hp]
    exact ⟨drafted ▸ lines, same ▸ rfl, same ▸ rfl⟩

-- Options under which the destination wins every pair, and a classifier that does not answer.
def destinationWins : Options where
  preference  := .fixed .destination
  append      := false
  token       := ['t']
  generator   := some Rules.lowerKey
  classifiers := [Rules.refuse []]

theorem destinationWins_signs : destinationWins.Signs :=
  Options.signs_of_rules fun _ hr => Option.mem_some.mp hr ▸ .lowerKey

def foreignBlock : Text :=
  Text.joinLines <| ["# t:freeze", "A=9", "# t:unfreeze", "B=3"].map String.toList

def ownBlock : Text :=
  Text.joinLines <| ["b=2 ", "# t:freeze", "A=1\r", "# t:unfreeze", "a=9", "# t:freeze"].map String.toList

theorem exists_split_prefix_of_own_block :
    ∃ r r', Yields destinationWins (.text foreignBlock) (.text ownBlock) r ∧
      Yields destinationWins (.text "a=0".toList) (.text ownBlock) r' ∧
      r.lines = ["b=2 ", "# t:freeze", "A=1", "# t:unfreeze", "a=9", "# t:freeze"].map String.toList ∧
      r'.text = r.text ∧ r'.decisions = r.decisions := by
  have ⟨r, r', hy, hy', _, same⟩ : ∃ r r',
      Yields destinationWins (.text foreignBlock) (.text ownBlock) r ∧
        Yields destinationWins (.text "a=0".toList) (.text ownBlock) r' ∧ _ :=
    exists_split_prefix rfl destinationWins_signs rfl rfl rfl
  have ⟨lines, text, decisions⟩ := same rfl
  exact ⟨r, r', hy, hy', lines.trans (by decide +kernel), text, decisions⟩

-- An addition has lines.
theorem flatMap_lines_additions_eq_nil_iff (ht : ofSource o.token template = .ok t) :
    (additions o t ts ds).flatMap (·.lines) = [] ↔ additions o t ts ds = [] := by
  constructor
  case mpr => exact fun h => by rw [h, List.flatMap_nil]
  case mp  =>
    intro h
    refine List.eq_nil_iff_forall_not_mem.mpr fun c hc => ?_
    have ⟨n, _, s, hs, _, _, he⟩ := mem_additions.mp hc
    have lines : c.lines = s.lines.map (·.raw) := by rw [he, ← s.rawLines_eq]; rfl
    rw [List.flatMap_eq_nil_iff.mp h c hc, eq_comm, List.map_eq_nil_iff] at lines
    exact lines_ne_nil ht (List.mem_of_getElem? hs) lines

-- A document merged with itself gets nothing added if each of its statements that may be added is the
-- first with its signature.
theorem additions_self_eq_nil_iff (happ : o.append = true) (hl : ss.length = d.statements.length) :
    additions o d ss ss = [] ↔
      ∀ n s, d.statements[n]? = some s → isAddable s → IsFirst ss n := by
  constructor
  case mp =>
    intro h n s hs hadd
    have hn : n < ss.length := hl ▸ (List.getElem?_eq_some_iff.mp hs).1
    cases mem_alone_or_partners ss hn
    case inr partners => exact isFirst_iff.mpr partners
    case inl alone    =>
      have added := mem_additions.mpr ⟨n, alone, s, hs, happ, hadd, rfl⟩
      rw [h] at added
      cases added
  case mpr =>
    intro h
    refine List.eq_nil_iff_forall_not_mem.mpr fun c hc => ?_
    have ⟨n, alone, s, hs, _, hadd, _⟩ := mem_additions.mp hc
    have ⟨d, s, partners⟩ := isFirst_iff.mp (h n s hs hadd)
    exact (mem_alone.mp alone).2 d s partners

-- Merging a source with itself.
theorem exists_lines_eq_of_self (hs : o.Signs) (ht : template.decode = .ok y)
    (hd : destination.decode = .ok y) :
    ∃ ss, signatures o.signer (ofText o.token y) = .ok ss ∧
      (o.Answers → ∃ r, Yields o template destination r) ∧
      ∀ r, Yields o template destination r →
        (o.append = false → r.lines = Line.split y) ∧
        (o.append = true → (r.lines = Line.split y ↔
          ∀ n s, (ofText o.token y).statements[n]? = some s → isAddable s → IsFirst ss n)) := by
  replace ht := ofSource_of_decode o.token ht
  replace hd := ofSource_of_decode o.token hd
  have ⟨ss, hss⟩ := exists_signatures hs (ofText o.token y)
  refine ⟨ss, hss, ?answered, ?lines⟩
  case answered =>
    intro h
    have ⟨r, hr⟩ := exists_merge h (ofText o.token y) (ofText o.token y)
    exact ⟨r, (yields_iff ht hd).mpr hr⟩
  case lines =>
    intro r hy
    have ⟨kept, trail⟩ := (merge_eq_ok_iff_of_signed hss hss).mp ((yields_iff ht hd).mp hy)
    have lines : kept.flatMap (·.lines) = Line.split y :=
      trail.flatMap_lines_eq_split fun _ _ _ hs resolves => resolves.lines_eq_of_self hs
    constructor
    case left => exact fun off => trail.drafted_of_append_eq_false off ▸ lines
    case right =>
      intro on
      rw [trail.lines_eq, lines, List.append_right_eq_self, flatMap_lines_additions_eq_nil_iff ht]
      exact additions_self_eq_nil_iff on (length_signatures hss)

-- Options under which keys that differ in case only are the same, with additions.
def caseless : Options where
  preference  := .byTag [("assignment".toList, .template)]
  append      := true
  token       := ['t']
  generator   := some Rules.lowerKey
  classifiers := [Rules.kind]

theorem caseless_answers : caseless.Answers :=
  Options.answers_of_rules (fun _ hr => Option.mem_some.mp hr ▸ .lowerKey)
    (List.forall_mem_singleton.mpr .kind)

def keyTwice : Text :=
  Text.joinLines <| ["# c", "A=1", "# t:freeze", "B=2", "# t:unfreeze", "b=3", "a=4"].map String.toList

-- The second assignment of a key is added once more.
theorem exists_lines_eq_of_self_of_key_twice :
    ∃ ss r, signatures caseless.signer (ofText ['t'] keyTwice) = .ok ss ∧
      Yields caseless (.text keyTwice) (.bytes (Utf8.encode keyTwice)) r ∧
      r.lines = Line.split keyTwice ++ ["a=4".toList] ∧
      ¬∀ n s, (ofText ['t'] keyTwice).statements[n]? = some s → isAddable s → IsFirst ss n := by
  have decoded : (Source.bytes (Utf8.encode keyTwice)).decode = .ok keyTwice := by
    decide +kernel
  have read : (Source.text keyTwice).decode = .ok keyTwice := rfl
  have ⟨ss, hss, answered, same⟩ := exists_lines_eq_of_self caseless_answers.signs read decoded
  have ⟨r, hy⟩ := answered caseless_answers
  have lines : r.lines = Line.split keyTwice ++ ["a=4".toList] :=
    hy.eq_of_ordered rfl (ofSource_of_decode _ decoded) (by decide +kernel)
  refine ⟨ss, r, hss, hy, lines, fun first => ?_⟩
  have unchanged := ((same r hy).2 rfl).mpr first
  simp [lines] at unchanged

end Merge
end EnvMerge
