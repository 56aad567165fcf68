import EnvMerge.Proofs.Merge.LineByLine

namespace EnvMerge

namespace Pairing

variable {ts ds : List (Option Signature)} {s : Signature} {t d n : Nat} {e : Entry}

-- Whether an entry is a match of the template's statement in place `n`.
def Entry.matches (n : Nat) : Entry → Bool
  | matched t _ _ => t == n
  | _             => false

theorem Entry.matches_iff : e.matches n ↔ ∃ d s, e = .matched n d s := by
  cases e <;> simp [Entry.matches]

theorem any_matches_arranged : (arranged ts ds).any (·.matches n) = (partner? ts ds n).isSome := by
  rw [Bool.eq_iff_iff, List.any_eq_true, Option.isSome_iff_exists]
  constructor
  case mp =>
    intro ⟨e, he, hm⟩
    have ⟨d, s, h⟩ := Entry.matches_iff.mp hm
    subst h
    exact ⟨d, partner?_eq_some_iff.mpr ⟨s, matched_mem_arranged_iff.mp he⟩⟩
  case mpr =>
    intro ⟨d, h⟩
    have ⟨s, partners⟩ := partner?_eq_some_iff.mp h
    exact ⟨_, matched_mem_arranged_iff.mpr partners, Entry.matches_iff.mpr ⟨d, s, rfl⟩⟩

end Pairing

namespace Draft

variable {r : Draft} {cs added : List Contribution}

-- Whether a draft is another one with the given contributions after it.
structure Extends (added : List Contribution) (r r' : Draft) : Prop where
  lines     : r'.lines = r.lines ++ added.flatMap (·.lines)
  decisions : r'.decisions = r.decisions ++ added.map (·.decision)

theorem extends_ofContributions_iff :
    Extends added (.ofContributions cs) r ↔ r = .ofContributions (cs ++ added) := by
  constructor
  case mp =>
    intro ⟨lines, decisions⟩
    have ⟨_, _⟩ := r
    simp only [ofContributions] at lines decisions
    simp [ofContributions, lines, decisions]
  case mpr =>
    intro h
    exact ⟨by simp [h, ofContributions], by simp [h, ofContributions]⟩

end Draft

namespace Merge

open Pairing

variable {o : Options} {template destination : Source} {t d : Document} {r r' : Draft}
variable {ts ds : List (Option Signature)} {kept : List Contribution} {n : Nat} {c : Contribution}

-- What there is to add: the assignments and blocks of the template that no entry matches, in order.
def lone (t : Document) (entries : List Entry) : List Contribution :=
  t.statements.zipIdx.filterMap fun (s, n) =>
    if isAddable s && !entries.any (·.matches n) then some (.ofStatement .added .template n s)
    else none

theorem additions_eq_lone (happ : o.append = true) (hl : ts.length = t.statements.length) :
    additions o t ts ds = lone t (arranged ts ds) := by
  have places : List.range ts.length = t.statements.zipIdx.map (·.2) := by
    rw [List.zipIdx_map_snd, hl, List.range_eq_range']
  rw [additions, alone, List.filterMap_filter, places, List.filterMap_map, lone]
  apply List.filterMap_congr
  rintro ⟨s, n⟩ hs
  have here : t.statements[n]? = some s := List.mk_mem_zipIdx_iff_getElem?.mp hs
  simp only [Function.comp_apply, ofTemplate, here, happ, any_matches_arranged]
  cases partner? ts ds n <;> simp

-- Whether additions are wanted makes no difference to what is kept.
theorem Resolves.with_append (append : Bool) (h : Resolves o t d ts ds n c) :
    Resolves { o with append } t d ts ds n c := by
  cases h
  case frozen b here                                  => exact .frozen here
  case alone l here alone                             => exact .alone here alone
  case template l i sig s here partners there wins    => exact .template here partners there wins
  case destination l i sig s here partners there wins => exact .destination here partners there wins

theorem Trail.with_append (append : Bool) (h : Trail o t d r ts ds kept) :
    Trail { o with append } t d
      (.ofContributions (kept ++ additions { o with append } t ts ds)) ts ds kept :=
  ⟨h.templateSigned, h.destinationSigned, h.resolved.imp fun _ _ h => h.with_append append, rfl⟩

theorem merge_append_iff (hts : signatures o.signer t = .ok ts) (hds : signatures o.signer d = .ok ds) :
    merge { o with append := true } t d = .ok r' ↔
      ∃ r, merge { o with append := false } t d = .ok r ∧ r.Extends (lone t (arranged ts ds)) r' := by
  have added : additions { o with append := true } t ts ds = lone t (arranged ts ds) :=
    additions_eq_lone rfl (length_signatures hts)
  simp only [merge_eq_ok_iff_of_signed (o := { o with append := true }) hts hds,
    merge_eq_ok_iff_of_signed (o := { o with append := false }) hts hds]
  constructor
  case mp =>
    intro ⟨kept, trail⟩
    have off := trail.with_append false
    refine ⟨_, ⟨kept, off⟩, ?_⟩
    rw [off.drafted_of_append_eq_false rfl, Draft.extends_ofContributions_iff, ← added]
    exact trail.drafted
  case mpr =>
    intro ⟨r, ⟨kept, trail⟩, extended⟩
    rw [trail.drafted_of_append_eq_false rfl, Draft.extends_ofContributions_iff, ← added] at extended
    exact ⟨kept, extended ▸ trail.with_append true⟩

-- A merge with additions yields what the merge without them yields, and after it the lone statements
-- of the template.
theorem exists_yields_append_iff (hs : o.Signs) (ht : Document.ofSource o.token template = .ok t)
    (hd : Document.ofSource o.token destination = .ok d) :
    ∃ entries, Pairing.ofDocuments o.signer t d = .ok entries ∧
      (o.Answers → ∃ r, Yields { o with append := false } template destination r) ∧
      ∀ r', Yields { o with append := true } template destination r' ↔
        ∃ r, Yields { o with append := false } template destination r ∧
          r.Extends (lone t entries) r' := by
  have ⟨ts, hts⟩ := exists_signatures hs t
  have ⟨ds, hds⟩ := exists_signatures hs d
  have yields (append : Bool) (r : Draft) : Yields { o with append } template destination r ↔
      merge { o with append } t d = .ok r :=
    yields_iff ht hd
  refine ⟨arranged ts ds, ofSigned_eq hts hds, ?answered, ?extended⟩
  case answered =>
    intro ⟨signs, classifies⟩
    have answers : { o with append := false }.Answers := ⟨signs, classifies⟩
    have ⟨r, hr⟩ := exists_merge answers t d
    exact ⟨r, (yields false r).mpr hr⟩
  case extended =>
    intro r'
    simp only [yields, merge_append_iff hts hds]

-- Options under which keys with the same first character are the same, and a block is like no other.
def byInitial : Options where
  preference  := .byTag [("assignment".toList, .template)]
  append      := false
  token       := ['t']
  generator   := some (Rules.keyPrefix 1)
  classifiers := [Rules.kind]

theorem byInitial_answers : byInitial.Answers :=
  Options.answers_of_rules (fun _ hr => Option.mem_some.mp hr ▸ .tagging (.keyPrefix 1))
    (List.forall_mem_singleton.mpr .kind)

def manyLone : Text :=
  Text.joinLines <| ["AB=1", "AC=2", "# c", "# t:freeze", "D=1", "# t:unfreeze"].map String.toList

def initials : Text :=
  Text.joinLines <| ["AX=0", "# d", "B=5"].map String.toList

-- A statement with the signature of an earlier one is lone, and so is a block without a signature.
theorem exists_yields_append_iff_of_many_lone :
    ∃ entries r r',
      Pairing.ofDocuments byInitial.signer (.ofText ['t'] manyLone) (.ofText ['t'] initials)
        = .ok entries ∧
      Yields { byInitial with append := false } (.text manyLone) (.text initials) r ∧
      Yields { byInitial with append := true } (.text manyLone) (.text initials) r' ∧
      r.Extends (lone (.ofText ['t'] manyLone) entries) r' ∧
      r.lines = ["AB=1", "# d", "B=5"].map String.toList ∧
      (lone (.ofText ['t'] manyLone) entries).map (·.decision)
        = [⟨.added, some .template, 1, some 1, some ⟨2, 2⟩⟩,
          ⟨.added, some .template, 3, some 3, some ⟨4, 6⟩⟩] := by
  have template : Document.ofSource byInitial.token (.text manyLone) = .ok (.ofText ['t'] manyLone) := rfl
  have destination : Document.ofSource byInitial.token (.text initials) = .ok (.ofText ['t'] initials) :=
    rfl
  have ⟨entries, paired, answered, extended⟩ :=
    exists_yields_append_iff byInitial_answers.signs template destination
  have ⟨r, hy⟩ := answered byInitial_answers
  have ⟨r', hr'⟩ : ∃ r', r.Extends (lone (.ofText ['t'] manyLone) entries) r' := ⟨⟨_, _⟩, rfl, rfl⟩
  have lines : r.lines = ["AB=1", "# d", "B=5"].map String.toList :=
    hy.eq_of_ordered template destination (by decide +kernel)
  have decisions : (do
      let ts ← signatures byInitial.signer (.ofText ['t'] manyLone)
      let ds ← signatures byInitial.signer (.ofText ['t'] initials)
      return (lone (.ofText ['t'] manyLone) (arranged ts ds)).map Contribution.decision).toOption
        = some [⟨.added, some .template, 1, some 1, some ⟨2, 2⟩⟩,
          ⟨.added, some .template, 3, some 3, some ⟨4, 6⟩⟩] := by
    decide +kernel
  have ⟨ts, hts⟩ := exists_signatures byInitial_answers.signs (.ofText ['t'] manyLone)
  have ⟨ds, hds⟩ := exists_signatures byInitial_answers.signs (.ofText ['t'] initials)
  cases paired.symm.trans (ofSigned_eq hts hds)
  rw [Options.signer, hts, hds] at decisions
  exact ⟨_, r, r', paired, hy, (extended r').mpr ⟨r, hy, hr'⟩, hr', lines, Option.some.inj decisions⟩

end Merge
end EnvMerge
