import EnvMerge.Proofs.Merge.LineByLine

namespace EnvMerge

variable {o o' : Options} {x l : Line} {append : Bool} {token : Text}

-- Options that differ at most in how they come to the side that wins two assignments.
structure Options.Alike (o o' : Options) : Prop where
  generator  : o.generator = none
  generator' : o'.generator = none
  append     : o.append = o'.append
  token      : o.token = o'.token
  side       : ∀ x l : Line, x.isAssignment → l.isAssignment →
    o.preference.side o.classifiers (.statement (.line x)) (.statement (.line l))
      = o'.preference.side o'.classifiers (.statement (.line x)) (.statement (.line l))

theorem Options.Alike.refl (h : o.generator = none) : o.Alike o :=
  ⟨h, h, rfl, rfl, fun _ _ _ _ => rfl⟩

namespace Merge

open Pairing Document

variable {template destination : Source} {t d : Document} {r : Draft} {c : Contribution} {n : Nat}
variable {ts ds : List (Option Signature)} {kept : List Contribution}

theorem Resolves.alike (h : Resolves o t d t.marks d.marks n c) (alike : o.Alike o') :
    Resolves o' t d t.marks d.marks n c := by
  have asked {l : Line} {s n' y} (here : d.statements[n]? = some (.line l)) (there : t.statements[n']? = some s)
      (partners : Partners t.marks d.marks n' n y) :
      o.preference.side o.classifiers (.statement s) (.statement (.line l))
        = o'.preference.side o'.classifiers (.statement s) (.statement (.line l)) := by
    have ⟨k, x, hk, hs, hx, _⟩ := exists_of_partners partners there here
    subst hs
    exact alike.side x l (Option.isSome_of_eq_some (key?_of_assignment? hx)) (Option.isSome_of_eq_some hk)
  cases h
  case frozen here                             => exact .frozen here
  case alone here alone                        => exact .alone here alone
  case template here partners there wins       =>
    exact .template here partners there (asked here there partners ▸ wins)
  case destination here partners there wins    =>
    exact .destination here partners there (asked here there partners ▸ wins)

theorem additions_alike (alike : o.Alike o') : additions o t ts ds = additions o' t ts ds := by
  refine List.filterMap_congr fun n _ => ?_
  rw [ofTemplate, ofTemplate, alike.append]

theorem merge_alike (alike : o.Alike o') (h : merge o t d = .ok r) : merge o' t d = .ok r := by
  have ⟨ts, ds, kept, trail⟩ := merge_eq_ok_iff.mp h
  have ⟨hts, hds⟩ := trail.eq_marks alike.generator
  subst hts hds
  have signer : o.signer = o'.signer := by
    rw [Options.signer, Options.signer, alike.generator, alike.generator']
  refine merge_eq_ok_iff.mpr ⟨t.marks, d.marks, kept, signer ▸ trail.templateSigned,
    signer ▸ trail.destinationSigned, trail.resolved.imp fun _ _ hr => hr.alike alike, ?_⟩
  exact additions_alike alike ▸ trail.drafted

-- If the classifiers of both options answer, then nothing tells the options apart.
theorem outcome_alike (alike : o.Alike o') (answers : o.Answers) :
    outcome o template destination = outcome o' template destination := by
  have same (t d : Document) : merge o t d = merge o' t d := by
    have ⟨r, hr⟩ := exists_merge answers t d
    rw [hr, merge_alike alike hr]
  cases ht : ofSource o.token template <;> cases hd : ofSource o.token destination <;>
    simp only [outcome, ← alike.token, ht, hd, same]

end Merge

-- The side that a preference by kind comes down to.
def TagSides.forAssignments (sides : TagSides) : Side :=
  (sides.get? "assignment".toList).getD ((sides.get? defaultTag).getD .destination)

-- Options with the preference that typed preferences on a command line make.
def Options.byKind (sides : TagSides) (append : Bool) (token : Text) : Options :=
  ⟨.byTag sides, append, token, none, [Rules.kind]⟩

def Options.oneSided (side : Side) (append : Bool) (token : Text) : Options :=
  ⟨.fixed side, append, token, none, []⟩

variable {sides : TagSides}

theorem Options.byKind_answers : (byKind sides append token).Answers :=
  answers_of_rules nofun (List.forall_mem_singleton.mpr .kind)

theorem Options.oneSided_answers {side : Side} : (oneSided side append token).Answers where
  signs      := nofun
  classifies := nofun

theorem kindName_of_isAssignment (h : l.isAssignment) :
    (Statement.line l).kindName = "assignment".toList := by
  have ⟨key, hk⟩ := Option.isSome_iff_exists.mp h
  have ⟨value, hc⟩ : ∃ value, l.content = .assignment key value := by
    simp only [Line.key?] at hk
    cases hc : l.content <;> rw [hc] at hk <;> cases hk
    exact ⟨_, rfl⟩
  exact congrArg Content.kindName hc

theorem Classification.first?_of_word {classify : Item → Except Failure Item} {i : Item} {tag : Text}
    (h : classify i = .ok (Rules.word tag)) (hne : tag ≠ TagSides.defaultTag) :
    first? sides.ofTag? i [classify] = .ok (sides.get? tag) := by
  have read : sides.ofTag? (Rules.word tag) = .ok (sides.get? tag) := by
    simp only [TagSides.ofTag?, Rules.word, Datum.unhashable?, if_neg hne]
  rw [Rules.word] at read h
  simp only [first?, h, bind, Except.bind, read]
  cases sides.get? tag <;> rfl

theorem first?_kind (h : l.isAssignment) :
    Classification.first? sides.ofTag? (.statement (.line l)) [Rules.kind]
      = .ok (sides.get? "assignment".toList) := by
  refine Classification.first?_of_word ?_ (by decide)
  exact congrArg (fun name => Except.ok (Rules.word name)) (kindName_of_isAssignment h)

theorem Options.byKind_alike :
    (byKind sides append token).Alike (oneSided sides.forAssignments append token) where
  generator  := rfl
  generator' := rfl
  append     := rfl
  token      := rfl
  side       := by
    intro x l hx hl
    simp only [byKind, oneSided, Preference.side, first?_kind hx, first?_kind hl, TagSides.forAssignments]
    cases sides.get? "assignment".toList <;> rfl

end EnvMerge
