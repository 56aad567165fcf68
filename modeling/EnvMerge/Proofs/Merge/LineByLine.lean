import EnvMerge.Proofs.Merge.Matching
import EnvMerge.Proofs.Merge.Run
import EnvMerge.Rules

namespace EnvMerge.Merge

open Pairing Document

variable {o : Options} {template destination : Source} {t d : Document} {r : Draft} {c : Contribution}
variable {ts ds : List (Option Signature)} {kept : List Contribution} {s : Statement} {b : Block}
variable {l x : Line} {n n' : Nat} {k : Text}

-- The line of the template that wins over the given line of the destination. Only the first free
-- assignment of a key can be replaced, and only by the first free one of the template.
def replacement? (o : Options) (t d : Document) (l : Line) : Option Line := do
  let k ← l.key?
  let x ← t.assignment? k
  if d.assignment? k = some l ∧
      o.preference.side o.classifiers (.statement (.line x)) (.statement (.line l)) = .ok .template
  then some x else none

-- What a merge puts out in place of the given line of the destination.
def lineFor (o : Options) (t d : Document) (l : Line) : Text :=
  ((replacement? o t d l).getD l).raw

theorem replacement?_eq_some_iff :
    replacement? o t d l = some x ↔
      ∃ k, l.key? = some k ∧ t.assignment? k = some x ∧ d.assignment? k = some l ∧
        o.preference.side o.classifiers (.statement (.line x)) (.statement (.line l))
          = .ok .template := by
  simp only [replacement?, Option.bind_eq_bind, Option.bind_eq_some_iff, Option.ite_none_right_eq_some,
    Option.some.injEq]
  constructor
  case mp =>
    intro ⟨k, hk, x', hx, ⟨hd, hs⟩, he⟩
    subst he
    exact ⟨k, hk, hx, hd, hs⟩
  case mpr => exact fun ⟨k, hk, hx, hd, hs⟩ => ⟨k, hk, x, hx, ⟨hd, hs⟩, rfl⟩

theorem lineFor_of_some (h : replacement? o t d l = some x) : lineFor o t d l = x.raw := by
  simp [lineFor, h]

theorem lineFor_of_none (h : replacement? o t d l = none) : lineFor o t d l = l.raw := by
  simp [lineFor, h]

theorem lineFor_of_forall_ne (h : ∀ x, replacement? o t d l ≠ some x) : lineFor o t d l = l.raw :=
  lineFor_of_none (Option.eq_none_iff_forall_ne_some.mpr h)

theorem exists_of_partners {y : Signature} (h : Partners t.marks d.marks n n' y)
    (ht : t.statements[n]? = some s) (hd : d.statements[n']? = some (.line l)) :
    ∃ k x, l.key? = some k ∧ s = .line x ∧ t.assignment? k = some x ∧ d.assignment? k = some l := by
  have ⟨i, _, hn, hn'⟩ := partners_marks_iff.mp h
  have first := (getElem?_of_place? hn).symm.trans ht
  have first' := (getElem?_of_place? hn').symm.trans hd
  have ⟨k, hk, hi⟩ := Option.map_eq_some_iff.mp (identity?_of_first? first')
  subst hi
  have ⟨x, hs, _⟩ := Statement.exists_line_of_identity? (identity?_of_first? first)
  subst hs
  exact ⟨k, x, hk, rfl, assignment?_eq_some_iff.mpr first, assignment?_eq_some_iff.mpr first'⟩

theorem mem_statements_of_replacement? (h : replacement? o t d l = some x) : .line l ∈ d.statements := by
  have ⟨k, _, _, hd, _⟩ := replacement?_eq_some_iff.mp h
  exact List.mem_of_find?_eq_some (assignment?_eq_some_iff.mp hd)

theorem exists_partners_of_replacement? (hd : ofSource o.token destination = .ok d)
    (hs : d.statements[n]? = some (.line l)) (h : replacement? o t d l = some x) :
    ∃ n' y, Partners t.marks d.marks n' n y := by
  have ⟨k, _, hx, hl, _⟩ := replacement?_eq_some_iff.mp h
  have place := (place?_eq_some_iff hd hs).mpr (assignment?_eq_some_iff.mp hl)
  have first := Option.isSome_of_eq_some (assignment?_eq_some_iff.mp hx)
  have ⟨n', hn'⟩ := Option.isSome_iff_exists.mp (isSome_place?.trans first)
  exact ⟨n', _, partners_marks_iff.mpr ⟨_, rfl, hn', place⟩⟩

-- The lines inside a block are never replaced.
theorem lineFor_of_mem_block (hd : ofSource o.token destination = .ok d)
    (hs : .frozen b ∈ d.statements) (hl : l ∈ b.lines) : lineFor o t d l = l.raw := by
  refine lineFor_of_forall_ne fun x h => ?_
  have hf := mem_statements_of_replacement? h
  exact Statement.noConfusion (eq_of_mem_lines hd hf hs (List.mem_singleton.mpr rfl) hl)

-- Each statement of the destination puts out as many lines as it has.
theorem Resolves.lines_eq (hd : ofSource o.token destination = .ok d)
    (hs : d.statements[n]? = some s) (h : Resolves o t d t.marks d.marks n c) :
    c.lines = s.lines.map (lineFor o t d) := by
  cases h
  case frozen b here =>
    cases hs.symm.trans here
    exact List.map_congr_left fun l hl => (lineFor_of_mem_block hd (List.mem_of_getElem? hs) hl).symm
  case alone l here alone =>
    cases hs.symm.trans here
    refine congrArg (· :: []) (lineFor_of_forall_ne fun x h => ?_).symm
    have ⟨n', y, partners⟩ := exists_partners_of_replacement? hd hs h
    exact alone n' y partners
  case template l n' y s' here partners there wins =>
    cases hs.symm.trans here
    have ⟨k, x, hk, hx, first, first'⟩ := exists_of_partners partners there hs
    subst hx
    exact congrArg (· :: []) (lineFor_of_some <|
      replacement?_eq_some_iff.mpr ⟨k, hk, first, first', wins⟩).symm
  case destination l n' y s' here partners there wins =>
    cases hs.symm.trans here
    have ⟨k, x, hk, hx, first, _⟩ := exists_of_partners partners there hs
    subst hx
    refine congrArg (· :: []) (lineFor_of_forall_ne fun x' h => ?_).symm
    have ⟨k', hk', first', _, wins'⟩ := replacement?_eq_some_iff.mp h
    cases hk.symm.trans hk'
    cases first.symm.trans first'
    cases wins.symm.trans wins'

theorem flatMap_lines_additions (ht : ofSource o.token template = .ok t) :
    (additions o t t.marks d.marks).flatMap (·.lines)
      = if o.append then (unmatched t d).flatMap (·.rawLines) else [] := by
  have read : (additions o t t.marks d.marks).map (·.lines)
      = if o.append then (unmatched t d).map (·.rawLines) else [] := by
    rw [← List.filterMap_eq_map]
    exact filterMap_additions ht fun _ _ _ => rfl
  rw [List.flatMap_def, read]
  cases o.append <;> simp [List.flatMap_def]

theorem lines_eq_of_merge (ht : ofSource o.token template = .ok t)
    (hd : ofSource o.token destination = .ok d) (hg : o.generator = none) (h : merge o t d = .ok r) :
    r.lines = d.lines.map (lineFor o t d) ++
      if o.append then (unmatched t d).flatMap (·.rawLines) else [] := by
  have ⟨ts, ds, kept, trail⟩ := merge_eq_ok_iff.mp h
  have ⟨hts, hds⟩ := trail.eq_marks hg
  subst hts hds
  have kept : kept.flatMap (·.lines) = d.statements.flatMap fun s => s.lines.map (lineFor o t d) :=
    trail.flatMap_lines_kept fun _ _ _ hs resolves => resolves.lines_eq hd hs
  rw [trail.lines_eq, kept, ← List.map_flatMap, flatMap_lines hd, flatMap_lines_additions ht]

-- What a merge without a generator does, line by line.
theorem exists_lines_eq (h : o.Answers) (hg : o.generator = none)
    (ht : ofSource o.token template = .ok t) (hd : ofSource o.token destination = .ok d) :
    ∃ r, Yields o template destination r ∧
      r.lines = d.lines.map (lineFor o t d) ++
        if o.append then (unmatched t d).flatMap (·.rawLines) else [] := by
  have ⟨r, hr⟩ := exists_merge h t d
  exact ⟨r, (yields_iff ht hd).mpr hr, lines_eq_of_merge ht hd hg hr⟩

-- Options under which the template wins every pair of assignments.
def templateFirst : Options where
  preference  := .byTag [("assignment".toList, .template)]
  append      := true
  token       := Document.defaultToken
  generator   := none
  classifiers := [Rules.kind]

theorem templateFirst_answers : templateFirst.Answers :=
  Options.answers_of_rules nofun (List.forall_mem_singleton.mpr .kind)

theorem exists_lines_eq_of_repeated_key :
    ∃ r, Yields templateFirst (.text "# t\nA=9\nC=4\n".toList) (.text "# c\nA=1\nB=2\nA=3\n".toList) r ∧
      r.lines = ["# c".toList, "A=9".toList, "B=2".toList, "A=3".toList, "C=4".toList] := by
  have ⟨r, hy, hl⟩ : ∃ r, Yields templateFirst (.text "# t\nA=9\nC=4\n".toList)
      (.text "# c\nA=1\nB=2\nA=3\n".toList) r ∧ _ :=
    exists_lines_eq templateFirst_answers rfl rfl rfl
  exact ⟨r, hy, hl.trans (by decide +kernel)⟩

end EnvMerge.Merge
