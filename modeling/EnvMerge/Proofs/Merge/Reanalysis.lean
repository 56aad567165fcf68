import EnvMerge.Proofs.Merge.Rereading

namespace EnvMerge

open Document

variable {o : Options} {template destination : Source} {t d : Document} {r : Draft} {token : Text}
variable {l x : Line} {s s' : Statement} {k : Text} {i : Identity}

namespace Document

theorem mem_lines_of_assignment? {source : Source} (h : ofSource token source = .ok d)
    (hk : d.assignment? k = some l) : l ∈ d.lines :=
  mem_lines h (List.mem_of_find?_eq_some (assignment?_eq_some_iff.mp hk)) (List.mem_singleton.mpr rfl)

-- A statement and its echo are free assignments of the same key, if of any.
theorem Echoes.identity?_eq_key_iff {E : Line → Line → Prop} (hE : ∀ l m, E l m → m.key? = l.key?)
    (h : Echoes E s s') : s.identity? = some (.key k) ↔ s'.identity? = some (.key k) := by
  cases h
  case frozen       => simp [Statement.identity?]
  case line l m hlm => simp [Statement.identity?, hE l m hlm]

-- If blocks are echoed word for word, then what a statement is known by is not lost.
theorem Echoes.identity?_eq {E : Line → Line → Prop} (h : Echoes E s s')
    (hE : ∀ l m, E l m → m.key? = l.key?)
    (hb : ∀ b, s = .frozen b → ∀ l ∈ b.lines, ∀ m, E l m → m.raw = l.raw) :
    s'.identity? = s.identity? := by
  cases h
  case line l m hlm => simp only [Statement.identity?, hE l m hlm]
  case frozen first last first' last' ls ms reason _ _ hls =>
    have raws : List.Forall₂ (fun l m => l.raw = m.raw) ls ms :=
      ((List.forall₂_and_left _ _).mpr ⟨fun l hl => hb _ rfl l hl, hls⟩).imp
        fun l m h => (h.1 m h.2).symm
    have same : ls.map (·.raw) = ms.map (·.raw) := by
      rwa [← List.forall₂_eq_eq_eq, List.forall₂_map_left_iff, List.forall₂_map_right_iff]
    simp only [Statement.identity?, Block.text, Block.rawLines, same]

end Document

namespace Merge

-- How a merged text is analysed: the statements of the destination come back one for one, and
-- behind them those that were added.
structure Reanalysed (o : Options) (t d : Document) (r : Draft) (ss as : List Statement) : Prop where
  statements_eq : ∃ blanks : List Line, (∀ l ∈ blanks, l.content = .blank) ∧
    (ofText o.token r.text).statements ++ blanks.map .line = ss ++ as
  kept          : List.Forall₂ (Echoes (Kept o t d)) d.statements ss
  added         : List.Forall₂ (Echoes (Added o.token d.lines.length)) (r.added t) as

theorem exists_reanalysed (ht : ofSource o.token template = .ok t)
    (hd : ofSource o.token destination = .ok d) (hg : o.generator = none) (h : merge o t d = .ok r)
    (hn : ¬(d.Unclosed ∧ r.addedBlocks t ≠ [])) : ∃ ss as, Reanalysed o t d r ss as := by
  have ⟨tx, he⟩ := exists_ofText hd
  have ⟨settled, tail, layout⟩ := exists_layout o.token tx
  rw [← he] at layout
  have ⟨ss, rest, as, reread⟩ := exists_reread ht hd hg h layout
  have ⟨blanks, blank, statements⟩ := reread.statements_eq
  have unmatched (s) (hs : s ∈ r.added t) := mem_unmatched_of_mem_added ht hg h hs
  rw [reread.readStatements_eq layout unmatched hn, ← List.append_assoc] at statements
  refine ⟨_, as, ⟨blanks, blank, statements⟩, ?kept, reread.added⟩
  have free : List.Forall₂ (Echoes (Kept o t d)) (tail.map .line) (rest.map .line) := by
    rw [List.forall₂_map_left_iff, List.forall₂_map_right_iff]
    exact reread.tail.imp fun _ _ h => .line h
  exact layout.statements_eq ▸ List.rel_append reread.kept free

-- The first statement of the template for a key that the destination does not assign is added.
theorem find?_unmatched (h : d.assignment? k = none) :
    (unmatched t d).find? (fun s => s.identity? = some (.key k)) = t.first? (.key k) := by
  rw [unmatched, List.find?_filter, first?]
  congr 1
  funext s
  by_cases hi : s.identity? = some (.key k)
  case neg => simp [hi]
  case pos =>
    have hk := Statement.key?_eq_some_iff.mpr hi
    have lone : ¬isMatched t d s := fun hm => ((isMatched_iff_of_key? hk).mp hm).2 h
    simp [hi, isAddable_of_key? hk, lone]

namespace Reanalysed

variable {ss as : List Statement}

theorem first?_eq (h : Reanalysed o t d r ss as) (i : Identity) :
    (ofText o.token r.text).first? i
      = (ss.find? fun s => s.identity? = some i).or (as.find? fun s => s.identity? = some i) := by
  have ⟨blanks, blank, he⟩ := h.statements_eq
  have none : (blanks.map Statement.line).find? (fun s => s.identity? = some i) = none := by
    refine List.find?_eq_none.mpr fun s hs => ?_
    have ⟨l, hl, hs⟩ := List.mem_map.mp hs
    simp [← hs, Statement.identity?, Line.key?, blank l hl, Content.key?]
  have found := congrArg (List.find? fun s => decide (s.identity? = some i)) he
  rwa [List.find?_append, none, Option.or_none, List.find?_append] at found

theorem find?_kept (h : Reanalysed o t d r ss as) (k : Text) :
    Option.Rel (Echoes (Kept o t d)) (d.first? (.key k))
      (ss.find? fun s => s.identity? = some (.key k)) :=
  find?_of_forall₂ h.kept fun _ _ he =>
    decide_eq_decide.mpr <| he.identity?_eq_key_iff fun _ _ h => h.key?_eq

theorem find?_added (h : Reanalysed o t d r ss as) (k : Text) :
    Option.Rel (Echoes (Added o.token d.lines.length))
      ((r.added t).find? fun s => s.identity? = some (.key k))
      (as.find? fun s => s.identity? = some (.key k)) :=
  find?_of_forall₂ h.added fun _ _ he =>
    decide_eq_decide.mpr <| he.identity?_eq_key_iff fun _ _ h => h.key?_eq

-- A key that the destination assigns is assigned where it was.
theorem assignment?_of_kept (h : Reanalysed o t d r ss as) (hk : d.assignment? k = some l) :
    (ofText o.token r.text).assignment? k
      = some (.ofRaw (Line.dropReturn (lineFor o t d l)) l.number) := by
  have found := h.find?_kept k
  rw [assignment?_eq_some_iff.mp hk] at found
  rw [assignment?_eq_some_iff, h.first?_eq]
  cases hs : ss.find? fun s => s.identity? = some (.key k) <;> rw [hs] at found <;> cases found
  case some.some echo =>
    cases echo
    case line m kept => rw [kept.eq_ofRaw, Option.some_or]

-- Any other key is assigned by what was added.
theorem first?_of_not_kept (h : Reanalysed o t d r ss as) (hk : d.assignment? k = none) :
    (ofText o.token r.text).first? (.key k) = as.find? fun s => s.identity? = some (.key k) := by
  have found := h.find?_kept k
  rw [assignment?_eq_none_iff.mp hk] at found
  rw [h.first?_eq]
  cases hs : ss.find? fun s => s.identity? = some (.key k) <;> rw [hs] at found <;> cases found
  rw [Option.none_or]

theorem assignment?_of_added (h : Reanalysed o t d r ss as) (ha : r.added t = unmatched t d)
    (hk : d.assignment? k = none) (hx : t.assignment? k = some x) :
    ∃ n, (ofText o.token r.text).assignment? k = some (.ofRaw (Line.dropReturn x.raw) n) := by
  have found := h.find?_added k
  rw [ha, find?_unmatched hk, assignment?_eq_some_iff.mp hx] at found
  simp only [assignment?_eq_some_iff, h.first?_of_not_kept hk]
  cases hs : as.find? fun s => s.identity? = some (.key k) <;> rw [hs] at found <;> cases found
  case some.some echo =>
    cases echo
    case line m added =>
      have ⟨n, _, he⟩ := added.behind
      exact ⟨n, by rw [he]⟩

theorem assignment?_eq_none (h : Reanalysed o t d r ss as) (hk : d.assignment? k = none)
    (hx : (r.added t).find? (fun s => s.identity? = some (.key k)) = none) :
    (ofText o.token r.text).assignment? k = none := by
  have found := h.find?_added k
  rw [hx] at found
  rw [assignment?_eq_none_iff, h.first?_of_not_kept hk]
  cases hs : as.find? fun s => s.identity? = some (.key k)
  case none   => rfl
  case some s =>
    rw [hs] at found
    cases found

end Reanalysed

end Merge
end EnvMerge
