import EnvMerge.Proofs.Document.Markers

namespace EnvMerge

variable {l l' : Line} {key : Text}

-- In a list with rising measures, a search finds what has the least.
theorem find?_eq_some_iff_of_pairwise {α : Type} {f : α → Int} {p : α → Bool} {x : α} {xs : List α}
    (h : xs.Pairwise fun x y => f x < f y) :
    xs.find? p = some x ↔ x ∈ xs ∧ p x ∧ ∀ y ∈ xs, p y → f x ≤ f y := by
  induction h
  case nil => simp
  case cons y xs above _ ih =>
    cases hp : p y
    case false => grind
    case true  => grind

namespace Document

variable {token text : Text} {source : Source} {d : Document} {s : Statement} {b : Block}

-- Whether a line lies in a frozen block.
def Covered (d : Document) (l : Line) : Prop :=
  ∃ b ∈ d.blocks, b.span.covers l.number

instance (d : Document) (l : Line) : Decidable (d.Covered l) :=
  inferInstanceAs (Decidable (∃ b ∈ d.blocks, b.span.covers l.number))

-- Whether a line assigns a key and lies in no frozen block.
structure FreelyAssigns (d : Document) (key : Text) (l : Line) : Prop where
  mem   : l ∈ d.lines
  key   : l.key? = some key
  free  : ¬d.Covered l

theorem mem_block_lines_iff (h : ofSource token source = .ok d) (hb : b ∈ d.blocks) :
    l ∈ b.lines ↔ l ∈ d.lines ∧ b.span.covers l.number := by
  have own := mem_statement_lines_iff (l := l) h (mem_blocks.mp hb)
  rw [Span.covers_iff]
  exact own

theorem covered_iff (h : ofSource token source = .ok d) (hl : l ∈ d.lines) :
    d.Covered l ↔ ∃ b ∈ d.blocks, l ∈ b.lines :=
  exists_congr fun _ => and_congr_right fun hb => by simp [mem_block_lines_iff h hb, hl]

-- A block has all assignments that it covers.
theorem assignments_eq_of_mem_blocks (h : ofSource token source = .ok d) (hb : b ∈ d.blocks) :
    b.assignments = d.assignments.filter fun l => b.span.covers l.number := by
  have ⟨ss, ss', hs⟩ := List.append_of_mem (mem_blocks.mp hb)
  have own : d.lines.filter (fun l => b.span.covers l.number) = b.lines := filter_covers_span h hs
  rw [Block.assignments, ← own, assignments, List.filter_comm]

theorem not_covered_of_line (h : ofSource token source = .ok d) (hs : .line l ∈ d.statements) :
    ¬d.Covered l := by
  have own : l ∈ (Statement.line l).lines := List.mem_singleton.mpr rfl
  have hl := ((mem_statement_lines_iff h hs).mp own).1
  rw [covered_iff h hl]
  intro ⟨b, hb, inside⟩
  have same := eq_of_mem_lines h hs (mem_blocks.mp hb) own inside
  cases same

-- Of the lines of a statement, those stay that are assignments and not covered.
theorem filter_free_lines (h : ofSource token source = .ok d) (hs : s ∈ d.statements) :
    s.lines.filter (fun l => l.isAssignment && !d.Covered l) = s.assignment?.toList := by
  cases s
  case line l =>
    have free := not_covered_of_line h hs
    cases ha : l.isAssignment <;> simp [Statement.lines, Statement.assignment?, ha, free]
  case frozen b =>
    have hb := mem_blocks.mpr hs
    refine List.filter_eq_nil_iff.mpr fun l hl => ?_
    have covered : d.Covered l := ⟨b, hb, ((mem_block_lines_iff h hb).mp hl).2⟩
    simp [covered]

-- The free assignments are those that no block covers.
theorem freeAssignments_eq (h : ofSource token source = .ok d) :
    d.freeAssignments = d.assignments.filter fun l => !d.Covered l := by
  rw [assignments, List.filter_filter, ← flatMap_lines h, List.filter_flatMap, freeAssignments,
    List.filterMap_eq_flatMap_toList]
  refine List.flatMap_congr fun s hs => ?_
  rw [← filter_free_lines h hs]
  exact List.filter_congr fun l _ => Bool.and_comm ..

theorem filter_frozen_lines (h : ofSource token source = .ok d) (hs : s ∈ d.statements) :
    s.lines.filter (fun l => l.isAssignment && d.Covered l) = s.block?.toList.flatMap (·.assignments) := by
  cases s
  case line l   => simp [Statement.lines, Statement.block?, not_covered_of_line h hs]
  case frozen b =>
    have hb := mem_blocks.mpr hs
    have covered : ∀ l ∈ b.lines, d.Covered l := fun l hl => ⟨b, hb, ((mem_block_lines_iff h hb).mp hl).2⟩
    simp only [Statement.lines, Statement.block?, Option.toList_some, List.flatMap_singleton, Block.assignments]
    exact List.filter_congr fun l hl => by simp [covered l hl]

-- The assignments of the blocks, one block after the other, are those that are covered.
theorem flatMap_assignments_blocks (h : ofSource token source = .ok d) :
    d.blocks.flatMap (·.assignments) = d.assignments.filter fun l => d.Covered l := by
  rw [assignments, List.filter_filter, ← flatMap_lines h, List.filter_flatMap, blocks,
    List.filterMap_eq_flatMap_toList, List.flatMap_assoc]
  refine List.flatMap_congr fun s hs => ?_
  rw [← filter_frozen_lines h hs]
  exact List.filter_congr fun l _ => Bool.and_comm ..

theorem perm_assignments (h : ofSource token source = .ok d) :
    (d.freeAssignments ++ d.blocks.flatMap (·.assignments)).Perm d.assignments := by
  rw [freeAssignments_eq h, flatMap_assignments_blocks h]
  exact List.perm_append_comm.trans (List.filter_append_perm _ _)

theorem mem_freeAssignments_iff (h : ofSource token source = .ok d) (hl : l ∈ d.assignments) :
    l ∈ d.freeAssignments ↔ ¬d.Covered l := by
  rw [freeAssignments_eq h]
  simp [hl]

theorem pairwise_number (h : ofSource token source = .ok d) :
    d.lines.Pairwise fun l l' => l.number < l'.number := by
  have ⟨t, ht⟩ := exists_ofText h
  subst ht
  rw [← List.pairwise_map, (partitioned_ofText token t).numbered, List.pairwise_map]
  exact List.pairwise_lt_range.imp fun hij => by omega

theorem freelyAssigns_iff (h : ofSource token source = .ok d) :
    d.FreelyAssigns key l ↔ l ∈ d.freeAssignments ∧ l.key? = some key := by
  rw [freeAssignments_eq h]
  constructor
  case mp  => exact fun ⟨hl, hk, free⟩ => ⟨by simp [assignments, hl, Line.isAssignment, hk, free], hk⟩
  case mpr =>
    intro ⟨hl, hk⟩
    simp only [assignments, List.mem_filter, Bool.not_eq_true', decide_eq_false_iff_not] at hl
    exact ⟨hl.1.1, hk, hl.2⟩

-- The assignment of a key has the least number of all lines that assign it freely.
theorem assignment?_eq_some_iff_freelyAssigns (h : ofSource token source = .ok d) :
    d.assignment? key = some l ↔
      d.FreelyAssigns key l ∧ ∀ l', d.FreelyAssigns key l' → l.number ≤ l'.number := by
  have rising : d.freeAssignments.Pairwise fun l l' => l.number < l'.number := by
    rw [freeAssignments_eq h]
    exact ((pairwise_number h).filter _).filter _
  rw [assignment?, find?_eq_some_iff_of_pairwise rising]
  simp only [freelyAssigns_iff h, decide_eq_true_eq]
  grind

theorem assignment?_eq_none_iff_freelyAssigns (h : ofSource token source = .ok d) :
    d.assignment? key = none ↔ ∀ l, ¬d.FreelyAssigns key l := by
  rw [assignment?, List.find?_eq_none]
  simp only [freelyAssigns_iff h, decide_eq_true_eq, not_and]

-- How a document shares out its assignments to its blocks and the free lines.
structure SharesAssignments (d : Document) : Prop where
  free_eq   : d.freeAssignments = d.assignments.filter fun l => !d.Covered l
  frozen_eq : ∀ b ∈ d.blocks, b.assignments = d.assignments.filter fun l => b.span.covers l.number
  nodup     : d.assignments.Nodup
  perm      : (d.freeAssignments ++ d.blocks.flatMap (·.assignments)).Perm d.assignments
  once      : ∀ l ∈ d.assignments, (l ∈ d.freeAssignments ∧ ∀ b ∈ d.blocks, l ∉ b.assignments) ∨
    (l ∉ d.freeAssignments ∧ ∃! b, b ∈ d.blocks ∧ l ∈ b.assignments)
  some_iff  : ∀ key l, d.assignment? key = some l ↔
    d.FreelyAssigns key l ∧ ∀ l', d.FreelyAssigns key l' → l.number ≤ l'.number
  none_iff  : ∀ key, d.assignment? key = none ↔ ∀ l, ¬d.FreelyAssigns key l

theorem sharesAssignments_of_ofSource (h : ofSource token source = .ok d) : d.SharesAssignments := by
  refine ⟨freeAssignments_eq h, fun _ => assignments_eq_of_mem_blocks h, (nodup_lines h).filter _,
    perm_assignments h, fun l hl => ?once, fun _ _ => assignment?_eq_some_iff_freelyAssigns h,
    fun _ => assignment?_eq_none_iff_freelyAssigns h⟩
  have ⟨mem, assigns⟩ := List.mem_filter.mp hl
  rw [mem_freeAssignments_iff h hl, covered_iff h mem]
  by_cases hc : ∃ b ∈ d.blocks, l ∈ b.lines
  case neg => exact .inl ⟨hc, fun b hb inside => hc ⟨b, hb, List.mem_of_mem_filter inside⟩⟩
  case pos =>
    have ⟨b, hb, inside⟩ := hc
    refine .inr ⟨not_not_intro hc, b, ⟨hb, List.mem_filter.mpr ⟨inside, assigns⟩⟩, fun b' ⟨hb', inside'⟩ => ?_⟩
    have same := eq_of_mem_lines h (mem_blocks.mp hb') (mem_blocks.mp hb) (List.mem_of_mem_filter inside') inside
    exact Statement.frozen.inj same

-- However a source is written, its assignments are shared out exactly.
theorem exists_sharesAssignments (token : Text) (h : source.decode = .ok text) :
    ∃ d, ofSource token source = .ok d ∧ d.SharesAssignments :=
  have read := ofSource_of_decode token h
  ⟨ofText token text, read, sharesAssignments_of_ofSource read⟩

-- A key that is assigned in a block, then twice outside, and once more in a block that never ends.
def scatteredKey : Text :=
  Text.joinLines <| ["# t:freeze", "A=1", "# t:freeze", "# t:unfreeze", "A=2", "# t:freeze", "A=3"].map String.toList

theorem exists_sharesAssignments_of_scattered_key :
    ∃ d, ofSource ['t'] (.bytes (Utf8.encode scatteredKey)) = .ok d ∧ d.SharesAssignments ∧
      d.assignments.map (·.number) = [2, 5, 7] ∧ d.freeAssignments.map (·.number) = [5, 7] ∧
      (d.assignment? ['A']).map (·.number) = some 5 := by
  have decoded : (Source.bytes (Utf8.encode scatteredKey)).decode = .ok scatteredKey := by
    decide +kernel
  have ⟨d, read, shares⟩ := exists_sharesAssignments ['t'] decoded
  have same := Except.ok.inj (read.symm.trans (ofSource_of_decode ['t'] decoded))
  subst same
  exact ⟨_, read, shares, by decide +kernel, by decide +kernel, by decide +kernel⟩

end Document
end EnvMerge
