import EnvMerge.Proofs.Document.Span

namespace EnvMerge.Document

variable {token : Text} {source : Source} {d : Document} {l : Line} {ls inner tail : List Line}
variable {b : Block} {o : Line × Text} {ss : List Statement}

-- The markers among the given lines, each with its line.
def marked (token : Text) (ls : List Line) : List (Line × Marker) :=
  ls.filterMap fun l => (marker? token l).map (l, ·)

-- Where a frozen range stands, and the reason for freezing it.
structure Range where
  span : Span
  reason : Option Text

-- The ranges between the given markers, read with at most one range open.
def ranges : Option (Line × Text) → List (Line × Marker) → List Range
  | _, [] => []
  | none, (first, ⟨.freeze, rest⟩) :: ms => ranges (some (first, rest)) ms
  | none, (_, ⟨.unfreeze, _⟩) :: ms => ranges none ms
  | some o, (_, ⟨.freeze, _⟩) :: ms => ranges (some o) ms
  | some (first, rest), (last, ⟨.unfreeze, _⟩) :: ms =>
    ⟨⟨first.number, last.number⟩, reasonOf rest⟩ :: ranges none ms

-- A range with the lines that stand in it.
def cut (d : Document) (r : Range) : Block :=
  ⟨r.span, d.excerpt r.span, r.reason⟩

-- The blocks that the markers of a document delimit.
def delimited (token : Text) (d : Document) : List Block :=
  (ranges none (marked token d.lines)).map d.cut

theorem ranges_cons_free (h : ¬opens token l) :
    ranges none (marked token (l :: ls)) = ranges none (marked token ls) := by
  cases hm : marker? token l
  case none => simp [marked, hm]
  case some m =>
    have ⟨kind, rest⟩ := m
    cases kind
    case freeze   => simp [opens, hm] at h
    case unfreeze => simp [marked, hm, ranges]

theorem ranges_cons_held (h : ¬closes token l) :
    ranges (some o) (marked token (l :: ls)) = ranges (some o) (marked token ls) := by
  cases hm : marker? token l
  case none => simp [marked, hm]
  case some m =>
    have ⟨kind, rest⟩ := m
    cases kind
    case freeze   => simp [marked, hm, ranges]
    case unfreeze => simp [closes, hm] at h

theorem ranges_append_held (h : ∀ l ∈ inner, ¬closes token l) :
    ranges (some o) (marked token (inner ++ ls)) = ranges (some o) (marked token ls) := by
  induction inner
  case nil => rfl
  case cons l inner ih =>
    have ⟨hl, hi⟩ := List.forall_mem_cons.mp h
    rw [List.cons_append, ranges_cons_held hl, ih hi]

theorem ranges_cons_opening {rest : Text} (h : marker? token l = some ⟨.freeze, rest⟩) :
    ranges none (marked token (l :: ls)) = ranges (some (l, rest)) (marked token ls) := by
  simp [marked, h, ranges]

theorem ranges_cons_closing {first : Line} {rest : Text} (h : closes token l) :
    ranges (some (first, rest)) (marked token (l :: ls))
      = ⟨⟨first.number, l.number⟩, reasonOf rest⟩ :: ranges none (marked token ls) := by
  cases hm : marker? token l
  case none => simp [closes, hm] at h
  case some m =>
    cases m
    case mk kind rest =>
      cases kind
      case freeze   => simp [closes, hm] at h
      case unfreeze => simp [marked, hm, ranges]

-- A block is delimited by its own markers, whatever comes behind it.
theorem ranges_block (h : Framed token b) :
    ranges none (marked token (b.lines ++ ls))
      = ⟨b.span, b.reason⟩ :: ranges none (marked token ls) := by
  cases h
  case intro first last inner rest opening held closing =>
    simp only [List.cons_append, List.append_assoc, List.nil_append]
    rw [ranges_cons_opening opening, ranges_append_held held, ranges_cons_closing closing]

theorem ranges_append_settled (h : ∀ s ∈ ss, Settled token s) :
    ranges none (marked token (ss.flatMap Statement.lines ++ ls))
      = (ss.filterMap (·.block?)).map (fun b => ⟨b.span, b.reason⟩)
        ++ ranges none (marked token ls) := by
  induction ss
  case nil => rfl
  case cons s ss ih =>
    have ⟨hs, hss⟩ := List.forall_mem_cons.mp h
    rw [List.flatMap_cons, List.append_assoc]
    cases s
    case line l   => exact (ranges_cons_free hs).trans (ih hss)
    case frozen b => exact (ranges_block hs).trans (congrArg (_ :: ·) (ih hss))

theorem ranges_dangling (h : Dangling token tail) : ranges none (marked token tail) = [] := by
  cases h
  case nil => rfl
  case cons first inner rest opening held =>
    have unended : ranges (some (first, rest)) (marked token (inner ++ [])) = [] :=
      ranges_append_held held
    rw [ranges_cons_opening opening, ← List.append_nil inner, unended]

-- The statements that are frozen are the blocks that the markers delimit.
theorem blocks_eq_delimited (h : ofSource token source = .ok d) : d.blocks = d.delimited token := by
  have ⟨t, ht⟩ := exists_ofText h
  have ⟨settled, tail, layout⟩ := exists_layout token t
  rw [← ht] at layout
  have whole (b) (hb : b ∈ d.blocks) : d.cut ⟨b.span, b.reason⟩ = b := by
    have same : d.excerpt b.span = b.lines := excerpt_span h (mem_blocks.mp hb)
    rw [cut, same]
  calc d.blocks
    _ = d.blocks.map fun b => d.cut ⟨b.span, b.reason⟩ :=
      (List.map_id d.blocks).symm.trans (List.map_congr_left fun b hb => (whole b hb).symm)
    _ = ((settled.filterMap (·.block?)).map fun b => ⟨b.span, b.reason⟩).map d.cut := by
      rw [layout.blocks_eq, List.map_map]
      rfl
    _ = d.delimited token := by
      rw [delimited, layout.lines_eq, ranges_append_settled layout.settled,
        ranges_dangling layout.dangling, List.append_nil]

end EnvMerge.Document
