import EnvMerge.Proofs.Document.Layout

namespace EnvMerge

variable {l : Line} {before after : List Line} {rs : List Text} {n : Int}

theorem Line.number_of_numberedFrom_eq (h : numberedFrom n rs = before ++ l :: after) :
    l.number = n + before.length := by
  induction before generalizing n rs
  case nil =>
    cases rs
    case nil       => cases h
    case cons r rs =>
      have ⟨hl, _⟩ := List.cons.inj h
      simp [← hl, ofRaw_number]
  case cons b before ih =>
    cases rs
    case nil       => cases h
    case cons r rs =>
      have := ih (List.cons.inj h).2
      rw [List.length_cons]
      omega

namespace Document

variable {token : Text} {source : Source} {d : Document} {s : Statement} {ss ss' : List Statement}

theorem number_of_lines_eq (h : ofSource token source = .ok d) (hl : d.lines = before ++ l :: after) :
    l.number = before.length + 1 := by
  have ⟨t, ht⟩ := exists_ofText h
  have numbered : Line.numberedFrom 1 (Line.split t) = before ++ l :: after := by
    rw [← hl, ht]
    rfl
  rw [Line.number_of_numberedFrom_eq numbered, Int.add_comm]

-- A statement spans the places behind the lines of the statements before it.
theorem span_eq (h : ofSource token source = .ok d) (hs : d.statements = ss ++ s :: ss') :
    s.span = ⟨(ss.flatMap Statement.lines).length + 1,
      (ss.flatMap Statement.lines).length + s.lines.length⟩ := by
  have lines := flatMap_lines h
  rw [hs, List.flatMap_append, List.flatMap_cons] at lines
  cases s
  case line l   =>
    have number := number_of_lines_eq h lines.symm
    simp [Statement.span, Line.span, Statement.lines, number]
  case frozen b =>
    have framed := framed_of_mem_blocks h (b := b) (mem_blocks.mpr (by simp [hs]))
    cases framed
    case intro first last inner rest opening held closing =>
      have head := number_of_lines_eq h (l := first) lines.symm
      have foot : last.number = (ss.flatMap Statement.lines ++ first :: inner).length + 1 :=
        number_of_lines_eq h (by simpa [Statement.lines] using lines.symm)
      simp only [List.length_append, List.length_cons] at foot
      simp only [Statement.span, Statement.lines, head, foot, List.length_append, List.length_cons,
        List.length_nil]
      congr 1

-- The lines that stand in a span.
def excerpt (d : Document) (s : Span) : List Line :=
  (d.lines.take s.last.toNat).drop (s.first.toNat - 1)

theorem excerpt_span (h : ofSource token source = .ok d) (hs : s ∈ d.statements) :
    d.excerpt s.span = s.lines := by
  have ⟨ss, ss', he⟩ := List.append_of_mem hs
  have lines := flatMap_lines h
  rw [he, List.flatMap_append, List.flatMap_cons] at lines
  have last : ((ss.flatMap Statement.lines).length + s.lines.length : Int).toNat
      = (ss.flatMap Statement.lines ++ s.lines).length := by
    rw [List.length_append]
    omega
  rw [span_eq h he, excerpt, ← lines, ← List.append_assoc, last, List.take_left]
  exact List.drop_left

theorem length_lines (h : ofSource token source = .ok d) (hs : s ∈ d.statements) :
    (s.lines.length : Int) = s.span.last - s.span.first + 1 := by
  have ⟨ss, ss', he⟩ := List.append_of_mem hs
  rw [span_eq h he]
  simp only
  omega

end Document
end EnvMerge
