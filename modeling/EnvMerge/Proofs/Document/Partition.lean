import EnvMerge.Proofs.Document.Ranges

namespace EnvMerge

variable {first last n : Int} {s : Span} {spans : List Span}
variable {l : Line} {before inner after : List Line}

-- Spans that follow one another from one line number up to another, without a gap or an overlap.
inductive Span.Tile (last : Int) : Int → List Span → Prop
  | nil : Tile last (last + 1) []
  | cons {s : Span} {spans : List Span} (forward : s.first ≤ s.last)
      (rest : Tile last (s.last + 1) spans) : Tile last s.first (s :: spans)

namespace Span

theorem covers_iff : s.covers n ↔ s.first ≤ n ∧ n ≤ s.last := by
  simp [covers]

namespace Tile

theorem countP_covers_eq_zero (h : Tile last first spans) (hn : n < first) :
    spans.countP (·.covers n) = 0 := by
  induction h
  case nil => rfl
  case cons s spans forward _ ih =>
    have later : ¬s.covers n := fun hc => by
      have := (covers_iff.mp hc).1
      omega
    simpa [later] using ih (by omega)

-- Each number in between is covered by one span.
theorem countP_covers_eq_one (h : Tile last first spans) (hf : first ≤ n) (hl : n ≤ last) :
    spans.countP (·.covers n) = 1 := by
  induction h
  case nil => omega
  case cons s spans _ rest ih =>
    by_cases hs : n ≤ s.last
    case pos =>
      have here : s.covers n := covers_iff.mpr ⟨hf, hs⟩
      simpa [here] using rest.countP_covers_eq_zero (by omega)
    case neg =>
      have passed : ¬s.covers n := fun hc => hs (covers_iff.mp hc).2
      simpa [passed] using ih (by omega)

theorem le_first (h : Tile last first spans) : ∀ s ∈ spans, first ≤ s.first := by
  induction h
  case nil => simp
  case cons s spans forward _ ih =>
    refine List.forall_mem_cons.mpr ⟨Int.le_refl _, fun s' hm => ?_⟩
    have := ih s' hm
    omega

theorem pairwise (h : Tile last first spans) : spans.Pairwise fun s s' => s.last < s'.first := by
  induction h
  case nil => exact .nil
  case cons s spans _ rest ih =>
    refine .cons (fun s' hm => ?_) ih
    have := rest.le_first s' hm
    omega

end Tile
end Span

theorem Line.map_number_numberedFrom (n : Int) (rs : List Text) :
    (numberedFrom n rs).map (·.number) = (List.range rs.length).map fun (i : Nat) => n + i := by
  induction rs generalizing n
  case nil => rfl
  case cons r rs ih =>
    rw [numberedFrom, List.map_cons, ofRaw_number, ih, List.length_cons, List.range_succ_eq_map,
      List.map_cons, List.map_map]
    apply List.cons_eq_cons.mpr ⟨(Int.add_zero n).symm, ?_⟩
    apply List.map_congr_left
    intro i _
    simp only [Function.comp_apply, Nat.succ_eq_add_one, Int.natCast_add]
    omega

namespace Document

variable {token text : Text} {source : Source} {d : Document} {s : Statement}
variable {ss ss' : List Statement} {b : Block}

theorem number_of_mem (h : ofSource token source = .ok d)
    (hl : d.lines = before ++ (inner ++ after)) (hm : l ∈ inner) :
    (before.length : Int) < l.number ∧ l.number ≤ before.length + inner.length := by
  have ⟨ls, ls', he⟩ := List.append_of_mem hm
  have place : d.lines = (before ++ ls) ++ l :: (ls' ++ after) := by simp [hl, he]
  have number := number_of_lines_eq h place
  rw [List.length_append] at number
  rw [he, List.length_append, List.length_cons]
  omega

-- The lines of a statement are those whose numbers its span covers.
theorem filter_covers_span (h : ofSource token source = .ok d) (hs : d.statements = ss ++ s :: ss') :
    d.lines.filter (fun l => s.span.covers l.number) = s.lines := by
  have lines := flatMap_lines h
  rw [hs, List.flatMap_append, List.flatMap_cons] at lines
  generalize hb : ss.flatMap Statement.lines = before at lines
  generalize ss'.flatMap Statement.lines = after at lines
  have covers (l : Line) : s.span.covers l.number ↔
      (before.length : Int) < l.number ∧ l.number ≤ before.length + s.lines.length := by
    rw [Span.covers_iff, span_eq h hs, hb]
    rfl
  have front : before.filter (fun l => s.span.covers l.number) = [] := by
    refine List.filter_eq_nil_iff.mpr fun l hm hc => ?_
    have place : d.lines = [] ++ (before ++ (s.lines ++ after)) := lines.symm
    have number := (number_of_mem h place hm).2
    have := ((covers l).mp hc).1
    rw [List.length_nil] at number
    omega
  have own : s.lines.filter (fun l => s.span.covers l.number) = s.lines :=
    List.filter_eq_self.mpr fun l hm => (covers l).mpr (number_of_mem h lines.symm hm)
  have back : after.filter (fun l => s.span.covers l.number) = [] := by
    refine List.filter_eq_nil_iff.mpr fun l hm hc => ?_
    have place : d.lines = (before ++ s.lines) ++ (after ++ []) := by simp [← lines]
    have number := (number_of_mem h place hm).1
    have := ((covers l).mp hc).2
    rw [List.length_append] at number
    omega
  rw [← lines, List.filter_append, List.filter_append, front, own, back, List.nil_append,
    List.append_nil]

-- The induction is over the statements that are left; those before them have been laid out.
theorem tile_spans (h : ofSource token source = .ok d) (hs : d.statements = ss ++ ss') :
    Span.Tile d.lines.length ((ss.flatMap Statement.lines).length + 1) (ss'.map (·.span)) := by
  induction ss' generalizing ss
  case nil =>
    rw [List.append_nil] at hs
    rw [← hs, flatMap_lines h]
    exact .nil
  case cons s ss' ih =>
    have span := span_eq h hs
    have head : s.span.first = (ss.flatMap Statement.lines).length + 1 := by rw [span]
    have foot : s.span.last = (ss.flatMap Statement.lines).length + s.lines.length := by rw [span]
    have some := List.length_pos_of_ne_nil (lines_ne_nil h (s := s) (by simp [hs]))
    have shifted : d.statements = (ss ++ [s]) ++ ss' := by simp [hs]
    have rest := ih shifted
    rw [List.flatMap_append, List.length_append, List.flatMap_singleton, Int.natCast_add, ← foot]
      at rest
    rw [← head]
    exact .cons (by omega) rest

-- Whether a block stands once among the statements, where its opening marker stood: the lines before
-- that marker are those of the statements before the block.
structure Placed (token : Text) (d : Document) (b : Block) : Prop where
  once : d.statements.count (.frozen b) = 1
  here : ∃ before first after, d.statements = before ++ .frozen b :: after ∧ opens token first ∧
    first.number = b.span.first ∧ before.flatMap Statement.lines ++ [first] <+: d.lines

theorem placed_of_mem_blocks (h : ofSource token source = .ok d) (hb : b ∈ d.blocks) :
    d.Placed token b := by
  have mem := mem_blocks.mp hb
  refine ⟨List.count_eq_one_of_mem (nodup_statements h) mem, ?here⟩
  have ⟨ss, ss', hs⟩ := List.append_of_mem mem
  have lines := flatMap_lines h
  rw [hs, List.flatMap_append, List.flatMap_cons] at lines
  cases framed_of_mem_blocks h hb
  case intro first last inner rest opening held closing =>
    refine ⟨ss, first, ss', hs, opens_of_opening opening, rfl, ?_⟩
    exact ⟨inner ++ [last] ++ ss'.flatMap Statement.lines, by simp [← lines, Statement.lines]⟩

-- How the statements of a document share out its lines.
structure Partitioned (token text : Text) (d : Document) : Prop where
  numbered   : d.lines.map (·.number) = (List.range d.lines.length).map fun (i : Nat) => 1 + (i : Int)
  tiled      : Span.Tile d.lines.length 1 (d.statements.map (·.span))
  covered    : ∀ n : Int, 1 ≤ n → n ≤ d.lines.length → d.statements.countP (·.span.covers n) = 1
  spanned    : ∀ s ∈ d.statements,
    s.rawLines = (d.lines.filter fun l => s.span.covers l.number).map (·.raw)
  blocks_eq  : d.blocks = d.delimited token
  placed     : ∀ b ∈ d.delimited token, d.Placed token b
  flatMap_eq : d.statements.flatMap (·.rawLines) = Line.split text

theorem partitioned_ofText (token text : Text) : (ofText token text).Partitioned token text := by
  have read := ofSource_text token text
  have tiled := tile_spans read (List.nil_append _).symm
  refine ⟨?numbered, tiled, ?covered, ?spanned, blocks_eq_delimited read, ?placed,
    flatMap_rawLines_statements token text⟩
  case numbered =>
    have length := congrArg List.length (map_raw_lines token text)
    rw [List.length_map] at length
    exact (Line.map_number_numberedFrom 1 (Line.split text)).trans (length ▸ rfl)
  case covered =>
    intro n hf hl
    have once := tiled.countP_covers_eq_one (by simpa using hf) hl
    rwa [List.countP_map] at once
  case spanned =>
    intro s hs
    have ⟨ss, ss', he⟩ := List.append_of_mem hs
    rw [s.rawLines_eq, filter_covers_span read he]
  case placed => exact fun b hb => placed_of_mem_blocks read (blocks_eq_delimited read ▸ hb)

-- However a source is written, its statements partition its lines.
theorem exists_partitioned (token : Text) (h : source.decode = .ok text) :
    ∃ d, ofSource token source = .ok d ∧ d.Partitioned token text :=
  ⟨ofText token text, ofSource_of_decode token h, partitioned_ofText token text⟩

-- Markers that are stray, nested, next to each other and never ended.
def tangledMarkers : Text :=
  Text.joinLines <| ["# t:unfreeze", "# t:freeze é", "# t:freeze", "A=1\r", "# t:unfreeze",
    "# t:freeze", "# t:unfreeze", "# t:freeze", "B=2"].map String.toList

theorem exists_partitioned_of_tangled_markers :
    ∃ d, ofSource ['t'] (.bytes (Utf8.encode tangledMarkers)) = .ok d ∧
      d.Partitioned ['t'] tangledMarkers ∧
      d.statements.map (·.span) = [⟨1, 1⟩, ⟨2, 5⟩, ⟨6, 7⟩, ⟨8, 8⟩, ⟨9, 9⟩] := by
  have decoded : (Source.bytes (Utf8.encode tangledMarkers)).decode = .ok tangledMarkers := by
    decide +kernel
  have spans : (ofText ['t'] tangledMarkers).statements.map (·.span)
      = [⟨1, 1⟩, ⟨2, 5⟩, ⟨6, 7⟩, ⟨8, 8⟩, ⟨9, 9⟩] := by
    decide +kernel
  have ⟨d, read, partitioned⟩ := exists_partitioned ['t'] decoded
  have same := Except.ok.inj (read.symm.trans (ofSource_of_decode ['t'] decoded))
  exact ⟨d, read, partitioned, same ▸ spans⟩

end Document
end EnvMerge
