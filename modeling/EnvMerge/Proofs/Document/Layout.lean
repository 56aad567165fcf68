import EnvMerge.Document
import EnvMerge.Proofs.Freeze.Marker
import Mathlib.Data.List.Nodup
import Mathlib.Data.List.Pairwise

namespace EnvMerge

namespace Statement

-- The lines that a statement stands for.
def lines : Statement → List Line
  | line l   => [l]
  | frozen b => b.lines

theorem rawLines_eq (s : Statement) : s.rawLines = s.lines.map (·.raw) := by
  cases s <;> rfl

end Statement

namespace Document

variable {token : Text} {l first last : Line} {ls inner : List Line} {o : Opening} {b : Block} {rest : Text}

def opens (token : Text) (l : Line) : Bool :=
  (marker? token l).any (·.kind = .freeze)

def closes (token : Text) (l : Line) : Bool :=
  (marker? token l).any (·.kind = .unfreeze)

theorem exists_of_opens (h : opens token l) : ∃ rest, marker? token l = some ⟨.freeze, rest⟩ := by
  have ⟨⟨kind, rest⟩, hm, hk⟩ := (Option.any_eq_true ..).mp h
  simp only [decide_eq_true_eq] at hk
  exact ⟨rest, hk ▸ hm⟩

-- The warning about a line that closes nothing.
def strays (token : Text) (l : Line) : List Warning :=
  if closes token l then [.stray l.number] else []

-- The warning about a line that opens a block inside another.
def nests (token : Text) (l : Line) : List Warning :=
  if opens token l then [.nested l.number] else []

theorem collapse_cons_free (h : ¬opens token l) :
    collapse token none (l :: ls)
      = (.line l :: (collapse token none ls).1, strays token l ++ (collapse token none ls).2) := by
  cases hm : marker? token l
  case none => simp [collapse, hm, strays, closes]
  case some m =>
    have ⟨kind, rest⟩ := m
    cases kind
    case freeze   => simp [opens, hm] at h
    case unfreeze => simp [collapse, hm, strays, closes]

theorem collapse_cons_opening (h : marker? token l = some ⟨.freeze, rest⟩) :
    collapse token none (l :: ls) = collapse token (some (.ofLine l rest)) ls := by
  simp [collapse, h]

theorem collapse_cons_held (h : ¬closes token l) :
    collapse token (some o) (l :: ls)
      = ((collapse token (some (o.hold l)) ls).1,
        nests token l ++ (collapse token (some (o.hold l)) ls).2) := by
  cases hm : marker? token l
  case none => simp [collapse, hm, nests, opens]
  case some m =>
    have ⟨kind, rest⟩ := m
    cases kind
    case freeze   => simp [collapse, hm, nests, opens]
    case unfreeze => simp [closes, hm] at h

theorem collapse_cons_closing (h : closes token l) :
    collapse token (some o) (l :: ls)
      = (.frozen (o.close l) :: (collapse token none ls).1, (collapse token none ls).2) := by
  cases hm : marker? token l
  case none => simp [closes, hm] at h
  case some m =>
    have ⟨kind, rest⟩ := m
    cases kind
    case freeze   => simp [closes, hm] at h
    case unfreeze => simp [collapse, hm]

-- What is held of the lines up to the end of a block.
theorem collapse_append_held (h : ∀ l ∈ inner, ¬closes token l) :
    collapse token (some o) (inner ++ ls)
      = ((collapse token (some { o with held := inner.reverse ++ o.held }) ls).1,
        inner.flatMap (nests token) ++
          (collapse token (some { o with held := inner.reverse ++ o.held }) ls).2) := by
  induction inner generalizing o
  case nil => rfl
  case cons l inner ih =>
    have hl := h l List.mem_cons_self
    have hi := ih (o := o.hold l) fun l' hm => h l' (List.mem_cons_of_mem _ hm)
    simp only [Opening.hold] at hi
    simp [collapse_cons_held hl, Opening.hold, hi]

-- The text behind an opening marker, as a reason.
def reasonOf (rest : Text) : Option Text :=
  if rest.trim = [] then none else some rest.trim

-- A block reaches from its opening marker to the first marker that closes it.
inductive Framed (token : Text) : Block → Prop
  | intro {first last : Line} {inner : List Line} {rest : Text}
      (opening : marker? token first = some ⟨.freeze, rest⟩)
      (held : ∀ l ∈ inner, ¬closes token l) (closing : closes token last) :
      Framed token ⟨⟨first.number, last.number⟩, first :: (inner ++ [last]), reasonOf rest⟩

-- A statement that leaves no block open.
def Settled (token : Text) : Statement → Prop
  | .line l   => ¬opens token l
  | .frozen b => Framed token b

-- The warnings about the lines of a settled statement.
def warningsOf (token : Text) : Statement → List Warning
  | .line l   => strays token l
  | .frozen b => b.lines.tail.flatMap (nests token)

-- A marker that is never closed and the lines behind it, or nothing.
inductive Dangling (token : Text) : List Line → Prop
  | nil : Dangling token []
  | cons {first : Line} {inner : List Line} {rest : Text}
      (opening : marker? token first = some ⟨.freeze, rest⟩) (held : ∀ l ∈ inner, ¬closes token l) :
      Dangling token (first :: inner)

theorem not_opens_of_closes (h : closes token l) : ¬opens token l := by
  have ⟨m, hm, hk⟩ := (Option.any_eq_true ..).mp h
  simp only [decide_eq_true_eq] at hk
  simp [opens, hm, hk]

theorem opens_of_opening (h : marker? token l = some ⟨.freeze, rest⟩) : opens token l := by
  simp [opens, h]

theorem collapse_block (h : Framed token b) :
    collapse token none (b.lines ++ ls)
      = (.frozen b :: (collapse token none ls).1,
        warningsOf token (.frozen b) ++ (collapse token none ls).2) := by
  cases h
  case intro first last inner rest opening held closing =>
    have hn : nests token last = [] := if_neg (not_opens_of_closes closing)
    simp [collapse_cons_opening opening, collapse_append_held held, collapse_cons_closing closing,
      warningsOf, hn, Opening.close, Opening.ofLine, reasonOf]

theorem collapse_cons_settled {s : Statement} (h : Settled token s) :
    collapse token none (s.lines ++ ls)
      = (s :: (collapse token none ls).1, warningsOf token s ++ (collapse token none ls).2) := by
  cases s
  case line l   => exact collapse_cons_free h
  case frozen b => exact collapse_block h

theorem collapse_append_settled {ss : List Statement} (h : ∀ s ∈ ss, Settled token s) :
    collapse token none (ss.flatMap (·.lines) ++ ls)
      = (ss ++ (collapse token none ls).1,
        ss.flatMap (warningsOf token) ++ (collapse token none ls).2) := by
  induction ss
  case nil => rfl
  case cons s ss ih =>
    have hs := h s List.mem_cons_self
    have hi := ih fun s' hm => h s' (List.mem_cons_of_mem _ hm)
    simp [collapse_cons_settled hs, hi]

theorem collapse_dangling (opening : marker? token first = some ⟨.freeze, rest⟩)
    (held : ∀ l ∈ inner, ¬closes token l) :
    collapse token none (first :: inner)
      = ((first :: inner).map .line, inner.flatMap (nests token) ++ [.unclosed first.number]) := by
  have := List.append_nil inner ▸ collapse_append_held (o := .ofLine first rest) held
  rw [collapse_cons_opening opening, this]
  simp [collapse, Opening.abandon, Opening.ofLine]

-- Lines begin with settled statements, and what is left over dangles.
theorem exists_settled_append_dangling (token : Text) (ls : List Line) :
    ∃ (settled : List Statement) (tail : List Line), ls = settled.flatMap Statement.lines ++ tail ∧
      (∀ s ∈ settled, Settled token s) ∧ Dangling token tail := by
  match ls with
  | [] => exact ⟨[], [], rfl, by simp, .nil⟩
  | l :: ls =>
    by_cases ho : opens token l
    case neg =>
      have ⟨settled, tail, he, hs, ht⟩ := exists_settled_append_dangling token ls
      exact ⟨.line l :: settled, tail, by simp [he, Statement.lines],
        List.forall_mem_cons.mpr ⟨ho, hs⟩, ht⟩
    case pos =>
      have ⟨rest, hm⟩ := exists_of_opens ho
      cases hf : ls.find? (closes token)
      case none =>
        have held := List.find?_eq_none.mp hf
        exact ⟨[], l :: ls, rfl, by simp, .cons hm held⟩
      case some last =>
        have ⟨closing, inner, after, hl, held⟩ := List.find?_eq_some_iff_append.mp hf
        have : after.length < (l :: ls).length := by
          simp [hl]
          omega
        have ⟨settled, tail, he, hs, ht⟩ := exists_settled_append_dangling token after
        have ⟨b, framed, hb⟩ : ∃ b, Framed token b ∧ b.lines = l :: (inner ++ [last]) :=
          ⟨_, .intro hm (by simpa using held) closing, rfl⟩
        exact ⟨.frozen b :: settled, tail, by simp [hl, he, hb, Statement.lines],
          List.forall_mem_cons.mpr ⟨framed, hs⟩, ht⟩
termination_by ls.length

-- The statements that lines are read as.
def readStatements (token : Text) (ls : List Line) : List Statement :=
  (collapse token none ls).1

theorem readStatements_append_settled {ss : List Statement} (ls : List Line)
    (h : ∀ s ∈ ss, Settled token s) :
    readStatements token (ss.flatMap (·.lines) ++ ls) = ss ++ readStatements token ls := by
  simp [readStatements, collapse_append_settled h]

theorem readStatements_of_settled {ss : List Statement} (h : ∀ s ∈ ss, Settled token s) :
    readStatements token (ss.flatMap (·.lines)) = ss := by
  simpa [readStatements, collapse] using readStatements_append_settled [] h

-- A line that neither opens nor closes a block.
def Idle (token : Text) (l : Line) : Prop :=
  ¬opens token l ∧ ¬closes token l

-- Nothing is frozen behind a marker that is never closed, nor where no line opens a block.
theorem readStatements_dangling {tail ls : List Line} (ht : Dangling token tail)
    (h : ∀ l ∈ ls, Idle token l) :
    readStatements token (tail ++ ls) = (tail ++ ls).map .line := by
  cases ht
  case nil =>
    have free : ∀ s ∈ ls.map Statement.line, Settled token s := by
      intro s hs
      have ⟨l, hl, he⟩ := List.mem_map.mp hs
      exact he ▸ (h l hl).1
    simpa [List.flatMap_map, Statement.lines] using readStatements_of_settled free
  case cons first inner rest opening held =>
    have held' : ∀ l ∈ inner ++ ls, ¬closes token l := by
      intro l hl
      cases List.mem_append.mp hl
      case inl hl => exact held l hl
      case inr hl => exact (h l hl).2
    rw [List.cons_append, readStatements, collapse_dangling opening held']

theorem readStatements_tail {tail : List Line} (h : Dangling token tail) :
    readStatements token tail = tail.map .line := by
  simpa using readStatements_dangling h (List.forall_mem_nil (Idle token))

-- Idle lines at the end stand free.
theorem readStatements_append_idle {ls' : List Line} (h : ∀ l ∈ ls', Idle token l) :
    readStatements token (ls ++ ls') = readStatements token ls ++ ls'.map .line := by
  have ⟨settled, tail, he, hs, ht⟩ := exists_settled_append_dangling token ls
  rw [he, List.append_assoc, readStatements_append_settled _ hs, readStatements_append_settled _ hs,
    readStatements_dangling ht h, readStatements_tail ht, List.map_append, List.append_assoc]

-- A marker that is not closed takes the next block in, with all lines between.
theorem exists_framed_cons (opening : marker? token first = some ⟨.freeze, rest⟩)
    (held : ∀ l ∈ inner, ¬closes token l) (hb : Framed token b) :
    ∃ b', Framed token b' ∧ b'.lines = first :: (inner ++ b.lines) := by
  cases hb
  case intro first' last inner' rest' opening' held' closing =>
    have nested : ¬closes token first' := fun h => not_opens_of_closes h (opens_of_opening opening')
    have between : ∀ l ∈ inner ++ first' :: inner', ¬closes token l :=
      List.forall_mem_append.mpr ⟨held, List.forall_mem_cons.mpr ⟨nested, held'⟩⟩
    exact ⟨_, .intro opening between closing, by simp⟩

-- Whether a marker of the document is never closed.
def Unclosed (d : Document) : Prop :=
  ∃ n, .unclosed n ∈ d.warnings

theorem not_unclosed_of_warnings {d : Document} (h : d.warnings = []) : ¬d.Unclosed := by
  simp [Unclosed, h]

-- The statements of a document, divided before the marker that is never closed.
structure Layout (token : Text) (d : Document) (settled : List Statement) (tail : List Line) : Prop where
  lines_eq      : d.lines = settled.flatMap Statement.lines ++ tail
  statements_eq : d.statements = settled ++ tail.map .line
  settled       : ∀ s ∈ settled, Settled token s
  dangling      : Dangling token tail
  unclosed_iff  : d.Unclosed ↔ tail ≠ []

theorem filterMap_block?_line (ls : List Line) : (ls.map Statement.line).filterMap (·.block?) = [] := by
  simp [List.filterMap_map, Statement.block?]

theorem Layout.blocks_eq {d : Document} {settled : List Statement} {tail : List Line}
    (h : Layout token d settled tail) : d.blocks = settled.filterMap (·.block?) := by
  rw [blocks, h.statements_eq, List.filterMap_append, filterMap_block?_line, List.append_nil]

theorem not_unclosed_mem_warningsOf {s : Statement} {n : Int} : .unclosed n ∉ warningsOf token s := by
  cases s
  case line l   => simp only [warningsOf, strays]; split <;> simp
  case frozen b =>
    simp only [warningsOf, List.mem_flatMap, not_exists, not_and]
    intro l _
    simp only [nests]
    split <;> simp

theorem exists_layout (token source : Text) :
    ∃ settled tail, Layout token (ofText token source) settled tail := by
  have ⟨settled, tail, he, hs, ht⟩ := exists_settled_append_dangling token (Line.ofSource source)
  have hc := congrArg (collapse token none) he
  rw [collapse_append_settled hs] at hc
  refine ⟨settled, tail, he, ?statements, hs, ht, ?unclosed⟩
  case statements => simp [ofText, hc, ← readStatements_tail ht, readStatements]
  case unclosed =>
    simp only [Unclosed, ofText, hc, List.mem_append, List.mem_flatMap, not_unclosed_mem_warningsOf]
    cases ht
    case nil               => simp [collapse]
    case cons opening held => simp [collapse_dangling opening held]

theorem flatMap_lines_statements (token source : Text) :
    (ofText token source).statements.flatMap Statement.lines = (ofText token source).lines := by
  have ⟨settled, tail, h⟩ := exists_layout token source
  simp [h.statements_eq, h.lines_eq, List.flatMap_map, Statement.lines]

theorem map_raw_lines (token source : Text) : (ofText token source).lines.map (·.raw) = Line.split source :=
  Line.map_raw_numberedFrom 1 _

theorem flatMap_rawLines_statements (token source : Text) :
    (ofText token source).statements.flatMap (·.rawLines) = Line.split source := by
  rw [← map_raw_lines token, ← flatMap_lines_statements, List.map_flatMap]
  exact List.flatMap_congr fun s _ => s.rawLines_eq

variable {d : Document} {source : Source} {s : Statement} {raw : Text}

theorem ofSource_text (token t : Text) : ofSource token (.text t) = .ok (ofText token t) := rfl

theorem ofSource_of_decode (token : Text) {t : Text} (h : source.decode = .ok t) :
    ofSource token source = .ok (ofText token t) := by
  rw [ofSource, h]
  rfl

theorem exists_decode (h : ofSource token source = .ok d) :
    ∃ t, source.decode = .ok t ∧ d = ofText token t := by
  cases hs : source.decode <;> simp only [ofSource, hs] at h <;> cases h
  exact ⟨_, rfl, rfl⟩

theorem exists_ofText (h : ofSource token source = .ok d) : ∃ t, d = ofText token t :=
  (exists_decode h).imp fun _ ht => ht.2

-- No line of a document has a line feed in it.
theorem not_mem_rawLines (h : ofSource token source = .ok d) (hs : s ∈ d.statements)
    (hr : raw ∈ s.rawLines) : '\n' ∉ raw := by
  have ⟨t, ht⟩ := exists_ofText h
  subst ht
  rw [Statement.rawLines_eq] at hr
  have ⟨l, hl, he⟩ := List.mem_map.mp hr
  have hm : l ∈ (ofText token t).lines :=
    flatMap_lines_statements token t ▸ List.mem_flatMap.mpr ⟨s, hs, hl⟩
  exact Line.not_mem_of_mem_split <| he ▸ (Line.exists_of_mem_numberedFrom hm).1

theorem mem_blocks : b ∈ d.blocks ↔ .frozen b ∈ d.statements := by
  simp only [blocks, List.mem_filterMap]
  constructor
  case mp =>
    intro ⟨s, hs, hb⟩
    cases s <;> cases hb
    exact hs
  case mpr => exact fun h => ⟨_, h, rfl⟩

theorem framed_of_mem_blocks (h : ofSource token source = .ok d) (hb : b ∈ d.blocks) :
    Framed token b := by
  have ⟨t, ht⟩ := exists_ofText h
  have ⟨settled, tail, layout⟩ := exists_layout token t
  rw [← ht] at layout
  have hs := layout.statements_eq ▸ mem_blocks.mp hb
  cases List.mem_append.mp hs
  case inl hs => exact layout.settled _ hs
  case inr hs => simp at hs

theorem raw_ne_nil_of_closes (h : closes token l) : l.raw ≠ [] := by
  have ⟨m, hm, _⟩ := (Option.any_eq_true ..).mp h
  have ⟨_, hm⟩ := Option.ite_none_right_eq_some.mp hm
  intro hr
  simp [hr, Marker.ofText?, Text.trimStart, Text.after?] at hm

theorem flatMap_lines (h : ofSource token source = .ok d) :
    d.statements.flatMap Statement.lines = d.lines := by
  have ⟨t, ht⟩ := exists_ofText h
  exact ht ▸ flatMap_lines_statements token t

theorem nodup_lines (h : ofSource token source = .ok d) : d.lines.Nodup := by
  have ⟨t, ht⟩ := exists_ofText h
  exact ht ▸ Line.nodup_numberedFrom

-- A line belongs to one statement only.
theorem eq_of_mem_lines {s' : Statement} (h : ofSource token source = .ok d) (hs : s ∈ d.statements)
    (hs' : s' ∈ d.statements) (hl : l ∈ s.lines) (hl' : l ∈ s'.lines) : s = s' := by
  have apart := (List.nodup_flatMap.mp (flatMap_lines h ▸ nodup_lines h)).2
  have : Std.Symm (List.Disjoint.onFun Statement.lines) := ⟨fun _ _ h _ hl hl' => h hl' hl⟩
  by_contra he
  exact apart.forall hs hs' he hl hl'

theorem lines_ne_nil (h : ofSource token source = .ok d) (hs : s ∈ d.statements) : s.lines ≠ [] := by
  cases s
  case line l   => exact List.cons_ne_nil _ _
  case frozen b =>
    cases framed_of_mem_blocks h (mem_blocks.mpr hs)
    exact List.cons_ne_nil _ _

theorem nodup_statements (h : ofSource token source = .ok d) : d.statements.Nodup := by
  have apart := (List.nodup_flatMap.mp (flatMap_lines h ▸ nodup_lines h)).2
  refine apart.imp_of_mem fun hs _ hd he => ?_
  have ⟨l, hl⟩ := List.exists_mem_of_ne_nil _ (lines_ne_nil h hs)
  exact hd hl (he ▸ hl)

-- A block ends with a line that is not empty, its closing marker.
theorem exists_rawLines_eq_append (h : Framed token b) :
    ∃ inner last, b.rawLines = inner ++ [last] ∧ last ≠ [] := by
  cases h
  case intro first last inner rest opening held closing =>
    exact ⟨(first :: inner).map (·.raw), last.raw, by simp [Block.rawLines],
      raw_ne_nil_of_closes closing⟩

end Document
end EnvMerge
