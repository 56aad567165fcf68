import EnvMerge.Proofs.Document.Markers
import EnvMerge.Proofs.Text.Utf8

namespace EnvMerge

variable {n k : Int} {raw s t : Text} {rs : List Text} {x : Bytes} {a b c : Source}

-- Whatever carries line numbers, numbered on by `k`.
def Span.shift (k : Int) (s : Span) : Span :=
  ⟨s.first + k, s.last + k⟩

def Line.shift (k : Int) (l : Line) : Line :=
  { l with number := l.number + k }

def Block.shift (k : Int) (b : Block) : Block :=
  ⟨b.span.shift k, b.lines.map (·.shift k), b.reason⟩

def Statement.shift (k : Int) : Statement → Statement
  | line l   => line (l.shift k)
  | frozen b => frozen (b.shift k)

def Warning.shift (k : Int) : Warning → Warning
  | nested n   => nested (n + k)
  | stray n    => stray (n + k)
  | unclosed n => unclosed (n + k)

namespace Line

theorem shift_ofRaw : (ofRaw raw n).shift k = ofRaw raw (n + k) := by
  have ⟨_, _, read⟩ := exists_ofRaw_eq raw.trim
  rw [read rfl, read rfl]
  rfl

theorem numberedFrom_add : numberedFrom (n + k) rs = (numberedFrom n rs).map (·.shift k) := by
  induction rs generalizing n
  case nil => rfl
  case cons r rs ih =>
    rw [numberedFrom, numberedFrom, List.map_cons, shift_ofRaw, ← ih, Int.add_right_comm]

theorem ofSource_append (h : s = [] ∨ s.getLast? = some '\n') :
    ofSource (s ++ t) = ofSource s ++ (ofSource t).map (·.shift (ofSource s).length) := by
  have length : (split s).length = (ofSource s).length := by
    rw [← map_raw_numberedFrom 1 (split s), List.length_map]
    rfl
  rw [ofSource, split_append h, numberedFrom_append, numberedFrom_add, length]
  rfl

end Line

@[simp] theorem Statement.span_shift (s : Statement) : (s.shift k).span = s.span.shift k := by
  cases s <;> rfl

@[simp] theorem Statement.block?_shift (s : Statement) : (s.shift k).block? = s.block?.map (·.shift k) := by
  cases s <;> rfl

namespace Document

variable {token : Text} {d e f : Document} {l : Line} {ls : List Line}

def Opening.shift (k : Int) (o : Opening) : Opening :=
  ⟨o.start.shift k, o.reason, o.held.map (·.shift k)⟩

theorem shift_close (o : Opening) (l : Line) :
    (o.close l).shift k = (o.shift k).close (l.shift k) := by
  simp [Opening.close, Opening.shift, Block.shift, Span.shift, Line.shift]

theorem shift_abandon (o : Opening) : o.abandon.map (·.shift k) = (o.shift k).abandon := by
  simp [Opening.abandon, Opening.shift, Statement.shift, Function.comp_def]

-- Whether a line is a marker does not depend on its number.
@[simp] theorem marker?_shift (k : Int) (l : Line) : marker? token (l.shift k) = marker? token l := rfl

@[simp] theorem opens_shift (k : Int) (l : Line) : opens token (l.shift k) = opens token l := rfl

@[simp] theorem closes_shift (k : Int) (l : Line) : closes token (l.shift k) = closes token l := rfl

theorem shift_strays (l : Line) : (strays token l).map (·.shift k) = strays token (l.shift k) := by
  rw [strays, apply_ite (List.map _)]
  rfl

theorem shift_nests (l : Line) : (nests token l).map (·.shift k) = nests token (l.shift k) := by
  rw [nests, apply_ite (List.map _)]
  rfl

-- What lines are read as does not depend on where their numbers begin. The induction is over the
-- lines that are left, whichever block is open before them.
theorem collapse_shift (o : Option Opening) (ls : List Line) :
    collapse token (o.map (·.shift k)) (ls.map (·.shift k)) =
      ((collapse token o ls).1.map (·.shift k), (collapse token o ls).2.map (·.shift k)) := by
  induction ls generalizing o
  case nil =>
    cases o
    case none   => rfl
    case some o => simp [collapse, shift_abandon, Warning.shift, Opening.shift, Line.shift]
  case cons l ls ih =>
    rw [List.map_cons]
    cases o
    case none =>
      by_cases ho : opens token l
      case pos =>
        obtain ⟨rest, hm⟩ := exists_of_opens ho
        rw [Option.map_none, collapse_cons_opening ((marker?_shift k l).trans hm), collapse_cons_opening hm]
        exact ih (some (.ofLine l rest))
      case neg =>
        have hi := ih none
        rw [Option.map_none] at hi ⊢
        rw [collapse_cons_free (opens_shift k l ▸ ho), collapse_cons_free ho, hi, ← shift_strays,
          List.map_cons, List.map_append]
        rfl
    case some o =>
      rw [Option.map_some]
      by_cases hc : closes token l
      case pos =>
        have hi := ih none
        rw [Option.map_none] at hi
        rw [collapse_cons_closing (closes_shift k l ▸ hc), collapse_cons_closing hc, hi, ← shift_close,
          List.map_cons]
        rfl
      case neg =>
        have hi := ih (some (o.hold l))
        rw [Option.map_some] at hi
        rw [collapse_cons_held (closes_shift k l ▸ hc), collapse_cons_held hc, ← shift_nests,
          List.map_append]
        exact hi ▸ rfl

-- How the document of two sources is composed of their documents.
structure Composes (d e f : Document) : Prop where
  lines_eq      : f.lines = d.lines ++ e.lines.map (·.shift d.lines.length)
  statements_eq : f.statements = d.statements ++ e.statements.map (·.shift d.lines.length)
  blocks_eq     : f.blocks = d.blocks ++ e.blocks.map (·.shift d.lines.length)
  spans_eq      : f.statements.map (·.span) =
    d.statements.map (·.span) ++ e.statements.map (·.span.shift d.lines.length)
  warnings_eq   : f.warnings = d.warnings ++ e.warnings.map (·.shift d.lines.length)
  logged        : ∀ custom, (f.events custom).filter (·.level = .warning) =
    (d.events custom).filter (·.level = .warning) ++
      (e.warnings.map (·.shift d.lines.length)).map .freeze

-- Blocks, spans and reports follow the statements and warnings.
theorem Composes.of_eq (lines : f.lines = d.lines ++ e.lines.map (·.shift d.lines.length))
    (statements : f.statements = d.statements ++ e.statements.map (·.shift d.lines.length))
    (warnings : f.warnings = d.warnings ++ e.warnings.map (·.shift d.lines.length)) :
    Composes d e f where
  lines_eq      := lines
  statements_eq := statements
  blocks_eq     := by simp [blocks, statements, List.filterMap_map, List.map_filterMap]
  spans_eq      := by simp [statements, Function.comp_def]
  warnings_eq   := warnings
  logged        := by simp [logged_events, warnings]

-- Nothing dangles at the end of a text that leaves no block open, so lines behind it are read as if
-- they stood alone.
theorem collapse_append_closed (closed : ¬(ofText token s).Unclosed) (ls : List Line) :
    collapse token none (Line.ofSource s ++ ls) =
      ((ofText token s).statements ++ (collapse token none ls).1,
        (ofText token s).warnings ++ (collapse token none ls).2) := by
  have ⟨settled, tail, layout⟩ := exists_layout token s
  have nothing : tail = [] := Decidable.not_not.mp fun some => closed (layout.unclosed_iff.mpr some)
  have front : Line.ofSource s = settled.flatMap (·.lines) :=
    layout.lines_eq.trans (nothing ▸ List.append_nil _)
  have read (ls : List Line) : collapse token none (settled.flatMap (·.lines) ++ ls) =
      (settled ++ (collapse token none ls).1, settled.flatMap (warningsOf token) ++ (collapse token none ls).2) :=
    collapse_append_settled layout.settled
  have alone : collapse token none (Line.ofSource s) = (settled, settled.flatMap (warningsOf token)) := by
    simpa [front, collapse] using read []
  rw [ofText, alone, front]
  exact read ls

theorem composes_ofText (ended : s = [] ∨ s.getLast? = some '\n')
    (closed : ¬(ofText token s).Unclosed) :
    Composes (ofText token s) (ofText token t) (ofText token (s ++ t)) := by
  have lines := Line.ofSource_append (t := t) ended
  have behind : collapse token none ((Line.ofSource t).map (·.shift (Line.ofSource s).length)) = _ :=
    collapse_shift none (Line.ofSource t)
  have read := collapse_append_closed closed ((Line.ofSource t).map (·.shift (Line.ofSource s).length))
  rw [← lines, behind] at read
  exact .of_eq lines (congrArg Prod.fst read) (congrArg Prod.snd read)

end Document

-- Sources of one kind, with the source that they are together.
inductive Source.Joins : Source → Source → Source → Prop
  | text (s t : Text) : Joins (.text s) (.text t) (.text (s ++ t))
  | bytes (x y : Bytes) : Joins (.bytes x) (.bytes y) (.bytes (x ++ y))

-- Whether a source is empty or ends in a line feed.
def Source.Ended : Source → Prop
  | text t  => t = [] ∨ t.getLast? = some '\n'
  | bytes x => x = [] ∨ x.getLast? = some 0x0A

namespace Source

theorem decode_bytes_eq_ok_iff : (bytes x).decode = .ok t ↔ Utf8.Spells x t := by
  rw [← Utf8.decodeFrom_eq_ok_iff (p := 0), decode, Utf8.decode]
  cases Utf8.decodeFrom 0 x <;> simp [Except.mapError]

theorem Joins.decode (h : Joins a b c) (ha : a.decode = .ok s) (hb : b.decode = .ok t) :
    c.decode = .ok (s ++ t) := by
  cases h
  case text =>
    cases ha
    cases hb
    rfl
  case bytes =>
    rw [decode_bytes_eq_ok_iff] at ha hb ⊢
    exact ha.append hb

theorem Ended.decode (h : a.Ended) (ha : a.decode = .ok s) : s = [] ∨ s.getLast? = some '\n' := by
  cases a
  case text =>
    cases ha
    exact h
  case bytes x =>
    cases h
    case inl h =>
      subst h
      exact .inl (Except.ok.inj ha).symm
    case inr h => exact .inr ((decode_bytes_eq_ok_iff.mp ha).getLast?_eq_feed h)

end Source

namespace Document

variable {token : Text} {d e : Document}

-- Two sources are read together as each would be alone.
theorem exists_composes (joins : Source.Joins a b c) (hd : ofSource token a = .ok d)
    (he : ofSource token b = .ok e) (ended : a.Ended) (closed : ¬d.Unclosed) :
    ∃ f, ofSource token c = .ok f ∧ Composes d e f := by
  have ⟨s, ha, hd⟩ := exists_decode hd
  have ⟨t, hb, he⟩ := exists_decode he
  subst hd he
  exact ⟨_, ofSource_of_decode token (joins.decode ha hb), composes_ofText (ended.decode ha) closed⟩

-- A block with a nested marker in it, and line ends of both kinds.
def nestedMarkers : Text :=
  Text.joinLines <| ["# t:freeze", "# t:freeze", "A=1\r", "# t:unfreeze", ""].map String.toList

theorem exists_composes_of_tangled_markers :
    ∃ d e f, ofSource ['t'] (.bytes (Utf8.encode nestedMarkers)) = .ok d ∧
      ofSource ['t'] (.bytes (Utf8.encode tangledMarkers)) = .ok e ∧
      (Source.bytes (Utf8.encode nestedMarkers)).Ended ∧ ¬d.Unclosed ∧
      ofSource ['t'] (.bytes (Utf8.encode nestedMarkers ++ Utf8.encode tangledMarkers)) = .ok f ∧
      Composes d e f ∧ f.blocks.map (·.span) = [⟨1, 4⟩, ⟨6, 9⟩, ⟨10, 11⟩] ∧
      f.warnings = [.nested 2, .stray 5, .nested 7, .unclosed 12] := by
  have decoded : (Source.bytes (Utf8.encode nestedMarkers)).decode = .ok nestedMarkers := by
    decide +kernel
  have decoded' : (Source.bytes (Utf8.encode tangledMarkers)).decode = .ok tangledMarkers := by
    decide +kernel
  have ended : (Source.bytes (Utf8.encode nestedMarkers)).Ended := .inr (by decide +kernel)
  have warned : (ofText ['t'] nestedMarkers).warnings = [.nested 2] := by decide +kernel
  have closed : ¬(ofText ['t'] nestedMarkers).Unclosed := by simp [Unclosed, warned]
  have hd := ofSource_of_decode ['t'] decoded
  have he := ofSource_of_decode ['t'] decoded'
  obtain ⟨f, hf, composes⟩ := exists_composes (.bytes _ _) hd he ended closed
  refine ⟨_, _, f, hd, he, ended, closed, hf, composes, ?blocks, ?warnings⟩
  case blocks =>
    rw [composes.blocks_eq]
    decide +kernel
  case warnings =>
    rw [composes.warnings_eq]
    decide +kernel

end Document

end EnvMerge
