import EnvMerge.Log
import EnvMerge.Proofs.Document.Partition
import Mathlib.Data.Int.Init
import Mathlib.Order.Bounds.Basic

namespace EnvMerge

-- The line that a warning is about.
def Warning.line : Warning → Int
  | nested line | stray line | unclosed line => line

namespace Document

variable {token text : Text} {source : Source} {d : Document} {b : Block} {s : Span} {w : Warning}
variable {l l' first last : Line} {inner tail : List Line} {st : Statement} {settled ss ss' : List Statement}
variable {m n n' : Int}

def OpensAt (token : Text) (d : Document) (n : Int) : Prop :=
  ∃ l ∈ d.lines, l.number = n ∧ opens token l

def ClosesAt (token : Text) (d : Document) (n : Int) : Prop :=
  ∃ l ∈ d.lines, l.number = n ∧ closes token l

-- The last closing marker before line `m` stands in line `n`, which is zero if there is none.
structure LastClosed (token : Text) (d : Document) (m n : Int) : Prop where
  before : n < m
  closes : n = 0 ∨ d.ClosesAt token n
  last   : ∀ k, n < k → k < m → ¬d.ClosesAt token k

-- A span ends at a closing marker and begins at the first opening marker since the closing marker
-- before that.
structure Delimits (token : Text) (d : Document) (s : Span) : Prop where
  closing : d.ClosesAt token s.last
  opening : ∃ n, d.LastClosed token s.last n ∧
    IsLeast {m | n < m ∧ m < s.last ∧ d.OpensAt token m} s.first

-- Whether an opening marker before line `m` is not closed before it.
def Pending (token : Text) (d : Document) (m : Int) : Prop :=
  ∃ k < m, d.OpensAt token k ∧ ∀ j, k < j → j < m → ¬d.ClosesAt token j

-- What a warning says about its line.
def Deserves (token : Text) (d : Document) : Warning → Prop
  | .nested n   => d.OpensAt token n ∧ d.Pending token n
  | .stray n    => d.ClosesAt token n ∧ ¬d.Pending token n
  | .unclosed n => d.OpensAt token n ∧ ¬d.Pending token n ∧ ∀ m, n < m → ¬d.ClosesAt token m

-- Whether a line is a marker that neither begins nor ends a block.
def isUnpaired (token : Text) (d : Document) (l : Line) : Bool :=
  (marker? token l).isSome && d.blocks.all fun b => l.number != b.span.first && l.number != b.span.last

theorem isSome_marker?_iff : (marker? token l).isSome ↔ opens token l ∨ closes token l := by
  cases hm : marker? token l
  case none => simp [opens, closes, hm]
  case some m =>
    cases hk : m.kind <;> simp [opens, closes, hm, hk]

theorem nodup_numbers (h : ofSource token source = .ok d) : (d.lines.map (·.number)).Nodup := by
  have ⟨t, ht⟩ := exists_ofText h
  subst ht
  rw [(partitioned_ofText token t).numbered]
  exact List.nodup_range.map fun _ _ he => Int.ofNat_inj.mp (Int.add_left_cancel he)

theorem eq_of_number_eq (h : ofSource token source = .ok d) (hl : l ∈ d.lines) (hl' : l' ∈ d.lines)
    (same : l.number = l'.number) : l = l' :=
  List.inj_on_of_nodup_map (nodup_numbers h) hl hl' same

theorem opensAt_number_iff (h : ofSource token source = .ok d) (hl : l ∈ d.lines) :
    d.OpensAt token l.number ↔ opens token l :=
  ⟨fun ⟨_, hm, hn, ho⟩ => eq_of_number_eq h hm hl hn ▸ ho, fun ho => ⟨l, hl, rfl, ho⟩⟩

theorem closesAt_number_iff (h : ofSource token source = .ok d) (hl : l ∈ d.lines) :
    d.ClosesAt token l.number ↔ closes token l :=
  ⟨fun ⟨_, hm, hn, hc⟩ => eq_of_number_eq h hm hl hn ▸ hc, fun hc => ⟨l, hl, rfl, hc⟩⟩

theorem mem_statement_lines_iff (h : ofSource token source = .ok d) (hs : st ∈ d.statements) :
    l ∈ st.lines ↔ l ∈ d.lines ∧ st.span.first ≤ l.number ∧ l.number ≤ st.span.last := by
  have ⟨ss, ss', he⟩ := List.append_of_mem hs
  rw [← filter_covers_span h he, List.mem_filter, Span.covers_iff]

theorem number_pos (h : ofSource token source = .ok d) (hl : l ∈ d.lines) : 0 < l.number := by
  have ⟨before, after, he⟩ := List.append_of_mem hl
  have := number_of_lines_eq h he
  omega

-- What is known of the lines of a block: its first line opens, its last line closes, and none in
-- between closes.
structure Ends (token : Text) (d : Document) (b : Block) (first last : Line) : Prop where
  first_mem    : first ∈ d.lines
  last_mem     : last ∈ d.lines
  first_number : first.number = b.span.first
  last_number  : last.number = b.span.last
  before       : first.number < last.number
  opening      : opens token first
  closing      : closes token last
  held         : ∀ l ∈ b.lines, l ≠ last → ¬closes token l

theorem exists_ends (h : ofSource token source = .ok d) (hb : b ∈ d.blocks) :
    ∃ first last, d.Ends token b first last := by
  have mem := mem_blocks.mp hb
  have own (l) (hl : l ∈ b.lines) : l ∈ d.lines := ((mem_statement_lines_iff h mem).mp hl).1
  cases framed_of_mem_blocks h hb
  case intro first last inner rest opening held closing =>
    have length := length_lines h mem
    simp only [Statement.span, Statement.lines, List.length_cons, List.length_append] at length
    refine ⟨first, last, own _ (by simp), own _ (by simp), rfl, rfl, by omega, opens_of_opening opening,
      closing, fun l hl hne => ?_⟩
    simp only [List.mem_cons, List.mem_append, List.not_mem_nil, or_false] at hl
    rcases hl with rfl | hl | rfl
    · exact fun hc => not_opens_of_closes hc (opens_of_opening opening)
    · exact held l hl
    · exact absurd rfl hne

-- Between the markers of a block nothing closes.
theorem not_closesAt_of_mem_blocks (h : ofSource token source = .ok d) (hb : b ∈ d.blocks)
    (hf : b.span.first ≤ n) (hl : n < b.span.last) : ¬d.ClosesAt token n := by
  intro ⟨l, hm, hn, hc⟩
  have ⟨first, last, ends⟩ := exists_ends h hb
  have inside : l ∈ b.lines :=
    (mem_statement_lines_iff h (mem_blocks.mp hb)).mpr ⟨hm, hn ▸ hf, hn ▸ hl.le⟩
  refine ends.held l inside (fun he => ?_) hc
  rw [← hn, he, ends.last_number] at hl
  exact lt_irrefl _ hl

-- Behind settled statements no opening marker is pending, since those of blocks are closed.
theorem not_pending_of_settled (h : ofSource token source = .ok d) (hs : d.statements = ss ++ ss')
    (settled : ∀ st ∈ ss, Settled token st) :
    ¬d.Pending token ((ss.flatMap Statement.lines).length + 1) := by
  intro ⟨k, hk, ⟨l, hl, hn, ho⟩, unclosed⟩
  have lines := flatMap_lines h
  rw [hs, List.flatMap_append] at lines
  have inFront : l ∈ ss.flatMap Statement.lines := by
    by_contra hne
    have behind : l ∈ ss'.flatMap Statement.lines :=
      (List.mem_append.mp (lines ▸ hl)).resolve_left hne
    have place : d.lines = ss.flatMap Statement.lines ++ (ss'.flatMap Statement.lines ++ []) := by
      simp [lines]
    have := (number_of_mem h place behind).1
    omega
  have ⟨st, hst, hm⟩ := List.mem_flatMap.mp inFront
  have mem : st ∈ d.statements := hs ▸ List.mem_append_left _ hst
  cases st
  case line l' =>
    have := List.mem_singleton.mp hm
    exact settled _ hst (this ▸ ho)
  case frozen b =>
    have ⟨first, last, ends⟩ := exists_ends h (mem_blocks.mpr mem)
    have upTo := ((mem_statement_lines_iff h mem).mp hm).2.2
    have closed : k < b.span.last := by
      refine lt_of_le_of_ne (hn ▸ upTo) fun he => ?_
      have same := eq_of_number_eq h hl ends.last_mem (by rw [hn, he, ends.last_number])
      exact not_opens_of_closes ends.closing (same ▸ ho)
    have within : last ∈ ss.flatMap Statement.lines := by
      refine List.mem_flatMap.mpr ⟨_, hst, (mem_statement_lines_iff h mem).mpr ⟨ends.last_mem, ?_, ?_⟩⟩
      · exact ends.first_number ▸ ends.before.le
      · exact ends.last_number.le
    have place : d.lines = [] ++ (ss.flatMap Statement.lines ++ ss'.flatMap Statement.lines) :=
      lines.symm
    have placed := (number_of_mem h place within).2
    rw [ends.last_number, List.length_nil] at placed
    refine unclosed b.span.last closed (by omega) ?_
    exact ends.last_number ▸ (closesAt_number_iff h ends.last_mem).mpr ends.closing

theorem exists_lastClosed (token : Text) (d : Document) (hm : 0 < m) : ∃ n, d.LastClosed token m n := by
  induction m, hm using Int.leInduction
  case base => exact ⟨0, by omega, .inl rfl, fun k hk hk' => by omega⟩
  case succ m _ ih =>
    by_cases hc : d.ClosesAt token m
    case pos => exact ⟨m, by omega, .inr hc, fun k hk hk' => by omega⟩
    case neg =>
      have ⟨n, before, closes, last⟩ := ih
      refine ⟨n, by omega, closes, fun k hk hk' => ?_⟩
      by_cases he : k = m
      case pos => exact he ▸ hc
      case neg => exact last k hk (by omega)

theorem LastClosed.le (h : ofSource token source = .ok d) (hn : d.LastClosed token m n)
    (hn' : d.LastClosed token m n') : n ≤ n' := by
  by_contra hlt
  cases hn.closes
  case inr hc => exact hn'.last n (by omega) hn.before hc
  case inl he =>
    cases hn'.closes
    case inl => omega
    case inr hc =>
      have ⟨l, hl, hnum, _⟩ := hc
      have := number_pos h hl
      omega

-- A closing marker ends one span at most.
theorem Delimits.eq {s' : Span} (h : ofSource token source = .ok d) (hs : d.Delimits token s)
    (hs' : d.Delimits token s') (same : s.last = s'.last) : s = s' := by
  have ⟨n, hn, least⟩ := hs.opening
  have ⟨n', hn', least'⟩ := hs'.opening
  rw [← same] at hn' least'
  have he : n = n' := le_antisymm (hn.le h hn') (hn'.le h hn)
  have first := least.unique (he ▸ least')
  cases s
  cases s'
  exact Span.mk.injEq .. ▸ ⟨first, same⟩

theorem settled_or_dangling (h : ofSource token source = .ok d) : ∃ settled tail,
    d.lines = settled.flatMap Statement.lines ++ tail ∧ d.statements = settled ++ tail.map .line ∧
      d.warnings = settled.flatMap (warningsOf token) ++ (collapse token none tail).2 ∧
      (∀ st ∈ settled, Settled token st) ∧ Dangling token tail := by
  have ⟨t, ht⟩ := exists_ofText h
  have ⟨settled, tail, layout⟩ := exists_layout token t
  subst ht
  refine ⟨settled, tail, layout.lines_eq, layout.statements_eq, ?_, layout.settled, layout.dangling⟩
  change (collapse token none (ofText token t).lines).2 = _
  rw [layout.lines_eq, collapse_append_settled layout.settled]

theorem delimits_of_mem_blocks (h : ofSource token source = .ok d) (hb : b ∈ d.blocks) :
    d.Delimits token b.span := by
  have ⟨first, last, ends⟩ := exists_ends h hb
  have closing : d.ClosesAt token b.span.last :=
    ends.last_number ▸ (closesAt_number_iff h ends.last_mem).mpr ends.closing
  have opening : d.OpensAt token b.span.first :=
    ends.first_number ▸ (opensAt_number_iff h ends.first_mem).mpr ends.opening
  have forward : b.span.first < b.span.last := ends.first_number ▸ ends.last_number ▸ ends.before
  have positive : 0 < b.span.first := ends.first_number ▸ number_pos h ends.first_mem
  have ⟨n, hn⟩ := exists_lastClosed token d (m := b.span.last) (by omega)
  have outside : n < b.span.first := by
    by_contra hle
    cases hn.closes
    case inl he => omega
    case inr hc => exact not_closesAt_of_mem_blocks h hb (by omega) hn.before hc
  refine ⟨closing, n, hn, ⟨outside, forward, opening⟩, fun m ⟨hm, hm', ho⟩ => ?_⟩
  -- an opening marker further up would be pending where the block begins
  by_contra hlt
  have ⟨settled, tail, _, statements, _, hs, _⟩ := settled_or_dangling h
  have framed : .frozen b ∈ settled := by
    have mem := statements ▸ mem_blocks.mp hb
    simpa using mem
  have ⟨ss, ss', he⟩ := List.append_of_mem framed
  have split : d.statements = ss ++ .frozen b :: (ss' ++ tail.map .line) := by simp [statements, he]
  refine not_pending_of_settled h split (fun st hst => hs st (by simp [he, hst])) ⟨m, ?_, ho, ?_⟩
  all_goals
    have place : b.span.first = (ss.flatMap Statement.lines).length + 1 :=
      congrArg Span.first (span_eq h split)
    rw [← place]
  · omega
  · exact fun j hj hj' => hn.last j (by omega) (by omega)

theorem exists_block_of_delimits (h : ofSource token source = .ok d) (hs : d.Delimits token s) :
    ∃ b ∈ d.blocks, b.span = s := by
  have ⟨l, hl, number, closing⟩ := hs.closing
  have ⟨n, hn, ⟨hf, hf', opening⟩, _⟩ := hs.opening
  have ⟨settled, tail, lines, statements, _, settles, dangling⟩ := settled_or_dangling h
  have ⟨st, hst, hm⟩ : ∃ st ∈ settled, l ∈ st.lines := by
    refine List.mem_flatMap.mp ((List.mem_append.mp (lines ▸ hl)).resolve_right fun ht => ?_)
    cases dangling with
    | nil => cases ht
    | cons opening' held =>
      cases ht
      case head    => exact not_opens_of_closes closing (opens_of_opening opening')
      case tail ht => exact held l ht closing
  have mem : st ∈ d.statements := statements ▸ List.mem_append_left _ hst
  cases st
  case frozen b =>
    have hb := mem_blocks.mpr mem
    have ⟨first, last, ends⟩ := exists_ends h hb
    have same : l = last := by
      by_contra hne
      exact ends.held l hm hne closing
    refine ⟨b, hb, (delimits_of_mem_blocks h hb).eq h hs ?_⟩
    rw [← ends.last_number, ← same, number]
  case line l' =>
    -- the opening marker of the span would be pending at its end
    have he : l = l' := List.mem_singleton.mp hm
    subst he
    have ⟨ss, ss', hsplit⟩ := List.append_of_mem hst
    have split : d.statements = ss ++ .line l :: (ss' ++ tail.map .line) := by simp [statements, hsplit]
    have place : l.number = (ss.flatMap Statement.lines).length + 1 :=
      congrArg Span.first (span_eq h split)
    refine absurd ?_ (not_pending_of_settled h split fun st hst => settles st (by simp [hsplit, hst]))
    rw [← place, number]
    exact ⟨s.first, hf', opening, fun j hj hj' => hn.last j (by omega) hj'⟩

theorem pairwise_span (h : ofSource token source = .ok d) :
    d.blocks.Pairwise fun b b' => b.span.last < b'.span.first := by
  refine List.pairwise_filterMap.mpr (List.Pairwise.imp ?_
    (List.pairwise_map.mp (tile_spans h (List.nil_append _).symm).pairwise))
  intro st st' hlt b hb b' hb'
  cases st <;> cases hb
  cases st' <;> cases hb'
  exact hlt

-- A marker is unpaired if it is neither the first nor the last line of the block that it stands in.
theorem isUnpaired_eq (h : ofSource token source = .ok d) (hl : l ∈ d.lines)
    (apart : ∀ b ∈ d.blocks, l ∈ b.lines → l.number ≠ b.span.first ∧ l.number ≠ b.span.last) :
    d.isUnpaired token l = (marker? token l).isSome := by
  rw [isUnpaired, Bool.and_eq_left_iff_imp]
  refine fun _ => List.all_eq_true.mpr fun b hb => ?_
  have ⟨first, last, ends⟩ := exists_ends h hb
  have forward : b.span.first < b.span.last := ends.first_number ▸ ends.last_number ▸ ends.before
  have own (hf : b.span.first ≤ l.number) (hl' : l.number ≤ b.span.last) : l ∈ b.lines :=
    (mem_statement_lines_iff h (mem_blocks.mp hb)).mpr ⟨hl, hf, hl'⟩
  simp only [Bool.and_eq_true, bne_iff_ne]
  exact ⟨fun he => (apart b hb (own he.ge (he ▸ forward.le))).1 he,
    fun he => (apart b hb (own (he ▸ forward.le) he.le)).2 he⟩

theorem mem_strays_iff : w ∈ strays token l ↔ closes token l ∧ w = .stray l.number := by
  simp [strays]

theorem mem_flatMap_nests_iff {ls : List Line} :
    w ∈ ls.flatMap (nests token) ↔ ∃ l ∈ ls, opens token l ∧ w = .nested l.number := by
  simp [nests]

theorem map_line_strays (l : Line) :
    (strays token l).map Warning.line = if closes token l then [l.number] else [] := by
  rw [strays, apply_ite (List.map Warning.line)]
  rfl

theorem map_line_nests (ls : List Line) :
    (ls.flatMap (nests token)).map Warning.line = (ls.filter (opens token)).map (·.number) := by
  induction ls
  case nil => rfl
  case cons l ls ih =>
    by_cases ho : opens token l
    case pos => simp [nests, ho, ih, Warning.line]
    case neg => simp [nests, ho, ih]

-- The warnings about a settled statement name its unpaired markers.
theorem map_line_warningsOf (h : ofSource token source = .ok d) (hs : st ∈ d.statements)
    (settled : Settled token st) :
    (warningsOf token st).map Warning.line = (st.lines.filter (d.isUnpaired token)).map (·.number) := by
  have own (l) (hl : l ∈ st.lines) : l ∈ d.lines := ((mem_statement_lines_iff h hs).mp hl).1
  cases st
  case line l =>
    have free : d.isUnpaired token l = (marker? token l).isSome :=
      isUnpaired_eq h (own l List.mem_cons_self) fun b hb hm =>
        nomatch eq_of_mem_lines h (mem_blocks.mp hb) hs hm List.mem_cons_self
    have unopened : ¬opens token l := settled
    have lines : (Statement.line l).lines = [l] := rfl
    refine (map_line_strays l).trans ?_
    by_cases hc : closes token l
    case pos => simp [lines, hc, free, isSome_marker?_iff]
    case neg => simp [lines, hc, free, isSome_marker?_iff, unopened]
  case frozen b =>
    have distinct : (Statement.frozen b).lines.Nodup := by
      have ⟨ss, ss', he⟩ := List.append_of_mem hs
      exact filter_covers_span h he ▸ (nodup_lines h).filter _
    have mem := mem_blocks.mpr hs
    cases settled
    case intro first last inner rest opening held closing =>
      have ⟨apart, unended⟩ : first ∉ inner ∧ last ∉ inner := by
        have ⟨hf, hn⟩ := List.nodup_cons.mp distinct
        exact ⟨fun hi => hf (List.mem_append_left _ hi),
          fun hi => (List.nodup_append.mp hn).2.2 last hi last List.mem_cons_self rfl⟩
      have beginning : d.isUnpaired token first = false := by
        rw [isUnpaired, Bool.and_eq_false_imp]
        refine fun _ => List.all_eq_false.mpr ⟨_, mem, ?_⟩
        simp
      have ending : d.isUnpaired token last = false := by
        rw [isUnpaired, Bool.and_eq_false_imp]
        refine fun _ => List.all_eq_false.mpr ⟨_, mem, ?_⟩
        simp
      have between : inner.filter (d.isUnpaired token) = inner.filter (opens token) := by
        refine List.filter_congr fun l hl => ?_
        have inside : l ∈ first :: (inner ++ [last]) := by simp [hl]
        rw [isUnpaired_eq h (own l inside), Bool.eq_iff_iff, isSome_marker?_iff, or_iff_left (held l hl)]
        intro b' hb' hm
        have same := eq_of_mem_lines h (mem_blocks.mp hb') hs hm inside
        cases same
        have foot : last ∈ first :: (inner ++ [last]) := by simp
        exact ⟨fun he => apart (eq_of_number_eq h (own l inside) (own first List.mem_cons_self) he ▸ hl),
          fun he => unended (eq_of_number_eq h (own l inside) (own last foot) he ▸ hl)⟩
      have quiet : ¬opens token last := not_opens_of_closes closing
      refine (map_line_nests (inner ++ [last])).trans ?_
      have lines (b : Block) : (Statement.frozen b).lines = b.lines := rfl
      simp [lines, beginning, ending, between, quiet]

theorem perm_dangling (h : ofSource token source = .ok d) (dangling : Dangling token tail)
    (free : ∀ l ∈ tail, l ∈ d.lines ∧ ∀ b ∈ d.blocks, l ∉ b.lines) :
    ((collapse token none tail).2.map Warning.line).Perm
      ((tail.filter (d.isUnpaired token)).map (·.number)) := by
  have unpaired (l) (hl : l ∈ tail) : d.isUnpaired token l = (marker? token l).isSome :=
    isUnpaired_eq h (free l hl).1 fun b hb hm => absurd hm ((free l hl).2 b hb)
  cases dangling with
  | nil => exact .nil
  | @cons first inner rest opening held =>
    have beginning : d.isUnpaired token first = true := by
      rw [unpaired first List.mem_cons_self, opening, Option.isSome_some]
    have behind : inner.filter (d.isUnpaired token) = inner.filter (opens token) := by
      refine List.filter_congr fun l hl => ?_
      rw [unpaired l (List.mem_cons_of_mem _ hl), Bool.eq_iff_iff, isSome_marker?_iff,
        or_iff_left (held l hl)]
    rw [collapse_dangling opening held, List.map_append, map_line_nests, List.filter_cons_of_pos beginning,
      behind, List.map_cons]
    exact List.perm_append_singleton _ _

-- The warnings name the unpaired markers, each of them once.
theorem perm_warnings (h : ofSource token source = .ok d) :
    (d.warnings.map Warning.line).Perm ((d.lines.filter (d.isUnpaired token)).map (·.number)) := by
  have ⟨settled, tail, lines, statements, warnings, settles, dangling⟩ := settled_or_dangling h
  have front : (settled.flatMap (warningsOf token)).map Warning.line =
      ((settled.flatMap Statement.lines).filter (d.isUnpaired token)).map (·.number) := by
    rw [List.map_flatMap, List.filter_flatMap, List.map_flatMap]
    refine List.flatMap_congr fun st hst => ?_
    exact map_line_warningsOf h (statements ▸ List.mem_append_left _ hst) (settles st hst)
  rw [warnings, lines, List.map_append, List.filter_append, List.map_append, front]
  refine (perm_dangling h dangling fun l hl => ⟨lines ▸ List.mem_append_right _ hl, ?_⟩).append_left _
  intro b hb hm
  have own : Statement.line l ∈ d.statements :=
    statements ▸ List.mem_append_right _ (List.mem_map_of_mem hl)
  exact nomatch eq_of_mem_lines h (mem_blocks.mp hb) own hm List.mem_cons_self

theorem deserves_of_mem_warningsOf (h : ofSource token source = .ok d)
    (hs : d.statements = ss ++ st :: ss') (settled : ∀ st' ∈ ss, Settled token st')
    (here : Settled token st) (hw : w ∈ warningsOf token st) : d.Deserves token w := by
  have mem : st ∈ d.statements := by simp [hs]
  cases st
  case line l =>
    have hl : l ∈ d.lines := ((mem_statement_lines_iff h mem).mp List.mem_cons_self).1
    have ⟨closing, he⟩ := mem_strays_iff.mp hw
    subst he
    have place : l.number = (ss.flatMap Statement.lines).length + 1 := congrArg Span.first (span_eq h hs)
    exact ⟨(closesAt_number_iff h hl).mpr closing, place ▸ not_pending_of_settled h hs settled⟩
  case frozen b =>
    have hb := mem_blocks.mpr mem
    have ⟨first, last, ends⟩ := exists_ends h hb
    have ⟨l, hl, opening, he⟩ := mem_flatMap_nests_iff.mp hw
    subst he
    have ⟨hm, _, hl'⟩ := (mem_statement_lines_iff h mem).mp (List.mem_of_mem_tail hl)
    have behind : b.span.first < l.number := by
      have hb' : b.lines ≠ [] := lines_ne_nil h mem
      have lines := flatMap_lines h
      rw [hs, List.flatMap_append, List.flatMap_cons] at lines
      have ⟨head, he⟩ : ∃ head, b.lines = head :: b.lines.tail := ⟨_, (List.cons_head_tail hb').symm⟩
      have split : d.lines = (ss.flatMap Statement.lines ++ [head]) ++
          (b.lines.tail ++ ss'.flatMap Statement.lines) := by
        rw [← lines, List.append_assoc, List.singleton_append, ← List.cons_append, ← he]
        rfl
      have later := (number_of_mem h split hl).1
      have place : b.span.first = (ss.flatMap Statement.lines).length + 1 :=
        congrArg Span.first (span_eq h hs)
      simp only [List.length_append, List.length_singleton] at later
      omega
    refine ⟨(opensAt_number_iff h hm).mpr opening, b.span.first, behind, ?_, fun j hj hj' => ?_⟩
    · exact ends.first_number ▸ (opensAt_number_iff h ends.first_mem).mpr ends.opening
    · exact not_closesAt_of_mem_blocks h hb hj.le (lt_of_lt_of_le hj' hl')

-- From a marker that is never closed nothing closes any more.
theorem deserves_of_mem_dangling (h : ofSource token source = .ok d)
    (hs : d.statements = ss ++ tail.map .line) (settled : ∀ st ∈ ss, Settled token st)
    (dangling : Dangling token tail) (hw : w ∈ (collapse token none tail).2) : d.Deserves token w := by
  have lines := flatMap_lines h
  have flat : (tail.map Statement.line).flatMap Statement.lines = tail :=
    List.flatMap_map .. |>.trans (List.flatMap_singleton' tail)
  rw [hs, List.flatMap_append, flat] at lines
  have own (l) (hl : l ∈ tail) : l ∈ d.lines := lines ▸ List.mem_append_right _ hl
  cases dangling with
  | nil => cases hw
  | @cons first inner rest opening held =>
    have number : first.number = (ss.flatMap Statement.lines).length + 1 :=
      number_of_lines_eq h lines.symm
    have unclosed (j : Int) (hj : first.number ≤ j) : ¬d.ClosesAt token j := by
      intro ⟨l, hl, hn, hc⟩
      have behind : l ∈ first :: inner := by
        refine (List.mem_append.mp (lines ▸ hl)).resolve_left fun hf => ?_
        have place : d.lines = [] ++ (ss.flatMap Statement.lines ++ first :: inner) := lines.symm
        have := (number_of_mem h place hf).2
        rw [List.length_nil] at this
        omega
      cases behind
      case head    => exact not_opens_of_closes hc (opens_of_opening opening)
      case tail hi => exact held l hi hc
    have opened : d.OpensAt token first.number :=
      (opensAt_number_iff h (own _ List.mem_cons_self)).mpr (opens_of_opening opening)
    rw [collapse_dangling opening held, List.mem_append, List.mem_singleton] at hw
    cases hw
    case inr he =>
      subst he
      exact ⟨opened, number ▸ not_pending_of_settled h hs settled, fun m hm => unclosed m hm.le⟩
    case inl hw =>
      have ⟨l, hl, opening', he⟩ := mem_flatMap_nests_iff.mp hw
      subst he
      have split : d.lines = (ss.flatMap Statement.lines ++ [first]) ++ (inner ++ []) := by simp [← lines]
      have later := (number_of_mem h split hl).1
      simp only [List.length_append, List.length_singleton] at later
      refine ⟨(opensAt_number_iff h (own _ (List.mem_cons_of_mem _ hl))).mpr opening', first.number, ?_,
        opened, fun j hj _ => unclosed j hj.le⟩
      omega

theorem deserves_of_mem_warnings (h : ofSource token source = .ok d) (hw : w ∈ d.warnings) :
    d.Deserves token w := by
  have ⟨settled, tail, _, statements, warnings, settles, dangling⟩ := settled_or_dangling h
  cases List.mem_append.mp (warnings ▸ hw)
  case inr hw => exact deserves_of_mem_dangling h statements settles dangling hw
  case inl hw =>
    have ⟨st, hst, hw⟩ := List.mem_flatMap.mp hw
    have ⟨ss, ss', he⟩ := List.append_of_mem hst
    have split : d.statements = ss ++ st :: (ss' ++ tail.map .line) := by simp [statements, he]
    exact deserves_of_mem_warningsOf h split (fun st' hm => settles st' (by simp [he, hm]))
      (settles st hst) hw

theorem reason_of_mem_blocks (h : ofSource token source = .ok d) (hb : b ∈ d.blocks) :
    ∃ l ∈ d.lines, l.number = b.span.first ∧
      ∃ rest, marker? token l = some ⟨.freeze, rest⟩ ∧ b.reason = reasonOf rest := by
  have own (l) (hl : l ∈ b.lines) : l ∈ d.lines :=
    ((mem_statement_lines_iff h (mem_blocks.mp hb)).mp hl).1
  cases framed_of_mem_blocks h hb
  case intro first last inner rest opening held closing =>
    exact ⟨first, own _ List.mem_cons_self, rfl, rest, opening, rfl⟩

-- What becomes of the markers of a document.
structure PairsMarkers (token : Text) (d : Document) : Prop where
  delimits : ∀ s, s ∈ d.blocks.map (·.span) ↔ d.Delimits token s
  ordered  : d.blocks.Pairwise fun b b' => b.span.last < b'.span.first
  lines    : ∀ b ∈ d.blocks, b.lines = d.excerpt b.span
  reasons  : ∀ b ∈ d.blocks, ∃ l ∈ d.lines, l.number = b.span.first ∧
    ∃ rest, marker? token l = some ⟨.freeze, rest⟩ ∧ b.reason = reasonOf rest
  named    : (d.warnings.map Warning.line).Perm ((d.lines.filter (d.isUnpaired token)).map (·.number))
  deserved : ∀ w ∈ d.warnings, d.Deserves token w
  logged   : ∀ custom, (d.events custom).filter (·.level = .warning) = d.warnings.map .freeze

theorem logged_events (d : Document) (custom : Bool) :
    (d.events custom).filter (·.level = .warning) = d.warnings.map .freeze := by
  simp [events, List.filter_map, Function.comp_def, Event.level]

-- However a source is written, each of its markers ends up in a block's frame or in a warning.
theorem exists_pairsMarkers (token : Text) (h : source.decode = .ok text) :
    ∃ d, ofSource token source = .ok d ∧ d.PairsMarkers token := by
  have read := ofSource_of_decode token h
  refine ⟨_, read, fun s => ⟨fun hs => ?_, fun hs => ?_⟩, pairwise_span read, fun b hb => ?_,
    fun b => reason_of_mem_blocks read, perm_warnings read, fun w => deserves_of_mem_warnings read,
    logged_events _⟩
  · have ⟨b, hb, he⟩ := List.mem_map.mp hs
    exact he ▸ delimits_of_mem_blocks read hb
  · have ⟨b, hb, he⟩ := exists_block_of_delimits read hs
    exact List.mem_map.mpr ⟨b, hb, he⟩
  · exact (excerpt_span read (mem_blocks.mp hb)).symm

theorem exists_pairsMarkers_of_tangled_markers :
    ∃ d, ofSource ['t'] (.bytes (Utf8.encode tangledMarkers)) = .ok d ∧ d.PairsMarkers ['t'] ∧
      d.blocks.map (fun b => (b.span, b.reason)) = [(⟨2, 5⟩, some ['é']), (⟨6, 7⟩, none)] ∧
      d.warnings = [.stray 1, .nested 3, .unclosed 8] := by
  have decoded : (Source.bytes (Utf8.encode tangledMarkers)).decode = .ok tangledMarkers := by
    decide +kernel
  have blocks : (ofText ['t'] tangledMarkers).blocks.map (fun b => (b.span, b.reason)) =
      [(⟨2, 5⟩, some ['é']), (⟨6, 7⟩, none)] := by
    decide +kernel
  have warnings : (ofText ['t'] tangledMarkers).warnings = [.stray 1, .nested 3, .unclosed 8] := by
    decide +kernel
  have ⟨d, read, pairs⟩ := exists_pairsMarkers ['t'] decoded
  have same := Except.ok.inj (read.symm.trans (ofSource_of_decode ['t'] decoded))
  exact ⟨d, read, pairs, same ▸ blocks, same ▸ warnings⟩

end Document
end EnvMerge
