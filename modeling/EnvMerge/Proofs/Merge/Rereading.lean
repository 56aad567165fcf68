import EnvMerge.Proofs.Document.Echo
import EnvMerge.Proofs.Draft
import EnvMerge.Proofs.Merge.Additions
import EnvMerge.Proofs.Merge.Frozen
import EnvMerge.Proofs.Merge.LineByLine

namespace EnvMerge

open Document

-- Whether a block is another one read again.
structure Block.RereadAs (b b' : Block) : Prop where
  rawLines_eq : b'.rawLines = b.rawLines.map Line.dropReturn
  reason_eq   : b'.reason = b.reason

variable {o : Options} {template destination : Source} {t d : Document} {r : Draft} {token : Text}
variable {l m x : Line} {ls ms : List Line} {s : Statement} {b b' : Block} {k : Text} {n : Int}

namespace Draft

def addedBlocks (r : Draft) (template : Document) : List Block :=
  (r.added template).filterMap (·.block?)

-- Whether the text, read again, has the blocks of the destination, each in its place, and behind
-- the destination's lines the blocks that were added, and no other.
def KeepsFrozen (token : Text) (r : Draft) (template destination : Document) : Prop :=
  ∃ kept new, (ofText token r.text).blocks = kept ++ new ∧
    List.Forall₂ (fun b b' => b.RereadAs b' ∧ b'.span = b.span) destination.blocks kept ∧
    List.Forall₂ (fun b b' => b.RereadAs b' ∧ (destination.lines.length : Int) < b'.span.first)
      (r.addedBlocks template) new

-- The empty lines at the end of a draft, which its text does not show, stand free.
theorem exists_statements_append (token : Text) (h : ∀ line ∈ r.lines, '\n' ∉ line) :
    ∃ blanks : List Line, (∀ l ∈ blanks, l.content = .blank) ∧
      (ofText token r.text).statements ++ blanks.map .line
        = readStatements token (Line.numberedFrom 1 (r.lines.map Line.dropReturn)) := by
  have ⟨shown, shows⟩ := exists_shows h
  have ⟨n, hl⟩ := shows.lines_eq
  have blank (k : Int) : ∀ l ∈ Line.numberedFrom k (.replicate n []), l.content = .blank := by
    intro l hm
    have ⟨hr, _, he⟩ := Line.exists_of_mem_numberedFrom hm
    rw [he, (List.mem_replicate.mp hr).2]
    rfl
  have idle (k : Int) : ∀ l ∈ Line.numberedFrom k (.replicate n []), Idle token l := by
    intro l hm
    refine idle_of_said?_eq_none (said?_of_not_isComment ?_)
    simp [Line.isComment, blank k l hm]
  rw [hl, List.map_append, List.map_replicate, Line.numberedFrom_append,
    show Line.dropReturn [] = [] from rfl, readStatements_append_idle (idle _), ← shows.split_text h]
  exact ⟨_, blank _, rfl⟩

end Draft

namespace Document

variable {source : Source}

theorem mem_lines (h : ofSource token source = .ok d) (hs : s ∈ d.statements) (hl : l ∈ s.lines) :
    l ∈ d.lines :=
  flatMap_lines h ▸ List.mem_flatMap.mpr ⟨s, hs, hl⟩

theorem said?_reread (h : ofSource token source = .ok d) (hl : l ∈ d.lines) :
    said? token (.ofRaw (Line.dropReturn l.raw) n) = said? token l := by
  have ⟨tx, he⟩ := exists_ofText h
  have ⟨hr, _, hl⟩ := Line.exists_of_mem_numberedFrom (he ▸ hl)
  exact said?_ofRaw_dropReturn hl (Line.not_mem_of_mem_split hr)

theorem eq_ofRaw (h : ofSource token source = .ok d) (hl : l ∈ d.lines) :
    l = .ofRaw l.raw l.number := by
  have ⟨tx, he⟩ := exists_ofText h
  exact (Line.exists_of_mem_numberedFrom (he ▸ hl)).2.2

theorem key?_reread (h : ofSource token source = .ok d) (hl : l ∈ d.lines) :
    (Line.ofRaw (Line.dropReturn l.raw) n).key? = l.key? := by
  have content : (Line.ofRaw (Line.dropReturn l.raw) n).content = (Line.ofRaw l.raw l.number).content :=
    Line.content_ofRaw_dropReturn
  rw [Line.key?, content, ← eq_ofRaw h hl, ← Line.key?]

end Document

theorem map_line_flatMap_lines {ss : List Statement} (h : ∀ s ∈ ss, s.block? = none) :
    (ss.flatMap Statement.lines).map .line = ss := by
  induction ss
  case nil => rfl
  case cons s ss ih =>
    have ⟨hs, hss⟩ := List.forall_mem_cons.mp h
    cases s
    case line l   => exact congrArg (.line l :: ·) (ih hss)
    case frozen b => cases hs

theorem exists_first_block {ss : List Statement} (h : ss.filterMap (·.block?) ≠ []) :
    ∃ pre b post, ss = pre ++ .frozen b :: post ∧ ∀ s ∈ pre, s.block? = none := by
  induction ss
  case nil => contradiction
  case cons s ss ih =>
    cases s
    case frozen b => exact ⟨[], b, ss, rfl, by simp⟩
    case line l   =>
      have ⟨pre, b, post, he, hp⟩ := ih h
      exact ⟨.line l :: pre, b, post, by rw [he, List.cons_append], List.forall_mem_cons.mpr ⟨rfl, hp⟩⟩

namespace Merge

-- How a line of the destination comes back: what stands in its place says the same as a marker and
-- assigns to the same key, if to any.
structure Kept (o : Options) (t d : Document) (l m : Line) : Prop where
  said?_eq : said? o.token l = said? o.token m
  key?_eq  : m.key? = l.key?
  eq_ofRaw : m = .ofRaw (Line.dropReturn (lineFor o t d l)) l.number

-- How a line that was added comes back, behind all lines of the destination.
structure Added (token : Text) (n : Int) (l m : Line) : Prop where
  said?_eq : said? token l = said? token m
  key?_eq  : m.key? = l.key?
  behind   : ∃ n', n < n' ∧ m = .ofRaw (Line.dropReturn l.raw) n'

namespace Kept

theorem number_eq (h : Kept o t d l m) : m.number = l.number := by
  rw [h.eq_ofRaw, Line.ofRaw_number]

theorem raw_eq (h : Kept o t d l m) : m.raw = Line.dropReturn (lineFor o t d l) := by
  rw [h.eq_ofRaw, Line.ofRaw_raw]

end Kept

namespace Added

theorem number_gt (h : Added token n l m) : n < m.number := by
  have ⟨n', hn, he⟩ := h.behind
  rwa [he, Line.ofRaw_number]

theorem raw_eq (h : Added token n l m) : m.raw = Line.dropReturn l.raw := by
  have ⟨_, _, he⟩ := h.behind
  rw [he, Line.ofRaw_raw]

end Added

-- A line is replaced by one that assigns to the same key.
theorem exists_key?_of_replacement? (ht : ofSource o.token template = .ok t)
    (h : replacement? o t d l = some x) : ∃ k, l.key? = some k ∧ x.key? = some k ∧ x ∈ t.lines := by
  have ⟨k, hk, hx, _, _⟩ := replacement?_eq_some_iff.mp h
  have first := assignment?_eq_some_iff.mp hx
  have mem := mem_lines ht (List.mem_of_find?_eq_some first) (List.mem_singleton.mpr rfl)
  have ⟨_, he, hkx⟩ := Statement.exists_line_of_identity? (identity?_of_first? first)
  cases he
  exact ⟨k, hk, hkx, mem⟩

theorem said?_lineFor (ht : ofSource o.token template = .ok t)
    (hd : ofSource o.token destination = .ok d) (hl : l ∈ d.lines) :
    said? o.token (.ofRaw (Line.dropReturn (lineFor o t d l)) n) = said? o.token l := by
  cases hr : replacement? o t d l
  case none =>
    rw [lineFor_of_none hr]
    exact said?_reread hd hl
  case some x =>
    -- both are assignments, so neither says anything
    have ⟨k, hk, hx, hm⟩ := exists_key?_of_replacement? ht hr
    rw [lineFor_of_some hr, said?_reread ht hm, said?_of_isAssignment (Option.isSome_of_eq_some hx),
      said?_of_isAssignment (Option.isSome_of_eq_some hk)]

theorem key?_lineFor (ht : ofSource o.token template = .ok t)
    (hd : ofSource o.token destination = .ok d) (hl : l ∈ d.lines) :
    (Line.ofRaw (Line.dropReturn (lineFor o t d l)) n).key? = l.key? := by
  cases hr : replacement? o t d l
  case none =>
    rw [lineFor_of_none hr]
    exact key?_reread hd hl
  case some x =>
    have ⟨k, hk, hx, hm⟩ := exists_key?_of_replacement? ht hr
    rw [lineFor_of_some hr, key?_reread ht hm, hx, hk]

theorem forall₂_kept (ht : ofSource o.token template = .ok t)
    (hd : ofSource o.token destination = .ok d) :
    List.Forall₂ (Kept o t d) d.lines
      (Line.numberedFrom 1 ((d.lines.map (lineFor o t d)).map Line.dropReturn)) := by
  have ⟨tx, he⟩ := exists_ofText hd
  have same := Line.forall₂_numberedFrom_same 1 (Line.split tx)
    fun l => Line.dropReturn (lineFor o t d l)
  have lines : d.lines = Line.numberedFrom 1 (Line.split tx) := by rw [he]; rfl
  rw [← lines] at same
  rw [List.map_map]
  refine ((List.forall₂_and_left _ _).mpr ⟨fun l hl => hl, same⟩).imp fun l m h => ?_
  have ⟨hl, hm⟩ := h
  exact ⟨by rw [hm, said?_lineFor ht hd hl], by rw [hm, key?_lineFor ht hd hl], hm⟩

theorem forall₂_added (ht : ofSource token template = .ok t) (hl : ∀ l ∈ ls, l ∈ t.lines) :
    List.Forall₂ (Added token n) ls (Line.numberedFrom (n + 1) ((ls.map (·.raw)).map Line.dropReturn)) := by
  rw [List.map_map]
  have again := Line.forall₂_numberedFrom (n + 1) ls fun l => Line.dropReturn l.raw
  refine ((List.forall₂_and_left _ _).mpr ⟨hl, again⟩).imp fun l m h => ?_
  have ⟨hl, n', hn, hm⟩ := h
  exact ⟨by rw [hm, said?_reread ht hl], by rw [hm, key?_reread ht hl], n', by omega, hm⟩

theorem Kept.rereadAs (hd : ofSource o.token destination = .ok d) (hb : b ∈ d.blocks)
    (h : Echoes (Kept o t d) (.frozen b) (.frozen b')) : b.RereadAs b' ∧ b'.span = b.span := by
  cases h
  case frozen first last first' last' ls ms reason hf hl hls =>
    have raws : ms.map (·.raw) = ls.map fun l => Line.dropReturn (lineFor o t d l) := by
      clear hb
      induction hls
      case nil => rfl
      case cons l m ls ms hm _ ih => rw [List.map_cons, List.map_cons, hm.raw_eq, ih]
    have own :
        ls.map (fun l => Line.dropReturn (lineFor o t d l)) = ls.map fun l => Line.dropReturn l.raw :=
      List.map_congr_left fun l hl => by rw [lineFor_of_mem_block hd (mem_blocks.mp hb) hl]
    refine ⟨⟨?_, rfl⟩, by rw [hf.number_eq, hl.number_eq]⟩
    simp only [Block.rawLines, raws, own, List.map_map, Function.comp_def]

theorem Added.rereadAs (h : Echoes (Added token n) (.frozen b) (.frozen b')) :
    b.RereadAs b' ∧ n < b'.span.first := by
  cases h
  case frozen first last first' last' ls ms reason hf hl hls =>
    refine ⟨⟨?_, rfl⟩, hf.number_gt⟩
    induction hls
    case nil => rfl
    case cons l m ls ms hm _ ih =>
      simp only [Block.rawLines, List.map_cons] at ih ⊢
      rw [hm.raw_eq, ih]

theorem lines_eq_append_added (ht : ofSource o.token template = .ok t)
    (hd : ofSource o.token destination = .ok d) (hg : o.generator = none) (h : merge o t d = .ok r) :
    r.lines = d.lines.map (lineFor o t d) ++ ((r.added t).flatMap (·.lines)).map (·.raw) := by
  have raws (s : Statement) : s.lines.map (·.raw) = s.rawLines := s.rawLines_eq.symm
  rw [lines_eq_of_merge ht hd hg h, added_eq_of_merge ht hg h]
  cases o.append <;> simp [List.map_flatMap, raws]

theorem mem_unmatched_of_mem_added (ht : ofSource o.token template = .ok t) (hg : o.generator = none)
    (h : merge o t d = .ok r) (hs : s ∈ r.added t) : s ∈ unmatched t d := by
  rw [added_eq_of_merge ht hg h] at hs
  split at hs
  case isTrue  => exact hs
  case isFalse => cases hs

theorem said?_of_mem_unmatched (h : .line l ∈ unmatched t d) : said? token l = none := by
  have ⟨_, ha⟩ := List.mem_filter.mp h
  exact said?_of_isAssignment (Bool.and_eq_true _ _ ▸ ha).1

theorem settled_of_mem_unmatched (ht : ofSource o.token template = .ok t) (h : s ∈ unmatched t d) :
    Settled o.token s := by
  cases s
  case line l   => exact (idle_of_said?_eq_none (said?_of_mem_unmatched h)).1
  case frozen b => exact framed_of_mem_blocks ht (mem_blocks.mpr (List.mem_filter.mp h).1)

-- How a merged text is read again, part by part: the settled statements of the destination, its
-- marker that is never closed with the lines behind it, and the statements that were added. Blank
-- lines at the end are not part of the text.
structure Reread (o : Options) (t d : Document) (r : Draft) (settled : List Statement)
    (tail : List Line) (ss : List Statement) (rest : List Line) (as : List Statement) : Prop where
  statements_eq : ∃ blanks : List Line, (∀ l ∈ blanks, l.content = .blank) ∧
    (ofText o.token r.text).statements ++ blanks.map .line
      = ss ++ readStatements o.token (rest ++ as.flatMap (·.lines))
  kept          : List.Forall₂ (Echoes (Kept o t d)) settled ss
  tail          : List.Forall₂ (Kept o t d) tail rest
  added         : List.Forall₂ (Echoes (Added o.token d.lines.length)) (r.added t) as
  settled       : ∀ s ∈ as, Settled o.token s

theorem exists_reread {settled : List Statement} {tail : List Line}
    (ht : ofSource o.token template = .ok t) (hd : ofSource o.token destination = .ok d)
    (hg : o.generator = none) (h : merge o t d = .ok r) (layout : Layout o.token d settled tail) :
    ∃ ss rest as, Reread o t d r settled tail ss rest as := by
  have unmatched {s : Statement} (hs : s ∈ r.added t) := mem_unmatched_of_mem_added ht hg h hs
  have mem : ∀ l ∈ (r.added t).flatMap Statement.lines, l ∈ t.lines := by
    intro l hl
    have ⟨s, hs, hl⟩ := List.mem_flatMap.mp hl
    exact mem_lines ht (List.mem_filter.mp (unmatched hs)).1 hl
  have keptAgain := forall₂_kept (o := o) ht hd
  have addedAgain := forall₂_added (n := d.lines.length) ht mem
  have ⟨blanks, blank, read⟩ := Draft.exists_statements_append o.token (not_mem_lines ht hd h)
  rw [lines_eq_append_added ht hd hg h, List.map_append, Line.numberedFrom_append, List.length_map,
    List.length_map, Int.add_comm 1] at read
  generalize Line.numberedFrom 1 _ = ms at keptAgain read
  rw [layout.lines_eq] at keptAgain
  have ⟨zs, rest, hz, hkept, htail⟩ := exists_append_of_forall₂ keptAgain
  have ⟨ss, hss, settled', kept⟩ := exists_echoes (fun _ _ h => h.said?_eq) layout.settled hkept
  have ⟨as, has, settled'', added⟩ := exists_echoes (fun _ _ h => h.said?_eq)
    (fun s hs => settled_of_mem_unmatched ht (unmatched hs)) addedAgain
  refine ⟨ss, rest, as, ⟨blanks, blank, ?_⟩, kept, htail, added, settled''⟩
  rw [read, hz, hss, has, List.append_assoc, readStatements_append_settled _ settled']

namespace Reread

variable {settled ss as : List Statement} {tail rest : List Line}

theorem blocks_eq (h : Reread o t d r settled tail ss rest as) :
    (ofText o.token r.text).blocks = ss.filterMap (·.block?) ++
      (readStatements o.token (rest ++ as.flatMap (·.lines))).filterMap (·.block?) := by
  have ⟨blanks, _, he⟩ := h.statements_eq
  have blocks := congrArg (List.filterMap (·.block?)) he
  rwa [List.filterMap_append, filterMap_block?_line, List.append_nil, List.filterMap_append] at blocks

theorem forall₂_kept_blocks (h : Reread o t d r settled tail ss rest as)
    (hd : ofSource o.token destination = .ok d) (layout : Layout o.token d settled tail) :
    List.Forall₂ (fun b b' => b.RereadAs b' ∧ b'.span = b.span) d.blocks
      (ss.filterMap (·.block?)) := by
  have echoes := forall₂_blocks h.kept
  rw [← layout.blocks_eq] at echoes
  refine ((List.forall₂_and_left _ _).mpr ⟨fun b hb => hb, echoes⟩).imp fun b b' h => ?_
  exact Kept.rereadAs hd h.1 h.2

theorem forall₂_added_blocks (h : Reread o t d r settled tail ss rest as) :
    List.Forall₂ (fun b b' => b.RereadAs b' ∧ (d.lines.length : Int) < b'.span.first)
      (r.addedBlocks t) (as.filterMap (·.block?)) :=
  (forall₂_blocks h.added).imp fun _ _ h => Added.rereadAs h

-- Nothing is left open where the destination's lines end.
theorem readStatements_of_closed (h : Reread o t d r settled tail ss rest as) (hc : tail = []) :
    readStatements o.token (rest ++ as.flatMap (·.lines)) = rest.map .line ++ as := by
  have closed := h.tail
  rw [hc, List.forall₂_nil_left_iff] at closed
  rw [closed]
  exact readStatements_of_settled h.settled

-- Only blocks of what was added say anything.
theorem idle_of_block?_eq_none (h : Reread o t d r settled tail ss rest as)
    (hu : ∀ s ∈ r.added t, s ∈ unmatched t d) (hs : s ∈ as) (hb : s.block? = none) :
    ∀ m ∈ s.lines, Idle o.token m := by
  intro m hm
  have ⟨s', hs', echoes⟩ := exists_mem_of_forall₂ h.added hs
  cases echoes
  case frozen => cases hb
  case line l m' he =>
    cases List.mem_singleton.mp hm
    exact idle_of_said?_eq_none (he.said?_eq ▸ said?_of_mem_unmatched (hu _ hs'))

-- Nothing that was added can close what is open.
theorem readStatements_of_no_block (h : Reread o t d r settled tail ss rest as)
    (layout : Layout o.token d settled tail) (hu : ∀ s ∈ r.added t, s ∈ unmatched t d)
    (hb : r.addedBlocks t = []) :
    readStatements o.token (rest ++ as.flatMap (·.lines)) = rest.map .line ++ as := by
  have none : ∀ s ∈ as, s.block? = none := by
    have := h.forall₂_added_blocks
    rw [hb, List.forall₂_nil_left_iff] at this
    exact List.filterMap_eq_nil_iff.mp this
  have idle : ∀ l ∈ as.flatMap Statement.lines, Idle o.token l := by
    intro m hm
    have ⟨s, hs, hm⟩ := List.mem_flatMap.mp hm
    exact h.idle_of_block?_eq_none hu hs (none s hs) m hm
  have dangling := dangling_of_forall₂ (fun _ _ h => h.said?_eq) layout.dangling h.tail
  rw [readStatements_dangling dangling idle, List.map_append, map_line_flatMap_lines none]

-- Unless a block that was added meets an open marker, all statements are read again one for one.
theorem readStatements_eq (h : Reread o t d r settled tail ss rest as)
    (layout : Layout o.token d settled tail) (hu : ∀ s ∈ r.added t, s ∈ unmatched t d)
    (hn : ¬(d.Unclosed ∧ r.addedBlocks t ≠ [])) :
    readStatements o.token (rest ++ as.flatMap (·.lines)) = rest.map .line ++ as := by
  by_cases ho : tail = []
  case pos => exact h.readStatements_of_closed ho
  case neg =>
    have hb : r.addedBlocks t = [] := not_not.mp fun hb => hn ⟨layout.unclosed_iff.mpr ho, hb⟩
    exact h.readStatements_of_no_block layout hu hb

theorem keepsFrozen (h : Reread o t d r settled tail ss rest as)
    (hd : ofSource o.token destination = .ok d) (layout : Layout o.token d settled tail)
    (hr : readStatements o.token (rest ++ as.flatMap (·.lines)) = rest.map .line ++ as) :
    r.KeepsFrozen o.token t d := by
  refine ⟨_, _, ?_, h.forall₂_kept_blocks hd layout, h.forall₂_added_blocks⟩
  rw [h.blocks_eq, hr, List.filterMap_append, filterMap_block?_line, List.nil_append]

-- The first block that was added is read together with all lines from the open marker on.
theorem exists_readStatements_eq_cons (h : Reread o t d r settled tail ss rest as)
    (layout : Layout o.token d settled tail) (hu : ∀ s ∈ r.added t, s ∈ unmatched t d)
    (ho : tail ≠ []) (hb : r.addedBlocks t ≠ []) :
    ∃ b b' post, as.filterMap (·.block?) = b :: post.filterMap (·.block?) ∧
      readStatements o.token (rest ++ as.flatMap (·.lines)) = .frozen b' :: post ∧
      b.rawLines.length < b'.rawLines.length := by
  have open' : rest ≠ [] := by
    intro hr
    exact ho (List.forall₂_nil_right_iff.mp (hr ▸ h.tail))
  have blocks : as.filterMap (·.block?) ≠ [] := by
    intro ha
    exact hb (List.forall₂_nil_right_iff.mp (ha ▸ h.forall₂_added_blocks))
  have ⟨pre, b, post, ha, hpre⟩ := exists_first_block blocks
  have dangling := dangling_of_forall₂ (fun _ _ h => h.said?_eq) layout.dangling h.tail
  cases dangling
  case nil => contradiction
  case cons first inner behind opening held =>
    have settled' : ∀ s ∈ pre ++ .frozen b :: post, Settled o.token s := ha ▸ h.settled
    have held' : ∀ l ∈ inner ++ pre.flatMap Statement.lines, ¬closes o.token l := by
      refine List.forall_mem_append.mpr ⟨held, fun l hl => ?_⟩
      have ⟨s, hs, hl⟩ := List.mem_flatMap.mp hl
      have hs' : s ∈ as := ha ▸ List.mem_append_left _ hs
      exact (h.idle_of_block?_eq_none hu hs' (hpre s hs) l hl).2
    have framed : Framed o.token b := settled' (.frozen b) (by simp)
    have ⟨b', framed', hl⟩ := exists_framed_cons opening held' framed
    have lines : first :: inner ++ as.flatMap Statement.lines
        = (Statement.frozen b' :: post).flatMap Statement.lines := by
      simp [ha, hl, Statement.lines]
    have settled'' : ∀ s ∈ Statement.frozen b' :: post, Settled o.token s :=
      List.forall_mem_cons.mpr ⟨framed', fun s hs => settled' s (by simp [hs])⟩
    refine ⟨b, b', post, ?first, lines ▸ readStatements_of_settled settled'', ?longer⟩
    case first =>
      rw [ha, List.filterMap_append, List.filterMap_eq_nil_iff.mpr hpre]
      rfl
    case longer =>
      simp only [Block.rawLines, hl, List.length_map, List.length_cons, List.length_append]
      omega

theorem not_keepsFrozen (h : Reread o t d r settled tail ss rest as)
    (hd : ofSource o.token destination = .ok d) (layout : Layout o.token d settled tail)
    (hu : ∀ s ∈ r.added t, s ∈ unmatched t d) (ho : tail ≠ []) (hb : r.addedBlocks t ≠ []) :
    ¬r.KeepsFrozen o.token t d := by
  intro ⟨kept, new, he, hkept, hnew⟩
  have ⟨b, b', post, hone, hread, hlt⟩ := h.exists_readStatements_eq_cons layout hu ho hb
  have length := hkept.length_eq.symm.trans (h.forall₂_kept_blocks hd layout).length_eq
  have ⟨_, hn⟩ := List.append_inj (he.symm.trans h.blocks_eq) length
  rw [hn, hread] at hnew
  have ⟨b₁, more₁, ⟨joined, _⟩, _, h₁⟩ := List.forall₂_cons_right_iff.mp hnew
  have echo := h.forall₂_added_blocks
  rw [hone] at echo
  have ⟨b₂, more₂, ⟨single, _⟩, _, h₂⟩ := List.forall₂_cons_right_iff.mp echo
  cases h₁.symm.trans h₂
  rw [joined.rawLines_eq, single.rawLines_eq] at hlt
  exact Nat.lt_irrefl _ hlt

end Reread

theorem keepsFrozen_iff (ht : ofSource o.token template = .ok t)
    (hd : ofSource o.token destination = .ok d) (hg : o.generator = none) (h : merge o t d = .ok r) :
    r.KeepsFrozen o.token t d ↔ ¬(d.Unclosed ∧ r.addedBlocks t ≠ []) := by
  have ⟨tx, he⟩ := exists_ofText hd
  have ⟨settled, tail, layout⟩ := exists_layout o.token tx
  rw [← he] at layout
  have ⟨ss, rest, as, reread⟩ := exists_reread ht hd hg h layout
  have hu : ∀ s ∈ r.added t, s ∈ unmatched t d := fun s hs => mem_unmatched_of_mem_added ht hg h hs
  constructor
  case mp =>
    exact fun hk ⟨ho, hb⟩ => reread.not_keepsFrozen hd layout hu (layout.unclosed_iff.mp ho) hb hk
  case mpr => exact fun hn => reread.keepsFrozen hd layout (reread.readStatements_eq layout hu hn)

-- A run leaves as it is what is frozen if and only if no added block meets an open marker.
theorem keepsFrozen_iff_of_yields (hg : o.generator = none) (ht : ofSource o.token template = .ok t)
    (hd : ofSource o.token destination = .ok d) (h : Yields o template destination r) :
    r.KeepsFrozen o.token t d ↔ ¬(d.Unclosed ∧ r.addedBlocks t ≠ []) :=
  keepsFrozen_iff ht hd hg ((yields_iff ht hd).mp h)

def otherBlock : Text :=
  "# dotenv-merge:freeze\nX=1\n# dotenv-merge:unfreeze\n".toList

def openMarker : Text :=
  "# dotenv-merge:freeze\nA=1\n".toList

theorem keepsFrozen_of_two_blocks :
    ∃ r, Yields .appending (.text otherBlock) (.text oneBlock) r ∧
      r.KeepsFrozen defaultToken (ofText defaultToken otherBlock) (ofText defaultToken oneBlock) := by
  have ⟨r, hy, _⟩ := exists_yields_appending otherBlock oneBlock
  have closed : ¬(ofText defaultToken oneBlock).Unclosed := by
    have none : (ofText defaultToken oneBlock).warnings = [] := by decide +kernel
    simp [Unclosed, none]
  exact ⟨r, hy, (keepsFrozen_iff_of_yields rfl rfl rfl hy).mpr fun h => closed h.1⟩

-- The lines of the destination from the open marker on become frozen.
theorem not_keepsFrozen_of_open_marker :
    ∃ r, Yields .appending (.text otherBlock) (.text openMarker) r ∧
      ¬r.KeepsFrozen defaultToken (ofText defaultToken otherBlock) (ofText defaultToken openMarker) := by
  have ⟨r, hy, added⟩ := exists_yields_appending otherBlock openMarker
  have template := ofSource_text defaultToken otherBlock
  have destination := ofSource_text defaultToken openMarker
  have merged := (yields_iff (o := .appending) template destination).mp hy
  refine ⟨r, hy, fun h => ?_⟩
  refine (keepsFrozen_iff (o := .appending) template destination rfl merged).mp h
    ⟨⟨1, by decide +kernel⟩, ?_⟩
  rw [Draft.addedBlocks, added]
  decide +kernel

end Merge
end EnvMerge
