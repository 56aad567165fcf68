import EnvMerge.Proofs.Draft
import EnvMerge.Proofs.Line.Rendering
import EnvMerge.Proofs.Merge.Run

namespace EnvMerge

open Document

variable {o : Options} {template template' destination destination' : Source} {r : Draft}
variable {ts ds : List Text} {x x' y y' line token : Text}

theorem Document.ofText_eq_of_split_eq (h : Line.split x = Line.split x') :
    ofText token x = ofText token x' := by
  simp only [ofText, Line.ofSource, h]

-- Lines that are whole are joined without a carriage return before a line feed.
theorem Draft.not_infix_text (h : ∀ line ∈ r.lines, Line.Whole line) : ¬['\r', '\n'] <:+: r.text := by
  intro ⟨before, behind, ht⟩
  have feedless : ∀ line ∈ r.lines, '\n' ∉ line := fun line hl => (h line hl).feedless
  have shows := shows_visible feedless
  have ⟨piece, hp, hr⟩ := Line.exists_mem_splitOn (c := '\r') (by decide) before behind
  have text_eq : before ++ '\r' :: '\n' :: behind = r.text := by simpa using ht
  rw [text_eq, shows.splitOn_text feedless] at hp
  cases List.mem_append.mp hp
  case inr hp => simp [List.mem_singleton.mp hp] at hr
  case inl hp =>
    have ⟨n, hl⟩ := shows.lines_eq
    exact (h piece (hl ▸ List.mem_append_left _ hp)).clean hr

namespace Merge

-- A line of a merge is a line of one of the sources.
theorem mem_split_or_mem_split (hx : template.decode = .ok x) (hy : destination.decode = .ok y)
    (h : Yields o template destination r) (hl : line ∈ r.lines) :
    line ∈ Line.split x ∨ line ∈ Line.split y := by
  have merged := (yields_iff (ofSource_of_decode _ hx) (ofSource_of_decode _ hy)).mp h
  have ⟨_, _, _, trail⟩ := merge_eq_ok_iff.mp merged
  have ⟨s, hs, hr⟩ := trail.exists_statement hl
  refine hs.imp (fun hs => ?_) fun hs => ?_
  all_goals
    rw [← flatMap_rawLines_statements o.token]
    exact List.mem_flatMap.mpr ⟨s, hs, hr⟩

-- Two renderings of the same lines are merged alike, with the same report, and the text has none of
-- their carriage returns.
theorem sources_eq_of_renders (wt : ∀ line ∈ ts, Line.Whole line) (wd : ∀ line ∈ ds, Line.Whole line)
    (hx : template.decode = .ok x) (hx' : template'.decode = .ok x')
    (hy : destination.decode = .ok y) (hy' : destination'.decode = .ok y')
    (rx : Line.Renders ts x) (rx' : Line.Renders ts x')
    (ry : Line.Renders ds y) (ry' : Line.Renders ds y') :
    Line.split x = ts ∧ Line.split y = ds ∧
      (∀ (m : Type → Type) [Monad m] [Journal m],
        (sources o template destination : ExceptT Failure m Draft) = sources o template' destination') ∧
      ∀ r, Yields o template destination r → ¬['\r', '\n'] <:+: r.text := by
  have splitT := Line.split_of_renders wt rx
  have splitD := Line.split_of_renders wd ry
  refine ⟨splitT, splitD, ?same, ?text⟩
  case same =>
    intro m _ _
    have readT : ofSource o.token template = ofSource o.token template' := by
      rw [ofSource_of_decode _ hx, ofSource_of_decode _ hx',
        ofText_eq_of_split_eq (splitT.trans (Line.split_of_renders wt rx').symm)]
    have readD : ofSource o.token destination = ofSource o.token destination' := by
      rw [ofSource_of_decode _ hy, ofSource_of_decode _ hy',
        ofText_eq_of_split_eq (splitD.trans (Line.split_of_renders wd ry').symm)]
    simp only [sources, readSource, readT, readD]
  case text =>
    intro r h
    refine Draft.not_infix_text fun line hl => ?_
    cases mem_split_or_mem_split hx hy h hl
    case inl hl => exact wt line (splitT ▸ hl)
    case inr hl => exact wd line (splitD ▸ hl)

instance : DecidablePred Line.Whole := fun line =>
  decidable_of_iff ('\n' ∉ line ∧ line.getLast? ≠ some '\r') ⟨fun h => ⟨h.1, h.2⟩, fun h => ⟨h.1, h.2⟩⟩

def mixedLines : List Text :=
  ["# c", "", "A=1", "B=2"].map String.toList

def mixedText : Text :=
  "# c\r\n\nA=1\r\nB=2".toList

def otherMixedText : Text :=
  "# c\n\r\nA=1\nB=2\r\n".toList

-- One destination is text and the other bytes. Its empty last line is a line like any other.
theorem sources_eq_of_mixed_endings :
    (∀ line ∈ mixedLines, Line.Whole line) ∧
      (sources .appending (.text mixedText) (.text "A=0\n\n".toList) : ExceptT Failure Recording Draft)
        = sources .appending (.text otherMixedText) (.bytes (Utf8.encode "A=0\r\n\r\n".toList)) ∧
      ∃ r, Yields .appending (.text mixedText) (.text "A=0\n\n".toList) r ∧
        ¬['\r', '\n'] <:+: r.text := by
  have wt : ∀ line ∈ mixedLines, Line.Whole line := by decide +kernel
  have wd : ∀ line ∈ ["A=0".toList, []], Line.Whole line := by decide +kernel
  have rx : Line.Renders mixedLines mixedText :=
    (.ended .returnFeed (.ended .feed (.ended .returnFeed (.unended (by decide +kernel)))) :
      Line.Renders mixedLines _)
  have rx' : Line.Renders mixedLines otherMixedText :=
    (.ended .feed (.ended .returnFeed (.ended .feed (.ended .returnFeed .nil))) :
      Line.Renders mixedLines _)
  have ry : Line.Renders ["A=0".toList, []] "A=0\n\n".toList :=
    (.ended .feed (.ended .feed .nil) : Line.Renders ["A=0".toList, []] _)
  have ry' : Line.Renders ["A=0".toList, []] "A=0\r\n\r\n".toList :=
    (.ended .returnFeed (.ended .returnFeed .nil) : Line.Renders ["A=0".toList, []] _)
  have read (t : Text) : (Source.text t).decode = .ok t := rfl
  have decoded : (Source.bytes (Utf8.encode "A=0\r\n\r\n".toList)).decode
      = .ok "A=0\r\n\r\n".toList := by
    decide +kernel
  have ⟨_, _, same, clean⟩ := sources_eq_of_renders (o := .appending) wt wd (read mixedText)
    (read otherMixedText) (read _) decoded rx rx' ry ry'
  have ⟨r, yields⟩ := exists_yields Options.appending_answers
    (ofSource_of_decode _ (read mixedText)) (ofSource_of_decode _ (read "A=0\n\n".toList))
  exact ⟨wt, same Recording, r, yields, clean r yields⟩

-- What the text of a merge shows of its lines.
theorem split_text_of_yields (h : Yields o template destination r) :
    (r.text = [] ↔ r.lines = []) ∧
      (r.lines ≠ [] → ∃ t : Text, r.text = t ++ ['\n'] ∧ t.getLast? ≠ some '\n') ∧
      Line.split r.text = (Draft.visible r.lines).map Line.dropReturn := by
  have ⟨t, d, ht, hd, merged⟩ := exists_merge_of_yields h
  have feedless := not_mem_lines ht hd merged
  exact ⟨Draft.text_eq_nil_iff, Draft.exists_text_eq_append,
    (Draft.shows_visible feedless).split_text feedless⟩

def returns : Text :=
  "A=1\r\r\n\n \n\n\n".toList

-- A carriage return before the one that belongs to the ending, and empty lines at the end.
theorem split_text_of_returns :
    ∃ r, Yields .appending (.text []) (.text returns) r ∧
      r.lines = ["A=1\r", "", " ", "", ""].map String.toList ∧
      Line.split r.text = ["A=1", "", " "].map String.toList := by
  have ⟨r, yields⟩ := exists_yields Options.appending_answers (ofSource_text _ []) (ofSource_text _ returns)
  have lines : r.lines = ["A=1\r", "", " ", "", ""].map String.toList :=
    yields.eq_of_ordered (ofSource_text _ []) (ofSource_text _ returns) (by decide +kernel)
  have ⟨_, _, split⟩ := split_text_of_yields yields
  rw [lines] at split
  exact ⟨r, yields, lines, split.trans (by decide +kernel)⟩

end Merge
end EnvMerge
