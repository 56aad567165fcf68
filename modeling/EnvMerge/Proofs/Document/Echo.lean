import EnvMerge.Proofs.Document.Layout
import EnvMerge.Proofs.List

namespace EnvMerge.Document

variable {token : Text} {l m first : Line} {ls ms inner : List Line} {s s' : Statement} {b b' : Block}
variable {ss ss' : List Statement} {rest : Text} {n : Int} {E : Line → Line → Prop}

-- What a line says as a marker, blanks around the reason left out.
def said? (token : Text) (l : Line) : Option (Marker.Kind × Text) :=
  (marker? token l).map Marker.meaning

theorem opens_eq (token : Text) (l : Line) : opens token l = (said? token l).any (·.1 = .freeze) := by
  cases h : marker? token l <;> simp [opens, said?, h, Marker.meaning]

theorem closes_eq (token : Text) (l : Line) :
    closes token l = (said? token l).any (·.1 = .unfreeze) := by
  cases h : marker? token l <;> simp [closes, said?, h, Marker.meaning]

theorem said?_of_not_isComment (h : ¬l.isComment) : said? token l = none := by
  simp [said?, marker?, h]

theorem idle_of_said?_eq_none (h : said? token l = none) : Idle token l := by
  simp [Idle, opens_eq, closes_eq, h]

theorem said?_of_isAssignment (h : l.isAssignment) : said? token l = none := by
  have hc : ¬l.isComment := by
    intro hc
    simp only [Line.isComment, decide_eq_true_eq] at hc
    simp [Line.isAssignment, Line.key?, hc, Content.key?] at h
  exact said?_of_not_isComment hc

-- Reading a line again, without a carriage return at its end, does not change what it says.
theorem said?_ofRaw_dropReturn (hl : l = .ofRaw l.raw l.number) (hn : '\n' ∉ l.raw) :
    said? token (.ofRaw (Line.dropReturn l.raw) n) = said? token l := by
  have content : (Line.ofRaw (Line.dropReturn l.raw) n).content = l.content :=
    Line.content_ofRaw_dropReturn.trans (congrArg (·.content) hl).symm
  by_cases hc : l.content = .comment
  case pos => simpa [said?, marker?, Line.isComment, content, hc, Line.ofRaw_raw]
    using Marker.meaning_ofText?_dropReturn hn
  case neg => simp [said?, marker?, Line.isComment, content, hc]

theorem exists_opening_of_said?_eq (h : said? token l = said? token m)
    (hl : marker? token l = some ⟨.freeze, rest⟩) :
    ∃ rest', marker? token m = some ⟨.freeze, rest'⟩ ∧ reasonOf rest' = reasonOf rest := by
  rw [said?, hl] at h
  have ⟨⟨kind, rest'⟩, hm, he⟩ := Option.map_eq_some_iff.mp h.symm
  simp only [Marker.meaning, Prod.mk.injEq] at he
  exact ⟨rest', by rw [hm, he.1], by simp only [reasonOf, he.2]⟩

-- One statement echoes another if their lines do. The reason of a block is the same.
inductive Echoes (E : Line → Line → Prop) : Statement → Statement → Prop
  | line {l m : Line} (here : E l m) : Echoes E (.line l) (.line m)
  | frozen {first last first' last' : Line} {ls ms : List Line} {reason : Option Text}
      (opening : E first first') (closing : E last last') (lines : List.Forall₂ E ls ms) :
      Echoes E (.frozen ⟨⟨first.number, last.number⟩, ls, reason⟩)
        (.frozen ⟨⟨first'.number, last'.number⟩, ms, reason⟩)

theorem forall₂_blocks (h : List.Forall₂ (Echoes E) ss ss') :
    List.Forall₂ (fun b b' => Echoes E (.frozen b) (.frozen b')) (ss.filterMap (·.block?))
      (ss'.filterMap (·.block?)) := by
  induction h
  case nil => exact .nil
  case cons s s' ss ss' he _ ih =>
    cases he
    case line             => exact ih
    case frozen hf hl hls => exact .cons (.frozen hf hl hls) ih

section Echo

variable (hE : ∀ l m, E l m → said? token l = said? token m)

include hE

theorem not_closes_of_forall₂ (h : List.Forall₂ E ls ms) (hl : ∀ l ∈ ls, ¬closes token l) :
    ∀ m ∈ ms, ¬closes token m := by
  intro m hm
  have ⟨l, hl', he⟩ := exists_mem_of_forall₂ h hm
  rw [closes_eq, ← hE l m he, ← closes_eq]
  exact hl l hl'

theorem dangling_of_forall₂ (hl : Dangling token ls) (h : List.Forall₂ E ls ms) : Dangling token ms := by
  cases hl
  case nil =>
    cases List.forall₂_nil_left_iff.mp h
    exact .nil
  case cons first inner rest opening held =>
    have ⟨first', inner', hf, hi, he⟩ := List.forall₂_cons_left_iff.mp h
    have ⟨_, opening', _⟩ := exists_opening_of_said?_eq (hE first first' hf) opening
    exact he ▸ .cons opening' (not_closes_of_forall₂ hE hi held)

theorem exists_echo_block (hb : Framed token b) (h : List.Forall₂ E b.lines ms) :
    ∃ b', Framed token b' ∧ b'.lines = ms ∧ Echoes E (.frozen b) (.frozen b') := by
  cases hb
  case intro first last inner rest opening held closing =>
    have ⟨first', _, hf, hms, he⟩ := List.forall₂_cons_left_iff.mp h
    have ⟨inner', _, he', hi, hlast⟩ := exists_append_of_forall₂ hms
    have ⟨last', _, hl, hn, he''⟩ := List.forall₂_cons_left_iff.mp hlast
    cases List.forall₂_nil_left_iff.mp hn
    subst he he' he''
    have ⟨rest', opening', hr⟩ := exists_opening_of_said?_eq (hE first first' hf) opening
    have closing' : closes token last' := by rwa [closes_eq, ← hE last last' hl, ← closes_eq]
    exact ⟨_, .intro opening' (not_closes_of_forall₂ hE hi held) closing', rfl, hr ▸ .frozen hf hl h⟩

theorem exists_echo (hs : Settled token s) (h : List.Forall₂ E s.lines ms) :
    ∃ s', Settled token s' ∧ s'.lines = ms ∧ Echoes E s s' := by
  cases s
  case frozen b =>
    have ⟨b', hb, hl, he⟩ := exists_echo_block hE hs h
    exact ⟨.frozen b', hb, hl, he⟩
  case line l =>
    have ⟨m, _, hm, hn, he⟩ := List.forall₂_cons_left_iff.mp h
    cases List.forall₂_nil_left_iff.mp hn
    refine ⟨.line m, ?_, he.symm, .line hm⟩
    rw [Settled, opens_eq, ← hE l m hm, ← opens_eq]
    exact hs

-- The induction over the statements: each finds its own lines at the front of the echo.
theorem exists_echoes (hs : ∀ s ∈ ss, Settled token s)
    (h : List.Forall₂ E (ss.flatMap Statement.lines) ms) :
    ∃ ss', ms = ss'.flatMap Statement.lines ∧ (∀ s ∈ ss', Settled token s) ∧
      List.Forall₂ (Echoes E) ss ss' := by
  induction ss generalizing ms
  case nil =>
    cases List.forall₂_nil_left_iff.mp h
    exact ⟨[], rfl, by simp, .nil⟩
  case cons s ss ih =>
    have ⟨zs, zs', he, hz, hz'⟩ := exists_append_of_forall₂ h
    have ⟨hs, hss⟩ := List.forall_mem_cons.mp hs
    have ⟨s', settled, hl, echoes⟩ := exists_echo hE hs hz
    have ⟨ss', hm, settled', echoes'⟩ := ih hss hz'
    exact ⟨s' :: ss', by rw [he, hm, ← hl, List.flatMap_cons],
      List.forall_mem_cons.mpr ⟨settled, settled'⟩, .cons echoes echoes'⟩

end Echo
end EnvMerge.Document
