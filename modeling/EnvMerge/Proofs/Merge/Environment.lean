import EnvMerge.Proofs.Merge.Reanalysis

namespace EnvMerge

open Document

-- What the first free assignment of a key says, its place and its spelling left out.
structure Binding where
  value : Option Text
  exported : Bool
deriving DecidableEq

def Line.binding (l : Line) : Binding :=
  ⟨l.value?, l.exported⟩

def Document.binding? (d : Document) (k : Text) : Option Binding :=
  (d.assignment? k).map (·.binding)

-- What a key is bound to if a template is merged into a destination.
def overlay {α : Type} (side : Side) (append : Bool) : (template destination : Option α) → Option α
  | x, none        => if append then x else none
  | none, some y   => some y
  | some x, some y => if side = .template then some x else some y

variable {o : Options} {template destination : Source} {t d : Document} {r : Draft} {token : Text}
variable {l : Line} {k : Text} {n : Int} {side : Side}

namespace Document

theorem binding_reread {source : Source} (h : ofSource token source = .ok d) (hl : l ∈ d.lines) :
    (Line.ofRaw (Line.dropReturn l.raw) n).binding = l.binding := by
  have ⟨content, exported⟩ : (Line.ofRaw (Line.dropReturn l.raw) n).content
      = (Line.ofRaw l.raw l.number).content ∧ _ = (Line.ofRaw l.raw l.number).exported :=
    Line.ofRaw_of_trim_eq Line.trim_dropReturn
  rw [← eq_ofRaw h hl] at content exported
  rw [Line.binding, Line.binding, Line.value?, Line.value?, content, exported]

end Document

namespace Merge

theorem replacement?_of_fixed (hp : o.preference = .fixed side) (hk : d.assignment? k = some l) :
    replacement? o t d l = if side = .template then t.assignment? k else none := by
  cases hx : t.assignment? k <;> cases side <;>
    simp [replacement?, key?_of_assignment? hk, hk, hx, hp, Preference.side]

theorem binding_lineFor (ht : ofSource o.token template = .ok t)
    (hd : ofSource o.token destination = .ok d) (hl : l ∈ d.lines) :
    (Line.ofRaw (Line.dropReturn (lineFor o t d l)) n).binding
      = ((replacement? o t d l).getD l).binding := by
  cases hr : replacement? o t d l
  case none =>
    rw [lineFor_of_none hr, Option.getD_none]
    exact binding_reread hd hl
  case some x =>
    have ⟨_, _, _, hx⟩ := exists_key?_of_replacement? ht hr
    rw [lineFor_of_some hr, Option.getD_some]
    exact binding_reread ht hx

namespace Reanalysed

variable {ss as : List Statement}

theorem binding?_of_kept (h : Reanalysed o t d r ss as) (ht : ofSource o.token template = .ok t)
    (hd : ofSource o.token destination = .ok d) (hp : o.preference = .fixed side)
    (hk : d.assignment? k = some l) :
    (ofText o.token r.text).binding? k = overlay side o.append (t.binding? k) (d.binding? k) := by
  have mem := mem_lines_of_assignment? hd hk
  rw [binding?, h.assignment?_of_kept hk, Option.map_some, binding_lineFor ht hd mem,
    replacement?_of_fixed hp hk, binding?, binding?, hk]
  cases hx : t.assignment? k <;> cases side <;> rfl

theorem binding?_of_not_kept (h : Reanalysed o t d r ss as) (ht : ofSource o.token template = .ok t)
    (ha : r.added t = if o.append then unmatched t d else []) (hk : d.assignment? k = none) :
    (ofText o.token r.text).binding? k = overlay side o.append (t.binding? k) (d.binding? k) := by
  cases happ : o.append <;> rw [happ] at ha
  case false =>
    have nothing : (ofText o.token r.text).assignment? k = none :=
      h.assignment?_eq_none hk (by simp [ha])
    simp [binding?, nothing, hk, overlay]
  case true =>
    cases hx : t.assignment? k
    case none =>
      have absent : (r.added t).find? (fun s => s.identity? = some (.key k)) = none := by
        rw [ha, if_pos rfl, find?_unmatched hk, assignment?_eq_none_iff.mp hx]
      simp [binding?, h.assignment?_eq_none hk absent, hk, hx, overlay]
    case some x =>
      have ⟨n, again⟩ := h.assignment?_of_added ha hk hx
      have same := binding_reread (n := n) ht (mem_lines_of_assignment? ht hx)
      simp [binding?, again, same, hk, hx, overlay]

end Reanalysed

-- What a merged text binds, key by key, if one side wins every pair.
theorem exists_binding?_eq_overlay (hp : o.preference = .fixed side) (hg : o.generator = none)
    (ht : ofSource o.token template = .ok t) (hd : ofSource o.token destination = .ok d)
    (hc : ¬d.Unclosed) :
    ∃ r, Yields o template destination r ∧
      ∀ k, (ofText o.token r.text).binding? k
        = overlay side o.append (t.binding? k) (d.binding? k) := by
  have ⟨r, hr⟩ := exists_merge_of_fixed hp (Options.signs_of_generator_eq_none hg) t d
  have ⟨ss, as, again⟩ := exists_reanalysed ht hd hg hr fun h => hc h.1
  refine ⟨r, (yields_iff ht hd).mpr hr, fun k => ?_⟩
  cases hk : d.assignment? k
  case none   => exact again.binding?_of_not_kept ht (added_eq_of_merge ht hg hr) hk
  case some l => exact again.binding?_of_kept ht hd hp hk

-- Options under which the template wins every pair.
def templateWins : Options :=
  { Options.appending with preference := .fixed .template }

def halfFrozen : Text :=
  "export A=9 # new\nB=2\nA=8\n# dotenv-merge:freeze\nC=3\n# dotenv-merge:unfreeze\nD='4'\n".toList

def otherHalfFrozen : Text :=
  "A=1\n# dotenv-merge:freeze\nB=0\n# dotenv-merge:unfreeze\nC=7\nA=5\n".toList

theorem exists_binding?_eq_overlay_of_half_frozen :
    ∃ r, Yields templateWins (.text halfFrozen) (.text otherHalfFrozen) r ∧
      ["A", "B", "C", "D", "E"].map (fun k => (ofText defaultToken r.text).binding? k.toList)
        = [some ⟨some "9".toList, true⟩, some ⟨some "2".toList, false⟩, some ⟨some "7".toList, false⟩,
          some ⟨some "4".toList, false⟩, none] := by
  have closed : ¬(ofText defaultToken otherHalfFrozen).Unclosed :=
    not_unclosed_of_warnings (by decide +kernel)
  have ⟨r, hy, bound⟩ : ∃ r, Yields templateWins (.text halfFrozen) (.text otherHalfFrozen) r ∧ _ :=
    exists_binding?_eq_overlay rfl rfl rfl rfl closed
  refine ⟨r, hy, (List.map_congr_left fun k _ => bound k.toList).trans ?_⟩
  decide +kernel

end Merge
end EnvMerge
