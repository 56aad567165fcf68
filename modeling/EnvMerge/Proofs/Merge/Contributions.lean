import EnvMerge.Merge
import EnvMerge.Proofs.Except

namespace EnvMerge

namespace Draft

variable {d : Document} {cs : List Contribution}

def ofContributions (cs : List Contribution) : Draft :=
  ⟨cs.flatMap (·.lines), cs.map (·.decision)⟩

theorem add_ofContributions (cs : List Contribution) (c : Contribution) :
    (ofContributions cs).add c = ofContributions (cs ++ [c]) := by
  simp [ofContributions, add]

theorem addStatement_natCast (r : Draft) (source : Side) (d : Document) (n : Nat) (kind : Decision.Kind) :
    r.addStatement source d n kind =
      (d.statements[n]?).elim r fun s => r.add (.ofStatement kind source n s) := by
  simp only [addStatement, Document.statement?, Int.natCast_nonneg, if_true, Int.toNat_natCast]
  cases d.statements[n]? <;> rfl

end Draft

namespace Merge

variable {o : Options} {template destination : Document} {r : Draft}

-- What a statement puts out that only the destination has.
def keep (d : Document) (index : Nat) : Option Contribution :=
  match d.statements[index]? with
  | none => none
  | some (.frozen b) => some (.ofBlock b)
  | some s => some (.ofStatement .fromDestination .destination index s)

-- What a matched pair puts out.
def ofMatch (o : Options) (template destination : Document) (t d : Nat) :
    Except Failure (Option Contribution) :=
  match template.statements[t]?, destination.statements[d]? with
  | _, some (.frozen b) => .ok (some (.ofBlock b))
  | some ts, some ds => do
    match ← o.preference.side o.classifiers (.statement ts) (.statement ds) with
    | .template    => return some (.ofStatement .fromTemplate .template t ts)
    | .destination => return some (.ofStatement .fromDestination .destination d ds)
  | _, _ => .ok none

-- What a statement puts out that only the template has.
def ofTemplate (o : Options) (template : Document) (t : Nat) : Option Contribution :=
  match template.statements[t]? with
  | some s => if o.append && isAddable s then some (.ofStatement .added .template t s) else none
  | none => none

-- What an entry puts out, which does not depend on the draft so far.
def contribution (o : Options) (template destination : Document) :
    Pairing.Entry → Except Failure (Option Contribution)
  | .matched t d _       => ofMatch o template destination t d
  | .templateOnly t _    => .ok (ofTemplate o template t)
  | .destinationOnly d _ => .ok (keep destination d)

theorem addDestinationOnly_eq (r : Draft) (d : Nat) :
    addDestinationOnly destination r d = (keep destination d).elim r r.add := by
  simp only [addDestinationOnly, keep, Draft.addDestination, Draft.addStatement_natCast]
  cases destination.statements[d]?
  case none   => rfl
  case some s => cases s <;> rfl

theorem addTemplateOnly_eq (r : Draft) (t : Nat) :
    addTemplateOnly o template r t = (ofTemplate o template t).elim r r.add := by
  simp only [addTemplateOnly, ofTemplate, Draft.addTemplate, Draft.addStatement_natCast]
  cases template.statements[t]?
  case none   => rfl
  case some s =>
    dsimp only
    cases o.append && isAddable s <;> rfl

theorem addMatch_eq (r : Draft) (t d : Nat) :
    addMatch o template destination r t d =
      (ofMatch o template destination t d).map fun c => c.elim r r.add := by
  simp only [addMatch, ofMatch, Draft.addTemplate, Draft.addDestination, Draft.addStatement_natCast]
  cases template.statements[t]? <;> cases destination.statements[d]?
  case none.none   => rfl
  case some.none   => rfl
  case none.some s => cases s <;> rfl
  case some.some s s' =>
    cases s'
    case frozen => rfl
    case line l =>
      dsimp only
      cases o.preference.side o.classifiers (.statement s) (.statement (.line l))
      case error   => rfl
      case ok side => cases side <;> rfl

theorem addEntry_eq (r : Draft) (e : Pairing.Entry) :
    addEntry o template destination r e =
      (contribution o template destination e).map fun c => c.elim r r.add := by
  cases e
  case matched t d s         => exact addMatch_eq r t d
  case templateOnly t s      => exact congrArg _ (addTemplateOnly_eq r t)
  case destinationOnly d s   => exact congrArg _ (addDestinationOnly_eq r d)

-- Entry by entry, a draft gets the contributions of all entries, one after the other.
theorem foldlM_addEntry (entries : List Pairing.Entry) (cs : List Contribution) :
    entries.foldlM (addEntry o template destination) (.ofContributions cs) =
      (entries.mapM (contribution o template destination)).map fun xs =>
        .ofContributions (cs ++ xs.filterMap id) := by
  induction entries generalizing cs
  case nil => simp [pure, Except.pure, Except.map]
  case cons e entries ih =>
    have added (x : Option Contribution) :
        x.elim (.ofContributions cs) (Draft.ofContributions cs).add = .ofContributions (cs ++ x.toList) := by
      cases x
      case none   => simp
      case some c => exact Draft.add_ofContributions cs c
    rw [List.foldlM_cons, List.mapM_cons, addEntry_eq]
    cases contribution o template destination e
    case error f => rfl
    case ok x =>
      simp only [Except.map, bind, Except.bind, added, ih]
      cases entries.mapM (contribution o template destination)
      case error f => rfl
      case ok xs   => cases x <;> simp [pure, Except.pure]

theorem ofEntries_eq (entries : List Pairing.Entry) :
    ofEntries o template destination entries =
      (entries.mapM (contribution o template destination)).map fun xs =>
        .ofContributions (xs.filterMap id) :=
  foldlM_addEntry entries []

end Merge
end EnvMerge
