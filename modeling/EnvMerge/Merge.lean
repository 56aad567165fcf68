import EnvMerge.Decision
import EnvMerge.Log
import EnvMerge.Options

namespace EnvMerge

namespace Merge

-- Whether a statement that only the template has may be added.
def isAddable : Statement → Bool
  | .line l   => l.isAssignment
  | .frozen _ => true

-- A matched pair. A frozen block is kept without asking for a preference.
def addMatch (o : Options) (template destination : Document) (r : Draft) (t d : Nat) :
    Except Failure Draft :=
  match template.statements[t]?, destination.statements[d]? with
  | _, some (.frozen b) => .ok (r.addBlock b)
  | some ts, some ds => do
    match ← o.preference.side o.classifiers (.statement ts) (.statement ds) with
    | .template    => return r.addTemplate template t .fromTemplate
    | .destination => return r.addDestination destination d .fromDestination
  | _, _ => .ok r

-- A statement that only the template has.
def addTemplateOnly (o : Options) (template : Document) (r : Draft) (t : Nat) : Draft :=
  match template.statements[t]? with
  | some s => if o.append && isAddable s then r.addTemplate template t .added else r
  | none => r

def addDestinationOnly (destination : Document) (r : Draft) (d : Nat) : Draft :=
  match destination.statements[d]? with
  | some (.frozen b) => r.addBlock b
  | _ => r.addDestination destination d .fromDestination

def addEntry (o : Options) (template destination : Document) (r : Draft) :
    Pairing.Entry → Except Failure Draft
  | .matched t d _       => addMatch o template destination r t d
  | .templateOnly t _    => .ok (addTemplateOnly o template r t)
  | .destinationOnly d _ => .ok (addDestinationOnly destination r d)

def ofEntries (o : Options) (template destination : Document) (entries : List Pairing.Entry) :
    Except Failure Draft :=
  entries.foldlM (addEntry o template destination) .empty

end Merge

-- The destination keeps its layout and its frozen blocks; where a pair matches, the preference
-- decides; what only the template has is added at the end if that is wanted.
def merge (o : Options) (template destination : Document) : Except Failure Draft := do
  Merge.ofEntries o template destination (← Pairing.ofDocuments o.signer template destination)

namespace Merge

variable {m : Type → Type} [Monad m] [Journal m]

-- Reads one input and reports what was found in it.
def readSource (o : Options) (role : Side) (source : Source) : ExceptT Failure m Document := do
  match Document.ofSource o.token source with
  | .error fault => throw (.parse (fault.within role))
  | .ok d =>
    (d.events o.generator.isSome).forM fun e => ExceptT.lift (Journal.record e)
    return d

-- Merges two documents and reports on it. The end is reported even if the merge fails.
def documents (o : Options) (template destination : Document) : ExceptT Failure m Draft := do
  match Pairing.ofDocuments o.signer template destination with
  | .error e =>
    ExceptT.lift (Journal.record .ended)
    throw e
  | .ok entries =>
    ExceptT.lift (Journal.record (.ofEntries entries))
    ExceptT.lift (Journal.record .ended)
    ExceptT.mk (pure (ofEntries o template destination entries))

def sources (o : Options) (template destination : Source) : ExceptT Failure m Draft := do
  let template ← readSource o .template template
  let destination ← readSource o .destination destination
  documents o template destination

end Merge
end EnvMerge
