import EnvMerge.Statement

namespace EnvMerge

-- A caller's rule about statements. What its answer means is up to whoever asks; it may be asked
-- about data that are no statements, too.
abbrev Rule := Item → Except Failure Item

-- Gives a statement its signature, if it has one.
abbrev Signer := Item → Except Failure (Option Plain)

namespace Signer

def builtIn : Signer :=
  fun i => (·.signature) <$> i.toStatement

-- A rule may answer with null for no signature, with a statement for the signature of that
-- statement, or with the signature itself. A list means a tuple.
def ofRule (rule : Rule) : Signer := fun i => do
  match ← rule i with
  | .statement s          => return s.signature
  | .datum .null          => return none
  | .datum (.list items)  => return some (.tuple items)
  | .datum d              => return some d

def ofRule? : Option Rule → Signer
  | none      => builtIn
  | some rule => ofRule rule

end Signer

-- What makes two statements of different documents the same statement. Signatures are compared by
-- their keys.
structure Signature where
  shown : Plain
  key : Datum.Key

namespace Signature

def ofPlain (d : Plain) : Except Failure Signature :=
  match d.unhashable? with
  | some typeName => .error (.unhashable typeName)
  | none => .ok ⟨d, d.key⟩

def ofStatement (sign : Signer) (s : Statement) : Except Failure (Option Signature) := do
  match ← sign (.statement s) with
  | none   => return none
  | some d => return some (← ofPlain d)

end Signature
end EnvMerge
