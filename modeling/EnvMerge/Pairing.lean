import EnvMerge.Document
import EnvMerge.Signature

namespace EnvMerge.Pairing

inductive Kind
  | matched
  | templateOnly
  | destinationOnly
deriving DecidableEq

inductive Entry
  | matched (template destination : Nat) (signature : Signature)
  | templateOnly (template : Nat) (signature : Option Signature)
  | destinationOnly (destination : Nat) (signature : Option Signature)

namespace Entry

def kind : Entry → Kind
  | matched ..         => .matched
  | templateOnly ..    => .templateOnly
  | destinationOnly .. => .destinationOnly

def template? : Entry → Option Nat
  | matched t _ _       => some t
  | templateOnly t _    => some t
  | destinationOnly _ _ => none

def destination? : Entry → Option Nat
  | matched _ d _       => some d
  | templateOnly _ _    => none
  | destinationOnly d _ => some d

def signature? : Entry → Option Signature
  | matched _ _ s       => some s
  | templateOnly _ s    => s
  | destinationOnly _ s => s

end Entry

-- Where an entry belongs in the output.
structure Rank where
  appended : Bool
  position : Int
deriving DecidableEq

def Rank.le (a b : Rank) : Bool :=
  if a.appended = b.appended then a.position ≤ b.position else b.appended

-- What the destination has keeps the destination's order; what only the template has comes after
-- it, in the template's order.
def rank (kind : Kind) (template destination : Int) : Rank :=
  match kind with
  | .templateOnly => ⟨true, template⟩
  | .matched | .destinationOnly => ⟨false, destination⟩

def Entry.rank : Entry → Rank
  | matched t d _       => Pairing.rank .matched t d
  | templateOnly t _    => Pairing.rank .templateOnly t 0
  | destinationOnly d _ => Pairing.rank .destinationOnly 0 d

-- Sorts by rank; equal ranks keep their order.
def arrange {α : Type} (rank : α → Rank) (entries : List α) : List α :=
  entries.mergeSort fun a b => (rank a).le (rank b)

-- Signatures with the places where they first stand, in the order of those places.
abbrev Index := List (Signature × Nat)

namespace Index

def find? (index : Index) (key : Datum.Key) : Option Nat :=
  (List.find? (·.1.key == key) index).map (·.2)

-- Adds the statements from place `i` on that have a signature not seen before.
def extend (index : Index) (i : Nat) : List (Option Signature) → Index
  | [] => index
  | none :: rest => extend index (i + 1) rest
  | some s :: rest =>
    if (find? index s.key).isSome then extend index (i + 1) rest
    else extend (index ++ [(s, i)]) (i + 1) rest

def ofSignatures (signatures : List (Option Signature)) : Index :=
  extend [] 0 signatures

end Index

-- The entries of the template's statements from place `i` on, and the destination places taken.
def walk (index : Index) (taken : List Nat) (i : Nat) :
    List (Option Signature) → List Entry × List Nat
  | [] => ([], taken)
  | s :: rest =>
    match s, s.bind fun s => index.find? s.key with
    | some s, some d =>
      if d ∈ taken then
        let (entries, taken) := walk index taken (i + 1) rest
        (.templateOnly i (some s) :: entries, taken)
      else
        let (entries, taken) := walk index (d :: taken) (i + 1) rest
        (.matched i d s :: entries, taken)
    | s, _ =>
      let (entries, taken) := walk index taken (i + 1) rest
      (.templateOnly i s :: entries, taken)

-- The entries of the destination's statements from place `i` on that were not taken.
def leftOver (taken : List Nat) (i : Nat) : List (Option Signature) → List Entry
  | [] => []
  | s :: rest =>
    if i ∈ taken then leftOver taken (i + 1) rest
    else .destinationOnly i s :: leftOver taken (i + 1) rest

-- A statement of the destination is paired at most once, with the first of its signature in the
-- template; a repeated signature stays alone.
def ofSignatures (template destination : List (Option Signature)) : List Entry :=
  let (entries, taken) := walk (.ofSignatures destination) [] 0 template
  arrange Entry.rank (entries ++ leftOver taken 0 destination)

def signatures (sign : Signer) (d : Document) : Except Failure (List (Option Signature)) :=
  d.statements.mapM (Signature.ofStatement sign)

-- Pairs two documents, each with a signer of its own. The destination's signatures are asked for
-- first.
def ofSigned (templateSign destinationSign : Signer) (template destination : Document) :
    Except Failure (List Entry) := do
  let ds ← signatures destinationSign destination
  let ts ← signatures templateSign template
  return ofSignatures ts ds

-- Pairs two documents that are signed alike.
def ofDocuments (sign : Signer) (template destination : Document) : Except Failure (List Entry) :=
  ofSigned sign sign template destination

end EnvMerge.Pairing
