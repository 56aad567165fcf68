import EnvMerge.Side
import EnvMerge.Text.Quoted

namespace EnvMerge

-- What an unchecked option holds, or what a caller's own rule answers. In options there may be
-- callbacks, of a type `φ`.
inductive Datum (φ : Type) where
  | null
  | flag (b : Bool)
  | whole (n : Int)
  | decimal (mantissa : Int) (places : Nat)
  | text (t : Text)
  | list (items : List (Datum φ))
  | tuple (items : List (Datum φ))
  | mapping (pairs : List (Datum φ × Datum φ))
  | side (s : Side)
  | callback (f : φ)

-- Data without callbacks.
abbrev Plain := Datum Empty

namespace Datum

variable {φ : Type}

instance : Inhabited (Datum φ) := ⟨null⟩

def typeName : Datum φ → Text
  | null        => "NoneType".toList
  | flag _      => "bool".toList
  | whole _     => "int".toList
  | decimal _ _ => "float".toList
  | text _      => "str".toList
  | list _      => "list".toList
  | tuple _     => "tuple".toList
  | mapping _   => "dict".toList
  | side _      => "Side".toList
  | callback _  => "function".toList

-- Whether the datum counts as set: no null, no zero, nothing empty.
def truth : Datum φ → Bool
  | null                => false
  | flag b              => b
  | whole n             => n != 0
  | decimal mantissa _  => mantissa != 0
  | text t              => !t.isEmpty
  | list items          => !items.isEmpty
  | tuple items         => !items.isEmpty
  | mapping pairs       => !pairs.isEmpty
  | side _ | callback _ => true

-- The least number of places that still shows the whole value.
def reduce : Int → Nat → Int × Nat
  | mantissa, 0 => (mantissa, 0)
  | mantissa, places + 1 =>
    if mantissa % 10 = 0 then reduce (mantissa / 10) places else (mantissa, places + 1)

-- A decimal number with at least one place after its point.
def decimalText (mantissa : Int) (places : Nat) : Text :=
  let (mantissa, places) := reduce mantissa places
  let (mantissa, places) := if places = 0 then (mantissa * 10, 1) else (mantissa, places)
  let digits := Text.ofNat mantissa.natAbs
  let digits := List.replicate (places + 1 - digits.length) '0' ++ digits
  let point := digits.length - places
  (if mantissa < 0 then ['-'] else []) ++ digits.take point ++ '.' :: digits.drop point

mutual

-- The datum as messages show it.
def quoted : Datum φ → Text
  | null                    => "None".toList
  | flag true               => "True".toList
  | flag false              => "False".toList
  | whole n                 => Text.ofInt n
  | decimal mantissa places => decimalText mantissa places
  | text t                  => Text.quoted t
  | list items              => '[' :: Text.commaSeparated (quotedItems items) ++ [']']
  | tuple [item]            => '(' :: quoted item ++ [',', ')']
  | tuple items             => '(' :: Text.commaSeparated (quotedItems items) ++ [')']
  | mapping pairs           => '\x7b' :: Text.commaSeparated (quotedPairs pairs) ++ ['\x7d']
  | side .template          => "<Side.TEMPLATE: 'template'>".toList
  | side .destination       => "<Side.DESTINATION: 'destination'>".toList
  | callback _              => "<function>".toList

def quotedItems : List (Datum φ) → List Text
  | [] => []
  | item :: items => quoted item :: quotedItems items

def quotedPairs : List (Datum φ × Datum φ) → List Text
  | [] => []
  | (key, value) :: pairs => (quoted key ++ ':' :: ' ' :: quoted value) :: quotedPairs pairs

end

-- The signs that keys are written in.
inductive Sign
  | null
  | number (mantissa : Int) (places : Nat)
  | text (t : Text)
  | list (count : Nat)
  | tuple (count : Nat)
  | mapping (count : Nat)
  | side (s : Side)
  | callback
deriving DecidableEq

-- What data are compared by: the datum written out in front-to-back order, each group after the
-- number of its members. Numbers of one value have one key, and a list never has the key of a
-- tuple.
abbrev Key := List Sign

def numberSign (mantissa : Int) (places : Nat) : Sign :=
  let (mantissa, places) := reduce mantissa places
  .number mantissa places

mutual

def key : Datum φ → Key
  | null                    => [.null]
  | flag b                  => [.number (if b then 1 else 0) 0]
  | whole n                 => [.number n 0]
  | decimal mantissa places => [numberSign mantissa places]
  | text t                  => [.text t]
  | list items              => .list items.length :: keys items
  | tuple items             => .tuple items.length :: keys items
  | mapping pairs           => .mapping pairs.length :: pairKeys pairs
  | side s                  => [.side s]
  | callback _              => [.callback]

def keys : List (Datum φ) → Key
  | [] => []
  | item :: items => key item ++ keys items

def pairKeys : List (Datum φ × Datum φ) → Key
  | [] => []
  | (k, v) :: pairs => key k ++ key v ++ pairKeys pairs

end

mutual

-- The type name of the first list or mapping in a datum. One that has neither can be looked up.
def unhashable? : Datum φ → Option Text
  | list _      => some "list".toList
  | mapping _   => some "dict".toList
  | tuple items => unhashableItem? items
  | _           => none

def unhashableItem? : List (Datum φ) → Option Text
  | [] => none
  | item :: items => (unhashable? item).or (unhashableItem? items)

end

-- A mapping built pair by pair. A later equal key replaces the value and keeps the first place.
def ofPairs (pairs : List (Datum φ × Datum φ)) : Datum φ :=
  mapping (pairs.foldl put [])
where
  put (done : List (Datum φ × Datum φ)) (pair : Datum φ × Datum φ) :=
    if done.any (·.1.key == pair.1.key) then
      done.map fun p => if p.1.key == pair.1.key then (p.1, pair.2) else p
    else done ++ [pair]

end Datum
end EnvMerge
