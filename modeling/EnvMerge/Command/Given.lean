import EnvMerge.Options

namespace EnvMerge.Command

def dashes : Text := ['-', '-']

-- A value given on a command line. Two dashes with nothing behind them are no value: what they
-- are given to is left void.
inductive Given (α : Type)
  | value (a : α)
  | void
deriving DecidableEq

namespace Given

variable {α β : Type}

def ofText (t : Text) : Given Text :=
  if t = dashes then void else value t

def map (f : α → β) : Given α → Given β
  | value a => value (f a)
  | void => void

def value? : Given α → Option α
  | value a => some a
  | void => none

-- A void counts as an empty list.
def toSetting (f : α → Setting) : Given α → Setting
  | value a => f a
  | void => .list []

def voidTypeName : Text :=
  (Datum.list [] : Plain).typeName

-- The value, where it is asked for something that a void lacks.
def get (feature : String) : Given α → Except Failure α
  | value a => .ok a
  | void => .error (.lacks voidTypeName feature.toList)

end Given
end EnvMerge.Command
