import EnvMerge.Text.Printable

namespace EnvMerge.Text

-- The last `width` hexadecimal digits of `n`, in lower case.
def hex (width n : Nat) : Text :=
  let digits := Nat.toDigits 16 n
  List.replicate (width - digits.length) '0' ++ digits

-- Double quotes stand only around a text that holds a single quote and no double one.
def quoteMark (t : Text) : Char :=
  if '\'' ∈ t ∧ '"' ∉ t then '"' else '\''

def quotedChar (mark c : Char) : Text :=
  if c = mark ∨ c = '\\' then ['\\', c]
  else if c = '\n' then ['\\', 'n']
  else if c = '\r' then ['\\', 'r']
  else if c = '\t' then ['\\', 't']
  else if isPrintable c then [c]
  else if c.toNat < 0x100 then '\\' :: 'x' :: hex 2 c.toNat
  else if c.toNat < 0x10000 then '\\' :: 'u' :: hex 4 c.toNat
  else '\\' :: 'U' :: hex 8 c.toNat

def quoted (t : Text) : Text :=
  let mark := quoteMark t
  mark :: t.flatMap (quotedChar mark) ++ [mark]

end EnvMerge.Text
