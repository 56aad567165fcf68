import EnvMerge.Text.Basic

namespace EnvMerge

-- The code points of blank characters, as inclusive ranges in increasing order: all white space
-- of the Unicode standard, the information separators U+001C to U+001F included.
def blankRanges : List (Nat × Nat) :=
  [(0x09, 0x0D), (0x1C, 0x20), (0x85, 0x85), (0xA0, 0xA0), (0x1680, 0x1680), (0x2000, 0x200A),
   (0x2028, 0x2029), (0x202F, 0x202F), (0x205F, 0x205F), (0x3000, 0x3000)]

def isBlank (c : Char) : Bool :=
  blankRanges.any fun (first, last) => first ≤ c.toNat && c.toNat ≤ last

example : isBlank ' ' ∧ isBlank '\t' ∧ isBlank '\r' ∧ isBlank '\n' := by decide

example : isBlank '#' = false ∧ isBlank '=' = false ∧ isBlank '"' = false := by decide

namespace Text

def Blank (t : Text) : Prop :=
  ∀ c ∈ t, isBlank c

def trimStart (t : Text) : Text :=
  t.dropWhile isBlank

def trimEnd (t : Text) : Text :=
  t.dropEnd isBlank

def trim (t : Text) : Text :=
  t.trimStart.trimEnd

-- Every run of blanks becomes one space.
def squeeze : Text → Text
  | [] => []
  | c :: t =>
    if isBlank c then
      match t with
      | [] => [' ']
      | d :: _ => if isBlank d then squeeze t else ' ' :: squeeze t
    else c :: squeeze t

-- The text with its words one space apart and no blanks around them.
def normalSpace (t : Text) : Text :=
  t.squeeze.trim

end Text
end EnvMerge
