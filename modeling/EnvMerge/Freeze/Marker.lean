import EnvMerge.Text.Blank
import EnvMerge.Text.Word

namespace EnvMerge

inductive Marker.Kind
  | freeze
  | unfreeze
deriving DecidableEq

-- A comment of the form `# token:freeze` or `# token:unfreeze`, and the text behind it, without
-- the blanks that lead up to it.
structure Marker where
  kind : Marker.Kind
  rest : Text
deriving DecidableEq

namespace Marker

def Kind.keyword : Kind → Text
  | freeze   => ['f', 'r', 'e', 'e', 'z', 'e']
  | unfreeze => ['u', 'n', 'f', 'r', 'e', 'e', 'z', 'e']

-- What may be left when blanks are taken off the front, the least first.
def afterBlanks : Text → List Text
  | [] => [[]]
  | c :: t => if isBlank c then afterBlanks t ++ [c :: t] else [c :: t]

-- Whether a word that ends here ends at a word boundary.
def atBoundary : Text → Bool
  | [] => true
  | c :: _ => !isWord c

-- The line that begins the text, if at most one line feed follows it.
def onlyLine? (t : Text) : Option Text :=
  match t.dropWhile (· != '\n') with
  | [] | ['\n'] => some (t.takeWhile (· != '\n'))
  | _ => none

-- Reads what stands behind the token and its colon.
def ofTail? (kind : Kind) (t : Text) : Option Marker := do
  let rest ← t.after? kind.keyword
  if atBoundary rest then some ⟨kind, ← onlyLine? (Text.trimStart rest)⟩ else none

-- Reads what stands behind the number sign and its blanks.
def ofBody? (token t : Text) : Option Marker := do
  let t ← t.after? (token ++ [':'])
  (ofTail? .freeze t).or (ofTail? .unfreeze t)

-- Reads a marker with the given token, which is taken literally. A token may itself begin with
-- blanks, so every division of the blanks before it counts.
def ofText? (token text : Text) : Option Marker := do
  let t ← text.trimStart.after? ['#']
  (afterBlanks t).findSome? (ofBody? token)

end Marker
end EnvMerge
