import EnvMerge.Line.Basic

namespace EnvMerge

-- A run of lines between two markers, markers included.
structure Block where
  span : Span
  lines : List Line
  reason : Option Text
deriving DecidableEq

namespace Block

def rawLines (b : Block) : List Text :=
  b.lines.map (·.raw)

def text (b : Block) : Text :=
  Text.joinLines b.rawLines

def assignments (b : Block) : List Line :=
  b.lines.filter (·.isAssignment)

end Block
end EnvMerge
