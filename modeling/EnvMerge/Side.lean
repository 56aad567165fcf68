import EnvMerge.Text.Blank

namespace EnvMerge

-- The two inputs of a merge.
inductive Side
  | template
  | destination
deriving DecidableEq

namespace Side

def name : Side → Text
  | template    => "template".toList
  | destination => "destination".toList

def ofName? (t : Text) : Option Side :=
  if t = template.name then some template
  else if t = destination.name then some destination
  else none

-- The side that a text names, whatever its case and the blanks around it.
def ofText? (t : Text) : Option Side :=
  ofName? t.trim.lowerAscii

theorem ofName?_name (s : Side) : ofName? s.name = some s := by
  cases s <;> rfl

end Side
end EnvMerge
