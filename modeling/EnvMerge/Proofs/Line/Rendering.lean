import EnvMerge.Proofs.Line.Split

namespace EnvMerge.Line

inductive Ending
  | feed
  | returnFeed

def Ending.text : Ending → Text
  | feed       => ['\n']
  | returnFeed => ['\r', '\n']

-- The texts that show the given lines.
inductive Renders : List Text → Text → Prop
  | nil : Renders [] []
  | unended {line : Text} (some : line ≠ []) : Renders [line] line
  | ended {line t : Text} {lines : List Text} (e : Ending) (rest : Renders lines t) :
      Renders (line :: lines) (line ++ e.text ++ t)

-- Whether a text can be told from the ending behind it.
structure Whole (line : Text) : Prop where
  feedless : '\n' ∉ line
  clean    : line.getLast? ≠ some '\r'

variable {line t : Text} {lines : List Text} {e : Ending}

theorem split_ended (h : Whole line) : split (line ++ e.text ++ t) = line :: split t := by
  cases e
  case feed =>
    rw [Ending.text, List.append_assoc, List.singleton_append, split_append_feed h.feedless,
      dropReturn_of_ne h.clean]
  case returnFeed =>
    have feedless : '\n' ∉ line ++ ['\r'] := by simpa using h.feedless
    calc split (line ++ Ending.returnFeed.text ++ t)
      _ = split (line ++ ['\r'] ++ '\n' :: t)   := by simp [Ending.text]
      _ = dropReturn (line ++ ['\r']) :: split t := split_append_feed feedless
      _ = line :: split t                        := by rw [dropReturn_append_return]

theorem split_of_renders (hl : ∀ line ∈ lines, Whole line) (h : Renders lines t) : split t = lines := by
  induction h
  case nil => rfl
  case unended line some =>
    have whole := hl line List.mem_cons_self
    rw [split_of_not_mem whole.feedless some, dropReturn_of_ne whole.clean]
  case ended line t lines e _ ih =>
    rw [split_ended (hl line List.mem_cons_self), ih fun l hm => hl l (List.mem_cons_of_mem _ hm)]

end EnvMerge.Line
