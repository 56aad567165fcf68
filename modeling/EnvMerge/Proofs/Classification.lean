import EnvMerge.Preference

namespace EnvMerge

namespace Item

def Hashable : Item → Prop
  | statement _ => True
  | datum d     => d.unhashable? = none

end Item

-- What a classifier answers about a statement.
abbrev Answer := Except Failure Item

namespace TagSides

variable {sides : TagSides} {answers before after : List Answer} {a : Answer} {side : Side}
variable {e : Failure} {r : Except Failure Side}

-- Whether an answer is a tag with the given side. The default is no tag of its own.
inductive Names (sides : TagSides) : Answer → Side → Prop
  | intro {tag : Text} {side : Side} (own : tag ≠ defaultTag) (named : sides.get? tag = some side) :
      Names sides (.ok (.datum (.text tag))) side

-- Whether an answer can be looked up, but names no side.
inductive Passes (sides : TagSides) : Answer → Prop
  | intro {i : Item} (hashable : i.Hashable) (unnamed : ∀ side, ¬Names sides (.ok i) side) :
      Passes sides (.ok i)

-- Whether there is no answer, or none that can be looked up.
inductive Fails : Answer → Failure → Prop
  | raised (e : Failure) : Fails (.error e) e
  | unhashable {d : Plain} {typeName : Text} (h : d.unhashable? = some typeName) :
      Fails (.ok (.datum d)) (.unhashable typeName)

-- The side that wins where no tag decides.
def fallback (sides : TagSides) : Side :=
  (sides.get? defaultTag).getD .destination

-- What answers come to if they are asked for one after the other.
inductive Decides (sides : TagSides) : List Answer → Except Failure Side → Prop
  | named {before after : List Answer} {a : Answer} {side : Side}
      (passed : ∀ b ∈ before, Passes sides b) (names : Names sides a side) :
      Decides sides (before ++ a :: after) (.ok side)
  | failed {before after : List Answer} {a : Answer} {e : Failure}
      (passed : ∀ b ∈ before, Passes sides b) (fails : Fails a e) :
      Decides sides (before ++ a :: after) (.error e)
  | unnamed {answers : List Answer} (passed : ∀ b ∈ answers, Passes sides b) :
      Decides sides answers (.ok sides.fallback)

-- The first side that an answer names, if all answers before it can be looked up.
def first? (sides : TagSides) : List Answer → Except Failure (Option Side)
  | [] => .ok none
  | a :: answers => do
    match ← a >>= sides.ofTag? with
    | some side => return some side
    | none      => first? sides answers

theorem names_iff : Names sides a side ↔ a >>= sides.ofTag? = .ok (some side) := by
  constructor
  case mp =>
    intro ⟨own, named⟩
    simp [bind, Except.bind, ofTag?, Datum.unhashable?, own, named]
  case mpr =>
    intro h
    cases a
    case error => cases h
    case ok i =>
      cases i
      case statement => cases h
      case datum d =>
        simp only [bind, Except.bind, ofTag?] at h
        split at h
        case h_1 | h_3 => cases h
        case h_2 =>
          split at h
          case isTrue      => cases h
          case isFalse own => exact .intro own (Except.ok.inj h)

theorem fails_iff : Fails a e ↔ a >>= sides.ofTag? = .error e := by
  constructor
  case mp =>
    intro h
    cases h
    case raised       => rfl
    case unhashable h => simp [bind, Except.bind, ofTag?, h]
  case mpr =>
    intro h
    cases a
    case error e =>
      cases h
      exact .raised e
    case ok i =>
      cases i
      case statement => cases h
      case datum d =>
        simp only [bind, Except.bind, ofTag?] at h
        split at h
        case h_1 unhashable =>
          cases h
          exact .unhashable unhashable
        case h_2 | h_3 => cases h

theorem hashable_iff {i : Item} : i.Hashable ↔ ∀ e, ¬Fails (.ok i) e := by
  constructor
  case mp =>
    intro hashable e fails
    cases fails
    case unhashable h => cases h.symm.trans hashable
  case mpr =>
    intro h
    cases i
    case statement => trivial
    case datum d =>
      cases hd : d.unhashable?
      case none => exact hd
      case some => exact absurd (.unhashable hd) (h _)

-- Every answer names a side, fails or is passed over, and only one of the three.
theorem passes_iff : Passes sides a ↔ a >>= sides.ofTag? = .ok none := by
  constructor
  case mp =>
    intro passes
    cases passes
    case intro i hashable unnamed =>
      cases h : (.ok i : Answer) >>= sides.ofTag?
      case error e => exact absurd (fails_iff.mpr h) (hashable_iff.mp hashable e)
      case ok side? =>
        cases side?
        case none      => rfl
        case some side => exact absurd (names_iff.mpr h) (unnamed side)
  case mpr =>
    intro h
    cases a
    case error => cases h
    case ok i =>
      refine .intro (hashable_iff.mpr fun e fails => ?_) fun side names => ?_
      case refine_1 => cases h.symm.trans (fails_iff.mp fails)
      case refine_2 => cases h.symm.trans (names_iff.mp names)

theorem first?_append_of_passed (passed : ∀ b ∈ before, Passes sides b) (answers : List Answer) :
    first? sides (before ++ answers) = first? sides answers := by
  induction before
  case nil => rfl
  case cons a before ih =>
    have ⟨here, rest⟩ := List.forall_mem_cons.mp passed
    rw [List.cons_append, first?, passes_iff.mp here]
    exact ih rest

theorem first?_cons_of_names (h : Names sides a side) : first? sides (a :: after) = .ok (some side) := by
  rw [first?, names_iff.mp h]
  rfl

theorem first?_cons_of_fails (h : Fails a e) : first? sides (a :: after) = .error e := by
  rw [first?, fails_iff.mp h]
  rfl

theorem first?_of_passed (passed : ∀ b ∈ answers, Passes sides b) : first? sides answers = .ok none := by
  rw [← List.append_nil answers, first?_append_of_passed passed, first?]

theorem Decides.cons_of_passes (ha : Passes sides a) (h : Decides sides answers r) :
    Decides sides (a :: answers) r := by
  cases h
  case named passed names  => exact .named (List.forall_mem_cons.mpr ⟨ha, passed⟩) names
  case failed passed fails => exact .failed (List.forall_mem_cons.mpr ⟨ha, passed⟩) fails
  case unnamed passed      => exact .unnamed (List.forall_mem_cons.mpr ⟨ha, passed⟩)

theorem decides_first? (sides : TagSides) (answers : List Answer) :
    Decides sides answers ((·.getD sides.fallback) <$> first? sides answers) := by
  induction answers
  case nil => exact .unnamed (List.forall_mem_nil _)
  case cons a answers ih =>
    cases h : a >>= sides.ofTag?
    case error e =>
      have fails := fails_iff.mpr h
      rw [first?_cons_of_fails fails, ← List.nil_append (a :: answers)]
      exact .failed (List.forall_mem_nil _) fails
    case ok side? =>
      cases side?
      case some side =>
        have names := names_iff.mpr h
        rw [first?_cons_of_names names, ← List.nil_append (a :: answers)]
        exact .named (List.forall_mem_nil _) names
      case none =>
        have passes := passes_iff.mpr h
        have later := first?_append_of_passed (List.forall_mem_singleton.mpr passes) answers
        rw [← List.singleton_append, later]
        exact ih.cons_of_passes passes

theorem decides_iff : Decides sides answers r ↔ (·.getD sides.fallback) <$> first? sides answers = r := by
  constructor
  case mp =>
    intro h
    cases h
    case named passed names  => rw [first?_append_of_passed passed, first?_cons_of_names names]; rfl
    case failed passed fails => rw [first?_append_of_passed passed, first?_cons_of_fails fails]; rfl
    case unnamed passed      => rw [first?_of_passed passed]; rfl
  case mpr => exact fun h => h ▸ decides_first? sides answers

theorem exists_decides_ok (h : ∀ a ∈ answers, ∃ i : Item, a = .ok i ∧ i.Hashable) (hr : Decides sides answers r) :
    ∃ side, r = .ok side := by
  cases hr
  case named   => exact ⟨_, rfl⟩
  case unnamed => exact ⟨_, rfl⟩
  case failed before after a e passed fails =>
    have ⟨i, ha, hashable⟩ := h a (List.mem_append_right before List.mem_cons_self)
    exact absurd (ha ▸ fails) (hashable_iff.mp hashable e)

theorem first?_append (sides : TagSides) (before after : List Answer) :
    first? sides (before ++ after) = first? sides before >>= fun
      | some side => .ok (some side)
      | none      => first? sides after := by
  induction before
  case nil => rfl
  case cons a before ih =>
    rw [List.cons_append, first?, first?, ih]
    cases a >>= sides.ofTag?
    case error     => rfl
    case ok side? => cases side? <;> rfl

-- An answer with null in place of the word for the default.
def silent : Item → Item
  | .datum (.text t) => if t = defaultTag then .datum .null else .datum (.text t)
  | i                => i

theorem ofTag?_silent (sides : TagSides) (i : Item) : sides.ofTag? (silent i) = sides.ofTag? i := by
  unfold silent
  split
  case h_1 t =>
    split
    case isTrue word => simp [ofTag?, Datum.unhashable?, word]
    case isFalse     => rfl
  case h_2 => rfl

theorem first?_silent (sides : TagSides) (answers : List Answer) :
    first? sides (answers.map (silent <$> ·)) = first? sides answers := by
  induction answers
  case nil => rfl
  case cons a answers ih =>
    have read : (silent <$> a) >>= sides.ofTag? = a >>= sides.ofTag? := by
      cases a
      case error => rfl
      case ok i  => exact ofTag?_silent sides i
    rw [List.map_cons, first?, first?, read, ih]

end TagSides

namespace Classification

variable {α : Type}

theorem first?_ofTag? (sides : TagSides) (x : α) (classifiers : List (α → Answer)) :
    first? sides.ofTag? x classifiers = sides.first? (classifiers.map (· x)) := by
  induction classifiers
  case nil => rfl
  case cons classify rest ih =>
    rw [first?, List.map_cons, TagSides.first?, ih]
    cases classify x
    case error => rfl
    case ok i =>
      -- null names no side either
      simp only [bind, Except.bind]
      split
      case h_1 => rfl
      case h_2 =>
        cases sides.ofTag? i
        case error    => rfl
        case ok side? => cases side? <;> rfl

end Classification

namespace Preference

variable {α : Type} {sides : TagSides} {classifiers : List (α → Answer)} {template destination : α}

-- What classifiers answer about the template's statement and then about the destination's.
def answers (classifiers : List (α → Answer)) (template destination : α) : List Answer :=
  classifiers.map (· template) ++ classifiers.map (· destination)

theorem mem_answers_iff {a : Answer} : a ∈ answers classifiers template destination ↔
    ∃ classify ∈ classifiers, classify template = a ∨ classify destination = a := by
  simp only [answers, List.mem_append, List.mem_map]
  constructor
  case mp =>
    rintro (⟨classify, mem, ha⟩ | ⟨classify, mem, ha⟩)
    case inl => exact ⟨classify, mem, .inl ha⟩
    case inr => exact ⟨classify, mem, .inr ha⟩
  case mpr =>
    rintro ⟨classify, mem, ha | ha⟩
    case inl => exact .inl ⟨classify, mem, ha⟩
    case inr => exact .inr ⟨classify, mem, ha⟩

theorem side_byTag : side (.byTag sides) classifiers template destination
    = (·.getD sides.fallback) <$> sides.first? (answers classifiers template destination) := by
  rw [side, answers, TagSides.first?_append, Classification.first?_ofTag?, Classification.first?_ofTag?]
  cases sides.first? (classifiers.map (· template))
  case error => rfl
  case ok side? =>
    cases side?
    case some => rfl
    case none =>
      cases sides.first? (classifiers.map (· destination))
      case error    => rfl
      case ok side? => cases side? <;> rfl

theorem decides_side : sides.Decides (answers classifiers template destination)
    (side (.byTag sides) classifiers template destination) := by
  rw [side_byTag]
  exact TagSides.decides_first? sides _

-- If every classifier answers with what can be looked up, then some side wins.
theorem exists_side_byTag
    (h : ∀ a ∈ answers classifiers template destination, ∃ i : Item, a = .ok i ∧ i.Hashable) :
    ∃ s, side (.byTag sides) classifiers template destination = .ok s :=
  TagSides.exists_decides_ok h decides_side

-- A classifier that never answers with the word for the default, but with null instead.
def silenced (classify : α → Answer) : α → Answer :=
  fun x => TagSides.silent <$> classify x

theorem answers_silenced : answers (classifiers.map silenced) template destination
    = (answers classifiers template destination).map (TagSides.silent <$> ·) := by
  simp [answers, silenced, Function.comp_def]

-- A preference by type tag is decided by the first answer that is a tag with a side of its own.
theorem side_byTag_decided (sides : TagSides) (classifiers : List (α → Answer)) (template destination : α) :
    (∀ r, side (.byTag sides) classifiers template destination = r ↔
      sides.Decides (answers classifiers template destination) r) ∧
    ((∀ a ∈ answers classifiers template destination, ∃ i : Item, a = .ok i ∧ i.Hashable) →
      ∃ s, side (.byTag sides) classifiers template destination = .ok s) ∧
    side (.byTag sides) (classifiers.map silenced) template destination
      = side (.byTag sides) classifiers template destination := by
  refine ⟨fun r => ?decided, exists_side_byTag, ?silenced⟩
  case decided  => rw [side_byTag, TagSides.decides_iff]
  case silenced => rw [side_byTag, side_byTag, answers_silenced, TagSides.first?_silent]

-- Sides that differ from the default's.
def mixedSides : TagSides :=
  [(TagSides.defaultTag, .template), ("secret".toList, .destination)]

def word : Side → Answer :=
  fun _ => .ok (.datum (.text TagSides.defaultTag))

def wary : Side → Answer
  | .template    => .ok (.datum (.tuple []))
  | .destination => .ok (.datum (.text "secret".toList))

def raising : Side → Answer
  | .template    => .ok (.datum .null)
  | .destination => .error (.refused "too late".toList)

-- The last classifier raises behind the answer that decides.
theorem side_byTag_of_mixed_answers :
    side (.byTag mixedSides) [word, wary, raising] .template .destination = .ok .destination ∧
      (∀ a ∈ answers [word, wary] .template .destination, ∃ i : Item, a = .ok i ∧ i.Hashable) ∧
      ∃ s, side (.byTag mixedSides) [word, wary] .template .destination = .ok s := by
  have ⟨decided, _⟩ := side_byTag_decided mixedSides [word, wary, raising] .template .destination
  have ⟨_, answered, _⟩ := side_byTag_decided mixedSides [word, wary] .template .destination
  have passed : ∀ b ∈ [word .template, wary .template, raising .template, word .destination],
      TagSides.Passes mixedSides b := by
    simp only [List.forall_mem_cons, TagSides.passes_iff]
    exact ⟨rfl, rfl, rfl, rfl, List.forall_mem_nil _⟩
  have names : TagSides.Names mixedSides (wary .destination) .destination := .intro (by decide) rfl
  have hashable : ∀ a ∈ answers [word, wary] .template .destination, ∃ i : Item, a = .ok i ∧ i.Hashable := by
    simp only [answers, List.map_cons, List.map_nil, List.cons_append, List.nil_append, List.forall_mem_cons]
    exact ⟨⟨_, rfl, rfl⟩, ⟨_, rfl, rfl⟩, ⟨_, rfl, rfl⟩, ⟨_, rfl, rfl⟩, List.forall_mem_nil _⟩
  have cut : answers [word, wary, raising] .template .destination
      = [word .template, wary .template, raising .template, word .destination]
        ++ wary .destination :: [raising .destination] := rfl
  refine ⟨(decided _).mpr ?_, hashable, answered hashable⟩
  rw [cut]
  exact .named passed names

end Preference
end EnvMerge
