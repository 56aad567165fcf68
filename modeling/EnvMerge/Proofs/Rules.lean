import EnvMerge.Proofs.Options
import EnvMerge.Rules

namespace EnvMerge

namespace Rules

variable {rule : Rule}

-- The ready-made rules that are fit to classify: they answer with what can be looked up.
inductive Tagging : Rule → Prop
  | none                                                                        : Tagging none
  | self                                                                        : Tagging self
  | constant {d : Plain} (hashable : d.unhashable? = .none)                     : Tagging (constant d)
  | raw                                                                         : Tagging raw
  | kind                                                                        : Tagging kind
  | keyPrefix (n : Nat)                                                         : Tagging (keyPrefix n)
  | startLine                                                                   : Tagging startLine
  | firstInBlock                                                                : Tagging firstInBlock
  | exported                                                                    : Tagging exported
  | keySuffix (t : Text) {tag : Plain} (hashable : tag.unhashable? = .none)     : Tagging (keySuffix t tag)
  | keyContains (t : Text) {tag : Plain} (hashable : tag.unhashable? = .none)   : Tagging (keyContains t tag)

-- The ready-made rules that are fit to generate signatures. They may also answer with a list of words.
inductive Signing : Rule → Prop
  | tagging {rule : Rule} (h : Tagging rule) : Signing rule
  | lowerKey                                 : Signing lowerKey
  | value                                    : Signing value

-- A rule about assignments answers as its two parts do.
theorem exists_onAssignment {p : Item → Prop} {answer : Line → (key value : Text) → Item} {other : Rule}
    (ha : ∀ l key value, p (answer l key value)) (ho : ∀ s, ∃ i, other (.statement s) = .ok i ∧ p i)
    (s : Statement) : ∃ i, onAssignment answer other (.statement s) = .ok i ∧ p i := by
  cases s
  case frozen b => exact ho (.frozen b)
  case line l   =>
    simp only [onAssignment]
    split
    case h_1 => exact ⟨_, rfl, ha l _ _⟩
    case h_2 => exact ho (.line l)

theorem exists_none (s : Statement) : ∃ i, none (.statement s) = .ok i ∧ i.Hashable :=
  ⟨nothing, rfl, rfl⟩

theorem hashable_ite {b : Bool} {tag : Plain} (h : tag.unhashable? = .none) :
    (if b then .datum tag else nothing : Item).Hashable := by
  cases b
  case false => rfl
  case true  => exact h

theorem Tagging.exists_hashable (h : Tagging rule) (s : Statement) :
    ∃ i, rule (.statement s) = .ok i ∧ i.Hashable := by
  cases h
  case none                   => exact exists_none s
  case self                   => exact ⟨.statement s, rfl, trivial⟩
  case constant d hashable    => exact ⟨.datum d, rfl, hashable⟩
  case raw                    => exact ⟨_, rfl, rfl⟩
  case kind                   => exact ⟨word s.kindName, rfl, rfl⟩
  case keyPrefix n            => exact exists_onAssignment (p := Item.Hashable) (fun _ _ _ => by rfl) exists_none s
  case startLine              => exact ⟨_, rfl, rfl⟩
  case firstInBlock           => cases s <;> exact ⟨_, rfl, trivial⟩
  case exported               => exact exists_onAssignment (p := Item.Hashable) (fun _ _ _ => by rfl) exists_none s
  case keySuffix hashable     => exact exists_onAssignment (fun _ _ _ => hashable_ite hashable) exists_none s
  case keyContains hashable   => exact exists_onAssignment (fun _ _ _ => hashable_ite hashable) exists_none s

theorem Signing.exists_signs (h : Signing rule) (s : Statement) :
    ∃ i, rule (.statement s) = .ok i ∧ i.Signs := by
  have signs {rule} (h : Tagging rule) (s) : ∃ i, rule (.statement s) = .ok i ∧ i.Signs := by
    have ⟨i, answered, hashable⟩ := h.exists_hashable s
    exact ⟨i, answered, hashable.signs⟩
  cases h
  case tagging h => exact signs h s
  case lowerKey  => exact exists_onAssignment (p := Item.Signs) (fun _ _ _ => by rfl) (signs .self) s
  case value     => exact exists_onAssignment (p := Item.Signs) (fun _ _ _ => by rfl) (signs .none) s

end Rules

namespace Options

variable {o : Options}

theorem signs_of_rules (h : ∀ rule ∈ o.generator, Rules.Signing rule) : o.Signs :=
  fun rule hr => (h rule hr).exists_signs

theorem answers_of_rules (hg : ∀ rule ∈ o.generator, Rules.Signing rule)
    (hc : ∀ rule ∈ o.classifiers, Rules.Tagging rule) : o.Answers where
  signs      := signs_of_rules hg
  classifies := fun rule hr => (hc rule hr).exists_hashable

end Options
end EnvMerge
