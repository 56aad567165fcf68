import EnvMerge.Options
import EnvMerge.Proofs.Classification

namespace EnvMerge

namespace Item

-- Whether the answer of a generator can be looked up as a signature. A list means a tuple.
def Signs : Item → Prop
  | datum (.list items) => (Datum.tuple items).unhashable? = none
  | i                   => i.Hashable

-- What a classifier may answer, a generator may answer too.
theorem Hashable.signs {i : Item} (h : i.Hashable) : i.Signs := by
  cases i
  case statement s => exact h
  case datum d     => cases d <;> first | exact h | cases h

end Item

-- The generator does not raise, and what it returns can be looked up.
def Options.Signs (o : Options) : Prop :=
  ∀ rule ∈ o.generator, ∀ s, ∃ i, rule (.statement s) = .ok i ∧ i.Signs

-- The same of the generator and of the classifiers.
structure Options.Answers (o : Options) : Prop where
  signs      : ∀ rule ∈ o.generator, ∀ s, ∃ i, rule (.statement s) = .ok i ∧ i.Signs
  classifies : ∀ rule ∈ o.classifiers, ∀ s, ∃ i, rule (.statement s) = .ok i ∧ i.Hashable

variable {s : Statement} {d : Plain}

theorem Statement.unhashable?_signature (h : s.signature = some d) : d.unhashable? = none := by
  cases s
  case line l =>
    have ⟨key, _, hd⟩ := Option.map_eq_some_iff.mp h
    simp [← hd, Datum.unhashable?, Datum.unhashableItem?]
  case frozen b =>
    cases h
    simp [Datum.unhashable?, Datum.unhashableItem?]

namespace Signature

theorem ofPlain_eq (h : d.unhashable? = none) : ofPlain d = .ok ⟨d, d.key⟩ := by
  simp [ofPlain, h]

theorem ofStatement_eq_none {sign : Signer} (h : sign (.statement s) = .ok none) :
    ofStatement sign s = .ok none := by
  simp [ofStatement, h, bind, Except.bind, pure, Except.pure]

theorem ofStatement_eq_some {sign : Signer} (h : sign (.statement s) = .ok (some d))
    (hd : d.unhashable? = none) : ofStatement sign s = .ok (some ⟨d, d.key⟩) := by
  simp [ofStatement, h, ofPlain_eq hd, bind, Except.bind, pure, Except.pure]

theorem exists_ofStatement {sign : Signer} {x : Option Plain} (h : sign (.statement s) = .ok x)
    (hx : ∀ d ∈ x, d.unhashable? = none) : ∃ y, ofStatement sign s = .ok y := by
  cases x
  case none   => exact ⟨_, ofStatement_eq_none h⟩
  case some d => exact ⟨_, ofStatement_eq_some h (hx d rfl)⟩

theorem exists_ofStatement_builtIn (s : Statement) : ∃ x, ofStatement .builtIn s = .ok x :=
  exists_ofStatement rfl fun _ h => Statement.unhashable?_signature h

theorem exists_ofStatement_ofRule {rule : Rule} {i : Item} (h : rule (.statement s) = .ok i)
    (hi : i.Signs) : ∃ x, ofStatement (.ofRule rule) s = .ok x := by
  have asked {x} (hx : (Signer.ofRule rule) (.statement s) = .ok x)
      (hd : ∀ d ∈ x, d.unhashable? = none) : ∃ y, ofStatement (.ofRule rule) s = .ok y :=
    exists_ofStatement hx hd
  simp only [Signer.ofRule, h, bind, Except.bind, pure, Except.pure] at asked
  cases i
  case statement s' => exact asked rfl fun _ h => Statement.unhashable?_signature h
  case datum d =>
    cases d
    case null => exact asked rfl (by simp)
    all_goals exact asked rfl fun _ h => by cases h; exact hi

theorem exists_ofStatement_ofRule? {rule? : Option Rule}
    (h : ∀ rule ∈ rule?, ∀ s, ∃ i, rule (.statement s) = .ok i ∧ i.Signs) (s : Statement) :
    ∃ x, ofStatement (.ofRule? rule?) s = .ok x := by
  cases rule?
  case none      => exact exists_ofStatement_builtIn s
  case some rule =>
    have ⟨i, hi, hs⟩ := h rule rfl s
    exact exists_ofStatement_ofRule hi hs

end Signature

namespace Options.Answers

variable {o : Options}

theorem exists_side (h : o.Answers) (s s' : Statement) :
    ∃ side, o.preference.side o.classifiers (.statement s) (.statement s') = .ok side := by
  cases o.preference
  case fixed side => exact ⟨side, rfl⟩
  case byTag sides =>
    apply Preference.exists_side_byTag
    intro a ha
    have ⟨rule, hr, asked⟩ := Preference.mem_answers_iff.mp ha
    cases asked
    case inl asked => exact asked ▸ h.classifies rule hr s
    case inr asked => exact asked ▸ h.classifies rule hr s'

end Options.Answers

theorem Options.signs_of_generator_eq_none {o : Options} (h : o.generator = none) : o.Signs := by
  simp [Signs, h]

-- The standard options, with additions wanted.
def Options.appending : Options :=
  { standard with append := true }

theorem Options.appending_answers : appending.Answers where
  signs      := nofun
  classifies := nofun

end EnvMerge
