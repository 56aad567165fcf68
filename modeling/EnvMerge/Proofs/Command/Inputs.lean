import EnvMerge.Command.Run
import EnvMerge.Proofs.Files.Query

namespace EnvMerge

open FileSystem

namespace Job

variable {α : Type} {b : α} {fs : FileSystem} {w w' : World} {p : Path}

theorem returns_ofExcept_iff {x : Except Failure α} :
    Returns (Job.ofExcept x) w b w' ↔ x = .ok b ∧ w = w' :=
  World.pair_eq_iff

theorem returns_isFolder_iff {b : Bool} :
    Returns (isFolder p) w b w' ↔ ∃ s, Learns w.files p s ∧ b = s.any (·.isFolder) ∧ w = w' := by
  simp only [isFolder, returns_bind_iff, returns_status?_iff, returns_pure_iff]
  constructor
  case mp =>
    rintro ⟨s, w₁, ⟨learns, hw⟩, hb, hw'⟩
    exact ⟨s, learns, hb.symm, hw.trans hw'⟩
  case mpr =>
    rintro ⟨s, learns, hb, hw⟩
    exact ⟨s, w, ⟨learns, rfl⟩, hb.symm, hw⟩

theorem looks_ofExcept {α : Type} (x : Except Failure α) : Looks (Job.ofExcept x) :=
  fun _ => rfl

theorem looks_isFolder (p : Path) : Looks (isFolder p) :=
  (looks_status? p).bind fun _ => looks_pure _

-- One thing only is learnt of a path.
theorem Learns.unique {s t : Option Status} (h : Learns fs p s) (h' : Learns fs p t) : s = t := by
  cases h <;> cases h' <;> grind

theorem Learns.known {s : Status} (h : Learns fs p (some s)) : p.hasNull = false := by
  cases h
  assumption

theorem Learns.run_present {s : Option Status} (h : Learns w.files p s) :
    (present p : Job World.Run Bool).run.run w = (.ok s.isSome, w) :=
  returns_present_iff.mpr ⟨s, h, rfl, rfl⟩

theorem Learns.run_isFolder {s : Status} (h : Learns w.files p (some s)) :
    (isFolder p : Job World.Run Bool).run.run w = (.ok s.isFolder, w) :=
  returns_isFolder_iff.mpr ⟨s, h, rfl, rfl⟩

end Job

namespace Command

open Job

variable {fs : FileSystem} {w w' : World} {a : Arguments}
variable {given : List (Given Text)} {item : Text}

section Items

-- An item that gives a side to a type tag.
def TagsSide (g : Given Text) : Prop :=
  ∃ item, g = .value item ∧ Arguments.isTagSide item

theorem findInvalid?_void : findInvalid? (.void :: given) = .error (.lacks Given.voidTypeName "partition".toList) :=
  rfl

theorem findInvalid?_value : findInvalid? (.value item :: given) =
    if Arguments.isTagSide item then findInvalid? given else .ok (some item) :=
  rfl

theorem findInvalid?_eq_ok_none_iff : findInvalid? given = .ok none ↔ ∀ g ∈ given, TagsSide g := by
  induction given
  case nil => simp [findInvalid?]
  case cons g given ih =>
    rw [List.forall_mem_cons, ← ih]
    cases g
    case void       => simp [findInvalid?_void, TagsSide]
    case value item => cases hs : Arguments.isTagSide item <;> simp [findInvalid?_value, TagsSide, hs]

theorem findInvalid?_eq_ok_some_iff : findInvalid? given = .ok (some item) ↔
    ∃ before after, given = before ++ .value item :: after ∧ (∀ g ∈ before, TagsSide g) ∧
      Arguments.isTagSide item = false := by
  constructor
  case mp =>
    intro h
    induction given
    case nil => cases h
    case cons g given ih =>
      cases g
      case void       => cases h
      case value first =>
        rw [findInvalid?_value] at h
        split at h
        case isTrue hs =>
          obtain ⟨before, after, rfl, good, wrong⟩ := ih h
          exact ⟨.value first :: before, after, rfl, List.forall_mem_cons.mpr ⟨⟨first, rfl, hs⟩, good⟩, wrong⟩
        case isFalse hs =>
          cases h
          exact ⟨[], given, rfl, nofun, by simpa using hs⟩
  case mpr =>
    rintro ⟨before, after, rfl, good, wrong⟩
    induction before
    case nil => simp [findInvalid?_value, wrong]
    case cons g before ih =>
      obtain ⟨⟨first, rfl, hs⟩, rest⟩ := List.forall_mem_cons.mp good
      rw [List.cons_append, findInvalid?_value, if_pos hs]
      exact ih rest

end Items

section Inputs

-- Inputs that are given and lead somewhere.
structure Named (fs : FileSystem) (a : Arguments) (i : Inputs) (s t : Status) : Prop where
  template    : a.template = .value i.template
  there       : Learns fs i.template (some s)
  destination : a.destination = .value i.destination
  there'      : Learns fs i.destination (some t)

-- What comes of the checks of arguments: a complaint or the inputs.
inductive Judges (fs : FileSystem) (a : Arguments) : Except Text Inputs → Prop
  | noTemplate {p : Path} (template : a.template = .value p) (missing : Learns fs p none) :
      Judges fs a (.error ("Template does not exist: ".toList ++ p.toText))
  | noDestination {p q : Path} {s : Status} (template : a.template = .value p) (there : Learns fs p (some s))
      (destination : a.destination = .value q) (missing : Learns fs q none) :
      Judges fs a (.error ("Destination does not exist: ".toList ++ q.toText))
  | unlike {i : Inputs} {s t : Status} (named : Named fs a i s t) (apart : s.isFolder ≠ t.isFolder) :
      Judges fs a (.error "Template and destination must both be files or both be directories".toList)
  | badItem {i : Inputs} {s t : Status} {before after : List (Given Text)} {item : Text}
      (named : Named fs a i s t) (alike : s.isFolder = t.isFolder)
      (items : a.preferTypes = before ++ .value item :: after) (good : ∀ g ∈ before, TagsSide g)
      (bad : Arguments.isTagSide item = false) :
      Judges fs a (.error ("Invalid --prefer-type value: ".toList ++ item
        ++ " (expected TAG=template|destination)".toList))
  | valid {i : Inputs} {s t : Status} (named : Named fs a i s t) (alike : s.isFolder = t.isFolder)
      (good : ∀ g ∈ a.preferTypes, TagsSide g) : Judges fs a (.ok i)

theorem get_eq_ok_iff {α : Type} {g : Given α} {x : α} {feature : String} :
    g.get feature = .ok x ↔ g = .value x := by
  cases g <;> simp [Given.get]

theorem judges_of_inputs {x : Except Text Inputs} (h : Returns (inputs a) w x w') :
    Judges w.files a x ∧ w = w' := by
  have ⟨p, w₁, hp, h⟩ := returns_bind_iff.mp h
  obtain ⟨template, rfl⟩ := returns_ofExcept_iff.mp hp
  have template := get_eq_ok_iff.mp template
  have ⟨_, w₂, hs, h⟩ := returns_bind_iff.mp h
  obtain ⟨s, learns, rfl, rfl⟩ := returns_present_iff.mp hs
  cases s
  case none =>
    obtain ⟨rfl, rfl⟩ := returns_pure_iff.mp h
    exact ⟨.noTemplate template learns, rfl⟩
  case some s =>
    have ⟨q, w₃, hq, h⟩ := returns_bind_iff.mp h
    obtain ⟨destination, rfl⟩ := returns_ofExcept_iff.mp hq
    have destination := get_eq_ok_iff.mp destination
    have ⟨_, w₄, ht, h⟩ := returns_bind_iff.mp h
    obtain ⟨t, learns', rfl, rfl⟩ := returns_present_iff.mp ht
    cases t
    case none =>
      obtain ⟨rfl, rfl⟩ := returns_pure_iff.mp h
      exact ⟨.noDestination template learns destination learns', rfl⟩
    case some t =>
      have named : Named w.files a ⟨p, q⟩ s t := ⟨template, learns, destination, learns'⟩
      have ⟨_, w₅, hs, h⟩ := returns_bind_iff.mp h
      obtain ⟨_, seen, rfl, rfl⟩ := returns_isFolder_iff.mp hs
      cases seen.unique learns
      have ⟨_, w₆, ht, h⟩ := returns_bind_iff.mp h
      obtain ⟨_, seen', rfl, rfl⟩ := returns_isFolder_iff.mp ht
      cases seen'.unique learns'
      split at h
      case isTrue apart =>
        obtain ⟨rfl, rfl⟩ := returns_pure_iff.mp h
        exact ⟨.unlike named (by simpa using apart), rfl⟩
      case isFalse alike =>
        have alike : s.isFolder = t.isFolder := by simpa using alike
        have ⟨found, w₇, hf, h⟩ := returns_bind_iff.mp h
        obtain ⟨found_, rfl⟩ := returns_ofExcept_iff.mp hf
        cases found
        case none =>
          obtain ⟨rfl, rfl⟩ := returns_pure_iff.mp h
          exact ⟨.valid named alike (findInvalid?_eq_ok_none_iff.mp found_), rfl⟩
        case some item =>
          obtain ⟨rfl, rfl⟩ := returns_pure_iff.mp h
          obtain ⟨before, after, items, good, bad⟩ := findInvalid?_eq_ok_some_iff.mp found_
          exact ⟨.badItem named alike items good bad, rfl⟩

theorem inputs_of_judges {x : Except Text Inputs} (h : Judges w.files a x) : Returns (inputs a) w x w := by
  have get {g : Given Path} {p : Path} (h : g = .value p) :
      (Job.ofExcept (g.get "exists") : Job World.Run Path).run.run w = (.ok p, w) :=
    returns_ofExcept_iff.mpr ⟨get_eq_ok_iff.mpr h, rfl⟩
  have items {found : Option Text} (h : findInvalid? a.preferTypes = .ok found) :
      (Job.ofExcept (findInvalid? a.preferTypes) : Job World.Run _).run.run w = (.ok found, w) :=
    returns_ofExcept_iff.mpr ⟨h, rfl⟩
  rw [Returns, inputs]
  cases h
  case noTemplate template missing =>
    simp only [run_bind, get template, missing.run_present]
    rfl
  case noDestination template there destination missing =>
    simp only [run_bind, get template, there.run_present, get destination, missing.run_present, Option.isSome_some,
      Bool.not_true, Bool.false_eq_true, if_false]
    rfl
  case unlike named apart =>
    simp only [run_bind, get named.template, named.there.run_present, get named.destination,
      named.there'.run_present, named.there.run_isFolder, named.there'.run_isFolder, Option.isSome_some,
      Bool.not_true, Bool.false_eq_true, if_false, bne_iff_ne.mpr apart, if_true]
    rfl
  case badItem named alike listed good bad =>
    have found := items (findInvalid?_eq_ok_some_iff.mpr ⟨_, _, listed, good, bad⟩)
    simp only [run_bind, get named.template, named.there.run_present, get named.destination,
      named.there'.run_present, named.there.run_isFolder, named.there'.run_isFolder, Option.isSome_some,
      Bool.not_true, Bool.false_eq_true, if_false, alike, bne_self_eq_false, found]
    rfl
  case valid named alike good =>
    have found := items (findInvalid?_eq_ok_none_iff.mpr good)
    simp only [run_bind, get named.template, named.there.run_present, get named.destination,
      named.there'.run_present, named.there.run_isFolder, named.there'.run_isFolder, Option.isSome_some,
      Bool.not_true, Bool.false_eq_true, if_false, alike, bne_self_eq_false, found]
    rfl

theorem looks_inputs (a : Arguments) : Looks (inputs a) := by
  refine (looks_ofExcept _).bind fun _ => (looks_present _).bind fun _ => .ite (looks_pure _) ?_
  refine (looks_ofExcept _).bind fun _ => (looks_present _).bind fun _ => .ite (looks_pure _) ?_
  refine (looks_isFolder _).bind fun _ => (looks_isFolder _).bind fun _ => .ite (looks_pure _) ?_
  refine (looks_ofExcept _).bind fun found => ?_
  cases found
  all_goals exact looks_pure _

theorem returns_inputs_iff {x : Except Text Inputs} :
    Returns (inputs a) w x w' ↔ Judges w.files a x ∧ w = w' :=
  ⟨judges_of_inputs, fun ⟨h, hw⟩ => hw ▸ inputs_of_judges h⟩

end Inputs

end Command
end EnvMerge
