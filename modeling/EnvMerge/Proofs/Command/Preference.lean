import EnvMerge.Command.Run
import EnvMerge.Proofs.Merge.Preference
import EnvMerge.Proofs.Preference

namespace EnvMerge.Command

open Arguments

variable {a : Arguments} {given : List (Given Text)} {item token tag : Text}
variable {side : Side} {named : TagSides} {p : Text × Side}

-- How a side is given to a tag.
def tagging (p : Text × Side) : Text :=
  p.1 ++ '=' :: p.2.name

-- Tags that can be given a side.
def Taggable (named : TagSides) : Prop :=
  ∀ p ∈ named, p.1 ≠ [] ∧ '=' ∉ p.1

theorem splitTag_tagging (h : '=' ∉ p.1) : splitTag (tagging p) = (p.1, p.2.name) := by
  rw [splitTag, tagging, Text.cutAt?_eq_some_iff.mpr ⟨rfl, h⟩, Option.getD_some]

theorem exists_tagging_of_isTagSide (h : isTagSide item) :
    ∃ p, item = tagging p ∧ p.1 ≠ [] ∧ '=' ∉ p.1 := by
  simp only [isTagSide] at h
  split at h
  case h_2 => cases h
  case h_1 c tag name hc =>
    have ⟨side, hs⟩ := Option.isSome_iff_exists.mp h
    have ⟨he, hn⟩ := Text.cutAt?_eq_some_iff.mp hc
    exact ⟨(c :: tag, side), by rw [he, Side.eq_name_of_ofName? hs, tagging], List.cons_ne_nil _ _, hn⟩

theorem exists_taggings (h : findInvalid? given = .ok none) :
    ∃ named, given = (named.map tagging).map .value ∧ Taggable named := by
  induction given
  case nil => exact ⟨[], rfl, nofun⟩
  case cons g given ih =>
    cases g
    case void => cases h
    case value item =>
      have accepted : isTagSide item ∧ findInvalid? given = .ok none := by
        simp only [findInvalid?, Given.get, bind, Except.bind] at h
        split at h
        case isTrue ht => exact ⟨ht, h⟩
        case isFalse   => cases h
      have ⟨p, he, hp⟩ := exists_tagging_of_isTagSide accepted.1
      have ⟨named, hn, ht⟩ := ih accepted.2
      exact ⟨p :: named, by rw [he, hn, List.map_cons, List.map_cons], List.forall_mem_cons.mpr ⟨hp, ht⟩⟩

-- The side of the last item with the given tag.
def lastSide? (items : List Text) (tag : Text) : Option Side :=
  (items.reverse.find? fun item => (splitTag item).1 = tag).bind fun item =>
    Side.ofName? (splitTag item).2

theorem lastSide?_tagging (h : Taggable named) :
    lastSide? (named.map tagging) tag = named.reverse.lookup tag := by
  have first (ps : TagSides) (hps : ∀ p ∈ ps, '=' ∉ p.1) :
      ((ps.map tagging).find? fun item => (splitTag item).1 = tag).bind
        (fun item => Side.ofName? (splitTag item).2) = ps.lookup tag := by
    induction ps
    case nil => rfl
    case cons p ps ih =>
      have ⟨hp, rest⟩ := List.forall_mem_cons.mp hps
      have ⟨t, s⟩ := p
      have head : splitTag (tagging (t, s)) = (t, s.name) := splitTag_tagging hp
      have cons : List.lookup tag ((t, s) :: ps) = if tag = t then some s else ps.lookup tag :=
        TagSides.get?_cons ..
      rw [List.map_cons, List.find?_cons, head, cons]
      by_cases ht : t = tag
      case pos =>
        rw [decide_eq_true ht, if_pos ht.symm, Option.bind_some, head]
        exact s.ofName?_name
      case neg =>
        rw [decide_eq_false ht, if_neg (Ne.symm ht)]
        exact ih rest
  rw [lastSide?, ← List.map_reverse]
  exact first _ fun p hp => (h p (List.mem_reverse.mp hp)).2

-- The texts of the items that type tags are given sides with.
def Arguments.items (a : Arguments) : List Text :=
  a.preferTypes.filterMap (·.value?)

-- The side that the typed preferences come down to.
def Arguments.winner (a : Arguments) (side : Side) : Side :=
  ((lastSide? a.items "assignment".toList).or (lastSide? a.items TagSides.defaultTag)).getD side

theorem items_eq (h : a.preferTypes = (named.map tagging).map .value) : a.items = named.map tagging := by
  rw [Arguments.items, h, List.filterMap_map]
  exact List.filterMap_some

theorem tagItems_eq (h : a.preferTypes = (named.map tagging).map .value) :
    a.tagItems = .ok (named.map tagging) := by
  rw [tagItems, h, mapM_eq_ok_iff, List.forall₂_map_left_iff, List.forall₂_same]
  exact fun _ _ => rfl

theorem Taggable.nonempty (h : Taggable named) : [] ∉ named.tags := fun hm =>
  have ⟨p, hp, he⟩ := List.mem_map.mp hm
  (h p hp).1 he

-- What the typed preferences start from.
def untyped (side : Side) : TagSides :=
  [(TagSides.defaultTag, side)]

theorem proper_untyped (side : Side) : (untyped side).Proper where
  nodup    := List.nodup_singleton _
  nonempty := fun hm => absurd (List.mem_singleton.mp hm) (List.cons_ne_nil _ _).symm

theorem preferenceSetting_eq (h : Taggable named) (hne : named.map tagging ≠ [])
    (hp : a.preference = .value side) :
    a.preferenceSetting (named.map tagging) = .mapping ((untyped side).putAll named).pairs := by
  let pairOf (item : Text) : Setting × Setting := (.text (splitTag item).1, .text (splitTag item).2)
  have split : (named.map tagging).map pairOf = named.pairs := by
    rw [List.map_map]
    refine List.map_congr_left fun p hp => ?_
    simp only [pairOf, Function.comp_apply, splitTag_tagging (h p hp).2]
  rw [preferenceSetting, if_neg hne, hp, ← TagSides.foldl_put_pairs (proper_untyped side) h.nonempty,
    ← split]
  rfl

-- The options that accepted items make, if there are any.
theorem options_of_items (h : Taggable named) (hne : named.map tagging ≠ [])
    (hn : a.preferTypes = (named.map tagging).map .value) (hp : a.preference = .value side)
    (ht : a.token = .value token) (hb : token.trim ≠ []) :
    a.options = .ok (.byKind ((untyped side).putAll named) a.append token) := by
  have proper : ((untyped side).putAll named).Proper := (proper_untyped side).putAll h.nonempty
  have preference : (a.preferenceSetting (named.map tagging)).toPreference
      = .ok (.byTag ((untyped side).putAll named)) := by
    rw [preferenceSetting_eq h hne hp, Setting.toPreference, TagSides.toTagSides_pairs proper]
    rfl
  have checked : Setting.toToken (.text token) = .ok token := if_neg hb
  rw [Arguments.options, tagItems_eq hn, ht]
  simp only [bind, Except.bind, Settings.toOptions, preference, Given.toSetting, checked, if_neg hne]
  rfl

theorem options_of_no_items (hn : a.preferTypes = []) (hp : a.preference = .value side)
    (ht : a.token = .value token) (hb : token.trim ≠ []) :
    a.options = .ok (.oneSided side a.append token) := by
  have preference : (a.preferenceSetting []).toPreference = .ok (.fixed side) := by
    simp only [preferenceSetting, if_true, hp, Given.toSetting, Setting.toPreference, Setting.toSide,
      Side.ofText?_name]
    rfl
  have checked : Setting.toToken (.text token) = .ok token := if_neg hb
  rw [Arguments.options, tagItems, hn, ht]
  simp only [List.mapM_nil, pure, Except.pure, bind, Except.bind, Settings.toOptions, preference,
    Given.toSetting, checked]
  rfl

-- Of all that is named only the last side for assignments counts, or else the last default.
theorem forAssignments_putAll (h : Taggable named)
    (hn : a.preferTypes = (named.map tagging).map .value) :
    ((untyped side).putAll named).forAssignments = a.winner side := by
  have assignment : (untyped side).get? "assignment".toList = none := rfl
  have standard : (untyped side).get? TagSides.defaultTag = some side := rfl
  rw [TagSides.forAssignments, winner, items_eq hn, lastSide?_tagging h, lastSide?_tagging h,
    TagSides.get?_putAll, TagSides.get?_putAll, assignment, standard]
  cases named.reverse.lookup "assignment".toList <;> cases named.reverse.lookup TagSides.defaultTag <;> rfl

theorem exists_options_alike (accepted : findInvalid? a.preferTypes = .ok none)
    (hp : a.preference = .value side) (ht : a.token = .value token) (hb : token.trim ≠ []) :
    ∃ o, a.options = .ok o ∧ o.Answers ∧ o.Alike (.oneSided (a.winner side) a.append token) := by
  have ⟨named, hn, taggable⟩ := exists_taggings accepted
  by_cases hne : named.map tagging = []
  case neg =>
    refine ⟨_, options_of_items taggable hne hn hp ht hb, Options.byKind_answers, ?_⟩
    exact forAssignments_putAll taggable hn ▸ Options.byKind_alike
  case pos =>
    rw [hne] at hn
    have same : a.winner side = side := by
      rw [winner, items, hn]
      rfl
    refine ⟨_, options_of_no_items hn hp ht hb, Options.oneSided_answers, ?_⟩
    rw [same]
    exact .refl rfl

-- Whatever types are given sides, every merge is one that the same side wins throughout.
theorem exists_options_oneSided (accepted : findInvalid? a.preferTypes = .ok none)
    (hp : a.preference = .value side) (ht : a.token = .value token) (hb : token.trim ≠ []) :
    ∃ o, a.options = .ok o ∧
      (∀ template destination, Merge.outcome o template destination
        = Merge.outcome (.oneSided (a.winner side) a.append token) template destination) ∧
      ∀ template destination text text', template.decode = .ok text → destination.decode = .ok text' →
        ∃ r, Merge.Yields o template destination r ∧
          Merge.Yields (.oneSided (a.winner side) a.append token) template destination r := by
  have ⟨o, ho, answers, alike⟩ := exists_options_alike accepted hp ht hb
  refine ⟨o, ho, fun _ _ => Merge.outcome_alike alike answers, ?_⟩
  intro template destination text text' htext htext'
  have ⟨r, hr⟩ := Merge.exists_yields answers (Document.ofSource_of_decode o.token htext)
    (Document.ofSource_of_decode o.token htext')
  have same := Merge.yields_iff_outcome_eq.mp hr
  exact ⟨r, hr, Merge.yields_iff_outcome_eq.mpr (Merge.outcome_alike alike answers ▸ same)⟩

-- Arguments with the given preference and items, all else as it is by default.
def preferring (side : Side) (items : List String) : Arguments :=
  { standard (.value (.ofText ['t'])) (.value (.ofText ['d'])) with
    preference  := .value side
    preferTypes := items.map fun item => .value item.toList }

def manyItems : List String :=
  ["assignment=destination", "comment=destination", "assignment=template", "default=destination"]

theorem exists_options_oneSided_of_many_items :
    findInvalid? (preferring .destination manyItems).preferTypes = .ok none ∧
      (preferring .destination manyItems).winner .destination = .template ∧
      ∃ o r, (preferring .destination manyItems).options = .ok o ∧
        Merge.Yields o (.text "A=1\nB=2\n".toList) (.text "A=0\n".toList) r ∧ r.lines = ["A=1".toList] := by
  have accepted : findInvalid? (preferring .destination manyItems).preferTypes = .ok none := rfl
  have winner : (preferring .destination manyItems).winner .destination = .template := by decide +kernel
  have ⟨o, ho, _, merges⟩ := exists_options_oneSided accepted rfl rfl (by decide)
  have ⟨r, yields, same⟩ := merges (.text "A=1\nB=2\n".toList) (.text "A=0\n".toList) _ _ rfl rfl
  have ⟨r', yields', lines⟩ : ∃ r', Merge.Yields (.oneSided .template false Document.defaultToken)
      (.text "A=1\nB=2\n".toList) (.text "A=0\n".toList) r' ∧ _ :=
    Merge.exists_lines_eq Options.oneSided_answers rfl rfl rfl
  rw [winner] at same
  cases (Merge.yields_iff_outcome_eq.mp same).symm.trans (Merge.yields_iff_outcome_eq.mp yields')
  exact ⟨accepted, winner, o, r, ho, yields, lines.trans (by decide +kernel)⟩

end EnvMerge.Command
