import EnvMerge.Options
import Mathlib.Data.List.Nodup

namespace EnvMerge

namespace Side

variable {t : Text} {s : Side}

theorem eq_name_of_ofName? (h : ofName? t = some s) : t = s.name := by
  simp only [ofName?] at h
  split at h
  case isTrue ht =>
    cases h
    exact ht
  case isFalse =>
    split at h <;> cases h
    assumption

theorem ofText?_name (s : Side) : ofText? s.name = some s := by
  cases s <;> decide +kernel

end Side

namespace TagSides

variable {sides named : TagSides} {tag tag' : Text} {side : Side} {p : Text × Side}

def tags (sides : TagSides) : List Text :=
  sides.map (·.1)

-- Names tag after tag with its side.
def putAll (sides named : TagSides) : TagSides :=
  named.foldl (fun sides p => sides.put p.1 p.2) sides

theorem get?_cons (t : Text) (s : Side) (sides : TagSides) (tag : Text) :
    get? ((t, s) :: sides) tag = if tag = t then some s else sides.get? tag := by
  rw [get?, List.lookup_cons]
  cases hb : tag == t
  case true  => rw [if_pos (eq_of_beq hb)]
  case false => rw [if_neg (ne_of_beq_false hb), get?]

theorem get?_put (sides : TagSides) (tag tag' : Text) (side : Side) :
    (sides.put tag side).get? tag' = if tag' = tag then some side else sides.get? tag' := by
  induction sides
  case nil => exact get?_cons ..
  case cons p sides ih =>
    have ⟨t, s⟩ := p
    rw [put]
    split
    case isTrue ht =>
      rw [ht, get?_cons, get?_cons]
      by_cases h : tag' = tag <;> simp only [h, if_true, if_false]
    case isFalse ht =>
      rw [get?_cons, get?_cons, ih]
      by_cases h : tag' = t
      case pos => simp only [h, if_true, if_neg ht]
      case neg => simp only [h, if_false]

-- What was named last counts.
theorem get?_putAll (sides named : TagSides) (tag : Text) :
    (sides.putAll named).get? tag = (named.reverse.lookup tag).or (sides.get? tag) := by
  induction named generalizing sides
  case nil => rfl
  case cons p named ih =>
    have ⟨t, s⟩ := p
    have last : List.lookup tag [(t, s)] = if tag = t then some s else none := get?_cons ..
    rw [putAll, List.foldl_cons, ← putAll, ih, get?_put, List.reverse_cons, List.lookup_append,
      Option.or_assoc, last]
    by_cases h : tag = t <;> simp only [h, if_true, if_false, Option.some_or, Option.none_or]

theorem put_of_not_mem (h : tag ∉ sides.tags) : sides.put tag side = sides ++ [(tag, side)] := by
  induction sides
  case nil => rfl
  case cons p sides ih =>
    have ⟨t, s⟩ := p
    have ⟨ht, hs⟩ := List.ne_and_not_mem_of_not_mem_cons h
    rw [put, if_neg (Ne.symm ht), ih hs, List.cons_append]

-- What `put` makes of a pair whose tag may be named again.
def replace (tag : Text) (side : Side) (p : Text × Side) : Text × Side :=
  if p.1 = tag then (p.1, side) else p

theorem replace_fst (tag : Text) (side : Side) (p : Text × Side) : (replace tag side p).1 = p.1 := by
  rw [replace]
  split <;> rfl

theorem map_replace_of_not_mem (h : tag ∉ sides.tags) : sides.map (replace tag side) = sides := by
  refine (List.map_congr_left fun p hp => if_neg fun he => ?_).trans (List.map_id _)
  exact h (List.mem_map.mpr ⟨p, hp, he⟩)

theorem put_of_mem (nodup : sides.tags.Nodup) (h : tag ∈ sides.tags) :
    sides.put tag side = sides.map (replace tag side) := by
  induction sides
  case nil => cases h
  case cons p sides ih =>
    have ⟨t, s⟩ := p
    have ⟨fresh, rest⟩ := List.nodup_cons.mp nodup
    rw [put, List.map_cons]
    split
    case isTrue ht  =>
      subst ht
      rw [map_replace_of_not_mem fresh, replace, if_pos rfl]
    case isFalse ht =>
      have mem := (List.mem_cons.mp h).resolve_left (Ne.symm ht)
      rw [ih rest mem, replace, if_neg ht]

theorem tags_put (h : sides.tags.Nodup) :
    (sides.put tag side).tags = if tag ∈ sides.tags then sides.tags else sides.tags ++ [tag] := by
  split
  case isTrue hm =>
    rw [put_of_mem h hm, tags, List.map_map]
    exact List.map_congr_left fun p _ => replace_fst tag side p
  case isFalse hm => rw [put_of_not_mem hm, tags, List.map_append, List.map_singleton, tags]

-- No tag is named twice, and none is empty.
structure Proper (sides : TagSides) : Prop where
  nodup    : sides.tags.Nodup
  nonempty : [] ∉ sides.tags

theorem Proper.put (h : sides.Proper) (hne : [] ≠ tag) : (sides.put tag side).Proper := by
  have tags : (sides.put tag side).tags = if tag ∈ sides.tags then sides.tags else sides.tags ++ [tag] :=
    tags_put h.nodup
  split at tags
  case isTrue       => exact ⟨tags ▸ h.nodup, tags ▸ h.nonempty⟩
  case isFalse hout =>
    refine ⟨tags ▸ h.nodup.append (List.nodup_singleton _) (by simpa using hout), tags ▸ ?_⟩
    simpa using ⟨h.nonempty, Ne.symm hne⟩

theorem Proper.putAll (h : sides.Proper) (hne : [] ∉ named.tags) : (sides.putAll named).Proper := by
  induction named generalizing sides
  case nil             => exact h
  case cons p named ih =>
    have ⟨hp, hn⟩ := List.ne_and_not_mem_of_not_mem_cons hne
    exact ih (h.put hp) hn

-- A mapping from tags to the names of their sides.
def pairs (sides : TagSides) : List (Setting × Setting) :=
  sides.map fun p => (.text p.1, .text p.2.name)

theorem key_text_beq (t tag : Text) :
    ((.text t : Setting).key == (.text tag : Setting).key) = decide (t = tag) := by
  rw [Bool.eq_iff_iff, beq_iff_eq, decide_eq_true_eq, Datum.key, Datum.key, List.singleton_inj,
    Datum.Sign.text.injEq]

-- A mapping that is built pair by pair keeps one pair for each tag, as `put` does.
theorem put_pairs (h : sides.tags.Nodup) :
    Datum.ofPairs.put sides.pairs (.text tag, .text side.name) = (sides.put tag side).pairs := by
  have named : sides.pairs.any (fun p => p.1.key == (.text tag : Setting).key)
      = decide (tag ∈ sides.tags) := by
    rw [Bool.eq_iff_iff, decide_eq_true_eq]
    simp [pairs, tags, key_text_beq]
  rw [Datum.ofPairs.put, named]
  by_cases hm : tag ∈ sides.tags
  case pos =>
    rw [put_of_mem h hm, if_pos (decide_eq_true hm), pairs, pairs, List.map_map, List.map_map]
    refine List.map_congr_left fun p _ => ?_
    simp only [Function.comp_apply, key_text_beq, replace, decide_eq_true_eq]
    split <;> rfl
  case neg =>
    rw [put_of_not_mem hm, if_neg (by simpa using hm), pairs, pairs, List.map_append]
    rfl

theorem foldl_put_pairs (h : sides.Proper) (hne : [] ∉ named.tags) :
    (pairs named).foldl Datum.ofPairs.put sides.pairs = (sides.putAll named).pairs := by
  induction named generalizing sides
  case nil => rfl
  case cons p named ih =>
    have ⟨hp, hn⟩ := List.ne_and_not_mem_of_not_mem_cons hne
    exact (congrArg ((pairs named).foldl Datum.ofPairs.put) (put_pairs h.nodup)).trans (ih (h.put hp) hn)

theorem toTagSides_append_pairs (h : Proper (sides ++ named)) :
    Setting.toTagSides sides (pairs named) = .ok (sides ++ named) := by
  induction named generalizing sides
  case nil => rw [List.append_nil, pairs, List.map_nil, Setting.toTagSides]
  case cons p named ih =>
    have ⟨t, s⟩ := p
    have ⟨nodup, nonempty⟩ := h
    rw [tags, List.map_append] at nodup nonempty
    have fresh : t ∉ sides.tags := fun hm => (List.nodup_append.mp nodup).2.2 t hm t List.mem_cons_self rfl
    have ⟨c, t', he⟩ : ∃ c t', t = c :: t' :=
      List.exists_cons_of_ne_nil fun he => nonempty (List.mem_append_right _ (he ▸ List.mem_cons_self))
    have tag : Setting.toTag (.text t) = .ok t := by
      subst he
      rfl
    have side : Setting.toSide (.text s.name) = .ok s := by
      rw [Setting.toSide, Side.ofText?_name]
    have step : Setting.toTagSides sides (pairs ((t, s) :: named))
        = Setting.toTagSides (sides.put t s) (pairs named) := by
      simp only [pairs, List.map_cons, Setting.toTagSides, tag, side, bind, Except.bind]
    rw [List.append_cons] at h ⊢
    rw [step, put_of_not_mem fresh, ih h]

-- What has been built pair by pair passes the check as it is.
theorem toTagSides_pairs (h : sides.Proper) : Setting.toTagSides [] sides.pairs = .ok sides :=
  toTagSides_append_pairs h

end TagSides

end EnvMerge
