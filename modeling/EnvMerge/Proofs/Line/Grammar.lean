import EnvMerge.Proofs.Line.Split
import Mathlib

namespace EnvMerge

namespace Key

variable {c : Char} {k : Text}

def IsLetter (c : Char) : Prop :=
  ('A' ≤ c ∧ c ≤ 'Z') ∨ ('a' ≤ c ∧ c ≤ 'z')

def IsDigit (c : Char) : Prop :=
  '0' ≤ c ∧ c ≤ '9'

-- How keys are spelled.
inductive Spelled : Text → Prop
  | intro {c : Char} {t : Text} (first : IsLetter c ∨ c = '_')
      (others : ∀ x ∈ t, IsLetter x ∨ IsDigit x ∨ x = '_') : Spelled (c :: t)

theorem isFirst_iff : isFirst c ↔ IsLetter c ∨ c = '_' := by
  simp [isFirst, IsLetter, Char.isAlpha, Char.isUpper, Char.isLower, Char.le_def]

theorem isOther_iff : isOther c ↔ IsLetter c ∨ IsDigit c ∨ c = '_' := by
  simp [isOther, IsLetter, IsDigit, Char.isAlphanum, Char.isAlpha, Char.isUpper, Char.isLower,
    Char.isDigit, Char.le_def, or_assoc]

theorem valid_iff : valid k ↔ Spelled k := by
  constructor
  case mp =>
    intro h
    cases k
    case nil => cases h
    case cons c t =>
      simp only [valid, Bool.and_eq_true, List.all_eq_true, isFirst_iff, isOther_iff] at h
      exact .intro h.1 h.2
  case mpr =>
    intro ⟨first, others⟩
    simp only [valid, Bool.and_eq_true, List.all_eq_true, isFirst_iff, isOther_iff]
    exact ⟨first, others⟩

theorem toNat_bounds (h : IsLetter c ∨ IsDigit c ∨ c = '_') :
    0x30 ≤ c.toNat ∧ c.toNat ≤ 0x7A ∧ c.toNat ≠ 0x3D := by
  have le_iff (a b : Char) : a ≤ b ↔ a.toNat ≤ b.toNat := Iff.rfl
  simp only [IsLetter, IsDigit, le_iff] at h
  rcases h with (h | h) | h | rfl
  case inr.inr => decide
  all_goals
    simp at h
    omega

namespace Spelled

theorem toNat_bounds (h : Spelled k) (hc : c ∈ k) :
    0x30 ≤ c.toNat ∧ c.toNat ≤ 0x7A ∧ c.toNat ≠ 0x3D := by
  have ⟨first, others⟩ := h
  cases hc
  case head    => exact Key.toNat_bounds (first.imp_right .inr)
  case tail hc => exact Key.toNat_bounds (others c hc)

theorem not_isBlank (h : Spelled k) (hc : c ∈ k) : ¬isBlank c := by
  have bounds := h.toNat_bounds hc
  simp [isBlank, blankRanges]
  omega

theorem not_mem_equals (h : Spelled k) : '=' ∉ k :=
  fun hc => (h.toNat_bounds hc).2.2 rfl

theorem not_mem_numberSign (h : Spelled k) : '#' ∉ k :=
  fun hc => absurd (h.toNat_bounds hc).1 (by decide)

theorem trim_append_append {w w' : Text} (h : Spelled k) (hw : w.Blank) (hw' : w'.Blank) :
    (w ++ k ++ w').trim = k :=
  Text.trim_append_append hw hw' (fun _ hc => h.not_isBlank (List.mem_of_head? hc))
    fun _ hc => h.not_isBlank (List.mem_of_getLast? hc)

theorem ne_nil (h : Spelled k) : k ≠ [] := by
  cases h
  exact List.cons_ne_nil _ _

end Spelled
end Key

namespace Line

-- A key with blanks around it, an equals sign and the text of a value.
structure Binds (t before key behind value : Text) : Prop where
  text_eq     : t = before ++ key ++ behind ++ '=' :: value
  spelled     : Key.Spelled key
  beforeBlank : before.Blank
  behindBlank : behind.Blank

namespace Binds

variable {t k v w w' k' v' x x' : Text} {c : Content}

theorem cutAt?_eq (h : Binds t w k w' v) : t.cutAt? '=' = some (w ++ k ++ w', v) := by
  have apart {u : Text} (hu : u.Blank) : '=' ∉ u := fun hc => absurd (hu _ hc) (by decide)
  refine Text.cutAt?_eq_some_iff.mpr ⟨h.text_eq, ?_⟩
  simp [apart h.beforeBlank, apart h.behindBlank, h.spelled.not_mem_equals]

theorem unique (h : Binds t w k w' v) (h' : Binds t x k' x' v') :
    w = x ∧ k = k' ∧ w' = x' ∧ v = v' := by
  have ⟨left, value⟩ := Prod.mk.inj (Option.some.inj (h.cutAt?_eq.symm.trans h'.cutAt?_eq))
  have key : k = k' := by
    rw [← h.spelled.trim_append_append h.beforeBlank h.behindBlank, left,
      h'.spelled.trim_append_append h'.beforeBlank h'.behindBlank]
  subst key
  -- the key begins with no blank, so the blanks before it end where it begins
  have stop {u u' : Text} (hu : u.Blank) : (u ++ k ++ u').trimStart = k ++ u' := by
    have first : ∀ c ∈ (k ++ u').head?, ¬isBlank c := by
      rw [List.head?_append_of_ne_nil k h.spelled.ne_nil]
      exact fun c hc => h.spelled.not_isBlank (List.mem_of_head? hc)
    rw [List.append_assoc, Text.trimStart_append_of_blank hu, Text.trimStart_eq_self first]
  have behind : w' = x' := by
    have same : (w ++ k ++ w').trimStart = (x ++ k ++ x').trimStart := by rw [left]
    rw [stop h.beforeBlank, stop h'.beforeBlank] at same
    exact List.append_cancel_left same
  subst behind
  exact ⟨List.append_cancel_right (List.append_cancel_right left), rfl, rfl, value⟩

end Binds

variable {raw s t k v w w' k' v' x x' : Text} {e e' : Bool} {n : Int} {c : Content}

theorem assignment?_eq_some_iff :
    assignment? t = some c ↔
      ∃ w k w' v, Binds t w k w' v ∧ c = .assignment k (Value.decode v) := by
  simp only [assignment?, Option.bind_eq_bind, Option.bind_eq_some_iff, Prod.exists]
  constructor
  case mp =>
    intro ⟨left, right, hcut, h⟩
    have ⟨ht, _⟩ := Text.cutAt?_eq_some_iff.mp hcut
    simp only [Option.ite_none_right_eq_some, Option.some.injEq] at h
    have ⟨w, w', hw, hw', hl⟩ := Text.exists_blank_append_trim left
    exact ⟨w, left.trim, w', right, ⟨by rw [ht, ← hl], Key.valid_iff.mp h.1, hw, hw'⟩, h.2.symm⟩
  case mpr =>
    intro ⟨w, k, w', v, h, hc⟩
    refine ⟨_, _, h.cutAt?_eq, ?_⟩
    rw [h.spelled.trim_append_append h.beforeBlank h.behindBlank, if_pos (Key.valid_iff.mpr h.spelled), hc]

-- The word that exports an assignment, with the one space that belongs to it.
def exportWord : Text :=
  ['e', 'x', 'p', 'o', 'r', 't', ' ']

-- The form of an assignment. Blanks before the key are there only behind the word that exports it.
structure Assigns (s : Text) (exported : Bool) (before key behind value : Text) : Prop where
  text_eq      : s = (if exported then exportWord else []) ++ before ++ key ++ behind ++ '=' :: value
  spelled      : Key.Spelled key
  beforeBlank  : before.Blank
  behindBlank  : behind.Blank
  bare         : exported = false → before = []
  exported_iff : exported = true ↔ exportWord <+: s

namespace Assigns

theorem exists_binds (h : Assigns s e w k w' v) :
    ∃ t, s = (if e then exportWord else []) ++ t ∧ Binds t w k w' v :=
  ⟨_, by simpa using h.text_eq, rfl, h.spelled, h.beforeBlank, h.behindBlank⟩

theorem unique (h : Assigns s e w k w' v) (h' : Assigns s e' x k' x' v') :
    e = e' ∧ w = x ∧ k = k' ∧ w' = x' ∧ v = v' := by
  have same : e = e' := Bool.eq_iff_iff.mpr (h.exported_iff.trans h'.exported_iff.symm)
  subst same
  have ⟨t, ht, binds⟩ := h.exists_binds
  have ⟨t', ht', binds'⟩ := h'.exists_binds
  have rest : t = t' := List.append_cancel_left (ht.symm.trans ht')
  subst rest
  exact ⟨rfl, binds.unique binds'⟩

theorem ne_nil (h : Assigns s e w k w' v) : s ≠ [] := by
  simp [h.text_eq]

theorem not_comment (h : Assigns s e w k w' v) : s.head? ≠ some '#' := by
  intro hs
  have ⟨t, ht, binds⟩ := h.exists_binds
  cases e
  case true => simp [ht, exportWord] at hs
  case false =>
    have first : s.head? = k.head? := by
      rw [ht, binds.text_eq, h.bare rfl]
      simp [List.head?_append_of_ne_nil _ h.spelled.ne_nil]
    exact h.spelled.not_mem_numberSign (List.mem_of_head? (first ▸ hs))

end Assigns

-- Behind the export word and without it, a trimmed text assigns what the form says.
theorem assigns_iff (first : ∀ c ∈ s.head?, ¬isBlank c)
    (hs : s = (if e then exportWord else []) ++ t) (he : e = true ↔ exportWord <+: s) :
    Assigns s e w k w' v ↔ Binds t w k w' v := by
  constructor
  case mp =>
    intro h
    have ⟨t', ht', binds⟩ := h.exists_binds
    rwa [List.append_cancel_left (hs.symm.trans ht')]
  case mpr =>
    intro h
    refine ⟨by simp [hs, h.text_eq], h.spelled, h.beforeBlank, h.behindBlank, ?_, he⟩
    intro hf
    cases w
    case nil => rfl
    case cons c w =>
      have head : s.head? = some c := by simp [hs, hf, h.text_eq]
      exact absurd (h.beforeBlank c List.mem_cons_self) (first c head)

-- What is left to read if a trimmed text is neither empty nor a comment.
theorem exists_rest (hb : raw.trim ≠ []) (hc : raw.trim.head? ≠ some '#') :
    ∃ e t, raw.trim = (if e then exportWord else []) ++ t ∧ (e = true ↔ exportWord <+: raw.trim) ∧
      ofRaw raw n = ⟨raw, n, (assignment? t).getD .invalid, e⟩ := by
  cases ha : raw.trim.after? exportWord
  case some t =>
    have ht := Text.after?_eq_some_iff.mp ha
    refine ⟨true, t, by simp [ht], ⟨fun _ => ⟨t, ht.symm⟩, fun _ => rfl⟩, ?_⟩
    rw [exportWord] at ha
    simp [ofRaw, hb, hc, ha]
  case none =>
    have bare : ¬exportWord <+: raw.trim := by
      rintro ⟨t, ht⟩
      cases ha.symm.trans (Text.after?_eq_some_iff.mpr ht.symm)
    refine ⟨false, raw.trim, rfl, by simp [bare], ?_⟩
    rw [exportWord] at ha
    simp [ofRaw, hb, hc, ha]

theorem getD_assignment?_eq_assignment_iff :
    (assignment? t).getD .invalid = .assignment k v ↔
      ∃ w w' u, Binds t w k w' u ∧ v = Value.decode u := by
  constructor
  case mp =>
    intro h
    cases ha : assignment? t <;> rw [ha] at h <;> cases h
    have ⟨w, _, w', u, binds, hc⟩ := assignment?_eq_some_iff.mp ha
    cases hc
    exact ⟨w, w', u, binds, rfl⟩
  case mpr =>
    intro ⟨w, w', u, binds, hv⟩
    rw [assignment?_eq_some_iff.mpr ⟨w, k, w', u, binds, rfl⟩, hv, Option.getD_some]

theorem getD_assignment?_eq_invalid_iff :
    (assignment? t).getD .invalid = .invalid ↔ ∀ w k w' u, ¬Binds t w k w' u := by
  constructor
  case mp =>
    intro h w k w' u binds
    rw [assignment?_eq_some_iff.mpr ⟨w, k, w', u, binds, rfl⟩] at h
    cases h
  case mpr =>
    intro h
    cases ha : assignment? t
    case none   => rfl
    case some c =>
      have ⟨w, k, w', u, binds, _⟩ := assignment?_eq_some_iff.mp ha
      exact absurd binds (h w k w' u)

theorem getD_assignment?_ne :
    (assignment? t).getD .invalid ≠ .blank ∧ (assignment? t).getD .invalid ≠ .comment := by
  cases ha : assignment? t
  case none   => exact ⟨nofun, nofun⟩
  case some c =>
    have ⟨_, _, _, _, _, hc⟩ := assignment?_eq_some_iff.mp ha
    subst hc
    exact ⟨nofun, nofun⟩

theorem ofRaw_of_assigns (h : Assigns raw.trim e w k w' v) :
    ofRaw raw n = ⟨raw, n, .assignment k (Value.decode v), e⟩ := by
  have ⟨e₀, t, ht, he, read⟩ := exists_rest (n := n) h.ne_nil h.not_comment
  have same : e = e₀ := Bool.eq_iff_iff.mpr (h.exported_iff.trans he.symm)
  subst same
  have binds := (assigns_iff (fun _ => Text.not_isBlank_of_head?_trim) ht he).mp h
  rw [read, getD_assignment?_eq_assignment_iff.mpr ⟨w, w', v, binds, rfl⟩]

-- A key that an equals sign follows at once is not the word that exports, which a space follows.
theorem not_exportWord_prefix (h : Key.Spelled k) : ¬exportWord <+: k ++ '=' :: v := by
  intro exports
  have bound : k ++ ['='] <+: k ++ '=' :: v := ⟨v, by simp⟩
  cases List.prefix_or_prefix_of_prefix exports bound
  case inl within =>
    have space : ' ' ∈ k ++ ['='] := within.subset (by decide)
    exact h.not_isBlank (by simpa using space) (by decide)
  case inr within =>
    have equals : '=' ∈ exportWord := within.subset (by simp)
    exact absurd equals (by decide)

theorem assigns_of_spelled (h : Key.Spelled k) : Assigns (k ++ '=' :: v) false [] k [] v where
  text_eq      := by simp
  spelled      := h
  beforeBlank  := List.forall_mem_nil _
  behindBlank  := List.forall_mem_nil _
  bare         := fun _ => rfl
  exported_iff := by simpa using not_exportWord_prefix h

-- Blanks at the end of the line belong to no value.
theorem ofRaw_of_spelled (h : Key.Spelled k) (v : Text) :
    ofRaw (k ++ '=' :: v) n = ⟨k ++ '=' :: v, n, .assignment k (Value.decode v), false⟩ := by
  have first : ∀ c ∈ (k ++ '=' :: v).head?, ¬isBlank c := by
    rw [List.head?_append_of_ne_nil k h.ne_nil]
    exact fun c hc => h.not_isBlank (List.mem_of_head? hc)
  have trimmed : (k ++ '=' :: v).trim = k ++ '=' :: v.trimEnd := by
    rw [Text.trim, Text.trimStart_eq_self first, Text.trimEnd_append_cons (by decide)]
  have same : Value.decode v.trimEnd = Value.decode v := by
    simp only [Value.decode, Text.trim_trimEnd]
  rw [← same]
  apply ofRaw_of_assigns
  rw [trimmed]
  exact assigns_of_spelled h

-- What reading a raw text as the line with the given number must come to.
structure Reads (raw : Text) (n : Int) (l : Line) : Prop where
  raw_eq         : l.raw = raw
  number_eq      : l.number = n
  blank_iff      : l.content = .blank ↔ raw.trim = []
  comment_iff    : l.content = .comment ↔ raw.trim.head? = some '#'
  assignment_iff : ∀ k v e, l.content = .assignment k v ∧ l.exported = e ↔
    ∃ w w' u, Assigns raw.trim e w k w' u ∧ v = Value.decode u
  invalid_iff    : l.content = .invalid ↔
    raw.trim ≠ [] ∧ raw.trim.head? ≠ some '#' ∧ ∀ e w k w' u, ¬Assigns raw.trim e w k w' u
  unique         : ∀ e w k w' u e' x k' x' u', Assigns raw.trim e w k w' u →
    Assigns raw.trim e' x k' x' u' → e = e' ∧ w = x ∧ k = k' ∧ w' = x' ∧ u = u'

theorem reads_of_nil (h : raw.trim = []) : Reads raw n (ofRaw raw n) := by
  have read : ofRaw raw n = ⟨raw, n, .blank, false⟩ := by simp [ofRaw, h]
  have unassigned {e w k w' u} : ¬Assigns raw.trim e w k w' u := fun a => a.ne_nil h
  rw [read]
  exact {
    raw_eq         := rfl
    number_eq      := rfl
    blank_iff      := iff_of_true rfl h
    comment_iff    := by simp [h]
    assignment_iff := by simp [unassigned]
    invalid_iff    := by simp [h]
    unique         := fun _ _ _ _ _ _ _ _ _ _ a a' => a.unique a' }

theorem reads_of_numberSign (h : raw.trim.head? = some '#') : Reads raw n (ofRaw raw n) := by
  have some : raw.trim ≠ [] := by
    intro hn
    simp [hn] at h
  have read : ofRaw raw n = ⟨raw, n, .comment, false⟩ := by simp [ofRaw, h, some]
  have unassigned {e w k w' u} : ¬Assigns raw.trim e w k w' u := fun a => a.not_comment h
  rw [read]
  exact {
    raw_eq         := rfl
    number_eq      := rfl
    blank_iff      := by simp [some]
    comment_iff    := iff_of_true rfl h
    assignment_iff := by simp [unassigned]
    invalid_iff    := by simp [h]
    unique         := fun _ _ _ _ _ _ _ _ _ _ a a' => a.unique a' }

-- Any other text is an assignment if it has the form of one, and invalid if it has not.
theorem reads_of_rest (hb : raw.trim ≠ []) (hc : raw.trim.head? ≠ some '#') :
    Reads raw n (ofRaw raw n) := by
  have ⟨e₀, t, ht, he, read⟩ := exists_rest (n := n) hb hc
  have assigns {w k w' u} : Assigns raw.trim e₀ w k w' u ↔ Binds t w k w' u :=
    assigns_iff (fun _ => Text.not_isBlank_of_head?_trim) ht he
  have only {e w k w' u} (a : Assigns raw.trim e w k w' u) : e = e₀ :=
    Bool.eq_iff_iff.mpr (a.exported_iff.trans he.symm)
  refine ⟨by rw [read], by rw [read], ?blank, ?comment, ?assignment, ?invalid, ?unique⟩
  case blank   => simp [read, hb, getD_assignment?_ne.1]
  case comment => simp [read, hc, getD_assignment?_ne.2]
  case assignment =>
    intro k v e
    rw [read, getD_assignment?_eq_assignment_iff]
    constructor
    case mp =>
      rintro ⟨⟨w, w', u, binds, hv⟩, rfl⟩
      exact ⟨w, w', u, assigns.mpr binds, hv⟩
    case mpr =>
      rintro ⟨w, w', u, a, hv⟩
      have same := only a
      subst same
      exact ⟨⟨w, w', u, assigns.mp a, hv⟩, rfl⟩
  case invalid =>
    rw [read, getD_assignment?_eq_invalid_iff]
    constructor
    case mp =>
      refine fun h => ⟨hb, hc, fun e w k w' u a => ?_⟩
      have same := only a
      subst same
      exact h w k w' u (assigns.mp a)
    case mpr => exact fun ⟨_, _, h⟩ w k w' u binds => h e₀ w k w' u (assigns.mpr binds)
  case unique => exact fun _ _ _ _ _ _ _ _ _ _ a a' => a.unique a'

-- Each raw text is read as the grammar says.
theorem reads_ofRaw (raw : Text) (n : Int) : Reads raw n (ofRaw raw n) := by
  by_cases hb : raw.trim = []
  case pos => exact reads_of_nil hb
  case neg =>
    by_cases hc : raw.trim.head? = some '#'
    case pos => exact reads_of_numberSign hc
    case neg => exact reads_of_rest hb hc

end Line
end EnvMerge
