import EnvMerge.Proofs.Line.Grammar

namespace EnvMerge.Value

variable {x : Char} {s t u v p w c rest : Text}

-- Whether no blank stands right before a number sign.
def Uncommented (t : Text) : Prop :=
  t.IsChain fun x y => isBlank x → y ≠ '#'

instance : DecidablePred Uncommented :=
  fun t => inferInstanceAs (Decidable (t.IsChain _))

-- Blanks, a number sign and whatever stands behind it.
structure Comment (t blanks behind : Text) : Prop where
  text_eq : t = blanks ++ '#' :: behind
  some    : blanks ≠ []
  blank   : blanks.Blank

def IsComment (t : Text) : Prop :=
  ∃ blanks behind, Comment t blanks behind

-- Whether a text can be a value without quotes.
structure Bare (t : Text) : Prop where
  uncommented : Uncommented t
  last        : ∀ c ∈ t.getLast?, ¬isBlank c

theorem isComment_cons_iff : IsComment (x :: t) ↔ isBlank x ∧ (Text.trimStart t).head? = some '#' := by
  constructor
  case mp =>
    intro ⟨w, c, h⟩
    have ⟨y, w', hw⟩ := List.exists_cons_of_ne_nil h.some
    subst hw
    have ⟨blank, rest⟩ := List.forall_mem_cons.mp h.blank
    have ⟨hx, ht⟩ : x = y ∧ t = w' ++ '#' :: c := List.cons.inj h.text_eq
    rw [hx, ht, Text.trimStart_append_of_blank rest, Text.trimStart_cons_of_not_isBlank Text.not_isBlank_numberSign]
    exact ⟨blank, rfl⟩
  case mpr =>
    intro ⟨hx, ht⟩
    have ⟨w, hw, he⟩ := Text.exists_blank_append_trimStart t
    have ⟨c, hc⟩ := List.head?_eq_some_iff.mp ht
    refine ⟨x :: w, c, ?_, List.cons_ne_nil x w, List.forall_mem_cons.mpr ⟨hx, hw⟩⟩
    rw [List.cons_append, ← hc, ← he]

theorem IsComment.append (h : IsComment t) (s : Text) : IsComment (t ++ s) := by
  have ⟨w, c, h⟩ := h
  refine ⟨w, c ++ s, ?_, h.some, h.blank⟩
  rw [h.text_eq, List.append_assoc, List.cons_append]

theorem IsComment.cons (h : IsComment t) (hx : isBlank x) : IsComment (x :: t) := by
  have ⟨w, c, h⟩ := h
  refine ⟨x :: w, c, ?_, List.cons_ne_nil x w, List.forall_mem_cons.mpr ⟨hx, h.blank⟩⟩
  rw [h.text_eq, List.cons_append]

-- What begins like a comment and reaches behind its blanks is a comment.
theorem IsComment.of_prefix (h : IsComment t) (hs : s <+: t) (some : ¬s.Blank) : IsComment s := by
  have ⟨w, c, h⟩ := h
  rw [h.text_eq] at hs
  cases List.prefix_or_prefix_of_prefix hs (List.prefix_append w ('#' :: c))
  case inl blanks => exact absurd (fun y hy => h.blank y (blanks.subset hy)) some
  case inr behind =>
    have ⟨y, hy⟩ := behind
    subst hy
    cases y
    case nil => exact absurd (by simpa using h.blank) some
    case cons y z =>
      have ⟨sign, _⟩ := List.cons_prefix_cons.mp ((List.prefix_append_right_inj w).mp hs)
      subst sign
      exact ⟨w, z, rfl, h.some, h.blank⟩

theorem not_uncommented_of_isComment (h : IsComment rest) (v : Text) : ¬Uncommented (v ++ rest) := by
  have ⟨w, c, h⟩ := h
  intro uncommented
  rw [h.text_eq, ← List.append_assoc] at uncommented
  have ⟨_, _, apart⟩ := List.isChain_append.mp uncommented
  have last : w.getLast h.some ∈ (v ++ w).getLast? := by
    rw [List.getLast?_append_of_ne_nil v h.some]
    exact List.getLast_mem_getLast? h.some
  exact apart _ last '#' rfl (h.blank _ (List.getLast_mem h.some)) rfl

theorem Uncommented.cons (h : Uncommented t) (hx : ¬IsComment (x :: t)) : Uncommented (x :: t) := by
  refine List.isChain_cons.mpr ⟨fun y hy blank he => hx ?_, h⟩
  subst he
  have ⟨c, hc⟩ := List.head?_eq_some_iff.mp hy
  rw [isComment_cons_iff, hc, Text.trimStart_cons_of_not_isBlank Text.not_isBlank_numberSign]
  exact ⟨blank, rfl⟩

theorem Bare.not_blank_of_append (h : Bare (v ++ s)) (hs : s ≠ []) : ¬s.Blank := by
  have last : s.getLast hs ∈ (v ++ s).getLast? := by
    rw [List.getLast?_append_of_ne_nil v hs]
    exact List.getLast_mem_getLast? hs
  exact fun blank => h.last _ last (blank _ (List.getLast_mem hs))

-- A value without quotes does not reach into a comment.
theorem Bare.prefix_of_prefix_append (h : Bare u) (hr : IsComment rest) (hu : u <+: v ++ rest) : u <+: v := by
  cases List.prefix_or_prefix_of_prefix hu (List.prefix_append v rest)
  case inl within => exact within
  case inr beyond =>
    have ⟨s, hs⟩ := beyond
    subst hs
    by_cases empty : s = []
    case pos => rw [empty, List.append_nil]
    case neg =>
      have within := (List.prefix_append_right_inj v).mp hu
      have comment := hr.of_prefix within (h.not_blank_of_append empty)
      exact absurd h.uncommented (not_uncommented_of_isComment comment v)

theorem Bare.cons (h : Bare v) (hr : IsComment rest) (hx : ¬IsComment (x :: (v ++ rest))) : Bare (x :: v) where
  uncommented := h.uncommented.cons fun hc => hx (hc.append rest)
  last        := by
    cases v
    case nil =>
      intro y hy blank
      cases hy
      exact hx (hr.cons blank)
    case cons => exact h.last

theorem exists_of_beforeComment? (h : beforeComment? t = some v) :
    Bare v ∧ ∃ rest, IsComment rest ∧ t = v ++ rest := by
  induction t generalizing v
  case nil => cases h
  case cons x t ih =>
    rw [beforeComment?] at h
    split at h
    case isTrue found =>
      cases h
      exact ⟨⟨List.isChain_nil, nofun⟩, x :: t, isComment_cons_iff.mpr found, rfl⟩
    case isFalse later =>
      have ⟨v', before, hv⟩ := Option.map_eq_some_iff.mp h
      have ⟨bare, rest, comment, ht⟩ := ih before
      subst hv ht
      exact ⟨bare.cons comment (mt isComment_cons_iff.mp later), rest, comment, rfl⟩

theorem uncommented_of_beforeComment? (h : beforeComment? t = none) : Uncommented t := by
  induction t
  case nil => exact List.isChain_nil
  case cons x t ih =>
    rw [beforeComment?] at h
    split at h
    case isTrue        => cases h
    case isFalse later =>
      exact (ih (Option.map_eq_none_iff.mp h)).cons (mt isComment_cons_iff.mp later)

theorem dropComment_of_uncommented (h : Uncommented t) : dropComment t = t := by
  cases hb : beforeComment? t
  case none => rw [dropComment, hb]
  case some v =>
    have ⟨_, rest, comment, ht⟩ := exists_of_beforeComment? hb
    exact absurd (ht ▸ h) (not_uncommented_of_isComment comment v)

-- Dropping the comment of a text without blanks around it leaves a value, and nothing but the comment
-- goes.
theorem exists_eq_dropComment_append (first : ∀ c ∈ t.head?, ¬isBlank c) (last : ∀ c ∈ t.getLast?, ¬isBlank c) :
    Bare (dropComment t) ∧ ∃ rest, t = dropComment t ++ rest ∧ (rest = [] ∨ IsComment rest) := by
  cases hb : beforeComment? t
  case none =>
    have uncommented := uncommented_of_beforeComment? hb
    rw [dropComment_of_uncommented uncommented]
    exact ⟨⟨uncommented, last⟩, [], (List.append_nil t).symm, .inl rfl⟩
  case some v =>
    have ⟨bare, rest, comment, ht⟩ := exists_of_beforeComment? hb
    have trimmed : v.trim = v := by
      apply Text.trim_eq_self
      case first =>
        intro c hc
        apply first
        rw [ht, List.head?_append, Option.mem_def.mp hc]
        rfl
      case last => exact bare.last
    have dropped : dropComment t = v := by simp only [dropComment, hb, trimmed]
    rw [dropped]
    exact ⟨bare, rest, ht, .inr comment⟩

-- The longest part of a text, from its front, that can be a value without quotes.
structure LongestBare (t v : Text) : Prop where
  isPrefix : v <+: t
  bare     : Bare v
  longest  : ∀ u, u <+: t → Bare u → u.length ≤ v.length

theorem Bare.longestBare (h : Bare t) : LongestBare t t :=
  ⟨List.prefix_refl t, h, fun _ hu _ => hu.length_le⟩

theorem Bare.longestBare_append (h : Bare v) (hr : IsComment rest) : LongestBare (v ++ rest) v :=
  ⟨List.prefix_append v rest, h, fun _ hu hb => (hb.prefix_of_prefix_append hr hu).length_le⟩

theorem longestBare_dropComment (first : ∀ c ∈ t.head?, ¬isBlank c) (last : ∀ c ∈ t.getLast?, ¬isBlank c) :
    LongestBare t (dropComment t) := by
  have ⟨bare, rest, ht, ended⟩ := exists_eq_dropComment_append first last
  cases ended
  case inl ended =>
    have whole : dropComment t = t := by rw [ended, List.append_nil] at ht; exact ht.symm
    rw [whole] at bare ⊢
    exact bare.longestBare
  case inr comment =>
    have longest := bare.longestBare_append comment
    rwa [← ht] at longest

theorem LongestBare.unique (h : LongestBare t v) (h' : LongestBare t u) : v = u := by
  have same := Nat.le_antisymm (h'.longest v h.isPrefix h.bare) (h.longest u h'.isPrefix h'.bare)
  exact (List.prefix_of_prefix_length_le h.isPrefix h'.isPrefix same.le).eq_of_length same

theorem enclosedBy_eq_true_iff : enclosedBy x t = true ↔ t.head? = some x ∧ t.getLast? = some x := by
  simp [enclosedBy]

-- Whether no quote is both at the beginning and at the end.
structure Unquoted (t : Text) : Prop where
  double : ¬(t.head? = some '"' ∧ t.getLast? = some '"')
  single : ¬(t.head? = some '\'' ∧ t.getLast? = some '\'')

theorem decode_of_unquoted (h : Unquoted v.trim) : decode v = dropComment v.trim := by
  have double : ¬enclosedBy '"' v.trim  := mt enclosedBy_eq_true_iff.mp h.double
  have single : ¬enclosedBy '\'' v.trim := mt enclosedBy_eq_true_iff.mp h.single
  simp only [decode, double, single, Bool.false_eq_true, if_false]

theorem longestBare_decode (h : Unquoted v.trim) : LongestBare v.trim (decode v) := by
  rw [decode_of_unquoted h]
  apply longestBare_dropComment
  case first => exact fun _ => Text.not_isBlank_of_head?_trim
  case last  => exact fun _ => Text.not_isBlank_of_getLast?_trim

-- Without quotes around it, a value is cut at the right place, and nothing is left in it to cut.
theorem longestBare_decode_and_settled (h : Unquoted v.trim) :
    LongestBare v.trim (decode v) ∧ dropComment (decode v) = decode v := by
  have longest := longestBare_decode h
  exact ⟨longest, dropComment_of_uncommented longest.bare.uncommented⟩

example : decode "8080   # port".toList = "8080".toList ∧ decode "page#top".toList = "page#top".toList := by
  decide

-- A quote at either end, number signs within words, and a comment in the comment.
def mixedValue : Text :=
  "\t'a#b ##c#\u2003 # d # e\" ".toList

theorem longestBare_of_mixed_value :
    Unquoted mixedValue.trim ∧ decode mixedValue = "'a#b".toList ∧
      LongestBare mixedValue.trim (decode mixedValue) ∧ dropComment (decode mixedValue) = decode mixedValue := by
  have unquoted : Unquoted mixedValue.trim := ⟨by decide, by decide⟩
  exact ⟨unquoted, by decide, longestBare_decode_and_settled unquoted⟩

-- Whether a comment behind the text of a value is no part of the value, whichever line assigns it.
structure LeavesOut (p comment : Text) : Prop where
  value : decode (p ++ comment) = p.trim
  line  : ∀ k n, Key.valid k → (Line.ofRaw (k ++ '=' :: (p ++ comment)) n).content = .assignment k p.trim

theorem trim_append_comment (h : IsComment t) (hp : ¬p.Blank) :
    ∃ rest, IsComment rest ∧ (p ++ t).trim = p.trim ++ rest := by
  have ⟨w, c, h⟩ := h
  have ⟨w', blank, he⟩ := Text.exists_trimEnd_append_blank p.trimStart
  refine ⟨w' ++ w ++ '#' :: c.trimEnd, ⟨w' ++ w, c.trimEnd, rfl, ?some, ?blank⟩, ?eq⟩
  case some  => exact List.append_ne_nil_of_right_ne_nil w' h.some
  case blank => exact List.forall_mem_append.mpr ⟨blank, h.blank⟩
  case eq =>
    calc (p ++ t).trim
      _ = (p.trimStart ++ t).trimEnd                     := by rw [Text.trim, Text.trimStart_append_of_not_blank hp]
      _ = (p.trim ++ w' ++ (w ++ '#' :: c)).trimEnd      := by rw [h.text_eq, Text.trim, ← he]
      _ = (p.trim ++ (w' ++ w) ++ '#' :: c).trimEnd      := by simp only [List.append_assoc]
      _ = p.trim ++ (w' ++ w) ++ '#' :: c.trimEnd        := Text.trimEnd_append_cons Text.not_isBlank_numberSign
      _ = p.trim ++ (w' ++ w ++ '#' :: c.trimEnd)        := List.append_assoc ..

-- Without a value in front of it, a comment is taken for the value.
theorem trim_append_comment_of_blank (h : Comment t w c) (hp : p.Blank) : (p ++ t).trim = '#' :: c.trimEnd := by
  rw [h.text_eq, Text.trim, Text.trimStart_append_of_blank hp, Text.trimStart_append_of_blank h.blank,
    Text.trimStart_cons_of_not_isBlank Text.not_isBlank_numberSign]
  exact Text.trimEnd_append_cons (s := []) Text.not_isBlank_numberSign

theorem decode_append_comment (double : p.trim.head? ≠ some '"') (single : p.trim.head? ≠ some '\'')
    (uncommented : Uncommented p.trim) (comment : IsComment t) (hp : ¬p.Blank) : decode (p ++ t) = p.trim := by
  have ⟨rest, comment, he⟩ := trim_append_comment comment hp
  have bare : Bare p.trim := ⟨uncommented, fun _ => Text.not_isBlank_of_getLast?_trim⟩
  have first : (p ++ t).trim.head? = p.trim.head? := by
    rw [he, List.head?_append_of_ne_nil p.trim (mt Text.trim_eq_nil_iff.mp hp)]
  have unquoted : Unquoted (p ++ t).trim := ⟨fun h => double (first ▸ h.1), fun h => single (first ▸ h.1)⟩
  have longest := longestBare_decode unquoted
  rw [he] at longest
  exact longest.unique (bare.longestBare_append comment)

theorem bare_numberSign : Bare ['#'] where
  uncommented := List.isChain_singleton '#'
  last        := by simp [Text.not_isBlank_numberSign]

theorem decode_append_comment_ne_nil (comment : IsComment t) (hp : p.Blank) : decode (p ++ t) ≠ [] := by
  have ⟨w, c, comment⟩ := comment
  have he := trim_append_comment_of_blank comment hp
  have unquoted : Unquoted (p ++ t).trim := by
    rw [he]
    exact ⟨nofun, nofun⟩
  have sign : ['#'] <+: (p ++ t).trim := ⟨c.trimEnd, he.symm⟩
  have longer := (longestBare_decode unquoted).longest ['#'] sign bare_numberSign
  exact List.ne_nil_of_length_pos longer

-- A comment behind a value is left out of it if and only if there is a value.
theorem leavesOut_iff (double : p.trim.head? ≠ some '"') (single : p.trim.head? ≠ some '\'')
    (uncommented : Uncommented p.trim) (comment : IsComment t) : LeavesOut p t ↔ ¬p.Blank := by
  constructor
  case mp =>
    intro h blank
    apply decode_append_comment_ne_nil comment blank
    rw [h.value, Text.trim_eq_nil_of_blank blank]
  case mpr =>
    intro some
    have value := decode_append_comment double single uncommented comment some
    refine ⟨value, fun k n valid => ?_⟩
    rw [Line.ofRaw_of_spelled (Key.valid_iff.mp valid), value]

-- A number sign within a word, and a comment that ends like a text in quotes.
def signedValue : Text :=
  " a#b\r".toList

def quotingComment : Text :=
  "\t# 'c' \"d\"".toList

theorem leavesOut_of_signed_value :
    signedValue.trim.head? ≠ some '"' ∧ signedValue.trim.head? ≠ some '\'' ∧ Uncommented signedValue.trim ∧
      IsComment quotingComment ∧ ¬signedValue.Blank ∧ LeavesOut signedValue quotingComment := by
  have double : signedValue.trim.head? ≠ some '"'  := by decide
  have single : signedValue.trim.head? ≠ some '\'' := by decide
  have uncommented : Uncommented signedValue.trim := by decide
  have comment : IsComment quotingComment :=
    ⟨['\t'], " 'c' \"d\"".toList, rfl, List.cons_ne_nil _ _, List.forall_mem_singleton.mpr (by decide)⟩
  have some : ¬signedValue.Blank := mt Text.trim_eq_nil_iff.mpr (by decide)
  exact ⟨double, single, uncommented, comment, some, (leavesOut_iff double single uncommented comment).mpr some⟩

def missingValue : Text :=
  []

def spacedComment : Text :=
  " # comment".toList

-- The comment becomes the value.
theorem not_leavesOut_of_missing_value :
    missingValue.trim.head? ≠ some '"' ∧ missingValue.trim.head? ≠ some '\'' ∧ Uncommented missingValue.trim ∧
      IsComment spacedComment ∧ ¬LeavesOut missingValue spacedComment ∧
      (Line.ofRaw "KEY= # comment".toList 1).content = .assignment "KEY".toList "# comment".toList := by
  have comment : IsComment spacedComment :=
    ⟨[' '], " comment".toList, rfl, List.cons_ne_nil _ _, List.forall_mem_singleton.mpr (by decide)⟩
  exact ⟨by decide, by decide, by decide, comment, fun h => absurd h.value (by decide), by decide⟩

end EnvMerge.Value
