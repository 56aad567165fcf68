import EnvMerge.Freeze.Marker
import EnvMerge.Proofs.Line.Split

namespace EnvMerge.Marker

variable {token t u rest : Text} {m : Marker} {kind : Kind}

theorem not_isBlank_colon : ¬isBlank ':' := by decide

-- The blanks before a token are determined, since the colon behind it is no blank.
theorem blanks_eq_nil {z a b : Text} (hz : z.Blank) (h : token ++ ':' :: a = z ++ (token ++ ':' :: b)) :
    z = [] := by
  induction token generalizing z
  case nil =>
    cases z
    case nil => rfl
    case cons c z =>
      have hc : ':' = c := (List.cons.inj h).1
      exact absurd (hc ▸ hz c List.mem_cons_self) not_isBlank_colon
  case cons c token ih =>
    cases z
    case nil => rfl
    case cons x z =>
      have ⟨hc, ht⟩ := List.cons.inj h
      -- the first blank moves behind the others, and the rest of the token stands there again
      have hz' : Text.Blank (z ++ [c]) := by
        intro y hy
        cases List.mem_append.mp hy
        case inl hy => exact hz y (List.mem_cons_of_mem _ hy)
        case inr hy => exact List.mem_singleton.mp hy ▸ hc ▸ hz x List.mem_cons_self
      have := ih hz' (by simpa using ht)
      simp at this

theorem mem_afterBlanks_iff : u ∈ afterBlanks t ↔ ∃ w : Text, w.Blank ∧ t = w ++ u := by
  induction t
  case nil => simp [afterBlanks, Text.Blank]
  case cons c t ih =>
    by_cases hc : isBlank c
    case pos =>
      simp only [afterBlanks, hc, if_true, List.mem_append, ih, List.mem_singleton]
      constructor
      case mp =>
        intro h
        cases h
        case inl h =>
          have ⟨w, hw, ht⟩ := h
          refine ⟨c :: w, ?_, by rw [ht, List.cons_append]⟩
          intro x hx
          cases hx
          case head    => exact hc
          case tail hx => exact hw x hx
        case inr h => exact ⟨[], by simp [Text.Blank], h ▸ rfl⟩
      case mpr =>
        intro ⟨w, hw, ht⟩
        cases w
        case nil => exact .inr ht.symm
        case cons x w =>
          exact .inl ⟨w, fun y hy => hw y (List.mem_cons_of_mem _ hy), (List.cons.inj ht).2⟩
    case neg =>
      simp only [afterBlanks, hc, Bool.false_eq_true, if_false, List.mem_singleton]
      constructor
      case mp  => exact fun h => ⟨[], by simp [Text.Blank], h ▸ rfl⟩
      case mpr =>
        intro ⟨w, hw, ht⟩
        cases w
        case nil => exact ht.symm
        case cons x w =>
          exact absurd ((List.cons.inj ht).1 ▸ hw x List.mem_cons_self) hc

theorem onlyLine?_of_not_mem (h : '\n' ∉ t) : onlyLine? t = some t := by
  have hp : ∀ c ∈ t, (c != '\n') = true := by
    intro c hc
    exact bne_iff_ne.mpr fun he => h (he ▸ hc)
  simp [onlyLine?, List.dropWhile_eq_nil_iff.mpr hp, List.takeWhile_eq_self_iff.mpr hp]

theorem ofTail?_eq_some_iff (h : '\n' ∉ t) :
    ofTail? kind t = some m ↔
      m.kind = kind ∧ ∃ rest : Text,
        t = kind.keyword ++ rest ∧ atBoundary rest ∧ m.rest = rest.trimStart := by
  have only {rest : Text} (ht : t = kind.keyword ++ rest) :
      onlyLine? rest.trimStart = some rest.trimStart := by
    apply onlyLine?_of_not_mem
    intro hn
    have hr := (List.dropWhile_suffix isBlank).subset hn
    exact h (ht ▸ List.mem_append_right _ hr)
  simp only [ofTail?, Option.bind_eq_bind, Option.bind_eq_some_iff, Text.after?_eq_some_iff,
    Option.ite_none_right_eq_some]
  constructor
  case mp =>
    intro ⟨rest, ht, hb, r, hr, he⟩
    rw [only ht] at hr
    cases hr
    cases he
    exact ⟨rfl, rest, ht, hb, rfl⟩
  case mpr =>
    intro ⟨hk, rest, ht, hb, hr⟩
    refine ⟨rest, ht, hb, rest.trimStart, only ht, ?_⟩
    rw [← hk, ← hr]

theorem keyword_inj {kind' : Kind} {a b : Text} (h : kind.keyword ++ a = kind'.keyword ++ b) :
    kind = kind' ∧ a = b := by
  cases kind <;> cases kind' <;> simp_all [Kind.keyword]

theorem ofBody?_eq_some_iff (h : '\n' ∉ t) :
    ofBody? token t = some m ↔
      ∃ rest : Text,
        t = token ++ ':' :: (m.kind.keyword ++ rest) ∧ atBoundary rest ∧ m.rest = rest.trimStart := by
  have tail {kind : Kind} {u : Text} (ht : t = token ++ [':'] ++ u) :
      ofTail? kind u = some m ↔
        m.kind = kind ∧ ∃ rest : Text,
          u = kind.keyword ++ rest ∧ atBoundary rest ∧ m.rest = rest.trimStart :=
    ofTail?_eq_some_iff fun hn => h (ht ▸ List.mem_append_right _ hn)
  simp only [ofBody?, Option.bind_eq_bind, Option.bind_eq_some_iff, Text.after?_eq_some_iff,
    Option.or_eq_some_iff]
  constructor
  case mp =>
    intro ⟨u, ht, hu⟩
    cases hu
    case inl hu =>
      have ⟨hk, rest, he, hb, hr⟩ := (tail ht).mp hu
      exact ⟨rest, by simp [ht, he, hk], hb, hr⟩
    case inr hu =>
      have ⟨hk, rest, he, hb, hr⟩ := (tail ht).mp hu.2
      exact ⟨rest, by simp [ht, he, hk], hb, hr⟩
  case mpr =>
    intro ⟨rest, ht, hb, hr⟩
    have ht' : t = token ++ [':'] ++ (m.kind.keyword ++ rest) := by simpa using ht
    refine ⟨_, ht', ?_⟩
    cases hk : m.kind
    case freeze   => exact .inl <| (tail (hk ▸ ht')).mpr ⟨hk, rest, rfl, hb, hr⟩
    case unfreeze =>
      refine .inr ⟨?_, (tail (hk ▸ ht')).mpr ⟨hk, rest, rfl, hb, hr⟩⟩
      simp [ofTail?, Text.after?, Kind.keyword]

-- The reading of a text as a marker, with the division of its blanks spelled out.
structure Reading (token text : Text) (m : Marker) (before between rest : Text) : Prop where
  text_eq  : text = before ++ '#' :: (between ++ (token ++ ':' :: (m.kind.keyword ++ rest)))
  before   : before.Blank
  between  : between.Blank
  boundary : atBoundary rest
  rest_eq  : m.rest = rest.trimStart

variable {text before between before' between' rest' : Text} {m' : Marker}

theorem after?_numberSign_eq_some_iff :
    text.trimStart.after? ['#'] = some u ↔ ∃ w : Text, w.Blank ∧ text = w ++ '#' :: u := by
  rw [Text.after?_eq_some_iff, List.singleton_append]
  constructor
  case mp =>
    intro h
    have ⟨w, hw, ht⟩ := Text.exists_blank_append_trimStart text
    exact ⟨w, hw, h ▸ ht⟩
  case mpr =>
    intro ⟨w, hw, ht⟩
    rw [ht, Text.trimStart_append_of_blank hw, Text.trimStart_cons_of_not_isBlank Text.not_isBlank_numberSign]

theorem between_unique {a b : Text} (hb : between.Blank) (hb' : between'.Blank)
    (h : between ++ (token ++ ':' :: a) = between' ++ (token ++ ':' :: b)) :
    between = between' ∧ a = b := by
  have he : between = between' := by
    cases List.append_eq_append_iff.mp h
    case inl h =>
      have ⟨z, hz, ht⟩ := h
      have := blanks_eq_nil (fun c hc => hb' c (hz ▸ List.mem_append_right _ hc)) ht
      simp [hz, this]
    case inr h =>
      have ⟨z, hz, ht⟩ := h
      have := blanks_eq_nil (fun c hc => hb c (hz ▸ List.mem_append_right _ hc)) ht
      simp [hz, this]
  subst he
  exact ⟨rfl, (List.cons.inj (List.append_cancel_left (List.append_cancel_left h))).2⟩

-- A text is read in at most one way.
theorem Reading.unique (h : Reading token text m before between rest)
    (h' : Reading token text m' before' between' rest') :
    m = m' ∧ before = before' ∧ between = between' ∧ rest = rest' := by
  have hb := after?_numberSign_eq_some_iff.mpr ⟨before, h.before, h.text_eq⟩
  have hb' := after?_numberSign_eq_some_iff.mpr ⟨before', h'.before, h'.text_eq⟩
  have ⟨he, ht⟩ := between_unique h.between h'.between (Option.some.inj (hb.symm.trans hb'))
  have ⟨hk, hr⟩ := keyword_inj ht
  subst he hr
  refine ⟨?marker, ?blanks, rfl, rfl⟩
  case marker =>
    have hr := h.rest_eq.trans h'.rest_eq.symm
    cases m
    cases m'
    rw [mk.injEq]
    exact ⟨hk, hr⟩
  case blanks =>
    have := h.text_eq.symm.trans h'.text_eq
    exact List.append_cancel_right (hk ▸ this)

theorem ofText?_eq_some_iff (h : '\n' ∉ text) :
    ofText? token text = some m ↔ ∃ before between rest, Reading token text m before between rest := by
  have sound {m u} (hm : text.trimStart.after? ['#'] = some u)
      (hf : (afterBlanks u).findSome? (ofBody? token) = some m) :
      ∃ before between rest, Reading token text m before between rest := by
    have ⟨before, hb, ht⟩ := after?_numberSign_eq_some_iff.mp hm
    have ⟨v, hv, hf⟩ := List.exists_of_findSome?_eq_some hf
    have ⟨between, hb', hu⟩ := mem_afterBlanks_iff.mp hv
    have hn : '\n' ∉ v := by
      intro hn
      exact h (by simp [ht, hu, hn])
    have ⟨rest, hr, ha, he⟩ := (ofBody?_eq_some_iff hn).mp hf
    exact ⟨before, between, rest, by rw [ht, hu, hr], hb, hb', ha, he⟩
  simp only [ofText?, Option.bind_eq_bind, Option.bind_eq_some_iff]
  constructor
  case mp  => exact fun ⟨u, hm, hf⟩ => sound hm hf
  case mpr =>
    intro ⟨before, between, rest, hr⟩
    have hm := after?_numberSign_eq_some_iff.mpr ⟨before, hr.before, hr.text_eq⟩
    refine ⟨_, hm, ?_⟩
    have hu : ∃ u, u = token ++ ':' :: (m.kind.keyword ++ rest) := ⟨_, rfl⟩
    have ⟨u, hu⟩ := hu
    rw [← hu] at hm ⊢
    have hv : u ∈ afterBlanks (between ++ u) := mem_afterBlanks_iff.mpr ⟨between, hr.between, rfl⟩
    have hn : '\n' ∉ u := by
      intro hn
      exact h (by simp [hr.text_eq, ← hu, hn])
    have hf := (ofBody?_eq_some_iff hn).mpr ⟨rest, hu, hr.boundary, hr.rest_eq⟩
    cases hs : (afterBlanks (between ++ u)).findSome? (ofBody? token)
    case none => simp [List.findSome?_eq_none_iff.mp hs _ hv] at hf
    case some m' =>
      have ⟨_, _, _, hr'⟩ := sound hm hs
      rw [(hr.unique hr').1]

-- Blanks are taken off the text behind a keyword, and no other characters.
theorem Reading.exists_blank_append (h : Reading token text m before between rest) :
    ∃ w : Text, w.Blank ∧ rest = w ++ m.rest ∧ ∀ c ∈ m.rest.head?, ¬isBlank c := by
  have ⟨w, hw, ht⟩ := Text.exists_blank_append_trimStart rest
  rw [h.rest_eq]
  exact ⟨w, hw, ht, fun _ => Text.not_isBlank_of_head?_trimStart⟩

-- What is found in a text is its reading as a marker, and that reading is the only one.
structure Recognizes (token text : Text) (found : Option Marker) : Prop where
  isSome_iff : found.isSome ↔ ∃ m before between rest, Reading token text m before between rest
  found_eq   : ∀ {m before between rest}, Reading token text m before between rest → found = some m
  unique     : ∀ {m m' before before' between between' rest rest'},
    Reading token text m before between rest → Reading token text m' before' between' rest' →
      m = m' ∧ before = before' ∧ between = between' ∧ rest = rest'
  stripped   : ∀ {m before between rest}, Reading token text m before between rest →
    ∃ w : Text, w.Blank ∧ rest = w ++ m.rest ∧ ∀ c ∈ m.rest.head?, ¬isBlank c

-- Whatever characters the token is made of.
theorem recognizes_ofText? (h : '\n' ∉ text) : Recognizes token text (ofText? token text) where
  isSome_iff := by simp [Option.isSome_iff_exists, ofText?_eq_some_iff h]
  found_eq   := fun hr => (ofText?_eq_some_iff h).mpr ⟨_, _, _, hr⟩
  unique     := Reading.unique
  stripped   := Reading.exists_blank_append

-- A token that begins with a blank and has number signs, colons and a keyword in it.
def oddToken : Text :=
  " .*#\\(t:freeze".toList

theorem recognizes_of_odd_token :
    '\n' ∉ "\t# \u00a0".toList ++ oddToken ++ ":unfreeze- é".toList ∧
      Recognizes oddToken ("\t# \u00a0".toList ++ oddToken ++ ":unfreeze- é".toList)
        (some ⟨.unfreeze, "- é".toList⟩) := by
  have free : '\n' ∉ "\t# \u00a0".toList ++ oddToken ++ ":unfreeze- é".toList := by decide
  have found : ofText? oddToken ("\t# \u00a0".toList ++ oddToken ++ ":unfreeze- é".toList)
      = some ⟨.unfreeze, "- é".toList⟩ := by
    decide +kernel
  exact ⟨free, found ▸ recognizes_ofText? free⟩

-- What a marker tells: its kind, and the text behind it without blanks around it.
def meaning (m : Marker) : Kind × Text :=
  (m.kind, m.rest.trim)

theorem Reading.append_return (h : Reading token text m before between rest) :
    ∃ m', Reading token (text ++ ['\r']) m' before between (rest ++ ['\r']) ∧ m'.meaning = m.meaning := by
  refine ⟨⟨m.kind, Text.trimStart (rest ++ ['\r'])⟩, ⟨?text, h.before, h.between, ?boundary, rfl⟩, ?meaning⟩
  case text => simp [h.text_eq]
  case boundary =>
    have := h.boundary
    cases rest
    case nil  => decide +kernel
    case cons => exact this
  case meaning =>
    have hr : isBlank '\r' := by decide
    simp [meaning, h.rest_eq, Text.trim_trimStart, Text.trim_append_singleton hr]

theorem exists_keyword_eq (kind : Kind) : ∃ stem, kind.keyword = stem ++ ['e'] := by
  cases kind
  case freeze   => exact ⟨"freez".toList, rfl⟩
  case unfreeze => exact ⟨"unfreez".toList, rfl⟩

theorem Reading.of_append_return (h : Reading token (text ++ ['\r']) m before between rest) :
    ∃ m' rest', Reading token text m' before between rest' ∧ m'.meaning = m.meaning := by
  have he := h.text_eq
  cases List.eq_nil_or_concat' rest
  case inl hr =>
    -- the keyword would end in the carriage return
    have ⟨stem, hs⟩ := exists_keyword_eq m.kind
    have he' : text ++ ['\r'] = before ++ '#' :: (between ++ (token ++ ':' :: stem)) ++ ['e'] := by
      simpa [hr, hs] using he
    cases (List.append_inj' he' rfl).2
  case inr hr =>
    have ⟨rest', c, hr⟩ := hr
    have he' : text ++ ['\r'] =
        before ++ '#' :: (between ++ (token ++ ':' :: (m.kind.keyword ++ rest'))) ++ [c] := by
      simpa [hr] using he
    have ⟨ht, hc⟩ := List.append_inj' he' rfl
    cases hc
    refine ⟨⟨m.kind, Text.trimStart rest'⟩, rest', ⟨ht, h.before, h.between, ?boundary, rfl⟩, ?meaning⟩
    case boundary =>
      have := h.boundary
      cases rest'
      case nil  => rfl
      case cons => simpa [hr, atBoundary] using this
    case meaning =>
      have hb : isBlank '\r' := by decide
      have := Text.trim_append_singleton (t := rest') hb
      simp [meaning, h.rest_eq, Text.trim_trimStart, hr, this]

-- A carriage return at the end of a line does not change what it tells as a marker.
theorem meaning_ofText?_dropReturn (h : '\n' ∉ text) :
    (ofText? token (Line.dropReturn text)).map meaning = (ofText? token text).map meaning := by
  cases Line.dropReturn_eq_or text
  case inr ht => rw [ht]
  case inl ht =>
    have hn : '\n' ∉ Line.dropReturn text := fun hn => h (Line.dropReturn_prefix_self.subset hn)
    cases hm : ofText? token (Line.dropReturn text)
    case some m =>
      have ⟨before, between, rest, hr⟩ := (ofText?_eq_some_iff hn).mp hm
      have ⟨m', hr', he⟩ := hr.append_return
      rw [← ht] at hr'
      rw [(ofText?_eq_some_iff h).mpr ⟨_, _, _, hr'⟩, Option.map_some, Option.map_some, he]
    case none =>
      cases hm' : ofText? token text
      case none => rfl
      case some m =>
        have ⟨before, between, rest, hr⟩ := (ofText?_eq_some_iff h).mp hm'
        have ⟨m', rest', hr', _⟩ := (ht ▸ hr).of_append_return
        rw [(ofText?_eq_some_iff hn).mpr ⟨_, _, _, hr'⟩] at hm
        cases hm

end EnvMerge.Marker
