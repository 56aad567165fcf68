import EnvMerge.Proofs.Line.Escapes
import EnvMerge.Proofs.Line.Quotes

namespace EnvMerge

namespace Value

variable {x : Char} {t : Text} {n : Nat}

-- Whether no backslash stands right before one of the letters.
def Expressible (t : Text) : Prop :=
  t.IsChain fun x y => x = '\\' → y ∉ letters

instance : DecidablePred Expressible :=
  fun t => inferInstanceAs (Decidable (t.IsChain _))

-- A character as it is written in double quotes.
def escape : Char → Text
  | '\n' => ['\\', 'n']
  | '\t' => ['\\', 't']
  | '\r' => ['\\', 'r']
  | '"'  => ['\\', '"']
  | '\\' => ['\\', '\\']
  | x    => [x]

def encodeEscapes (t : Text) : Text :=
  t.flatMap escape

def quoted (t : Text) : Text :=
  '"' :: (t ++ ['"'])

theorem expressible_backslashes : Expressible (backslashes n) :=
  List.isChain_replicate_of_rel n fun _ => by decide

theorem expressible_append_iff (hx : x ≠ '\\') :
    Expressible (backslashes n ++ x :: t) ↔ (n ≠ 0 → x ∉ letters) ∧ Expressible t := by
  have front : (∀ y ∈ (backslashes n).getLast?, ∀ z ∈ (x :: t).head?, y = '\\' → z ∉ letters) ↔
      (n ≠ 0 → x ∉ letters) := by
    by_cases hn : n = 0 <;> simp [backslashes, List.getLast?_replicate, hn]
  have behind : (x :: t).IsChain (fun x y => x = '\\' → y ∉ letters) ↔ Expressible t := by
    simp [List.isChain_cons, hx, Expressible]
  rw [Expressible, List.isChain_append, front, behind]
  exact ⟨fun h => ⟨h.2.2, h.2.1⟩, fun h => ⟨expressible_backslashes, h.2, h.1⟩⟩

theorem remaining_zero : remaining 0 x = 0 := by
  unfold remaining
  split <;> rfl

-- A letter that comes out stood behind no backslash, and has none in front of it.
theorem expressible_decodeEscapes (t : Text) : Expressible (decodeEscapes t) := by
  induction t using runInduction
  case ended n =>
    rw [decodeEscapes_backslashes]
    exact expressible_backslashes
  case piece n x t hx ih =>
    rw [decodeEscapes_append hx]
    by_cases hn : n = 0
    case pos =>
      rw [if_pos hn, hn, remaining_zero, expressible_append_iff hx]
      exact ⟨fun some => absurd rfl some, ih⟩
    case neg =>
      have ⟨told, apart⟩ := meant_not_mem hx
      rw [if_neg hn, expressible_append_iff apart]
      exact ⟨fun _ => told, ih⟩

theorem encodeEscapes_backslashes : encodeEscapes (backslashes n) = backslashes (2 * n) := by
  induction n
  case zero => rfl
  case succ n ih =>
    calc encodeEscapes (backslashes (n + 1))
      _ = ['\\', '\\'] ++ encodeEscapes (backslashes n) := rfl
      _ = '\\' :: '\\' :: backslashes (2 * n)           := by rw [ih]; rfl
      _ = backslashes (2 * (n + 1))                     := rfl

theorem encodeEscapes_append :
    encodeEscapes (backslashes n ++ x :: t) = backslashes (2 * n) ++ (escape x ++ encodeEscapes t) := by
  rw [← encodeEscapes_backslashes]
  simp [encodeEscapes]

-- A character is written by the escape that means it, or else as it is. Then it begins no escape,
-- unless it is one of the letters.
theorem escape_eq_or (hx : x ≠ '\\') :
    (∃ y, escape x = ['\\', y] ∧ y ≠ '\\' ∧ escaped? y = some x) ∨
      (escape x = [x] ∧ (x ∈ letters ∨ escaped? x = none)) := by
  unfold escape
  split
  case h_1 | h_2 | h_3 | h_4 => exact .inl ⟨_, rfl, by decide, rfl⟩
  case h_5 => exact absurd rfl hx
  case h_6 =>
    refine .inr ⟨rfl, ?_⟩
    unfold escaped?
    split <;> simp_all [letters]

theorem decodeEscapes_encodeEscapes (h : Expressible t) : decodeEscapes (encodeEscapes t) = t := by
  induction t using runInduction
  case ended n =>
    have half : (2 * n + 1) / 2 = n := by omega
    rw [encodeEscapes_backslashes, decodeEscapes_backslashes, half]
  case piece n x t hx ih =>
    have ⟨free, rest⟩ := (expressible_append_iff hx).mp h
    rw [encodeEscapes_append]
    obtain ⟨y, he, hy, means⟩ | ⟨he, plain⟩ := escape_eq_or hx
    case inl =>
      have longer : backslashes (2 * n) ++ ([('\\' : Char), y] ++ encodeEscapes t)
          = backslashes (2 * n + 1) ++ y :: encodeEscapes t := by
        simp [backslashes, List.replicate_succ']
      have half : remaining (2 * n + 1) y = n := by
        rw [remaining, means, Option.isSome_some, if_pos rfl]
        omega
      rw [he, longer, decodeEscapes_append hy, half, ih rest]
      simp [meant, means]
    case inr =>
      rw [he, List.singleton_append, decodeEscapes_append hx, ih rest]
      cases plain
      case inl letter =>
        have hn : n = 0 := by
          by_contra hn
          exact free hn letter
        simp [hn, remaining_zero]
      case inr unescaped =>
        have half : remaining (2 * n) x = n := by
          rw [remaining, unescaped, Option.isSome_none, if_neg Bool.false_ne_true]
          omega
        simp [half, meant, unescaped]

theorem range_decodeEscapes : Set.range decodeEscapes = {t | Expressible t} := by
  ext t
  constructor
  case mp =>
    intro ⟨u, hu⟩
    exact hu ▸ expressible_decodeEscapes u
  case mpr => exact fun h => ⟨encodeEscapes t, decodeEscapes_encodeEscapes h⟩

theorem not_isBlank_quote : ¬isBlank '"' := by decide

theorem decode_quoted : decode (quoted t) = decodeEscapes t :=
  decode_of_double (trim_between not_isBlank_quote)

end Value

namespace Line

variable {k : Text} {n : Int}

theorem ofRaw_quoted (h : Key.Spelled k) (t : Text) :
    ofRaw (k ++ '=' :: Value.quoted t) n
      = ⟨k ++ '=' :: Value.quoted t, n, .assignment k (Value.decodeEscapes t), false⟩ := by
  rw [ofRaw_of_spelled h, Value.decode_quoted]

end Line

namespace Value

-- What the escapes can yield, and how it is written so that it is read back.
theorem expresses_exactly :
    Set.range decodeEscapes = {t | Expressible t} ∧
      ∀ k t n, Key.valid k → Expressible t →
        Line.ofRaw (k ++ '=' :: quoted (encodeEscapes t)) n
          = ⟨k ++ '=' :: quoted (encodeEscapes t), n, .assignment k t, false⟩ := by
  refine ⟨range_decodeEscapes, fun k t n valid expressible => ?_⟩
  rw [Line.ofRaw_quoted (Key.valid_iff.mp valid), decodeEscapes_encodeEscapes expressible]

-- Backslashes before characters that are escaped, and characters that mean something without quotes.
def mixedCharacters : Text :=
  "\\\n \\\\\"#\\\tn=\r'".toList

theorem expresses_exactly_of_mixed_characters :
    Key.valid "export".toList ∧ Expressible mixedCharacters ∧
      encodeEscapes mixedCharacters = "\\\\\\n \\\\\\\\\\\"#\\\\\\tn=\\r'".toList ∧
      Line.ofRaw ("export".toList ++ '=' :: quoted (encodeEscapes mixedCharacters)) 3
        = ⟨"export".toList ++ '=' :: quoted (encodeEscapes mixedCharacters), 3,
          .assignment "export".toList mixedCharacters, false⟩ := by
  have valid : Key.valid "export".toList := by decide
  have expressible : Expressible mixedCharacters := by decide
  exact ⟨valid, expressible, by decide, expresses_exactly.2 _ _ 3 valid expressible⟩

end Value
end EnvMerge
