import EnvMerge.Line.Basic
import EnvMerge.Proofs.Text.Trim
import Mathlib.Data.List.Forall2

namespace EnvMerge.Line

variable {raw raw' source t : Text} {n n' : Int} {l : Line} {rs rs' : List Text}

theorem dropReturn_append_return : dropReturn (t ++ ['\r']) = t := by
  simp [dropReturn]

theorem dropReturn_of_ne (h : t.getLast? ≠ some '\r') : dropReturn t = t :=
  if_neg h

theorem dropReturn_eq_or (t : Text) : (t = dropReturn t ++ ['\r']) ∨ dropReturn t = t := by
  by_cases h : t.getLast? = some '\r'
  case pos =>
    have ⟨t', ht⟩ := List.getLast?_eq_some_iff.mp h
    exact .inl (by rw [ht, dropReturn_append_return])
  case neg => exact .inr (dropReturn_of_ne h)

theorem dropReturn_prefix_self : dropReturn t <+: t := by
  cases dropReturn_eq_or t
  case inl h => exact ⟨_, h.symm⟩
  case inr h => exact h.symm ▸ List.prefix_rfl

theorem trim_dropReturn : (dropReturn t).trim = t.trim := by
  cases dropReturn_eq_or t
  case inl h =>
    have := Text.trim_append_singleton (t := dropReturn t) (c := '\r') (by decide)
    rw [← this, ← h]
  case inr h => rw [h]

-- A line is read by its trimmed text. Whatever its raw text and its number are, they are kept.
theorem exists_ofRaw_eq (t : Text) : ∃ content exported,
    ∀ {raw : Text} {n : Int}, raw.trim = t → ofRaw raw n = ⟨raw, n, content, exported⟩ := by
  by_cases blank : t = []
  case pos => exact ⟨.blank, false, fun h => by simp [ofRaw, h, blank]⟩
  case neg =>
    by_cases comment : t.head? = some '#'
    case pos => exact ⟨.comment, false, fun h => by simp [ofRaw, h, blank, comment]⟩
    case neg =>
      cases after : t.after? ['e', 'x', 'p', 'o', 'r', 't', ' ']
      case some rest =>
        exact ⟨(assignment? rest).getD .invalid, true, fun h => by simp [ofRaw, h, blank, comment, after]⟩
      case none =>
        exact ⟨(assignment? t).getD .invalid, false, fun h => by simp [ofRaw, h, blank, comment, after]⟩

theorem ofRaw_raw : (ofRaw raw n).raw = raw := by
  have ⟨_, _, read⟩ := exists_ofRaw_eq raw.trim
  rw [read rfl]

theorem ofRaw_number : (ofRaw raw n).number = n := by
  have ⟨_, _, read⟩ := exists_ofRaw_eq raw.trim
  rw [read rfl]

theorem ofRaw_of_trim_eq (h : raw.trim = raw'.trim) :
    (ofRaw raw n).content = (ofRaw raw' n').content ∧
      (ofRaw raw n).exported = (ofRaw raw' n').exported := by
  have ⟨_, _, read⟩ := exists_ofRaw_eq raw'.trim
  rw [read h, read rfl]
  exact ⟨rfl, rfl⟩

theorem content_ofRaw_dropReturn :
    (ofRaw (dropReturn raw) n).content = (ofRaw raw n').content :=
  (ofRaw_of_trim_eq trim_dropReturn).1

theorem numberedFrom_append :
    numberedFrom n (rs ++ rs') = numberedFrom n rs ++ numberedFrom (n + rs.length) rs' := by
  induction rs generalizing n
  case nil => simp [numberedFrom]
  case cons r rs ih => simp [numberedFrom, ih, Int.add_assoc, Int.add_comm 1]

theorem map_raw_numberedFrom (n : Int) (rs : List Text) : (numberedFrom n rs).map (·.raw) = rs := by
  induction rs generalizing n
  case nil          => rfl
  case cons r rs ih => rw [numberedFrom, List.map_cons, ofRaw_raw, ih]

theorem exists_of_mem_numberedFrom (h : l ∈ numberedFrom n rs) :
    l.raw ∈ rs ∧ n ≤ l.number ∧ l = ofRaw l.raw l.number := by
  induction rs generalizing n
  case nil => cases h
  case cons r rs ih =>
    cases h
    case head   => exact ⟨by simp [ofRaw_raw], by simp [ofRaw_number], by rw [ofRaw_raw, ofRaw_number]⟩
    case tail h =>
      have ⟨hr, hn, hl⟩ := ih h
      exact ⟨List.mem_cons_of_mem _ hr, by omega, hl⟩

-- No two lines have the same number.
theorem nodup_numberedFrom : (numberedFrom n rs).Nodup := by
  induction rs generalizing n
  case nil => exact List.nodup_nil
  case cons r rs ih =>
    refine List.nodup_cons.mpr ⟨?_, ih⟩
    intro h
    have ⟨_, hn, _⟩ := exists_of_mem_numberedFrom h
    rw [ofRaw_number] at hn
    omega

-- Lines put out one for one, and read again from any number on.
theorem forall₂_numberedFrom (n : Int) (ls : List Line) (f : Line → Text) :
    List.Forall₂ (fun l m => ∃ n', n ≤ n' ∧ m = ofRaw (f l) n') ls (numberedFrom n (ls.map f)) := by
  induction ls generalizing n
  case nil => exact .nil
  case cons l ls ih =>
    refine .cons ⟨n, Int.le_refl n, rfl⟩ ((ih (n + 1)).imp fun _ _ h => ?_)
    have ⟨n', hn, he⟩ := h
    exact ⟨n', by omega, he⟩

-- Read again from the same number on, each line gets its own number.
theorem forall₂_numberedFrom_same (n : Int) (rs : List Text) (f : Line → Text) :
    List.Forall₂ (fun l m => m = ofRaw (f l) l.number) (numberedFrom n rs)
      (numberedFrom n ((numberedFrom n rs).map f)) := by
  induction rs generalizing n
  case nil => exact .nil
  case cons r rs ih => exact .cons (by rw [ofRaw_number]) (ih (n + 1))

theorem not_mem_of_mem_splitOn (h : t ∈ source.splitOn '\n') : '\n' ∉ t := by
  induction source generalizing t
  case nil => simp_all
  case cons c source ih =>
    rw [List.splitOn_cons_eq_if_modifyHead] at h
    split at h
    case isTrue =>
      cases h
      case head   => exact List.not_mem_nil
      case tail h => exact ih h
    case isFalse hc =>
      cases hs : source.splitOn '\n'
      case nil => simp [hs] at h
      case cons p ps =>
        rw [hs, List.modifyHead_cons] at h
        cases h
        case head =>
          have hp := ih (hs ▸ List.mem_cons_self)
          simp only [beq_iff_eq] at hc
          simp [hp, Ne.symm hc]
        case tail h => exact ih (hs ▸ List.mem_cons_of_mem _ h)

theorem not_mem_of_mem_split (h : raw ∈ split source) : '\n' ∉ raw := by
  have ⟨piece, hp, hr⟩ := List.mem_map.mp h
  have hs : piece ∈ source.splitOn '\n' := by
    split at hp
    case isTrue  => exact List.dropLast_subset _ hp
    case isFalse => exact hp
  intro hn
  exact not_mem_of_mem_splitOn hs (dropReturn_prefix_self.subset (hr ▸ hn))

theorem split_append_cons :
    split (raw ++ '\n' :: source) = (raw.splitOn '\n').map dropReturn ++ split source := by
  have some : source.splitOn '\n' ≠ [] := List.splitOn_ne_nil '\n' source
  simp only [split, List.splitOn_append_cons_self, List.getLast?_append_of_ne_nil _ some,
    List.dropLast_append_of_ne_nil some, ← List.map_append]
  split <;> rfl

theorem split_append_feed (h : '\n' ∉ raw) : split (raw ++ '\n' :: source) = dropReturn raw :: split source := by
  rw [split_append_cons, List.splitOn_eq_singleton h]
  rfl

theorem split_of_not_mem (h : '\n' ∉ raw) (hr : raw ≠ []) : split raw = [dropReturn raw] := by
  simp [split, List.splitOn_eq_singleton h, hr]

-- Behind a line feed the lines are those of what is left.
theorem split_append (h : source = [] ∨ source.getLast? = some '\n') :
    split (source ++ t) = split source ++ split t := by
  have empty : split [] = [] := by simp [split]
  cases h
  case inl h => rw [h, empty, List.nil_append, List.nil_append]
  case inr h =>
    have ⟨raw, hr⟩ := List.getLast?_eq_some_iff.mp h
    rw [hr, List.append_assoc, List.singleton_append, split_append_cons, split_append_cons, empty,
      List.append_nil]

-- What stands before a line feed ends a piece.
theorem exists_mem_splitOn {c : Char} (h : c ≠ '\n') (t source : Text) :
    ∃ piece ∈ (t ++ c :: '\n' :: source).splitOn '\n', piece.getLast? = some c := by
  induction t
  case nil =>
    refine ⟨[c], ?_, rfl⟩
    rw [List.nil_append, ← List.singleton_append,
      List.splitOn_append_cons_self_of_not_mem (by simpa using h.symm)]
    exact List.mem_cons_self
  case cons x t ih =>
    have ⟨piece, hp, hl⟩ := ih
    rw [List.cons_append, List.splitOn_cons_eq_if_modifyHead]
    split
    case isTrue  => exact ⟨piece, List.mem_cons_of_mem _ hp, hl⟩
    case isFalse =>
      have ⟨p, ps, hs⟩ := List.exists_cons_of_ne_nil (List.splitOn_ne_nil '\n' (t ++ c :: '\n' :: source))
      rw [hs] at hp ⊢
      cases hp
      case head    => exact ⟨x :: piece, List.mem_cons_self, by rw [List.getLast?_cons, hl, Option.getD_some]⟩
      case tail hp => exact ⟨piece, List.mem_cons_of_mem _ hp, hl⟩

end EnvMerge.Line
