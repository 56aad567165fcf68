import EnvMerge.Proofs.Files.Merge

namespace EnvMerge

open FileSystem Job Merge

variable {fs fs' : FileSystem} {p source target template destination output : Path} {c : Bytes} {n : Node}
variable {x : Option Bytes} {filled : Location → Prop} {o : Options} {draft : Draft} {changed : Bool}

theorem FileSystem.Grows.exists_find (h : Grows fs fs' filled) (hl : fs.Linkless)
    (hf : ¬filled (fs.place p)) (hn : fs.find p = .ok n) : ∃ n', fs'.find p = .ok n' := by
  cases n
  case folder      => exact ⟨_, h.find hl hn (h.folder _ ((find_eq_ok_iff hl).mp hn).2.2)⟩
  case file c      => exact ⟨_, read_eq_ok_iff.mp (h.read hl hf (read_eq_ok_iff.mpr hn))⟩
  case link target => exact absurd ((find_eq_ok_iff hl).mp hn).2.2 (hl _ _)

namespace Job

theorem learns_none_iff (hl : fs.Linkless) (begun : fs.node? (fs.start p) = some .folder) :
    Learns fs p none ↔ p.hasNull = true ∨
      isTooLong p = false ∧ ¬Chokes fs (fs.start p) p.names ∧ ∀ n, fs.find p ≠ .ok n := by
  constructor
  case mp =>
    intro h
    cases hn : p.hasNull
    case true  => exact .inl rfl
    case false =>
      have missing : ∀ n, fs.find p ≠ .ok n := fun n => h.not_found hn
      cases h
      case null h          => simp [hn] at h
      case absent h absent =>
        have ⟨short, free⟩ := (meansAbsent_iff hl begun h).mp absent
        exact .inr ⟨short, free, missing⟩
  case mpr =>
    intro h
    cases h
    case inl null => exact .null null
    case inr h    =>
      have ⟨short, free, missing⟩ := h
      cases hs : fs.status p
      case error e => exact .absent hs ((meansAbsent_iff hl begun hs).mpr ⟨short, free⟩)
      case ok s    =>
        have ⟨n, hn, _⟩ := exists_of_status hs
        exact absurd hn (missing n)

namespace Reads

theorem back (h : Reads fs' p x) (grows : Grows fs fs' filled) (hl : fs.Linkless)
    (ha : fs.Anchored p) (hf : ¬filled (fs.place p)) : Reads fs p x := by
  cases h
  case content null hc => exact .content null (grows.read_back hl ha hf hc)
  case nothing h       =>
    refine .nothing ((learns_none_iff hl ha.begun).mpr ?_)
    refine ((learns_none_iff (grows.linkless hl) (grows.begun ha.begun)).mp h).imp_right
      fun ⟨short, free, missing⟩ => ?_
    refine ⟨short, fun chokes => free ?_, fun n hn => ?_⟩
    case refine_1 =>
      rw [grows.start_eq]
      exact chokes.mono grows.folder
    case refine_2 =>
      have ⟨n', hn'⟩ := grows.exists_find hl hf hn
      exact missing n' hn'

theorem some_onward (h : Reads fs p (some c)) (grows : Grows fs fs' filled) (hl : fs.Linkless)
    (hf : ¬filled (fs.place p)) : Reads fs' p (some c) := by
  cases h
  case content null hc => exact .content null (grows.read hl hf hc)

-- A file stays missing if its names are short and nothing is written there or below.
theorem none_onward (h : Reads fs p none) (fills : Fills fs fs' filled) (hl : fs.Linkless)
    (ha : fs.Anchored p) (clear : ∀ goal, filled goal → ¬fs.place p <+: goal)
    (short : ∀ name ∈ p.names, (Utf8.encode name).length ≤ maxNameLength) : Reads fs' p none := by
  cases h
  case nothing h =>
    have hl' := fills.linkless hl
    refine .nothing ((learns_none_iff hl' (fills.begun ha.begun)).mpr ?_)
    refine ((learns_none_iff hl ha.begun).mp h).imp_right fun ⟨whole, _, missing⟩ => ⟨whole, fun chokes => ?_, ?_⟩
    case refine_1 =>
      have ⟨name, hm, long⟩ := chokes.exists_long
      exact absurd (short name hm) (Nat.not_le.mpr long)
    case refine_2 =>
      intro n hn
      cases n
      case folder =>
        have stands := ((find_eq_ok_iff hl').mp hn).2.2
        rw [fills.place_eq] at stands
        cases fills.made _ stands
        case inl old => exact missing _ (find_of_folder hl ha whole old)
        case inr new =>
          have ⟨goal, hg, hp⟩ := new
          exact clear goal hg hp
      case file c =>
        have unwritten : ¬filled (fs.place p) := fun hg => clear _ hg List.prefix_rfl
        have before := fills.read_back hl ha unwritten (read_eq_ok_iff.mpr hn)
        exact missing _ (read_eq_ok_iff.mp before)
      case link target => exact hl' _ _ ((find_eq_ok_iff hl').mp hn).2.2

theorem onward (h : Reads fs p x) (fills : Fills fs fs' filled) (hl : fs.Linkless)
    (ha : fs.Anchored p) (clear : ∀ goal, filled goal → ¬fs.place p <+: goal)
    (short : ∀ name ∈ p.names, (Utf8.encode name).length ≤ maxNameLength) : Reads fs' p x := by
  cases x
  case none   => exact h.none_onward fills hl ha clear short
  case some c => exact h.some_onward fills.toGrows hl fun hg => clear _ hg List.prefix_rfl

end Reads

-- Where the same is read, a comparison and a merge find the same.
theorem Compares.imp (h : Compares fs source target changed)
    (hs : ∀ s, Reads fs source (some s) → Reads fs' source (some s))
    (ht : ∀ x, (changed = false → x.isSome) → Reads fs target x → Reads fs' target x) :
    Compares fs' source target changed := by
  cases h
  case missing h       => exact .missing (ht none (by simp) h)
  case digests h h'    => exact .digests (hs _ h) (ht _ (by simp) h')

theorem Merges.imp (h : Merges fs o template destination output draft changed)
    (ht : ∀ a, Reads fs template (some a) → Reads fs' template (some a))
    (hd : ∀ x, Reads fs destination x → Reads fs' destination x)
    (ho : ∀ y, (changed = false → y.isSome) → Reads fs output y → Reads fs' output y) :
    Merges fs' o template destination output draft changed := by
  cases h
  case intro x y template destination yields output =>
    refine .intro (ht _ template) (hd x destination) yields (ho y (fun current => ?_) output)
    have ⟨c, he, _⟩ := stale_eq_false_iff.mp current
    exact Option.isSome_of_eq_some he

-- Where the output holds what is wanted, the same merge has nothing to write.
theorem Merges.settle {held : Bytes} (h : Merges fs o template destination output draft changed)
    (ht : ∀ a, Reads fs template (some a) → Reads fs' template (some a))
    (hd : ∀ x, Reads fs destination x → Reads fs' destination x) (ho : Reads fs' output (some held))
    (same : digest held = digest (Utf8.encode draft.text)) :
    Merges fs' o template destination output draft false := by
  cases h
  case intro template destination yields _ =>
    have current : stale draft.text (some held) = false := stale_eq_false_iff.mpr ⟨held, rfl, same⟩
    rw [← current]
    exact .intro (ht _ template) (hd _ destination) yields ho

end Job
end EnvMerge
