import EnvMerge.Proofs.Files.Merge
import EnvMerge.Proofs.Files.Scan

namespace EnvMerge

open FileSystem Job Merge

namespace Trees

-- What a run makes of a relative path: the contents that the two trees have there, and the content
-- of the output before and after the run.
inductive Settles (o : Options) : (template destination old new : Option Bytes) → Prop
  | same {b : Bytes} {old : Option Bytes} : Settles o (some b) (some b) old (some b)
  | merged {a b : Bytes} {old : Option Bytes} {r : Draft} (differ : a ≠ b)
      (yields : Yields o (.bytes a) (.bytes b) r) :
      Settles o (some a) (some b) old (some (Utf8.encode r.text))
  | carried {b : Bytes} {old : Option Bytes} : Settles o none (some b) old (some b)
  | seeded {a : Bytes} {old : Option Bytes} {r : Draft} (append : o.append = true)
      (yields : Yields o (.bytes a) (.bytes []) r) :
      Settles o (some a) none old (some (Utf8.encode r.text))
  | skipped {a : Bytes} {old : Option Bytes} (keep : o.append = false) : Settles o (some a) none old old
  | absent {old : Option Bytes} : Settles o none none old old

theorem Settles.exists_yields {o : Options} {a b : Bytes} {old new : Option Bytes}
    (h : Settles o (some a) (some b) old new) (differ : a ≠ b) :
    ∃ r, Yields o (.bytes a) (.bytes b) r ∧ new = some (Utf8.encode r.text) := by
  cases h
  case same     => exact absurd rfl differ
  case merged y => exact ⟨_, y, rfl⟩

-- The contents that a run compares by their digests.
inductive Compared (o : Options) (template destination output : List Text → Option Bytes) :
    Bytes → Bytes → Prop
  | versions {names : List Text} {a b : Bytes} (ht : template names = some a)
      (hd : destination names = some b) : Compared o template destination output a b
  | copies {names : List Text} {b c : Bytes} (hd : destination names = some b)
      (ho : output names = some c) : Compared o template destination output b c
  | results {names : List Text} {a c : Bytes} {r : Draft} (ht : template names = some a)
      (differ : destination names ≠ some a) (wanted : destination names = none → o.append = true)
      (yields : Yields o (.bytes a) (.bytes ((destination names).getD [])) r)
      (ho : output names = some c) : Compared o template destination output c (Utf8.encode r.text)

-- Whether digests tell these contents apart.
def ToldApart (o : Options) (template destination output : List Text → Option Bytes) : Prop :=
  ∀ a b, Compared o template destination output a b → digest a = digest b → a = b

-- Neither of two places contains the other.
structure Apart (loc loc' : Location) : Prop where
  outside : ¬loc <+: loc'
  around  : ¬loc' <+: loc

instance (loc loc' : Location) : Decidable (Apart loc loc') :=
  decidable_of_iff (¬loc <+: loc' ∧ ¬loc' <+: loc) ⟨fun ⟨h, h'⟩ => ⟨h, h'⟩, fun ⟨h, h'⟩ => ⟨h, h'⟩⟩

theorem Apart.append_ne {loc loc' : Location} (h : Apart loc loc') (names names' : List Text) :
    loc ++ names ≠ loc' ++ names' := by
  intro he
  cases List.prefix_or_prefix_of_prefix (List.prefix_append loc names) (he ▸ List.prefix_append loc' names')
  case inl hp => exact h.outside hp
  case inr hp => exact h.around hp

-- A file system without links, and three folders in it: the two trees stand apart, and the output is
-- the destination or stands apart from both.
structure Suited (fs : FileSystem) (template destination output : Path) : Prop where
  linkless             : fs.Linkless
  template_anchored    : fs.Anchored template
  destination_anchored : fs.Anchored destination
  output_anchored      : fs.Anchored output
  inputs               : Apart (fs.place template) (fs.place destination)
  target               : fs.place output = fs.place destination ∨
    Apart (fs.place output) (fs.place template) ∧ Apart (fs.place output) (fs.place destination)

instance (fs : FileSystem) (template destination output : Path) :
    Decidable (Suited fs template destination output) :=
  decidable_of_iff (fs.Linkless ∧ fs.Anchored template ∧ fs.Anchored destination ∧ fs.Anchored output ∧
      Apart (fs.place template) (fs.place destination) ∧
      (fs.place output = fs.place destination ∨
        Apart (fs.place output) (fs.place template) ∧ Apart (fs.place output) (fs.place destination)))
    ⟨fun ⟨h₁, h₂, h₃, h₄, h₅, h₆⟩ => ⟨h₁, h₂, h₃, h₄, h₅, h₆⟩,
      fun ⟨h₁, h₂, h₃, h₄, h₅, h₆⟩ => ⟨h₁, h₂, h₃, h₄, h₅, h₆⟩⟩

variable {fs fs₁ fs₂ : FileSystem} {folder : Path} {plan : Plan} {pattern path : Text} {done : List (List Text)}
variable {names names' : List Text} {w w' : World} {a b c : Bytes} {r r' : TreeReport}

theorem Suited.template_ne (h : Suited fs plan.template plan.destination plan.output)
    (names names' : List Text) : fs.place plan.template ++ names ≠ fs.place plan.output ++ names' := by
  cases h.target
  case inl he => exact he ▸ h.inputs.append_ne _ _
  case inr ha => exact (ha.1.append_ne _ _).symm

-- The contents of the trees and of the output before the run.
def Plan.template? (plan : Plan) (fs : FileSystem) (pattern : Text) : List Text → Option Bytes :=
  fs.found? pattern plan.template

def Plan.destination? (plan : Plan) (fs : FileSystem) (pattern : Text) : List Text → Option Bytes :=
  fs.found? pattern plan.destination

def Plan.output? (plan : Plan) (fs : FileSystem) (names : List Text) : Option Bytes :=
  fs.content? (fs.place plan.output ++ names)

-- What a run relies on.
structure Ready (fs : FileSystem) (plan : Plan) (pattern : Text) : Prop where
  suited  : Suited fs plan.template plan.destination plan.output
  told    : ToldApart plan.options (plan.template? fs pattern) (plan.destination? fs pattern)
    (plan.output? fs)
  check   : plan.check = false
  inPlace : plan.inPlace = true ↔ fs.place plan.output = fs.place plan.destination

-- How far a run has come: which paths it has settled. All other files are as they were.
structure Progress (fs : FileSystem) (plan : Plan) (pattern : Text) (done : List (List Text))
    (fs₁ : FileSystem) : Prop where
  grows   : Grows fs fs₁ fun loc => ∃ names ∈ done, loc = fs.place plan.output ++ names
  settled : ∀ names ∈ done, Settles plan.options (plan.template? fs pattern names)
    (plan.destination? fs pattern names) (plan.output? fs names) (plan.output? fs₁ names)

namespace Progress

theorem start (fs : FileSystem) (plan : Plan) (pattern : Text) : Progress fs plan pattern [] fs where
  grows   := .refl fs _
  settled := by simp

variable (h : Progress fs plan pattern done fs₁)
include h

theorem output?_eq (hn : names ∉ done) : plan.output? fs₁ names = plan.output? fs names := by
  rw [Plan.output?, h.grows.place_eq, Plan.output?]
  refine h.grows.content _ fun ⟨names', hm, he⟩ => hn ?_
  exact List.append_cancel_left he ▸ hm

theorem template_eq (suited : Suited fs plan.template plan.destination plan.output) (names : List Text) :
    fs₁.content? (fs.place plan.template ++ names) = fs.content? (fs.place plan.template ++ names) :=
  h.grows.content _ fun ⟨names', _, he⟩ => suited.template_ne names names' he

theorem destination_eq (suited : Suited fs plan.template plan.destination plan.output) (hn : names ∉ done) :
    fs₁.content? (fs.place plan.destination ++ names) =
      fs.content? (fs.place plan.destination ++ names) := by
  refine h.grows.content _ fun ⟨names', hm, he⟩ => ?_
  cases suited.target
  case inl ht => rw [ht] at he; exact hn (List.append_cancel_left he ▸ hm)
  case inr ha => exact ha.2.append_ne _ _ he.symm

-- A step settles a path of its own.
theorem step (hn : names ∉ done) (grows : Grows fs₁ fs₂ (· = fs.place plan.output ++ names))
    (settles : Settles plan.options (plan.template? fs pattern names) (plan.destination? fs pattern names)
      (plan.output? fs names) (plan.output? fs₂ names)) :
    Progress fs plan pattern (names :: done) fs₂ where
  grows :=
    (h.grows.weaken fun _ ⟨names', hm, he⟩ => ⟨names', List.mem_cons_of_mem _ hm, he⟩).trans
      (grows.weaken fun _ he => ⟨names, List.mem_cons_self, he⟩)
  settled names' hm := by
    cases hm
    case head => exact settles
    case tail hm =>
      have kept : plan.output? fs₂ names' = plan.output? fs₁ names' := by
        rw [Plan.output?, grows.place_eq, Plan.output?, h.grows.place_eq]
        exact grows.content _ fun he => hn (List.append_cancel_left he ▸ hm)
      exact kept ▸ h.settled names' hm

theorem writes (hl : fs.Linkless) (hn : names ∉ done) (proper : Path.Proper names)
    (written : Writes fs₁ fs₂ (plan.output.join (.relative names)) c)
    (settles : Settles plan.options (plan.template? fs pattern names) (plan.destination? fs pattern names)
      (plan.output? fs names) (some c)) : Progress fs plan pattern (names :: done) fs₂ := by
  have place : fs₁.place (plan.output.join (.relative names)) = fs.place plan.output ++ names := by
    rw [place_join proper.plain, h.grows.place_eq]
  have holds : plan.output? fs₂ names = some c := by
    rw [Plan.output?, written.place_eq, h.grows.place_eq, ← place, written.holds (h.grows.linkless hl)]
  refine h.step hn (place ▸ written.toGrows) ?_
  exact holds ▸ settles

theorem keep (hn : names ∉ done)
    (settles : Settles plan.options (plan.template? fs pattern names) (plan.destination? fs pattern names)
      (plan.output? fs names) (plan.output? fs names)) : Progress fs plan pattern (names :: done) fs₁ :=
  h.step hn (.refl _ _) (h.output?_eq hn ▸ settles)

end Progress

theorem below_toText (folder : Path) (h : Path.Proper names) :
    below folder (Path.relative names).toText = folder.join (.relative names) := by
  rw [below, Path.ofText_toText_relative h]

theorem anchored_parent (ha : fs.Anchored folder) (proper : Path.Proper names) :
    fs.Anchored (folder.join (.relative names)).parent := by
  rw [Path.parent_join_relative proper.some]
  exact ha.join proper.dropLast

theorem not_prefix_place_parent (fs : FileSystem) (folder : Path) (proper : Path.Proper names) :
    ¬fs.place (folder.join (.relative names)) <+: fs.place (folder.join (.relative names)).parent := by
  rw [Path.parent_join_relative proper.some, place_join proper.plain, place_join proper.dropLast]
  intro hp
  have shorter := ((List.prefix_append_right_inj _).mp hp).length_le
  have := List.length_pos_iff.mpr proper.some
  rw [List.length_dropLast] at shorter
  omega

-- The output of a successful copy is up to date.
theorem exists_updates_of_carry {changed : Bool} (hl : w.files.Linkless)
    (ha : w.files.Anchored plan.output) (check : plan.check = false) (proper : Path.Proper names)
    (h : Returns (carry plan (Path.relative names).toText) w changed w') :
    Compares w.files (plan.destination.join (.relative names)) (plan.output.join (.relative names)) changed ∧
      ∃ s held, w.files.content? (w.files.place plan.destination ++ names) = some s ∧
        Updates w.files w'.files (plan.output.join (.relative names)) s held ∧
          (w.files.place plan.destination ++ names ≠ w.files.place plan.output ++ names →
            Reads w'.files (plan.destination.join (.relative names)) (some s)) := by
  simp only [carry, below_toText _ proper, check, Bool.not_false, if_true] at h
  have ⟨differs, w₁, hd, h₁⟩ := returns_bind_iff.mp h
  obtain ⟨compares, rfl⟩ := returns_differ_iff.mp hd
  rw [← place_join (p := plan.destination) proper.plain, ← place_join (p := plan.output) proper.plain]
  split at h₁
  case isTrue hb =>
    have ⟨_, w₂, hc, h₂⟩ := returns_bind_iff.mp h₁
    obtain ⟨rfl, rfl⟩ := returns_pure_iff.mp h₂
    have ⟨s, source, apart, null, writes⟩ := writes_of_copy hl (anchored_parent ha proper)
      (not_prefix_place_parent _ _ proper) (fun null hf => ?_) hc
    case refine_1 =>
      cases compares
      case missing absent =>
        cases absent with
        | nothing absent => exact absent.not_folder null hl (ha.join proper.plain) hf
      case digests ht =>
        cases ht with
        | content _ ht =>
          have stands := content?_eq_some_iff.mp (content?_of_read hl ht)
          rw [hf] at stands
          cases stands
    exact ⟨hb ▸ compares, s, s, source, ⟨rfl, .inl rfl, null, writes⟩, apart⟩
  case isFalse hb =>
    obtain ⟨rfl, rfl⟩ := returns_pure_iff.mp h₁
    have hb : differs = false := by simpa using hb
    have ⟨s, t, hs, ht, same⟩ := compares.exists_digest_eq hb
    refine ⟨hb ▸ compares, s, t, ?_, ?_, fun _ => hs⟩
    case refine_1 =>
      cases hs with
      | content _ hs => exact content?_of_read hl hs
    case refine_2 =>
      cases ht with
      | content null ht => exact ⟨same, .inr (content?_of_read hl ht), null, .refl ht⟩

-- What a merge at a path finds in the trees, and that it brings the output up to date.
theorem exists_updates_of_mergeAt {outcome : FileOutcome} (hl : w.files.Linkless)
    (ha : w.files.Anchored plan.output) (check : plan.check = false) (proper : Path.Proper names)
    (h : Returns (mergeAt plan (Path.relative names).toText) w outcome w') :
    ∃ draft changed held, Merges w.files plan.options (plan.template.join (.relative names))
        (plan.destination.join (.relative names)) (plan.output.join (.relative names)) draft changed ∧
      outcome = ⟨plan.template.join (.relative names), plan.destination.join (.relative names),
        plan.output.join (.relative names), changed, changed, draft⟩ ∧
        Updates w.files w'.files (plan.output.join (.relative names)) (Utf8.encode draft.text) held := by
  simp only [mergeAt, below_toText _ proper, check] at h
  refine exists_updates_of_mergeFiles hl ?_ h
  exact anchored_parent ha proper

section Steps

variable (ready : Ready fs plan pattern) (progress : Progress fs plan pattern done w.files)
  (fresh : names ∉ done)
include ready progress fresh

-- A file is carried over to an output that is not the destination.
theorem progress_of_carry {changed : Bool} (hd : plan.destination? fs pattern names = some b)
    (settles : Settles plan.options (plan.template? fs pattern names) (some b) (plan.output? fs names) (some b))
    (h : Returns (carry plan (Path.relative names).toText) w changed w') :
    Progress fs plan pattern (names :: done) w'.files := by
  have suited := ready.suited
  have proper := proper_of_found hd
  have content := (found?_eq_some_iff.mp hd).2.2.2
  have ⟨_, s, held, hs, updates, _⟩ := exists_updates_of_carry (progress.grows.linkless suited.linkless)
    (progress.grows.anchored suited.output_anchored) ready.check
    proper h
  rw [progress.grows.place_eq, progress.destination_eq suited fresh, content] at hs
  cases hs
  have old := updates.old
  rw [place_join proper.plain] at old
  have same : held = b := old.elim id fun ho =>
    (ready.told _ _ (.copies hd ((progress.output?_eq fresh).symm.trans ho)) updates.same.symm).symm
  subst same
  exact progress.writes suited.linkless fresh proper updates.writes (hd ▸ settles)

-- A merge is written as its two files are in the trees.
theorem progress_of_mergeAt {outcome : FileOutcome} (ht : plan.template? fs pattern names = some a)
    (given : ∀ x, Reads w.files (plan.destination.join (.relative names)) x →
      x = plan.destination? fs pattern names)
    (differ : plan.destination? fs pattern names ≠ some a)
    (wanted : plan.destination? fs pattern names = none → plan.options.append = true)
    (h : Returns (mergeAt plan (Path.relative names).toText) w outcome w') :
    Progress fs plan pattern (names :: done) w'.files := by
  have suited := ready.suited
  have hl := progress.grows.linkless suited.linkless
  have proper := proper_of_found ht
  have content := (found?_eq_some_iff.mp ht).2.2.2
  have ⟨draft, _, held, merges, _, updates⟩ := exists_updates_of_mergeAt hl
    (progress.grows.anchored suited.output_anchored) ready.check
    proper h
  have ⟨a', x, ha, hb, yields⟩ := merges.exists_yields
  have ha := ha.content?_eq hl
  rw [place_join proper.plain, progress.grows.place_eq, progress.template_eq suited names, content] at ha
  cases ha
  obtain rfl := given _ hb
  have old := updates.old
  rw [place_join proper.plain] at old
  have same : held = Utf8.encode draft.text := old.elim id fun ho => ready.told _ _
    (.results ht differ wanted yields ((progress.output?_eq fresh).symm.trans ho)) updates.same
  subst same
  refine progress.writes suited.linkless fresh proper updates.writes ?_
  rw [ht]
  cases hd : plan.destination? fs pattern names with
  | none =>
    rw [hd] at yields
    exact .seeded (wanted hd) yields
  | some b =>
    rw [hd] at yields differ
    exact .merged (fun he => differ (he ▸ rfl)) yields

-- A file of the destination is read as the scan has read it.
theorem eq_of_reads (hd : plan.destination? fs pattern names = some b)
    (null : (plan.destination.join (.relative names)).hasNull = false)
    (hb : fs.read (plan.destination.join (.relative names)) = .ok b)
    {x : Option Bytes} (h : Reads w.files (plan.destination.join (.relative names)) x) : x = some b := by
  have hl := ready.suited.linkless
  have proper := proper_of_found hd
  have content := (found?_eq_some_iff.mp hd).2.2.2
  have same := progress.destination_eq ready.suited fresh
  have place : fs.place (plan.destination.join (.relative names)) = fs.place plan.destination ++ names :=
    place_join proper.plain
  cases h
  case content hc =>
    have held := content?_of_read (progress.grows.linkless hl) hc
    rw [progress.grows.place_eq, place, same, content] at held
    exact held.symm
  case nothing absent =>
    have stands := content?_eq_some_iff.mp (same.trans content)
    exact absurd (progress.grows.find hl (read_eq_ok_iff.mp hb) (place ▸ stands)) (absent.not_found null)

-- A file of both trees has the same content in both, or is merged.
theorem progress_of_both {same : Text → Bool} (ht : plan.template? fs pattern names = some a)
    (hd : plan.destination? fs pattern names = some b)
    (hsame : same (Path.relative names).toText = (digest a == digest b))
    (null : (plan.destination.join (.relative names)).hasNull = false)
    (hb : fs.read (plan.destination.join (.relative names)) = .ok b)
    (h : Returns (both plan same r (Path.relative names).toText) w r' w') :
    Progress fs plan pattern (names :: done) w'.files := by
  rw [both] at h
  split at h
  case isTrue hs =>
    have he : a = b := ready.told _ _ (.versions ht hd) (by simpa [hsame] using hs)
    subst he
    split at h
    case isTrue inPlace =>
      obtain ⟨_, rfl⟩ := returns_pure_iff.mp h
      refine progress.keep fresh ?_
      have held : plan.output? fs names = some a := by
        rw [Plan.output?, ready.inPlace.mp inPlace, (found?_eq_some_iff.mp hd).2.2.2]
      rw [ht, hd, held]
      exact .same
    case isFalse =>
      have ⟨changed, w₁, hc, h₁⟩ := returns_bind_iff.mp h
      obtain ⟨_, rfl⟩ := returns_pure_iff.mp h₁
      exact progress_of_carry ready progress fresh hd (by rw [ht]; exact .same) hc
  case isFalse hs =>
    have ⟨outcome, w₁, hm, h₁⟩ := returns_bind_iff.mp h
    obtain ⟨_, rfl⟩ := returns_pure_iff.mp h₁
    refine progress_of_mergeAt ready progress fresh ht (fun c hc => ?_) ?_ (by simp [hd]) hm
    case refine_1 =>
      rw [hd]
      exact eq_of_reads ready progress fresh hd null hb hc
    case refine_2 =>
      rw [hd]
      intro he
      cases he
      simp [hsame] at hs

-- A file that only the destination has is carried over.
theorem progress_of_onlyDestination (ht : plan.template? fs pattern names = none)
    (hd : plan.destination? fs pattern names = some b)
    (h : Returns (onlyDestination plan r (Path.relative names).toText) w r' w') :
    Progress fs plan pattern (names :: done) w'.files := by
  have ⟨changed, w₁, hc, h₁⟩ := returns_bind_iff.mp h
  obtain ⟨_, rfl⟩ := returns_pure_iff.mp h₁
  exact progress_of_carry ready progress fresh hd (by rw [ht]; exact .carried) hc

-- A file that only the template has is merged into nothing, or left out.
theorem progress_of_onlyTemplate (ht : plan.template? fs pattern names = some a)
    (hd : plan.destination? fs pattern names = none)
    (h : Returns (onlyTemplate plan r (Path.relative names).toText) w r' w') :
    Progress fs plan pattern (names :: done) w'.files := by
  rw [onlyTemplate] at h
  split at h
  case isFalse hs =>
    obtain ⟨_, rfl⟩ := returns_pure_iff.mp h
    refine progress.keep fresh ?_
    rw [ht, hd]
    exact .skipped (by simpa using hs)
  case isTrue append =>
    have ⟨outcome, w₁, hm, h₁⟩ := returns_bind_iff.mp h
    obtain ⟨_, rfl⟩ := returns_pure_iff.mp h₁
    refine progress_of_mergeAt ready progress fresh ht (fun c hc => ?_) (by simp [hd]) (fun _ => append) hm
    rw [hd]
    cases hc
    case nothing => rfl
    case content hc =>
      -- A file that the merge reads at this path would have been found by the scan.
      have hl := progress.grows.linkless ready.suited.linkless
      have ⟨_, hn, matching, _⟩ := found?_eq_some_iff.mp ht
      have ⟨admits, _, _⟩ := (find_eq_ok_iff hl).mp (read_eq_ok_iff.mp hc)
      have proper := proper_of_found ht
      have held := content?_of_read hl hc
      rw [progress.grows.place_eq, place_join proper.plain, progress.destination_eq ready.suited fresh] at held
      have found := found?_eq_some_iff.mpr ⟨isTooLong_under_dropLast proper admits.short, hn, matching, held⟩
      rw [Plan.destination?, found] at hd
      cases hd

end Steps

end Trees
end EnvMerge
