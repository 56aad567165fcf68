import EnvMerge.Proofs.Files.Below
import EnvMerge.Proofs.Files.Links
import Mathlib.Data.List.Perm.Subperm

namespace EnvMerge.FileSystem

variable {fs : FileSystem} {loc loc' a b : Location} {name target : Text} {names rest : List Text}
variable {n m depth : Nat} {opened : List Location}

-- Where names lead when each link on the way is followed to its end, and how deep links lie in links.
-- What is missing is taken as written.
inductive Ends (fs : FileSystem) : Nat → Location → List Text → Location → Prop
  | done {loc : Location} : Ends fs 0 loc [] loc
  | stay {n : Nat} {loc loc' : Location} {name : Text} {rest : List Text} (dot : name = [] ∨ name = ['.'])
      (next : Ends fs n loc rest loc') : Ends fs n loc (name :: rest) loc'
  | up {n : Nat} {loc loc' : Location} {rest : List Text} (next : Ends fs n loc.dropLast rest loc') :
      Ends fs n loc (['.', '.'] :: rest) loc'
  | step {n : Nat} {loc loc' : Location} {name : Text} {rest : List Text}
      (dotless : ¬(name = [] ∨ name = ['.'])) (down : name ≠ ['.', '.'])
      (other : ∀ target, fs.node? (loc ++ [name]) ≠ some (.link target))
      (next : Ends fs n (loc ++ [name]) rest loc') : Ends fs n loc (name :: rest) loc'
  | jump {n k : Nat} {loc loc' mid : Location} {name target : Text} {rest : List Text}
      (dotless : ¬(name = [] ∨ name = ['.'])) (down : name ≠ ['.', '.'])
      (link : fs.node? (loc ++ [name]) = some (.link target))
      (inner : Ends fs k (targetStart loc target) (targetNames target) mid)
      (next : Ends fs n mid rest loc') : Ends fs (max (k + 1) n) loc (name :: rest) loc'

theorem Ends.unique (h : Ends fs n loc names a) (h' : Ends fs m loc names b) : n = m ∧ a = b := by
  induction h generalizing m b
  case done =>
    cases h'
    exact ⟨rfl, rfl⟩
  case stay dot _ ih =>
    cases h'
    case stay next           => exact ih next
    case up                  => simp at dot
    case step dotless _ _ _  => exact absurd dot dotless
    case jump dotless _ _ _  => exact absurd dot dotless
  case up ih =>
    cases h'
    case up next           => exact ih next
    case stay dot _        => simp at dot
    case step down _ _     => exact absurd rfl down
    case jump down _ _     => exact absurd rfl down
  case step dotless down other _ ih =>
    cases h'
    case step next         => exact ih next
    case stay dot _        => exact absurd dot dotless
    case up                => exact absurd rfl down
    case jump link _       => exact absurd link (other _)
  case jump dotless down link _ _ inner next =>
    cases h'
    case stay dot _                => exact absurd dot dotless
    case up                        => exact absurd rfl down
    case step other _              => exact absurd link (other _)
    case jump inner' _ _ link' next' =>
      cases link.symm.trans link'
      obtain ⟨rfl, rfl⟩ := inner inner'
      obtain ⟨rfl, rfl⟩ := next next'
      exact ⟨rfl, rfl⟩

-- No link leads back to itself: what each one names can be followed to an end.
def Loopless (fs : FileSystem) : Prop :=
  ∀ loc name target, fs.node? (loc ++ [name]) = some (.link target) →
    ∃ n loc', Ends fs n (targetStart loc target) (targetNames target) loc'

theorem Loopless.exists_ends (h : fs.Loopless) (loc : Location) (names : List Text) :
    ∃ n loc', Ends fs n loc names loc' := by
  induction names generalizing loc
  case nil => exact ⟨0, loc, .done⟩
  case cons name rest ih =>
    by_cases dot : name = [] ∨ name = ['.']
    case pos =>
      have ⟨n, loc', next⟩ := ih loc
      exact ⟨n, loc', .stay dot next⟩
    case neg =>
      by_cases dots : name = ['.', '.']
      case pos =>
        subst dots
        have ⟨n, loc', next⟩ := ih loc.dropLast
        exact ⟨n, loc', .up next⟩
      case neg =>
        by_cases linked : ∃ target, fs.node? (loc ++ [name]) = some (.link target)
        case neg =>
          have ⟨n, loc', next⟩ := ih (loc ++ [name])
          exact ⟨n, loc', .step dot dots (not_exists.mp linked) next⟩
        case pos =>
          have ⟨target, link⟩ := linked
          have ⟨k, mid, inner⟩ := h loc name target link
          have ⟨n, loc', next⟩ := ih mid
          exact ⟨_, loc', .jump dot dots link inner next⟩

-- Links that are being followed, each of them on a way that is no less deep than what is left to go.
structure Opens (fs : FileSystem) (n : Nat) (opened : List Location) : Prop where
  nodup : opened.Nodup
  deep  : ∀ l ∈ opened, ∃ loc name target k loc', l = loc ++ [name] ∧ fs.node? l = some (.link target) ∧
    Ends fs k (targetStart loc target) (targetNames target) loc' ∧ n ≤ k

namespace Opens

theorem mono (h : Opens fs n opened) (hm : m ≤ n) : Opens fs m opened where
  nodup     := h.nodup
  deep l hl :=
    have ⟨loc, name, target, k, loc', he, link, ends, hn⟩ := h.deep l hl
    ⟨loc, name, target, k, loc', he, link, ends, Nat.le_trans hm hn⟩

theorem length_le (h : Opens fs n opened) : opened.length ≤ fs.entries.length := by
  have sub : opened ⊆ fs.entries.map (·.1) := by
    intro l hl
    have ⟨_, _, _, _, _, he, link, _⟩ := h.deep l hl
    exact List.mem_map_of_mem (f := (·.1)) ((mem_entries_iff (by simp [he])).mpr link)
  simpa using (List.subperm_of_subset h.nodup sub).length_le

-- A link on the way is none of those that are being followed, or it would be deeper than itself.
theorem cons {k : Nat} (h : Opens fs (max (k + 1) n) opened)
    (link : fs.node? (loc ++ [name]) = some (.link target))
    (inner : Ends fs k (targetStart loc target) (targetNames target) loc') :
    loc ++ [name] ∉ opened ∧ Opens fs k ((loc ++ [name]) :: opened) := by
  have new : loc ++ [name] ∉ opened := by
    intro hm
    have ⟨l, m, t, k', _, he, link', ends, deep⟩ := h.deep _ hm
    obtain ⟨rfl, hs⟩ := List.append_inj' he rfl
    cases List.singleton_inj.mp hs
    cases link.symm.trans link'
    have := (ends.unique inner).1
    omega
  refine ⟨new, List.nodup_cons.mpr ⟨new, h.nodup⟩, fun l hl => ?_⟩
  cases hl
  case head    => exact ⟨loc, name, target, k, loc', rfl, link, inner, Nat.le_refl k⟩
  case tail hl => exact (h.mono (by omega)).deep l hl

end Opens

-- Names that lead to an end are followed there. The fuel is enough, since no more links can be open at
-- once than there are.
theorem unlink_of_ends (h : Ends fs n loc names loc') (ho : Opens fs n opened)
    (hd : depth + opened.length = fs.entries.length) :
    fs.unlink (depth + 1) opened loc names = (loc', true) := by
  induction h generalizing depth opened
  case done => rfl
  case stay dot _ ih =>
    have onward := ih ho hd
    rw [unlink] at onward ⊢
    rw [unlinkNames, if_pos dot, onward]
  case up ih =>
    have onward := ih ho hd
    rw [unlink] at onward ⊢
    rw [unlinkNames, if_neg (by simp), if_pos rfl, onward]
  case step dotless down other _ ih =>
    have onward := ih ho hd
    rw [unlink] at onward ⊢
    rw [unlinkNames, if_neg dotless, if_neg down]
    split
    case h_1 target link => exact absurd link (other target)
    case h_2             => exact onward
  case jump loc _ _ name _ _ dotless down link inner _ ihInner ihNext =>
    obtain ⟨new, opens⟩ := ho.cons link inner
    have more := opens.length_le
    rw [List.length_cons] at more
    obtain ⟨d, rfl⟩ : ∃ d, depth = d + 1 := ⟨depth - 1, by omega⟩
    have less : d + ((loc ++ [name]) :: opened).length = fs.entries.length := by
      rw [List.length_cons]
      omega
    have entered := ihInner opens less
    have onward := ihNext (ho.mono (by omega)) hd
    rw [unlink] at onward ⊢
    rw [unlinkNames, if_neg dotless, if_neg down, link]
    simp only [if_neg new, entered, onward]

-- A location that no link stands on the way to, made of names that lead down.
structure Clear (fs : FileSystem) (loc : Location) : Prop where
  dotless  : ∀ init name, init ++ [name] <+: loc → ¬(name = [] ∨ name = ['.'])
  down     : ∀ init name, init ++ [name] <+: loc → name ≠ ['.', '.']
  linkless : ∀ init name, init ++ [name] <+: loc → ∀ target, fs.node? (init ++ [name]) ≠ some (.link target)

namespace Clear

theorem nil : Clear fs [] where
  dotless  := by simp
  down     := by simp
  linkless := by simp

theorem mono (h : Clear fs loc) (hp : loc' <+: loc) : Clear fs loc' where
  dotless init name hn  := h.dotless init name (hn.trans hp)
  down init name hn     := h.down init name (hn.trans hp)
  linkless init name hn := h.linkless init name (hn.trans hp)

theorem concat (h : Clear fs loc) (dotless : ¬(name = [] ∨ name = ['.'])) (down : name ≠ ['.', '.'])
    (other : ∀ target, fs.node? (loc ++ [name]) ≠ some (.link target)) : Clear fs (loc ++ [name]) := by
  have cases_ {init : Location} {last : Text} (hp : init ++ [last] <+: loc ++ [name]) :
      (init = loc ∧ last = name) ∨ init ++ [last] <+: loc := by
    refine (List.prefix_concat_iff.mp hp).imp_left fun he => ?_
    have ⟨hl, hn⟩ := List.append_inj' he rfl
    exact ⟨hl, List.singleton_inj.mp hn⟩
  refine ⟨fun init last hp => ?_, fun init last hp => ?_, fun init last hp => ?_⟩
  all_goals
    rcases cases_ hp with ⟨rfl, rfl⟩ | hp
  case refine_1.inl => exact dotless
  case refine_2.inl => exact down
  case refine_3.inl => exact other
  case refine_1.inr => exact h.dotless _ _ hp
  case refine_2.inr => exact h.down _ _ hp
  case refine_3.inr => exact h.linkless _ _ hp

theorem targetStart (h : Clear fs loc) (target : Text) : Clear fs (targetStart loc target) := by
  rw [FileSystem.targetStart]
  split
  case isTrue  => exact nil
  case isFalse => exact h

end Clear

theorem Ends.clear (h : Ends fs n loc names loc') (hc : Clear fs loc) : Clear fs loc' := by
  induction h
  case done                           => exact hc
  case stay ih                        => exact ih hc
  case up ih                          => exact ih (hc.mono (List.dropLast_prefix _))
  case step dotless down other _ ih   => exact ih (hc.concat dotless down other)
  case jump inner next                => exact next (inner (hc.targetStart _))

theorem clear_of_folder (hf : fs.node? loc = some .folder) : Clear fs loc := by
  have above {init : Location} {name : Text} (hp : init ++ [name] <+: loc) :
      fs.node? (init ++ [name]) = some .folder := by
    obtain ⟨rest, rfl⟩ := hp
    by_cases hr : rest = []
    case pos => simpa [hr] using hf
    case neg => exact folder_of_append hr (Option.isSome_of_eq_some hf)
  have plain {init : Location} {name : Text} (hp : init ++ [name] <+: loc) : Path.Plain name :=
    (entryName_of_isSome (Option.isSome_of_eq_some (above hp))).toPlain
  refine ⟨fun init name hp => ?_, fun init name hp => (plain hp).ne_dots, fun init name hp => ?_⟩
  case refine_1 => simp [(plain hp).some, (plain hp).ne_dot]
  case refine_2 => simp [above hp]

-- No link is met on the way to a clear location.
theorem walk_clear_ne {aim : Aim} {jump : Location → List Text → Except FileError.Cause Location}
    (h : Clear fs (loc ++ names)) (ha : aim ≠ .output) :
    fs.walk aim jump loc names ≠ .error .tooManyLinks := by
  induction names generalizing loc
  case nil => simp [walk]
  case cons name rest ih =>
    have here : loc ++ [name] <+: loc ++ name :: rest := ⟨rest, by simp⟩
    have onward : Clear fs (loc ++ [name] ++ rest) := by simpa using h
    rw [walk, if_neg (h.dotless _ _ here), if_neg (h.down _ _ here), if_neg fun ho => ha ho.1]
    split
    case isTrue  => simp
    case isFalse =>
      cases hn : fs.node? (loc ++ [name]) with
      | none =>
        dsimp only
        split <;> simp
      | some n =>
        cases n
        case folder      => exact ih onward
        case link target => exact absurd hn (h.linkless _ _ here target)
        case file        =>
          dsimp only
          split <;> simp

-- Without loops each path that begins in a folder means a place, however many links lead there.
theorem exists_resolve {p : Path} (h : fs.Loopless) (begun : fs.node? (fs.start p) = some .folder) :
    ∃ loc, fs.resolve p = .ok loc := by
  have ⟨n, loc, ends⟩ := h.exists_ends (fs.start p) p.names
  have followed : fs.unlink (fs.entries.length + 1) [] (fs.start p) p.names = (loc, true) :=
    unlink_of_ends ends ⟨List.nodup_nil, by simp⟩ rfl
  have clear : Clear fs ([] ++ loc) := ends.clear (clear_of_folder begun)
  have open_ : fs.walkLinks .node maxLinks [] loc ≠ .error .tooManyLinks := by
    rw [walkLinks_eq]
    exact walk_clear_ne clear (by simp)
  refine ⟨loc, ?_⟩
  rw [resolve, followed]
  dsimp only
  split
  case h_1 hw => exact absurd hw open_
  case h_2    => rfl

-- Names that are followed to an end lead there.
theorem exists_ends_of_unlinkNames {enter : Location → Location → List Text → Location × Bool}
    (he : ∀ l first names, (enter l first names).2 = true → ∃ k, Ends fs k first names (enter l first names).1)
    (h : (fs.unlinkNames enter loc names).2 = true) :
    ∃ n, Ends fs n loc names (fs.unlinkNames enter loc names).1 := by
  induction names generalizing loc
  case nil => exact ⟨0, .done⟩
  case cons name rest ih =>
    rw [unlinkNames] at h ⊢
    split
    case isTrue dot =>
      rw [if_pos dot] at h
      obtain ⟨n, next⟩ := ih h
      exact ⟨n, .stay dot next⟩
    case isFalse dotless =>
      rw [if_neg dotless] at h
      split
      case isTrue dots =>
        subst dots
        rw [if_pos rfl] at h
        obtain ⟨n, next⟩ := ih h
        exact ⟨n, .up next⟩
      case isFalse down =>
        rw [if_neg down] at h
        split
        case h_2 other =>
          have onward : (fs.unlinkNames enter (loc ++ [name]) rest).2 = true := by simpa using h
          obtain ⟨n, next⟩ := ih onward
          exact ⟨n, .step dotless down other next⟩
        case h_1 target link =>
          simp only [link] at h
          cases hi : enter (loc ++ [name]) (targetStart loc target) (targetNames target) with
          | mk mid ended =>
            rw [hi] at h
            have inner := he (loc ++ [name]) (targetStart loc target) (targetNames target)
            rw [hi] at inner
            cases ended
            case false => simp at h
            case true  =>
              obtain ⟨k, inner⟩ := inner rfl
              obtain ⟨n, next⟩ := ih h
              exact ⟨_, .jump dotless down link inner next⟩

theorem exists_ends_of_unlink (h : (fs.unlink depth opened loc names).2 = true) :
    ∃ n, Ends fs n loc names (fs.unlink depth opened loc names).1 := by
  induction depth generalizing opened loc names
  case zero          => exact exists_ends_of_unlinkNames (fun _ _ _ h => by simp at h) h
  case succ depth ih =>
    refine exists_ends_of_unlinkNames (fun l first names h => ?_) h
    split at h
    case isTrue          => simp at h
    case isFalse notOpen =>
      rw [if_neg notOpen]
      exact ih h

-- Whether links lead back to themselves is found out by following each of them.
theorem loopless_iff : fs.Loopless ↔ ∀ e ∈ fs.entries, ∀ target, e.2 = .link target →
    (fs.unlink (fs.entries.length + 1) [] (targetStart e.1.dropLast target) (targetNames target)).2 = true := by
  constructor
  case mp =>
    intro h ⟨l, node⟩ hm target he
    have hn := (fs.placed _ hm).ne_nil
    have ⟨loc, name, hl⟩ := (List.eq_nil_or_concat l).resolve_left hn
    subst he hl
    have link := (mem_entries_iff hn).mp hm
    rw [List.concat_eq_append] at link
    have ⟨n, loc', ends⟩ := h loc name target link
    have followed : fs.unlink (fs.entries.length + 1) [] (targetStart loc target) (targetNames target) =
        (loc', true) := unlink_of_ends ends ⟨List.nodup_nil, by simp⟩ rfl
    simp [followed]
  case mpr =>
    intro h loc name target link
    have followed := h _ ((mem_entries_iff (by simp)).mpr link) target rfl
    rw [List.dropLast_concat] at followed
    have ⟨n, ends⟩ := exists_ends_of_unlink followed
    exact ⟨n, _, ends⟩

instance (n : Node) (P : Text → Prop) [DecidablePred P] : Decidable (∀ target, n = .link target → P target) :=
  match n with
  | .folder      => isTrue (by simp)
  | .file _      => isTrue (by simp)
  | .link target => decidable_of_iff (P target) (by simp)

instance : Decidable fs.Loopless :=
  decidable_of_iff _ loopless_iff.symm

end EnvMerge.FileSystem
