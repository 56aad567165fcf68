import EnvMerge.Files.System

namespace EnvMerge.FileSystem

variable {fs fs' : FileSystem} {aim aim' : Aim} {p : Path} {loc loc' : Location} {names : List Text}
variable {links : Nat} {c : Bytes} {n : Node} {jump : Location → List Text → Except FileError.Cause Location}

-- The way that names lead from a folder, with at most so many links on it.
inductive Reaches (fs : FileSystem) (aim : Aim) : Nat → Location → List Text → Location → Prop
  | done {links : Nat} {loc : Location} : Reaches fs aim links loc [] loc
  | stay {links : Nat} {loc loc' : Location} {name : Text} {rest : List Text} (dot : name = [] ∨ name = ['.'])
      (next : Reaches fs aim links loc rest loc') : Reaches fs aim links loc (name :: rest) loc'
  | up {links : Nat} {loc loc' : Location} {rest : List Text}
      (next : Reaches fs aim links loc.dropLast rest loc') :
      Reaches fs aim links loc (['.', '.'] :: rest) loc'
  | enter {links : Nat} {loc loc' : Location} {name : Text} {rest : List Text}
      (dotless : ¬(name = [] ∨ name = ['.'])) (down : name ≠ ['.', '.'])
      (short : (Utf8.encode name).length ≤ maxNameLength)
      (folder : fs.node? (loc ++ [name]) = some .folder)
      (next : Reaches fs aim links (loc ++ [name]) rest loc') : Reaches fs aim links loc (name :: rest) loc'
  | follow {links : Nat} {loc loc' : Location} {name target : Text} {rest : List Text}
      (dotless : ¬(name = [] ∨ name = ['.'])) (down : name ≠ ['.', '.'])
      (short : (Utf8.encode name).length ≤ maxNameLength)
      (link : fs.node? (loc ++ [name]) = some (.link target)) (on : ¬(rest = [] ∧ aim = .entry))
      (next : Reaches fs aim links (targetStart loc target) (targetNames target ++ rest) loc') :
      Reaches fs aim (links + 1) loc (name :: rest) loc'
  | stop {links : Nat} {loc : Location} {name : Text} (dotless : ¬(name = [] ∨ name = ['.']))
      (down : name ≠ ['.', '.']) (short : (Utf8.encode name).length ≤ maxNameLength)
      (other : fs.node? (loc ++ [name]) ≠ some .folder)
      (last : ∀ target, fs.node? (loc ++ [name]) = some (.link target) → aim = .entry) :
      Reaches fs aim links loc [name] (loc ++ [name])

theorem walkLinks_eq (fs : FileSystem) (aim : Aim) (links : Nat) : fs.walkLinks aim links = fs.walk aim
    (match links with
      | 0         => fun _ _ => .error .tooManyLinks
      | links + 1 => fs.walkLinks aim links) := by
  cases links <;> rfl

theorem reaches_of_walk
    (hj : ∀ l names l', jump l names = .ok l' → ∃ k, links = k + 1 ∧ Reaches fs aim k l names l')
    (h : fs.walk aim jump loc names = .ok loc') : Reaches fs aim links loc names loc' := by
  induction names generalizing loc
  case nil =>
    cases h
    exact .done
  case cons name rest ih =>
    rw [walk] at h
    split at h
    case isTrue dot => exact .stay dot (ih h)
    case isFalse dotless =>
      split at h
      case isTrue dots =>
        subst dots
        exact .up (ih h)
      case isFalse down =>
        split at h
        case isTrue => cases h
        case isFalse =>
          split at h
          case isTrue => cases h
          case isFalse short =>
            rw [Nat.not_lt] at short
            -- where nothing or a file stands, the name has to be the last
            have stop {e : FileError.Cause} (other : fs.node? (loc ++ [name]) ≠ some .folder)
                (unlinked : ∀ target, fs.node? (loc ++ [name]) ≠ some (.link target))
                (h : (if rest = [] then .ok (loc ++ [name]) else .error e) = Except.ok loc') :
                Reaches fs aim links loc (name :: rest) loc' := by
              split at h
              case isFalse   => cases h
              case isTrue hr =>
                cases h
                subst hr
                exact .stop dotless down short other fun target ht => absurd ht (unlinked target)
            cases hn : fs.node? (loc ++ [name]) with
            | none =>
              rw [hn] at h
              exact stop (by simp [hn]) (by simp [hn]) h
            | some n =>
              rw [hn] at h
              cases n
              case folder => exact .enter dotless down short hn (ih h)
              case file   => exact stop (by simp [hn]) (by simp [hn]) h
              case link target =>
                dsimp only at h
                split at h
                case isTrue hr =>
                  cases h
                  obtain ⟨rfl, rfl⟩ := hr
                  exact .stop dotless down short (by simp [hn]) fun _ _ => rfl
                case isFalse on =>
                  obtain ⟨k, rfl, next⟩ := hj _ _ _ h
                  exact .follow dotless down short hn on next

theorem reaches_of_walkLinks (h : fs.walkLinks aim links loc names = .ok loc') :
    Reaches fs aim links loc names loc' := by
  induction links generalizing loc names loc'
  case zero         => exact reaches_of_walk (fun _ _ _ h => by cases h) h
  case succ links ih => exact reaches_of_walk (fun _ _ _ h => ⟨links, rfl, ih h⟩) h

theorem walkLinks_of_reaches (ha : aim ≠ .output) (h : Reaches fs aim links loc names loc') :
    fs.walkLinks aim links loc names = .ok loc' := by
  induction h
  case done => rw [walkLinks_eq, walk]
  case stay dot _ ih =>
    rw [walkLinks_eq] at ih ⊢
    rw [walk, if_pos dot, ih]
  case up _ ih =>
    rw [walkLinks_eq] at ih ⊢
    simpa [walk] using ih
  case enter dotless down short folder _ ih =>
    rw [walkLinks_eq] at ih ⊢
    simp only [walk, if_neg dotless, if_neg down, ha, false_and, if_false, if_neg (Nat.not_lt.mpr short),
      folder, ih]
  case follow dotless down short link on _ ih =>
    simp only [walkLinks, walk, if_neg dotless, if_neg down, ha, false_and, if_false,
      if_neg (Nat.not_lt.mpr short), link, if_neg on, ih]
  case stop loc name dotless down short other last =>
    rw [walkLinks_eq]
    simp only [walk, if_neg dotless, if_neg down, ha, false_and, if_false, if_neg (Nat.not_lt.mpr short)]
    cases hn : fs.node? (loc ++ [name]) with
    | none   => rfl
    | some n =>
      cases n
      case folder      => exact absurd hn other
      case file        => rfl
      case link target => simp [last target hn]

namespace Reaches

-- A way to what stands at its end is one to where a file is written, and the other way round.
theorem retarget (h : Reaches fs aim links loc names loc') (ha : aim ≠ .entry) (ha' : aim' ≠ .entry) :
    Reaches fs aim' links loc names loc' := by
  induction h
  case done                                      => exact .done
  case stay dot _ ih                             => exact .stay dot ih
  case up _ ih                                   => exact .up ih
  case enter dotless down short folder _ ih      => exact .enter dotless down short folder ih
  case follow dotless down short link _ _ ih     => exact .follow dotless down short link (fun h => ha' h.2) ih
  case stop dotless down short other last        =>
    exact .stop dotless down short other fun target ht => absurd (last target ht) ha

-- Where folders stay folders and links stay what they are, names lead where they have led.
theorem mono (h : Reaches fs aim links loc names loc')
    (folder : ∀ l, fs.node? l = some .folder → fs'.node? l = some .folder)
    (link : ∀ l target, fs'.node? l = some (.link target) ↔ fs.node? l = some (.link target)) :
    Reaches fs' aim links loc names loc' := by
  induction h
  case done                                   => exact .done
  case stay dot _ ih                          => exact .stay dot ih
  case up _ ih                                => exact .up ih
  case enter dotless down short here _ ih     => exact .enter dotless down short (folder _ here) ih
  case follow dotless down short here on _ ih => exact .follow dotless down short ((link _ _).mpr here) on ih
  case stop loc name dotless down short _ last =>
    by_cases hf : fs'.node? (loc ++ [name]) = some .folder
    case pos => exact .enter dotless down short hf .done
    case neg => exact .stop dotless down short hf fun target ht => last target ((link _ _).mp ht)

end Reaches

-- Whether a system takes a path up: the path is not too long, and begins in a folder that is there.
structure Admits (fs : FileSystem) (p : Path) : Prop where
  short : isTooLong p = false
  begun : fs.node? (fs.start p) = some .folder

theorem locate_eq_ok_iff : fs.locate aim p = .ok loc ↔
    fs.Admits p ∧ fs.walkLinks aim maxLinks (fs.start p) p.names = .ok loc := by
  rw [locate]
  split
  case isTrue long   => exact iff_of_false nofun fun ⟨admits, _⟩ => by simp [admits.short] at long
  case isFalse short =>
    split
    case isTrue lost   => exact iff_of_false nofun fun ⟨admits, _⟩ => lost admits.begun
    case isFalse begun =>
      rw [and_iff_right ⟨by simpa using short, Decidable.not_not.mp begun⟩]
      cases fs.walkLinks aim maxLinks (fs.start p) p.names
      case error => exact iff_of_false nofun nofun
      case ok    => exact ⟨fun h => congrArg _ (Except.ok.inj h), fun h => congrArg _ (Except.ok.inj h)⟩

theorem exists_reaches_of_locate (h : fs.locate aim p = .ok loc) :
    fs.Admits p ∧ Reaches fs aim maxLinks (fs.start p) p.names loc :=
  (locate_eq_ok_iff.mp h).imp_right reaches_of_walkLinks

theorem locate_of_reaches (ha : aim ≠ .output) (admits : fs.Admits p)
    (h : Reaches fs aim maxLinks (fs.start p) p.names loc) : fs.locate aim p = .ok loc :=
  locate_eq_ok_iff.mpr ⟨admits, walkLinks_of_reaches ha h⟩

theorem find_eq_ok_iff_exists :
    fs.find p = .ok n ↔ ∃ loc, fs.locate .node p = .ok loc ∧ fs.node? loc = some n := by
  rw [find]
  cases hloc : fs.locate .node p
  case error  => simp [bind, Except.bind]
  case ok loc =>
    simp only [bind, Except.bind, Except.ok.injEq, exists_eq_left']
    split
    case h_1 found   => simp [found, pure, Except.pure]
    case h_2 missing => simp [missing, throw, throwThe, MonadExceptOf.throw]

theorem write_eq_ok_iff : fs.write p c = .ok fs' ↔
    ∃ loc, fs.locate .output p = .ok loc ∧ fs.Fits loc ∧ fs' = fs.put loc (.file c) := by
  rw [write]
  cases hloc : fs.locate .output p
  case error  => simp [bind, Except.bind]
  case ok loc =>
    simp only [bind, Except.bind, Except.ok.injEq, exists_eq_left']
    split
    case isTrue folder => exact iff_of_false nofun fun ⟨fits, _⟩ => fits.free folder
    case isFalse =>
      split
      case isTrue fits      => exact (Except.ok.injEq _ _).to_iff.trans (by simp [fits, eq_comm])
      case isFalse unfit    => exact iff_of_false nofun fun ⟨fits, _⟩ => unfit fits

theorem makeFolder_eq_ok_iff : fs.makeFolder p = .ok fs' ↔
    ∃ loc, fs.locate .entry p = .ok loc ∧ fs.node? loc = none ∧ fs.Fits loc ∧ fs' = fs.put loc .folder := by
  rw [makeFolder]
  cases hloc : fs.locate .entry p
  case error  => simp [bind, Except.bind]
  case ok loc =>
    simp only [bind, Except.bind, Except.ok.injEq, exists_eq_left']
    split
    case isTrue taken => exact iff_of_false nofun fun ⟨free, _⟩ => by simp [free] at taken
    case isFalse free =>
      rw [and_iff_right (by simpa using free)]
      split
      case isTrue fits   => exact (Except.ok.injEq _ _).to_iff.trans (by simp [fits, eq_comm])
      case isFalse unfit => exact iff_of_false nofun fun ⟨fits, _⟩ => unfit fits

end EnvMerge.FileSystem
