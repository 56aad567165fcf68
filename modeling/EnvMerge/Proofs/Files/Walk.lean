import EnvMerge.Proofs.Files.Path
import EnvMerge.Proofs.Files.Way
import Mathlib.Data.List.Induction

namespace EnvMerge.FileSystem

variable {fs fs' : FileSystem} {aim : Aim} {p : Path} {loc loc' : Location}
variable {n : Node} {name : Text} {names names' rest : List Text} {links : Nat}
variable {jump : Location → List Text → Except FileError.Cause Location}
variable {result : Except FileError.Cause Location}

def Linkless (fs : FileSystem) : Prop :=
  ∀ loc target, fs.node? loc ≠ some (.link target)

@[simp] theorem node?_root : fs.node? [] = some .folder := by
  simp [node?]

theorem node?_start (here : fs.node? fs.here = some .folder) (p : Path) :
    fs.node? (fs.start p) = some .folder := by
  rw [start]
  split
  case isTrue  => exact node?_root
  case isFalse => exact here

theorem linkless_iff : fs.Linkless ↔ ∀ e ∈ fs.entries, ∀ target, e.2 ≠ .link target := by
  constructor
  case mp =>
    intro h e hm target he
    exact h e.1 target (he ▸ (mem_entries_iff (fs.placed e hm).ne_nil).mp hm)
  case mpr =>
    intro h loc target hs
    by_cases hn : loc = []
    case pos => simp [hn] at hs
    case neg => exact h _ ((mem_entries_iff hn).mpr hs) target rfl

instance (n : Node) : Decidable (∀ target, n ≠ .link target) :=
  match n with
  | .folder      => isTrue (by simp)
  | .file _      => isTrue (by simp)
  | .link target => isFalse fun h => h target rfl

instance : Decidable fs.Linkless :=
  decidable_of_iff _ linkless_iff.symm

-- What stands anywhere stands in a folder, under a name for it.
theorem placed_of_isSome (hs : (fs.node? (loc ++ [name])).isSome) : Placed fs.entries (loc ++ [name]) :=
  have ⟨_, hn⟩ := Option.isSome_iff_exists.mp hs
  fs.placed _ ((mem_entries_iff (by simp)).mpr hn)

theorem entryName_of_isSome (hs : (fs.node? (loc ++ [name])).isSome) : EntryName name := by
  simpa using (placed_of_isSome hs).named

theorem folder_of_isSome (hs : (fs.node? (loc ++ [name])).isSome) : fs.node? loc = some .folder := by
  have folder := (placed_of_isSome hs).folder
  rw [List.dropLast_concat] at folder
  by_cases hn : loc = []
  case pos => simp [hn]
  case neg => exact (mem_entries_iff hn).mp (folder.resolve_left hn)

theorem folder_of_append (hn : names ≠ []) (hs : (fs.node? (loc ++ names)).isSome) :
    fs.node? loc = some .folder := by
  induction names using List.reverseRecOn
  case nil => exact absurd rfl hn
  case append_singleton names name ih =>
    rw [← List.append_assoc] at hs
    have folder := folder_of_isSome hs
    by_cases he : names = []
    case pos => simpa [he] using folder
    case neg => exact ih he (Option.isSome_of_eq_some folder)

theorem folder_dropLast (hf : fs.node? loc = some .folder) : fs.node? loc.dropLast = some .folder := by
  cases List.eq_nil_or_concat loc
  case inl hn => simp [hn]
  case inr hc =>
    have ⟨parent, name, he⟩ := hc
    subst he
    rw [List.concat_eq_append] at hf ⊢
    rw [List.dropLast_concat]
    exact folder_of_isSome (Option.isSome_of_eq_some hf)

theorem entryName_of_append (hs : (fs.node? (loc ++ names)).isSome) : ∀ name ∈ names, EntryName name := by
  induction names using List.reverseRecOn
  case nil => simp
  case append_singleton names last ih =>
    rw [← List.append_assoc] at hs
    intro name hm
    cases List.mem_append.mp hm
    case inl hm => exact ih (Option.isSome_of_eq_some (folder_of_isSome hs)) name hm
    case inr hm => exact List.mem_singleton.mp hm ▸ entryName_of_isSome hs

-- The way that names lead from a folder. Only the last of them need not be that of a folder.
inductive Leads (fs : FileSystem) : Location → List Text → Location → Prop
  | done {loc : Location} : Leads fs loc [] loc
  | stay {loc loc' : Location} {name : Text} {rest : List Text} (dot : name = [] ∨ name = ['.'])
      (next : Leads fs loc rest loc') : Leads fs loc (name :: rest) loc'
  | up {loc loc' : Location} {rest : List Text} (next : Leads fs loc.dropLast rest loc') :
      Leads fs loc (['.', '.'] :: rest) loc'
  | enter {loc loc' : Location} {name : Text} {rest : List Text} (dotless : ¬(name = [] ∨ name = ['.']))
      (down : name ≠ ['.', '.']) (short : (Utf8.encode name).length ≤ maxNameLength)
      (folder : fs.node? (loc ++ [name]) = some .folder) (next : Leads fs (loc ++ [name]) rest loc') :
      Leads fs loc (name :: rest) loc'
  | stop {loc : Location} {name : Text} (dotless : ¬(name = [] ∨ name = ['.']))
      (down : name ≠ ['.', '.']) (short : (Utf8.encode name).length ≤ maxNameLength)
      (other : fs.node? (loc ++ [name]) ≠ some .folder) : Leads fs loc [name] (loc ++ [name])

-- Without links, the ways that are walked are those on which only the last name need not be a folder's.
theorem Reaches.leads (h : Reaches fs aim links loc names loc') (hl : fs.Linkless) :
    Leads fs loc names loc' := by
  induction h
  case done                                  => exact .done
  case stay dot _ ih                         => exact .stay dot ih
  case up _ ih                               => exact .up ih
  case enter dotless down short folder _ ih  => exact .enter dotless down short folder ih
  case follow link _ _ _                     => exact absurd link (hl _ _)
  case stop dotless down short other _       => exact .stop dotless down short other

theorem Leads.reaches (h : Leads fs loc names loc') (hl : fs.Linkless) :
    Reaches fs aim links loc names loc' := by
  induction h
  case done                                  => exact .done
  case stay dot _ ih                         => exact .stay dot ih
  case up _ ih                               => exact .up ih
  case enter dotless down short folder _ ih  => exact .enter dotless down short folder ih
  case stop dotless down short other         =>
    exact .stop dotless down short other fun target ht => absurd ht (hl _ target)

-- Whether a name that is too long is met on the way.
inductive Chokes (fs : FileSystem) : Location → List Text → Prop
  | here {loc : Location} {name : Text} {rest : List Text} (dotless : ¬(name = [] ∨ name = ['.']))
      (down : name ≠ ['.', '.']) (long : maxNameLength < (Utf8.encode name).length) :
      Chokes fs loc (name :: rest)
  | stay {loc : Location} {name : Text} {rest : List Text} (dot : name = [] ∨ name = ['.'])
      (next : Chokes fs loc rest) : Chokes fs loc (name :: rest)
  | up {loc : Location} {rest : List Text} (next : Chokes fs loc.dropLast rest) :
      Chokes fs loc (['.', '.'] :: rest)
  | enter {loc : Location} {name : Text} {rest : List Text} (dotless : ¬(name = [] ∨ name = ['.']))
      (down : name ≠ ['.', '.']) (folder : fs.node? (loc ++ [name]) = some .folder)
      (next : Chokes fs (loc ++ [name]) rest) : Chokes fs loc (name :: rest)

-- How a walk ends without links: somewhere, nowhere or at a name that is too long.
inductive Walked (fs : FileSystem) (loc : Location) (names : List Text) :
    Except FileError.Cause Location → Prop
  | arrived {loc' : Location} : Walked fs loc names (.ok loc')
  | missing : Walked fs loc names (.error .missing)
  | notDirectory : Walked fs loc names (.error .notDirectory)
  | choked (h : Chokes fs loc names) : Walked fs loc names (.error .nameTooLong)

theorem Walked.lead (h : Walked fs loc' rest result) (on : Chokes fs loc' rest → Chokes fs loc names) :
    Walked fs loc names result := by
  cases h
  case arrived      => exact .arrived
  case missing      => exact .missing
  case notDirectory => exact .notDirectory
  case choked h     => exact .choked (on h)

theorem walked (hl : fs.Linkless) (ha : aim ≠ .output) :
    Walked fs loc names (fs.walk aim jump loc names) := by
  induction names generalizing loc
  case nil => exact .arrived
  case cons name rest ih =>
    rw [walk]
    split
    case isTrue dot => exact ih.lead (.stay dot)
    case isFalse dotless =>
      split
      case isTrue dots =>
        subst dots
        exact ih.lead .up
      case isFalse down =>
        rw [if_neg fun h => ha h.1]
        split
        case isTrue long => exact .choked (.here dotless down long)
        case isFalse =>
          cases hn : fs.node? (loc ++ [name]) with
          | none =>
            dsimp only
            split
            case isTrue  => exact .arrived
            case isFalse => exact .missing
          | some n =>
            cases n
            case folder      => exact ih.lead (.enter dotless down hn)
            case link target => exact absurd hn (hl _ _)
            case file c      =>
              dsimp only
              split
              case isTrue  => exact .arrived
              case isFalse => exact .notDirectory

theorem walk_of_chokes (ha : aim ≠ .output) (h : Chokes fs loc names) :
    fs.walk aim jump loc names = .error .nameTooLong := by
  induction h
  case here dotless down long =>
    simp only [walk, if_neg dotless, if_neg down, ha, false_and, if_false, if_pos long]
  case stay dot _ ih => rw [walk, if_pos dot, ih]
  case up _ ih       => simpa [walk] using ih
  case enter loc name rest dotless down folder _ ih =>
    simp only [walk, if_neg dotless, if_neg down, ha, false_and, if_false, folder, ih, ite_self]

theorem walked_links (hl : fs.Linkless) (ha : aim ≠ .output) :
    Walked fs loc names (fs.walkLinks aim links loc names) := by
  cases links <;> exact walked hl ha

theorem walkLinks_of_chokes (ha : aim ≠ .output) (h : Chokes fs loc names) :
    fs.walkLinks aim links loc names = .error .nameTooLong := by
  cases links <;> exact walk_of_chokes ha h

theorem Chokes.mono (h : Chokes fs loc names)
    (keep : ∀ l, fs.node? l = some .folder → fs'.node? l = some .folder) : Chokes fs' loc names := by
  induction h
  case here dotless down long           => exact .here dotless down long
  case stay dot _ ih                    => exact .stay dot ih
  case up _ ih                          => exact .up ih
  case enter dotless down folder _ ih   => exact .enter dotless down (keep _ folder) ih

theorem Chokes.exists_long (h : Chokes fs loc names) :
    ∃ name ∈ names, maxNameLength < (Utf8.encode name).length := by
  induction h
  case here name _ _ _ long => exact ⟨name, List.mem_cons_self, long⟩
  all_goals
    rename_i ih
    have ⟨name, hm, long⟩ := ih
    exact ⟨name, List.mem_cons_of_mem _ hm, long⟩

theorem written_append (loc : Location) (names names' : List Text) :
    written loc (names ++ names') = written (written loc names) names' := by
  induction names generalizing loc
  case nil => rfl
  case cons name names ih =>
    simp only [List.cons_append, written]
    split
    case isTrue  => exact ih loc
    case isFalse => split <;> exact ih _

theorem written_of_plain (h : ∀ name ∈ names, Path.Plain name) : written loc names = loc ++ names := by
  induction names generalizing loc
  case nil => simp [written]
  case cons name names ih =>
    have plain := h name List.mem_cons_self
    rw [written, if_neg (by simp [plain.some, plain.ne_dot]), if_neg plain.ne_dots,
      ih fun name hm => h name (List.mem_cons_of_mem _ hm), List.append_assoc, List.singleton_append]

namespace Leads

theorem eq_written (h : Leads fs loc names loc') : loc' = written loc names := by
  induction h
  case done => rfl
  case stay dot _ ih              => rw [written, if_pos dot, ih]
  case up _ ih                    => simpa [written] using ih
  case enter dotless down _ _ _ ih => rw [written, if_neg dotless, if_neg down, ih]
  case stop dotless down _ _      => rw [written, if_neg dotless, if_neg down, written]

-- Where folders stay folders, names lead where they have led.
theorem mono (h : Leads fs loc names loc')
    (keep : ∀ l, fs.node? l = some .folder → fs'.node? l = some .folder) : Leads fs' loc names loc' := by
  induction h
  case done => exact .done
  case stay dot _ ih => exact .stay dot ih
  case up _ ih       => exact .up ih
  case enter dotless down short folder _ ih => exact .enter dotless down short (keep _ folder) ih
  case stop loc name dotless down short _ =>
    by_cases hf : fs'.node? (loc ++ [name]) = some .folder
    case pos => exact .enter dotless down short hf .done
    case neg => exact .stop dotless down short hf

-- A way that does not end in a folder ends right below one, with a name that is an entry's.
theorem exists_init (h : Leads fs loc names loc') (hf : fs.node? loc = some .folder)
    (free : fs.node? loc' ≠ some .folder) : ∃ init name, names = init ++ [name] ∧
      ¬(name = [] ∨ name = ['.']) ∧ name ≠ ['.', '.'] ∧ (Utf8.encode name).length ≤ maxNameLength ∧
        loc' = written loc init ++ [name] ∧ fs.node? (written loc init) = some .folder := by
  induction h
  case done => exact absurd hf free
  case stay name _ dot _ ih =>
    have ⟨init, last, he, dotless, down, short, end_, folder⟩ := ih hf free
    refine ⟨name :: init, last, congrArg _ he, dotless, down, short, ?_⟩
    rw [written, if_pos dot]
    exact ⟨end_, folder⟩
  case up _ ih =>
    have ⟨init, last, he, dotless, down, short, end_, folder⟩ := ih (folder_dropLast hf) free
    refine ⟨['.', '.'] :: init, last, congrArg _ he, dotless, down, short, ?_⟩
    rw [written, if_neg (by simp), if_pos rfl]
    exact ⟨end_, folder⟩
  case enter name _ dotless' down' _ here _ ih =>
    have ⟨init, last, he, dotless, down, short, end_, folder⟩ := ih here free
    refine ⟨name :: init, last, congrArg _ he, dotless, down, short, ?_⟩
    rw [written, if_neg dotless', if_neg down']
    exact ⟨end_, folder⟩
  case stop name dotless down short _ => exact ⟨[], name, rfl, dotless, down, short, rfl, hf⟩

-- A way to a folder leads on to what may stand there.
theorem concat (h : Leads fs loc names loc') (hf : fs.node? loc' = some .folder)
    (dotless : ¬(name = [] ∨ name = ['.'])) (down : name ≠ ['.', '.'])
    (short : (Utf8.encode name).length ≤ maxNameLength) :
    Leads fs loc (names ++ [name]) (loc' ++ [name]) := by
  induction h
  case done loc =>
    by_cases here : fs.node? (loc ++ [name]) = some .folder
    case pos => exact .enter dotless down short here .done
    case neg => exact .stop dotless down short here
  case stay dot _ ih                         => exact .stay dot (ih hf)
  case up _ ih                               => exact .up (ih hf)
  case enter dotless' down' short' here _ ih => exact .enter dotless' down' short' here (ih hf)
  case stop other                            => exact absurd hf other

end Leads

-- Whether each double dot stands behind a folder.
def AnchoredFrom (fs : FileSystem) : Location → List Text → Prop
  | _, [] => True
  | loc, name :: rest =>
    if name = [] ∨ name = ['.'] then AnchoredFrom fs loc rest
    else if name = ['.', '.'] then fs.node? loc = some .folder ∧ AnchoredFrom fs loc.dropLast rest
    else AnchoredFrom fs (loc ++ [name]) rest

instance decidableAnchoredFrom (fs : FileSystem) : ∀ loc names, Decidable (fs.AnchoredFrom loc names)
  | _, [] => isTrue trivial
  | loc, name :: rest =>
    if dot : name = [] ∨ name = ['.'] then
      have := decidableAnchoredFrom fs loc rest
      decidable_of_iff (fs.AnchoredFrom loc rest) (by rw [AnchoredFrom, if_pos dot])
    else if dots : name = ['.', '.'] then
      have := decidableAnchoredFrom fs loc.dropLast rest
      decidable_of_iff (fs.node? loc = some .folder ∧ fs.AnchoredFrom loc.dropLast rest)
        (by rw [AnchoredFrom, if_neg dot, if_pos dots])
    else
      have := decidableAnchoredFrom fs (loc ++ [name]) rest
      decidable_of_iff (fs.AnchoredFrom (loc ++ [name]) rest)
        (by rw [AnchoredFrom, if_neg dot, if_neg dots])

theorem folder_of_anchoredFrom (ha : fs.AnchoredFrom loc names)
    (hf : fs.node? (written loc names) = some .folder) : fs.node? loc = some .folder := by
  induction names generalizing loc
  case nil => exact hf
  case cons name rest ih =>
    rw [AnchoredFrom] at ha
    rw [written] at hf
    split at ha
    case isTrue dot => exact ih ha (by rwa [if_pos dot] at hf)
    case isFalse dot =>
      rw [if_neg dot] at hf
      split at ha
      case isTrue  => exact ha.1
      case isFalse dots =>
        rw [if_neg dots] at hf
        exact folder_of_isSome (Option.isSome_of_eq_some (ih ha hf))

theorem leads_of_anchoredFrom (ha : fs.AnchoredFrom loc names)
    (hf : fs.node? (written loc names) = some .folder) : Leads fs loc names (written loc names) := by
  induction names generalizing loc
  case nil => exact .done
  case cons name rest ih =>
    rw [AnchoredFrom] at ha
    rw [written] at hf ⊢
    split at ha
    case isTrue dot =>
      rw [if_pos dot] at hf ⊢
      exact .stay dot (ih ha hf)
    case isFalse dot =>
      rw [if_neg dot] at hf ⊢
      split at ha
      case isTrue dots =>
        subst dots
        exact .up (ih ha.2 hf)
      case isFalse dots =>
        rw [if_neg dots] at hf ⊢
        have folder := folder_of_anchoredFrom ha hf
        exact .enter dot dots (entryName_of_isSome (Option.isSome_of_eq_some folder)).short folder (ih ha hf)

theorem anchoredFrom_append : fs.AnchoredFrom loc (names ++ names') ↔
    fs.AnchoredFrom loc names ∧ fs.AnchoredFrom (written loc names) names' := by
  induction names generalizing loc
  case nil => simp [AnchoredFrom, written]
  case cons name names ih =>
    simp only [List.cons_append, AnchoredFrom, written]
    split
    case isTrue  => exact ih
    case isFalse =>
      split
      case isTrue  => rw [ih, and_assoc]
      case isFalse => exact ih

theorem AnchoredFrom.mono (h : fs.AnchoredFrom loc names)
    (keep : ∀ l, fs.node? l = some .folder → fs'.node? l = some .folder) : fs'.AnchoredFrom loc names := by
  induction names generalizing loc
  case nil => trivial
  case cons name rest ih =>
    rw [AnchoredFrom] at h ⊢
    split at h
    case isTrue dot => rw [if_pos dot]; exact ih h
    case isFalse dot =>
      rw [if_neg dot]
      split at h
      case isTrue dots  => rw [if_pos dots]; exact ⟨keep _ h.1, ih h.2⟩
      case isFalse dots => rw [if_neg dots]; exact ih h

theorem anchoredFrom_of_plain (h : ∀ name ∈ names, Path.Plain name) : fs.AnchoredFrom loc names := by
  induction names generalizing loc
  case nil => trivial
  case cons name names ih =>
    have plain := h name List.mem_cons_self
    rw [AnchoredFrom, if_neg (by simp [plain.some, plain.ne_dot]), if_neg plain.ne_dots]
    exact ih fun name hm => h name (List.mem_cons_of_mem _ hm)

-- Behind a place where no folder stands there is no double dot, so the way stays below it.
theorem prefix_written (ha : fs.AnchoredFrom loc names)
    (hf : fs.node? loc ≠ some .folder) : loc <+: written loc names := by
  induction names generalizing loc
  case nil => exact List.prefix_rfl
  case cons name rest ih =>
    rw [AnchoredFrom] at ha
    rw [written]
    split at ha
    case isTrue dot => rw [if_pos dot]; exact ih ha hf
    case isFalse dot =>
      rw [if_neg dot]
      split at ha
      case isTrue       => exact absurd ha.1 hf
      case isFalse dots =>
        rw [if_neg dots]
        have below := ih ha fun h => hf (folder_of_isSome (Option.isSome_of_eq_some h))
        exact (List.prefix_append _ _).trans below

-- The place of a path, taken as it is written.
def place (fs : FileSystem) (p : Path) : Location :=
  written (fs.start p) p.names

-- A path that names a folder which is there, or that can be made. It does not go up from nowhere.
structure Anchored (fs : FileSystem) (p : Path) : Prop where
  begun : fs.node? (fs.start p) = some .folder
  turns : fs.AnchoredFrom (fs.start p) p.names

instance : Decidable (fs.Anchored p) :=
  have := decidableAnchoredFrom fs (fs.start p) p.names
  decidable_of_iff (fs.node? (fs.start p) = some .folder ∧ fs.AnchoredFrom (fs.start p) p.names)
    ⟨fun ⟨h, h'⟩ => ⟨h, h'⟩, fun ⟨h, h'⟩ => ⟨h, h'⟩⟩

theorem start_join (fs : FileSystem) (p : Path) (names : List Text) :
    fs.start (p.join (.relative names)) = fs.start p := by
  simp [start, Path.isAbsolute]

theorem place_join (h : ∀ name ∈ names, Path.Plain name) :
    fs.place (p.join (.relative names)) = fs.place p ++ names := by
  rw [place, start_join, Path.join_relative, written_append, written_of_plain h, place]

theorem Anchored.join (ha : fs.Anchored p) (h : ∀ name ∈ names, Path.Plain name) :
    fs.Anchored (p.join (.relative names)) := by
  constructor
  case begun => exact start_join fs p names ▸ ha.begun
  case turns =>
    rw [start_join, Path.join_relative, anchoredFrom_append]
    exact ⟨ha.turns, anchoredFrom_of_plain h⟩

theorem unlinkNames_eq {enter : Location → Location → List Text → Location × Bool} (hl : fs.Linkless)
    (loc : Location) (names : List Text) :
    fs.unlinkNames enter loc names = (written loc names, true) := by
  induction names generalizing loc
  case nil => rfl
  case cons name rest ih =>
    rw [unlinkNames, written]
    split
    case isTrue => exact ih loc
    case isFalse =>
      split
      case isTrue => exact ih _
      case isFalse =>
        split
        case h_1 target hn => exact absurd hn (hl _ _)
        case h_2           => exact ih _

-- Without links, a path means the place that it names.
theorem resolve_eq (hl : fs.Linkless) (p : Path) : fs.resolve p = .ok (fs.place p) := by
  rw [resolve, unlink, unlinkNames_eq hl]
  have ended : Walked fs [] (written (fs.start p) p.names)
      (fs.walkLinks .node maxLinks [] (written (fs.start p) p.names)) := walked_links hl (by simp)
  dsimp only
  generalize fs.walkLinks .node maxLinks [] (written (fs.start p) p.names) = way at ended
  cases ended <;> rfl

end EnvMerge.FileSystem
