import EnvMerge.Files.Error
import EnvMerge.Text.Utf8

namespace EnvMerge

-- Names from the root. They hold no links and no double dots, so that different locations are
-- different places.
abbrev Location := List Text

inductive Node
  | folder
  | file (content : Bytes)
  | link (target : Text)
deriving DecidableEq

namespace Node

def isFolder : Node → Bool
  | folder => true
  | _ => false

end Node

def maxNameLength : Nat := 255

-- A name that something in a folder can have.
structure EntryName (name : Text) : Prop extends Path.Plain name where
  short : (Utf8.encode name).length ≤ maxNameLength
  known : name.contains '\x00' = false

instance (name : Text) : Decidable (EntryName name) :=
  decidable_of_iff (Path.Plain name ∧ (Utf8.encode name).length ≤ maxNameLength ∧
      name.contains '\x00' = false)
    ⟨fun ⟨h₁, h₂, h₃⟩ => ⟨h₁, h₂, h₃⟩, fun h => ⟨h.toPlain, h.short, h.known⟩⟩

-- A location right in a folder, under a name that can stand there.
structure Placed (entries : List (Location × Node)) (loc : Location) : Prop where
  named  : EntryName (loc.getLastD [])
  folder : loc.dropLast = [] ∨ (loc.dropLast, .folder) ∈ entries

instance (entries : List (Location × Node)) (loc : Location) : Decidable (Placed entries loc) :=
  decidable_of_iff (EntryName (loc.getLastD []) ∧
      (loc.dropLast = [] ∨ (loc.dropLast, .folder) ∈ entries))
    ⟨fun ⟨h₁, h₂⟩ => ⟨h₁, h₂⟩, fun ⟨h₁, h₂⟩ => ⟨h₁, h₂⟩⟩

theorem Placed.ne_nil {entries : List (Location × Node)} {loc : Location}
    (h : Placed entries loc) : loc ≠ [] := by
  rintro rfl
  exact h.named.some rfl

-- What stands where below the root, which itself is always a folder.
structure FileSystem where
  entries : List (Location × Node)
  here : Location
  distinct : (entries.map (·.1)).Nodup
  placed : ∀ e ∈ entries, Placed entries e.1

namespace FileSystem

def empty : FileSystem :=
  ⟨[], [], List.nodup_nil, nofun⟩

variable (fs : FileSystem) {loc other : Location} {n : Node}

def node? (loc : Location) : Option Node :=
  if loc = [] then some .folder else fs.entries.lookup loc

variable {fs} in
theorem mem_entries_iff (hloc : loc ≠ []) : (loc, n) ∈ fs.entries ↔ fs.node? loc = some n := by
  rw [node?, if_neg hloc]
  have distinct := fs.distinct
  generalize fs.entries = es at distinct
  induction es with
  | nil => simp
  | cons e es ih =>
    obtain ⟨l, m⟩ := e
    rw [List.map_cons, List.nodup_cons] at distinct
    by_cases he : loc = l
    · subst he
      have absent : (loc, n) ∉ es := fun hm => distinct.1 (List.mem_map_of_mem (f := (·.1)) hm)
      simp [absent, eq_comm]
    · simp [List.lookup_cons, beq_false_of_ne he, he, ih distinct.2]

private theorem distinct_filter (p : Location → Bool) :
    ((fs.entries.filter (p ·.1)).map (·.1)).Nodup :=
  fs.distinct.sublist (List.filter_sublist.map _)

-- A location that can be filled: in a folder, under a name that can stand there, and no folder
-- itself.
structure Fits (loc : Location) : Prop where
  named  : EntryName (loc.getLastD [])
  folder : fs.node? loc.dropLast = some .folder
  free   : fs.node? loc ≠ some .folder

instance (loc : Location) : Decidable (fs.Fits loc) :=
  decidable_of_iff (EntryName (loc.getLastD []) ∧ fs.node? loc.dropLast = some .folder ∧
      fs.node? loc ≠ some .folder)
    ⟨fun ⟨h₁, h₂, h₃⟩ => ⟨h₁, h₂, h₃⟩, fun ⟨h₁, h₂, h₃⟩ => ⟨h₁, h₂, h₃⟩⟩

private theorem placed_put (n : Node) (fits : fs.Fits loc) :
    ∀ e ∈ (loc, n) :: fs.entries.filter (·.1 != loc),
      Placed ((loc, n) :: fs.entries.filter (·.1 != loc)) e.1 := by
  -- no folder is replaced, so what stood in one still does
  have kept {l : Location} (hf : fs.node? l = some .folder) :
      l = [] ∨ (l, .folder) ∈ (loc, n) :: fs.entries.filter (·.1 != loc) := by
    by_cases hl : l = []
    · exact .inl hl
    · have ne : l ≠ loc := fun he => fits.free (he ▸ hf)
      have stands := (mem_entries_iff hl).2 hf
      exact .inr (List.mem_cons_of_mem _ (List.mem_filter.2 ⟨stands, by simpa using ne⟩))
  intro e he
  cases List.mem_cons.1 he with
  | inl he => subst he; exact ⟨fits.named, kept fits.folder⟩
  | inr he =>
    have placed := fs.placed e (List.mem_filter.1 he).1
    refine ⟨placed.named, ?_⟩
    by_cases hn : e.1.dropLast = []
    · exact .inl hn
    · exact kept ((mem_entries_iff hn).1 (placed.folder.resolve_left hn))

-- Fills a location, if it can be filled.
def put (loc : Location) (n : Node) : FileSystem :=
  if fits : fs.Fits loc then
    { entries := (loc, n) :: fs.entries.filter (·.1 != loc)
      here := fs.here
      distinct := List.nodup_cons.2 ⟨by simp, fs.distinct_filter (· != loc)⟩
      placed := fs.placed_put n fits }
  else fs

private theorem placed_erase (loc : Location) :
    ∀ e ∈ fs.entries.filter (!loc.isPrefixOf ·.1),
      Placed (fs.entries.filter (!loc.isPrefixOf ·.1)) e.1 := by
  intro e he
  have ⟨he, kept⟩ := List.mem_filter.1 he
  have placed := fs.placed e he
  refine ⟨placed.named, placed.folder.imp_right fun folder => List.mem_filter.2 ⟨folder, ?_⟩⟩
  simp only [Bool.not_eq_true', Bool.eq_false_iff, ne_eq, List.isPrefixOf_iff_prefix] at kept ⊢
  exact fun above => kept (above.trans (List.dropLast_prefix e.1))

-- Takes away a location and all that lies below it.
def erase (loc : Location) : FileSystem where
  entries := fs.entries.filter (!loc.isPrefixOf ·.1)
  here := fs.here
  distinct := fs.distinct_filter (!loc.isPrefixOf ·)
  placed := fs.placed_erase loc

theorem here_put (loc : Location) (n : Node) : (fs.put loc n).here = fs.here := by
  rw [put]
  split <;> rfl

theorem node?_put_self (n : Node) (fits : fs.Fits loc) : (fs.put loc n).node? loc = some n := by
  have hn : loc ≠ [] := by
    rintro rfl
    exact fits.named.some rfl
  simp [node?, put, fits, hn]

theorem node?_put_of_ne (n : Node) (h : other ≠ loc) :
    (fs.put loc n).node? other = fs.node? other := by
  rw [put]
  split
  · simp only [node?]
    split
    · rfl
    · rw [List.lookup_cons, beq_false_of_ne h]
      generalize fs.entries = es
      induction es with
      | nil => rfl
      | cons e es ih =>
        obtain ⟨l, n⟩ := e
        by_cases e₁ : l = loc
        · subst e₁; simp [List.lookup_cons, beq_false_of_ne h, ih]
        · by_cases e₂ : other = l
          · subst e₂; simp [e₁]
          · simpa [List.lookup_cons, e₁, beq_false_of_ne e₂] using ih
  · rfl

-- How many links may be followed on the way to one place.
def maxLinks : Nat := 40

def maxPathLength : Nat := 4095

-- The names of a link's target. A dot at its end asks for a folder, and so does a slash, which
-- stands as an empty name.
def targetNames (target : Text) : List Text :=
  let parts := target.splitOn '/'
  let last := (parts.filter (· != [])).getLast?
  Path.namesOf target ++
    if last = some ['.'] then [['.']]
    else if parts.getLast? = some [] then [[]]
    else []

-- Where a target begins that is read at `loc`.
def targetStart (loc : Location) (target : Text) : Location :=
  if target.head? = some '/' then [] else loc

-- What a path is for, which decides how its last name is taken.
inductive Aim
  -- The entry itself, even if it is a link.
  | entry
  -- What the entry leads to.
  | node
  -- A file that is opened for writing.
  | output
deriving DecidableEq

-- Follows names from the folder at `loc`, with `jump` for the links on the way. The last name may
-- be free, but no output has a name with a slash behind it.
def walk (aim : Aim) (jump : Location → List Text → Except FileError.Cause Location) :
    Location → List Text → Except FileError.Cause Location
  | loc, [] => .ok loc
  | loc, name :: rest =>
    if name = [] ∨ name = ['.'] then walk aim jump loc rest
    else if name = ['.', '.'] then walk aim jump loc.dropLast rest
    else if aim = .output ∧ rest = [[]] then .error .isDirectory
    else if maxNameLength < (Utf8.encode name).length then .error .nameTooLong
    else
      match fs.node? (loc ++ [name]) with
      | none => if rest = [] then .ok (loc ++ [name]) else .error .missing
      | some .folder => walk aim jump (loc ++ [name]) rest
      | some (.file _) => if rest = [] then .ok (loc ++ [name]) else .error .notDirectory
      | some (.link target) =>
        if rest = [] ∧ aim = .entry then .ok (loc ++ [name])
        else jump (targetStart loc target) (targetNames target ++ rest)

def walkLinks (aim : Aim) : (links : Nat) → Location → List Text →
    Except FileError.Cause Location
  | 0 => fs.walk aim fun _ _ => .error .tooManyLinks
  | links + 1 => fs.walk aim (walkLinks aim links)

def start (p : Path) : Location :=
  if p.isAbsolute then [] else fs.here

def isTooLong (p : Path) : Bool :=
  maxPathLength < (Utf8.encode p.toText).length

-- The place that a path names. Nothing need stand there, but all before it must, the working folder
-- too.
def locate (aim : Aim) (p : Path) : Except FileError Location :=
  if isTooLong p then .error ⟨.nameTooLong, p⟩
  else if fs.node? (fs.start p) ≠ some .folder then .error ⟨.missing, p⟩
  else (fs.walkLinks aim maxLinks (fs.start p) p.names).mapError (⟨·, p⟩)

def find (p : Path) : Except FileError Node := do
  match fs.node? (← fs.locate .node p) with
  | some n => return n
  | none => throw ⟨.missing, p⟩

-- What is found out about a path without reading it.
structure Status where
  isFolder : Bool
  size : Nat
deriving DecidableEq

def status (p : Path) : Except FileError Status := do
  match ← fs.find p with
  | .file content => return ⟨false, content.length⟩
  | n => return ⟨n.isFolder, 0⟩

def read (p : Path) : Except FileError Bytes := do
  match ← fs.find p with
  | .file content => return content
  | _ => throw ⟨.isDirectory, p⟩

-- Writes a file, which may stand there or not; its folder must.
def write (p : Path) (content : Bytes) : Except FileError FileSystem := do
  let loc ← fs.locate .output p
  if fs.node? loc = some .folder then throw ⟨.isDirectory, p⟩
  else if fs.Fits loc then return fs.put loc (.file content)
  else throw ⟨.missing, p⟩

-- Makes a folder where nothing stands, not even a link.
def makeFolder (p : Path) : Except FileError FileSystem := do
  let loc ← fs.locate .entry p
  if (fs.node? loc).isSome then throw ⟨.occupied, p⟩
  else if fs.Fits loc then return fs.put loc .folder
  else throw ⟨.missing, p⟩

-- Whether something stands right below the folder that a path names.
def hasEntries (p : Path) : Bool :=
  match fs.locate .node p with
  | .ok loc => fs.entries.any fun e => e.1 != [] && e.1.dropLast == loc
  | .error _ => false

def leadsToFolder (p : Path) : Bool :=
  match fs.find p with
  | .ok n => n.isFolder
  | .error _ => false

-- The names, from the folder that a path names, of all that stands below it and is neither a folder
-- nor a link whose path leads to one. Folders behind links are not entered, nor those whose path is
-- too long.
def filesBelow (p : Path) : List (List Text) :=
  match fs.locate .node p with
  | .ok base =>
    if (fs.node? base).any (·.isFolder) then
      fs.entries.filterMap fun (loc, n) =>
        let names := loc.drop base.length
        if base.isPrefixOf loc && loc != base && isLeaf names n
            && !isTooLong (p.under names.dropLast) then some names
        else none
    else []
  | .error _ => []
where
  isLeaf (names : List Text) : Node → Bool
    | .folder => false
    | .file _ => true
    | .link _ => !fs.leadsToFolder (p.under names)

-- Whether two paths lead to one and the same thing.
def same (p q : Path) : Bool :=
  match fs.locate .node p, fs.locate .node q with
  | .ok a, .ok b => a == b && (fs.node? a).isSome
  | _, _ => false

def written (loc : Location) : List Text → Location
  | [] => loc
  | name :: rest =>
    if name = [] ∨ name = ['.'] then written loc rest
    else if name = ['.', '.'] then written loc.dropLast rest
    else written (loc ++ [name]) rest

-- Follows names as far as links allow and takes all else as written. `enter` follows a link and
-- tells whether it came to an end; if not, the rest is taken as written, too.
def unlinkNames (enter : Location → Location → List Text → Location × Bool) :
    Location → List Text → Location × Bool
  | loc, [] => (loc, true)
  | loc, name :: rest =>
    if name = [] ∨ name = ['.'] then unlinkNames enter loc rest
    else if name = ['.', '.'] then unlinkNames enter loc.dropLast rest
    else
      match fs.node? (loc ++ [name]) with
      | some (.link target) =>
        match enter (loc ++ [name]) (targetStart loc target) (targetNames target) with
        | (loc, true) => unlinkNames enter loc rest
        | (loc, false) => (written loc rest, false)
      | _ => unlinkNames enter (loc ++ [name]) rest

-- Follows names through links within links. `opened` holds the links that are being followed; one
-- that leads back to itself has no end.
def unlink : (depth : Nat) → (opened : List Location) → Location → List Text → Location × Bool
  | 0, _ => fs.unlinkNames fun l _ _ => (l, false)
  | depth + 1, opened =>
    fs.unlinkNames fun l first names =>
      if l ∈ opened then (l, false) else unlink depth (l :: opened) first names

-- The place that a path means, whether or not anything stands there. Links that lead nowhere but
-- back to themselves give the path to the first of them.
def resolve (p : Path) : Except Path Location :=
  let (loc, _) := fs.unlink (fs.entries.length + 1) [] (fs.start p) p.names
  match fs.walkLinks .node maxLinks [] loc with
  | .error .tooManyLinks => .error ⟨['/'], loc⟩
  | _ => .ok loc

end FileSystem
end EnvMerge
