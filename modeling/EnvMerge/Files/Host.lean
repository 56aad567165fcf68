import EnvMerge.Files.System
import EnvMerge.Log
import EnvMerge.Text.Digest

namespace EnvMerge

-- What work on files asks of its surroundings: the file system, the terminal and the log. As a
-- class it runs on a modelled world as well as on a real one.
class Host (m : Type → Type) extends Journal m where
  status : Path → m (Except FileError FileSystem.Status)
  read : Path → m (Except FileError Bytes)
  write : Path → Bytes → m (Except FileError Unit)
  makeFolder : Path → m (Except FileError Unit)
  hasEntries : Path → m Bool
  filesBelow : Path → m (List (List Text))
  same : Path → Path → m Bool
  resolve : Path → m (Except Path Location)
  -- Shows debug messages from now on.
  showDebug : m Unit
  print : Text → m Unit
  -- The next line of the input, without its line feed.
  ask : m (Option Text)
  -- Whether the user wants the run to stop.
  stopped : m Bool

-- Work on files, which may fail and keeps what it has done until then.
abbrev Job (m : Type → Type) := ExceptT Failure m

namespace Job

variable {m : Type → Type} [Monad m] [Host m]

def ofExcept {α : Type} (x : Except Failure α) : Job m α :=
  ExceptT.mk (pure x)

def ofFiles {α : Type} (x : m (Except FileError α)) : Job m α :=
  ExceptT.mk do return (← x).mapError .file

-- No system is asked about a path with a null character in it.
def checkPath (p : Path) : Job m Unit := do
  if p.hasNull then throw .nullInPath

def record (e : Event) : Job m Unit :=
  ExceptT.lift (Journal.record e)

def printLine (t : Text) : Job m Unit :=
  ExceptT.lift (Host.print (t ++ ['\n']))

def read (p : Path) : Job m Bytes := do
  checkPath p
  ofFiles (Host.read p)

def write (p : Path) (content : Bytes) : Job m Unit := do
  checkPath p
  ofFiles (Host.write p content)

def status? (p : Path) : Job m (Option FileSystem.Status) := do
  if p.hasNull then return none
  match ← ExceptT.lift (Host.status p) with
  | .ok s => return some s
  | .error e => if e.cause.meansAbsent then return none else throw (.file e)

-- What a path leads to. If that cannot be found out, it leads nowhere.
def peek? (p : Path) : Job m (Option FileSystem.Status) := do
  if p.hasNull then return none
  return (← ExceptT.lift (Host.status p)).toOption

def present (p : Path) : Job m Bool :=
  return (← status? p).isSome

def isFolder (p : Path) : Job m Bool :=
  return (← status? p).any (·.isFolder)

def resolve (p : Path) : Job m Location := do
  checkPath p
  match ← ExceptT.lift (Host.resolve p) with
  | .ok loc => return loc
  | .error p => throw (.linkLoop p)

-- A folder that is there already will do.
def allowFolder (p : Path) (e : FileError) : Job m Unit := do
  if !(← isFolder p) then throw (.file e)

-- Makes a folder in a folder that is there.
def makeFolder (p : Path) : Job m Unit := do
  match ← ExceptT.lift (Host.makeFolder p) with
  | .ok _ => return
  | .error e => if e.cause = .missing then throw (.file e) else allowFolder p e

-- Makes a folder and those above it, as far as `depth` of them.
def makeFoldersUpTo : (depth : Nat) → Path → Job m Unit
  | depth, p => do
    match ← ExceptT.lift (Host.makeFolder p) with
    | .ok _ => return
    | .error e =>
      if e.cause = .missing then
        match depth with
        | 0 => throw (.file e)
        | depth + 1 =>
          makeFoldersUpTo depth p.parent
          makeFolder p
      else allowFolder p e

def makeFolders (p : Path) : Job m Unit := do
  checkPath p
  makeFoldersUpTo p.names.length p

-- Writes a text, in folders made for it where there are none.
def writeText (p : Path) (t : Text) : Job m Unit := do
  makeFolders p.parent
  write p (Utf8.encode t)

-- Reads a file piece by piece and digests it. Pieces of no size read nothing.
def digestOf (p : Path) (pieceSize : Int) : Job m UInt64 := do
  let content ← read p
  return digest (if pieceSize = 0 then [] else content)

def defaultPiece : Int := 65536

-- Whether a copy of `source` at `target` would change something.
def differ (source target : Path) : Job m Bool := do
  if ← present target then
    let s ← digestOf source defaultPiece
    let t ← digestOf target defaultPiece
    return s != t
  else return true

-- How messages show a path that they are about.
def shownPath (p : Path) : Text :=
  "PosixPath(".toList ++ p.toText.quoted ++ [')']

-- Writes a copy. A place may count as a folder to the system even though none stands there.
def writeCopy (p : Path) (content : Bytes) : Job m Unit :=
  tryCatch (write p content) fun e => do
    if e = .file ⟨.isDirectory, p⟩ then
      if (← peek? p).isNone then throw (.noSuchFolder p)
    throw e

-- Copies a file to a path, or into the folder that stands there.
def copy (source target : Path) : Job m Unit := do
  makeFolders target.parent
  let inside := (← peek? target).any (·.isFolder)
  let place := if inside then target.entryFor source else target
  checkPath source
  checkPath place
  if ← ExceptT.lift (Host.same source place) then
    throw (.sameFile (shownPath source)
      (if inside then place.toText.quoted else shownPath place))
  writeCopy place (← read source)

end Job

structure World where
  files : FileSystem
  events : List Event
  output : Text
  input : Text
  stopped : Bool

namespace World

abbrev Run := StateM World

def change (r : FileSystem → Except FileError FileSystem) : Run (Except FileError Unit) := do
  match r (← get).files with
  | .ok fs => modify ({ · with files := fs }); return .ok ()
  | .error e => return .error e

def nextLine : Run (Option Text) := do
  let t := (← get).input
  if t = [] then return none
  modify ({ · with input := (t.dropWhile (· != '\n')).drop 1 })
  return some (t.takeWhile (· != '\n'))

instance : Host Run where
  record e := modify fun w => { w with events := w.events ++ [e] }
  status p := return (← get).files.status p
  read p := return (← get).files.read p
  write p content := change (·.write p content)
  makeFolder p := change (·.makeFolder p)
  hasEntries p := return (← get).files.hasEntries p
  filesBelow p := return (← get).files.filesBelow p
  same p q := return (← get).files.same p q
  resolve p := return (← get).files.resolve p
  showDebug := pure ()
  print t := modify fun w => { w with output := w.output ++ t }
  ask := nextLine
  stopped := return (← get).stopped

end World
end EnvMerge
