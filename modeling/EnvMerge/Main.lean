import EnvMerge.Command.Run

namespace EnvMerge
namespace Console

-- The terminal, with the logger that writes to it.
abbrev Run := ReaderT (IO.Ref Logger) IO

def numberOf : IO.Error → UInt32
  | .otherError n _ | .resourceBusy n _ | .resourceVanished n _ | .unsupportedOperation n _
  | .hardwareFault n _ | .unsatisfiedConstraints n _ | .illegalOperation n _
  | .protocolError n _ | .timeExpired n _ | .interrupted _ n _ | .noFileOrDirectory _ n _
  | .alreadyExists _ n _ | .invalidArgument _ n _ | .permissionDenied _ n _
  | .resourceExhausted _ n _ | .inappropriateType _ n _ | .noSuchThing _ n _ => n
  | .unexpectedEof | .userError _ => 0

-- Some calls give the number with its sign changed.
def causeOf (e : IO.Error) : FileError.Cause :=
  .ofNumber (numberOf e).toInt32.toInt.natAbs (toString e).toList

def nameOf (p : Path) : String :=
  String.ofList p.toText

def attempt {α : Type} (p : Path) (x : IO α) : Run (Except FileError α) :=
  tryCatch (.ok <$> x) fun e => return .error ⟨causeOf e, p⟩

def statusOf (p : Path) : IO FileSystem.Status := do
  let found ← ((← IO.currentDir) / nameOf p).metadata
  match found.type with
  | .dir => return ⟨true, 0⟩
  | _ => return ⟨false, found.byteSize.toNat⟩

def listing (entries : IO (Array IO.FS.DirEntry)) : IO (List IO.FS.DirEntry) :=
  tryCatch (Array.toList <$> entries) fun _ => return []

-- The names of all below some entries that is neither a folder nor a link to one.
partial def below (above : List Text) (entries : List IO.FS.DirEntry) : IO (List (List Text)) := do
  let found ← entries.mapM fun e => do
    let names := above ++ [e.fileName.toList]
    match (← e.path.symlinkMetadata).type with
    | .dir => below names (← listing e.path.readDir)
    | _ => return if ← e.path.isDir then [] else [names]
  return found.flatten

-- Follows the links of a path as far as something stands there and takes the rest as written.
def settle : (depth : Nat) → Path → IO Location
  | 0, p => return p.names
  | depth + 1, p =>
    tryCatch (return (Path.ofText (← IO.FS.realPath (nameOf p)).toString.toList).names) fun e => do
      if causeOf e = .tooManyLinks then throw e
      let above ← settle depth p.parent
      return if p.name = ['.', '.'] then above.dropLast else above ++ [p.name]

def resolve (p : Path) : IO (Except Path Location) := do
  let p := (Path.ofText (← IO.currentDir).toString.toList).join p
  tryCatch (.ok <$> settle p.names.length p) fun _ => return .error p

def nextLine : IO (Option Text) := do
  let line := (← (← IO.getStdin).getLine).toList
  return if line = [] then none else some (line.takeWhile (· != '\n'))

def put (t : Text) : IO Unit := do
  IO.print (String.ofList t)
  (← IO.getStdout).flush

instance : Host Run where
  record e := do
    let logger ← (← read).get
    IO.eprint (String.ofList (logger.output e.level e.message))
  status p := attempt p (statusOf p)
  read p := attempt p (return (← IO.FS.readBinFile (nameOf p)).toList)
  write p content := attempt p (IO.FS.writeBinFile (nameOf p) ⟨content.toArray⟩)
  makeFolder p := attempt p (IO.FS.createDir (nameOf p))
  hasEntries p := return !(← listing ((← IO.currentDir) / nameOf p).readDir).isEmpty
  filesBelow p := do below [] (← listing ((← IO.currentDir) / nameOf p).readDir)
  same p q := tryCatch
    (return (← IO.FS.realPath (nameOf p)) == (← IO.FS.realPath (nameOf q))) fun _ => return false
  resolve p := resolve p
  showDebug := do (← read).modify (·.enableDebug)
  print t := put t
  ask := nextLine
  stopped := return false

def debugVariable : String :=
  "DOTENV_MERGE_DEBUG"

-- Runs the command; the result is the code that the program ends with.
def start (words : List Text) : IO UInt32 := do
  let setting := (← IO.getEnv debugVariable).map (·.toList)
  let logger ← IO.mkRef ((⟨.notSet, 0⟩ : Logger).configure (Logger.debugWanted setting))
  let job : Job Run Command.Exit := Command.run words
  match ← job.run.run logger with
  | .ok exit =>
    if let some complaint := exit.complaint then
      IO.eprint (String.ofList (Command.usageText ++ complaint ++ ['\n']))
    return exit.code.toUInt32
  | .error e =>
    IO.eprint (String.ofList (e.message ++ ['\n']))
    return 1

end Console
end EnvMerge

def main (words : List String) : IO UInt32 :=
  EnvMerge.Console.start (words.map (·.toList))
