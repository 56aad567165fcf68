import EnvMerge.Files.Host
import EnvMerge.Text.Glob

namespace EnvMerge

structure FileInfo where
  relative : Text
  absolute : Text
  digest : UInt64
  size : Nat
deriving DecidableEq

-- A file that could not be read or merged, and why.
structure Fault where
  relative : Text
  message : Text
deriving DecidableEq

namespace Scan

def defaultPattern : Text :=
  "*.env*".toList

-- The order of visits: a folder's own files first.
def visitedBefore : List Text → List Text → Bool
  | [], _ => true
  | _ :: _, [] => false
  | [a], [b] => Text.le a b
  | [_], _ :: _ :: _ => true
  | _ :: _ :: _, [_] => false
  | a :: x :: as, b :: y :: bs => if a = b then visitedBefore (x :: as) (y :: bs) else Text.le a b

-- The names of matching files, in the order of visits.
def visits (pattern : Text) (found : List (List Text)) : List (List Text) :=
  (found.filter fun names => Glob.matches pattern (names.getLastD [])).mergeSort visitedBefore

structure Report where
  files : List FileInfo
  faults : List Fault

variable {m : Type → Type} [Monad m] [Host m]

def fileInfo (folder : Path) (names : List Text) : Job m FileInfo := do
  let p := folder.join (.relative names)
  let s ← Job.ofFiles (Host.status p)
  let digest ← Job.digestOf p Job.defaultPiece
  return ⟨(Path.relative names).toText, p.toText, digest, s.size⟩

-- Looks at one file and adds it to the report, as a file or as a fault.
def visit (folder : Path) (failFast : Bool) (r : Report) (names : List Text) : Job m Report :=
  tryCatch
    (return { r with files := r.files ++ [← fileInfo folder names] })
    fun e =>
      if e.isSystem && !failFast then
        return { r with faults := r.faults ++ [⟨(Path.relative names).toText, e.message⟩] }
      else throw e

-- The files below a folder whose names match a pattern, each with its size and digest.
def run (folder : Path) (pattern : Text) (failFast : Bool) : Job m Report := do
  Job.checkPath folder
  let found ← ExceptT.lift (Host.filesBelow folder)
  (visits pattern found).foldlM (visit folder failFast) ⟨[], []⟩

end Scan
end EnvMerge
