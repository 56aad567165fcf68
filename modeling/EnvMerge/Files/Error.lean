import EnvMerge.Files.Path
import EnvMerge.Text.Quoted

namespace EnvMerge

inductive FileError.Cause
  | missing
  | occupied
  | notDirectory
  | isDirectory
  | nameTooLong
  | tooManyLinks
  -- A cause that plays no part of its own, as a system reports it.
  | other (number : Nat) (description : Text)
deriving DecidableEq

namespace FileError.Cause

def number : Cause → Nat
  | missing      => 2
  | occupied     => 17
  | notDirectory => 20
  | isDirectory  => 21
  | nameTooLong  => 36
  | tooManyLinks => 40
  | other number _ => number

def description : Cause → Text
  | missing      => "No such file or directory".toList
  | occupied     => "File exists".toList
  | notDirectory => "Not a directory".toList
  | isDirectory  => "Is a directory".toList
  | nameTooLong  => "File name too long".toList
  | tooManyLinks => "Too many levels of symbolic links".toList
  | other _ description => description

-- The cause with a number, which comes with a description if it is none of the named ones.
def ofNumber (number : Nat) (description : Text) : Cause :=
  ([missing, occupied, notDirectory, isDirectory, nameTooLong, tooManyLinks].find?
    (·.number = number)).getD (other number description)

theorem number_ofNumber (n : Nat) (description : Text) : (ofNumber n description).number = n := by
  rw [ofNumber]
  generalize h : List.find? _ _ = found
  cases found with
  | none => rfl
  | some c => simpa using List.find?_some h

-- Causes that mean that nothing stands at a path, rather than that asking went wrong.
def meansAbsent : Cause → Bool
  | missing | notDirectory | tooManyLinks => true
  | occupied | isDirectory | nameTooLong | other _ _ => false

end FileError.Cause

structure FileError where
  cause : FileError.Cause
  path : Path
deriving DecidableEq

def FileError.message (e : FileError) : Text :=
  "[Errno ".toList ++ Text.ofNat e.cause.number ++ "] ".toList ++ e.cause.description
    ++ ": ".toList ++ e.path.toText.quoted

end EnvMerge
