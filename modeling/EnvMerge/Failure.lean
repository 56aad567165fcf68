import EnvMerge.Datum
import EnvMerge.Files.Error
import EnvMerge.Text.Utf8

namespace EnvMerge

-- A source that could not be read as text: whose it is, the faults in words, and the bytes.
structure ParseFault where
  role : Option Side
  message : Text
  errors : List Text
  content : Option Bytes
deriving DecidableEq

namespace ParseFault

-- Without a message of its own the fault lists its errors.
def defaultMessage (errors : List Text) : Text :=
  let start := "Failed to parse dotenv source".toList
  if errors = [] then start else start ++ ": ".toList ++ [';', ' '].intercalate errors

def ofErrors (role : Option Side) (message? : Option Text) (errors : List Text) : ParseFault :=
  ⟨role, message?.getD (defaultMessage errors), errors, none⟩

def ofDecoding (content : Bytes) (f : Utf8.Fault) : ParseFault :=
  { ofErrors none none [f.message] with content := some content }

def roleName : Side → Text
  | .template    => "Template".toList
  | .destination => "Destination".toList

-- The same fault, said of one of the two inputs.
def within (role : Side) (f : ParseFault) : ParseFault :=
  { f with role := some role, message := roleName role ++ ": ".toList ++ f.message }

end ParseFault

inductive Failure
  -- An option that does not exist.
  | unknownOption (name : Text)
  -- Options were given both whole and one by one.
  | optionsTwice
  -- A preference that names no side; like the next ones it holds the value as messages show it.
  | invalidPreference (shown : Text)
  | invalidTag (shown : Text)
  | invalidClassification (shown : Text)
  | invalidClassifier (shown : Text)
  | invalidToken (shown : Text)
  | invalidGenerator
  | unsupported (typeName : Text)
  -- A value that is asked for something it does not have.
  | lacks (typeName feature : Text)
  -- A value where a path is needed.
  | notPath (typeName : Text)
  -- A value that cannot be looked up.
  | unhashable (typeName : Text)
  -- A caller's rule gave up.
  | refused (message : Text)
  | parse (fault : ParseFault)
  | file (error : FileError)
  -- A path with a null character in it.
  | nullInPath
  -- A file would be copied onto itself.
  | sameFile (source target : Text)
  -- A copy is to become a folder that is not there.
  | noSuchFolder (target : Path)
  | linkLoop (path : Path)
  | endOfInput
  | interrupted
deriving DecidableEq

namespace Failure

def expected : Text :=
  ": expected 'template' or 'destination'".toList

def message : Failure → Text
  | unknownOption name =>
    "MergeOptions.__init__() got an unexpected keyword argument '".toList ++ name ++ ['\'']
  | optionsTwice =>
    "Pass either a MergeOptions instance or keyword options, not both".toList
  | invalidPreference shown => "Invalid preference ".toList ++ shown ++ expected
  | invalidTag shown => "Invalid preference type tag: ".toList ++ shown
  | invalidClassification shown => "Invalid classification: ".toList ++ shown
  | invalidClassifier shown => "Classifier is not callable: ".toList ++ shown
  | invalidToken shown => "Invalid freeze token: ".toList ++ shown
  | invalidGenerator => "signature_generator must be callable".toList
  | unsupported typeName => "Unsupported statement type: ".toList ++ typeName
  | lacks typeName feature =>
    '\'' :: typeName ++ "' object has no attribute '".toList ++ feature ++ ['\'']
  | notPath typeName => "expected str, bytes or os.PathLike object, not ".toList ++ typeName
  | unhashable typeName => "unhashable type: '".toList ++ typeName ++ ['\'']
  | refused text => text
  | parse fault => fault.message
  | file error => error.message
  | nullInPath => "embedded null byte".toList
  | sameFile source target =>
    source ++ " and ".toList ++ target ++ " are the same file".toList
  | noSuchFolder target => "Directory does not exist: ".toList ++ target.toText
  | linkLoop path => "Symlink loop from ".toList ++ path.toText.quoted
  | endOfInput => "EOF when reading a line".toList
  | interrupted => []

-- Failures that a configuration of the merge causes.
def isConfiguration : Failure → Bool
  | optionsTwice | invalidPreference _ | invalidTag _ | invalidClassification _
  | invalidClassifier _ | invalidToken _ | invalidGenerator => true
  | _ => false

-- Failures of the files themselves.
def isSystem : Failure → Bool
  | file _ | sameFile _ _ | noSuchFolder _ => true
  | _ => false

def isParse : Failure → Bool
  | parse _ => true
  | _ => false

end Failure
end EnvMerge
