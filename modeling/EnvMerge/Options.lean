import EnvMerge.Document
import EnvMerge.Preference

namespace EnvMerge

structure Options where
  preference : Preference
  append : Bool
  token : Text
  generator : Option Rule
  classifiers : List Rule

-- A setting before it is checked.
abbrev Setting := Datum Rule

-- Options as a caller gives them, each with its default.
structure Settings where
  preference : Setting
  append : Setting
  token : Setting
  generator : Setting
  classification : Setting

namespace Setting

def toSide : Setting → Except Failure Side
  | .side s => .ok s
  | .text t =>
    match Side.ofText? t with
    | some s => .ok s
    | none => .error (.invalidPreference (Text.quoted t))
  | d => .error (.invalidPreference d.quoted)

-- A type tag is a text that is not empty.
def toTag : Setting → Except Failure Text
  | .text (c :: t) => .ok (c :: t)
  | d => .error (.invalidTag d.quoted)

-- Checks a mapping pair by pair, each tag before its side.
def toTagSides (sides : TagSides) : List (Setting × Setting) → Except Failure TagSides
  | [] => .ok sides
  | (tag, side) :: rest => do
    let tag ← toTag tag
    let side ← toSide side
    toTagSides (sides.put tag side) rest

def toPreference : Setting → Except Failure Preference
  | .mapping pairs => .byTag <$> toTagSides [] pairs
  | d => .fixed <$> toSide d

def toClassifier : Setting → Except Failure Rule
  | .callback rule => .ok rule
  | d => .error (.invalidClassifier d.quoted)

-- Nothing, one classifier, or a sequence of them.
def toClassifiers : Setting → Except Failure (List Rule)
  | .null => .ok []
  | .callback rule => .ok [rule]
  | .list items | .tuple items => items.mapM toClassifier
  | d => .error (.invalidClassification d.quoted)

-- A token is a text that is not blank.
def toToken : Setting → Except Failure Text
  | .text t => if t.trim = [] then .error (.invalidToken (Text.quoted t)) else .ok t
  | d => .error (.invalidToken d.quoted)

def toGenerator : Setting → Except Failure (Option Rule)
  | .null => .ok none
  | .callback rule => .ok (some rule)
  | _ => .error .invalidGenerator

end Setting

namespace Settings

def standard : Settings where
  preference := .side .destination
  append := .flag false
  token := .text Document.defaultToken
  generator := .null
  classification := .tuple []

def set (s : Settings) (name : Text) (value : Setting) : Except Failure Settings :=
  if name = "preference".toList then .ok { s with preference := value }
  else if name = "append_template_only".toList then .ok { s with append := value }
  else if name = "freeze_token".toList then .ok { s with token := value }
  else if name = "signature_generator".toList then .ok { s with generator := value }
  else if name = "classification".toList then .ok { s with classification := value }
  else .error (.unknownOption name)

def ofNamed (named : List (Text × Setting)) : Except Failure Settings :=
  named.foldlM (fun s (name, value) => s.set name value) standard

-- Checks the settings one after the other and keeps the first fault.
def toOptions (s : Settings) : Except Failure Options := do
  let preference ← s.preference.toPreference
  let classifiers ← s.classification.toClassifiers
  let token ← s.token.toToken
  let generator ← s.generator.toGenerator
  return ⟨preference, s.append.truth, token, generator, classifiers⟩

end Settings

namespace Options

def standard : Options where
  preference := .fixed .destination
  append := false
  token := Document.defaultToken
  generator := none
  classifiers := []

def ofNamed (named : List (Text × Setting)) : Except Failure Options := do
  (← Settings.ofNamed named).toOptions

-- Options come whole or one by one, not both.
def choose (whole : Option Options) (named : List (Text × Setting)) : Except Failure Options :=
  match whole with
  | none => ofNamed named
  | some options => if named = [] then .ok options else .error .optionsTwice

def signer (o : Options) : Signer :=
  .ofRule? o.generator

end Options
end EnvMerge
