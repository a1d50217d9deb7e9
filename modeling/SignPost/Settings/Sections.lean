import SignPost.Data.Value
import SignPost.Settings.Basic
import SignPost.Text.Lowercase

/-!
# Settings as a document

A document of settings has the sections `trust`, `signing` and `client`, each with one value. What
is missing has its default, unknown keys do not count, and a section may also be a list of its
values. A number or a truth value stands for its text.
-/

namespace SignPost.Settings

open Data (Value Entries)

/-! ## Keys -/

def trustKey : String := "trust"
def fingerprintKey : String := "service_fingerprint"
def signingKey : String := "signing"
def algorithmKey : String := "algorithm"
def clientKey : String := "client"
def languageKey : String := "language"

/-! ## Writing -/

def textSection (key : String) : Option String → Entries
  | some text => [(key, .text text)]
  | none => []

def toValue (s : Settings) : Value :=
  .table [
    (trustKey, .table (textSection fingerprintKey s.fingerprint)),
    (signingKey, .table [(algorithmKey, .text s.algorithm.name)]),
    (clientKey, .table (textSection languageKey s.language))]

/-! ## Reading -/

def scalarText? : Value → Option String
  | .text s => some s
  | .bool b => some (toString b)
  | .int n => some (toString n)
  | .float x => some x.render
  | _ => none

/-- The value of a section, if the section and the value are there. -/
def sectionValue (sectionKey key : String) (root : Entries) :
    Except ParameterError (Option Value) :=
  match Entries.get? root sectionKey with
  | none => .ok none
  | some (.table entries) => .ok (Entries.get? entries key)
  | some (.list items) => .ok items.head?
  | some value => .error (.wrongShape [sectionKey] value.shape)

def optionalText (path : List String) : Option Value → Except ParameterError (Option String)
  | none => .ok none
  | some .null => .ok none
  | some value =>
    match scalarText? value with
    | some text => .ok (some text)
    | none => .error (.wrongShape path value.shape)

/-- The algorithm of a name in letters of either case. -/
def algorithmOfName? (name : String) : Option Signing.Algorithm :=
  Signing.Algorithm.ofName? (String.ofList (Text.lower name.toList))

/-- An algorithm, given by its name or as a table with this name as its only key. -/
def algorithm? : Value → Option Signing.Algorithm
  | .text name => algorithmOfName? name
  | .table [(name, _)] => algorithmOfName? name
  | _ => none

/-- An algorithm, or the default where none is given. -/
def readAlgorithm : Option Value → Except ParameterError Signing.Algorithm
  | none => .ok default
  | some value =>
    match algorithm? value with
    | some a => .ok a
    | none => .error (.wrongShape [signingKey, algorithmKey] value.shape)

def ofEntries (root : Entries) : Except ParameterError Settings := do
  let fingerprint ←
    optionalText [trustKey, fingerprintKey] (← sectionValue trustKey fingerprintKey root)
  let algorithm ← readAlgorithm (← sectionValue signingKey algorithmKey root)
  let language ← optionalText [clientKey, languageKey] (← sectionValue clientKey languageKey root)
  return { fingerprint, algorithm, language }

end SignPost.Settings
