import SignPost.Data.Json.Reader
import SignPost.Data.Overlay
import SignPost.Data.Toml.Reader
import SignPost.Settings.Sections
import SignPost.Text.Utf8

/-!
# Loading settings

A document in JSON or TOML is laid over settings: what it says replaces what they say, and the rest
stays. The result is checked, so that settings which were loaded can be used. The format of a file
is told by the extension of its name.
-/

namespace SignPost.Settings

open Data (Value Entries)

inductive Format where
  | json
  | toml
deriving DecidableEq, Repr

namespace Format

def ofName? (name : String) : Option Format :=
  if name = "json" then some .json
  else if name = "toml" then some .toml
  else none

def parse : Format → List Char → Option Value
  | .json, text => Data.Json.parse text
  | .toml, text => Data.Toml.parse text

end Format

/-- The entries of a document, whose root has to be a table. -/
def readDocument (format : Format) (text : List Char) : Except ParameterError Entries :=
  match format.parse text with
  | some (.table entries) => .ok entries
  | _ => .error .unparsable

/-- The entries that settings are merged from: sections without a value are left out. -/
def baseEntries (s : Settings) : Entries :=
  let optional (sectionKey key : String) (text : Option String) : Entries :=
    text.elim [] fun _ => [(sectionKey, .table (textSection key text))]
  optional trustKey fingerprintKey s.fingerprint ++
    [(signingKey, .table [(algorithmKey, .text s.algorithm.name)])] ++
    optional clientKey languageKey s.language

/-- The settings with a document laid over them, not yet checked. -/
def merge (s : Settings) (format : Format) (text : List Char) : Except ParameterError Settings := do
  let entries ← readDocument format text
  ofEntries (entries.overlayAll s.baseEntries)

def overlay (s : Settings) (format : Format) (text : List Char) : Except Error Settings :=
  match s.merge format text with
  | .error e => .error (.badParameter e)
  | .ok merged =>
    match merged.validate with
    | .error e => .error e
    | .ok () => .ok merged

/-- The settings with a document of JSON laid over them. -/
def withJson (s : Settings) (text : String) : Except Error Settings :=
  s.overlay .json text.toList

/-- The settings with a document of TOML laid over them. -/
def withToml (s : Settings) (text : String) : Except Error Settings :=
  s.overlay .toml text.toList

/-! ## Files -/

/-- A file of settings: its path, which need not be text, and its content or why it cannot be
read. -/
structure File where
  path : Bytes
  content : Except String Bytes

/-- The bytes of a slash and of a point. -/
def slash : UInt8 := 47
def point : UInt8 := 46

/-- The name of the file at a path. Slashes at the end and single points do not count, but a path
that is one point, or ends in two of them, has no name. -/
def fileName? (path : Bytes) : Option Bytes :=
  let parts := (pieces (· = slash) path).filter fun part => part ≠ []
  let named := parts.filter fun part => part ≠ [point]
  match named.getLast? with
  | some name => if name = [point, point] then none else some name
  | none => none

/-- The extension of a file name: what stands behind its last point, which is not its first
byte. -/
def extension? (path : Bytes) : Option Bytes :=
  match fileName? path with
  | none => none
  | some name =>
    match (pieces (· = point) name).reverse with
    | ext :: stem :: before => if stem = [] ∧ before = [] then none else some ext
    | _ => none

/-- The settings with a file laid over them. Bytes of the file that are not text are replaced. -/
def withFile (s : Settings) (file : File) : Except Error Settings :=
  match extension? file.path with
  | none => .error (.badParameter .noExtension)
  | some ext =>
    match Utf8.decode? ext with
    | none => .error (.badParameter .badFileName)
    | some ext =>
      match file.content with
      | .error e => .error (.io e)
      | .ok content =>
        let name := String.ofList (Text.lower ext)
        match Format.ofName? name with
        | none => .error (.unsupportedFormat name)
        | some format => s.overlay format (Utf8.decodeLossy content)

/-! ## Settings from one document -/

def ofJson (text : String) : Except Error Settings :=
  withJson {} text

def ofToml (text : String) : Except Error Settings :=
  withToml {} text

def ofFile (file : File) : Except Error Settings :=
  withFile {} file

end SignPost.Settings
