import SignPost.Data.Toml.Scalar
import SignPost.Data.Toml.Table

/-!
# Reading TOML

A document is a sequence of lines: assignments, headers, comments. Lists and inline tables are
nested less than 80 deep, and a dotted key has less than 80 parts.
-/

namespace SignPost.Data.Toml

/-- The limit of nesting and of the parts of a key. -/
def maxDepth : Nat := 79

def skipComment : List Char → List Char
  | '#' :: rest => rest.dropWhile isPlain
  | text => text

/-- Takes the rest of a line: blanks, a comment, and its end. -/
def takeLineEnd (text : List Char) : Option (List Char) :=
  match skipComment (skipSpaces text) with
  | [] => some []
  | rest => takeNewline rest

def skipBetween : (fuel : Nat) → List Char → List Char
  | 0, text => text
  | fuel + 1, text =>
    match takeNewline (skipComment (skipSpaces text)) with
    | some rest => skipBetween fuel rest
    | none => skipSpaces text

def skipAll (text : List Char) : List Char :=
  skipBetween (text.length + 1) text

/-! ## Keys -/

def isBare (c : Char) : Bool :=
  c.isAlphanum || c = '_' || c = '-'

def takePart (text : List Char) : Option (List Char × List Char) :=
  let bare := text.takeWhile isBare
  if bare.isEmpty then takeQuoted text else some (bare, text.dropWhile isBare)

/-- Takes the parts of a key, with the blanks around them. -/
def takeParts : (fuel : Nat) → List Char → Option (List String × List Char)
  | 0, _ => none
  | fuel + 1, text =>
    match takePart (skipSpaces text) with
    | none => none
    | some (part, rest) =>
      match skipSpaces rest with
      | '.' :: rest =>
        (takeParts fuel rest).map fun (parts, rest) => (String.ofList part :: parts, rest)
      | rest => some ([String.ofList part], rest)

def takeKey (text : List Char) : Option (Key × List Char) :=
  match takeParts (text.length + 1) text with
  | none => none
  | some (parts, rest) =>
    match parts.getLast? with
    | some name => if parts.length ≤ maxDepth then some (⟨parts.dropLast, name⟩, rest) else none
    | none => none

/-! ## Values -/

def takeWord (word : String) (value : Value) (text : List Char) : Option (Value × List Char) :=
  if word.toList.isPrefixOf text then some (value, text.drop word.length) else none

mutual

/-- Takes a value, nested at most `depth` deep. -/
def takeValue : (fuel depth : Nat) → List Char → Option (Value × List Char)
  | 0, _, _ => none
  | fuel + 1, depth, text =>
    match text with
    | '[' :: rest =>
      match depth with
      | 0 => none
      | depth + 1 => (takeItems fuel depth rest).map fun (items, rest) => (.list items, rest)
    | '\x7b' :: rest =>
      match depth with
      | 0 => none
      | depth + 1 =>
        match skipSpaces rest with
        | '\x7d' :: rest => some (.table [], rest)
        | rest =>
          match takePairs fuel depth rest with
          | none => none
          | some (pairs, rest) => (inlineTable pairs).map (·, rest)
    | c :: _ =>
      if c = '"' || c = '\x27' then
        (takeText text).map fun (s, rest) => (.text (String.ofList s), rest)
      else if c = 't' then takeWord "true" (.bool true) text
      else if c = 'f' then takeWord "false" (.bool false) text
      else if c = 'i' || c = 'n' then takeNumber text
      else if c = '+' || c = '-' || isDigit c then takeNumeral text
      else none
    | [] => none

/-- Takes the values of a list up to its end. A comma may follow the last. -/
def takeItems : (fuel depth : Nat) → List Char → Option (List Value × List Char)
  | 0, _, _ => none
  | fuel + 1, depth, text =>
    match skipAll text with
    | ']' :: rest => some ([], rest)
    | rest =>
      match takeValue fuel depth rest with
      | none => none
      | some (v, rest) =>
        match skipAll rest with
        | ',' :: rest => (takeItems fuel depth rest).map fun (vs, rest) => (v :: vs, rest)
        | ']' :: rest => some ([v], rest)
        | _ => none

/-- Takes the assignments of an inline table up to its end. -/
def takePairs : (fuel depth : Nat) → List Char → Option (List Assignment × List Char)
  | 0, _, _ => none
  | fuel + 1, depth, text =>
    match takeKey text with
    | some (key, '=' :: rest) =>
      match takeValue fuel depth (skipSpaces rest) with
      | none => none
      | some (v, rest) =>
        match skipSpaces rest with
        | ',' :: rest => (takePairs fuel depth rest).map fun (ps, rest) => (⟨key, v⟩ :: ps, rest)
        | '\x7d' :: rest => some ([⟨key, v⟩], rest)
        | _ => none
    | _ => none

end

/-! ## Lines -/

def takeAssignment (text : List Char) : Option (Assignment × List Char) := do
  let (key, text) ← takeKey text
  let text ← takeChar '=' text
  let (value, text) ← takeValue (text.length + 1) maxDepth (skipSpaces text)
  let text ← takeLineEnd text
  some (⟨key, value⟩, text)

def takeAssignments : (fuel : Nat) → List Char → Option (List Assignment × List Char)
  | 0, _ => none
  | fuel + 1, text =>
    match skipAll text with
    | [] => some ([], [])
    | '[' :: rest => some ([], '[' :: rest)
    | rest =>
      if (skipComment rest).isEmpty then some ([], [])
      else
        match takeAssignment rest with
        | none => none
        | some (a, rest) => (takeAssignments fuel rest).map fun (more, rest) => (a :: more, rest)

/-- Takes a header with its line: whether it adds an element, and its key. -/
def takeHeader : List Char → Option ((Bool × Key) × List Char)
  | '[' :: '[' :: rest => do
    let (key, rest) ← takeKey rest
    let rest ← takeChar ']' rest
    let rest ← takeChar ']' rest
    let rest ← takeLineEnd rest
    some ((true, key), rest)
  | '[' :: rest => do
    let (key, rest) ← takeKey rest
    let rest ← takeChar ']' rest
    let rest ← takeLineEnd rest
    some ((false, key), rest)
  | _ => none

def takeSections : (fuel : Nat) → List Char → Option (List Section)
  | 0, _ => none
  | _ + 1, [] => some []
  | fuel + 1, text =>
    match takeHeader text with
    | none => none
    | some ((isElement, key), rest) =>
      match takeAssignments (rest.length + 1) rest with
      | none => none
      | some (assignments, rest) =>
        (takeSections fuel rest).map (⟨isElement, key, assignments⟩ :: ·)

def skipMark : List Char → List Char
  | '\uFEFF' :: rest => rest
  | text => text

def parse (text : List Char) : Option Value := do
  let text := skipMark text
  let (assignments, rest) ← takeAssignments (text.length + 1) text
  let sections ← takeSections (rest.length + 1) rest
  document assignments sections

end SignPost.Data.Toml
