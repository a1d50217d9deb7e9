import SignPost.Text.Hex

/-!
# Texts in TOML

A text stands in double quotes, where a backslash escapes, or in single quotes, where nothing does.
Three quotes open a text of several lines; a line break right behind them does not count, and up to
two quotes may stand before the three that close it. Control characters other than the tab have to
be escaped.
-/

namespace SignPost.Data.Toml

def isSpace (c : Char) : Bool :=
  c = ' ' || c = '\t'

def skipSpaces (text : List Char) : List Char :=
  text.dropWhile isSpace

def takeNewline : List Char → Option (List Char)
  | '\n' :: rest => some rest
  | '\r' :: '\n' :: rest => some rest
  | _ => none

/-- A character that may stand in a text, a quote or a comment as it is. -/
def isPlain (c : Char) : Bool :=
  c = '\t' || (0x20 ≤ c.toNat && c.toNat ≤ 0x7E) || 0x80 ≤ c.toNat

def spelled (digits : List Char) : Option Char :=
  match digits.mapM fun d => Hex.digitValue d.toNat with
  | none => none
  | some values =>
    let n := values.foldl (fun n d => n * 16 + d) 0
    if n.isValidChar then some (Char.ofNat n) else none

def takeEscape : List Char → Option (Char × List Char)
  | 'u' :: a :: b :: c :: d :: rest => (spelled [a, b, c, d]).map (·, rest)
  | 'U' :: a :: b :: c :: d :: e :: f :: g :: h :: rest =>
    (spelled [a, b, c, d, e, f, g, h]).map (·, rest)
  | e :: rest =>
    if e = '"' || e = '\\' then some (e, rest)
    else if e = 'b' then some ('\x08', rest)
    else if e = 't' then some ('\t', rest)
    else if e = 'n' then some ('\n', rest)
    else if e = 'f' then some ('\x0c', rest)
    else if e = 'r' then some ('\r', rest)
    else none
  | [] => none

/-- Puts a character before the text that a reader gave. -/
def prepend (c : Char) (read : Option (List Char × List Char)) : Option (List Char × List Char) :=
  read.map fun (text, rest) => (c :: text, rest)

/-- Takes a text of one line up to its double quote. -/
def takeBasic : (fuel : Nat) → List Char → Option (List Char × List Char)
  | 0, _ => none
  | _ + 1, [] => none
  | fuel + 1, c :: rest =>
    if c = '"' then some ([], rest)
    else if c = '\\' then
      match takeEscape rest with
      | some (e, rest) => prepend e (takeBasic fuel rest)
      | none => none
    else if isPlain c then prepend c (takeBasic fuel rest)
    else none

/-- Takes a text of one line up to its single quote. -/
def takeLiteral (text : List Char) : Option (List Char × List Char) :=
  let isInside (c : Char) : Bool := isPlain c && c ≠ '\x27'
  match text.dropWhile isInside with
  | '\x27' :: rest => some (text.takeWhile isInside, rest)
  | _ => none

def quotes (quote : Char) (text : List Char) : Nat :=
  (text.takeWhile (· = quote)).length

def skipLines : (fuel : Nat) → List Char → List Char
  | 0, text => text
  | fuel + 1, text =>
    let text := skipSpaces text
    match takeNewline text with
    | some rest => skipLines fuel rest
    | none => text

/-- Takes a text of several lines up to its three quotes. -/
def takeLines (quote : Char) (escapes : Bool) : (fuel : Nat) → List Char →
    Option (List Char × List Char)
  | 0, _ => none
  | _ + 1, [] => none
  | fuel + 1, c :: rest =>
    if c = quote then
      let n := min (quotes quote (c :: rest)) 5
      if 3 ≤ n then some (List.replicate (n - 3) quote, (c :: rest).drop n)
      else prepend c (takeLines quote escapes fuel rest)
    else if escapes && c = '\\' then
      match takeNewline (skipSpaces rest) with
      | some rest => takeLines quote escapes fuel (skipLines (rest.length + 1) rest)
      | none =>
        match takeEscape rest with
        | some (e, rest) => prepend e (takeLines quote escapes fuel rest)
        | none => none
    else
      match takeNewline (c :: rest) with
      | some rest => prepend '\n' (takeLines quote escapes fuel rest)
      | none => if isPlain c then prepend c (takeLines quote escapes fuel rest) else none

/-- Takes a text of several lines behind its opening quotes. -/
def takeBlock (quote : Char) (escapes : Bool) (text : List Char) :
    Option (List Char × List Char) :=
  let text := (takeNewline text).getD text
  takeLines quote escapes (text.length + 1) text

def takeQuoted : List Char → Option (List Char × List Char)
  | '"' :: rest => takeBasic (rest.length + 1) rest
  | '\x27' :: rest => takeLiteral rest
  | _ => none

def takeText : List Char → Option (List Char × List Char)
  | '"' :: '"' :: '"' :: rest => takeBlock '"' true rest
  | '\x27' :: '\x27' :: '\x27' :: rest => takeBlock '\x27' false rest
  | text => takeQuoted text

end SignPost.Data.Toml
