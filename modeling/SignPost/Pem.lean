import SignPost.Text.Pieces
import SignPost.Text.Base64

/-!
# Armoured text

Bytes in base64 between a line that begins and a line that ends a block. Two readings: a list of
certificates is read leniently, any text may stand between its blocks; a key is read strictly, as
one block with lines of 64 symbols.
-/

namespace SignPost.Pem

/-! ## Lists of certificates -/

inductive Error where
  | badHeader
  | incomplete
  | badContent
  | badText
deriving DecidableEq, Repr

def Error.message : Error → String
  | .badHeader => "invalid header"
  | .incomplete => "incomplete PEM"
  | .badContent => "base64 decode error"
  | .badText => "IO error: stream did not contain valid UTF-8"

def dashes : List Char := "-----".toList

def opening : List Char := "-----BEGIN ".toList

def closing : List Char := "-----END ".toList

def occurs (part : List Char) : List Char → Bool
  | [] => part.isEmpty
  | c :: rest => part.isPrefixOf (c :: rest) || occurs part rest

/-- The bytes of groups of four symbols, each with its own padding. -/
def decodeGroups : Bytes → Option Bytes
  | [] => some []
  | a :: b :: c :: d :: rest =>
    match Base64.decodeLast 0 [a, b, c, d], decodeGroups rest with
    | .ok group, some bytes => some (group ++ bytes)
    | _, _ => none
  | _ => none

/-- The lines of a text; a line end at the very end begins no further line. -/
def lines (text : Bytes) : List Bytes :=
  match (pieces (· = 10) text).reverse with
  | [] :: before => before.reverse
  | all => all.reverse

/-- Reads blocks from lines; inside a block, the symbols found so far are given. -/
def readBlocks : (inside : Option (List Char)) → List Bytes → Except Error (List Bytes)
  | none, [] => .ok []
  | some _, [] => .error .incomplete
  | inside, line :: rest =>
    match Utf8.decode? line, inside with
    | none, _ => .error .badText
    | some text, none =>
      if opening.isPrefixOf text then
        if occurs dashes (text.drop opening.length) then readBlocks (some []) rest
        else .error .badHeader
      else readBlocks none rest
    | some text, some symbols =>
      if closing.isPrefixOf text then
        match decodeGroups (Utf8.encode symbols), readBlocks none rest with
        | none, _ => .error .badContent
        | some bytes, .ok blocks => .ok (bytes :: blocks)
        | some _, .error e => .error e
      else readBlocks (some (symbols ++ Text.trimRight text)) rest

def blocks (text : Bytes) : Except Error (List Bytes) :=
  readBlocks none (lines text)

/-! ## Single blocks -/

def lineWidth : Nat := 64

def dropLineEnd : Bytes → Option Bytes
  | 13 :: 10 :: rest => some rest
  | 13 :: rest => some rest
  | 10 :: rest => some rest
  | _ => none

def dropLastLineEnd (text : Bytes) : Option Bytes :=
  match text.reverse with
  | 10 :: 13 :: before => some before.reverse
  | 10 :: before => some before.reverse
  | 13 :: before => some before.reverse
  | _ => none

/-- The text with its line ends taken out, all lines but the last being full. -/
def unwrapLines : (fuel : Nat) → Bytes → Option Bytes
  | 0, _ => none
  | fuel + 1, text =>
    if text.length ≤ lineWidth then some ((dropLastLineEnd text).getD text)
    else
      match dropLineEnd (text.drop lineWidth) with
      | some rest => (unwrapLines fuel rest).map (text.take lineWidth ++ ·)
      | none => none

/-- The text from the first block on: at the very front, or after a line end. No zero byte may
stand before it. -/
def dropPreamble (start : Bool) : Bytes → Option Bytes
  | [] => none
  | b :: rest =>
    if start && (Utf8.encode opening).isPrefixOf (b :: rest) then some (b :: rest)
    else if b = 0 then none
    else dropPreamble (b = 10) rest

def dropEnding (ending text : Bytes) : Option Bytes :=
  if ending.isSuffixOf text then some (text.take (text.length - ending.length)) else none

/-- The content of the one block of a text, with a given label. -/
def content (label : String) (text : Bytes) : Option Bytes := do
  let label := Utf8.ofString label
  let dashes := Utf8.encode dashes
  let text ← dropPreamble true text
  let text := text.drop opening.length
  if !(label ++ dashes).isPrefixOf text then none
  let text ← dropLineEnd (text.drop (label.length + dashes.length))
  let text := (dropLastLineEnd text).getD text
  let text ← dropEnding (Utf8.encode closing ++ label ++ dashes) text
  let text ← dropLastLineEnd text
  let symbols ← unwrapLines (text.length + 1) text
  (Base64.decodeBytes symbols).toOption

end SignPost.Pem
