import SignPost.Data.Value
import SignPost.Text.Decimal
import SignPost.Text.Hex

/-!
# Writing JSON

A value in its compact form: no blanks, tables in their order, and texts with only those characters
escaped that have to be. What JSON has no numbers for is written as `null`.
-/

namespace SignPost.Data.Json

open Number (Binary64)

def escape (c : Char) : List Char :=
  if c = '"' then ['\\', '"']
  else if c = '\\' then ['\\', '\\']
  else if c = '\x08' then ['\\', 'b']
  else if c = '\t' then ['\\', 't']
  else if c = '\n' then ['\\', 'n']
  else if c = '\x0c' then ['\\', 'f']
  else if c = '\r' then ['\\', 'r']
  else if c.toNat < 0x20 then
    ['\\', 'u', '0', '0', Hex.digit (c.toNat / 16), Hex.digit (c.toNat % 16)]
  else [c]

def renderText (s : String) : List Char :=
  '"' :: s.toList.flatMap escape ++ ['"']

def renderInt (n : Int) : List Char :=
  if n < 0 then '-' :: Nat.toDigits 10 n.natAbs else Nat.toDigits 10 n.natAbs

def renderFloat : Binary64 → List Char
  | .finite negative mantissa exponent =>
    let digits := (Binary64.finite negative mantissa exponent).render.toList
    if digits.contains '.' then digits else digits ++ ['.', '0']
  | _ => "null".toList

mutual

def render : Value → List Char
  | .null => "null".toList
  | .bool b => if b then "true".toList else "false".toList
  | .int n => renderInt n
  | .float x => renderFloat x
  | .text s => renderText s
  | .list items => '[' :: renderItems items ++ [']']
  | .table entries => '\x7b' :: renderMembers entries ++ ['\x7d']

def renderItems : List Value → List Char
  | [] => []
  | [v] => render v
  | v :: w :: rest => render v ++ ',' :: renderItems (w :: rest)

def renderMembers : Entries → List Char
  | [] => []
  | [(k, v)] => renderText k ++ ':' :: render v
  | (k, v) :: e :: rest => renderText k ++ ':' :: render v ++ ',' :: renderMembers (e :: rest)

end

end SignPost.Data.Json
