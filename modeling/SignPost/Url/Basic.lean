import SignPost.Text.Utf8
import SignPost.Url.Address
import SignPost.Url.Domain.Basic

/-!
# Absolute addresses

Whether a text is an absolute address as a browser reads it: blanks and controls around it are
dropped, tabs and line ends anywhere are ignored. After the scheme, only the authority can be at
fault; paths, queries and fragments hold any characters. Schemes of the web need a host and take
backslashes for slashes.
-/

namespace SignPost.Url

inductive SchemeKind where
  | web
  | file
  | other
deriving DecidableEq, Repr

def SchemeKind.ofName (name : String) : SchemeKind :=
  if ["http", "https", "ws", "wss", "ftp"].contains name then .web
  else if name = "file" then .file
  else .other

def isSchemeChar (c : Char) : Bool :=
  c.isAlphanum || c = '+' || c = '-' || c = '.'

/-- The scheme in lower case, and what follows its colon. -/
def splitScheme (text : List Char) : Option (String × List Char) :=
  match text with
  | c :: _ =>
    if c.isAlpha then
      match text.dropWhile isSchemeChar with
      | ':' :: rest => some (String.ofList ((text.takeWhile isSchemeChar).map Char.toLower), rest)
      | _ => none
    else none
  | [] => none

def isSlash (web : Bool) (c : Char) : Bool :=
  c = '/' || (web && c = '\\')

def endsAuthority (web : Bool) (c : Char) : Bool :=
  isSlash web c || c = '?' || c = '#'

/-- The text before the last `@`, if there is one, and the text after it. -/
def splitUser (authority : List Char) : Option (List Char) × List Char :=
  match (pieces (· = '@') authority).reverse with
  | last :: before :: more => (some (List.intercalate ['@'] (before :: more).reverse), last)
  | _ => (none, authority)

/-- The host at the front of an authority: up to a colon outside brackets. -/
def takeHost (inBrackets : Bool) : List Char → List Char × List Char
  | [] => ([], [])
  | c :: rest =>
    if c = ':' && !inBrackets then ([], c :: rest)
    else
      let inBrackets := if c = '[' then true else if c = ']' then false else inBrackets
      let (host, after) := takeHost inBrackets rest
      (c :: host, after)

/-- A port is empty or a number below 65536; it ends at a slash of either kind. -/
def validPort (text : List Char) : Bool :=
  let port := text.takeWhile (· ≠ '\\')
  port.all (fun c => (Decimal.digitValue c).isSome) && (Decimal.ofDigits port).getD 0 < 65536

/-- What stands in brackets is an address of version 6. -/
def checkBrackets (host : List Char) : Except Error Unit :=
  if host.getLast? = some ']' && isIpv6 (host.drop 1).dropLast then .ok () else .error .invalidIpv6

/-- Bytes written as `%` and two digits are read as such. -/
def percentDecode : Bytes → Bytes
  | a :: b :: c :: rest =>
    if a = 37 then
      match Hex.digitValue b.toNat, Hex.digitValue c.toNat with
      | some h, some l => UInt8.ofNat (h * 16 + l) :: percentDecode rest
      | _, _ => a :: percentDecode (b :: c :: rest)
    else a :: percentDecode (b :: c :: rest)
  | bytes => bytes

/-- The host of a web or file address: a domain name or a numeric host. -/
def checkHost (host : List Char) : Except Error Unit :=
  if host.head? = some '[' then checkBrackets host
  else
    match Domain.normalize (percentDecode (Utf8.encode host)) with
    | none => .error .invalidName
    | some name =>
      if name.isEmpty then .error .emptyHost
      else if endsInNumber name && !isIpv4 name then .error .invalidIpv4
      else .ok ()

def isForbiddenInHost (c : Char) : Bool :=
  "\x00\t\n\r #/:<>?@[\\]^|".toList.contains c

/-- The host of an address of another scheme: any text without forbidden characters. -/
def checkOpaqueHost (host : List Char) : Except Error Unit :=
  if host.head? = some '[' then checkBrackets host
  else if host.any isForbiddenInHost then .error .invalidCharacter
  else .ok ()

def namesUser : List Char → Bool
  | [] => false
  | [c] => c ≠ ':'
  | _ => true

/-- The part after the host: nothing, or a port behind a colon. -/
def checkPort : List Char → Except Error Unit
  | ':' :: port => if validPort port then .ok () else .error .invalidPort
  | _ => .ok ()

/-- Checks user, host and port of an authority, which the path or the end of the text closes. -/
def checkAuthority (web beforePath : Bool) (authority : List Char) : Except Error Unit :=
  let (user, place) := splitUser authority
  let (host, port) := takeHost false place
  if user = some [] && place.isEmpty && beforePath then .error .emptyHost
  else if host.isEmpty then
    if web || !port.isEmpty || (user.map namesUser).getD false then .error .emptyHost else .ok ()
  else
    match if web then checkHost host else checkOpaqueHost host with
    | .error e => .error e
    | .ok () => checkPort port

def checkFront (web : Bool) (text : List Char) : Except Error Unit :=
  let authority := text.takeWhile fun c => !endsAuthority web c
  checkAuthority web (authority.length < text.length) authority

/-- A letter and a colon or bar: a drive, not a host. -/
def isDrive : List Char → Bool
  | [a, b] => a.isAlpha && (b = ':' || b = '|')
  | _ => false

def checkFileHost (host : List Char) : Except Error Unit :=
  if host.isEmpty || isDrive host then .ok () else checkHost host

def isControlOrSpace (c : Char) : Bool :=
  c.toNat ≤ 0x20

def strip (text : List Char) : List Char :=
  let text := ((text.dropWhile isControlOrSpace).reverse.dropWhile isControlOrSpace).reverse
  text.filter fun c => c ≠ '\t' && c ≠ '\n' && c ≠ '\r'

/-- A text is an absolute address, or why it is none. -/
def check : Check := fun text =>
  match splitScheme (strip text.toList) with
  | none => .error .relative
  | some (scheme, rest) =>
    match SchemeKind.ofName scheme with
    | .web => checkFront true (rest.dropWhile (isSlash true))
    | .file =>
      match rest with
      | a :: b :: host =>
        if isSlash true a && isSlash true b then
          checkFileHost (host.takeWhile fun c => !endsAuthority true c)
        else .ok ()
      | _ => .ok ()
    | .other =>
      match rest with
      | '/' :: '/' :: authority => checkFront false authority
      | _ => .ok ()

end SignPost.Url
