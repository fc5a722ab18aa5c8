import RefactorGateway.Http.Credentials
/-!
# URLs of web servers

The URLs to which requests can be sent, read by the rules that browsers follow: blanks around a URL
are dropped, backslashes count as slashes, dot segments are resolved, and what may not stand in a
path or a query is percent-encoded.

## Main Definitions

- `Url`: the parts of a URL that a request needs
- `Host`: a name or an address
- `Url.read`: the URL of a text, if requests can be sent to it
- `Url.target`: what a request names

## Design Notes

Only `http` and `https` are read, since nothing else can be requested; so there is always a host,
and a path always begins with a slash. Credentials before the host are no part of what a request
names, but they are sent with it and so they are kept. A fragment is not sent and is skipped.

A name of a host that is not ASCII is kept as it is spelled: the tables by which international names
are mapped, and some of them refused, are not part of this library.
-/

namespace RefactorGateway.Http

/-- The host of a URL. -/
inductive Host
  /-- A name, in lower case where it is ASCII. -/
  | name (text : String)
  /-- An address of 32 bits. -/
  | v4 (address : Nat)
  /-- An address of eight pieces of 16 bits. -/
  | v6 (pieces : List Nat)
  deriving DecidableEq

/-- A URL to which a request can be sent. -/
structure Url where
  secure : Bool
  credentials : Option Credentials
  host : Host
  port : Nat
  /-- The percent-encoded segments of the path. -/
  segments : List String
  /-- The percent-encoded query, if there is one. -/
  query : Option String
  deriving DecidableEq

namespace Url

/-! ### Percent-encoding -/

/-- An upper-case hexadecimal digit. -/
def upperHex (n : Nat) : Char := (Nat.digitChar n).toUpper

/-- A byte in percent-encoding. -/
def percentByte (b : UInt8) : List Char := ['%', upperHex (b.toNat / 16), upperHex (b.toNat % 16)]

/-- A character that is encoded if it is in the given set, is a control or is not ASCII. -/
def encodeChar (set : List Char) (c : Char) : List Char :=
  if c.toNat ≤ 0x1F || c.toNat ≥ 0x7F || set.contains c then
    (String.utf8EncodeChar c).flatMap percentByte
  else [c]

/-- The characters that are encoded in a path. -/
def pathSet : List Char := [' ', '"', '#', '<', '>', '?', '`', '\x7b', '\x7d']

/-- The characters that are encoded in a query. -/
def querySet : List Char := [' ', '"', '#', '<', '>', '\'']

/-- Percent-encode a text. -/
def encode (set : List Char) (cs : List Char) : String :=
  String.ofList (cs.flatMap (encodeChar set))

/-- The value of a hexadecimal digit. -/
def hexValue? (c : Char) : Option Nat :=
  if c.isDigit then some (c.toNat - '0'.toNat)
  else if 'a' ≤ c.toLower ∧ c.toLower ≤ 'f' then some (c.toLower.toNat - 'a'.toNat + 10)
  else none

/-- The bytes of a text with its percent-encodings resolved. -/
def decodeBytes : List Char → List UInt8
  | [] => []
  | '%' :: a :: b :: rest =>
    match hexValue? a, hexValue? b with
    | some high, some low => UInt8.ofNat (16 * high + low) :: decodeBytes rest
    | _, _ => String.utf8EncodeChar '%' ++ decodeBytes (a :: b :: rest)
  | c :: rest => String.utf8EncodeChar c ++ decodeBytes rest
termination_by cs => cs.length

/-! ### Hosts -/

/-- The characters that no host name has: those that separate the parts of a URL, those that cannot
stand in a request, and what is no text. -/
def forbiddenInHost (c : Char) : Bool :=
  c.toNat ≤ 0x20 || c.toNat = 0x7F || c = Text.replacement
    || ['#', '/', ':', '<', '>', '?', '@', '[', '\\', ']', '^', '|', '%'].contains c
    || ['"', '`', '\x7b', '\x7d'].contains c

/-- The value of digits in a base, if all characters are such digits. -/
def digitsIn (base : Nat) (cs : List Char) : Option Nat :=
  cs.foldl (fun n c => do
    let n ← n
    let d ← hexValue? c
    if d < base then some (base * n + d) else none) (some 0)

/-- A number of an address, which may be hexadecimal or octal. -/
def addressNumber : List Char → Option Nat
  | '0' :: x :: rest =>
    if x = 'x' ∨ x = 'X' then digitsIn 16 rest else digitsIn 8 (x :: rest)
  | [] => none
  | cs => digitsIn 10 cs

/-- Whether a host name has to be an address because its last part is a number. -/
def endsInNumber (parts : List (List Char)) : Bool :=
  let parts := if parts.getLast? = some [] then parts.dropLast else parts
  match parts.getLast? with
  | some part =>
    (!part.isEmpty && part.all Char.isDigit) ||
      ((part.take 2 == ['0', 'x'] || part.take 2 == ['0', 'X']) && (addressNumber part).isSome)
  | none => false

/-- The address that the parts of a name spell: all but the last number are bytes, and the last one
fills what is left. -/
def addressOfParts (parts : List (List Char)) : Option Nat := do
  let parts := if parts.length > 1 ∧ parts.getLast? = some [] then parts.dropLast else parts
  if parts.length > 4 then none
  let numbers ← parts.mapM addressNumber
  let last ← numbers.getLast?
  let leading := numbers.dropLast
  let left := 8 * (4 - leading.length)
  if leading.any (· > 255) || last ≥ 1 <<< left then none
  else some ((leading.foldl (fun n byte => 256 * n + byte) 0) <<< left + last)

/-- Four decimal bytes at the end of an address of eight pieces, as two pieces. -/
def trailingBytes (cs : List Char) : Option (List Nat) := do
  let parts := cs.splitOn '.'
  if parts.length ≠ 4 then none
  let bytes ← parts.mapM fun part =>
    if part.isEmpty || part.length > 3 || (part.length > 1 && part.head? == some '0') then none
    else digitsIn 10 part
  match bytes with
  | [a, b, c, d] => if [a, b, c, d].any (· > 255) then none else some [256 * a + b, 256 * c + d]
  | _ => none

/-- The pieces between colons; only the last one may be four decimal bytes. -/
def pieces (allowBytes : Bool) : List (List Char) → Option (List Nat)
  | [] => some []
  | [part] =>
    if allowBytes && part.contains '.' then trailingBytes part
    else if part.isEmpty || part.length > 4 then none
    else (digitsIn 16 part).map ([·])
  | part :: rest => do
    if part.isEmpty || part.length > 4 then none
    let piece ← digitsIn 16 part
    let more ← pieces allowBytes rest
    return piece :: more

/-- Split at the first double colon. -/
def splitDouble : List Char → Option (List Char × List Char)
  | ':' :: ':' :: rest => some ([], rest)
  | c :: rest => (splitDouble rest).map fun p => (c :: p.1, p.2)
  | [] => none

/-- The pieces of a side of a double colon, which may be empty. -/
def sidePieces (allowBytes : Bool) (cs : List Char) : Option (List Nat) :=
  if cs.isEmpty then some [] else pieces allowBytes (cs.splitOn ':')

/-- The address of eight pieces that a text spells; a double colon stands for zeros. -/
def readV6 (cs : List Char) : Option (List Nat) :=
  match splitDouble cs with
  | none => do
    let all ← pieces true (cs.splitOn ':')
    if all.length = 8 then some all else none
  | some (left, right) => do
    let front ← sidePieces false left
    let back ← sidePieces true right
    if front.length + back.length < 8 then
      some (front ++ List.replicate (8 - front.length - back.length) 0 ++ back)
    else none

/-- The host that a text names. -/
def readHost (cs : List Char) : Option Host :=
  match cs with
  | '[' :: rest =>
    if rest.getLast? = some ']' then (readV6 rest.dropLast).map .v6 else none
  | _ =>
    let chars := (Text.ofBytes (decodeBytes cs)).toList.map Char.toLower
    if chars.isEmpty || chars.any forbiddenInHost then none
    else
      let parts := chars.splitOn '.'
      if endsInNumber parts then (addressOfParts parts).map .v4
      else some (.name (String.ofList chars))

/-! ### Authority, path and query -/

/-- Whether a character counts as a slash. -/
def isSlash (c : Char) : Bool := c = '/' || c = '\\'

/-- Whether the authority goes on with a character. -/
def inAuthority (c : Char) : Bool := !(isSlash c || c = '?' || c = '#')

/-- What follows the last `@`. -/
def afterCredentials (cs : List Char) : List Char :=
  (cs.reverse.takeWhile (· ≠ '@')).reverse

/-- What stands before the last `@`, and nothing if there is none. -/
def beforeHost (cs : List Char) : List Char :=
  cs.take (cs.length - (afterCredentials cs).length - 1)

/-- The credentials that a text spells: a user and, behind the first colon, a password. A user that
is no text, and neither a user nor a password, are no credentials. -/
def readCredentials (cs : List Char) : Option Credentials := do
  let user ← Text.ofBytes? (decodeBytes (cs.takeWhile (· ≠ ':')))
  let password := match cs.dropWhile (· ≠ ':') with
    | _ :: c :: rest => Text.ofBytes? (decodeBytes (c :: rest))
    | _ => none
  if user = "" ∧ password = none then none else some ⟨user, password⟩

/-- Split host and port at the first colon outside brackets. -/
def splitPort : Bool → List Char → List Char × Option (List Char)
  | _, [] => ([], none)
  | inside, c :: cs =>
    if c = ':' ∧ inside = false then ([], some cs)
    else
      let inside := if c = '[' then true else if c = ']' then false else inside
      let (host, port) := splitPort inside cs
      (c :: host, port)

/-- The port that digits spell; without digits it is the usual one. -/
def readPort (secure : Bool) : Option (List Char) → Option Nat
  | none => some (if secure then 443 else 80)
  | some [] => some (if secure then 443 else 80)
  | some digits =>
    if digits.all Char.isDigit then
      (digitsIn 10 digits).bind fun n => if n ≤ 65535 then some n else none
    else none

/-- Whether a segment stands for its own directory. -/
def isSingleDot (segment : String) : Bool := [".", "%2e"].contains segment.toLower

/-- Whether a segment stands for the directory above. -/
def isDoubleDot (segment : String) : Bool :=
  ["..", ".%2e", "%2e.", "%2e%2e"].contains segment.toLower

/-- Whether a segment names a drive: a letter and a colon or a bar. -/
def isDrive (segment : String) : Bool :=
  match segment.toList with
  | [letter, mark] => letter.isAlpha && (mark = ':' || mark = '|')
  | _ => false

/-- The directory above. There is none above a drive. -/
def parent (segments : List String) : List String :=
  if (segments.getLast?.map isDrive).getD false then segments else segments.dropLast

/-- Enter the directory that a segment names. -/
def enter (done : List String) (segment : String) : List String :=
  if isDoubleDot segment then parent done
  else if isSingleDot segment then done
  else done ++ [segment]

/-- Add segments to those before, resolving dots. A dot segment at the end leaves an empty one. -/
def resolveSegments (done : List String) : List String → List String
  | [] => done
  | [segment] =>
    if isDoubleDot segment || isSingleDot segment then enter done segment ++ [""]
    else done ++ [segment]
  | segment :: rest => resolveSegments (enter done segment) rest

/-- The segments of a path after its first slash. -/
def readSegments (cs : List Char) : List String :=
  resolveSegments [] ((cs.splitOn '/').map (encode pathSet))

/-- A character, with a slash for what counts as one. -/
def slashed (c : Char) : Char := if isSlash c then '/' else c

/-- The path and the query of what follows the authority. -/
def readLocation (cs : List Char) : List String × Option String :=
  let location := cs.takeWhile (· ≠ '#')
  let path := (location.takeWhile (· ≠ '?')).map slashed
  let query := (location.dropWhile (· ≠ '?')).tail?
  (readSegments (path.drop 1), query.map (encode querySet))

/-! ### URLs -/

/-- Whether a character can stand in a scheme. -/
def isSchemeChar (c : Char) : Bool := c.isAlphanum || c = '+' || c = '-' || c = '.'

/-- Split off the scheme before a colon. -/
def splitScheme (cs : List Char) : Option (List Char × List Char) :=
  match cs.takeWhile isSchemeChar, cs.dropWhile isSchemeChar with
  | first :: more, ':' :: rest =>
    if first.isAlpha then some ((first :: more).map Char.toLower, rest) else none
  | _, _ => none

/-- Whether a scheme is the secure one of the two of web servers. -/
def isSecure? (scheme : List Char) : Option Bool :=
  if scheme = ['h', 't', 't', 'p'] then some false
  else if scheme = ['h', 't', 't', 'p', 's'] then some true
  else none

/-- Whether a character is dropped at both ends of a text. -/
def isEdge (c : Char) : Bool := c.toNat ≤ 0x20

/-- Whether a character is dropped wherever it stands. -/
def isBreak (c : Char) : Bool := c = '\t' || c = '\n' || c = '\r'

/-- Drop controls and spaces at both ends, and tabs and line breaks everywhere. -/
def clean (cs : List Char) : List Char :=
  ((cs.dropWhile isEdge).reverse.dropWhile isEdge).reverse.filter fun c => !isBreak c

/-- The URL of the server that an authority names, with nothing of what is behind it. -/
def readServer (secure : Bool) (authority : List Char) : Option Url := do
  let (hostText, portText) := splitPort false (afterCredentials authority)
  let host ← readHost hostText
  let port ← readPort secure portText
  return ⟨secure, readCredentials (beforeHost authority), host, port, [""], none⟩

/-- The URL of what is behind the authority, on a server. -/
def withLocation (server : Url) (cs : List Char) : Url :=
  let (segments, query) := readLocation cs
  { server with segments, query }

/-- The URL of what is behind the scheme and its slashes. -/
def readBehind (secure : Bool) (cs : List Char) : Option Url :=
  (readServer secure (cs.takeWhile inAuthority)).map fun server =>
    server.withLocation (cs.dropWhile inAuthority)

/-- The URL that a text names, if requests can be sent to it. -/
def read (text : String) : Option Url := do
  let (scheme, rest) ← splitScheme (clean text.toList)
  let secure ← isSecure? scheme
  readBehind secure (rest.dropWhile isSlash)

/-- What a request names: the path and, behind a question mark, the query. -/
def target (u : Url) : String :=
  "/" ++ "/".intercalate u.segments ++ (match u.query with
    | some query => "?" ++ query
    | none => "")

end Url

end RefactorGateway.Http
