import RefactorGateway.Json.Document
/-!
# Writing JSON

The compact text of a document: no blanks, members in the order of the document, and only those
characters escaped that cannot stand for themselves.

## Main Definitions

- `escape`: a character inside a string
- `Document.chars`, `Document.text`: the text of a document
-/

namespace RefactorGateway.Json

/-- The lower-case hexadecimal digit of a number below sixteen. -/
def hexDigit (n : Nat) : Char := Nat.digitChar n

/-- A character as it stands in a string: the quotation mark, the backslash and the control
characters are escaped, the five common ones by a letter and the others by their code; all else
stands for itself. -/
def escape (c : Char) : List Char :=
  if c = '"' then ['\\', '"']
  else if c = '\\' then ['\\', '\\']
  else if c = '\x08' then ['\\', 'b']
  else if c = '\x0c' then ['\\', 'f']
  else if c = '\n' then ['\\', 'n']
  else if c = '\r' then ['\\', 'r']
  else if c = '\t' then ['\\', 't']
  else if c.toNat < 0x20 then
    ['\\', 'u', '0', '0', hexDigit (c.toNat / 16), hexDigit (c.toNat % 16)]
  else [c]

/-- The characters of a string with its quotation marks. -/
def quote (s : String) : List Char := '"' :: (s.toList.flatMap escape ++ ['"'])

mutual

/-- The characters of a document. -/
def Document.chars : Document → List Char
  | .null => ['n', 'u', 'l', 'l']
  | .bool true => ['t', 'r', 'u', 'e']
  | .bool false => ['f', 'a', 'l', 's', 'e']
  | .numeral n => n.chars
  | .string s => quote s
  | .array items => '[' :: (Document.itemChars items ++ [']'])
  | .object members => '\x7b' :: (Document.memberChars members ++ ['\x7d'])

/-- The items of an array with commas between them. -/
def Document.itemChars : List Document → List Char
  | [] => []
  | [item] => item.chars
  | item :: next :: rest => item.chars ++ ',' :: Document.itemChars (next :: rest)

/-- The members of an object with commas between them. -/
def Document.memberChars : List (String × Document) → List Char
  | [] => []
  | [(name, item)] => quote name ++ ':' :: item.chars
  | (name, item) :: next :: rest =>
    quote name ++ ':' :: (item.chars ++ ',' :: Document.memberChars (next :: rest))

end

/-- The compact text of a document. -/
def Document.text (d : Document) : String := String.ofList d.chars

end RefactorGateway.Json
