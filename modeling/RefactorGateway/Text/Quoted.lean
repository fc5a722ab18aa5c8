import RefactorGateway.Text.Unprintable
/-!
# Quoted texts in messages

A text inside a message stands between quotation marks, with everything escaped that a reader of the
message could not see or could take for something else.

## Main Definitions

- `shown`: a character inside a quoted text
- `quoted`: a text with its quotation marks
-/

namespace RefactorGateway.Text

/-- A code point in lower-case hexadecimal between braces. -/
def codeEscape (c : Char) : List Char :=
  ['\\', 'u', '\x7b'] ++ Nat.toDigits 16 c.toNat ++ ['\x7d']

/-- A character inside a quoted text. An apostrophe stands for itself. -/
def shown (c : Char) : List Char :=
  if c = '\x00' then ['\\', '0']
  else if c = '\t' then ['\\', 't']
  else if c = '\r' then ['\\', 'r']
  else if c = '\n' then ['\\', 'n']
  else if c = '\\' then ['\\', '\\']
  else if c = '"' then ['\\', '"']
  else if isExtending c || isUnprintable c then codeEscape c
  else [c]

/-- A text between quotation marks, with what cannot be seen escaped. -/
def quoted (s : String) : String := String.ofList ('"' :: (s.toList.flatMap shown ++ ['"']))

end RefactorGateway.Text
