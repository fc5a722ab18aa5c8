/-!
# Reading bytes as text

Bytes are read as UTF-8. What is not UTF-8 does not fail the reading: every longest part that begins
like a character and then goes wrong is replaced by one replacement character.

## Main Definitions

- `nextChar`: the character at the front of a list of bytes and how many more bytes belong to it
- `ofBytes`: the text of a list of bytes
- `toBytes`: the UTF-8 bytes of a text
- `ofBytes?`: the text of a list of bytes, if nothing has to be replaced
-/

namespace RefactorGateway.Text

/-- The character that stands for bytes that are not UTF-8. -/
def replacement : Char := '\uFFFD'

/-- Whether a byte continues a character. -/
def isTail (b : UInt8) : Bool := 0x80 ≤ b && b ≤ 0xBF

/-- Whether `b` can be the second byte of a character of three bytes that begins with `a`. -/
def isSecondOfThree (a b : UInt8) : Bool :=
  if a = 0xE0 then 0xA0 ≤ b && b ≤ 0xBF
  else if a = 0xED then 0x80 ≤ b && b ≤ 0x9F
  else isTail b

/-- Whether `b` can be the second byte of a character of four bytes that begins with `a`. -/
def isSecondOfFour (a b : UInt8) : Bool :=
  if a = 0xF0 then 0x90 ≤ b && b ≤ 0xBF
  else if a = 0xF4 then 0x80 ≤ b && b ≤ 0x8F
  else isTail b

/-- The six payload bits of a byte that continues a character. -/
def tailBits (b : UInt8) : Nat := b.toNat % 64

/-- The character that begins with the byte `a` before `rest`, and the number of bytes of `rest`
that belong to it or to the part that it replaces. -/
def nextChar (a : UInt8) (rest : List UInt8) : Char × Nat :=
  if a < 0x80 then (Char.ofNat a.toNat, 0)
  else if 0xC2 ≤ a ∧ a ≤ 0xDF then
    match rest with
    | b :: _ =>
      if isTail b then (Char.ofNat (a.toNat % 32 * 64 + tailBits b), 1) else (replacement, 0)
    | [] => (replacement, 0)
  else if 0xE0 ≤ a ∧ a ≤ 0xEF then
    match rest with
    | b :: more =>
      if isSecondOfThree a b then
        match more with
        | c :: _ =>
          if isTail c then
            (Char.ofNat (a.toNat % 16 * 4096 + tailBits b * 64 + tailBits c), 2)
          else (replacement, 1)
        | [] => (replacement, 1)
      else (replacement, 0)
    | [] => (replacement, 0)
  else if 0xF0 ≤ a ∧ a ≤ 0xF4 then
    match rest with
    | b :: more =>
      if isSecondOfFour a b then
        match more with
        | c :: more =>
          if isTail c then
            match more with
            | d :: _ =>
              if isTail d then
                (Char.ofNat (a.toNat % 8 * 262144 + tailBits b * 4096 + tailBits c * 64
                  + tailBits d), 3)
              else (replacement, 2)
            | [] => (replacement, 2)
          else (replacement, 1)
        | [] => (replacement, 1)
      else (replacement, 0)
    | [] => (replacement, 0)
  else (replacement, 0)

/-- The characters of a list of bytes, of which the first `skip` bytes belong to a character that
has been read. -/
def charsAfter : Nat → List UInt8 → List Char
  | _, [] => []
  | skip + 1, _ :: rest => charsAfter skip rest
  | 0, a :: rest => (nextChar a rest).1 :: charsAfter (nextChar a rest).2 rest

/-- The text of a list of bytes. -/
def ofBytes (bytes : List UInt8) : String := String.ofList (charsAfter 0 bytes)

/-- The UTF-8 bytes of a text. -/
def toBytes (s : String) : List UInt8 := s.toList.flatMap String.utf8EncodeChar

/-- The text that has these bytes, if there is one. -/
def ofBytes? (bytes : List UInt8) : Option String :=
  if toBytes (ofBytes bytes) = bytes then some (ofBytes bytes) else none

end RefactorGateway.Text
