import RefactorGateway.Json.Writer
/-!
# Reading JSON

A strict reader of JSON texts. A text that it refuses is answered with the first fault and the line
and column, counted in bytes, up to which the text had been looked at.

## Main Definitions

- `Fault`, `ReadError`: why a text is refused, and where
- `readString`, `readNumeral`: the two kinds of lexeme with an inner structure
- `readNested`: a value with a bound on the nesting of brackets
- `Document.read`: a whole text
- `Json.read`: the value of a text

## Design Notes

A reading step takes the characters that are left and gives back what it has read together with the
rest. The nesting of brackets is bounded, so the reader recurses on the levels that are left; the
loops over characters, items and members run at most once for every character that is left.
-/

namespace RefactorGateway.Json

/-- Why a text is not JSON. -/
inductive Fault
  | endInValue
  | endInList
  | endInObject
  | endInString
  | expectedValue
  | expectedIdent
  | invalidNumber
  | numberOutOfRange
  | expectedListComma
  | expectedObjectComma
  | expectedColon
  | trailingComma
  | keyNotString
  | trailingCharacters
  | invalidEscape
  | controlCharacter
  | loneSurrogate
  | unfinishedSurrogate
  | nestedTooDeep
  deriving DecidableEq

/-- The wording of a fault. -/
def Fault.message : Fault → String
  | .endInValue => "EOF while parsing a value"
  | .endInList => "EOF while parsing a list"
  | .endInObject => "EOF while parsing an object"
  | .endInString => "EOF while parsing a string"
  | .expectedValue => "expected value"
  | .expectedIdent => "expected ident"
  | .invalidNumber => "invalid number"
  | .numberOutOfRange => "number out of range"
  | .expectedListComma => "expected `,` or `]`"
  | .expectedObjectComma => "expected `,` or `\x7d`"
  | .expectedColon => "expected `:`"
  | .trailingComma => "trailing comma"
  | .keyNotString => "key must be a string"
  | .trailingCharacters => "trailing characters"
  | .invalidEscape => "invalid escape"
  | .controlCharacter =>
    "control character (\\u0000-\\u001F) found while parsing a string"
  | .loneSurrogate => "lone leading surrogate in hex escape"
  | .unfinishedSurrogate => "unexpected end of hex escape"
  | .nestedTooDeep => "recursion limit exceeded"

/-- Where reading stops: the fault, the characters that had not been read, and how many bytes of
them had been looked at. -/
structure Stop where
  fault : Fault
  rest : List Char
  seen : Nat

/-- What was read of a text, and the characters after it. -/
abbrev Taken (α : Type) := α × List Char

/-- A way to read a part of a text. -/
abbrev Reader (α : Type) := List Char → Except Stop (Taken α)

/-- Stop at the next byte, which has been looked at if there is one. -/
def stopAt {α : Type} (fault : Fault) (rest : List Char) : Except Stop α := .error ⟨fault, rest, 1⟩

/-- Stop right before the rest. -/
def stopBefore {α : Type} (fault : Fault) (rest : List Char) : Except Stop α :=
  .error ⟨fault, rest, 0⟩

/-! ### Blanks and words -/

/-- The four blanks of JSON. -/
def isBlank (c : Char) : Bool := c = ' ' || c = '\n' || c = '\t' || c = '\r'

/-- Skip blanks. -/
def skipBlanks (cs : List Char) : List Char := cs.dropWhile isBlank

/-- Read the remaining letters of a word. -/
def readWord : List Char → List Char → Except Stop (List Char)
  | [], cs => .ok cs
  | _ :: _, [] => stopBefore .endInValue []
  | w :: ws, c :: cs => if c = w then readWord ws cs else stopAt .expectedIdent (c :: cs)

/-! ### Numerals -/

/-- The digits at the front of a text and what follows them. -/
def readDigits : List Char → List (Fin 10) × List Char
  | [] => ([], [])
  | c :: cs =>
    match digit? c with
    | some d => (d :: (readDigits cs).1, (readDigits cs).2)
    | none => ([], c :: cs)

/-- The whole part of a numeral: a zero, or digits that do not begin with one. -/
def readWhole : Reader Nat
  | [] => stopBefore .endInValue []
  | c :: cs =>
    match digit? c with
    | none => stopAt .invalidNumber (c :: cs)
    | some d =>
      let (ds, rest) := readDigits cs
      if d.val = 0 then
        if ds = [] then .ok (0, cs) else stopAt .invalidNumber cs
      else .ok (digitsValue (d :: ds), rest)

/-- The fraction of a numeral, empty if there is no point. -/
def readFraction : Reader (List (Fin 10))
  | '.' :: cs =>
    match readDigits cs with
    | ([], []) => stopAt .endInValue []
    | ([], rest) => stopAt .invalidNumber rest
    | (ds, rest) => .ok (ds, rest)
  | cs => .ok ([], cs)

/-- The sign of an exponent. -/
def readExponentSign : List Char → ExponentSign × List Char
  | '+' :: cs => (.plus, cs)
  | '-' :: cs => (.minus, cs)
  | cs => (.absent, cs)

/-- The exponent of a numeral after its letter. -/
def readExponentTail (capital : Bool) (cs : List Char) : Except Stop (Taken (Option Exponent)) :=
  let (sign, cs) := readExponentSign cs
  match readDigits cs with
  | (d :: ds, rest) => .ok (some ⟨capital, sign, d, ds⟩, rest)
  | ([], []) => stopBefore .endInValue []
  | ([], rest) => stopAt .invalidNumber rest

/-- The exponent of a numeral, if there is one. -/
def readExponent : Reader (Option Exponent)
  | 'e' :: cs => readExponentTail false cs
  | 'E' :: cs => readExponentTail true cs
  | cs => .ok (none, cs)

/-- A numeral after its sign, as it is spelled. -/
def readSpelling (negative : Bool) (cs : List Char) : Except Stop (Taken Numeral) := do
  let (whole, cs) ← readWhole cs
  let (fraction, cs) ← readFraction cs
  let (exponent, cs) ← readExponent cs
  return (⟨negative, whole, fraction, exponent⟩, cs)

/-- A numeral after its sign. One without a finite value is refused behind its last digit or, if its
exponent alone is excessive, behind the digit that makes it so. -/
def readNumeral (negative : Bool) (cs : List Char) : Except Stop (Taken Numeral) := do
  let (numeral, rest) ← readSpelling negative cs
  if numeral.isFinite then return (numeral, rest)
  match numeral.exponent, numeral.excess? with
  | some e, some read =>
    let unread := e.rest.length + 1 - read
    stopBefore .numberOutOfRange (cs.drop (cs.length - rest.length - unread))
  | _, _ => stopBefore .numberOutOfRange rest

/-! ### Strings -/

/-- The value of a hexadecimal digit of either case. -/
def hexValue? (c : Char) : Option Nat :=
  if '0' ≤ c ∧ c ≤ '9' then some (c.toNat - '0'.toNat)
  else if 'a' ≤ c ∧ c ≤ 'f' then some (c.toNat - 'a'.toNat + 10)
  else if 'A' ≤ c ∧ c ≤ 'F' then some (c.toNat - 'A'.toNat + 10)
  else none

/-- The number of bytes of a text. -/
def byteLength : List Char → Nat
  | [] => 0
  | c :: cs => c.utf8Size + byteLength cs

/-- The four bytes of a code are looked at together, or the text ends in them. -/
def stopInCode {α : Type} (cs : List Char) : Except Stop α :=
  if byteLength cs < 4 then stopBefore .endInString [] else .error ⟨.invalidEscape, cs, 4⟩

/-- Four hexadecimal digits. -/
def readCode : Reader Nat
  | a :: b :: c :: d :: rest =>
    match hexValue? a, hexValue? b, hexValue? c, hexValue? d with
    | some a, some b, some c, some d => .ok (4096 * a + 256 * b + 16 * c + d, rest)
    | _, _, _, _ => stopInCode (a :: b :: c :: d :: rest)
  | cs => stopInCode cs

/-- Whether a code is the first half of a surrogate pair. -/
def isHighSurrogate (n : Nat) : Bool := 0xD800 ≤ n && n ≤ 0xDBFF

/-- Whether a code is the second half of a surrogate pair. -/
def isLowSurrogate (n : Nat) : Bool := 0xDC00 ≤ n && n ≤ 0xDFFF

/-- The second half of a surrogate pair, after the first half `high`. -/
def readLowSurrogate (high : Nat) : Reader Char
  | '\\' :: 'u' :: cs => do
    let (low, rest) ← readCode cs
    if isLowSurrogate low then
      return (Char.ofNat (0x10000 + (high - 0xD800) * 0x400 + (low - 0xDC00)), rest)
    else stopBefore .loneSurrogate rest
  | ['\\'] => stopBefore .endInString []
  | '\\' :: cs => stopAt .unfinishedSurrogate cs
  | [] => stopBefore .endInString []
  | cs => stopAt .unfinishedSurrogate cs

/-- A character that is written by its code. -/
def readCoded (cs : List Char) : Except Stop (Taken Char) := do
  let (code, rest) ← readCode cs
  if isLowSurrogate code then stopBefore .loneSurrogate rest
  else if isHighSurrogate code then readLowSurrogate code rest
  else return (Char.ofNat code, rest)

/-- What follows a backslash. -/
def readEscape : Reader Char
  | [] => stopBefore .endInString []
  | c :: cs =>
    if c = '"' then .ok ('"', cs)
    else if c = '\\' then .ok ('\\', cs)
    else if c = '/' then .ok ('/', cs)
    else if c = 'b' then .ok ('\x08', cs)
    else if c = 'f' then .ok ('\x0c', cs)
    else if c = 'n' then .ok ('\n', cs)
    else if c = 'r' then .ok ('\r', cs)
    else if c = 't' then .ok ('\t', cs)
    else if c = 'u' then readCoded cs
    else stopAt .invalidEscape (c :: cs)

/-- At most `steps` characters of a string up to its closing quotation mark. -/
def readChars : Nat → Reader (List Char)
  | 0, cs => stopBefore .endInString cs
  | _ + 1, [] => stopBefore .endInString []
  | steps + 1, c :: cs =>
    if c = '"' then .ok ([], cs)
    else if c = '\\' then do
      let (char, rest) ← readEscape cs
      let (chars, rest) ← readChars steps rest
      return (char :: chars, rest)
    else if c.toNat < 0x20 then stopAt .controlCharacter (c :: cs)
    else do
      let (chars, rest) ← readChars steps cs
      return (c :: chars, rest)

/-- A string after its opening quotation mark. -/
def readString (cs : List Char) : Except Stop (Taken String) := do
  let (chars, rest) ← readChars (cs.length + 1) cs
  return (String.ofList chars, rest)

/-! ### Arrays and objects -/

/-- The items after the first one and the closing bracket, at most `steps` of them. -/
def readMoreItems (item : Reader Document) : Nat → Reader (List Document)
  | 0, cs => stopAt .endInList cs
  | steps + 1, cs =>
    match skipBlanks cs with
    | [] => stopAt .endInList []
    | ']' :: rest => .ok ([], rest)
    | ',' :: cs =>
      match skipBlanks cs with
      | [] => stopAt .endInValue []
      | ']' :: rest => stopAt .trailingComma (']' :: rest)
      | cs => do
        let (first, rest) ← item cs
        let (more, rest) ← readMoreItems item steps rest
        return (first :: more, rest)
    | cs => stopAt .expectedListComma cs

/-- The items of an array after its opening bracket. -/
def readItems (item : Reader Document) (cs : List Char) : Except Stop (Taken (List Document)) :=
  match skipBlanks cs with
  | [] => stopAt .endInList []
  | ']' :: rest => .ok ([], rest)
  | cs => do
    let (first, rest) ← item cs
    let (more, rest) ← readMoreItems item (rest.length + 1) rest
    return (first :: more, rest)

/-- A member after the opening quotation mark of its name. -/
def readMember (item : Reader Document) (cs : List Char) :
    Except Stop (Taken (String × Document)) := do
  let (name, rest) ← readString cs
  match skipBlanks rest with
  | ':' :: cs =>
    let (value, rest) ← item cs
    return ((name, value), rest)
  | [] => stopAt .endInObject []
  | rest => stopAt .expectedColon rest

/-- The members after the first one and the closing brace, at most `steps` of them. -/
def readMoreMembers (item : Reader Document) :
    Nat → Reader (List (String × Document))
  | 0, cs => stopAt .endInObject cs
  | steps + 1, cs =>
    match skipBlanks cs with
    | [] => stopAt .endInObject []
    | '\x7d' :: rest => .ok ([], rest)
    | ',' :: cs =>
      match skipBlanks cs with
      | [] => stopAt .endInValue []
      | '\x7d' :: rest => stopAt .trailingComma ('\x7d' :: rest)
      | '"' :: cs => do
        let (first, rest) ← readMember item cs
        let (more, rest) ← readMoreMembers item steps rest
        return (first :: more, rest)
      | cs => stopAt .keyNotString cs
    | cs => stopAt .expectedObjectComma cs

/-- The members of an object after its opening brace. -/
def readMembers (item : Reader Document) (cs : List Char) :
    Except Stop (Taken (List (String × Document))) :=
  match skipBlanks cs with
  | [] => stopAt .endInObject []
  | '\x7d' :: rest => .ok ([], rest)
  | '"' :: cs => do
    let (first, rest) ← readMember item cs
    let (more, rest) ← readMoreMembers item (rest.length + 1) rest
    return (first :: more, rest)
  | cs => stopAt .keyNotString cs

/-! ### Values and texts -/

/-- A value whose items and members are read by `inner`, or that may have none if there is no such
reader. -/
def readValue (inner : Option (Reader Document)) (cs : List Char) : Except Stop (Taken Document) :=
  match skipBlanks cs with
  | [] => stopAt .endInValue []
  | c :: cs =>
    if c = 'n' then return (.null, ← readWord ['u', 'l', 'l'] cs)
    else if c = 't' then return (.bool true, ← readWord ['r', 'u', 'e'] cs)
    else if c = 'f' then return (.bool false, ← readWord ['a', 'l', 's', 'e'] cs)
    else if c = '-' then do
      let (n, rest) ← readNumeral true cs
      return (.numeral n, rest)
    else if (digit? c).isSome then do
      let (n, rest) ← readNumeral false (c :: cs)
      return (.numeral n, rest)
    else if c = '"' then do
      let (s, rest) ← readString cs
      return (.string s, rest)
    else if c = '[' then
      match inner with
      | none => stopAt .nestedTooDeep (c :: cs)
      | some item => do
        let (items, rest) ← readItems item cs
        return (.array items, rest)
    else if c = '\x7b' then
      match inner with
      | none => stopAt .nestedTooDeep (c :: cs)
      | some item => do
        let (members, rest) ← readMembers item cs
        return (.object members, rest)
    else stopAt .expectedValue (c :: cs)

/-- A value with at most `levels` brackets inside one another. -/
def readNested : Nat → Reader Document
  | 0 => readValue none
  | levels + 1 => readValue (some (readNested levels))

@[simp] theorem readNested_zero : readNested 0 = readValue none := rfl

@[simp] theorem readNested_succ (levels : Nat) :
    readNested (levels + 1) = readValue (some (readNested levels)) := rfl

/-- The deepest nesting of brackets that is read. -/
def nestingLimit : Nat := 127

/-- A value with nothing but blanks around it. -/
def readWholeText (cs : List Char) : Except Stop Document := do
  let (document, rest) ← readNested nestingLimit cs
  match skipBlanks rest with
  | [] => return document
  | rest => stopAt .trailingCharacters rest

/-- A place in a text: the line, counted from 1, and the bytes of the line that come before. -/
structure Position where
  line : Nat
  column : Nat
  deriving DecidableEq

/-- The place after the next `bytes` bytes of a text. -/
def Position.advance (here : Position) : Nat → List Char → Position
  | 0, _ => here
  | _ + 1, [] => here
  | bytes + 1, c :: cs =>
    if c = '\n' then advance ⟨here.line + 1, 0⟩ bytes cs
    else if c.utf8Size ≤ bytes + 1 then
      advance ⟨here.line, here.column + c.utf8Size⟩ (bytes + 1 - c.utf8Size) cs
    else ⟨here.line, here.column + bytes + 1⟩
  termination_by _ cs => cs.length

/-- Why and where a text is refused. -/
structure ReadError where
  fault : Fault
  position : Position
  deriving DecidableEq

/-- The wording of a refusal. -/
def ReadError.message (e : ReadError) : String :=
  e.fault.message ++ " at line " ++ toString e.position.line ++ " column "
    ++ toString e.position.column

/-- Place a fault in the text in which it was found. -/
def Stop.locate (cs : List Char) (stop : Stop) : ReadError :=
  ⟨stop.fault, Position.advance ⟨1, 0⟩ (byteLength cs - byteLength stop.rest + stop.seen) cs⟩

/-- Read a text as a document. -/
def Document.read (text : String) : Except ReadError Document :=
  (readWholeText text.toList).mapError (Stop.locate text.toList)

/-- Read a text as a value. -/
def read (text : String) : Except ReadError Json := (Document.read text).map Document.value

end RefactorGateway.Json
