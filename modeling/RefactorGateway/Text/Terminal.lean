import RefactorGateway.Text.Quoted
/-!
# Text on a terminal

A terminal takes some characters of a text for orders: the escape character begins an order, which
ends at a character that depends on its kind. A text that comes from elsewhere is made harmless in
one of two ways: its orders are left out, or the characters that could begin one are spelled out.

## Main Definitions

- `Mode`: where in an order a character stands
- `Place.step`: the place after a character, and whether the character is shown
- `plain`: a text without the orders in it
- `spelledOut`: a text in which nothing can begin an order

## Design Notes

A tab or a line break inside an order is carried out at once. What can be shown behind it is shown
and interrupts the order, which goes on with the next character that cannot be shown. A character
that is not ASCII ends an interrupted order.
-/

namespace RefactorGateway.Text

/-! ### Leaving orders out -/

/-- Where in an order a character stands. -/
inductive Mode
  /-- Outside of orders. -/
  | text
  /-- Behind the escape character. -/
  | escape
  /-- Behind the marks of a short order. -/
  | marks
  /-- In an order with parameters, which its first letter ends. -/
  | sequence
  /-- At the start of an order to a device. -/
  | device
  /-- In the parameters of an order to a device. -/
  | deviceParameters
  /-- Behind the marks of an order to a device. -/
  | deviceMarks
  /-- In data, which a terminating byte ends. -/
  | data
  /-- In a title, which a bell ends. -/
  | title
  deriving DecidableEq

/-- Whether a character lies between two others. -/
def isWithin (low high c : Char) : Bool := low ≤ c && c ≤ high

/-- Whether a control character moves to another place in the text. -/
def isMove (c : Char) : Bool := c = '\t' || c = '\n' || c = '\x0c' || c = '\r'

/-- Whether a character outside of orders is shown. -/
def isShown (c : Char) : Bool := isMove c || (' ' ≤ c && c ≠ '\x7f')

/-- Whether a character has the byte that ends data among its bytes. -/
def endsData (c : Char) : Bool := (String.utf8EncodeChar c).contains 0x9C

/-- What the character behind the escape character begins. -/
def Mode.afterEscape (c : Char) : Mode :=
  if c = '[' then .sequence
  else if c = ']' then .title
  else if c = 'P' then .device
  else if c = 'X' || c = '^' || c = '_' then .data
  else if isWithin '0' '~' c then .text
  else if isWithin ' ' '/' c then .marks
  else .escape

/-- The mode after a character that is not shown and neither begins nor breaks off an order. -/
def Mode.next (c : Char) : Mode → Mode
  | .text => .text
  | .escape => .afterEscape c
  | .marks => if isWithin '0' '~' c then .text else .marks
  | .sequence => if isWithin '@' '~' c then .text else .sequence
  | .device =>
    if isWithin '@' '~' c then .data
    else if isWithin '0' '?' c then .deviceParameters
    else if isWithin ' ' '/' c then .deviceMarks
    else .device
  | .deviceParameters =>
    if isWithin '<' '~' c then .data
    else if isWithin ' ' '/' c then .deviceMarks
    else .deviceParameters
  | .deviceMarks => if isWithin '0' '~' c then .data else .deviceMarks
  | .data => if endsData c then .text else .data
  | .title => if c = '\x07' then .text else .title

/-- Whether a control character that moves to another place is carried out in a mode. -/
def Mode.allowsMove : Mode → Bool
  | .text | .escape | .marks | .sequence => true
  | .device | .deviceParameters | .deviceMarks | .data | .title => false

/-- A place in a text. -/
structure Place where
  /-- The order that is open. -/
  mode : Mode
  /-- Whether shown text interrupts the order. -/
  showing : Bool
  deriving DecidableEq

/-- The place at the start of a text. -/
def Place.start : Place := ⟨.text, false⟩

/-- The place after a character, and whether the character is shown. -/
def Place.step (p : Place) (c : Char) : Place × Bool :=
  if c = '\x1b' then (⟨.escape, false⟩, false)
  else if c = '\x18' || c = '\x1a' then (⟨.text, false⟩, false)
  else if (p.showing || p.mode = .text) && isShown c then
    (⟨if c ≤ '\x7f' then p.mode else .text, true⟩, true)
  else if isMove c && p.mode.allowsMove then (⟨p.mode, true⟩, true)
  else (⟨p.mode.next c, false⟩, false)

/-- The characters that are shown from a place on. -/
def shownFrom : Place → List Char → List Char
  | _, [] => []
  | p, c :: cs =>
    let (next, shown) := p.step c
    if shown then c :: shownFrom next cs else shownFrom next cs

/-- A text without the orders and the control characters in it. -/
def plain (s : String) : String := String.ofList (shownFrom .start s.toList)

/-! ### Spelling orders out -/

/-- A character by the two hexadecimal digits of its code. -/
def byteEscape (c : Char) : List Char :=
  ['\\', 'x', Nat.digitChar (c.toNat / 16), Nat.digitChar (c.toNat % 16)]

/-- Whether a character of one byte can be part of an order or erase what is shown. -/
def isOrder (c : Char) : Bool :=
  c = '\x1b' || c = '\x07' || c = '\x08' || c = '\x0c' || c = '\x7f'

/-- A character as it is spelled where nothing may be taken for an order. -/
def spelled (c : Char) : List Char :=
  if isOrder c then byteEscape c
  else if 0x80 ≤ c.toNat && c.toNat ≤ 0x9F then codeEscape c
  else [c]

/-- A text in which nothing can begin an order. -/
def spelledOut (s : String) : String := String.ofList (s.toList.flatMap spelled)

end RefactorGateway.Text
