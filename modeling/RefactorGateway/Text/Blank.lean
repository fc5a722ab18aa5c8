/-!
# Blank characters

Blanks are the characters with the Unicode property *White_Space*. They are trimmed from the ends of
texts, and a text of nothing else counts as empty.

## Main Definitions

- `isBlank`: the property
- `trim`: a text without the blanks at its ends
- `allBlank`: whether nothing else remains
- `dropTrailing`: a list without the characters at its end that pass a test
-/

namespace RefactorGateway.Text

/-- Whether a character is a blank. -/
def isBlank (c : Char) : Bool :=
  let n := c.toNat
  (9 ≤ n && n ≤ 13) || n = 0x20 || n = 0x85 || n = 0xA0 || n = 0x1680
    || (0x2000 ≤ n && n ≤ 0x200A) || n = 0x2028 || n = 0x2029 || n = 0x202F || n = 0x205F
    || n = 0x3000

/-- A list of characters without those at its end that pass a test. -/
def dropTrailing (p : Char → Bool) (cs : List Char) : List Char :=
  (cs.reverse.dropWhile p).reverse

/-- The characters without the blanks at both ends. -/
def trimChars (cs : List Char) : List Char := dropTrailing isBlank (cs.dropWhile isBlank)

/-- A text without the blanks at its ends. -/
def trim (s : String) : String := String.ofList (trimChars s.toList)

/-- Whether a text has no character but blanks. -/
def allBlank (s : String) : Bool := s.toList.all isBlank

/-- A text without the slashes at its end. -/
def trimSlashes (s : String) : String := String.ofList (dropTrailing (· == '/') s.toList)

end RefactorGateway.Text
