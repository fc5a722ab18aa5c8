import RefactorGateway.Decimal.Shortest
/-!
# Numerals and numbers of JSON

A *numeral* is a number as a text spells it; a *number* is what it stands for: a 64-bit integer if
it is written like one and fits, a double otherwise.

## Main Definitions

- `Numeral`: sign, whole part, fraction and exponent, digit by digit
- `Numeral.chars`: the spelling of a numeral
- `Number`: an integer or a double
- `Numeral.number`: the number that a numeral stands for

## Design Notes

A numeral keeps every digit and sign of its spelling, so a text can be recovered from what was read
of it. The double is found by the usual fast method and not by exact rounding: as many digits as fit
into 64 bits form a significand, which is rounded to a double and then scaled by rounded powers of
ten. So a long numeral may miss the nearest double by a unit in the last place.
-/

namespace RefactorGateway.Json

open Decimal (Magnitude)

/-- The sign written in front of an exponent. -/
inductive ExponentSign
  | absent
  | plus
  | minus
  deriving DecidableEq

/-- The exponent part of a numeral: its letter, its sign and one or more digits. -/
structure Exponent where
  capital : Bool
  sign : ExponentSign
  first : Fin 10
  rest : List (Fin 10)
  deriving DecidableEq

/-- A number as a text spells it. A fraction without digits is one that is not written. -/
structure Numeral where
  negative : Bool
  whole : Nat
  fraction : List (Fin 10)
  exponent : Option Exponent
  deriving DecidableEq

/-- The character of a decimal digit. -/
def digitChar (d : Fin 10) : Char := Nat.digitChar d

/-- The digit that a character stands for. -/
def digit? (c : Char) : Option (Fin 10) :=
  if c = '0' then some 0 else if c = '1' then some 1 else if c = '2' then some 2
  else if c = '3' then some 3 else if c = '4' then some 4 else if c = '5' then some 5
  else if c = '6' then some 6 else if c = '7' then some 7 else if c = '8' then some 8
  else if c = '9' then some 9 else none

@[simp] theorem digit?_digitChar (d : Fin 10) : digit? (digitChar d) = some d := by
  revert d; decide

/-- The number that a list of decimal digits spells, most significant first. -/
def digitsValue (ds : List (Fin 10)) : Nat := ds.foldl (fun n d => 10 * n + d.val) 0

/-! ### Spelling -/

/-- The character of an exponent's sign. -/
def ExponentSign.chars : ExponentSign → List Char
  | .absent => []
  | .plus => ['+']
  | .minus => ['-']

/-- The spelling of an exponent. -/
def Exponent.chars (e : Exponent) : List Char :=
  (if e.capital then 'E' else 'e') :: (e.sign.chars ++ digitChar e.first :: e.rest.map digitChar)

/-- The spelling of a fraction with its point. -/
def fractionChars : List (Fin 10) → List Char
  | [] => []
  | d :: ds => '.' :: digitChar d :: ds.map digitChar

/-- The spelling of a numeral. -/
def Numeral.chars (n : Numeral) : List Char :=
  (if n.negative then ['-'] else []) ++ Nat.toDigits 10 n.whole ++ fractionChars n.fraction
    ++ (n.exponent.map Exponent.chars).getD []

/-- The numeral of a natural number. -/
def Numeral.ofNat (n : Nat) : Numeral := ⟨false, n, [], none⟩

/-- The numeral of an integer. -/
def Numeral.ofInt (n : Int) : Numeral := ⟨n < 0, n.natAbs, [], none⟩

/-! ### Meaning -/

/-- The least number that does not fit into 64 bits. -/
def wordLimit : Nat := 0x10000000000000000

/-- A significand of at most 64 bits and the power of ten that scales it. -/
structure Scaled where
  significand : Nat
  power : Int

/-- Drop trailing digits of a whole part until the rest fits into 64 bits. -/
def Scaled.ofWhole (whole : Nat) (power : Int) : Scaled :=
  if h : whole < wordLimit then ⟨whole, power⟩ else ofWhole (whole / 10) (power + 1)
termination_by whole
decreasing_by
  have : wordLimit > 0 := by decide
  omega

/-- Take in the digits of a fraction up to the first one that does not fit into 64 bits. -/
def Scaled.addFraction (s : Scaled) : List (Fin 10) → Scaled
  | [] => s
  | d :: ds =>
    let significand := 10 * s.significand + d.val
    if significand < wordLimit then addFraction ⟨significand, s.power - 1⟩ ds else s

/-- The value of an exponent with its sign. -/
def Exponent.value (e : Exponent) : Int :=
  let size := digitsValue (e.first :: e.rest)
  match e.sign with
  | .minus => -(size : Int)
  | _ => size

/-- The greatest power of ten that is a finite double. -/
def greatestPower : Nat := 308

/-- The rounded magnitude of a power of ten. -/
def powerOfTen (n : Nat) : Magnitude := .ofNat (Nat.pow 10 n)

/-- Divide by a power of ten, in steps that are themselves finite doubles. -/
def scaleDown (m : Magnitude) (power : Nat) : Magnitude :=
  if power ≤ greatestPower then m.div (powerOfTen power)
  else if m.isZero then m
  else scaleDown (m.div (powerOfTen greatestPower)) (power - greatestPower)
termination_by power
decreasing_by
  have : greatestPower = 308 := rfl
  omega

/-- Multiply by a power of ten; only zero survives a power that is not a finite double. -/
def scaleUp (m : Magnitude) (power : Nat) : Magnitude :=
  if power ≤ greatestPower then m.mul (powerOfTen power)
  else if m.isZero then m
  else .infinite

/-- The magnitude of a scaled significand. -/
def Scaled.magnitude (s : Scaled) : Magnitude :=
  let m := Magnitude.ofNat s.significand
  match s.power with
  | .ofNat n => scaleUp m n
  | .negSucc n => scaleDown m (n + 1)

/-- The greatest size of an exponent that is taken into account. -/
def exponentLimit : Nat := 0x7FFFFFFF

/-- The magnitude that a numeral stands for as a double. An exponent of excessive size makes it zero
or infinite without further arithmetic. -/
def Numeral.magnitude (n : Numeral) : Magnitude :=
  let scaled := (Scaled.ofWhole n.whole 0).addFraction n.fraction
  match n.exponent with
  | none => scaled.magnitude
  | some e =>
    if e.value.natAbs ≤ exponentLimit then
      Scaled.magnitude ⟨scaled.significand, scaled.power + e.value⟩
    else if scaled.significand = 0 ∨ e.sign = .minus then .zero
    else .infinite

/-- What a numeral stands for. -/
inductive Number
  /-- A whole number from `-2 ^ 63` to `2 ^ 64 - 1`. -/
  | integer (value : Int)
  /-- A double, given by its sign and its magnitude. -/
  | double (negative : Bool) (magnitude : Magnitude)
  deriving DecidableEq

/-- The integer that a numeral without fraction and exponent spells, if it fits into 64 bits. A
negative zero is no integer. -/
def Numeral.integer? (n : Numeral) : Option Int :=
  if n.fraction = [] ∧ n.exponent = none then
    if n.negative then
      if 0 < n.whole ∧ n.whole ≤ 0x8000000000000000 then some (-(n.whole : Int)) else none
    else if n.whole < wordLimit then some n.whole
    else none
  else none

/-- The number that a numeral stands for. -/
def Numeral.number (n : Numeral) : Number :=
  match n.integer? with
  | some value => .integer value
  | none => .double n.negative n.magnitude

/-- Whether a numeral stands for a finite number. -/
def Numeral.isFinite (n : Numeral) : Bool :=
  match n.number with
  | .double _ .infinite => false
  | _ => true

/-- Small natural numbers are read as themselves. -/
theorem Numeral.number_ofNat (n : Nat) (h : n < wordLimit) :
    (Numeral.ofNat n).number = .integer n := by
  simp [number, integer?, ofNat, h]

/-- The digits of the exponent up to the one that makes it excessive, if the numeral is infinite for
that reason. -/
def Numeral.excess? (n : Numeral) : Option Nat :=
  match n.exponent with
  | none => none
  | some e =>
    let digits := e.first :: e.rest
    let significand := ((Scaled.ofWhole n.whole 0).addFraction n.fraction).significand
    if significand = 0 ∨ e.sign = .minus then none
    else
      (List.range (digits.length + 1)).find? fun k =>
        exponentLimit < digitsValue (digits.take k)

/-! ### Text of numbers -/

/-- Doubles in messages: positional from 0.00001 to below 10^16, with `.0` after a whole number. -/
def doubleLayout : Decimal.Layout where
  leastPositional := -5
  firstScientific := 16
  wholeSuffix := ".0"
  exponentMark := "e"
  exponentPlus := "+"
  infinity := "inf"

/-- The shortest text of a double. -/
def doubleText (negative : Bool) (magnitude : Magnitude) : String :=
  (if negative then "-" else "") ++ magnitude.text doubleLayout

end RefactorGateway.Json
