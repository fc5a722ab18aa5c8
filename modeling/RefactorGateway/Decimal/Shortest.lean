import RefactorGateway.Decimal.Magnitude
/-!
# Shortest decimal text of a double

A double is written with the fewest digits that still read back as that double, and of several such
numbers with the nearest one.

## Main Definitions

- `Digits`: a whole number times a power of ten
- `shortest`: the shortest decimal that lies in the rounding interval of a magnitude
- `Layout`: where positional writing ends and how the exponent is written
- `Digits.text`: a decimal in a given layout

## Design Notes

All reals that round to a double form an interval around it, closed if the significand is even. The
search goes from coarse powers of ten to fine ones and stops at the first one that has a multiple in
the interval. If any multiple lies there, so does one of the two neighbours of the value itself, so
only these are tried.
-/

namespace RefactorGateway.Decimal

/-- The decimal number `digits * 10 ^ power`. -/
structure Digits where
  digits : Nat
  power : Int
  deriving DecidableEq

/-- The reals that round to a double, as fractions over a common denominator. -/
structure RoundingInterval where
  /-- Numerator of the lower end. -/
  low : Nat
  /-- Numerator of the double itself. -/
  value : Nat
  /-- Numerator of the upper end. -/
  high : Nat
  /-- The common denominator. -/
  den : Nat
  /-- Whether the two ends round to the double as well. -/
  closed : Bool

/-- The rounding interval of `significand * 2 ^ exponent`. Below a power of two the neighbouring
doubles are twice as dense, so the lower half of the interval is half as wide. -/
def RoundingInterval.of (significand : Nat) (exponent : Int) : RoundingInterval :=
  let shift := (exponent - 2).toNat
  let below := if significand = 1 <<< 52 ∧ exponent > Magnitude.leastExponent then 1 else 2
  { low := (4 * significand - below) <<< shift
    value := (4 * significand) <<< shift
    high := (4 * significand + 2) <<< shift
    den := 1 <<< (2 - exponent).toNat
    closed := significand % 2 = 0 }

/-- Whether `num / den` lies in the interval, where `den` is a multiple of the interval's own
denominator by `factor`. -/
def RoundingInterval.contains (interval : RoundingInterval) (num factor : Nat) : Bool :=
  let low := interval.low * factor
  let high := interval.high * factor
  if interval.closed then low ≤ num && num ≤ high else low < num && num < high

/-- The multiple of `10 ^ power` in the interval that is nearest to the double, a tie going to the
even multiple. -/
def RoundingInterval.multiple? (interval : RoundingInterval) (power : Int) : Option Nat :=
  let unit := interval.den * Nat.pow 10 power.toNat
  let factor := Nat.pow 10 (-power).toNat
  let below := interval.value * factor / unit
  let hit := fun n => n ≠ 0 && interval.contains (n * unit) factor
  let distances :=
    (interval.value * factor - below * unit, (below + 1) * unit - interval.value * factor)
  if hit below then
    if hit (below + 1) &&
        (distances.2 < distances.1 || (distances.2 == distances.1 && below % 2 == 1)) then
      some (below + 1)
    else some below
  else if hit (below + 1) then some (below + 1)
  else none

/-- The coarsest of the next `steps` powers of ten, going down from `power`, that has a multiple in
the interval. -/
def RoundingInterval.search (interval : RoundingInterval) : Nat → Int → Digits
  | 0, power => ⟨interval.value / (interval.den * Nat.pow 10 power.toNat), power⟩
  | steps + 1, power =>
    match interval.multiple? power with
    | some digits => ⟨digits, power⟩
    | none => interval.search steps (power - 1)

/-- The shortest decimal that reads back as `significand * 2 ^ exponent`.

`1233 / 4096` is a little above the decimal logarithm of two, so the search starts at a power of ten
that is above the value, and 17 digits always suffice. -/
def shortest (significand : Nat) (exponent : Int) : Digits :=
  if significand = 0 then ⟨0, 0⟩
  else
    let bits : Int := significand.log2 + exponent + 1
    let start := bits * 1233 / 4096 + 1
    (RoundingInterval.of significand exponent).search 22 start

/-- How a decimal is laid out as text. -/
structure Layout where
  /-- Numbers from `10 ^ leastPositional` on are written positionally. -/
  leastPositional : Int
  /-- Numbers from `10 ^ firstScientific` on are written with an exponent. -/
  firstScientific : Int
  /-- What a whole positional number ends in. -/
  wholeSuffix : String
  /-- The mark before the exponent. -/
  exponentMark : String
  /-- The sign of an exponent that is not negative. -/
  exponentPlus : String
  /-- The text of infinity. -/
  infinity : String

/-- The decimal digits of a number, most significant first. -/
def digitChars (n : Nat) : List Char := Nat.toDigits 10 n

/-- The text of a decimal: positional in the middle of the range, scientific outside. -/
def Digits.text (layout : Layout) (d : Digits) : String :=
  let chars := digitChars d.digits
  let point : Int := chars.length + d.power
  if d.digits = 0 then "0" ++ layout.wholeSuffix
  else if layout.leastPositional < point ∧ point ≤ layout.firstScientific then
    if 0 ≤ d.power then
      String.ofList (chars ++ List.replicate d.power.toNat '0') ++ layout.wholeSuffix
    else if 0 < point then
      String.ofList (chars.take point.toNat ++ '.' :: chars.drop point.toNat)
    else
      "0." ++ String.ofList (List.replicate (-point).toNat '0' ++ chars)
  else
    let exponent := point - 1
    let sign := if exponent < 0 then "-" else layout.exponentPlus
    let fraction := match chars.drop 1 with
      | [] => []
      | rest => '.' :: rest
    String.ofList (chars.take 1 ++ fraction) ++ layout.exponentMark ++ sign
      ++ String.ofList (digitChars exponent.natAbs)

/-- The shortest text of a magnitude. -/
def Magnitude.text (layout : Layout) : Magnitude → String
  | .finite significand exponent => (shortest significand exponent).text layout
  | .infinite => layout.infinity

end RefactorGateway.Decimal
