/-!
# Double-precision magnitudes

The absolute values of double-precision numbers, kept as a whole significand times a power of two,
so that rounding, products and quotients are exact integer arithmetic.

## Main Definitions

- `Magnitude`: a significand times a power of two, or infinity
- `Magnitude.ofRatio`: the magnitude nearest to a fraction, ties to the even significand
- `Magnitude.mul`, `Magnitude.div`, `Magnitude.add`: correctly rounded arithmetic

## Design Notes

A finite magnitude is *normal* when its significand has 53 bits, and *subnormal* when the exponent
is the least one, -1074. `ofRatio` produces no others, so equal magnitudes have equal
representations.
-/

namespace RefactorGateway.Decimal

/-- The absolute value of a double-precision number. -/
inductive Magnitude
  /-- The value `significand * 2 ^ exponent`. -/
  | finite (significand : Nat) (exponent : Int)
  /-- A value beyond the largest double. -/
  | infinite
  deriving DecidableEq

/-- The quotient rounded to the nearest whole number, a half going to the even neighbour. -/
def roundHalfEven (num den : Nat) : Nat :=
  let whole := num / den
  let twice := 2 * (num % den)
  if twice < den then whole
  else if twice = den then whole + whole % 2
  else whole + 1

namespace Magnitude

/-- The exponent of the subnormal numbers. -/
def leastExponent : Int := -1074

/-- The exponent of the largest finite numbers. -/
def greatestExponent : Int := 971

/-- The magnitude zero. -/
def zero : Magnitude := .finite 0 leastExponent

/-- Whether a magnitude is zero. -/
def isZero : Magnitude → Bool
  | .finite significand _ => significand == 0
  | .infinite => false

/-- `num / den`, counted in units of `2 ^ exponent` and rounded half to even. -/
def significandAt (num den : Nat) (exponent : Int) : Nat :=
  roundHalfEven (num <<< (-exponent).toNat) (den <<< exponent.toNat)

/-- Bring a significand that rounding has carried to 54 bits back to 53, and notice overflow. -/
def pack (significand : Nat) (exponent : Int) : Magnitude :=
  let carried := significand = 1 <<< 53
  let significand := if carried then 1 <<< 52 else significand
  let exponent := if carried then exponent + 1 else exponent
  if exponent > greatestExponent then .infinite else .finite significand exponent

/-- The magnitude nearest to `num / den`, ties going to the even significand.

The binary logarithms of the two numbers fix the exponent up to one, and the smaller candidate is
right exactly if its significand fits into 53 bits. -/
def ofRatio (num den : Nat) : Magnitude :=
  if num = 0 then zero
  else
    let spread : Int := (num.log2 : Int) - (den.log2 : Int)
    let low := max (spread - 53) leastExponent
    let significand := significandAt num den low
    if significand < 1 <<< 53 then pack significand low
    else pack (significandAt num den (low + 1)) (low + 1)

/-- The magnitude nearest to a natural number. -/
def ofNat (n : Nat) : Magnitude := ofRatio n 1

/-- The rounded product; an infinite factor gives infinity. -/
def mul : Magnitude → Magnitude → Magnitude
  | .finite a x, .finite b y =>
    ofRatio ((a * b) <<< (x + y).toNat) (1 <<< (-(x + y)).toNat)
  | _, _ => .infinite

/-- The rounded quotient by a number other than zero; infinite operands give infinity. -/
def div : Magnitude → Magnitude → Magnitude
  | .finite a x, .finite b y =>
    ofRatio (a <<< (x - y).toNat) (b <<< (y - x).toNat)
  | _, _ => .infinite

/-- The rounded sum; an infinite summand gives infinity. -/
def add : Magnitude → Magnitude → Magnitude
  | .finite a x, .finite b y =>
    let low := min x y
    ofRatio ((a <<< (x - low).toNat + b <<< (y - low).toNat) <<< low.toNat)
      (1 <<< (-low).toNat)
  | _, _ => .infinite

/-- Whether the first magnitude is smaller. -/
def less : Magnitude → Magnitude → Bool
  | .finite a x, .finite b y =>
    let low := min x y
    a <<< (x - low).toNat < b <<< (y - low).toNat
  | .finite _ _, .infinite => true
  | .infinite, _ => false

@[simp] theorem isZero_zero : zero.isZero = true := rfl

@[simp] theorem ofRatio_zero (den : Nat) : ofRatio 0 den = zero := rfl

/-- One, with its 53-bit significand. -/
example : ofNat 1 = .finite (1 <<< 52) (-52) := by decide

/-- The first whole number without an exact representation goes to its even neighbour. -/
example : ofNat (1 <<< 53 + 1) = .finite (1 <<< 52) 1 := by decide

end Magnitude

end RefactorGateway.Decimal
