import RefactorGateway.Text.Lossy
/-!
# Credentials

A user and a password, as they may stand before the host of a URL, and the header that they make.

## Main Definitions

- `base64`: bytes as text, six bits a digit
- `Credentials`: a user and perhaps a password
- `Credentials.header`: the value of the authorization header
-/

namespace RefactorGateway.Http

/-! ### Base 64 -/

/-- The digit of a number below 64: letters, digits, and two signs. -/
def base64Digit (n : Nat) : Char :=
  if n < 26 then .ofNat ('A'.toNat + n)
  else if n < 52 then .ofNat ('a'.toNat + (n - 26))
  else if n < 62 then .ofNat ('0'.toNat + (n - 52))
  else if n = 62 then '+'
  else '/'

/-- Bytes in base 64. Three bytes make four digits; digits that lack at the end are filled up. -/
def base64 : List UInt8 → List Char
  | a :: b :: c :: rest =>
    let n := 65536 * a.toNat + 256 * b.toNat + c.toNat
    base64Digit (n / 262144) :: base64Digit (n / 4096 % 64) :: base64Digit (n / 64 % 64)
      :: base64Digit (n % 64) :: base64 rest
  | [a, b] =>
    -- two zero bits fill up the third digit
    let n := 1024 * a.toNat + 4 * b.toNat
    [base64Digit (n / 4096), base64Digit (n / 64 % 64), base64Digit (n % 64), '=']
  | [a] =>
    let n := 16 * a.toNat
    [base64Digit (n / 64), base64Digit (n % 64), '=', '=']
  | [] => []

/-! ### Credentials -/

/-- A user and perhaps a password. -/
structure Credentials where
  user : String
  password : Option String
  deriving DecidableEq

/-- The header value of credentials: user and password in base 64, with a colon between them. -/
def Credentials.header (c : Credentials) : String :=
  "Basic " ++ String.ofList (base64 (Text.toBytes (c.user ++ ":" ++ c.password.getD "")))

end RefactorGateway.Http
