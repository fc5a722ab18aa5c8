import RefactorGateway.Json.Document
import RefactorGateway.Text.Quoted
/-!
# Mismatches

Why a JSON value is not the record that was expected.

## Main Definitions

- `Expected`: what a value should have been
- `Mismatch`: the ways in which a value can fail to fit
- `Mismatch.message`: their wording
-/

namespace RefactorGateway.Wire

/-- What a value should have been. -/
inductive Expected
  | text
  | flag
  | count
  | list
  | record (name : String)
  deriving DecidableEq

/-- The wording of what was expected. Counts are unsigned numbers of 32 bits. -/
def Expected.message : Expected → String
  | .text => "a string"
  | .flag => "a boolean"
  | .count => "u32"
  | .list => "a sequence"
  | .record name => "struct " ++ name

/-- Why a value does not fit. -/
inductive Mismatch
  /-- A value of another kind. -/
  | wrongType (found : Json) (expected : Expected)
  /-- An integer that is no count. -/
  | outOfRange (value : Int)
  /-- A member that the record does not know, with the names that it knows. -/
  | unknownField (name : String) (known : List String)
  /-- A member that has to be there and is not. -/
  | missingField (name : String)
  /-- A list that ends before a field that has to be there, with the number of all fields. -/
  | tooFewItems (index : Nat) (record : String) (fields : Nat)
  /-- A list that goes on after the last field. -/
  | tooManyItems (length : Nat)

/-- How a value is named in a message: scalars are shown, lists and objects only named. -/
def describe : Json → String
  | .null => "null"
  | .bool true => "boolean `true`"
  | .bool false => "boolean `false`"
  | .number (.integer n) => "integer `" ++ toString n ++ "`"
  | .number (.double negative magnitude) =>
    "floating point `" ++ Json.doubleText negative magnitude ++ "`"
  | .string s => "string " ++ Text.quoted s
  | .array _ => "sequence"
  | .object _ => "map"

/-- A name between backticks. -/
def ticked (name : String) : String := "`" ++ name ++ "`"

/-- The names that a record knows, as a choice. -/
def choice : List String → String
  | [] => "there are no fields"
  | [a] => "expected " ++ ticked a
  | [a, b] => "expected " ++ ticked a ++ " or " ++ ticked b
  | names => "expected one of " ++ ", ".intercalate (names.map ticked)

/-- The wording of a mismatch. -/
def Mismatch.message : Mismatch → String
  | .wrongType found expected =>
    "invalid type: " ++ describe found ++ ", expected " ++ expected.message
  | .outOfRange value =>
    "invalid value: integer `" ++ toString value ++ "`, expected " ++ Expected.count.message
  | .unknownField name known => "unknown field " ++ ticked name ++ ", " ++ choice known
  | .missingField name => "missing field " ++ ticked name
  | .tooFewItems index record fields =>
    "invalid length " ++ toString index ++ ", expected " ++ (Expected.record record).message
      ++ " with " ++ toString fields ++ (if fields = 1 then " element" else " elements")
  | .tooManyItems length =>
    "invalid length " ++ toString length ++ ", expected fewer elements in array"

end RefactorGateway.Wire
