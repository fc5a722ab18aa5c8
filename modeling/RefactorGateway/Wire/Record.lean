import RefactorGateway.Json.Writer
import RefactorGateway.Wire.Codec
/-!
# Records

A record is described by its fields in order. From the description follow its written form, and how
it is read from an object or from a list of its field values.

## Main Definitions

- `Field`: a name, a codec, and what a missing member means
- `Fields`: the fields of a record in order
- `Shape`: the fields together with the type whose values they make up
- `Shape.encode`, `Shape.decode`, `Shape.codec`: the two directions

## Design Notes

An object is read in two passes. The first looks at the members in the order in which they come,
which is the order of their names, and stops at the first one that does not fit. The second looks at
the fields in the order of the record and stops at the first one that is needed and missing. So a
wrong member is reported before a missing one, wherever the two stand.
-/

namespace RefactorGateway.Wire

open Json (Document)

/-- One field of a record. -/
structure Field (α : Type) where
  /-- The name of the member. -/
  name : String
  codec : Codec α
  /-- The value of a member that is missing; there is none if the member has to be there. -/
  absent : Option α
  /-- The values that are written by leaving the member out. -/
  omitted : α → Bool

namespace Field

variable {α : Type}

/-- A member that has to be there. -/
def required (name : String) (codec : Codec α) : Field α := ⟨name, codec, none, fun _ => false⟩

/-- A member with a default value. -/
def defaulted (name : String) (codec : Codec α) (value : α) : Field α :=
  ⟨name, codec, some value, fun _ => false⟩

/-- A member that may be missing or null, and is left out where there is no value. -/
def optional (name : String) (codec : Codec α) : Field (Option α) :=
  ⟨name, .option codec, some none, Option.isNone⟩

/-- A member that may be missing or null, and is written as null where there is no value. -/
def nullable (name : String) (codec : Codec α) : Field (Option α) :=
  ⟨name, .option codec, some none, fun _ => false⟩

/-- The member that a value of the field is written as, if any. -/
def encode (f : Field α) (value : α) : List (String × Document) :=
  if f.omitted value then [] else [(f.name, f.codec.encode value)]

/-- The value of the field in an object, where a missing member stands for its default. -/
def gather (f : Field α) (members : List (String × Json)) : Except Mismatch α :=
  match Json.Members.get? f.name members with
  | some value => f.codec.decode value
  | none =>
    match f.absent with
    | some value => .ok value
    | none => .error (.missingField f.name)

end Field

/-- The fields of a record, with their values as nested pairs. -/
inductive Fields : Type → Type 1
  | nil : Fields Unit
  | cons {α β : Type} (head : Field α) (tail : Fields β) : Fields (α × β)

namespace Fields

/-- The names of the fields. -/
def names : {β : Type} → Fields β → List String
  | _, .nil => []
  | _, .cons f fs => f.name :: fs.names

/-- The members that the values of the fields are written as. -/
def encode : {β : Type} → Fields β → β → List (String × Document)
  | _, .nil, _ => []
  | _, .cons f fs, (value, rest) => f.encode value ++ fs.encode rest

/-- Whether a value fits the field of a name; there is no answer if no field has the name. -/
def check (name : String) (value : Json) : {β : Type} → Fields β → Option (Except Mismatch Unit)
  | _, .nil => none
  | _, .cons f fs =>
    if f.name = name then some ((f.codec.decode value).map fun _ => ()) else fs.check name value

/-- The values of all fields in an object. -/
def gather (members : List (String × Json)) : {β : Type} → Fields β → Except Mismatch β
  | _, .nil => .ok ()
  | _, .cons f fs => do
    let value ← f.gather members
    let rest ← fs.gather members
    return (value, rest)

/-- The values of the fields from place `index` on in a list. Fields behind the end of the list take
their defaults. -/
def ofItems (record : String) (total : Nat) :
    {β : Type} → Fields β → Nat → List Json → Except Mismatch β
  | _, .nil, _, [] => .ok ()
  | _, .nil, index, items => .error (.tooManyItems (index + items.length))
  | _, .cons f fs, index, [] =>
    match f.absent with
    | some value => do
      let rest ← ofItems record total fs (index + 1) []
      return (value, rest)
    | none => .error (.tooFewItems index record total)
  | _, .cons f fs, index, item :: items => do
    let value ← f.codec.decode item
    let rest ← ofItems record total fs (index + 1) items
    return (value, rest)

end Fields

/-- The description of a record type. -/
structure Shape (ρ : Type) where
  /-- The name that messages give to the record. -/
  name : String
  /-- Whether members with other names are refused. -/
  strict : Bool
  {parts : Type}
  fields : Fields parts
  build : parts → ρ
  split : ρ → parts
  build_split : ∀ r, build (split r) = r := by intro _; rfl
  split_build : ∀ p, split (build p) = p := by intro _; rfl

namespace Shape

variable {ρ : Type}

/-- The object that a record is written as, its members in the order of the fields. -/
def encode (s : Shape ρ) (r : ρ) : Document := .object (s.fields.encode (s.split r))

/-- The compact text of a record. -/
def text (s : Shape ρ) (r : ρ) : String := (s.encode r).text

/-- Whether a member fits the record. -/
def check (s : Shape ρ) (name : String) (value : Json) : Except Mismatch Unit :=
  match s.fields.check name value with
  | some result => result
  | none => if s.strict then .error (.unknownField name s.fields.names) else .ok ()

/-- Check members in order, up to the first that does not fit. -/
def checkAll (s : Shape ρ) : List (String × Json) → Except Mismatch Unit
  | [] => .ok ()
  | (name, value) :: rest => do
    s.check name value
    s.checkAll rest

/-- Read a record from the members of an object. -/
def decodeMembers (s : Shape ρ) (members : List (String × Json)) : Except Mismatch ρ := do
  s.checkAll members
  let parts ← s.fields.gather members
  return s.build parts

/-- Read a record from a list of its field values. -/
def decodeItems (s : Shape ρ) (items : List Json) : Except Mismatch ρ :=
  (s.fields.ofItems s.name s.fields.names.length 0 items).map s.build

/-- Read a record. -/
def decode (s : Shape ρ) : Json → Except Mismatch ρ
  | .object members => s.decodeMembers members
  | .array items => s.decodeItems items
  | other => .error (.wrongType other (.record s.name))

/-- The codec of a record type. -/
def codec (s : Shape ρ) : Codec ρ := ⟨s.decode, s.encode⟩

end Shape

end RefactorGateway.Wire
