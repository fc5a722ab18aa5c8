import RefactorGateway.Json.Numeral
/-!
# JSON documents and values

A *document* is JSON as it is written: members in their order, repeated names included, numbers as
spelled. A *value* is what it means: members sorted by name, each name once, numbers evaluated.

## Main Definitions

- `Document`: the syntax tree of a JSON text
- `Json`: a JSON value
- `Members.insert`, `Members.get?`: the members of an object as a map
- `Document.value`: the value that a document stands for

## Design Notes

Names are ordered by code point, and of several members with one name the last one counts. So two
documents that differ only in the order of distinct members have the same value, and all that looks
at values alone cannot tell them apart.
-/

namespace RefactorGateway

/-- A JSON value. -/
inductive Json
  | null
  | bool (value : Bool)
  | number (value : Json.Number)
  | string (value : String)
  | array (items : List Json)
  | object (members : List (String × Json))

namespace Json

/-- A JSON text as a tree, exactly as it is written but for blanks and escapes. -/
inductive Document
  | null
  | bool (value : Bool)
  | numeral (value : Numeral)
  | string (value : String)
  | array (items : List Document)
  | object (members : List (String × Document))

/-! ### Members sorted by name -/

namespace Members

variable {α : Type}

/-- Insert a member into a sorted list; a name that is already there keeps its value. -/
def insert (name : String) (value : α) : List (String × α) → List (String × α)
  | [] => [(name, value)]
  | (other, held) :: rest =>
    if name < other then (name, value) :: (other, held) :: rest
    else if name = other then (other, held) :: rest
    else (other, held) :: insert name value rest

/-- The members sorted by name; of several with one name the last one is kept. -/
def sorted : List (String × α) → List (String × α)
  | [] => []
  | (name, value) :: rest => insert name value (sorted rest)

/-- The value of the first member with a name. -/
def get? (name : String) : List (String × α) → Option α
  | [] => none
  | (other, held) :: rest => if other = name then some held else get? name rest

@[simp] theorem get?_nil (name : String) : get? name ([] : List (String × α)) = none := rfl

@[simp] theorem get?_cons (name other : String) (held : α) (rest : List (String × α)) :
    get? name ((other, held) :: rest) = if other = name then some held else get? name rest := rfl

@[simp] theorem sorted_nil : sorted ([] : List (String × α)) = [] := rfl

@[simp] theorem sorted_cons (name : String) (value : α) (rest : List (String × α)) :
    sorted ((name, value) :: rest) = insert name value (sorted rest) := rfl

end Members

/-! ### The value of a document -/

mutual

/-- The value that a document stands for. -/
def Document.value : Document → Json
  | .null => .null
  | .bool b => .bool b
  | .numeral n => .number n.number
  | .string s => .string s
  | .array items => .array (Document.values items)
  | .object members => .object (Members.sorted (Document.memberValues members))

/-- The values of a list of documents. -/
def Document.values : List Document → List Json
  | [] => []
  | item :: rest => item.value :: Document.values rest

/-- The values of members, in the order in which they are written. -/
def Document.memberValues : List (String × Document) → List (String × Json)
  | [] => []
  | (name, item) :: rest => (name, item.value) :: Document.memberValues rest

end

theorem Document.values_eq_map (items : List Document) :
    Document.values items = items.map Document.value := by
  induction items with
  | nil => rfl
  | cons item rest ih => simp [Document.values, ih]

theorem Document.memberValues_eq_map (members : List (String × Document)) :
    Document.memberValues members = members.map fun m => (m.1, m.2.value) := by
  induction members with
  | nil => rfl
  | cons m rest ih => cases m; simp [Document.memberValues, ih]

/-! ### Building documents -/

namespace Document

/-- A natural number. -/
def ofNat (n : Nat) : Document := .numeral (.ofNat n)

/-- An integer. -/
def ofInt (n : Int) : Document := .numeral (.ofInt n)

/-- A value that may be missing, written as null if it is. -/
def ofOption : Option Document → Document
  | some d => d
  | none => .null

/-- A list of texts. -/
def ofStrings (texts : List String) : Document := .array (texts.map .string)

end Document

end Json

end RefactorGateway
