import RefactorGateway.Wire.Mismatch
/-!
# Codecs

A codec says how values of one type are written as JSON and how they are read back.

## Main Definitions

- `Codec`: a reading and a writing direction
- `Codec.Lawful`: what is written is read back
- `Codec.text`, `Codec.flag`, `Codec.count`: scalars
- `Codec.list`, `Codec.option`: lists, and values that may be null

## Design Notes

Reading starts from a value and writing ends in a document, because only a document has an order of
members. `Lawful` therefore reads the value of the document that was written.
-/

namespace RefactorGateway.Wire

open Json (Document)

/-- How values of a type are read from JSON and written to it. -/
structure Codec (α : Type) where
  decode : Json → Except Mismatch α
  encode : α → Document

/-- What is written is read back. -/
def Codec.Lawful {α : Type} (c : Codec α) : Prop :=
  ∀ a, c.decode (c.encode a).value = .ok a

namespace Codec

/-- A text. -/
def text : Codec String where
  decode
    | .string s => .ok s
    | other => .error (.wrongType other .text)
  encode := .string

/-- A truth value. -/
def flag : Codec Bool where
  decode
    | .bool b => .ok b
    | other => .error (.wrongType other .flag)
  encode := .bool

/-- An unsigned number of 32 bits, written as an integer. -/
def count : Codec UInt32 where
  decode
    | .number (.integer n) =>
      if 0 ≤ n ∧ n < UInt32.size then .ok (UInt32.ofNat n.toNat) else .error (.outOfRange n)
    | other => .error (.wrongType other .count)
  encode n := .ofNat n.toNat

/-- Read the items of a list in order, up to the first that does not fit. -/
def decodeItems {α : Type} (c : Codec α) : List Json → Except Mismatch (List α)
  | [] => .ok []
  | item :: rest => do
    let first ← c.decode item
    let more ← decodeItems c rest
    return first :: more

/-- A list. -/
def list {α : Type} (c : Codec α) : Codec (List α) where
  decode
    | .array items => decodeItems c items
    | other => .error (.wrongType other .list)
  encode items := .array (items.map c.encode)

/-- A value that may be null. -/
def option {α : Type} (c : Codec α) : Codec (Option α) where
  decode
    | .null => .ok none
    | other => (c.decode other).map some
  encode
    | some a => c.encode a
    | none => .null

/-! ### Laws -/

theorem lawful_text : text.Lawful := fun _ => rfl

theorem lawful_flag : flag.Lawful := fun _ => rfl

theorem lawful_count : count.Lawful := by
  intro n
  have small : n.toNat < 2 ^ 32 := n.toNat_lt
  have fits : n.toNat < Json.wordLimit := Nat.lt_trans small (by decide)
  have range : (n.toNat : Int) < 4294967296 := by omega
  simp [count, Document.ofNat, Document.value, Json.Numeral.number_ofNat _ fits, range]

theorem decodeItems_encode {α : Type} {c : Codec α} (h : c.Lawful) (items : List α) :
    decodeItems c (Document.values (items.map c.encode)) = .ok items := by
  induction items with
  | nil => rfl
  | cons a rest ih =>
    simp only [List.map_cons, Document.values, decodeItems, h a, ih]
    rfl

theorem lawful_list {α : Type} {c : Codec α} (h : c.Lawful) : (list c).Lawful :=
  fun items => decodeItems_encode h items

end Codec

end RefactorGateway.Wire
