import Mathlib.Data.List.Forall2
import RefactorGateway.Proofs.Wire.Reading
import RefactorGateway.Proofs.Wire.RoundTrip
/-!
# Conformance

What a JSON value has to be for a record to be read from it, and what the record then is, can be
said member by member and without the reader.  This module says it, and shows that the reader agrees
with it for every record that refuses members which it does not know.

## Main Definitions

* `Kind`: a type of JSON values: which values are of the type, and what each of them says
* `Kind.text`, `Kind.flag`, `Kind.count`, `Kind.list`, `Kind.orNull`, `Kind.record`: the types
* `Entry`: the declaration of a member: its name, its type, its default, and the part of the record
  that it is
* `Conforms`, `Carries`: an object conforms to declarations, and it carries a record
* `ConformsInOrder`, `CarriesInOrder`: the same for a list of the values of the members
* `Kind.ReadBy`: a codec reads a type
* `Lists`, `Declares`: declarations list the fields of a record, and describe its type

## Main Statements

* `Kind.readBy_text` to `Kind.readBy_orNull`: the types of single values and of lists are read
* `Kind.count_fits_numeral_iff`: how a number of 32 bits is spelled
* `Lists.gather_iff`, `Lists.ofItems_iff`: what is read of the members and of a list of values
* `Declares.decodeMembers_iff`, `Declares.exists_decodeMembers`: what is read of an object
* `Declares.readBy`: a record inside another is read as it is declared

## Design Notes

A type says two things of a JSON value apart from each other: whether it is of the type, which does
not depend on any record, and what it says.  That each value of the type says something is then no
part of the definitions, but half of what is shown of the reader.
-/

namespace RefactorGateway.Wire

open Json (Document Numeral)
open Json.Members (get? get?_eq_none_iff mem_of_get?_eq_some)

/-! ### Types and declarations -/

/-- A type of JSON values. -/
structure Kind (α : Type) where
  /-- The JSON values of the type. -/
  Fits : Json → Prop
  /-- What a JSON value of the type says. -/
  Says : Json → α → Prop

/-- The declaration of a member of records. -/
structure Entry (ρ : Type) where
  {α : Type}
  name : String
  kind : Kind α
  /-- What it means that the member is missing; without a default it must not be. -/
  default : Option α
  /-- The part of a record that the member is. -/
  part : ρ → α

section Declarations

variable {α ρ : Type}

/-- The declaration of a member that has to be there. -/
def Entry.required (name : String) (kind : Kind α) (part : ρ → α) : Entry ρ :=
  ⟨name, kind, none, part⟩

/-- The declaration of a member with a default value. -/
def Entry.defaulted (name : String) (kind : Kind α) (value : α) (part : ρ → α) : Entry ρ :=
  ⟨name, kind, some value, part⟩

/-- A member, or that there is none, says what its part of a record is. -/
def Entry.Says (entry : Entry ρ) (member : Option Json) (r : ρ) : Prop :=
  match member with
  | some j => entry.kind.Says j (entry.part r)
  | none => entry.default = some (entry.part r)

/-- An object conforms to declarations. -/
structure Conforms (entries : List (Entry ρ)) (members : List (String × Json)) : Prop where
  /-- The name of every member is declared. -/
  declared : ∀ m ∈ members, ∃ entry ∈ entries, entry.name = m.1
  /-- Every member is of its declared type. -/
  typed : ∀ m ∈ members, ∀ entry ∈ entries, entry.name = m.1 → entry.kind.Fits m.2
  /-- Every member without a default is there. -/
  complete : ∀ entry ∈ entries, entry.default = none → ∃ m ∈ members, m.1 = entry.name

/-- An object carries a record: each part is what its member says. -/
def Carries (entries : List (Entry ρ)) (members : List (String × Json)) (r : ρ) : Prop :=
  ∀ entry ∈ entries, entry.Says (get? entry.name members) r

/-- A list conforms to declarations: it has the values of the members in the order of the
declarations, and leaves out none at the end but those with a default. -/
def ConformsInOrder : List (Entry ρ) → List Json → Prop
  | [], items => items = []
  | entry :: entries, [] => entry.default.isSome ∧ ConformsInOrder entries []
  | entry :: entries, item :: items => entry.kind.Fits item ∧ ConformsInOrder entries items

/-- A list carries a record: each part is what the item in its place says. -/
def CarriesInOrder : List (Entry ρ) → List Json → ρ → Prop
  | [], _, _ => True
  | entry :: entries, items, r => entry.Says items.head? r ∧ CarriesInOrder entries items.tail r

end Declarations

namespace Kind

variable {α ρ : Type}

/-- A text. -/
def text : Kind String where
  Fits j := ∃ s, j = .string s
  Says j s := j = .string s

/-- A truth value. -/
def flag : Kind Bool where
  Fits j := ∃ b, j = .bool b
  Says j b := j = .bool b

/-- An integer of 32 bits without a sign. -/
def count : Kind UInt32 where
  Fits j := ∃ n : Nat, n ≤ 4294967295 ∧ j = .number (.integer n)
  Says j n := j = .number (.integer n.toNat)

/-- A list of values of one type. -/
def list (k : Kind α) : Kind (List α) where
  Fits j := ∃ items, j = .array items ∧ ∀ item ∈ items, k.Fits item
  Says j values := ∃ items, j = .array items ∧ List.Forall₂ k.Says items values

/-- A value of a type, or null. -/
def orNull (k : Kind α) : Kind (Option α) where
  Fits j := j = .null ∨ k.Fits j
  Says j
    | none => j = .null
    | some value => j ≠ .null ∧ k.Says j value

/-- A record, as an object or as a list. -/
def record (entries : List (Entry ρ)) : Kind ρ where
  Fits j := (∃ members, j = .object members ∧ Conforms entries members) ∨
    ∃ items, j = .array items ∧ ConformsInOrder entries items
  Says j r := (∃ members, j = .object members ∧ Carries entries members r) ∨
    ∃ items, j = .array items ∧ CarriesInOrder entries items r

end Kind

/-- The declaration of a member that may be missing or null. -/
def Entry.optional {α ρ : Type} (name : String) (kind : Kind α) (part : ρ → Option α) : Entry ρ :=
  ⟨name, kind.orNull, some none, part⟩

/-! ### Types and codecs -/

namespace Kind

variable {α : Type}

/-- A codec reads the values of a type and nothing else, and reads what they say. -/
structure ReadBy (k : Kind α) (c : Codec α) : Prop where
  decode_iff : ∀ j a, c.decode j = .ok a ↔ k.Fits j ∧ k.Says j a
  exists_decode : ∀ j, k.Fits j → ∃ a, c.decode j = .ok a

theorem readBy_text : text.ReadBy .text where
  decode_iff j s := by
    rw [Codec.decode_text_iff]
    exact ⟨fun same => ⟨⟨s, same⟩, same⟩, And.right⟩
  exists_decode j := fun ⟨s, same⟩ => ⟨s, Codec.decode_text_iff.2 same⟩

theorem readBy_flag : flag.ReadBy .flag where
  decode_iff j b := by
    rw [Codec.decode_flag_iff]
    exact ⟨fun same => ⟨⟨b, same⟩, same⟩, And.right⟩
  exists_decode j := fun ⟨b, same⟩ => ⟨b, Codec.decode_flag_iff.2 same⟩

theorem readBy_count : count.ReadBy .count where
  decode_iff j n := by
    rw [Codec.decode_count_iff]
    refine ⟨fun same => ⟨⟨n.toNat, ?_, same⟩, same⟩, And.right⟩
    exact Nat.le_of_lt_succ n.toNat_lt
  exists_decode j := by
    rintro ⟨n, small, rfl⟩
    have same : (UInt32.ofNat n).toNat = n := UInt32.toNat_ofNat_of_lt' (Nat.lt_succ_of_le small)
    exact ⟨UInt32.ofNat n, Codec.decode_count_iff.2 (by rw [same])⟩

@[simp] theorem count_fits_integer_iff (i : Int) :
    count.Fits (.number (.integer i)) ↔ 0 ≤ i ∧ i ≤ 4294967295 := by
  constructor
  · rintro ⟨n, small, same⟩
    simp only [Json.number.injEq, Json.Number.integer.injEq] at same
    omega
  · rintro ⟨natural, small⟩
    refine ⟨i.toNat, by omega, ?_⟩
    rw [Int.toNat_of_nonneg natural]

/-- A number is a count just if it is spelled by a numeral without sign, fraction and exponent that
32 bits can hold. -/
theorem count_fits_numeral_iff (n : Numeral) :
    count.Fits (Document.numeral n).value ↔
      n.negative = false ∧ n.fraction = [] ∧ n.exponent = none ∧ n.whole ≤ 4294967295 := by
  obtain ⟨negative, whole, fraction, exponent⟩ := n
  constructor
  · rintro ⟨k, small, same⟩
    have spelled : (Numeral.mk negative whole fraction exponent).integer? = some (k : Int) := by
      simp only [Document.value, Json.number.injEq, Numeral.number] at same
      split at same
      · next found => rw [found, Json.Number.integer.inj same]
      · cases same
    unfold Numeral.integer? at spelled
    simp only at spelled
    split at spelled
    · next plain =>
      cases negative with
      | false =>
        simp only [Bool.false_eq_true, if_false, Option.ite_none_right_eq_some,
          Option.some_inj, Int.natCast_inj] at spelled
        exact ⟨rfl, plain.1, plain.2, spelled.2 ▸ small⟩
      | true =>
        -- with a sign the number is below zero
        simp only [if_true, Option.ite_none_right_eq_some, Option.some_inj] at spelled
        omega
    · cases spelled
  · rintro ⟨rfl, rfl, rfl, small⟩
    have fits : whole < Json.wordLimit := Nat.lt_of_le_of_lt small (by decide)
    exact ⟨whole, small, congrArg Json.number (Numeral.number_ofNat whole fits)⟩

section Composite

variable {k : Kind α} {c : Codec α}

theorem decodeItems_iff (read : k.ReadBy c) {items : List Json} {values : List α} :
    Codec.decodeItems c items = .ok values ↔
      (∀ item ∈ items, k.Fits item) ∧ List.Forall₂ k.Says items values := by
  induction items generalizing values with
  | nil => simp [Codec.decodeItems, eq_comm]
  | cons item rest ih =>
    rw [Codec.decodeItems_cons_iff, List.forall_mem_cons]
    constructor
    · rintro ⟨a, more, first, later, rfl⟩
      obtain ⟨fits, said⟩ := (read.decode_iff item a).1 first
      obtain ⟨others_fit, others_said⟩ := ih.1 later
      exact ⟨⟨fits, others_fit⟩, .cons said others_said⟩
    · rintro ⟨⟨fits, others_fit⟩, said⟩
      cases said with
      | @cons _ a _ more first later =>
        exact ⟨a, more, (read.decode_iff item a).2 ⟨fits, first⟩, ih.2 ⟨others_fit, later⟩, rfl⟩

theorem readBy_list (read : k.ReadBy c) : (list k).ReadBy (.list c) where
  decode_iff j values := by
    rw [Codec.decode_list_iff]
    constructor
    · rintro ⟨items, rfl, decoded⟩
      obtain ⟨fit, said⟩ := (decodeItems_iff read).1 decoded
      exact ⟨⟨items, rfl, fit⟩, items, rfl, said⟩
    · rintro ⟨⟨items, rfl, fit⟩, _, same, said⟩
      cases same
      exact ⟨items, rfl, (decodeItems_iff read).2 ⟨fit, said⟩⟩
  exists_decode j := by
    rintro ⟨items, rfl, fit⟩
    exact Codec.exists_decodeItems fun item mem => read.exists_decode item (fit item mem)

theorem readBy_orNull (read : k.ReadBy c) : (orNull k).ReadBy (.option c) where
  decode_iff j v := by
    rw [Codec.decode_option_iff]
    constructor
    · rintro (⟨rfl, rfl⟩ | ⟨present, a, decoded, rfl⟩)
      · exact ⟨.inl rfl, rfl⟩
      · obtain ⟨fits, said⟩ := (read.decode_iff j a).1 decoded
        exact ⟨.inr fits, present, said⟩
    · rintro ⟨fits, said⟩
      cases v with
      | none => exact .inl ⟨said, rfl⟩
      | some a =>
        obtain ⟨present, said⟩ := said
        have fits := fits.resolve_left present
        exact .inr ⟨present, a, (read.decode_iff j a).2 ⟨fits, said⟩, rfl⟩
  exists_decode j fits := by
    by_cases null : j = .null
    · exact ⟨none, Codec.decode_option_iff.2 (.inl ⟨null, rfl⟩)⟩
    · obtain ⟨a, decoded⟩ := read.exists_decode j (fits.resolve_left null)
      exact ⟨some a, Codec.decode_option_iff.2 (.inr ⟨null, a, decoded, rfl⟩)⟩

end Composite

end Kind

/-! ### Declarations and fields -/

namespace Kind.ReadBy

variable {α ρ : Type} {name : String} {k : Kind α} {c : Codec α} {absent : Option α}
  {omitted : α → Bool} {members : List (String × Json)}

/-- A value is let through just if it is of the type. -/
theorem map_decode_iff (read : k.ReadBy c) {j : Json} :
    ((c.decode j).map fun _ => ()) = .ok () ↔ k.Fits j := by
  have fits_iff : k.Fits j ↔ ∃ a, c.decode j = .ok a :=
    ⟨read.exists_decode j, fun ⟨a, decoded⟩ => ((read.decode_iff j a).1 decoded).1⟩
  rw [fits_iff]
  cases c.decode j <;> simp [Except.map]

/-- A field is found just if its member is of the type and says the value, or if there is no member
and the value is the default. -/
theorem gather_iff (read : k.ReadBy c) {part : ρ → α} {r : ρ} :
    (Field.mk name c absent omitted).gather members = .ok (part r) ↔
      (∀ j, get? name members = some j → k.Fits j) ∧
        (Entry.mk name k absent part).Says (get? name members) r := by
  rw [Field.gather_eq_ok_iff]
  cases get? name members with
  | some j => simp [Entry.Says, read.decode_iff]
  | none => simp [Entry.Says]

theorem exists_gather (read : k.ReadBy c) (typed : ∀ j, get? name members = some j → k.Fits j)
    (complete : absent = none → ∃ m ∈ members, m.1 = name) :
    ∃ v, (Field.mk name c absent omitted).gather members = .ok v := by
  cases found : get? name members with
  | some j =>
    obtain ⟨v, decoded⟩ := read.exists_decode j (typed j found)
    exact ⟨v, Field.gather_eq_ok_iff.2 (.inl ⟨j, found, decoded⟩)⟩
  | none =>
    cases absent with
    | some v => exact ⟨v, Field.gather_eq_ok_iff.2 (.inr ⟨found, rfl⟩)⟩
    | none =>
      obtain ⟨m, mem, named⟩ := complete rfl
      exact absurd named (get?_eq_none_iff.1 found m mem)

end Kind.ReadBy

/-- Declarations list the fields of a record: each is read as it is declared, and is the part of the
record that the declaration says. -/
inductive Lists {ρ : Type} : {β : Type} → List (Entry ρ) → (ρ → β) → Fields β → Prop
  | nil {split : ρ → Unit} : Lists [] split .nil
  | cons {α β : Type} {name : String} {k : Kind α} {c : Codec α} {absent : Option α}
      {omitted : α → Bool} {part : ρ → α} {entries : List (Entry ρ)} {rest : ρ → β}
      {fs : Fields β} (head : k.ReadBy c) (tail : Lists entries rest fs) :
      Lists (⟨name, k, absent, part⟩ :: entries) (fun r => (part r, rest r))
        (.cons ⟨name, c, absent, omitted⟩ fs)

namespace Lists

variable {ρ β : Type} {entries : List (Entry ρ)} {split : ρ → β} {fs : Fields β}
  {members : List (String × Json)}

theorem names (lists : Lists entries split fs) : fs.names = entries.map (·.name) := by
  induction lists with
  | nil => rfl
  | cons head tail ih => rw [Fields.names, ih, List.map_cons]

/-- A member passes just if its name is declared and it is of the type that is declared for it. -/
theorem check_iff (lists : Lists entries split fs) (distinct : fs.names.Nodup) {name : String}
    {value : Json} :
    fs.check name value = some (.ok ()) ↔
      (∃ entry ∈ entries, entry.name = name) ∧
        ∀ entry ∈ entries, entry.name = name → entry.kind.Fits value := by
  induction lists with
  | nil => simp [Fields.check]
  | @cons _ _ label k c absent omitted part entries rest fs head tail ih =>
    obtain ⟨fresh, distinct⟩ := List.nodup_cons.1 distinct
    rw [tail.names] at fresh
    rw [Fields.check]
    by_cases named : label = name
    · -- no later declaration has the name
      subst named
      have others : ∀ entry ∈ entries, entry.name ≠ label := fun entry mem same =>
        fresh (List.mem_map.2 ⟨entry, mem, same⟩)
      rw [if_pos rfl, Option.some_inj, head.map_decode_iff]
      simp only [List.exists_mem_cons_iff, List.forall_mem_cons, true_or, true_and, forall_const]
      exact (and_iff_left fun entry mem same => absurd same (others entry mem)).symm
    · rw [if_neg named, ih distinct]
      simp [named]

/-- The fields are found just if the members are of their types and carry the record. -/
theorem gather_iff (lists : Lists entries split fs) {r : ρ} :
    fs.gather members = .ok (split r) ↔
      (∀ entry ∈ entries, ∀ j, get? entry.name members = some j → entry.kind.Fits j) ∧
        Carries entries members r := by
  induction lists with
  | nil => simp [Fields.gather, Carries]
  | @cons _ _ name k c absent omitted part entries rest fs head tail ih =>
    rw [Fields.gather_cons_iff, head.gather_iff, ih]
    simp only [Carries, List.forall_mem_cons]
    exact and_and_and_comm

theorem exists_gather (lists : Lists entries split fs)
    (typed : ∀ entry ∈ entries, ∀ j, get? entry.name members = some j → entry.kind.Fits j)
    (complete : ∀ entry ∈ entries, entry.default = none → ∃ m ∈ members, m.1 = entry.name) :
    ∃ parts, fs.gather members = .ok parts := by
  induction lists with
  | nil => exact ⟨(), rfl⟩
  | cons head tail ih =>
    obtain ⟨head_typed, typed⟩ := List.forall_mem_cons.1 typed
    obtain ⟨head_complete, complete⟩ := List.forall_mem_cons.1 complete
    obtain ⟨value, first⟩ := head.exists_gather head_typed head_complete
    obtain ⟨rest, later⟩ := ih typed complete
    exact ⟨(value, rest), Fields.gather_cons_iff.2 ⟨first, later⟩⟩

/-- A list is read just if it conforms, and then as the record that it carries. -/
theorem ofItems_iff (lists : Lists entries split fs) (record : String) (total index : Nat)
    {items : List Json} {r : ρ} :
    fs.ofItems record total index items = .ok (split r) ↔
      ConformsInOrder entries items ∧ CarriesInOrder entries items r := by
  induction lists generalizing index items with
  | nil => cases items <;> simp [Fields.ofItems, ConformsInOrder, CarriesInOrder]
  | @cons _ _ name k c absent omitted part entries rest fs head tail ih =>
    cases items with
    | nil =>
      rw [Fields.ofItems_cons_nil_iff, ih]
      constructor
      · rintro ⟨default, conforms, carries⟩
        exact ⟨⟨Option.isSome_of_mem default, conforms⟩, default, carries⟩
      · rintro ⟨⟨-, conforms⟩, default, carries⟩
        exact ⟨default, conforms, carries⟩
    | cons item items =>
      rw [Fields.ofItems_cons_cons_iff, ih, head.decode_iff]
      exact and_and_and_comm

theorem exists_ofItems (lists : Lists entries split fs) (record : String) (total index : Nat)
    {items : List Json} (conforms : ConformsInOrder entries items) :
    ∃ parts, fs.ofItems record total index items = .ok parts := by
  induction lists generalizing index items with
  | nil =>
    cases conforms
    exact ⟨(), rfl⟩
  | cons head tail ih =>
    cases items with
    | nil =>
      obtain ⟨default, conforms⟩ := conforms
      obtain ⟨value, default⟩ := Option.isSome_iff_exists.1 default
      obtain ⟨rest, later⟩ := ih (index + 1) conforms
      exact ⟨(value, rest), Fields.ofItems_cons_nil_iff.2 ⟨default, later⟩⟩
    | cons item items =>
      obtain ⟨fits, conforms⟩ := conforms
      obtain ⟨value, first⟩ := head.exists_decode item fits
      obtain ⟨rest, later⟩ := ih (index + 1) conforms
      exact ⟨(value, rest), Fields.ofItems_cons_cons_iff.2 ⟨first, later⟩⟩

end Lists

/-! ### Records -/

/-- Declarations describe a record type that refuses members which are not declared. -/
structure Declares {ρ : Type} (entries : List (Entry ρ)) (s : Shape ρ) : Prop where
  strict : s.strict = true
  distinct : s.fields.names.Nodup
  lists : Lists entries s.split s.fields

section Records

variable {ρ : Type} {entries : List (Entry ρ)} {s : Shape ρ} {members : List (String × Json)}

theorem Conforms.fits (conforms : Conforms entries members) :
    ∀ entry ∈ entries, ∀ j, get? entry.name members = some j → entry.kind.Fits j :=
  fun entry mem j found =>
    conforms.typed (entry.name, j) (mem_of_get?_eq_some found) entry mem rfl

/-- Where a record is carried, no member without a default is missing. -/
theorem Carries.complete {r : ρ} (carries : Carries entries members r) :
    ∀ entry ∈ entries, entry.default = none → ∃ m ∈ members, m.1 = entry.name := by
  intro entry mem no_default
  have said := carries entry mem
  cases found : get? entry.name members with
  | some j => exact ⟨(entry.name, j), mem_of_get?_eq_some found, rfl⟩
  | none =>
    rw [found, Entry.Says, no_default] at said
    cases said

namespace Declares

theorem check_iff (declares : Declares entries s) {name : String} {value : Json} :
    s.check name value = .ok () ↔
      (∃ entry ∈ entries, entry.name = name) ∧
        ∀ entry ∈ entries, entry.name = name → entry.kind.Fits value := by
  rw [← declares.lists.check_iff declares.distinct, Shape.check]
  cases s.fields.check name value with
  | none => simp [declares.strict]
  | some result => simp

theorem checkAll_iff (declares : Declares entries s) :
    s.checkAll members = .ok () ↔
      ∀ m ∈ members, (∃ entry ∈ entries, entry.name = m.1) ∧
        ∀ entry ∈ entries, entry.name = m.1 → entry.kind.Fits m.2 := by
  rw [Shape.checkAll_eq_ok_iff]
  exact forall₂_congr fun _ _ => declares.check_iff

/-- What is found of members that conform is what they carry. -/
theorem gather_iff (declares : Declares entries s) (conforms : Conforms entries members) {r : ρ} :
    s.fields.gather members = .ok (s.split r) ↔ Carries entries members r := by
  rw [declares.lists.gather_iff]
  exact and_iff_right conforms.fits

/-- An object is read just if it conforms, and then as the record that it carries. -/
theorem decodeMembers_iff (declares : Declares entries s) {r : ρ} :
    s.decodeMembers members = .ok r ↔ Conforms entries members ∧ Carries entries members r := by
  rw [Shape.decodeMembers_eq_ok_iff, declares.checkAll_iff]
  constructor
  · rintro ⟨checked, gathered⟩
    have carries := (declares.lists.gather_iff.1 gathered).2
    exact ⟨⟨fun m mem => (checked m mem).1, fun m mem => (checked m mem).2, carries.complete⟩,
      carries⟩
  · rintro ⟨conforms, carries⟩
    exact ⟨fun m mem => ⟨conforms.declared m mem, conforms.typed m mem⟩,
      (declares.gather_iff conforms).2 carries⟩

/-- An object that conforms is read. -/
theorem exists_decodeMembers (declares : Declares entries s) (conforms : Conforms entries members) :
    ∃ r, s.decodeMembers members = .ok r := by
  obtain ⟨parts, gathered⟩ := declares.lists.exists_gather conforms.fits conforms.complete
  have gathered : s.fields.gather members = .ok (s.split (s.build parts)) := by
    rw [s.split_build, gathered]
  have carries := (declares.gather_iff conforms).1 gathered
  exact ⟨s.build parts, declares.decodeMembers_iff.2 ⟨conforms, carries⟩⟩

/-- A list is read just if it conforms, and then as the record that it carries. -/
theorem decodeItems_iff (declares : Declares entries s) {items : List Json} {r : ρ} :
    s.decodeItems items = .ok r ↔
      ConformsInOrder entries items ∧ CarriesInOrder entries items r := by
  rw [← declares.lists.ofItems_iff s.name s.fields.names.length 0, Shape.decodeItems]
  cases s.fields.ofItems s.name s.fields.names.length 0 items with
  | error m => simp [Except.map]
  | ok parts =>
    simp only [Except.map, Except.ok.injEq]
    exact ⟨fun built => by rw [← built, s.split_build], fun same => by rw [same, s.build_split]⟩

theorem exists_decodeItems (declares : Declares entries s) {items : List Json}
    (conforms : ConformsInOrder entries items) : ∃ r, s.decodeItems items = .ok r := by
  obtain ⟨parts, read⟩ := declares.lists.exists_ofItems s.name s.fields.names.length 0 conforms
  exact ⟨s.build parts, by rw [Shape.decodeItems, read]; rfl⟩

/-- A record inside another is read as it is declared. -/
theorem readBy (declares : Declares entries s) : (Kind.record entries).ReadBy s.codec where
  decode_iff j r := by
    cases j with
    | object members =>
      refine declares.decodeMembers_iff.trans ?_
      simp [Kind.record]
    | array items =>
      refine declares.decodeItems_iff.trans ?_
      simp [Kind.record]
    | null | bool _ | number _ | string _ =>
      exact iff_of_false nofun fun ⟨fits, _⟩ => by simp [Kind.record] at fits
  exists_decode j := by
    rintro (⟨members, rfl, conforms⟩ | ⟨items, rfl, conforms⟩)
    · exact declares.exists_decodeMembers conforms
    · exact declares.exists_decodeItems conforms

end Declares

end Records

end RefactorGateway.Wire
