import RefactorGateway.Proofs.Tool.Passing
/-!
# What the published schemas say

The catalogue publishes a schema of the arguments of each tool as a JSON value.  This module says
which values are valid against such a schema, for whoever reads the keywords in it, and what that
means for the schemas of the tools.

## Main Definitions

* `Json.Requires`, `Json.Declares`: what a schema says of the members of an object
* `Json.Valid`: a value is valid against the keywords of a schema
* `Schema.entry`: a schema as it stands in the catalogue, with its description
* `Tool.Publishes`: the catalogue holds a schema for a tool

## Main Statements

* `Schema.get?_default_entry`: the defaults that are published
* `Schema.requires_entry_iff`, `Schema.declares_entry_iff`: the members that are published
* `Schema.valid_text_iff`, `Schema.valid_integer_iff`, `Schema.valid_flag_iff`,
  `Schema.valid_list_iff`, `Schema.valid_record_iff`: the values that are valid against each schema
* `Tool.publishes_iff`: the catalogue holds one schema for each tool

## Design Notes

`Json.Valid` only knows the published value, as a caller does.  A keyword that a schema was
published without would not count, however the schema is kept inside.
-/

namespace RefactorGateway

open Json (Document)
open Json.Members (get? sorted)

/-! ### Validity -/

namespace Json

/-- The name of the type of a value.  A number counts as an integer if it is written as one. -/
def typeName : Json → String
  | .null => "null"
  | .bool _ => "boolean"
  | .number (.integer _) => "integer"
  | .number (.double _ _) => "number"
  | .string _ => "string"
  | .array _ => "array"
  | .object _ => "object"

theorem typeName_eq_string_iff {j : Json} : j.typeName = "string" ↔ ∃ s, j = .string s := by
  rcases j with _ | _ | (_ | _) | _ | _ | _ <;> simp [typeName]

theorem typeName_eq_boolean_iff {j : Json} : j.typeName = "boolean" ↔ ∃ b, j = .bool b := by
  rcases j with _ | _ | (_ | _) | _ | _ | _ <;> simp [typeName]

theorem typeName_eq_integer_iff {j : Json} :
    j.typeName = "integer" ↔ ∃ n, j = .number (.integer n) := by
  rcases j with _ | _ | (_ | _) | _ | _ | _ <;> simp [typeName]

theorem typeName_eq_array_iff {j : Json} : j.typeName = "array" ↔ ∃ items, j = .array items := by
  rcases j with _ | _ | (_ | _) | _ | _ | _ <;> simp [typeName]

theorem typeName_eq_object_iff {j : Json} :
    j.typeName = "object" ↔ ∃ members, j = .object members := by
  rcases j with _ | _ | (_ | _) | _ | _ | _ <;> simp [typeName]

/-- A schema requires a member. -/
def Requires (schema : List (String × Json)) (name : String) : Prop :=
  ∃ names, get? "required" schema = some (.array names) ∧ .string name ∈ names

/-- A schema declares a member, with a schema of its own. -/
def Declares (schema : List (String × Json)) (name : String) (sub : List (String × Json)) : Prop :=
  ∃ described, get? "properties" schema = some (.object described) ∧
    get? name described = some (.object sub)

/-- A value is valid against a schema, given by its keywords: it has the type that the schema names
and is not below the minimum, all its items are valid, it has the members that are required, and
each member that it declares is valid.  Other members do not matter. -/
inductive Valid : List (String × Json) → Json → Prop
  | intro {schema : List (String × Json)} {value : Json}
    (type : ∀ name, get? "type" schema = some (.string name) → value.typeName = name)
    (minimum : ∀ least n, get? "minimum" schema = some (.number (.integer least)) →
      value = .number (.integer n) → least ≤ n)
    (items : ∀ sub values, get? "items" schema = some (.object sub) → value = .array values →
      ∀ item ∈ values, Valid sub item)
    (required : ∀ members name, value = .object members → Requires schema name →
      ∃ m ∈ members, m.1 = name)
    (declared : ∀ members sub, value = .object members → ∀ m ∈ members,
      Declares schema m.1 sub → Valid sub m.2) :
    Valid schema value

end Json

open Json (Valid Requires Declares)

/-! ### Schemas in the catalogue -/

namespace Tool

/-- The member that describes a property in words. -/
def describedMembers : Option String → List (String × Document)
  | some words => [("description", .string words)]
  | none => []

/-- The keywords of a schema that stands in the catalogue with a description. -/
def Schema.entry (s : Schema) (description : Option String) : List (String × Json) :=
  sorted (Document.memberValues (s.members ++ describedMembers description))

theorem Schema.value_document (s : Schema) : s.document.value = .object (s.entry none) := by
  rw [document, Document.value, entry, describedMembers, List.append_nil]

theorem Schema.memberValues_propertyMembers (properties : List Property) :
    Document.memberValues (Schema.propertyMembers properties) =
      properties.map fun p => (p.1, .object (p.2.2.entry p.2.1)) := by
  induction properties with
  | nil => rfl
  | cons p rest ih =>
    obtain ⟨name, description, schema⟩ := p
    rw [List.map_cons, ← ih]
    cases description <;> rfl

theorem Schema.distinct_keywords (s : Schema) (description : Option String) :
    ((Document.memberValues (s.members ++ describedMembers description)).map (·.1)).Nodup := by
  rw [Document.memberValues_eq_map]
  cases s with
  | record properties required =>
    cases description <;> cases required <;> simp [members, describedMembers]
  | text | integer _ | flag _ | list _ =>
    cases description <;> simp [members, describedMembers]

/-- A description says nothing about values. -/
theorem Schema.get?_entry (s : Schema) (description : Option String) {keyword : String}
    (other : "description" ≠ keyword) :
    get? keyword (s.entry description) = get? keyword (Document.memberValues s.members) := by
  have nothing : get? keyword (Document.memberValues (describedMembers description)) = none := by
    cases description with
    | none => rfl
    | some words => exact if_neg other
  rw [entry, Json.Members.get?_sorted (s.distinct_keywords description)]
  rw [Document.memberValues_eq_map] at nothing ⊢
  rw [List.map_append, Json.Members.get?_append, nothing, Option.or_none,
    Document.memberValues_eq_map]

/-! ### Keywords -/

/-- The type that a schema asks for. -/
def Schema.typeName : Schema → String
  | .text => "string"
  | .integer _ => "integer"
  | .flag _ => "boolean"
  | .list _ => "array"
  | .record _ _ => "object"

section Keywords

variable (description : Option String)

theorem Schema.get?_type_entry (s : Schema) :
    get? "type" (s.entry description) = some (.string s.typeName) := by
  rw [s.get?_entry description (by decide)]
  cases s <;> rfl

theorem Schema.get?_minimum_entry {minimum : Nat} (small : minimum < Json.wordLimit) :
    get? "minimum" ((Schema.integer minimum).entry description) =
      some (.number (.integer minimum)) := by
  rw [Schema.get?_entry _ _ (by decide), ← Json.Numeral.number_ofNat minimum small]
  rfl

theorem Schema.get?_items_entry (items : Schema) :
    get? "items" ((Schema.list items).entry description) = some (.object (items.entry none)) := by
  rw [Schema.get?_entry _ _ (by decide), ← items.value_document]
  rfl

/-- The default of a schema is published, and no other. -/
theorem Schema.get?_default_entry (s : Schema) :
    get? "default" (s.entry description) = s.absent? := by
  rw [s.get?_entry description (by decide)]
  cases s with
  | record properties required => cases required <;> rfl
  | text | integer _ | flag _ | list _ => rfl

/-- A list of required members is published unless it is empty. -/
theorem Schema.requires_entry_iff {properties : List Property} {required : List String}
    {name : String} :
    Requires ((Schema.record properties required).entry description) name ↔ name ∈ required := by
  rw [Requires, Schema.get?_entry _ _ (by decide)]
  cases required with
  | nil => exact iff_of_false nofun nofun
  | cons first rest =>
    have published : get? "required"
        (Document.memberValues (Schema.record properties (first :: rest)).members) =
          some (.array ((first :: rest).map .string)) := by
      have texts : (Document.ofStrings (first :: rest)).value =
          .array ((first :: rest).map .string) := by
        rw [Document.ofStrings, Document.value, Document.values_eq_map, List.map_map]
        rfl
      rw [← texts]
      rfl
    rw [published]
    constructor
    · rintro ⟨names, same, mem⟩
      cases same
      obtain ⟨name', mem, text⟩ := List.mem_map.1 mem
      exact Json.string.inj text ▸ mem
    · exact fun mem => ⟨_, rfl, List.mem_map.2 ⟨name, mem, rfl⟩⟩

/-- The properties of a record are published, each with its description. -/
theorem Schema.declares_entry_iff {properties : List Property} {required : List String}
    (distinct : (properties.map (·.1)).Nodup) {name : String} {sub : List (String × Json)} :
    Declares ((Schema.record properties required).entry description) name sub ↔
      ∃ p ∈ properties, p.1 = name ∧ p.2.2.entry p.2.1 = sub := by
  let entries : List (String × Json) := properties.map fun p => (p.1, .object (p.2.2.entry p.2.1))
  have distinct_entries : (entries.map (·.1)).Nodup := by rwa [List.map_map]
  have listed : (Document.object (Schema.propertyMembers properties)).value =
      .object (sorted entries) := by
    rw [Document.value, memberValues_propertyMembers]
  have published : get? "properties"
      (Document.memberValues (Schema.record properties required).members) =
        some (.object (sorted entries)) := by
    rw [← listed]
    rfl
  have found_iff : get? name (sorted entries) = some (.object sub) ↔
      ∃ p ∈ properties, p.1 = name ∧ p.2.2.entry p.2.1 = sub := by
    rw [Json.Members.get?_sorted distinct_entries, Json.Members.get?_eq_some_iff distinct_entries,
      List.mem_map]
    simp only [Prod.mk.injEq, Json.object.injEq]
  rw [Declares, Schema.get?_entry _ _ (by decide), published]
  constructor
  · rintro ⟨described, same, found⟩
    cases same
    exact found_iff.1 found
  · exact fun property => ⟨_, rfl, found_iff.2 property⟩

end Keywords

/-! ### What each schema asks for -/

section Schemas

variable {description : Option String} {value : Json}

theorem Schema.typeName_of_valid {s : Schema} (valid : Valid (s.entry description) value) :
    value.typeName = s.typeName := by
  cases valid with
  | intro type _ _ _ _ => exact type _ (s.get?_type_entry description)

theorem Schema.type_of_typeName {s : Schema} (typed : value.typeName = s.typeName) (name : String)
    (named : get? "type" (s.entry description) = some (.string name)) : value.typeName = name := by
  rw [s.get?_type_entry] at named
  cases named
  exact typed

theorem Schema.valid_text_iff :
    Valid (Schema.text.entry description) value ↔ ∃ s, value = .string s := by
  constructor
  · exact fun valid => Json.typeName_eq_string_iff.1 (Schema.typeName_of_valid valid)
  · rintro ⟨s, rfl⟩
    exact .intro (Schema.type_of_typeName rfl) nofun nofun nofun nofun

theorem Schema.valid_flag_iff {default : Bool} :
    Valid ((Schema.flag default).entry description) value ↔ ∃ b, value = .bool b := by
  constructor
  · exact fun valid => Json.typeName_eq_boolean_iff.1 (Schema.typeName_of_valid valid)
  · rintro ⟨b, rfl⟩
    exact .intro (Schema.type_of_typeName rfl) nofun nofun nofun nofun

theorem Schema.valid_integer_iff {minimum : Nat} (small : minimum < Json.wordLimit) :
    Valid ((Schema.integer minimum).entry description) value ↔
      ∃ n : Int, value = .number (.integer n) ∧ minimum ≤ n := by
  have published := Schema.get?_minimum_entry description small
  constructor
  · intro valid
    obtain ⟨n, rfl⟩ := Json.typeName_eq_integer_iff.1 (Schema.typeName_of_valid valid)
    cases valid with
    | intro _ above _ _ _ => exact ⟨n, rfl, above _ n published rfl⟩
  · rintro ⟨n, rfl, above⟩
    refine .intro (Schema.type_of_typeName rfl) (fun least n' least_is same => ?_) nofun nofun nofun
    rw [published] at least_is
    cases least_is
    cases same
    exact above

theorem Schema.valid_list_iff {items : Schema} :
    Valid ((Schema.list items).entry description) value ↔
      ∃ values, value = .array values ∧ ∀ item ∈ values, Valid (items.entry none) item := by
  have published := Schema.get?_items_entry description items
  constructor
  · intro valid
    obtain ⟨values, rfl⟩ := Json.typeName_eq_array_iff.1 (Schema.typeName_of_valid valid)
    cases valid with
    | intro _ _ each _ _ => exact ⟨values, rfl, each _ values published rfl⟩
  · rintro ⟨values, rfl, each⟩
    refine .intro (Schema.type_of_typeName rfl) nofun (fun sub values' sub_is same => ?_) nofun
      nofun
    rw [published] at sub_is
    cases sub_is
    cases same
    exact each

theorem Schema.valid_record_iff {properties : List Property} {required : List String}
    (distinct : (properties.map (·.1)).Nodup) :
    Valid ((Schema.record properties required).entry description) value ↔
      ∃ members, value = .object members ∧ (∀ name ∈ required, ∃ m ∈ members, m.1 = name) ∧
        ∀ p ∈ properties, ∀ m ∈ members, m.1 = p.1 → Valid (p.2.2.entry p.2.1) m.2 := by
  constructor
  · intro valid
    obtain ⟨members, rfl⟩ := Json.typeName_eq_object_iff.1 (Schema.typeName_of_valid valid)
    cases valid with
    | intro _ _ _ complete each =>
      refine ⟨members, rfl, fun name mem => ?_, fun p described m mem named => ?_⟩
      · exact complete members name rfl ((Schema.requires_entry_iff _).2 mem)
      · refine each members _ rfl m mem ?_
        exact (Schema.declares_entry_iff _ distinct).2 ⟨p, described, named.symm, rfl⟩
  · rintro ⟨members, rfl, complete, each⟩
    refine .intro (Schema.type_of_typeName rfl) nofun nofun
      (fun members' name same requires => ?_) (fun members' sub same m mem describes => ?_)
    · cases same
      exact complete name ((Schema.requires_entry_iff _).1 requires)
    · cases same
      obtain ⟨p, described, named, rfl⟩ := (Schema.declares_entry_iff _ distinct).1 describes
      exact each p described m mem named.symm

end Schemas

/-! ### The schemas of the tools -/

/-- The members that a schema requires. -/
def Schema.required : Schema → List String
  | .record _ required => required
  | _ => []

theorem nodup_properties (t : Tool) : (t.schema.properties.map (·.1)).Nodup := by
  cases t <;> decide

theorem schema_eq_record (t : Tool) :
    t.schema = .record t.schema.properties t.schema.required := by
  cases t <;> rfl

theorem entry_schema (t : Tool) :
    t.schema.entry none =
      (Schema.record t.schema.properties t.schema.required).entry none :=
  congrArg (Schema.entry · none) t.schema_eq_record

theorem requires_schema_iff {t : Tool} {name : String} :
    Requires (t.schema.entry none) name ↔ name ∈ t.schema.required := by
  rw [entry_schema]
  exact Schema.requires_entry_iff none

theorem declares_schema_iff {t : Tool} {name : String} {sub : List (String × Json)} :
    Declares (t.schema.entry none) name sub ↔
      ∃ p ∈ t.schema.properties, p.1 = name ∧ p.2.2.entry p.2.1 = sub := by
  rw [entry_schema]
  exact Schema.declares_entry_iff none t.nodup_properties

theorem valid_schema_iff {t : Tool} {members : List (String × Json)} :
    Valid (t.schema.entry none) (.object members) ↔
      (∀ name ∈ t.schema.required, ∃ m ∈ members, m.1 = name) ∧
        ∀ p ∈ t.schema.properties, ∀ m ∈ members, m.1 = p.1 → Valid (p.2.2.entry p.2.1) m.2 := by
  rw [entry_schema, Schema.valid_record_iff t.nodup_properties]
  constructor
  · rintro ⟨_, ⟨⟩, valid⟩
    exact valid
  · exact fun valid => ⟨members, rfl, valid⟩

/-! ### The catalogue -/

/-- The catalogue holds a schema for a tool. -/
def Publishes (t : Tool) (schema : List (String × Json)) : Prop :=
  ∃ listed entry, catalogue.value = .object [("tools", .array listed)] ∧ .object entry ∈ listed ∧
    get? "name" entry = some (.string t.name) ∧ get? "inputSchema" entry = some (.object schema)

/-- The entry of a tool in the catalogue. -/
def listingEntry (t : Tool) : List (String × Json) :=
  sorted
    [("name", .string t.name), ("description", .string t.description),
     ("inputSchema", .object (t.schema.entry none))]

theorem value_catalogue :
    catalogue.value = .object [("tools", .array (all.map fun t => .object t.listingEntry))] := by
  have entry (t : Tool) : t.listing.value = .object t.listingEntry := by
    rw [listingEntry, ← Schema.value_document]
    rfl
  show Json.object [("tools", .array (Document.values (all.map listing)))] = _
  rw [Document.values_eq_map, List.map_map]
  exact congrArg (fun values => Json.object [("tools", .array values)])
    (List.map_congr_left fun t _ => entry t)

theorem get?_listingEntry (t : Tool) :
    get? "name" t.listingEntry = some (.string t.name) ∧
      get? "inputSchema" t.listingEntry = some (.object (t.schema.entry none)) := by
  have distinct : (([("name", .string t.name), ("description", .string t.description),
      ("inputSchema", .object (t.schema.entry none))] : List (String × Json)).map (·.1)).Nodup := by
    simp
  rw [listingEntry, Json.Members.get?_sorted distinct, Json.Members.get?_sorted distinct]
  exact ⟨rfl, rfl⟩

/-- The catalogue holds one schema for each tool. -/
theorem publishes_iff {t : Tool} {schema : List (String × Json)} :
    t.Publishes schema ↔ schema = t.schema.entry none := by
  constructor
  · rintro ⟨listed, entry, catalogued, mem, named, published⟩
    rw [value_catalogue] at catalogued
    cases catalogued
    obtain ⟨t', -, same⟩ := List.mem_map.1 mem
    cases same
    rw [(get?_listingEntry t').1] at named
    rw [(get?_listingEntry t').2] at published
    have same : t'.name = t.name := by simpa using named
    cases name_injective same
    cases published
    rfl
  · rintro rfl
    refine ⟨_, t.listingEntry, value_catalogue, ?_, get?_listingEntry t⟩
    exact List.mem_map.2 ⟨t, mem_all t, rfl⟩

end Tool

end RefactorGateway
