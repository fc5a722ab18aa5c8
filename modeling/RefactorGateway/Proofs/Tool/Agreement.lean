import RefactorGateway.Proofs.Tool.Published
/-!
# Schemas and arguments agree

A tool publishes what it takes, and it reads what it takes.  The two are written down in different
places, the one as a schema and the other as the fields of a record.  This module relates them field
by field: what is valid is read, what is required has no default, and a published default is the one
that is used.

## Main Definitions

* `Json.Confined`: a value keeps to bounds that a schema does not publish
* `Fits`: a value is valid for a property and keeps to these bounds
* `Agrees`, `AgreesAll`: a field of the arguments agrees with a property of the schema
* `without`: members of which one is taken away

## Main Statements

* `Schema.fits_absent?`: a default is valid itself
* `AgreesAll.exists_decodeMembers`: members that fit are read
* `AgreesAll.found_of_gather`: of members that are read no required one is missing
* `Tool.agrees`: each tool agrees with its schema
* `answer_agrees_with_schema`: what this means for tool calls

## Design Notes

A schema and its tool do not accept the same values.  The tool also reads null where a member may be
left out, and a parameter that is given as a list; and a valid number may be too large for it, and a
valid parameter may have members that it refuses.  So what is valid is read only within the bounds
of `Json.Confined`, and of what is read it only follows that no required member is missing.
-/

namespace RefactorGateway

open Bridge Wire Http
open Json (Valid Requires Declares)
open Json.Members (get? get?_eq_none_iff mem_of_get?_eq_some)

/-! ### Bounds that are not published -/

namespace Json

/-- An object has no members but those that a schema declares. -/
def Closed (schema : List (String × Json)) (value : Json) : Prop :=
  ∀ members, value = .object members → ∀ m ∈ members, ∃ sub, Declares schema m.1 sub

/-- An integer is a number of 32 bits, and the items of a list have declared members only. -/
structure Confined (schema : List (String × Json)) (value : Json) : Prop where
  small : get? "type" schema = some (.string "integer") → ∀ n : Int,
    value = .number (.integer n) → n ≤ 4294967295
  closed : ∀ sub items, get? "items" schema = some (.object sub) → value = .array items →
    ∀ item ∈ items, Closed sub item

end Json

open Json (Confined Closed)

namespace Tool

/-- A value is valid for a property and keeps to the bounds that are not published. -/
structure Fits (p : Property) (value : Json) : Prop where
  valid : Valid (p.2.2.entry p.2.1) value
  confined : Confined (p.2.2.entry p.2.1) value

/-- Texts are not bounded. -/
theorem fits_of_valid_text {name : String} {description : Option String} {value : Json}
    (valid : Valid (Schema.text.entry description) value) :
    Fits (name, description, .text) value := by
  obtain ⟨s, rfl⟩ := Schema.valid_text_iff.1 valid
  exact ⟨valid, nofun, nofun⟩

/-- Integers are bounded on both sides. -/
theorem fits_integer_iff {name : String} {description : Option String} {minimum : Nat}
    (small : minimum < Json.wordLimit) {value : Json} :
    Fits (name, description, .integer minimum) value ↔
      ∃ n : Int, value = .number (.integer n) ∧ minimum ≤ n ∧ n ≤ 4294967295 := by
  constructor
  · rintro ⟨valid, below, -⟩
    obtain ⟨n, rfl, above⟩ := (Schema.valid_integer_iff small).1 valid
    exact ⟨n, rfl, above, below (Schema.get?_type_entry _ _) n rfl⟩
  · rintro ⟨n, rfl, above, below⟩
    refine ⟨(Schema.valid_integer_iff small).2 ⟨n, rfl, above⟩, ?_, nofun⟩
    rintro - _ ⟨⟩
    exact below

/-- Every default is valid for the property that publishes it. -/
theorem Schema.fits_absent? {p : Property} {value : Json} (default : p.2.2.absent? = some value) :
    Fits p value := by
  obtain ⟨name, description, schema⟩ := p
  cases schema with
  | flag b =>
    cases default
    exact ⟨Schema.valid_flag_iff.2 ⟨b, rfl⟩, nofun, nofun⟩
  | text | integer _ | list _ | record _ _ => cases default

/-! ### Codecs -/

section Codecs

variable {α : Type} {c : Codec α}

/-- All values that fit are read. -/
def Schema.Admits (schema : Schema) (c : Codec α) : Prop :=
  ∀ name description j, Fits (name, description, schema) j → ∃ a, c.decode j = .ok a

theorem Schema.admits_text : Schema.text.Admits Codec.text := by
  intro name description j fits
  obtain ⟨s, rfl⟩ := Schema.valid_text_iff.1 fits.valid
  exact ⟨s, rfl⟩

theorem Schema.admits_flag (value : Bool) : (Schema.flag value).Admits Codec.flag := by
  intro name description j fits
  obtain ⟨b, rfl⟩ := Schema.valid_flag_iff.1 fits.valid
  exact ⟨b, rfl⟩

/-- An integer that is not below the minimum is not negative, so it is a count. -/
theorem Schema.admits_count {minimum : Nat} (small : minimum < Json.wordLimit) :
    (Schema.integer minimum).Admits Codec.count := by
  intro name description j fits
  obtain ⟨n, rfl, above, below⟩ := (fits_integer_iff small).1 fits
  have fits_word : n.toNat < UInt32.size := by
    have size : UInt32.size = 4294967296 := rfl
    omega
  have same : ((UInt32.ofNat n.toNat).toNat : Int) = n := by
    rw [UInt32.toNat_ofNat_of_lt' fits_word]
    omega
  exact ⟨UInt32.ofNat n.toNat, Codec.decode_count_iff.2 (by rw [same])⟩

/-- A list is read if its items are, for which only their members are bounded. -/
theorem Schema.admits_list {items : Schema}
    (each : ∀ j, Valid (items.entry none) j → Closed (items.entry none) j →
      ∃ a, c.decode j = .ok a) : (Schema.list items).Admits (Codec.list c) := by
  intro name description j fits
  obtain ⟨values, rfl, valid⟩ := Schema.valid_list_iff.1 fits.valid
  have closed : ∀ item ∈ values, Closed (items.entry none) item :=
    fits.confined.closed _ values (Schema.get?_items_entry _ _) rfl
  exact Codec.exists_decodeItems fun item mem => each item (valid item mem) (closed item mem)

end Codecs

/-! ### Fields -/

section Fields

variable {α : Type} {c : Codec α} {required : List String} {name : String}
  {description : Option String} {schema : Schema}

/-- A field of the arguments agrees with a property: it has its name, it reads what fits, it is
needed just if it is required, and its default is the one that is published. -/
structure Agrees (required : List String) (p : Property) (f : Wire.Field α) : Prop where
  named : f.name = p.1
  reads : ∀ j, Fits p j → ∃ a, f.codec.decode j = .ok a
  needed : f.absent = none ↔ p.1 ∈ required
  default : ∀ j, p.2.2.absent? = some j → ∃ a, f.codec.decode j = .ok a ∧ f.absent = some a

theorem agrees_required (admits : schema.Admits c) (no_default : schema.absent? = none)
    (needed : name ∈ required) :
    Agrees required (name, description, schema) (.required name c) where
  named := rfl
  reads := admits name description
  needed := iff_of_true rfl needed
  default j published := by
    rw [no_default] at published
    cases published

theorem agrees_flag {value : Bool} (not_needed : name ∉ required) :
    Agrees required (name, description, .flag value) (.defaulted name .flag value) where
  named := rfl
  reads := Schema.admits_flag value name description
  needed := iff_of_false nofun not_needed
  default j published := by
    cases published
    exact ⟨value, rfl, rfl⟩

theorem agrees_nullable (admits : schema.Admits c) (no_default : schema.absent? = none)
    (not_needed : name ∉ required) :
    Agrees required (name, description, schema) (.nullable name c) where
  named := rfl
  reads j fits := by
    obtain ⟨a, read⟩ := admits name description j fits
    by_cases null : j = .null
    · exact ⟨none, Codec.decode_option_iff.2 (.inl ⟨null, rfl⟩)⟩
    · exact ⟨some a, Codec.decode_option_iff.2 (.inr ⟨null, a, read, rfl⟩)⟩
  needed := iff_of_false nofun not_needed
  default j published := by
    rw [no_default] at published
    cases published

theorem agrees_optional (admits : schema.Admits c) (no_default : schema.absent? = none)
    (not_needed : name ∉ required) :
    Agrees required (name, description, schema) (.optional name c) :=
  have same : Agrees required (name, description, schema) (.nullable name c) :=
    agrees_nullable admits no_default not_needed
  ⟨rfl, same.reads, same.needed, same.default⟩

/-- The fields of the arguments agree with the properties, in the same order. -/
inductive AgreesAll (required : List String) : {β : Type} → List Property → Fields β → Prop
  | nil : AgreesAll required [] .nil
  | cons {α β : Type} {p : Property} {f : Wire.Field α} {ps : List Property} {fs : Fields β}
    (head : Agrees required p f) (tail : AgreesAll required ps fs) :
    AgreesAll required (p :: ps) (.cons f fs)

end Fields

/-! ### Records -/

section Records

variable {ρ β : Type} {required : List String} {ps : List Property} {fs : Fields β} {s : Shape ρ}
  {members : List (String × Json)}

theorem AgreesAll.check_of_mem (agrees : AgreesAll required ps fs) {name : String} {value : Json}
    (fits : ∀ p ∈ ps, p.1 = name → Fits p value) (declared : ∃ p ∈ ps, p.1 = name) :
    fs.check name value = some (.ok ()) := by
  induction agrees with
  | nil =>
    obtain ⟨p, mem, -⟩ := declared
    cases mem
  | @cons _ _ p f ps fs head tail ih =>
    rw [Fields.check, head.named]
    split
    · next same =>
      obtain ⟨a, read⟩ := head.reads value (fits p List.mem_cons_self same)
      rw [read]
      rfl
    · next differs =>
      obtain ⟨q, mem, same⟩ := declared
      rcases List.mem_cons.1 mem with rfl | later
      · exact absurd same differs
      · exact ih (fun p mem => fits p (List.mem_cons_of_mem _ mem)) ⟨q, later, same⟩

theorem AgreesAll.check_of_not_mem (agrees : AgreesAll required ps fs) {name : String}
    {value : Json} (undeclared : ∀ p ∈ ps, p.1 ≠ name) : fs.check name value = none := by
  induction agrees with
  | nil => rfl
  | cons head tail ih =>
    rw [Fields.check, head.named, if_neg (undeclared _ List.mem_cons_self)]
    exact ih fun p mem => undeclared p (List.mem_cons_of_mem _ mem)

/-- A member is let through if it fits its property, or if it has none and none is asked for. -/
theorem AgreesAll.check_eq_ok (agrees : AgreesAll required ps s.fields) {name : String}
    {value : Json} (fits : ∀ p ∈ ps, p.1 = name → Fits p value)
    (known : s.strict = true → ∃ p ∈ ps, p.1 = name) : s.check name value = .ok () := by
  by_cases declared : ∃ p ∈ ps, p.1 = name
  · rw [Shape.check, agrees.check_of_mem fits declared]
  · have not_strict : ¬ s.strict = true := fun strict => declared (known strict)
    have undeclared : ∀ p ∈ ps, p.1 ≠ name := fun p mem same => declared ⟨p, mem, same⟩
    rw [Shape.check, agrees.check_of_not_mem undeclared]
    exact if_neg not_strict

/-- All fields are found if what is there fits and what is required is there. -/
theorem AgreesAll.exists_gather (agrees : AgreesAll required ps fs)
    (fits : ∀ p ∈ ps, ∀ m ∈ members, m.1 = p.1 → Fits p m.2)
    (complete : ∀ name ∈ required, ∃ m ∈ members, m.1 = name) :
    ∃ parts, fs.gather members = .ok parts := by
  induction agrees with
  | nil => exact ⟨(), rfl⟩
  | @cons _ _ p f ps fs head tail ih =>
    obtain ⟨rest, later⟩ := ih fun p mem => fits p (List.mem_cons_of_mem _ mem)
    have first : ∃ value, f.gather members = .ok value := by
      cases found : get? f.name members with
      | some j =>
        have mem : (f.name, j) ∈ members := mem_of_get?_eq_some found
        obtain ⟨a, read⟩ := head.reads j (fits p List.mem_cons_self _ mem head.named)
        exact ⟨a, Field.gather_eq_ok_iff.2 (.inl ⟨j, found, read⟩)⟩
      | none =>
        cases default : f.absent with
        | some a => exact ⟨a, Field.gather_eq_ok_iff.2 (.inr ⟨found, default⟩)⟩
        | none =>
          -- a field without a default is required, so it is not missing
          obtain ⟨m, mem, named⟩ := complete p.1 (head.needed.1 default)
          exact absurd (named.trans head.named.symm) (get?_eq_none_iff.1 found m mem)
    obtain ⟨value, first⟩ := first
    exact ⟨(value, rest), Fields.gather_cons_iff.2 ⟨first, later⟩⟩

/-- Members that fit are read. -/
theorem AgreesAll.exists_decodeMembers (agrees : AgreesAll required ps s.fields)
    (fits : ∀ p ∈ ps, ∀ m ∈ members, m.1 = p.1 → Fits p m.2)
    (complete : ∀ name ∈ required, ∃ m ∈ members, m.1 = name)
    (known : s.strict = true → ∀ m ∈ members, ∃ p ∈ ps, p.1 = m.1) :
    ∃ r, s.decodeMembers members = .ok r := by
  obtain ⟨parts, gathered⟩ := agrees.exists_gather fits complete
  have checked : s.checkAll members = .ok () := by
    refine Shape.checkAll_eq_ok_iff.2 fun m mem =>
      agrees.check_eq_ok (fun p declared named => ?_) ?_
    · exact fits p declared m mem named.symm
    · exact fun strict => known strict m mem
  refine ⟨s.build parts, Shape.decodeMembers_eq_ok_iff.2 ⟨checked, ?_⟩⟩
  rw [s.split_build, gathered]

/-- Of members that are read, no required one is missing. -/
theorem AgreesAll.found_of_gather (agrees : AgreesAll required ps fs) {parts : β}
    (gathered : fs.gather members = .ok parts) {p : Property} (declared : p ∈ ps)
    (needed : p.1 ∈ required) : ∃ m ∈ members, m.1 = p.1 := by
  induction agrees with
  | nil => cases declared
  | @cons _ _ q f _ _ head tail ih =>
    obtain ⟨value, rest⟩ := parts
    obtain ⟨first, later⟩ := Fields.gather_cons_iff.1 gathered
    rcases List.mem_cons.1 declared with rfl | mem
    · rcases Field.gather_eq_ok_iff.1 first with ⟨j, found, -⟩ | ⟨-, default⟩
      · exact ⟨_, mem_of_get?_eq_some found, head.named⟩
      · rw [head.needed.2 needed] at default
        cases default
    · exact ih later mem

end Records

/-! ### Tools -/

theorem agreesAll_parameter :
    AgreesAll parameterSchema.required parameterSchema.properties ParameterInfo.shape.fields :=
  .cons (agrees_required Schema.admits_text rfl (by decide)) <|
    .cons (agrees_optional Schema.admits_text rfl (by decide)) <|
    .cons (agrees_optional Schema.admits_text rfl (by decide)) .nil

/-- The members of a parameter are texts. -/
theorem text_of_mem_parameterSchema {p : Property} (declared : p ∈ parameterSchema.properties) :
    p.2.2 = .text := by
  simp [parameterSchema, Schema.properties] at declared
  rcases declared with rfl | rfl | rfl <;> rfl

/-- A parameter is read if it is valid and has no members but those that are declared. -/
theorem exists_decode_parameter {j : Json} (valid : Valid (parameterSchema.entry none) j)
    (closed : Closed (parameterSchema.entry none) j) :
    ∃ r, ParameterInfo.shape.codec.decode j = .ok r := by
  have distinct : (parameterSchema.properties.map (·.1)).Nodup := by decide
  obtain ⟨members, rfl, complete, each⟩ := (Schema.valid_record_iff distinct).1 valid
  have read : ∃ r, ParameterInfo.shape.decodeMembers members = .ok r := by
    refine agreesAll_parameter.exists_decodeMembers (fun p declared m mem named => ?_) complete
      (fun _ m mem => ?_)
    · have valid := each p declared m mem named
      obtain ⟨name, description, schema⟩ := p
      cases text_of_mem_parameterSchema declared
      exact fits_of_valid_text valid
    · obtain ⟨sub, declares⟩ := closed members rfl m mem
      obtain ⟨p, declared, named, -⟩ := (Schema.declares_entry_iff none distinct).1 declares
      exact ⟨p, declared, named⟩
  exact read

/-- A list of parameters fits if each is an object of texts with no members but those that are
declared, and has a name. -/
theorem fits_parameters {name : String} {description : Option String} {items : List Json}
    (each : ∀ item ∈ items, ∃ members, item = .object members ∧ (∃ m ∈ members, m.1 = "name") ∧
      ∀ m ∈ members, m.1 ∈ parameterNames ∧ ∃ s, m.2 = .string s) :
    Fits (name, description, .list parameterSchema) (.array items) := by
  have distinct : (parameterSchema.properties.map (·.1)).Nodup := by decide
  refine ⟨Schema.valid_list_iff.2 ⟨items, rfl, fun item mem => ?_⟩, nofun, ?_⟩
  · obtain ⟨members, rfl, named, texts⟩ := each item mem
    refine (Schema.valid_record_iff distinct).2 ⟨members, rfl, ?_, fun p declared m mem _ => ?_⟩
    · simpa using named
    · rw [text_of_mem_parameterSchema declared]
      exact Schema.valid_text_iff.2 (texts m mem).2
  · rintro sub _ published ⟨⟩ item mem members' rfl m mem'
    obtain ⟨_, ⟨⟩, -, texts⟩ := each _ mem
    obtain ⟨p, declared, named, -⟩ := exists_property_of_mem_parameterNames (texts m mem').1
    rw [Schema.get?_items_entry] at published
    cases published
    exact ⟨_, (Schema.declares_entry_iff none distinct).2 ⟨p, declared, named, rfl⟩⟩

section Parts

variable {β : Type} {required : List String} {ps : List Property} {fs : Fields β}

theorem agrees_text {name : String} {description : Option String} (needed : name ∈ required) :
    Agrees required (name, description, .text) (.required name .text) :=
  agrees_required Schema.admits_text rfl needed

/-- Lines and columns are counted from 1. -/
theorem agrees_coordinate {name : String} {description : Option String} (needed : name ∈ required) :
    Agrees required (name, description, .integer 1) (.required name .count) :=
  agrees_required (Schema.admits_count (by decide)) rfl needed

/-- The place of a symbol is read as it is described. -/
theorem AgreesAll.position (needed : ∀ name ∈ positionRequired, name ∈ required)
    (tail : AgreesAll required ps fs) :
    AgreesAll required (positionProperties ++ ps)
      (.cons (.required "project_path" .text) <|
        .cons (.required "file_path" .text) <|
        .cons (.required "line" .count) <|
        .cons (.required "column" .count) fs) :=
  .cons (agrees_text (needed _ (by decide))) <|
    .cons (agrees_text (needed _ (by decide))) <|
    .cons (agrees_coordinate (needed _ (by decide))) <|
    .cons (agrees_coordinate (needed _ (by decide))) tail

/-- The two ends of a selection are read as they are described. -/
theorem AgreesAll.selection (needed : ∀ name ∈ selectionRequired, name ∈ required)
    (tail : AgreesAll required ps fs) :
    AgreesAll required (selectionProperties ++ ps)
      (.cons (.required "project_path" .text) <|
        .cons (.required "file_path" .text) <|
        .cons (.required "start_line" .count) <|
        .cons (.required "start_column" .count) <|
        .cons (.required "end_line" .count) <|
        .cons (.required "end_column" .count) fs) :=
  .cons (agrees_text (needed _ (by decide))) <|
    .cons (agrees_text (needed _ (by decide))) <|
    .cons (agrees_coordinate (needed _ (by decide))) <|
    .cons (agrees_coordinate (needed _ (by decide))) <|
    .cons (agrees_coordinate (needed _ (by decide))) <|
    .cons (agrees_coordinate (needed _ (by decide))) tail

/-- Whether to show what would change is read as it is described. -/
theorem AgreesAll.preview (not_needed : "preview" ∉ required) :
    AgreesAll required [previewProperty] (.cons (.defaulted "preview" .flag false) .nil) :=
  .cons (agrees_flag not_needed) .nil

end Parts

/-- Each tool reads its arguments as its schema describes them. -/
theorem agrees (t : Tool) :
    AgreesAll t.schema.required t.schema.properties t.shape.fields := by
  cases t with
  | listProjects => exact .nil
  | bridgeStatus => exact .nil
  | renameSymbol =>
    exact .position (by decide) <| .cons (agrees_text (by decide)) <|
      .cons (agrees_flag (by decide)) <| .cons (agrees_flag (by decide)) <| .preview (by decide)
  | moveElement =>
    exact .position (by decide) <| .cons (agrees_text (by decide)) <| .preview (by decide)
  | extractMethod =>
    exact .selection (by decide) <| .cons (agrees_text (by decide)) <| .preview (by decide)
  | extractVariable =>
    exact .selection (by decide) <| .cons (agrees_text (by decide)) <|
      .cons (agrees_flag (by decide)) <| .preview (by decide)
  | inlineElement => exact .position (by decide) <| .preview (by decide)
  | changeSignature =>
    exact .position (by decide) <|
      .cons (agrees_nullable Schema.admits_text rfl (by decide)) <|
      .cons (agrees_nullable (Schema.admits_list fun _ => exists_decode_parameter) rfl
        (by decide)) <|
      .cons (agrees_nullable Schema.admits_text rfl (by decide)) <| .preview (by decide)
  | safeDelete => exact .position (by decide) <| .cons (agrees_flag (by decide)) .nil
  | findUsages => exact .position (by decide) .nil

/-- Tools ignore members that they do not know. -/
theorem not_strict (t : Tool) : ¬ t.shape.strict = true := by
  cases t <;> exact Bool.false_ne_true

/-- Only what is declared is required. -/
theorem exists_property_of_mem_required {t : Tool} {name : String}
    (needed : name ∈ t.schema.required) : ∃ p ∈ t.schema.properties, p.1 = name := by
  have subset : ∀ name ∈ t.schema.required, name ∈ t.schema.properties.map (·.1) := by
    cases t <;> decide
  exact List.mem_map.1 (subset name needed)

theorem takesArguments_of_mem_required {t : Tool} {name : String}
    (needed : name ∈ t.schema.required) : t.takesArguments = true := by
  cases t with
  | listProjects | bridgeStatus => cases needed
  | renameSymbol | moveElement | extractMethod | extractVariable | inlineElement
  | changeSignature | safeDelete | findUsages => rfl

/-! ### Arguments -/

section Arguments

variable {t : Tool} {members : List (String × Json)}

/-- Arguments are valid and keep to the bounds that are not published if each member fits and none
is missing that is required. -/
theorem valid_and_confined_iff :
    (Valid (t.schema.entry none) (.object members) ∧
      ∀ m ∈ members, ∀ sub, Declares (t.schema.entry none) m.1 sub → Confined sub m.2) ↔
        (∀ p ∈ t.schema.properties, ∀ m ∈ members, m.1 = p.1 → Fits p m.2) ∧
          ∀ name ∈ t.schema.required, ∃ m ∈ members, m.1 = name := by
  rw [valid_schema_iff]
  constructor
  · rintro ⟨⟨complete, each⟩, confined⟩
    refine ⟨fun p declared m mem named => ⟨each p declared m mem named, ?_⟩, complete⟩
    exact confined m mem _ (declares_schema_iff.2 ⟨p, declared, named.symm, rfl⟩)
  · rintro ⟨fits, complete⟩
    refine ⟨⟨complete, fun p declared m mem named => ?_⟩, fun m mem sub declares => ?_⟩
    · exact (fits p declared m mem named).valid
    · obtain ⟨p, declared, named, rfl⟩ := declares_schema_iff.1 declares
      exact (fits p declared m mem named.symm).confined

/-- What is valid is read, and no line and no column of it is zero. -/
theorem not_refuses_of_fits
    (fits : ∀ p ∈ t.schema.properties, ∀ m ∈ members, m.1 = p.1 → Fits p m.2)
    (complete : ∀ name ∈ t.schema.required, ∃ m ∈ members, m.1 = name) : ¬ t.Refuses members := by
  rintro ⟨-, ⟨mismatch, refused⟩ | ⟨name, mem, zero⟩⟩
  · obtain ⟨a, read⟩ := t.agrees.exists_decodeMembers fits complete
      fun strict => absurd strict t.not_strict
    rw [Shape.decode, read] at refused
    cases refused
  · obtain ⟨p, declared, named, integer⟩ := exists_property_of_mem_coordinateNames mem
    have valid := (fits p declared _ (mem_of_get?_eq_some zero) named.symm).valid
    rw [integer] at valid
    obtain ⟨n, same, above⟩ := (Schema.valid_integer_iff (by decide)).1 valid
    cases same
    exact absurd above (by decide)

/-- What is not complete is refused. -/
theorem refuses_of_missing {name : String} (needed : name ∈ t.schema.required)
    (missing : ∀ m ∈ members, m.1 ≠ name) : t.Refuses members := by
  refine ⟨takesArguments_of_mem_required needed, .inl ?_⟩
  cases read : t.shape.decode (.object members) with
  | error mismatch => exact ⟨mismatch, rfl⟩
  | ok a =>
    have gathered := (Shape.decodeMembers_eq_ok_iff.1 read).2
    obtain ⟨p, declared, rfl⟩ := exists_property_of_mem_required needed
    obtain ⟨m, mem, named⟩ := t.agrees.found_of_gather gathered declared needed
    exact absurd named (missing m mem)

end Arguments

end Tool

/-! ### Tool calls -/

/-- Members of which one is taken away. -/
def without (name : String) (members : List (String × Json)) : List (String × Json) :=
  members.filter fun m => m.1 != name

theorem ne_of_mem_without {name : String} {members : List (String × Json)} {m : String × Json}
    (mem : m ∈ without name members) : m.1 ≠ name := by
  simpa using (List.mem_filter.1 mem).2

/-- **Schemas and arguments agree.**  Arguments that are valid against the schema that a tool
publishes, and that keep to the bounds that it does not publish, are never the reason why a call of
the tool fails.  Arguments from which a required member was taken always are, and then nothing is
sent. -/
theorem answer_agrees_with_schema (config : Config) (t : Tool) {schema : List (String × Json)}
    (published : t.Publishes schema) (x : Exchange) :
    let server : Server := ⟨config⟩
    (∀ members, Valid schema (.object members) →
      (∀ m ∈ members, ∀ sub, Declares schema m.1 sub → Confined sub m.2) →
        ¬ (server.answer "tools/call" (toolCallParameters t.name (some members)) x).FailsWith
          (-32602)) ∧
      ∀ name, Requires schema name → ∀ members,
        let params := toolCallParameters t.name (some (without name members))
        let outcome := server.answer "tools/call" params x
        outcome.FailsWith (-32602) ∧ outcome.requests = [] ∧
          server.sending? "tools/call" params = none := by
  simp only [answer_toolCallParameters, sending?_toolCallParameters]
  cases Tool.publishes_iff.1 published
  refine ⟨fun members valid confined fails => ?_, fun name requires members => ?_⟩
  · obtain ⟨fits, complete⟩ := Tool.valid_and_confined_iff.1 ⟨valid, confined⟩
    obtain ⟨t', named, refuses⟩ := failsWith_refused_iff.1 fails
    cases Tool.name_injective named
    exact Tool.not_refuses_of_fits fits complete refuses
  · have refuses : t.Refuses (without name members) :=
      Tool.refuses_of_missing (Tool.requires_schema_iff.1 requires) fun m => ne_of_mem_without
    have refused : ∃ t' : Tool, t'.name = t.name ∧ t'.Refuses (without name members) :=
      ⟨t, rfl, refuses⟩
    obtain ⟨nothing, unseen, -⟩ :
        _ ∧ ((Server.mk config).callTool ⟨t.name, without name members⟩ x).requests = [] ∧ _ :=
      untouched_of_caller_fault (.inr refused)
    exact ⟨failsWith_refused_iff.2 refused, unseen, nothing⟩

/-- The arguments of a change of signature at the last line that can be named, with one parameter
and a member that the tool does not know. -/
def parameterArguments : List (String × Json) :=
  [("column", .number (.integer 1)), ("file_path", .string "app.py"),
   ("line", .number (.integer 4294967295)),
   ("parameters", .array [.object [("name", .string "a"), ("type", .string "int")]]),
   ("project_path", .string "/work"), ("unknown", .null)]

theorem fits_parameterArguments :
    ∀ p ∈ (Tool.schema .changeSignature).properties, ∀ m ∈ parameterArguments, m.1 = p.1 →
      Tool.Fits p m.2 := by
  intro p declared m mem named
  simp [Tool.schema, Tool.Schema.properties, Tool.positionProperties, Tool.property,
    Tool.previewProperty] at declared
  -- of each property at most one member has the name
  rcases declared with rfl | rfl | rfl | rfl | rfl | rfl | rfl | rfl <;>
    simp [parameterArguments] at mem <;> rcases mem with rfl | rfl | rfl | rfl | rfl | rfl <;>
    simp at named
  · exact Tool.fits_of_valid_text (Tool.Schema.valid_text_iff.2 ⟨_, rfl⟩)
  · exact Tool.fits_of_valid_text (Tool.Schema.valid_text_iff.2 ⟨_, rfl⟩)
  · exact (Tool.fits_integer_iff (by decide)).2 ⟨_, rfl, by decide, by decide⟩
  · exact (Tool.fits_integer_iff (by decide)).2 ⟨_, rfl, by decide, by decide⟩
  · refine Tool.fits_parameters fun item mem => ⟨_, List.mem_singleton.1 mem, by simp, ?_⟩
    simp [Tool.parameterNames]

theorem changeSignature_agrees_with_schema :
    let server : Server := ⟨⟨Config.defaultBaseUrl, none, Config.defaultTimeout⟩⟩
    let schema := (Tool.schema .changeSignature).entry none
    let answer members := server.answer "tools/call"
      (toolCallParameters (Tool.name .changeSignature) (some members)) (.refused "")
    Tool.Publishes .changeSignature schema ∧ Valid schema (.object parameterArguments) ∧
      ¬ (answer parameterArguments).FailsWith (-32602) ∧ Requires schema "line" ∧
        (answer (without "line" parameterArguments)).FailsWith (-32602) := by
  intro server schema answer
  have published : Tool.Publishes .changeSignature schema := Tool.publishes_iff.2 rfl
  obtain ⟨valid, confined⟩ := Tool.valid_and_confined_iff.2 ⟨fits_parameterArguments, by decide⟩
  have line : Requires schema "line" := Tool.requires_schema_iff.2 (by decide)
  obtain ⟨never, always⟩ :=
    answer_agrees_with_schema server.config .changeSignature published (.refused "")
  exact ⟨published, valid, never _ valid confined, line, (always "line" line _).1⟩

end RefactorGateway
