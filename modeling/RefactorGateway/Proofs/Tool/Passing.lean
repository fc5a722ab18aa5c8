import RefactorGateway.Proofs.Bridge.Destination
import RefactorGateway.Proofs.Tool.Outcome
import RefactorGateway.Proofs.Wire.NullFree
import RefactorGateway.Proofs.Wire.Records
import RefactorGateway.Tool.Catalog
/-!
# What a tool call passes on

A tool publishes a schema of its arguments.  The request that it sends to the bridge holds just what
this schema describes: each described member that was given, under its name in the language of the
bridge and with its value unchanged, and the published default of each truth value that was not.  It
goes to a fixed path below the base URL.

## Main Definitions

* `wireName`: the name under which the bridge is told a member
* `Schema.passedOn`: what is passed on of a value that a schema describes
* `Schema.sent?`: the same of a member, which may not be given
* `Passes`, `PassesAll`: a field of a request takes over a field of the arguments
* `StandsForParameter`: what is sent for a parameter of a new signature
* `fixedPath`: the path to which a tool sends its request

## Main Statements

* `Schema.describes_record`: a record is passed on if each of its fields is
* `exists_value_encode_request`: what each tool passes on is what its request is written as
* `answer_toolCall_passes`: the request of every tool call that is accepted

## Design Notes

`Schema.passedOn` is computed from the published schema alone and knows no record.  So it says what
a caller may expect who has read the catalogue, and a field that was dropped, swapped with another
or given another default would not meet it.

The path is put behind the base URL as a text.  So it is the end of what is requested only if the
base URL has no fragment, and the end of the path only if it has no query either (`LiesBelow`).
-/

namespace RefactorGateway.Tool

open Bridge Wire Http
open Json

/-! ### Names -/

/-- Drop each underscore and make the letter behind it a capital. -/
def humped : List Char → List Char
  | '_' :: c :: rest => c.toUpper :: humped rest
  | c :: rest => c :: humped rest
  | [] => []

/-- The name under which the bridge is told a member: project and file have short names, and all
other names are put in camel case. -/
def wireName (name : String) : String :=
  if name = "project_path" then "project"
  else if name = "file_path" then "file"
  else String.ofList (humped name.toList)

/-! ### Values -/

/-- A member that is given and not null. -/
def given? : Option Json → Option Json
  | some .null => none
  | member => member

/-- What a missing member stands for. -/
def Schema.absent? : Schema → Option Json
  | .flag value => some (.bool value)
  | _ => none

/-- The members that a schema describes. -/
def Schema.properties : Schema → List Property
  | .record properties _ => properties
  | _ => []

mutual

/-- What is passed on of a value that a schema describes.  Of a record, this is always an object. -/
def Schema.passedOn : Schema → Json → Json
  | .list items, .array values => .array (values.map items.passedOn)
  | .record properties _, value =>
    .object (Members.sorted
      (Schema.membersPassedOn properties (namedMembers (properties.map (·.1)) value)))
  | _, value => value

/-- The members that are passed on of members of which some are described. -/
def Schema.membersPassedOn : List Property → List (String × Json) → List (String × Json)
  | [], _ => []
  | (name, _, schema) :: rest, members =>
    ((given? ((Members.get? name members).or schema.absent?)).map fun value =>
      (wireName name, schema.passedOn value)).toList ++ Schema.membersPassedOn rest members

end

@[simp] theorem Schema.passedOn_record (properties : List Property) (required : List String)
    (value : Json) :
    (Schema.record properties required).passedOn value =
      .object (Members.sorted
        (Schema.membersPassedOn properties (namedMembers (properties.map (·.1)) value))) := by
  rw [Schema.passedOn]

/-- What is passed on of a member, which may not be given. -/
def Schema.sent? (schema : Schema) (member : Option Json) : Option Json :=
  (given? (member.or schema.absent?)).map schema.passedOn

theorem Schema.membersPassedOn_cons (name : String) (description : Option String) (schema : Schema)
    (rest : List Property) (members : List (String × Json)) :
    Schema.membersPassedOn ((name, description, schema) :: rest) members =
      ((schema.sent? (Members.get? name members)).map (wireName name, ·)).toList ++
        Schema.membersPassedOn rest members := by
  rw [Schema.membersPassedOn, Schema.sent?, Option.map_map]
  rfl

theorem Schema.sent?_text (member : Option Json) : Schema.text.sent? member = given? member := by
  show (given? (member.or none)).map Schema.text.passedOn = given? member
  rw [Option.or_none]
  exact Option.map_id'

/-- A member without a default is sent just if it is given and not null. -/
theorem Schema.sent?_isSome_iff {schema : Schema} (no_default : schema.absent? = none)
    {member : Option Json} :
    (schema.sent? member).isSome ↔ ∃ value, member = some value ∧ value ≠ .null := by
  rw [Schema.sent?, no_default, Option.or_none, Option.isSome_map]
  cases member with
  | none => simp [given?]
  | some value => cases value <;> simp [given?]

theorem Schema.sent?_of_ne_null {schema : Schema} {value : Json} (given : value ≠ .null) :
    schema.sent? (some value) = some (schema.passedOn value) := by
  cases value with
  | null => exact absurd rfl given
  | bool _ | number _ | string _ | array _ | object _ => rfl

/-! ### Members -/

section Members

variable {properties : List Property} {members : List (String × Json)}

/-- Nothing is sent but what is described. -/
theorem exists_property_of_mem {m : String × Json}
    (mem : m ∈ Schema.membersPassedOn properties members) :
    ∃ p ∈ properties, m.1 = wireName p.1 := by
  induction properties with
  | nil => cases mem
  | cons p rest ih =>
    obtain ⟨name, description, schema⟩ := p
    rw [Schema.membersPassedOn_cons] at mem
    rcases List.mem_append.1 mem with head | tail
    · rw [Option.mem_toList, Option.map_eq_some_iff] at head
      obtain ⟨value, -, rfl⟩ := head
      exact ⟨_, List.mem_cons_self, rfl⟩
    · obtain ⟨p, mem, named⟩ := ih tail
      exact ⟨p, List.mem_cons_of_mem _ mem, named⟩

/-- Names that differ in the language of the bridge stay apart. -/
theorem nodup_membersPassedOn (distinct : (properties.map fun p => wireName p.1).Nodup) :
    ((Schema.membersPassedOn properties members).map (·.1)).Nodup := by
  induction properties with
  | nil => exact List.nodup_nil
  | cons p rest ih =>
    obtain ⟨name, description, schema⟩ := p
    obtain ⟨fresh, distinct⟩ := List.nodup_cons.1 distinct
    rw [Schema.membersPassedOn_cons]
    cases schema.sent? (Members.get? name members) with
    | none => exact ih distinct
    | some value =>
      refine List.nodup_cons.2 ⟨fun mem => fresh ?_, ih distinct⟩
      obtain ⟨m, mem, same⟩ := List.mem_map.1 mem
      obtain ⟨p, described, named⟩ := exists_property_of_mem mem
      exact List.mem_map.2 ⟨p, described, named.symm.trans same⟩

/-- Each described member is sent under its name as its own schema says. -/
theorem get?_membersPassedOn (distinct : (properties.map fun p => wireName p.1).Nodup)
    {p : Property} (described : p ∈ properties) :
    Members.get? (wireName p.1) (Members.sorted (Schema.membersPassedOn properties members)) =
      p.2.2.sent? (Members.get? p.1 members) := by
  rw [Members.get?_sorted (nodup_membersPassedOn distinct)]
  induction properties with
  | nil => cases described
  | cons q rest ih =>
    obtain ⟨name, description, schema⟩ := q
    obtain ⟨fresh, distinct⟩ := List.nodup_cons.1 distinct
    rw [Schema.membersPassedOn_cons]
    -- if the first property is another one, its name in the language of the bridge is too
    rcases List.mem_cons.1 described with rfl | later
    · cases schema.sent? (Members.get? name members) with
      | some value => exact Members.get?_first (wireName name, value) _
      | none =>
        refine Members.get?_eq_none_iff.2 fun m mem same => fresh ?_
        obtain ⟨p, described, named⟩ := exists_property_of_mem mem
        exact List.mem_map.2 ⟨p, described, named.symm.trans same⟩
    · have differs : wireName name ≠ wireName p.1 :=
        fun same => fresh (List.mem_map.2 ⟨p, later, same.symm⟩)
      cases schema.sent? (Members.get? name members) with
      | some value =>
        exact (Members.get?_of_ne differs _).trans (ih distinct later)
      | none => exact ih distinct later

end Members

/-! ### Codecs -/

section Codecs

variable {α : Type} {c : Codec α}

/-- What is passed on of a value that is read is what is written of it. -/
def Schema.Describes (schema : Schema) (c : Codec α) : Prop :=
  ∀ j a, c.decode j = .ok a → j ≠ .null ∧ schema.passedOn j = (c.encode a).value

theorem Schema.describes_text : Schema.text.Describes Codec.text := by
  intro j a read
  rw [Codec.decode_text_iff.1 read]
  exact ⟨nofun, rfl⟩

theorem Schema.describes_flag (value : Bool) : (Schema.flag value).Describes Codec.flag := by
  intro j a read
  rw [Codec.decode_flag_iff.1 read]
  exact ⟨nofun, rfl⟩

/-- A count is written as the integer that it was read of. -/
theorem Schema.describes_count (minimum : Nat) :
    (Schema.integer minimum).Describes Codec.count := by
  intro j a read
  have written : Codec.count.decode (Codec.count.encode a).value = .ok a := Codec.lawful_count a
  rw [Codec.decode_count_iff.1 read, Codec.decode_count_iff.1 written]
  exact ⟨nofun, rfl⟩

theorem Schema.describes_list {schema : Schema} (describes : schema.Describes c) :
    (Schema.list schema).Describes (Codec.list c) := by
  intro j values read
  obtain ⟨items, rfl, read⟩ := Codec.decode_list_iff.1 read
  have same : items.map schema.passedOn = values.map fun a => (c.encode a).value :=
    Codec.map_eq_of_decodeItems (fun j a read => (describes j a read).2) read
  refine ⟨nofun, ?_⟩
  rw [Schema.passedOn, same, Codec.list, Document.value, Document.values_eq_map, List.map_map]
  rfl

/-! ### Fields -/

/-- A field of a request takes over a field of the arguments, as a property describes it. -/
structure Passes (p : Property) (f g : Wire.Field α) : Prop where
  named : f.name = p.1
  written : ∀ members v, f.gather members = .ok v →
    ((p.2.2.sent? (Members.get? p.1 members)).map (wireName p.1, ·)).toList = g.written v

variable {name wire : String} {description : Option String} {schema : Schema}

theorem passes_required (describes : schema.Describes c) (named : wireName name = wire) :
    Passes (name, description, schema) (.required name c) (.required wire c) := by
  refine ⟨rfl, fun members v gathered => ?_⟩
  obtain ⟨j, given, read⟩ := Field.gather_required_iff.1 gathered
  obtain ⟨not_null, passed⟩ := describes j v read
  rw [given, Schema.sent?_of_ne_null not_null, passed, named]
  rfl

/-- The default of the schema is that of the arguments. -/
theorem passes_flag {value : Bool} (named : wireName name = wire) :
    Passes (name, description, .flag value) (.defaulted name .flag value)
      (.required wire .flag) := by
  refine ⟨rfl, fun members v gathered => ?_⟩
  rcases Field.gather_defaulted_iff.1 gathered with ⟨j, given, read⟩ | ⟨missing, rfl⟩
  · obtain ⟨not_null, passed⟩ := Schema.describes_flag value j v read
    rw [given, Schema.sent?_of_ne_null not_null, passed, named]
    rfl
  · rw [missing, named]
    rfl

/-- What need not be given is not sent if it is missing or null. -/
theorem passes_nullable (describes : schema.Describes c) (no_default : schema.absent? = none)
    (named : wireName name = wire) :
    Passes (name, description, schema) (.nullable name c) (.optional wire c) := by
  have nothing : schema.sent? none = none := by rw [Schema.sent?, no_default]; rfl
  refine ⟨rfl, fun members v gathered => ?_⟩
  rcases Field.gather_nullable_iff.1 gathered with ⟨j, given, read⟩ | ⟨missing, rfl⟩
  · rcases Codec.decode_option_iff.1 read with ⟨rfl, rfl⟩ | ⟨not_null, a, inside, rfl⟩
    · -- null is read as no value, and no value is left out
      rw [given]
      rfl
    · rw [given, Schema.sent?_of_ne_null not_null, (describes j a inside).2, named]
      rfl
  · rw [missing, nothing]
    rfl

theorem passes_optional (describes : schema.Describes c) (no_default : schema.absent? = none)
    (named : wireName name = wire) :
    Passes (name, description, schema) (.optional name c) (.optional wire c) :=
  ⟨rfl, (passes_nullable describes no_default named).written⟩

/-- The fields of a request take over those of the arguments, each as its property describes it. -/
inductive PassesAll : {β : Type} → List Property → Fields β → Fields β → Prop
  | nil : PassesAll [] .nil .nil
  | cons {α β : Type} {p : Property} {f g : Wire.Field α} {ps : List Property} {fs gs : Fields β}
    (head : Passes p f g) (tail : PassesAll ps fs gs) :
    PassesAll (p :: ps) (.cons f fs) (.cons g gs)

theorem PassesAll.names {β : Type} {ps : List Property} {fs gs : Fields β}
    (passes : PassesAll ps fs gs) : ps.map (·.1) = fs.names := by
  induction passes with
  | nil => rfl
  | cons head tail ih => rw [List.map_cons, Fields.names, head.named, ih]

/-- What is passed on of members is what is written of the values that are read of them. -/
theorem PassesAll.membersPassedOn {β : Type} {ps : List Property} {fs gs : Fields β}
    (passes : PassesAll ps fs gs) {members : List (String × Json)} {parts : β}
    (gathered : fs.gather members = .ok parts) :
    Schema.membersPassedOn ps members = gs.written parts := by
  induction passes with
  | nil => rfl
  | @cons _ _ p _ _ _ _ _ head tail ih =>
    obtain ⟨value, rest⟩ := parts
    obtain ⟨first, later⟩ := Fields.gather_cons_iff.1 gathered
    obtain ⟨name, description, schema⟩ := p
    rw [Schema.membersPassedOn_cons, Fields.written, ih later]
    exact congrArg (· ++ _) (head.written members value first)

/-- A record is passed on as it is written, be it given as an object or as a list. -/
theorem Schema.describes_record {ρ : Type} {s : Shape ρ} {ps : List Property}
    {required : List String} (passes : PassesAll ps s.fields s.fields)
    (distinct : s.fields.names.Nodup) : (Schema.record ps required).Describes s.codec := by
  intro j r read
  have gathered := Shape.gather_of_decode distinct read
  refine ⟨fun null => ?_, ?_⟩
  · subst null
    cases read
  · rw [Schema.passedOn, passes.names, passes.membersPassedOn gathered]
    exact (s.value_encode r).symm

end Codecs

/-! ### Tools -/

theorem describes_parameter : parameterSchema.Describes ParameterInfo.shape.codec := by
  refine Schema.describes_record ?_ (by decide)
  exact .cons (passes_required Schema.describes_text rfl) <|
    .cons (passes_optional Schema.describes_text rfl rfl) <|
    .cons (passes_optional Schema.describes_text rfl rfl) .nil

/-- The names of the members of a parameter. -/
def parameterNames : List String := ["name", "type", "defaultValue"]

theorem exists_property_of_mem_parameterNames {name : String} (mem : name ∈ parameterNames) :
    ∃ p ∈ parameterSchema.properties, p.1 = name ∧ wireName p.1 = p.1 ∧ p.2.2 = .text := by
  simp [parameterNames] at mem
  rcases mem with rfl | rfl | rfl
  · exact ⟨("name", none, .text), by simp [parameterSchema, Schema.properties], rfl, rfl, rfl⟩
  · exact ⟨("type", none, .text), by simp [parameterSchema, Schema.properties], rfl, rfl, rfl⟩
  · exact ⟨("defaultValue", none, .text), by simp [parameterSchema, Schema.properties], rfl, rfl,
      rfl⟩

/-- One value is sent for a parameter: an object of what was given and not null, and of nothing
else. -/
def StandsForParameter (item sent : Json) : Prop :=
  ∃ members, sent = .object members ∧
    (∀ name ∈ parameterNames,
      Members.get? name members = given? (Members.get? name (namedMembers parameterNames item))) ∧
    ∀ m ∈ members, m.1 ∈ parameterNames

theorem standsForParameter_passedOn (item : Json) :
    StandsForParameter item (parameterSchema.passedOn item) := by
  refine ⟨_, Schema.passedOn_record _ _ item, fun name mem => ?_, fun m mem => ?_⟩
  · obtain ⟨p, described, rfl, same, text⟩ := exists_property_of_mem_parameterNames mem
    have found : Members.get? (wireName p.1) _ =
        p.2.2.sent? (Members.get? p.1 (namedMembers parameterNames item)) :=
      get?_membersPassedOn (by decide) described
    rw [same, text, Schema.sent?_text] at found
    exact found
  · obtain ⟨p, described, named⟩ := exists_property_of_mem (Members.mem_of_mem_sorted mem)
    have names : parameterNames = parameterSchema.properties.map fun p => wireName p.1 := rfl
    rw [names]
    exact List.mem_map.2 ⟨p, described, named.symm⟩

/-- The place of a symbol is taken over. -/
theorem PassesAll.position {β : Type} {ps : List Property} {fs gs : Fields β}
    (tail : PassesAll ps fs gs) :
    PassesAll (positionProperties ++ ps)
      (.cons (.required "project_path" .text) <|
        .cons (.required "file_path" .text) <|
        .cons (.required "line" .count) <|
        .cons (.required "column" .count) fs)
      (.cons (.required "project" .text) <|
        .cons (.required "file" .text) <|
        .cons (.required "line" .count) <|
        .cons (.required "column" .count) gs) :=
  .cons (passes_required Schema.describes_text rfl) <|
    .cons (passes_required Schema.describes_text rfl) <|
    .cons (passes_required (Schema.describes_count 1) rfl) <|
    .cons (passes_required (Schema.describes_count 1) rfl) tail

/-- The two ends of a selection are taken over. -/
theorem PassesAll.selection {β : Type} {ps : List Property} {fs gs : Fields β}
    (tail : PassesAll ps fs gs) :
    PassesAll (selectionProperties ++ ps)
      (.cons (.required "project_path" .text) <|
        .cons (.required "file_path" .text) <|
        .cons (.required "start_line" .count) <|
        .cons (.required "start_column" .count) <|
        .cons (.required "end_line" .count) <|
        .cons (.required "end_column" .count) fs)
      (.cons (.required "project" .text) <|
        .cons (.required "file" .text) <|
        .cons (.required "startLine" .count) <|
        .cons (.required "startColumn" .count) <|
        .cons (.required "endLine" .count) <|
        .cons (.required "endColumn" .count) gs) :=
  .cons (passes_required Schema.describes_text rfl) <|
    .cons (passes_required Schema.describes_text rfl) <|
    .cons (passes_required (Schema.describes_count 1) rfl) <|
    .cons (passes_required (Schema.describes_count 1) rfl) <|
    .cons (passes_required (Schema.describes_count 1) rfl) <|
    .cons (passes_required (Schema.describes_count 1) rfl) tail

/-- Whether to show what would change is taken over. -/
theorem PassesAll.preview :
    PassesAll [previewProperty] (.cons (.defaulted "preview" .flag false) .nil)
      (.cons (.required "preview" .flag) .nil) :=
  .cons (passes_flag rfl) .nil

theorem passesAll_rename :
    PassesAll (schema .renameSymbol).properties RenameArguments.shape.fields
      RenameRequest.shape.fields :=
  .position <| .cons (passes_required Schema.describes_text rfl) <| .cons (passes_flag rfl) <|
    .cons (passes_flag rfl) .preview

theorem passesAll_move :
    PassesAll (schema .moveElement).properties MoveArguments.shape.fields
      MoveRequest.shape.fields :=
  .position <| .cons (passes_required Schema.describes_text rfl) .preview

theorem passesAll_extractMethod :
    PassesAll (schema .extractMethod).properties ExtractMethodArguments.shape.fields
      ExtractMethodRequest.shape.fields :=
  .selection <| .cons (passes_required Schema.describes_text rfl) .preview

theorem passesAll_extractVariable :
    PassesAll (schema .extractVariable).properties ExtractVariableArguments.shape.fields
      ExtractVariableRequest.shape.fields :=
  .selection <| .cons (passes_required Schema.describes_text rfl) <|
    .cons (passes_flag rfl) .preview

theorem passesAll_inline :
    PassesAll (schema .inlineElement).properties InlineArguments.shape.fields
      InlineRequest.shape.fields :=
  .position .preview

/-- The fields of the request for a change of signature, in the order in which the tool describes
them. -/
def changeSignatureFields : Fields ChangeSignatureArguments.shape.parts :=
  .cons (.required "project" .text) <|
  .cons (.required "file" .text) <|
  .cons (.required "line" .count) <|
  .cons (.required "column" .count) <|
  .cons (.optional "newName" .text) <|
  .cons (.optional "parameters" (.list ParameterInfo.shape.codec)) <|
  .cons (.optional "returnType" .text) <|
  .cons (.required "preview" .flag) .nil

theorem passesAll_changeSignature :
    PassesAll (schema .changeSignature).properties ChangeSignatureArguments.shape.fields
      changeSignatureFields :=
  .position <| .cons (passes_nullable Schema.describes_text rfl rfl) <|
    .cons (passes_nullable (Schema.describes_list describes_parameter) rfl rfl) <|
    .cons (passes_nullable Schema.describes_text rfl rfl) .preview

/-- The request itself has the same members, with the last of these before those that may be left
out. -/
theorem perm_written_changeSignature (a : ChangeSignatureArguments) :
    (changeSignatureFields.written (ChangeSignatureArguments.shape.split a)).Perm
      (ChangeSignatureRequest.shape.written a.request) := by
  have moved (newName parameters returnType preview : List (String × Json)) :
      (newName ++ (parameters ++ (returnType ++ (preview ++ [])))).Perm
        (preview ++ (newName ++ (parameters ++ (returnType ++ [])))) := by
    rw [List.append_nil, List.append_nil, ← List.append_assoc, ← List.append_assoc,
      List.append_assoc newName]
    exact List.perm_append_comm
  exact .cons _ <| .cons _ <| .cons _ <| .cons _ <| moved _ _ _ _

theorem passesAll_safeDelete :
    PassesAll (schema .safeDelete).properties SafeDeleteArguments.shape.fields
      SafeDeleteRequest.shape.fields :=
  .position <| .cons (passes_flag rfl) .nil

theorem passesAll_findUsages :
    PassesAll (schema .findUsages).properties FindUsagesArguments.shape.fields
      FindUsagesRequest.shape.fields :=
  .position .nil

/-- A record is written as what is passed on if its members are, in whatever order. -/
theorem value_encode_of_passesAll {ρ β : Type} {s : Shape ρ} {r : ρ} {ps : List Property}
    {required : List String} {fs gs : Fields β} {members : List (String × Json)} {parts : β}
    (passes : PassesAll ps fs gs) (gathered : fs.gather members = .ok parts)
    (same : Members.sorted (gs.written parts) = Members.sorted (s.written r)) :
    (s.encode r).value = (Schema.record ps required).passedOn (.object members) := by
  rw [Shape.value_encode, ← same, ← passes.membersPassedOn gathered, Schema.passedOn, namedMembers]

/-- A request is written as what its tool passes on. -/
theorem exists_value_encode_request {t : Tool} {members : List (String × Json)} {a : t.Arguments}
    (takes : t.takesArguments = true) (read : t.readArguments members = .ok a) :
    ∃ s, t.endpoint.request? = some s ∧
      (s.encode (t.request a)).value = t.schema.passedOn (.object members) := by
  rw [readArguments, if_pos takes] at read
  have gathered := (Shape.decodeMembers_eq_ok_iff.1 read).2
  cases t with
  | listProjects => cases takes
  | bridgeStatus => cases takes
  | renameSymbol => exact ⟨_, rfl, value_encode_of_passesAll passesAll_rename gathered rfl⟩
  | moveElement => exact ⟨_, rfl, value_encode_of_passesAll passesAll_move gathered rfl⟩
  | extractMethod =>
    exact ⟨_, rfl, value_encode_of_passesAll passesAll_extractMethod gathered rfl⟩
  | extractVariable =>
    exact ⟨_, rfl, value_encode_of_passesAll passesAll_extractVariable gathered rfl⟩
  | inlineElement => exact ⟨_, rfl, value_encode_of_passesAll passesAll_inline gathered rfl⟩
  | changeSignature =>
    -- the catalogue names the preview last, and the request before what may be left out
    have same := Members.sorted_eq_of_perm (perm_written_changeSignature a)
      (Fields.nodup_written (by decide) _)
    exact ⟨_, rfl, value_encode_of_passesAll passesAll_changeSignature gathered same⟩
  | safeDelete => exact ⟨_, rfl, value_encode_of_passesAll passesAll_safeDelete gathered rfl⟩
  | findUsages => exact ⟨_, rfl, value_encode_of_passesAll passesAll_findUsages gathered rfl⟩

/-! ### Requests -/

section Requests

variable {config : Config} {t : Tool} {members : List (String × Json)} {a : t.Arguments}

theorem passedOn_arguments (t : Tool) (members : List (String × Json)) :
    t.schema.passedOn (.object members) =
      .object (Members.sorted (Schema.membersPassedOn t.schema.properties members)) := by
  obtain ⟨required, is_record⟩ : ∃ required, t.schema = .record t.schema.properties required := by
    cases t <;> exact ⟨_, rfl⟩
  rw [is_record, Schema.passedOn, namedMembers, Schema.properties]

theorem nodup_wireNames (t : Tool) : (t.schema.properties.map fun p => wireName p.1).Nodup := by
  cases t <;> decide

/-- Lines and columns are described as integers. -/
theorem exists_property_of_mem_coordinateNames {name : String} (mem : name ∈ t.coordinateNames) :
    ∃ p ∈ t.schema.properties, p.1 = name ∧ p.2.2 = .integer 1 := by
  cases t with
  | listProjects => cases mem
  | bridgeStatus => cases mem
  | extractMethod | extractVariable =>
    simp [coordinateNames] at mem
    rcases mem with rfl | rfl | rfl | rfl <;>
      simp [schema, Schema.properties, selectionProperties, property]
  | renameSymbol | moveElement | inlineElement | changeSignature | safeDelete | findUsages =>
    simp [coordinateNames] at mem
    rcases mem with rfl | rfl <;>
      simp [schema, Schema.properties, positionProperties, property]

/-- The members of a change of signature that mean "keep as it is" if they are missing or null. -/
def keepNames : List String := ["new_name", "parameters", "return_type"]

theorem exists_property_of_mem_keepNames {name : String} (mem : name ∈ keepNames) :
    ∃ p ∈ (schema .changeSignature).properties, p.1 = name ∧ p.2.2.absent? = none := by
  simp [keepNames] at mem
  rcases mem with rfl | rfl | rfl <;>
    simp [schema, Schema.properties, positionProperties, property, Schema.absent?]

/-- The path at which the bridge offers the operation of a tool. -/
def fixedPath : Tool → String
  | .listProjects => "/projects"
  | .bridgeStatus => "/health"
  | .renameSymbol => "/refactor/rename"
  | .moveElement => "/refactor/move"
  | .extractMethod => "/refactor/extract-method"
  | .extractVariable => "/refactor/extract-variable"
  | .inlineElement => "/refactor/inline"
  | .changeSignature => "/refactor/change-signature"
  | .safeDelete => "/refactor/safe-delete"
  | .findUsages => "/find/usages"

theorem path_endpoint (t : Tool) : t.endpoint.path = t.fixedPath := by
  cases t <;> rfl

theorem method_endpoint (takes : t.takesArguments = true) : t.endpoint.method = .post := by
  cases t with
  | listProjects => cases takes
  | bridgeStatus => cases takes
  | renameSymbol | moveElement | extractMethod | extractVariable | inlineElement
  | changeSignature | safeDelete | findUsages => rfl

/-- The lines and columns of arguments that are accepted are counted from 1. -/
theorem exists_get?_of_mem_coordinateNames (accepted : t.accept members = .ok a) {name : String}
    (mem : name ∈ t.coordinateNames) :
    ∃ n : Nat, 1 ≤ n ∧ n ≤ 4294967295 ∧
      Members.get? name members = some (.number (.integer n)) := by
  obtain ⟨read, no_zero⟩ := accept_eq_ok_iff.1 accepted
  have value : Members.get? name members ∈ t.coordinateNames.map (Members.get? · members) :=
    List.mem_map.2 ⟨name, mem, rfl⟩
  rw [get?_coordinateNames read] at value
  obtain ⟨n, -, value⟩ := List.mem_map.1 value
  -- a zero would have been found among the places of the arguments
  have positive : n.toNat ≠ 0 := by
    intro zero
    rw [zero] at value
    have found := (namesZero_iff read).1 ⟨name, mem, value.symm⟩
    rw [no_zero] at found
    cases found
  have small := n.toNat_lt
  exact ⟨n.toNat, by omega, by omega, value.symm⟩

/-- The request of a tool call that is accepted. -/
theorem sending?_of_accept_of_usable (accepted : t.accept members = .ok a)
    (usable : config.Usable t.endpoint) :
    ∃ url request, Url.read (config.endpoint t.endpoint.path) = some url ∧
      ToolCall.sending? ⟨t.name, members⟩ config = some (url, request) ∧
      request.method = t.endpoint.method ∧ request.target = url.target ∧
      request.body = t.endpoint.body (t.request a) := by
  obtain ⟨url, found⟩ := Option.isSome_iff_exists.1 usable
  refine ⟨url, Client.requestFor (Client.new config).acquire.1 url t.endpoint (t.request a), found,
    ?_, rfl, rfl, rfl⟩
  rw [sending?_of_accept rfl accepted, Client.sending?,
    show (Client.new config).config = config from rfl, found]
  rfl

end Requests

/-- **What a tool call passes on.**  Let a tool take arguments, accept these, and find a usable URL.
Then it sends one request: a `POST` below the base URL, whose body is read as an object.  If the
base URL names a server and has no fragment, the tool's fixed path stands behind all that the base
URL has of a path or a query, and it is part of the path just if there is no query; if there is a
fragment, the request goes to the base URL itself.  The object is what the published schema passes
on of the arguments.  Each described member is there under its name in the language of the bridge as
it was given, or as its default says if it was not; nothing else is there, and null is nowhere.
What a change of signature may leave unchanged is there just if it is given and not null; its
parameters are sent in their order, each with what is given of it and not null.  Lines and columns
are those that were given, from 1 to the largest number of 32 bits. -/
theorem answer_toolCall_passes (config : Config) (t : Tool) (members : List (String × Json))
    (a : t.Arguments) (x : Exchange) (takes : t.takesArguments = true)
    (accepted : t.accept members = .ok a) (usable : config.Usable t.endpoint) :
    let server : Server := ⟨config⟩
    let params := toolCallParameters t.name (some members)
    ∃ url request sent,
      server.sending? "tools/call" params = some (url, request) ∧
      (server.answer "tools/call" params x).requests =
        (if x.reachesServer then [request] else []) ∧
      Url.read (config.endpoint t.fixedPath) = some url ∧
      request.method = .post ∧ request.target = url.target ∧
      (∀ base, config.base? = some base → url.LiesBelow config.baseUrl base t.fixedPath) ∧
      Json.read request.body = .ok (.object sent) ∧
      t.schema.passedOn (.object members) = .object sent ∧
      (∀ p ∈ t.schema.properties,
        Members.get? (wireName p.1) sent = p.2.2.sent? (Members.get? p.1 members)) ∧
      (∀ m ∈ sent, ∃ p ∈ t.schema.properties, m.1 = wireName p.1) ∧
      (t = .changeSignature → ∀ name ∈ keepNames,
        ((Members.get? (wireName name) sent).isSome ↔
          ∃ value, Members.get? name members = some value ∧ value ≠ .null)) ∧
      (t = .changeSignature → ∀ items, Members.get? "parameters" members = some (.array items) →
        Members.get? "parameters" sent = some (.array (items.map parameterSchema.passedOn)) ∧
          ∀ item ∈ items, StandsForParameter item (parameterSchema.passedOn item)) ∧
      ¬ OccursIn .null (.object sent) ∧
      ∀ name ∈ t.coordinateNames, ∃ n : Nat, 1 ≤ n ∧ n ≤ 4294967295 ∧
        Members.get? name members = some (.number (.integer n)) ∧
        Members.get? (wireName name) sent = some (.number (.integer n)) := by
  obtain ⟨read, -⟩ := accept_eq_ok_iff.1 accepted
  obtain ⟨s, posted, passed⟩ := exists_value_encode_request takes read
  obtain ⟨url, request, found, sending, method, target, body⟩ :=
    sending?_of_accept_of_usable accepted usable
  have described : ∀ p ∈ t.schema.properties, Members.get? (wireName p.1)
      (Members.sorted (Schema.membersPassedOn t.schema.properties members)) =
        p.2.2.sent? (Members.get? p.1 members) :=
    fun p mem => get?_membersPassedOn (nodup_wireNames t) mem
  rw [passedOn_arguments] at passed
  refine ⟨url, request, Members.sorted (Schema.membersPassedOn t.schema.properties members), ?_, ?_,
    t.path_endpoint ▸ found, ?_, target, ?_, ?_, passedOn_arguments t members, described, ?_, ?_,
    ?_, ?_, ?_⟩
  · rw [sending?_toolCallParameters]
    exact sending
  · rw [answer_toolCallParameters]
    obtain ⟨-, requests⟩ : _ ∧ ((Server.mk config).callTool ⟨t.name, members⟩ x).requests = _ :=
      requests_of_accept rfl accepted
    rw [sending] at requests
    exact requests
  · exact method.trans (method_endpoint takes)
  · intro base named
    obtain ⟨url', found', below⟩ := Config.exists_liesBelow named t.endpoint
    rw [found] at found'
    rw [Option.some.inj found', ← path_endpoint]
    exact below
  · -- the body is the text of a record, and this is read as what the record is written as
    have text : request.body = s.text (t.request a) := by
      rw [body, Endpoint.body, posted]
    rw [text, Shape.read_text (Endpoint.faithful_request posted) (by decide), passed]
  · intro m mem
    exact exists_property_of_mem (Members.mem_of_mem_sorted mem)
  · rintro rfl name mem
    obtain ⟨p, property, rfl, no_default⟩ := exists_property_of_mem_keepNames mem
    rw [described p property]
    exact Schema.sent?_isSome_iff no_default
  · rintro rfl items given
    have listed : property "parameters" (.list parameterSchema) "New parameter list" ∈
        (schema .changeSignature).properties := by
      simp [schema, Schema.properties]
    have sent := described _ listed
    rw [show (property "parameters" (.list parameterSchema) "New parameter list").1 = "parameters"
      from rfl, given] at sent
    exact ⟨sent, fun item _ => standsForParameter_passedOn item⟩
  · have free := Endpoint.nullFree_request posted (t.request a)
    rwa [show s.codec.encode (t.request a) = s.encode (t.request a) from rfl, passed] at free
  · intro name mem
    obtain ⟨n, positive, small, value⟩ := exists_get?_of_mem_coordinateNames accepted mem
    obtain ⟨p, property, rfl, schema⟩ := exists_property_of_mem_coordinateNames mem
    refine ⟨n, positive, small, value, ?_⟩
    rw [described p property, value, schema]
    rfl

/-- The arguments of a change of signature that renames nothing, says nothing of the first parameter
but its name, and gives the second as a list. -/
def signatureArguments : List (String × Json) :=
  [("column", .number (.integer 5)), ("file_path", .string "app.py"),
   ("line", .number (.integer 3)), ("new_name", .null),
   ("parameters",
    .array
      [.object [("name", .string "b"), ("type", .null)], .array [.string "a", .string "int"]]),
   ("project_path", .string "/work"), ("unknown", .bool true)]

theorem accept_signatureArguments : accept .changeSignature signatureArguments =
    .ok ⟨"/work", "app.py", 3, 5, none, some [⟨"b", none, none⟩, ⟨"a", some "int", none⟩], none,
      false⟩ :=
  rfl

theorem changeSignature_passes :
    ∃ url request,
      Server.sending? ⟨⟨"http://localhost:9876/api", none, Config.defaultTimeout⟩⟩ "tools/call"
        (toolCallParameters "pycharm_change_signature" (some signatureArguments)) =
          some (url, request) ∧
      request.method = .post ∧ request.target = "/api/refactor/change-signature" ∧
      Json.read request.body = .ok (.object
        [("column", .number (.integer 5)), ("file", .string "app.py"),
         ("line", .number (.integer 3)),
         ("parameters",
          .array
            [.object [("name", .string "b")],
             .object [("name", .string "a"), ("type", .string "int")]]),
         ("preview", .bool false), ("project", .string "/work")]) := by
  let config : Config := ⟨"http://localhost:9876/api", none, Config.defaultTimeout⟩
  have named : config.base? =
      some ⟨false, none, .name "localhost", 9876, ["api", ""], none⟩ := by
    decide +kernel
  obtain ⟨url, request, sent, sending, -, -, post, target, below, body, passed, -⟩ :=
    answer_toolCall_passes config .changeSignature signatureArguments _ (.refused "") rfl
      accept_signatureArguments (by decide +kernel)
  refine ⟨url, request, sending, post, ?_, ?_⟩
  · -- the base URL alone ends in a slash, and the path comes in its place
    obtain ⟨front, base_target, url_target⟩ := (below _ named).follows (by decide +kernel)
    have alone : front ++ "/" = "/api" ++ "/" := base_target.symm.trans (by decide +kernel)
    rw [target, url_target, (String.append_left_inj "/").1 alone]
    rfl
  · rw [body, ← passed]
    rfl

/-- A fragment of the base URL takes in the path of the tool: the arguments are sent to the top. -/
theorem fragment_loses_path :
    let config : Config := ⟨"http://localhost:9876/#", none, Config.defaultTimeout⟩
    (∃ a, accept .changeSignature signatureArguments = .ok a) ∧
      config.Usable (endpoint .changeSignature) ∧
      ∃ url request,
        Server.sending? ⟨config⟩ "tools/call"
          (toolCallParameters "pycharm_change_signature" (some signatureArguments)) =
            some (url, request) ∧
        request.method = .post ∧ request.target = "/" ∧
        ¬ "/refactor/change-signature".toList <:+: request.target.toList := by
  intro config
  have usable : config.Usable (endpoint .changeSignature) := by decide +kernel
  obtain ⟨url, request, found, sending, method, target, -⟩ :=
    sending?_of_accept_of_usable accept_signatureArguments usable
  have read : Url.read (config.endpoint (endpoint .changeSignature).path) =
      some ⟨false, none, .name "localhost", 9876, [""], none⟩ := by
    decide +kernel
  have top : request.target = "/" := by
    rw [target, Option.some.inj (found.symm.trans read)]
    rfl
  refine ⟨⟨_, accept_signatureArguments⟩, usable, url, request, ?_, method, top, ?_⟩
  · rw [sending?_toolCallParameters]
    exact sending
  · rw [top]
    decide

end RefactorGateway.Tool
