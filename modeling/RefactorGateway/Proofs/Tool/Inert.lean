import RefactorGateway.Proofs.Tool.Agreement
/-!
# Arguments that change nothing

A caller need not say what a tool takes for granted, and may say what it does not ask for.  To add
the published default of a member that is missing, or a member that the schema does not declare,
changes nothing about a tool call, whether it is answered or fails.

## Main Definitions

* `Json.Presets`: a schema declares a member with a default
* `Json.Supplements`: members to which only defaults and members without meaning were added

## Main Statements

* `Shape.checkAll_filter`: members that are let through need not be looked at
* `AgreesAll.gather_eq`: defaults that are spelled out do not change what is found of the fields
* `answer_supplemented`: what this means for tool calls

## Design Notes

The order in which a record is read matters here.  The members are checked in the order of their
names, and those that were added stand between the others; then the fields are looked up in the
order of the record, and the first that is missing is the one that was missing before.
-/

namespace RefactorGateway

open Bridge Wire Http
open Json (Valid Requires Declares)
open Json.Members (get? get?_eq_none_iff get?_eq_some_iff mem_of_get?_eq_some Ordered)

/-! ### Members that are added -/

namespace Json

/-- A schema declares a member, and a value that it has if it is missing. -/
def Presets (schema : List (String × Json)) (name : String) (value : Json) : Prop :=
  ∃ sub, Declares schema name sub ∧ get? "default" sub = some value

/-- All members are kept.  A member that is added was missing, and it has its default as a value or
is not declared at all. -/
structure Supplements (schema members more : List (String × Json)) : Prop where
  kept : ∀ m ∈ members, m ∈ more
  added : ∀ m ∈ more, m ∈ members ∨
    (∀ m' ∈ members, m'.1 ≠ m.1) ∧ (Presets schema m.1 m.2 ∨ ∀ sub, ¬ Declares schema m.1 sub)

theorem Declares.unique {schema sub sub' : List (String × Json)} {name : String}
    (declares : Declares schema name sub) (declares' : Declares schema name sub') : sub = sub' := by
  obtain ⟨described, published, found⟩ := declares
  obtain ⟨_, published', found'⟩ := declares'
  rw [published] at published'
  cases published'
  rw [found] at found'
  cases found'
  rfl

variable {schema members more : List (String × Json)}

/-- Of the members that there are now, those that were there before are known by their names. -/
theorem Supplements.eq_filter (supplements : Supplements schema members more)
    (ordered : Ordered members) (ordered' : Ordered more) :
    members = more.filter fun m => (get? m.1 members).isSome := by
  refine Members.eq_of_mem_iff ordered (ordered'.filter _) fun m => ?_
  rw [List.mem_filter]
  constructor
  · intro mem
    refine ⟨supplements.kept m mem, ?_⟩
    rw [(get?_eq_some_iff ordered.nodup).2 mem]
    rfl
  · rintro ⟨mem, named⟩
    rcases supplements.added m mem with old | ⟨missing, -⟩
    · exact old
    · rw [get?_eq_none_iff.2 missing] at named
      cases named

end Json

open Json (Supplements)

/-! ### Records -/

section Records

variable {ρ β : Type} {s : Shape ρ} {fs : Fields β} {members more : List (String × Json)}

/-- Members that are let through do not change which one is the first that is not. -/
theorem Wire.Shape.checkAll_filter {p : String × Json → Bool}
    (fits : ∀ m ∈ more, ¬ p m = true → s.check m.1 m.2 = .ok ()) :
    s.checkAll (more.filter p) = s.checkAll more := by
  induction more with
  | nil => rfl
  | cons m rest ih =>
    have later := ih fun m mem => fits m (List.mem_cons_of_mem _ mem)
    obtain ⟨name, value⟩ := m
    by_cases selected : p (name, value) = true
    · rw [List.filter_cons_of_pos selected, Shape.checkAll, Shape.checkAll, later]
    · rw [List.filter_cons_of_neg selected, later, Shape.checkAll,
        fits (name, value) List.mem_cons_self selected]
      rfl

/-- Defaults that are spelled out do not change what is found of the fields. -/
theorem Tool.AgreesAll.gather_eq {required : List String} {ps : List Tool.Property}
    (agrees : Tool.AgreesAll required ps fs)
    (same : ∀ p ∈ ps, get? p.1 more = get? p.1 members ∨
      get? p.1 members = none ∧ ∃ value, get? p.1 more = some value ∧ p.2.2.absent? = some value) :
    fs.gather more = fs.gather members := by
  induction agrees with
  | nil => rfl
  | @cons _ _ p f _ _ head tail ih =>
    have first : f.gather more = f.gather members := by
      rcases same p List.mem_cons_self with equal | ⟨missing, value, found, default⟩
      · rw [Field.gather, Field.gather, head.named, equal]
      · obtain ⟨a, read, absent⟩ := head.default value default
        rw [← head.named] at missing found
        have with_default : f.gather more = .ok a :=
          Field.gather_eq_ok_iff.2 (.inl ⟨value, found, read⟩)
        have without_it : f.gather members = .ok a :=
          Field.gather_eq_ok_iff.2 (.inr ⟨missing, absent⟩)
        rw [with_default, without_it]
    rw [Fields.gather, Fields.gather, first, ih fun p mem => same p (List.mem_cons_of_mem _ mem)]

end Records

/-! ### Tools -/

namespace Tool

variable {t : Tool} {members more : List (String × Json)}

theorem declares_of_mem {p : Property} (declared : p ∈ t.schema.properties) :
    Declares (t.schema.entry none) p.1 (p.2.2.entry p.2.1) :=
  declares_schema_iff.2 ⟨p, declared, rfl, rfl⟩

/-- A member that was added has the default of its property, if it has one. -/
theorem absent?_of_supplements (supplements : Supplements (t.schema.entry none) members more)
    {m : String × Json} (mem : m ∈ more) (missing : ∀ m' ∈ members, m'.1 ≠ m.1) {p : Property}
    (declared : p ∈ t.schema.properties) (named : p.1 = m.1) : p.2.2.absent? = some m.2 := by
  have declares := declares_of_mem declared
  rw [named] at declares
  rcases supplements.added m mem with old | ⟨-, ⟨sub, declares', default⟩ | undeclared⟩
  · exact absurd rfl (missing m old)
  · cases declares.unique declares'
    rwa [Schema.get?_default_entry] at default
  · exact absurd declares (undeclared _)

/-- A supplement does not change what is read of the arguments, nor why they cannot be read. -/
theorem decodeMembers_eq_of_supplements
    (supplements : Supplements (t.schema.entry none) members more) (ordered : Ordered members)
    (ordered' : Ordered more) : t.shape.decodeMembers more = t.shape.decodeMembers members := by
  have checked : t.shape.checkAll more = t.shape.checkAll members := by
    rw [supplements.eq_filter ordered ordered']
    refine (Shape.checkAll_filter fun m mem unnamed => ?_).symm
    have missing : ∀ m' ∈ members, m'.1 ≠ m.1 := by
      rw [← get?_eq_none_iff]
      simpa using unnamed
    refine t.agrees.check_eq_ok (fun p declared named => ?_) fun strict =>
      absurd strict t.not_strict
    exact Schema.fits_absent? (absent?_of_supplements supplements mem missing declared named)
  have gathered : t.shape.fields.gather more = t.shape.fields.gather members := by
    refine t.agrees.gather_eq fun p declared => ?_
    cases found : get? p.1 more with
    | none =>
      have missing : ∀ m ∈ members, m.1 ≠ p.1 := fun m mem =>
        get?_eq_none_iff.1 found m (supplements.kept m mem)
      exact .inl (get?_eq_none_iff.2 missing).symm
    | some value =>
      have mem := mem_of_get?_eq_some found
      cases before : get? p.1 members with
      | none =>
        have missing := get?_eq_none_iff.1 before
        exact .inr ⟨rfl, value, rfl,
          absent?_of_supplements supplements mem missing declared rfl⟩
      | some value' =>
        have mem' := supplements.kept _ (mem_of_get?_eq_some before)
        rw [(get?_eq_some_iff ordered'.nodup).2 mem'] at found
        exact .inl found.symm
  rw [Shape.decodeMembers, Shape.decodeMembers, checked, gathered]

theorem accept_eq_of_supplements (supplements : Supplements (t.schema.entry none) members more)
    (ordered : Ordered members) (ordered' : Ordered more) : t.accept more = t.accept members := by
  by_cases takes : t.takesArguments = true
  · have read : t.readArguments more = t.readArguments members := by
      rw [readArguments, readArguments, if_pos takes, if_pos takes,
        decodeMembers_eq_of_supplements supplements ordered ordered']
    rw [accept, accept, read]
  · exact accept_eq_of_not_takesArguments takes more members

end Tool

/-! ### Tool calls -/

/-- A tool is called in the same way whenever it accepts the same or refuses for the same reason. -/
theorem callTool_congr {config : Config} {t : Tool} {members more : List (String × Json)}
    (same : t.accept more = t.accept members) (x : Exchange) :
    (Server.mk config).callTool ⟨t.name, more⟩ x = (Server.mk config).callTool ⟨t.name, members⟩ x ∧
      ToolCall.sending? ⟨t.name, more⟩ config = ToolCall.sending? ⟨t.name, members⟩ config := by
  have found := Tool.ofName?_eq_some_iff.2 (rfl : t.name = t.name)
  simp only [Server.callTool, ToolCall.answer, ToolCall.sending?, found, same, and_self]

/-- **Defaults and members without meaning change nothing.**  If arguments are supplemented by
published defaults of members that were missing, and by members that the schema does not declare, a
call of the tool sends the same and leads to the same outcome, whether the tool accepts the
arguments or not. -/
theorem answer_supplemented (config : Config) (t : Tool)
    {schema members more : List (String × Json)} (published : t.Publishes schema)
    (ordered : Ordered members) (ordered' : Ordered more)
    (supplements : Supplements schema members more) (x : Exchange) :
    let server : Server := ⟨config⟩
    let params := toolCallParameters t.name (some members)
    let params' := toolCallParameters t.name (some more)
    server.answer "tools/call" params' x = server.answer "tools/call" params x ∧
      server.sending? "tools/call" params' = server.sending? "tools/call" params := by
  simp only [answer_toolCallParameters, sending?_toolCallParameters]
  cases Tool.publishes_iff.1 published
  exact callTool_congr (Tool.accept_eq_of_supplements supplements ordered ordered') x

/-- The arguments of a deletion that do not say which project they are about. -/
def deletionArguments : List (String × Json) :=
  [("column", .number (.integer 1)), ("file_path", .string "app.py"),
   ("line", .number (.integer 7))]

/-- The same with the default that they leave out, and with a member that means nothing. -/
def supplementedArguments : List (String × Json) :=
  [("column", .number (.integer 1)), ("dry_run", .null), ("file_path", .string "app.py"),
   ("line", .number (.integer 7)), ("search_for_usages", .bool true)]

theorem supplements_deletionArguments :
    Supplements ((Tool.schema .safeDelete).entry none) deletionArguments supplementedArguments := by
  have preset : Json.Presets ((Tool.schema .safeDelete).entry none) "search_for_usages"
      (.bool true) := by
    let p := Tool.property "search_for_usages" (.flag true) "Check for usages before deleting"
    have declared : p ∈ (Tool.schema .safeDelete).properties := by
      simp [Tool.schema, Tool.Schema.properties, p]
    exact ⟨_, Tool.declares_of_mem declared, Tool.Schema.get?_default_entry _ _⟩
  have unknown : ∀ sub, ¬ Declares ((Tool.schema .safeDelete).entry none) "dry_run" sub := by
    intro sub declares
    obtain ⟨p, declared, named, -⟩ := Tool.declares_schema_iff.1 declares
    have undeclared : "dry_run" ∉ (Tool.schema .safeDelete).properties.map (·.1) := by decide
    exact undeclared (List.mem_map.2 ⟨p, declared, named⟩)
  constructor
  · simp [deletionArguments, supplementedArguments]
  · intro m mem
    simp [supplementedArguments] at mem
    rcases mem with rfl | rfl | rfl | rfl | rfl
    · exact .inl (by simp [deletionArguments])
    · exact .inr ⟨by decide, .inr unknown⟩
    · exact .inl (by simp [deletionArguments])
    · exact .inl (by simp [deletionArguments])
    · exact .inr ⟨by decide, .inl preset⟩

theorem safeDelete_supplemented :
    let server : Server := ⟨⟨Config.defaultBaseUrl, none, Config.defaultTimeout⟩⟩
    let answer members := server.answer "tools/call"
      (toolCallParameters (Tool.name .safeDelete) (some members)) (.refused "")
    Supplements ((Tool.schema .safeDelete).entry none) deletionArguments supplementedArguments ∧
      answer supplementedArguments = answer deletionArguments ∧
      answer deletionArguments =
        ⟨[], .error ⟨-32602, "missing field `project_path`", none⟩, []⟩ := by
  intro server answer
  have published : Tool.Publishes .safeDelete ((Tool.schema .safeDelete).entry none) :=
    Tool.publishes_iff.2 rfl
  have ordered : Ordered deletionArguments := by
    unfold Ordered
    decide
  have ordered' : Ordered supplementedArguments := by
    unfold Ordered
    decide
  obtain ⟨same, -⟩ := answer_supplemented server.config .safeDelete published ordered ordered'
    supplements_deletionArguments (.refused "")
  exact ⟨supplements_deletionArguments, same, rfl⟩

end RefactorGateway
