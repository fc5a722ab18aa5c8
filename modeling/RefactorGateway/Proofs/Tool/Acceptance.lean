import RefactorGateway.Proofs.Wire.Reading
import RefactorGateway.Tool.Call
/-!
# Which tool calls are accepted

A tool is found by its name alone, and it accepts all arguments that can be read and that name no
line and no column of zero.

## Main Definitions

* `Tool.coordinateNames`: the members of the arguments that are lines and columns
* `Tool.Refuses`: a tool takes arguments and cannot take these

## Main Statements

* `Tool.ofName?_eq_some_iff`: a tool is found by its name and by no other
* `Tool.get?_coordinateNames`: the places that are checked are those that the arguments name
* `Tool.accept_of_not_refuses`, `Tool.accept_of_refuses`: the tool accepts what it does not refuse

## Design Notes

`Tool.Refuses` is said of the members of the arguments, by name, and not of what was read of them.
So a tool that checked one place twice, or another number in place of a column, would not meet it.
-/

namespace RefactorGateway.Tool

open Wire

/-! ### Names -/

theorem name_injective {t t' : Tool} (same : t.name = t'.name) : t = t' := by
  have distinct : ∀ t ∈ all, ∀ t' ∈ all, t.name = t'.name → t = t' := by decide
  exact distinct t (mem_all t) t' (mem_all t') same

theorem ofName?_eq_none_iff {name : String} : ofName? name = none ↔ ∀ t : Tool, t.name ≠ name := by
  rw [ofName?, List.find?_eq_none]
  constructor
  · intro unknown t same
    exact unknown t (mem_all t) (by simp [same])
  · intro unknown t _ same
    exact unknown t (by simpa using same)

/-- A tool is found by its name and by no other. -/
theorem ofName?_eq_some_iff {name : String} {t : Tool} : ofName? name = some t ↔ t.name = name := by
  constructor
  · intro found
    simpa using List.find?_some found
  · rintro rfl
    cases found : ofName? t.name with
    | none => exact absurd rfl (ofName?_eq_none_iff.1 found t)
    | some t' =>
      have same : t'.name = t.name := by simpa using List.find?_some found
      rw [name_injective same]

/-! ### Lines and columns -/

/-- The members of the arguments that are lines and columns. -/
def coordinateNames : Tool → List String
  | .listProjects | .bridgeStatus => []
  | .extractMethod | .extractVariable => ["start_line", "start_column", "end_line", "end_column"]
  | _ => ["line", "column"]

/-- The lines and columns of the places that are checked. -/
def coordinates (t : Tool) (a : t.Arguments) : List UInt32 :=
  (t.positions a).flatMap fun p => [p.line, p.column]

/-- A member of the arguments that is a line or a column is zero. -/
def NamesZero (t : Tool) (members : List (String × Json)) : Prop :=
  ∃ name ∈ t.coordinateNames, Json.Members.get? name members = some (.number (.integer 0))

/-- The numbers that are checked are the members of the arguments, each in its place. -/
theorem get?_coordinateNames {t : Tool} {members : List (String × Json)} {a : t.Arguments}
    (read : t.readArguments members = .ok a) :
    t.coordinateNames.map (Json.Members.get? · members) =
      (t.coordinates a).map fun n => some (.number (.integer n.toNat)) := by
  have gathered := (Shape.decodeMembers_eq_ok_iff.1 read).2
  cases t with
  | listProjects => rfl
  | bridgeStatus => rfl
  | renameSymbol =>
    simp [takesArguments, shape, RenameArguments.shape] at gathered
    simp [coordinateNames, coordinates, positions, RenameArguments.positions, gathered]
  | moveElement =>
    simp [takesArguments, shape, MoveArguments.shape] at gathered
    simp [coordinateNames, coordinates, positions, MoveArguments.positions, gathered]
  | extractMethod =>
    simp [takesArguments, shape, ExtractMethodArguments.shape] at gathered
    simp [coordinateNames, coordinates, positions, ExtractMethodArguments.positions, gathered]
  | extractVariable =>
    simp [takesArguments, shape, ExtractVariableArguments.shape] at gathered
    simp [coordinateNames, coordinates, positions, ExtractVariableArguments.positions, gathered]
  | inlineElement =>
    simp [takesArguments, shape, InlineArguments.shape] at gathered
    simp [coordinateNames, coordinates, positions, InlineArguments.positions, gathered]
  | changeSignature =>
    simp [takesArguments, shape, ChangeSignatureArguments.shape] at gathered
    simp [coordinateNames, coordinates, positions, ChangeSignatureArguments.positions, gathered]
  | safeDelete =>
    simp [takesArguments, shape, SafeDeleteArguments.shape] at gathered
    simp [coordinateNames, coordinates, positions, SafeDeleteArguments.positions, gathered]
  | findUsages =>
    simp [takesArguments, shape, FindUsagesArguments.shape] at gathered
    simp [coordinateNames, coordinates, positions, FindUsagesArguments.positions, gathered]

theorem zeroPosition?_isSome_iff {ps : List Position} :
    (zeroPosition? ps).isSome ↔ 0 ∈ ps.flatMap fun p => [p.line, p.column] := by
  have zero_iff (p : Position) :
      (p.line == 0 || p.column == 0) = true ↔ (0 : UInt32) ∈ [p.line, p.column] := by
    simp only [Bool.or_eq_true, beq_iff_eq, List.mem_cons, List.not_mem_nil, or_false]
    exact or_congr eq_comm eq_comm
  simp only [zeroPosition?, List.find?_isSome, zero_iff, List.mem_flatMap]

/-- A place is found to be zero just if a member of the arguments is. -/
theorem namesZero_iff {t : Tool} {members : List (String × Json)} {a : t.Arguments}
    (read : t.readArguments members = .ok a) :
    t.NamesZero members ↔ (zeroPosition? (t.positions a)).isSome := by
  have same := get?_coordinateNames read
  -- a count is zero just if the member that it was read of is
  have zero : (some (.number (.integer 0)) : Option Json) ∈
      t.coordinateNames.map (Json.Members.get? · members) ↔ 0 ∈ t.coordinates a := by
    rw [same, List.mem_map]
    constructor
    · rintro ⟨n, mem, value⟩
      have n_zero : n.toNat = 0 := by simpa using value
      rwa [show n = 0 from UInt32.toNat_inj.1 n_zero] at mem
    · exact fun mem => ⟨0, mem, rfl⟩
  rw [zeroPosition?_isSome_iff, ← coordinates, ← zero, List.mem_map]
  rfl

/-! ### Acceptance -/

/-- A tool takes arguments and cannot take these: they cannot be read, or they name a zero. -/
def Refuses (t : Tool) (members : List (String × Json)) : Prop :=
  t.takesArguments = true ∧
    ((∃ mismatch, t.shape.decode (.object members) = .error mismatch) ∨ t.NamesZero members)

theorem readArguments_of_takesArguments {t : Tool} (takes : t.takesArguments = true)
    (members : List (String × Json)) :
    t.readArguments members = t.shape.decode (.object members) := by
  rw [readArguments, if_pos takes]
  rfl

/-- A tool that takes no arguments finds nothing missing and nothing to check. -/
theorem exists_readArguments_of_not_takesArguments {t : Tool} (idle : ¬ t.takesArguments = true)
    (members : List (String × Json)) :
    ∃ a, t.readArguments members = .ok a ∧ zeroPosition? (t.positions a) = none := by
  cases t with
  | listProjects => exact ⟨⟨⟩, rfl, rfl⟩
  | bridgeStatus => exact ⟨⟨⟩, rfl, rfl⟩
  | renameSymbol | moveElement | extractMethod | extractVariable | inlineElement
  | changeSignature | safeDelete | findUsages => exact absurd rfl idle

theorem accept_eq_ok_iff {t : Tool} {members : List (String × Json)} {a : t.Arguments} :
    t.accept members = .ok a ↔
      t.readArguments members = .ok a ∧ zeroPosition? (t.positions a) = none := by
  cases read : t.readArguments members with
  | error m => simp [accept, read]
  | ok b =>
    cases zero : zeroPosition? (t.positions b) with
    | some p =>
      have refused : t.accept members = .error (.zeroPosition p) := by
        simp only [accept, read, zero]
      rw [refused]
      refine ⟨nofun, ?_⟩
      rintro ⟨same, none⟩
      rw [← Except.ok.inj same, zero] at none
      cases none
    | none =>
      have accepted : t.accept members = .ok b := by simp only [accept, read, zero]
      rw [accepted]
      constructor
      · rintro same
        cases same
        exact ⟨rfl, zero⟩
      · exact fun both => congrArg _ (Except.ok.inj both.1)

/-- A tool accepts what it does not refuse, as it was read. -/
theorem accept_of_not_refuses {t : Tool} {members : List (String × Json)}
    (acceptable : ¬ t.Refuses members) : ∃ a, t.accept members = .ok a := by
  by_cases takes : t.takesArguments = true
  · cases decoded : t.shape.decode (.object members) with
    | error m => exact absurd ⟨takes, .inl ⟨m, decoded⟩⟩ acceptable
    | ok a =>
      have read : t.readArguments members = .ok a := by
        rw [readArguments_of_takesArguments takes, decoded]
      cases zero : zeroPosition? (t.positions a) with
      | none => exact ⟨a, accept_eq_ok_iff.2 ⟨read, zero⟩⟩
      | some p =>
        have named := (namesZero_iff read).2 (by rw [zero]; rfl)
        exact absurd ⟨takes, .inr named⟩ acceptable
  · obtain ⟨a, read, zero⟩ := exists_readArguments_of_not_takesArguments takes members
    exact ⟨a, accept_eq_ok_iff.2 ⟨read, zero⟩⟩

/-- A tool that refuses arguments does so for what is wrong with them. -/
theorem accept_of_refuses {t : Tool} {members : List (String × Json)}
    (refuses : t.Refuses members) :
    ∃ refusal, t.accept members = .error refusal ∧ refusal.code = -32602 ∧ refusal.data = none := by
  obtain ⟨takes, reason⟩ := refuses
  cases read : t.readArguments members with
  | error m =>
    exact ⟨.invalidArguments m, by simp only [accept, read], rfl, rfl⟩
  | ok a =>
    have zero : (zeroPosition? (t.positions a)).isSome := by
      rcases reason with ⟨m, refused⟩ | named
      · rw [readArguments_of_takesArguments takes, refused] at read
        cases read
      · exact (namesZero_iff read).1 named
    obtain ⟨p, found⟩ := Option.isSome_iff_exists.1 zero
    exact ⟨.zeroPosition p, by simp only [accept, read, found], rfl, rfl⟩

/-- A tool without arguments ignores what it is passed. -/
theorem accept_eq_of_not_takesArguments {t : Tool} (idle : ¬ t.takesArguments = true)
    (members members' : List (String × Json)) : t.accept members = t.accept members' := by
  simp only [accept, readArguments, if_neg idle]

end RefactorGateway.Tool
