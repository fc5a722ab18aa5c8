import RefactorGateway.Bridge.Endpoint
import RefactorGateway.Proofs.Wire.RoundTrip
/-!
# Records without null

A record whose members are left out where there is no value is written without null, at any depth.

## Main Definitions

* `Json.OccursIn`: a value is another one or a part of it, at any depth
* `Codec.NullFree`, `Fields.NullFree`: null does not occur in what is written

## Main Statements

* `Shape.nullFree_codec`: a record is written without null if each of its fields is
* `Endpoint.nullFree_request`: no request to the bridge holds null
-/

namespace RefactorGateway

/-- A value is another one, or occurs in an item or in a member of it. -/
inductive Json.OccursIn (part : Json) : Json → Prop
  | whole : OccursIn part part
  | item {items : List Json} {j : Json} (mem : j ∈ items) (inside : OccursIn part j) :
    OccursIn part (.array items)
  | member {members : List (String × Json)} {m : String × Json} (mem : m ∈ members)
    (inside : OccursIn part m.2) : OccursIn part (.object members)

namespace Wire

open Json (OccursIn)

theorem null_occursIn_array_iff {items : List Json} :
    OccursIn .null (.array items) ↔ ∃ j ∈ items, OccursIn .null j := by
  constructor
  · intro occurs
    cases occurs with
    | item mem inside => exact ⟨_, mem, inside⟩
  · rintro ⟨j, mem, inside⟩
    exact .item mem inside

theorem null_occursIn_object_iff {members : List (String × Json)} :
    OccursIn .null (.object members) ↔ ∃ m ∈ members, OccursIn .null m.2 := by
  constructor
  · intro occurs
    cases occurs with
    | member mem inside => exact ⟨_, mem, inside⟩
  · rintro ⟨m, mem, inside⟩
    exact .member mem inside

/-! ### Codecs -/

namespace Codec

variable {α : Type} {c : Codec α}

/-- Null does not occur in what is written. -/
def NullFree (c : Codec α) : Prop := ∀ a, ¬ OccursIn .null (c.encode a).value

@[simp] theorem nullFree_text : text.NullFree := fun _ => nofun

@[simp] theorem nullFree_flag : flag.NullFree := fun _ => nofun

@[simp] theorem nullFree_count : count.NullFree := fun _ => nofun

@[simp] theorem nullFree_list (free : c.NullFree) : (list c).NullFree := by
  intro values occurs
  rw [list, Json.Document.value, Json.Document.values_eq_map, null_occursIn_array_iff] at occurs
  obtain ⟨j, mem, inside⟩ := occurs
  obtain ⟨d, written, rfl⟩ := List.mem_map.1 mem
  obtain ⟨a, -, rfl⟩ := List.mem_map.1 written
  exact free a inside

end Codec

/-! ### Fields -/

namespace Field

variable {α : Type} {c : Codec α} {name : String}

/-- Null does not occur in what is written of the values that are not left out. -/
def NullFree (f : Field α) : Prop :=
  ∀ a, ¬ f.omitted a = true → ¬ OccursIn .null (f.codec.encode a).value

@[simp] theorem nullFree_required (free : c.NullFree) : (required name c).NullFree :=
  fun a _ => free a

@[simp] theorem nullFree_optional (free : c.NullFree) : (optional name c).NullFree := by
  intro a kept
  cases a with
  | none => exact absurd rfl kept
  | some a => exact free a

end Field

/-- Each field is written without null. -/
def Fields.NullFree : {β : Type} → Fields β → Prop
  | _, .nil => True
  | _, .cons f fs => f.NullFree ∧ fs.NullFree

theorem Fields.nullFree_written {β : Type} {fs : Fields β} (free : fs.NullFree) {parts : β}
    {m : String × Json} (mem : m ∈ fs.written parts) : ¬ OccursIn .null m.2 := by
  induction fs with
  | nil => cases mem
  | cons f fs ih =>
    obtain ⟨value, rest⟩ := parts
    rcases List.mem_append.1 mem with head | tail
    · rw [Field.written] at head
      split at head
      · cases head
      · next kept =>
        rw [List.mem_singleton.1 head]
        exact free.1 value kept
    · exact ih free.2 tail

/-- A record is written without null if each of its fields is. -/
theorem Shape.nullFree_codec {ρ : Type} {s : Shape ρ} (free : s.fields.NullFree) :
    s.codec.NullFree := by
  intro r occurs
  rw [show s.codec.encode r = s.encode r from rfl, value_encode, null_occursIn_object_iff] at occurs
  obtain ⟨m, mem, inside⟩ := occurs
  exact Fields.nullFree_written free (Json.Members.mem_of_mem_sorted mem) inside

end Wire

open Wire

/-- No request holds null: what has no value is left out. -/
theorem Bridge.Endpoint.nullFree_request {e : Endpoint} {s : Shape e.Request}
    (posted : e.request? = some s) : s.codec.NullFree := by
  have parameters : (Codec.list ParameterInfo.shape.codec).NullFree :=
    Codec.nullFree_list <| Shape.nullFree_codec <| by simp [ParameterInfo.shape, Fields.NullFree]
  cases e with
  | health => cases posted
  | projects => cases posted
  | rename =>
    cases posted
    exact Shape.nullFree_codec (by simp [RenameRequest.shape, Fields.NullFree])
  | move =>
    cases posted
    exact Shape.nullFree_codec (by simp [MoveRequest.shape, Fields.NullFree])
  | extractMethod =>
    cases posted
    exact Shape.nullFree_codec (by simp [ExtractMethodRequest.shape, Fields.NullFree])
  | extractVariable =>
    cases posted
    exact Shape.nullFree_codec (by simp [ExtractVariableRequest.shape, Fields.NullFree])
  | inline =>
    cases posted
    exact Shape.nullFree_codec (by simp [InlineRequest.shape, Fields.NullFree])
  | changeSignature =>
    cases posted
    exact Shape.nullFree_codec (by simp [ChangeSignatureRequest.shape, Fields.NullFree, parameters])
  | safeDelete =>
    cases posted
    exact Shape.nullFree_codec (by simp [SafeDeleteRequest.shape, Fields.NullFree])
  | findUsages =>
    cases posted
    exact Shape.nullFree_codec (by simp [FindUsagesRequest.shape, Fields.NullFree])

end RefactorGateway
