import RefactorGateway.Proofs.Json.Members
import RefactorGateway.Proofs.Json.RoundTrip
import RefactorGateway.Wire.Record
/-!
# Records read back

A record is read back from what it is written as, and also from the text of that.  It suffices that
the names of its fields differ, that the codec of each field reads back what it writes, and that a
member is only left out where its absence means the same.

## Main Definitions

* `Codec.Faithful`: a codec reads back what it writes, and a text can hold what it writes
* `Field.Faithful`, `Shape.Faithful`: the same for the fields of a record and for the record

## Main Statements

* `Shape.decode_encode`: a faithful record is read back from its object
* `Shape.read_text`: the text of a faithful record is read as its object
* `Shape.faithful_codec`: records inside records are faithful too

## Design Notes

The reader of a record sees the members sorted by name, while the writer leaves them in the order of
the fields.  The two meet at what each name stands for, so the induction over the fields is about
any members that agree with the written ones on the names of the fields that are left.
-/

namespace RefactorGateway.Wire

open Json (Document)

/-! ### Codecs -/

namespace Codec

variable {α : Type} {c : Codec α} {levels : Nat}

/-- No value is written as null. -/
def NeverNull (c : Codec α) : Prop := ∀ a, (c.encode a).value ≠ .null

/-- What is written is read back, and a text can hold it with brackets nested `levels` deep. -/
structure Faithful (levels : Nat) (c : Codec α) : Prop where
  lawful : c.Lawful
  readable : ∀ a, (c.encode a).Readable levels

@[simp] theorem neverNull_text : text.NeverNull := fun _ => nofun

@[simp] theorem neverNull_list : (list c).NeverNull := fun _ => nofun

@[simp] theorem faithful_text : text.Faithful levels :=
  ⟨lawful_text, fun s => Document.readable_string levels s⟩

@[simp] theorem faithful_flag : flag.Faithful levels :=
  ⟨lawful_flag, fun b => Document.readable_bool levels b⟩

/-- A natural number of 64 bits is a finite numeral. -/
theorem isFinite_ofNat {n : Nat} (small : n < Json.wordLimit) :
    (Json.Numeral.ofNat n).isFinite = true := by
  rw [Json.Numeral.isFinite, Json.Numeral.number_ofNat n small]

@[simp] theorem faithful_count : count.Faithful levels := by
  refine ⟨lawful_count, fun n => (Document.readable_numeral levels _).2 (isFinite_ofNat ?_)⟩
  exact Nat.lt_trans n.toNat_lt (by decide)

theorem faithful_list (faithful : c.Faithful levels) : (list c).Faithful (levels + 1) := by
  refine ⟨lawful_list faithful.lawful, fun items => ?_⟩
  refine (Document.readable_array levels _).2 fun item mem => ?_
  obtain ⟨a, -, rfl⟩ := List.mem_map.1 mem
  exact faithful.readable a

theorem faithful_option (faithful : c.Faithful levels) (never : c.NeverNull) :
    (option c).Faithful levels := by
  constructor
  · intro a
    cases a with
    | none => rfl
    | some a =>
      have back := faithful.lawful a
      show (option c).decode (c.encode a).value = .ok (some a)
      simp only [option]
      split
      · next null => exact absurd null (never a)
      · rw [back]
        rfl
  · intro a
    cases a with
    | none => exact Document.readable_null levels
    | some a => exact faithful.readable a

end Codec

/-! ### Fields -/

namespace Field

variable {α : Type} {c : Codec α} {levels : Nat}

/-- A field reads back what it writes, and leaves out only what its absence means. -/
structure Faithful (levels : Nat) (f : Field α) : Prop where
  codec : f.codec.Faithful levels
  absent : ∀ a, f.omitted a = true → f.absent = some a

@[simp] theorem faithful_required {name : String} (faithful : c.Faithful levels) :
    (required name c).Faithful levels :=
  ⟨faithful, fun _ => nofun⟩

@[simp] theorem faithful_defaulted {name : String} {value : α} (faithful : c.Faithful levels) :
    (defaulted name c value).Faithful levels :=
  ⟨faithful, fun _ => nofun⟩

@[simp] theorem faithful_nullable {name : String} (faithful : c.Faithful levels)
    (never : c.NeverNull) : (nullable name c).Faithful levels :=
  ⟨Codec.faithful_option faithful never, fun _ => nofun⟩

@[simp] theorem faithful_optional {name : String} (faithful : c.Faithful levels)
    (never : c.NeverNull) : (optional name c).Faithful levels := by
  refine ⟨Codec.faithful_option faithful never, fun a omitted => ?_⟩
  cases a with
  | none => rfl
  | some a => cases omitted

/-- The member that a value of the field is written as, with what it stands for. -/
def written (f : Field α) (value : α) : List (String × Json) :=
  if f.omitted value then [] else [(f.name, (f.codec.encode value).value)]

end Field

namespace Fields

variable {β : Type} {levels : Nat}

/-- All fields read back what they write. -/
def Faithful (levels : Nat) : {β : Type} → Fields β → Prop
  | _, .nil => True
  | _, .cons f fs => f.Faithful levels ∧ fs.Faithful levels

/-- The members that the values of the fields are written as, with what they stand for. -/
def written : {β : Type} → Fields β → β → List (String × Json)
  | _, .nil, _ => []
  | _, .cons f fs, (value, rest) => f.written value ++ fs.written rest

theorem memberValues_encode (fs : Fields β) (parts : β) :
    Document.memberValues (fs.encode parts) = fs.written parts := by
  induction fs with
  | nil => rfl
  | cons f fs ih =>
    obtain ⟨value, rest⟩ := parts
    rw [encode, written, ← ih rest, Document.memberValues_eq_map, Document.memberValues_eq_map,
      List.map_append, Field.encode, Field.written]
    split <;> rfl

theorem name_mem_of_mem_written {fs : Fields β} {parts : β} {m : String × Json}
    (mem : m ∈ fs.written parts) : m.1 ∈ fs.names := by
  induction fs with
  | nil => cases mem
  | cons f fs ih =>
    obtain ⟨value, rest⟩ := parts
    rcases List.mem_append.1 mem with head | tail
    · rw [Field.written] at head
      split at head
      · cases head
      · rw [List.mem_singleton.1 head]
        exact List.mem_cons_self
    · exact List.mem_cons_of_mem _ (ih tail)

theorem get?_written_of_not_mem {fs : Fields β} {parts : β} {name : String}
    (other : name ∉ fs.names) : Json.Members.get? name (fs.written parts) = none :=
  Json.Members.get?_eq_none_iff.2 fun _ mem same => other (same ▸ name_mem_of_mem_written mem)

/-- The names of written members differ if those of the fields do. -/
theorem nodup_written {fs : Fields β} (distinct : fs.names.Nodup) (parts : β) :
    ((fs.written parts).map (·.1)).Nodup := by
  induction fs with
  | nil => exact List.nodup_nil
  | cons f fs ih =>
    obtain ⟨value, rest⟩ := parts
    obtain ⟨fresh, distinct⟩ := List.nodup_cons.1 distinct
    rw [written, Field.written]
    split
    · exact ih distinct rest
    · refine List.nodup_cons.2 ⟨fun mem => fresh ?_, ih distinct rest⟩
      obtain ⟨m, mem, same⟩ := List.mem_map.1 mem
      have named := name_mem_of_mem_written mem
      rwa [show m.1 = f.name from same] at named

/-- Each written member fits the field of its name. -/
theorem check_written {fs : Fields β} (faithful : fs.Faithful levels) (distinct : fs.names.Nodup)
    {parts : β} {m : String × Json} (mem : m ∈ fs.written parts) :
    fs.check m.1 m.2 = some (.ok ()) := by
  induction fs with
  | nil => cases mem
  | cons f fs ih =>
    obtain ⟨value, rest⟩ := parts
    obtain ⟨fresh, distinct⟩ := List.nodup_cons.1 distinct
    rcases List.mem_append.1 mem with head | tail
    · rw [Field.written] at head
      split at head
      · cases head
      · rw [List.mem_singleton.1 head, check, if_pos rfl, faithful.1.codec.lawful value]
        rfl
    · have later : f.name ≠ m.1 := fun same => fresh (same ▸ name_mem_of_mem_written tail)
      rw [check, if_neg later]
      exact ih faithful.2 distinct tail

/-- The values of the fields are found again in all members that agree with the written ones. -/
theorem gather_eq_ok {fs : Fields β} (faithful : fs.Faithful levels) (distinct : fs.names.Nodup)
    {parts : β} {members : List (String × Json)}
    (agree : ∀ name ∈ fs.names,
      Json.Members.get? name members = Json.Members.get? name (fs.written parts)) :
    fs.gather members = .ok parts := by
  induction fs with
  | nil => rfl
  | cons f fs ih =>
    obtain ⟨value, rest⟩ := parts
    obtain ⟨fresh, distinct⟩ := List.nodup_cons.1 distinct
    have head := agree f.name List.mem_cons_self
    have found : f.gather members = .ok value := by
      rw [written, Field.written] at head
      rw [Field.gather, head]
      by_cases omitted : f.omitted value
      · -- the member is left out, and what its absence means is the value
        rw [if_pos omitted, List.nil_append, get?_written_of_not_mem fresh]
        simp only [faithful.1.absent value omitted]
      · rw [if_neg omitted]
        simp only [List.cons_append, Json.Members.get?_cons, if_pos]
        exact faithful.1.codec.lawful value
    have others : fs.gather members = .ok rest := by
      refine ih faithful.2 distinct fun name mem => ?_
      rw [agree name (List.mem_cons_of_mem _ mem), written, Field.written]
      have differs : f.name ≠ name := fun same => fresh (same ▸ mem)
      split
      · rfl
      · exact Json.Members.get?_of_ne differs _
    simp only [gather, found, others, bind, Except.bind]
    rfl

theorem readable_encode {fs : Fields β} (faithful : fs.Faithful levels) (parts : β) :
    ∀ m ∈ fs.encode parts, m.2.Readable levels := by
  induction fs with
  | nil => nofun
  | cons f fs ih =>
    obtain ⟨value, rest⟩ := parts
    intro m mem
    rcases List.mem_append.1 mem with head | tail
    · rw [Field.encode] at head
      split at head
      · cases head
      · rw [List.mem_singleton.1 head]
        exact faithful.1.codec.readable value
    · exact ih faithful.2 rest m tail

end Fields

/-! ### Records -/

namespace Shape

variable {ρ : Type} {s : Shape ρ} {levels : Nat}

/-- The fields of a record have distinct names and read back what they write. -/
structure Faithful (levels : Nat) (s : Shape ρ) : Prop where
  distinct : s.fields.names.Nodup
  fields : s.fields.Faithful levels

/-- The members that a record is written as, with what they stand for. -/
def written (s : Shape ρ) (r : ρ) : List (String × Json) := s.fields.written (s.split r)

theorem value_encode (s : Shape ρ) (r : ρ) :
    (s.encode r).value = .object (Json.Members.sorted (s.written r)) := by
  rw [encode, Document.value, Fields.memberValues_encode]
  rfl

/-- What a name stands for in the object that a record is written as. -/
theorem get?_sorted_written (distinct : s.fields.names.Nodup) (r : ρ) (name : String) :
    Json.Members.get? name (Json.Members.sorted (s.written r)) =
      Json.Members.get? name (s.written r) :=
  Json.Members.get?_sorted (Fields.nodup_written distinct (s.split r)) name

theorem checkAll_eq_ok_iff {members : List (String × Json)} :
    s.checkAll members = .ok () ↔ ∀ m ∈ members, s.check m.1 m.2 = .ok () := by
  induction members with
  | nil => simp [checkAll]
  | cons m rest ih =>
    rw [List.forall_mem_cons, ← ih]
    cases first : s.check m.1 m.2 with
    | error problem => simp [checkAll, first, bind, Except.bind]
    | ok _ => simp [checkAll, first, bind, Except.bind]

/-- A record is read back from the members that it is written as. -/
theorem decodeMembers_written (faithful : s.Faithful levels) (r : ρ) :
    s.decodeMembers (Json.Members.sorted (s.written r)) = .ok r := by
  have checked : s.checkAll (Json.Members.sorted (s.written r)) = .ok () := by
    refine checkAll_eq_ok_iff.2 fun m mem => ?_
    have fits := Fields.check_written faithful.fields faithful.distinct
      (Json.Members.mem_of_mem_sorted mem)
    simp only [check, fits]
  have gathered : s.fields.gather (Json.Members.sorted (s.written r)) = .ok (s.split r) := by
    refine Fields.gather_eq_ok faithful.fields faithful.distinct fun name _ => ?_
    exact get?_sorted_written faithful.distinct r name
  simp only [decodeMembers, checked, gathered, bind, Except.bind, pure, Except.pure, s.build_split]

/-- A record is read back from the object that it is written as. -/
theorem decode_encode (faithful : s.Faithful levels) (r : ρ) :
    s.decode (s.encode r).value = .ok r := by
  rw [value_encode]
  exact decodeMembers_written faithful r

theorem readable_encode (faithful : s.Faithful levels) (r : ρ) :
    (s.encode r).Readable (levels + 1) :=
  Fields.readable_encode faithful.fields (s.split r)

/-- A faithful record can be a field of another record, one level of brackets further in. -/
theorem faithful_codec (faithful : s.Faithful levels) : s.codec.Faithful (levels + 1) :=
  ⟨decode_encode faithful, readable_encode faithful⟩

/-- The text of a record is read as the object that the record is written as. -/
theorem read_text (faithful : s.Faithful levels) (within : levels < Json.nestingLimit) (r : ρ) :
    Json.read (s.text r) = .ok (s.encode r).value :=
  Json.read_text ((readable_encode faithful r).mono within)

end Shape

end RefactorGateway.Wire
