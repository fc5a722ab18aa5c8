import RefactorGateway.Proofs.Json.Members
import RefactorGateway.Proofs.Wire.RoundTrip
/-!
# What was read of a record

A record that was read says what the members of its object are: each scalar field has the value of
the member of its name, and a field whose member is missing has the value that this means.

## Main Definitions

* `namedMembers`: what a list or an object says of the fields of a record

## Main Statements

* `Codec.decode_text_iff`, `Codec.decode_flag_iff`, `Codec.decode_count_iff`: a scalar is read of
  one value only
* `Codec.decode_option_iff`: null is read as no value, and all else as a value
* `Codec.exists_decodeItems`: a list is read if each of its items is
* `Codec.map_eq_of_decodeItems`: what holds of each item that is read holds of the list
* `Field.gather_required_iff`, `Field.gather_defaulted_iff`, `Field.gather_nullable_iff`: the value
  of a field
* `Field.gather_text_iff`, `Field.gather_count_iff`, `Field.gather_flag_iff`: the same for scalars
* `Fields.ofItems_cons_nil_iff`, `Fields.ofItems_cons_cons_iff`: what is read of a list field by
  field
* `Fields.gather_zip_of_ofItems`: a list of values is read as the object of these values
* `Shape.decodeMembers_eq_ok_iff`: a record is read if its members fit and its fields are found
* `Shape.decodeMembers_iff_of_lenient`: it is enough that its fields are found if it lets other
  members through
* `Shape.gather_of_decode`: what is read of a record, be it an object or a list
-/

namespace RefactorGateway.Wire

/-! ### Codecs -/

namespace Codec

variable {α : Type} {c : Codec α}

@[simp] theorem decode_text_iff {j : Json} {s : String} :
    text.decode j = .ok s ↔ j = .string s := by
  cases j <;> simp [text]

@[simp] theorem decode_flag_iff {j : Json} {b : Bool} : flag.decode j = .ok b ↔ j = .bool b := by
  cases j <;> simp [flag]

/-- A count is read of the integer that it is, and of nothing else. -/
@[simp] theorem decode_count_iff {j : Json} {n : UInt32} :
    count.decode j = .ok n ↔ j = .number (.integer n.toNat) := by
  constructor
  · intro decoded
    unfold count at decoded
    simp only at decoded
    split at decoded
    · next k =>
      split at decoded
      · next range =>
        -- within its range the number does not wrap around
        have small : k.toNat < UInt32.size := by omega
        have same : k.toNat = n.toNat := by
          rw [← Except.ok.inj decoded]
          exact (UInt32.toNat_ofNat_of_lt' small).symm
        rw [show k = (n.toNat : Int) by omega]
      · cases decoded
    · cases decoded
  · rintro rfl
    have range : (n.toNat : Int) < 4294967296 := by
      have := n.toNat_lt
      omega
    simp [count, range]

/-- Null is read as no value, and all else as a value. -/
theorem decode_option_iff {j : Json} {v : Option α} :
    (option c).decode j = .ok v ↔
      (j = .null ∧ v = none) ∨ j ≠ .null ∧ ∃ a, c.decode j = .ok a ∧ v = some a := by
  by_cases null : j = .null
  · subst null
    simp only [option, Except.ok.injEq, true_and, ne_eq, not_true_eq_false, false_and, or_false]
    exact eq_comm
  · have inside : (option c).decode j = (c.decode j).map some := by
      unfold option
      simp only
    rw [inside]
    cases decoded : c.decode j with
    | error m => simp [Except.map, null]
    | ok a => simp [Except.map, null, eq_comm]

theorem decodeItems_cons_iff {item : Json} {rest : List Json} {values : List α} :
    decodeItems c (item :: rest) = .ok values ↔
      ∃ a more, c.decode item = .ok a ∧ decodeItems c rest = .ok more ∧ a :: more = values := by
  cases head : c.decode item with
  | error m => simp [decodeItems, head, bind, Except.bind]
  | ok a =>
    cases tail : decodeItems c rest with
    | error m => simp [decodeItems, head, tail, bind, Except.bind]
    | ok more => simp [decodeItems, head, tail, bind, Except.bind, pure, Except.pure]

/-- A list is read if each of its items is. -/
theorem exists_decodeItems {items : List Json} (each : ∀ item ∈ items, ∃ a, c.decode item = .ok a) :
    ∃ values, decodeItems c items = .ok values := by
  induction items with
  | nil => exact ⟨[], rfl⟩
  | cons item rest ih =>
    obtain ⟨a, first⟩ := each item List.mem_cons_self
    obtain ⟨values, later⟩ := ih fun item mem => each item (List.mem_cons_of_mem _ mem)
    exact ⟨a :: values, decodeItems_cons_iff.2 ⟨a, values, first, later, rfl⟩⟩

/-- What holds of each item that is read holds of the list of items. -/
theorem map_eq_of_decodeItems {β : Type} {f : Json → β} {g : α → β}
    (each : ∀ j a, c.decode j = .ok a → f j = g a) {items : List Json} {values : List α}
    (decoded : decodeItems c items = .ok values) : items.map f = values.map g := by
  induction items generalizing values with
  | nil =>
    cases decoded
    rfl
  | cons item rest ih =>
    obtain ⟨a, more, head, tail, rfl⟩ := decodeItems_cons_iff.1 decoded
    rw [List.map_cons, List.map_cons, each item a head, ih tail]

/-- A list is read of an array whose items are read. -/
theorem decode_list_iff {j : Json} {values : List α} :
    (list c).decode j = .ok values ↔
      ∃ items, j = .array items ∧ decodeItems c items = .ok values := by
  cases j <;> simp [list]

end Codec

/-! ### Fields -/

namespace Field

variable {α : Type} {c : Codec α} {name : String} {members : List (String × Json)}

theorem gather_eq_ok_iff {f : Field α} {v : α} :
    f.gather members = .ok v ↔
      (∃ j, Json.Members.get? f.name members = some j ∧ f.codec.decode j = .ok v) ∨
        Json.Members.get? f.name members = none ∧ f.absent = some v := by
  unfold gather
  cases Json.Members.get? f.name members with
  | some j => simp
  | none => cases f.absent <;> simp

/-- A member that has to be there is there. -/
theorem gather_required_iff {v : α} :
    (required name c).gather members = .ok v ↔
      ∃ j, Json.Members.get? name members = some j ∧ c.decode j = .ok v := by
  rw [gather_eq_ok_iff]
  simp [required]

@[simp] theorem gather_text_iff {s : String} :
    (required name .text).gather members = .ok s ↔
      Json.Members.get? name members = some (.string s) := by
  simp [gather_required_iff]

@[simp] theorem gather_count_iff {n : UInt32} :
    (required name .count).gather members = .ok n ↔
      Json.Members.get? name members = some (.number (.integer n.toNat)) := by
  simp [gather_required_iff]

/-- A member with a default is there, or its value is the default. -/
theorem gather_defaulted_iff {d v : α} :
    (defaulted name c d).gather members = .ok v ↔
      (∃ j, Json.Members.get? name members = some j ∧ c.decode j = .ok v) ∨
        Json.Members.get? name members = none ∧ d = v := by
  rw [gather_eq_ok_iff]
  simp [defaulted]

@[simp] theorem gather_flag_iff {d b : Bool} :
    (defaulted name .flag d).gather members = .ok b ↔
      (Json.Members.get? name members).getD (.bool d) = .bool b := by
  rw [gather_defaulted_iff]
  cases Json.Members.get? name members <;> simp

/-- A member that may be null has a value if it is there and not null. -/
theorem gather_nullable_iff {v : Option α} :
    (nullable name c).gather members = .ok v ↔
      (∃ j, Json.Members.get? name members = some j ∧ (Codec.option c).decode j = .ok v) ∨
        Json.Members.get? name members = none ∧ v = none := by
  rw [gather_eq_ok_iff]
  simp [nullable, eq_comm]

end Field

namespace Fields

variable {β : Type}

@[simp] theorem gather_cons_iff {α : Type} {f : Field α} {fs : Fields β}
    {members : List (String × Json)} {value : α} {rest : β} :
    (cons f fs).gather members = .ok (value, rest) ↔
      f.gather members = .ok value ∧ fs.gather members = .ok rest := by
  cases head : f.gather members with
  | error m => simp [gather, head, bind, Except.bind]
  | ok v =>
    cases tail : fs.gather members with
    | error m => simp [gather, head, tail, bind, Except.bind]
    | ok r => simp [gather, head, tail, bind, Except.bind, pure, Except.pure]

/-- What is found of the fields depends on the members of their names only. -/
theorem gather_congr {fs : Fields β} {members members' : List (String × Json)}
    (agree : ∀ name ∈ fs.names, Json.Members.get? name members = Json.Members.get? name members') :
    fs.gather members = fs.gather members' := by
  induction fs with
  | nil => rfl
  | cons f fs ih =>
    have head := agree f.name List.mem_cons_self
    have tail := ih fun name mem => agree name (List.mem_cons_of_mem _ mem)
    simp only [gather, Field.gather, head, tail]

/-- A member that is found for a field fits it. -/
theorem check_of_gather {fs : Fields β} {members : List (String × Json)} {parts : β}
    (gathered : fs.gather members = .ok parts) {name : String} {j : Json}
    (found : Json.Members.get? name members = some j) :
    fs.check name j = none ∨ fs.check name j = some (.ok ()) := by
  induction fs with
  | nil => exact .inl rfl
  | cons f fs ih =>
    obtain ⟨value, rest⟩ := parts
    obtain ⟨head, tail⟩ := gather_cons_iff.1 gathered
    rw [check]
    by_cases named : f.name = name
    · subst named
      rcases Field.gather_eq_ok_iff.1 head with ⟨j', found', decoded⟩ | ⟨missing, -⟩
      · rw [found] at found'
        cases found'
        rw [if_pos rfl, decoded]
        exact .inr rfl
      · rw [found] at missing
        cases missing
    · rw [if_neg named]
      exact ih tail

/-- Behind the end of a list a field has its default. -/
theorem ofItems_cons_nil_iff {α : Type} {f : Field α} {fs : Fields β} {record : String}
    {total index : Nat} {value : α} {rest : β} :
    (cons f fs).ofItems record total index [] = .ok (value, rest) ↔
      f.absent = some value ∧ fs.ofItems record total (index + 1) [] = .ok rest := by
  cases default : f.absent with
  | none => simp [ofItems, default]
  | some v =>
    cases later : fs.ofItems record total (index + 1) [] with
    | error m => simp [ofItems, default, later, bind, Except.bind]
    | ok r => simp [ofItems, default, later, bind, Except.bind, pure, Except.pure]

theorem ofItems_cons_cons_iff {α : Type} {f : Field α} {fs : Fields β} {record : String}
    {total index : Nat} {item : Json} {items : List Json} {value : α} {rest : β} :
    (cons f fs).ofItems record total index (item :: items) = .ok (value, rest) ↔
      f.codec.decode item = .ok value ∧
        fs.ofItems record total (index + 1) items = .ok rest := by
  cases first : f.codec.decode item with
  | error m => simp [ofItems, first, bind, Except.bind]
  | ok v =>
    cases later : fs.ofItems record total (index + 1) items with
    | error m => simp [ofItems, first, later, bind, Except.bind]
    | ok r => simp [ofItems, first, later, bind, Except.bind, pure, Except.pure]

/-- A list of values is read as the object in which the fields have these values in turn. -/
theorem gather_zip_of_ofItems {fs : Fields β} (distinct : fs.names.Nodup) {record : String}
    {total index : Nat} {items : List Json} {parts : β}
    (read : fs.ofItems record total index items = .ok parts) :
    fs.gather (fs.names.zip items) = .ok parts := by
  induction fs generalizing index items with
  | nil => rfl
  | cons f fs ih =>
    obtain ⟨value, rest⟩ := parts
    obtain ⟨fresh, distinct⟩ := List.nodup_cons.1 distinct
    cases items with
    | nil =>
      -- the list has ended, so the fields that are left take their defaults
      obtain ⟨default, later⟩ := ofItems_cons_nil_iff.1 read
      have others := ih distinct later
      rw [List.zip_nil_right] at others ⊢
      exact gather_cons_iff.2 ⟨Field.gather_eq_ok_iff.2 (.inr ⟨rfl, default⟩), others⟩
    | cons item items =>
      obtain ⟨first, later⟩ := ofItems_cons_cons_iff.1 read
      have head := Json.Members.get?_first (f.name, item) (fs.names.zip items)
      have tail : fs.gather ((f.name, item) :: fs.names.zip items) = .ok rest := by
        rw [← ih distinct later]
        refine gather_congr fun name mem => Json.Members.get?_of_ne ?_ _
        exact fun same : f.name = name => fresh (same ▸ mem)
      exact gather_cons_iff.2 ⟨Field.gather_eq_ok_iff.2 (.inl ⟨item, head, first⟩), tail⟩

end Fields

/-! ### Records -/

/-- A record is read of members that all fit and in which all fields are found. -/
theorem Shape.decodeMembers_eq_ok_iff {ρ : Type} {s : Shape ρ} {members : List (String × Json)}
    {r : ρ} :
    s.decodeMembers members = .ok r ↔
      s.checkAll members = .ok () ∧ s.fields.gather members = .ok (s.split r) := by
  cases checked : s.checkAll members with
  | error m => simp [decodeMembers, checked, bind, Except.bind]
  | ok _ =>
    cases gathered : s.fields.gather members with
    | error m => simp [decodeMembers, checked, gathered, bind, Except.bind]
    | ok parts =>
      have built : s.build parts = r ↔ parts = s.split r :=
        ⟨fun h => by rw [← h, s.split_build], fun h => by rw [h, s.build_split]⟩
      simp [decodeMembers, checked, gathered, bind, Except.bind, pure, Except.pure, built]

/-- A record that lets other members through is read if its fields are found. -/
theorem Shape.decodeMembers_iff_of_lenient {ρ : Type} {s : Shape ρ} (lenient : s.strict = false)
    {members : List (String × Json)} (distinct : (members.map (·.1)).Nodup) {r : ρ} :
    s.decodeMembers members = .ok r ↔ s.fields.gather members = .ok (s.split r) := by
  rw [decodeMembers_eq_ok_iff]
  refine and_iff_right_of_imp fun gathered => checkAll_eq_ok_iff.2 ?_
  rintro ⟨name, j⟩ mem
  have found := (Json.Members.get?_eq_some_iff distinct).2 mem
  rw [check]
  rcases Fields.check_of_gather gathered found with unknown | fits
  · simp only [unknown, lenient, Bool.false_eq_true, if_false]
  · simp only [fits]

/-- What a list or an object says of the fields of a record: a list does so in their order. -/
def namedMembers (names : List String) : Json → List (String × Json)
  | .object members => members
  | .array items => names.zip items
  | _ => []

/-- In whichever way a record is written, its fields are those that are read of it. -/
theorem Shape.gather_of_decode {ρ : Type} {s : Shape ρ} (distinct : s.fields.names.Nodup) {j : Json}
    {r : ρ} (read : s.decode j = .ok r) :
    s.fields.gather (namedMembers s.fields.names j) = .ok (s.split r) := by
  cases j with
  | object members => exact (decodeMembers_eq_ok_iff.1 read).2
  | array items =>
    cases listed : s.fields.ofItems s.name s.fields.names.length 0 items with
    | error m => simp [decode, decodeItems, listed, Except.map] at read
    | ok parts =>
      simp only [decode, decodeItems, listed, Except.map] at read
      cases read
      rw [s.split_build]
      exact Fields.gather_zip_of_ofItems distinct listed
  | null | bool _ | number _ | string _ => cases read

end RefactorGateway.Wire
