import Mathlib.Data.List.Forall2
import RefactorGateway.Proofs.Wire.Reading
/-!
# Records written as lists

A record that is written as an object can be written as the list of its field values as well.  Where
the object is read as a record, the list is read as the same one, also inside a list of records that
is itself a member of a record.

## Main Definitions

* `Slot`, `Shape.slots`: the places of the fields of a record in a list
* `InOrder`: a list has the values of the members of an object in their places
* `Relisted`: a document is another one, or lists the record that this one has as an object
* `Codec.ReadsAs`, `Fields.ReadsAs`: whatever is read of a value is also read of another one
* `MembersRel`: two lists have members of the same names in turn, with related values

## Main Statements

* `Fields.ofItems_of_gather`, `Shape.decodeItems_of_inOrder`: what is read of an object is read of
  the list of its values
* `InOrder.readable`, `Relisted.readable`: the list can be read from a text if the object can
* `Shape.readsAs_list`: what is read of a list of records is also read if some of them are lists
* `MembersRel.decodeMembers`: a record is read of another object as well if each of its fields is

## Design Notes

The places are taken from the fields of the record, and with them the defaults, in the form in which
they would be written.  `InOrder` does not read anything: it says of a list which documents stand in
it, and so it can be said of documents of which no record could be read.
-/

namespace RefactorGateway.Wire

open Json (Document)
open Json.Members (get? sorted)

/-! ### Places in a list -/

/-- The place of a field in a list: the name of the field in an object and how its default is
written, if it has one. -/
structure Slot where
  name : String
  default : Option Document

/-- The places of fields, in their order. -/
def Fields.slots : {β : Type} → Fields β → List Slot
  | _, .nil => []
  | _, .cons f fs => ⟨f.name, f.absent.map f.codec.encode⟩ :: fs.slots

/-- The places of the fields of a record. -/
def Shape.slots {ρ : Type} (s : Shape ρ) : List Slot := s.fields.slots

/-- The member of a name that counts, which is the last one. -/
def lastMember? (name : String) (members : List (String × Document)) : Option Document :=
  get? name members.reverse

/-- A list has the values of the members of an object in their places.  For a member that is missing
it has the default, or nothing if the list ends there. -/
inductive InOrder (members : List (String × Document)) : List Slot → List Document → Prop
  | nil : InOrder members [] []
  | given {slot : Slot} {slots : List Slot} {item : Document} {items : List Document}
    (found : lastMember? slot.name members = some item) (later : InOrder members slots items) :
    InOrder members (slot :: slots) (item :: items)
  | filled {slot : Slot} {slots : List Slot} {item : Document} {items : List Document}
    (missing : lastMember? slot.name members = none) (default : slot.default = some item)
    (later : InOrder members slots items) : InOrder members (slot :: slots) (item :: items)
  | leftOut {slot : Slot} {slots : List Slot} (missing : lastMember? slot.name members = none)
    (default : slot.default.isSome) (later : InOrder members slots []) :
    InOrder members (slot :: slots) []

/-- A document is another one, or lists the record that this one has as an object. -/
inductive Relisted (slots : List Slot) : Document → Document → Prop
  | same (d : Document) : Relisted slots d d
  | listed {members : List (String × Document)} {items : List Document}
    (inOrder : InOrder members slots items) : Relisted slots (.object members) (.array items)

/-! ### Texts -/

section Readable

variable {members : List (String × Document)} {slots : List Slot} {levels : Nat}

theorem mem_of_lastMember? {name : String} {item : Document}
    (found : lastMember? name members = some item) : (name, item) ∈ members :=
  List.mem_reverse.1 (Json.Members.mem_of_get?_eq_some found)

theorem InOrder.readable {items : List Document} (inOrder : InOrder members slots items)
    (readable : ∀ m ∈ members, m.2.Readable levels)
    (defaults : ∀ slot ∈ slots, ∀ d ∈ slot.default, d.Readable levels) :
    ∀ item ∈ items, item.Readable levels := by
  induction inOrder with
  | nil => exact List.forall_mem_nil _
  | given found later ih =>
    obtain ⟨-, defaults⟩ := List.forall_mem_cons.1 defaults
    exact List.forall_mem_cons.2 ⟨readable _ (mem_of_lastMember? found), ih defaults⟩
  | filled missing default later ih =>
    obtain ⟨first, defaults⟩ := List.forall_mem_cons.1 defaults
    exact List.forall_mem_cons.2 ⟨first _ default, ih defaults⟩
  | leftOut missing default later ih => exact List.forall_mem_nil _

theorem Relisted.readable {d d' : Document} (relisted : Relisted slots d d')
    (defaults : ∀ slot ∈ slots, ∀ default ∈ slot.default, default.Readable (levels - 1))
    (readable : d.Readable levels) : d'.Readable levels := by
  cases relisted with
  | same => exact readable
  | listed inOrder =>
    cases levels with
    | zero => exact readable.elim
    | succ levels => exact inOrder.readable readable defaults

/-- The defaults of fields nest no deeper than their other values. -/
theorem Fields.readable_slots {β : Type} {fs : Fields β} (faithful : fs.Faithful levels)
    {more : Nat} (le : levels ≤ more) : ∀ slot ∈ fs.slots, ∀ d ∈ slot.default, d.Readable more := by
  induction fs with
  | nil => exact List.forall_mem_nil _
  | cons f fs ih =>
    refine List.forall_mem_cons.2 ⟨fun d default => ?_, ih faithful.2⟩
    obtain ⟨value, -, rfl⟩ := Option.map_eq_some_iff.1 default
    exact (faithful.1.codec.readable value).mono le

end Readable

/-! ### What is read of a list -/

section Reading

variable {ρ : Type} {s : Shape ρ} {members : List (String × Document)} {items : List Document}
  {levels : Nat}

theorem get?_sorted_memberValues (name : String) (members : List (String × Document)) :
    get? name (sorted (Document.memberValues members)) =
      (lastMember? name members).map Document.value := by
  rw [Json.Members.get?_sorted_eq_reverse, Document.memberValues_eq_map, ← List.map_reverse,
    ← Document.memberValues_eq_map, Document.get?_memberValues]
  rfl

/-- The values that the fields have in an object are those that they have in the list of it. -/
theorem Fields.ofItems_of_gather {β : Type} {fs : Fields β} (faithful : fs.Faithful levels)
    {parts : β} (gathered : fs.gather (sorted (Document.memberValues members)) = .ok parts)
    (inOrder : InOrder members fs.slots items) (record : String) (total index : Nat) :
    fs.ofItems record total index (Document.values items) = .ok parts := by
  induction fs generalizing items index with
  | nil =>
    cases inOrder
    rfl
  | cons f fs ih =>
    obtain ⟨value, rest⟩ := parts
    obtain ⟨head, tail⟩ := gather_cons_iff.1 gathered
    rw [Field.gather_eq_ok_iff, get?_sorted_memberValues] at head
    cases inOrder with
    | given found later =>
      -- the member is there, so its value has been read
      rw [found] at head
      obtain ⟨j, ⟨⟩, decoded⟩ := head.resolve_right fun ⟨missing, _⟩ => nomatch missing
      exact ofItems_cons_cons_iff.2 ⟨decoded, ih faithful.2 tail later (index + 1)⟩
    | filled missing default later =>
      rw [missing] at head
      obtain ⟨-, absent⟩ := head.resolve_left fun ⟨_, found, _⟩ => nomatch found
      obtain ⟨value', absent', rfl⟩ := Option.map_eq_some_iff.1 default
      cases absent.symm.trans absent'
      exact ofItems_cons_cons_iff.2
        ⟨faithful.1.codec.lawful value, ih faithful.2 tail later (index + 1)⟩
    | leftOut missing default later =>
      rw [missing] at head
      obtain ⟨-, absent⟩ := head.resolve_left fun ⟨_, found, _⟩ => nomatch found
      exact ofItems_cons_nil_iff.2 ⟨absent, ih faithful.2 tail later (index + 1)⟩

/-- What is read of an object is read of the list of its values. -/
theorem Shape.decodeItems_of_inOrder (faithful : s.Faithful levels) {r : ρ}
    (decoded : s.decodeMembers (sorted (Document.memberValues members)) = .ok r)
    (inOrder : InOrder members s.slots items) :
    s.decodeItems (Document.values items) = .ok r := by
  have gathered := (decodeMembers_eq_ok_iff.1 decoded).2
  rw [decodeItems, Fields.ofItems_of_gather faithful.fields gathered inOrder]
  exact congrArg Except.ok (s.build_split r)

end Reading

/-! ### Values that are read alike -/

section ReadsAs

variable {α β ρ : Type}

/-- Whatever a codec reads of a value, it reads of another one. -/
def Codec.ReadsAs (c : Codec α) (j j' : Json) : Prop :=
  ∀ a, c.decode j = .ok a → c.decode j' = .ok a

/-- Whatever is read of a value as the member of a name is read of another one. -/
def Fields.ReadsAs (name : String) (j j' : Json) : {β : Type} → Fields β → Prop
  | _, .nil => True
  | _, .cons f fs => (f.name = name → f.codec.ReadsAs j j') ∧ fs.ReadsAs name j j'

theorem Shape.readsAs_of_relisted {s : Shape ρ} {levels : Nat} (faithful : s.Faithful levels)
    {d d' : Document} (relisted : Relisted s.slots d d') : s.codec.ReadsAs d.value d'.value := by
  intro r decoded
  cases relisted with
  | same => exact decoded
  | listed inOrder => exact decodeItems_of_inOrder faithful decoded inOrder

theorem Codec.decodeItems_of_readsAs {c : Codec α} {items items' : List Json} {values : List α}
    (reads : List.Forall₂ c.ReadsAs items items') (decoded : c.decodeItems items = .ok values) :
    c.decodeItems items' = .ok values := by
  induction reads generalizing values with
  | nil => exact decoded
  | cons first later ih =>
    obtain ⟨a, more, head, tail, rfl⟩ := decodeItems_cons_iff.1 decoded
    exact decodeItems_cons_iff.2 ⟨a, more, first a head, ih tail, rfl⟩

/-- A list of records, some of which are written as lists, is read as the list of records. -/
theorem Shape.readsAs_list {s : Shape ρ} {levels : Nat} (faithful : s.Faithful levels)
    {items items' : List Document} (relisted : List.Forall₂ (Relisted s.slots) items items') :
    (Codec.list s.codec).ReadsAs (Document.array items).value (Document.array items').value := by
  intro values decoded
  have reads : List.Forall₂ s.codec.ReadsAs (Document.values items) (Document.values items') := by
    rw [Document.values_eq_map, Document.values_eq_map, List.forall₂_map_left_iff,
      List.forall₂_map_right_iff]
    exact relisted.imp fun _ _ => readsAs_of_relisted faithful
  exact Codec.decodeItems_of_readsAs reads decoded

theorem Codec.readsAs_option {c : Codec α} {j j' : Json} (present : j ≠ .null)
    (present' : j' ≠ .null) (reads : c.ReadsAs j j') : (option c).ReadsAs j j' := by
  intro v decoded
  obtain ⟨null, -⟩ | ⟨-, a, inside, rfl⟩ := decode_option_iff.1 decoded
  · exact absurd null present
  · exact decode_option_iff.2 (.inr ⟨present', a, reads a inside, rfl⟩)

theorem Fields.readsAs_refl (fs : Fields β) (name : String) (j : Json) : fs.ReadsAs name j j := by
  induction fs with
  | nil => trivial
  | cons f fs ih => exact ⟨fun _ _ decoded => decoded, ih⟩

/-- A value passes as a member if one does of which no more is read. -/
theorem Fields.check_of_readsAs {fs : Fields β} {name : String} {j j' : Json}
    (reads : fs.ReadsAs name j j') (fits : ∀ problem, fs.check name j ≠ some (.error problem)) :
    fs.check name j' = fs.check name j := by
  induction fs with
  | nil => rfl
  | cons f fs ih =>
    rw [check, check]
    rw [check] at fits
    by_cases named : f.name = name
    · rw [if_pos named] at fits ⊢
      cases decoded : f.codec.decode j with
      | error problem =>
        rw [decoded] at fits
        exact absurd rfl (fits problem)
      | ok a => rw [reads.1 named a decoded, if_pos named]
    · rw [if_neg named] at fits ⊢
      rw [if_neg named]
      exact ih reads.2 fits

theorem optionRel_map {R : α → α → Prop} {S : β → β → Prop} {f : α → β}
    (maps : ∀ a a', R a a' → S (f a) (f a')) {x y : Option α} (related : Option.Rel R x y) :
    Option.Rel S (x.map f) (y.map f) := by
  cases related with
  | some related => exact .some (maps _ _ related)
  | none => exact .none

theorem Fields.gather_of_readsAs {fs : Fields β} {members members' : List (String × Json)}
    (reads : ∀ name, Option.Rel (fun j j' => fs.ReadsAs name j j') (get? name members)
      (get? name members')) {parts : β} (gathered : fs.gather members = .ok parts) :
    fs.gather members' = .ok parts := by
  induction fs with
  | nil => exact gathered
  | cons f fs ih =>
    obtain ⟨value, rest⟩ := parts
    obtain ⟨head, tail⟩ := gather_cons_iff.1 gathered
    have later : ∀ name, Option.Rel (fun j j' => fs.ReadsAs name j j') (get? name members)
        (get? name members') := fun name => by
      simpa using optionRel_map (f := id) (fun _ _ reads => reads.2) (reads name)
    refine gather_cons_iff.2 ⟨?_, ih later tail⟩
    have first := reads f.name
    rw [Field.gather_eq_ok_iff] at head ⊢
    rcases head with ⟨j, found, decoded⟩ | ⟨missing, absent⟩
    · rw [found] at first
      generalize get? f.name members' = found' at first ⊢
      cases first with
      | some reads => exact .inl ⟨_, rfl, reads.1 rfl value decoded⟩
    · rw [missing] at first
      generalize get? f.name members' = found' at first ⊢
      cases first with
      | none => exact .inr ⟨rfl, absent⟩

/-- A record is read of other members if whatever is read of a member is read of the one that has
its name. -/
theorem Shape.decodeMembers_of_readsAs {s : Shape ρ} {members members' : List (String × Json)}
    (distinct : (members.map (·.1)).Nodup) (distinct' : (members'.map (·.1)).Nodup)
    (reads : ∀ name, Option.Rel (fun j j' => s.fields.ReadsAs name j j') (get? name members)
      (get? name members')) {r : ρ} (decoded : s.decodeMembers members = .ok r) :
    s.decodeMembers members' = .ok r := by
  obtain ⟨checked, gathered⟩ := decodeMembers_eq_ok_iff.1 decoded
  refine decodeMembers_eq_ok_iff.2 ⟨checkAll_eq_ok_iff.2 ?_,
    Fields.gather_of_readsAs reads gathered⟩
  rintro ⟨name, j'⟩ mem'
  have first := reads name
  rw [(Json.Members.get?_eq_some_iff distinct').2 mem'] at first
  cases found : get? name members with
  | none =>
    rw [found] at first
    cases first
  | some j =>
    rw [found] at first
    obtain ⟨reads⟩ := first
    have fits := checkAll_eq_ok_iff.1 checked (name, j)
      ((Json.Members.get?_eq_some_iff distinct).1 found)
    rw [check] at fits ⊢
    rw [Fields.check_of_readsAs reads]
    · exact fits
    · intro problem misfit
      rw [misfit] at fits
      cases fits

end ReadsAs

/-! ### Members in turn -/

/-- What holds of the elements of the one list holds of those of a list that is related to it. -/
theorem forall_mem_of_forall₂ {α : Type} {R : α → α → Prop} {P : α → Prop} {left right : List α}
    (related : List.Forall₂ R left right) (keeps : ∀ a b, R a b → P a → P b)
    (all : ∀ a ∈ left, P a) : ∀ b ∈ right, P b := by
  induction related with
  | nil => exact List.forall_mem_nil _
  | cons first later ih =>
    obtain ⟨here, all⟩ := List.forall_mem_cons.1 all
    exact List.forall_mem_cons.2 ⟨keeps _ _ first here, ih all⟩

/-- Two lists have members of the same names in turn, and what they have under a name is related. -/
def MembersRel (R : String → Document → Document → Prop) :
    List (String × Document) → List (String × Document) → Prop :=
  List.Forall₂ fun m m' => m.1 = m'.1 ∧ R m.1 m.2 m'.2

namespace MembersRel

variable {R : String → Document → Document → Prop} {members members' : List (String × Document)}

theorem rel_get? (related : MembersRel R members members') (name : String) :
    Option.Rel (R name) (get? name members) (get? name members') := by
  induction related with
  | nil => exact .none
  | @cons m m' members members' first later ih =>
    obtain ⟨named, first⟩ := first
    by_cases here : m.1 = name
    · subst here
      rw [Json.Members.get?_first, named, Json.Members.get?_first, ← named]
      exact .some first
    · rw [Json.Members.get?_of_ne here, Json.Members.get?_of_ne (named ▸ here)]
      exact ih

theorem rel_lastMember? (related : MembersRel R members members') (name : String) :
    Option.Rel (R name) (lastMember? name members) (lastMember? name members') :=
  rel_get? (List.rel_reverse related) name

/-- What holds of the members of the one list holds of those of the other. -/
theorem forall_mem {P : Document → Prop} (related : MembersRel R members members')
    (keeps : ∀ name d d', R name d d' → P d → P d') (all : ∀ m ∈ members, P m.2) :
    ∀ m ∈ members', P m.2 :=
  forall_mem_of_forall₂ related (fun m _ first => keeps m.1 _ _ first.2) all

/-- A record is read of an object as well if whatever is read of a member is read of the one that
stands in its place. -/
theorem decodeMembers {ρ : Type} {s : Shape ρ} (related : MembersRel R members members')
    (reads : ∀ name d d', R name d d' → s.fields.ReadsAs name d.value d'.value) {r : ρ}
    (decoded : s.decodeMembers (sorted (Document.memberValues members)) = .ok r) :
    s.decodeMembers (sorted (Document.memberValues members')) = .ok r := by
  refine Shape.decodeMembers_of_readsAs (Json.Members.ordered_sorted _).nodup
    (Json.Members.ordered_sorted _).nodup (fun name => ?_) decoded
  rw [get?_sorted_memberValues, get?_sorted_memberValues]
  exact optionRel_map (reads name) (related.rel_lastMember? name)

end MembersRel

end RefactorGateway.Wire
