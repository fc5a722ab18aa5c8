import RefactorGateway.Proofs.Json.Accepted
import RefactorGateway.Proofs.Json.Members
/-!
# Members in another order

Documents in which the members of objects stand in different orders have the same value, as long as
no object has two members of one name.

## Main Definitions

* `Document.Distinct`: no object of a document has two members of one name
* `Document.Reordered`: in a document the members of objects, at any depth, are put into another
  order

## Main Statements

* `Document.Reordered.distinct`, `Document.Reordered.readable`: another order makes no name occur
  twice, and a text can hold it as well
* `Document.Reordered.value_eq`: another order has the same value

## Design Notes

`Document.Reordered` is built up from single steps, each of which puts the members of one object
into another order, and from what surrounds this object.  So an induction over it meets one object
at a time, and what is shown of it is only how its place in an array or in an object passes it on.
-/

namespace RefactorGateway.Json.Document

/-! ### Definitions -/

/-- No object of a document, at any depth, has two members of one name. -/
inductive Distinct : Document → Prop
  | null : Distinct .null
  | bool (b : Bool) : Distinct (.bool b)
  | numeral (n : Numeral) : Distinct (.numeral n)
  | string (s : String) : Distinct (.string s)
  | array {items : List Document} (inside : ∀ item ∈ items, Distinct item) :
    Distinct (.array items)
  | object {members : List (String × Document)} (names : (members.map (·.1)).Nodup)
    (inside : ∀ m ∈ members, Distinct m.2) : Distinct (.object members)

/-- A document is another one with the members of any of its objects in another order. -/
inductive Reordered : Document → Document → Prop
  /-- Nothing is moved. -/
  | refl (d : Document) : Reordered d d
  /-- The members of the object itself are moved. -/
  | members {members members' : List (String × Document)} (perm : members.Perm members') :
    Reordered (.object members) (.object members')
  /-- Members are moved inside an item of an array. -/
  | item {before after : List Document} {d d' : Document} (inside : Reordered d d') :
    Reordered (.array (before ++ d :: after)) (.array (before ++ d' :: after))
  /-- Members are moved inside a member of an object. -/
  | member {before after : List (String × Document)} {name : String} {d d' : Document}
    (inside : Reordered d d') :
    Reordered (.object (before ++ (name, d) :: after)) (.object (before ++ (name, d') :: after))
  /-- Members are moved more than once. -/
  | trans {d d' d'' : Document} (first : Reordered d d') (later : Reordered d' d'') :
    Reordered d d''

theorem Distinct.items {items : List Document} (distinct : (Document.array items).Distinct) :
    ∀ item ∈ items, item.Distinct := by
  cases distinct with
  | array inside => exact inside

theorem Distinct.names {members : List (String × Document)}
    (distinct : (Document.object members).Distinct) : (members.map (·.1)).Nodup := by
  cases distinct with
  | object names inside => exact names

theorem Distinct.members {members : List (String × Document)}
    (distinct : (Document.object members).Distinct) : ∀ m ∈ members, m.2.Distinct := by
  cases distinct with
  | object names inside => exact inside

/-- What holds of all elements of a list still holds when one of them is replaced by another of
which it holds. -/
theorem forall_mem_replace {α : Type} {P : α → Prop} {before after : List α} {a a' : α}
    (all : ∀ x ∈ before ++ a :: after, P x) (holds : P a → P a') :
    ∀ x ∈ before ++ a' :: after, P x := by
  obtain ⟨left, right⟩ := List.forall_mem_append.1 all
  obtain ⟨here, right⟩ := List.forall_mem_cons.1 right
  exact List.forall_mem_append.2 ⟨left, List.forall_mem_cons.2 ⟨holds here, right⟩⟩

namespace Reordered

variable {d d' : Document}

/-- Another order makes no name occur twice. -/
theorem distinct (reordered : Reordered d d') (distinct : d.Distinct) : d'.Distinct := by
  induction reordered with
  | refl d => exact distinct
  | members perm =>
    refine .object ((perm.map (·.1)).nodup_iff.1 distinct.names) fun m mem => ?_
    exact distinct.members m (perm.mem_iff.2 mem)
  | item inside ih => exact .array (forall_mem_replace distinct.items ih)
  | member inside ih =>
    refine .object ?_ (forall_mem_replace distinct.members ih)
    -- the name of the member stays what it is
    have names := distinct.names
    rw [List.map_append, List.map_cons] at names ⊢
    exact names
  | trans first later first_ih later_ih => exact later_ih (first_ih distinct)

/-- Another order neither nests brackets deeper nor changes a numeral. -/
theorem readable (reordered : Reordered d d') {levels : Nat} (readable : d.Readable levels) :
    d'.Readable levels := by
  induction reordered generalizing levels with
  | refl d => exact readable
  | members perm =>
    cases levels with
    | zero => exact readable.elim
    | succ levels => exact fun m mem => readable m (perm.mem_iff.2 mem)
  | item inside ih =>
    cases levels with
    | zero => exact readable.elim
    | succ levels => exact forall_mem_replace readable ih
  | member inside ih =>
    cases levels with
    | zero => exact readable.elim
    | succ levels => exact forall_mem_replace readable ih
  | trans first later first_ih later_ih => exact later_ih (first_ih readable)

/-- Another order has the same value if no object has two members of one name. -/
theorem value_eq (reordered : Reordered d d') (distinct : d.Distinct) : d'.value = d.value := by
  induction reordered with
  | refl d => rfl
  | @members members members' perm =>
    have values : (memberValues members).Perm (memberValues members') := by
      rw [memberValues_eq_map, memberValues_eq_map]
      exact perm.map _
    have names : ((memberValues members).map (·.1)).Nodup := by
      rw [names_memberValues]
      exact distinct.names
    rw [value, value, Members.sorted_eq_of_perm values names]
  | item inside ih =>
    have same := ih (distinct.items _ List.mem_append_cons_self)
    simp only [value, values_eq_map, List.map_append, List.map_cons, same]
  | member inside ih =>
    have same := ih (distinct.members _ List.mem_append_cons_self)
    simp only [value, memberValues_eq_map, List.map_append, List.map_cons, same]
  | trans first later first_ih later_ih =>
    rw [later_ih (first.distinct distinct), first_ih distinct]

end Reordered

end RefactorGateway.Json.Document
