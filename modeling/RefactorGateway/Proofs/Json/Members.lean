import RefactorGateway.Json.Document
/-!
# Objects as finite maps

The members of an object are kept in the order of their names, each name once.  So an object is
determined by what each name stands for in it, and members in any order make the same object.

## Main Definitions

* `Members.Ordered`: members in the strict order of their names

## Main Statements

* `Members.ordered_sorted`: sorting yields ordered members
* `Members.get?_eq_some_iff`: of members with distinct names, each is found under its name
* `Members.get?_insert`: what a name stands for after an insertion
* `Members.get?_sorted`: of members with distinct names, sorting loses none and adds none
* `Members.eq_of_get?_eq`, `Members.eq_of_mem_iff`: ordered members that agree on every name, or
  have the same members, are equal
* `Members.sorted_eq_of_perm`: the order of members with distinct names does not matter
* `Members.get?_sorted_eq_reverse`: of several members with one name the last one counts
* `Document.names_memberValues`, `Document.get?_memberValues`: names and members of a document
-/

namespace RefactorGateway.Json.Members

variable {α : Type}

/-- Members in the strict order of their names. -/
def Ordered (members : List (String × α)) : Prop := members.Pairwise fun m n => m.1 < n.1

private theorem lt_of_not_lt {a b : String} (not_lt : ¬ a < b) (ne : a ≠ b) : b < a := by
  rcases Decidable.em (b < a) with lt | not_gt
  · exact lt
  · exact absurd (String.le_antisymm (String.not_lt.1 not_gt) (String.not_lt.1 not_lt)) ne

/-! ### Looking up names -/

theorem get?_of_ne {name : String} {m : String × α} (differs : m.1 ≠ name)
    (rest : List (String × α)) : get? name (m :: rest) = get? name rest :=
  if_neg differs

theorem get?_first (m : String × α) (rest : List (String × α)) :
    get? m.1 (m :: rest) = some m.2 :=
  if_pos rfl

theorem get?_eq_none_iff {name : String} {members : List (String × α)} :
    get? name members = none ↔ ∀ m ∈ members, m.1 ≠ name := by
  induction members with
  | nil => simp
  | cons m rest ih =>
    obtain ⟨other, held⟩ := m
    by_cases same : other = name <;> simp [same, ih]

theorem mem_of_get?_eq_some {name : String} {value : α} {members : List (String × α)}
    (found : get? name members = some value) : (name, value) ∈ members := by
  induction members with
  | nil => cases found
  | cons m rest ih =>
    by_cases first : m.1 = name
    · subst first
      rw [get?_first] at found
      cases found
      exact List.mem_cons_self
    · rw [get?_of_ne first] at found
      exact List.mem_cons_of_mem _ (ih found)

/-- Of members with distinct names, each is found under its name. -/
theorem get?_eq_some_iff {name : String} {value : α} {members : List (String × α)}
    (distinct : (members.map (·.1)).Nodup) :
    get? name members = some value ↔ (name, value) ∈ members := by
  refine ⟨mem_of_get?_eq_some, fun mem => ?_⟩
  induction members with
  | nil => cases mem
  | cons m rest ih =>
    obtain ⟨fresh, distinct⟩ := List.nodup_cons.1 distinct
    rcases List.mem_cons.1 mem with rfl | later
    · exact get?_first (name, value) rest
    · have differs : m.1 ≠ name := fun same => fresh (List.mem_map.2 ⟨_, later, same.symm⟩)
      rw [get?_of_ne differs, ih distinct later]

theorem get?_append (name : String) (left right : List (String × α)) :
    get? name (left ++ right) = (get? name left).or (get? name right) := by
  induction left with
  | nil => rfl
  | cons m left ih =>
    rw [List.cons_append, get?_cons, get?_cons, ih]
    split <;> rfl

/-- A name below that of the first of ordered members stands for nothing. -/
theorem get?_eq_none_of_lt {name : String} {m : String × α} {rest : List (String × α)}
    (ordered : Ordered (m :: rest)) (below : name < m.1) : get? name (m :: rest) = none := by
  refine get?_eq_none_iff.2 fun n mem same => ?_
  rcases List.mem_cons.1 mem with rfl | mem
  · exact String.lt_irrefl _ (same ▸ below)
  · have above : m.1 < n.1 := (List.pairwise_cons.1 ordered).1 n mem
    exact String.lt_asymm below (same ▸ above)

/-- The name of the first of ordered members stands for nothing in the others. -/
theorem get?_tail_eq_none {m : String × α} {rest : List (String × α)}
    (ordered : Ordered (m :: rest)) : get? m.1 rest = none := by
  refine get?_eq_none_iff.2 fun n mem same => ?_
  have above : m.1 < n.1 := (List.pairwise_cons.1 ordered).1 n mem
  exact String.lt_irrefl _ (same ▸ above)

theorem Ordered.nodup {members : List (String × α)} (ordered : Ordered members) :
    (members.map (·.1)).Nodup := by
  rw [List.Nodup, List.pairwise_map]
  refine ordered.imp ?_
  intro m n below same
  exact String.lt_irrefl _ (same ▸ below)

/-! ### Insertion and sorting -/

theorem mem_or_eq_of_mem_insert {name : String} {value : α} {m : String × α}
    {members : List (String × α)} (mem : m ∈ insert name value members) :
    m = (name, value) ∨ m ∈ members := by
  induction members with
  | nil => exact .inl (by simpa [insert] using mem)
  | cons n rest ih =>
    rw [insert] at mem
    split at mem
    · rcases List.mem_cons.1 mem with new | old
      · exact .inl new
      · exact .inr old
    · split at mem
      · exact .inr mem
      · rcases List.mem_cons.1 mem with old | later
        · exact .inr (old ▸ List.mem_cons_self)
        · rcases ih later with new | old
          · exact .inl new
          · exact .inr (List.mem_cons_of_mem _ old)

theorem mem_of_mem_sorted {m : String × α} {members : List (String × α)}
    (mem : m ∈ sorted members) : m ∈ members := by
  induction members with
  | nil => cases mem
  | cons n rest ih =>
    rcases mem_or_eq_of_mem_insert mem with new | old
    · exact new ▸ List.mem_cons_self
    · exact List.mem_cons_of_mem _ (ih old)

theorem ordered_insert {members : List (String × α)} (ordered : Ordered members) (name : String)
    (value : α) : Ordered (insert name value members) := by
  induction members with
  | nil => simp [insert, Ordered]
  | cons n rest ih =>
    obtain ⟨first, later⟩ := List.pairwise_cons.1 ordered
    rw [insert]
    split
    · next below =>
      refine List.pairwise_cons.2 ⟨fun m mem => ?_, ordered⟩
      rcases List.mem_cons.1 mem with rfl | mem
      · exact below
      · exact String.lt_trans below (first m mem)
    · split
      · exact ordered
      · next not_below other =>
        refine List.pairwise_cons.2 ⟨fun m mem => ?_, ih later⟩
        rcases mem_or_eq_of_mem_insert mem with rfl | mem
        · exact lt_of_not_lt not_below other
        · exact first m mem

theorem ordered_sorted (members : List (String × α)) : Ordered (sorted members) := by
  induction members with
  | nil => exact List.Pairwise.nil
  | cons m rest ih => exact ordered_insert ih m.1 m.2

/-- An inserted name keeps what it stood for and else stands for the new value; all other names
stand for what they stood for. -/
theorem get?_insert {members : List (String × α)} (ordered : Ordered members)
    (name other : String) (value : α) :
    get? other (insert name value members) =
      if name = other then some ((get? name members).getD value) else get? other members := by
  induction members with
  | nil => simp [insert]
  | cons n rest ih =>
    rw [insert]
    split
    · next below =>
      rw [get?_eq_none_of_lt ordered below, get?_cons]
      rfl
    · split
      · next not_below same =>
        subst same
        by_cases asked : n.1 = other
        · subst asked
          rw [if_pos rfl, get?_first]
          rfl
        · rw [if_neg asked]
      · next not_below differs =>
        have later := ih (List.pairwise_cons.1 ordered).2
        by_cases first : n.1 = other
        · subst first
          rw [if_neg differs, get?_first, get?_first]
        · rw [get?_of_ne first, get?_of_ne first, get?_of_ne (Ne.symm differs), later]

/-- Of members with one name, sorting keeps the last. -/
theorem get?_sorted_cons (name other : String) (value : α) (rest : List (String × α)) :
    get? other (sorted ((name, value) :: rest)) =
      if name = other then some ((get? name (sorted rest)).getD value)
      else get? other (sorted rest) :=
  get?_insert (ordered_sorted rest) name other value

/-- Sorting members with distinct names changes nothing that they stand for. -/
theorem get?_sorted {members : List (String × α)} (distinct : (members.map (·.1)).Nodup)
    (name : String) : get? name (sorted members) = get? name members := by
  induction members generalizing name with
  | nil => rfl
  | cons m rest ih =>
    obtain ⟨other, held⟩ := m
    obtain ⟨fresh, distinct⟩ := List.nodup_cons.1 distinct
    -- an insertion keeps what a name already stands for, so the name must be a new one
    have no_other : get? other rest = none := by
      refine get?_eq_none_iff.2 fun n mem same => fresh ?_
      exact List.mem_map.2 ⟨n, mem, same⟩
    rw [get?_sorted_cons, get?_cons, ih distinct other, ih distinct name, no_other]
    rfl

/-! ### Equality -/

/-- Ordered members that agree on every name are equal. -/
theorem eq_of_get?_eq {left right : List (String × α)} (left_ordered : Ordered left)
    (right_ordered : Ordered right) (agree : ∀ name, get? name left = get? name right) :
    left = right := by
  induction left generalizing right with
  | nil =>
    cases right with
    | nil => rfl
    | cons n rest => exact absurd (agree n.1) (by rw [get?_first]; nofun)
  | cons m left ih =>
    cases right with
    | nil => exact absurd (agree m.1) (by rw [get?_first]; nofun)
    | cons n right =>
      have same_name : m.1 = n.1 := by
        -- the smaller of two different first names would stand for something on one side only
        rcases Decidable.em (m.1 < n.1) with below | not_below
        · have missing := get?_eq_none_of_lt right_ordered below
          rw [← agree m.1, get?_first] at missing
          cases missing
        · rcases Decidable.em (m.1 = n.1) with same | differs
          · exact same
          · have missing := get?_eq_none_of_lt left_ordered (lt_of_not_lt not_below differs)
            rw [agree n.1, get?_first] at missing
            cases missing
      have same_value : m.2 = n.2 := by
        have first := agree m.1
        rw [get?_first, same_name, get?_first] at first
        exact Option.some.inj first
      have tails : left = right := by
        refine ih (List.pairwise_cons.1 left_ordered).2 (List.pairwise_cons.1 right_ordered).2 ?_
        intro name
        rcases Decidable.em (m.1 = name) with rfl | differs
        · have right_none := get?_tail_eq_none right_ordered
          rw [get?_tail_eq_none left_ordered, same_name, right_none]
        · have rest := agree name
          rwa [get?_of_ne differs, get?_of_ne (same_name ▸ differs)] at rest
      rw [tails, show m = n from Prod.ext same_name same_value]

/-- Ordered members are determined by which members they are. -/
theorem eq_of_mem_iff {left right : List (String × α)} (left_ordered : Ordered left)
    (right_ordered : Ordered right) (same : ∀ m, m ∈ left ↔ m ∈ right) : left = right := by
  refine eq_of_get?_eq left_ordered right_ordered fun name => Option.ext fun value => ?_
  rw [get?_eq_some_iff left_ordered.nodup, get?_eq_some_iff right_ordered.nodup, same]

theorem get?_eq_of_perm {left right : List (String × α)} (perm : left.Perm right)
    (distinct : (left.map (·.1)).Nodup) (name : String) : get? name left = get? name right := by
  induction perm with
  | nil => rfl
  | cons m perm ih =>
    by_cases first : m.1 = name
    · subst first
      rw [get?_first, get?_first]
    · rw [get?_of_ne first, get?_of_ne first, ih (List.nodup_cons.1 distinct).2]
  | swap m n rest =>
    have differ : n.1 ≠ m.1 := by
      have fresh := (List.nodup_cons.1 distinct).1
      intro same
      exact fresh (by simp [same])
    -- whichever of the two names is asked for, the other one does not stand in its way
    by_cases first : n.1 = name
    · subst first
      rw [get?_first, get?_of_ne (Ne.symm differ), get?_first]
    · by_cases second : m.1 = name
      · subst second
        rw [get?_of_ne first, get?_first, get?_first]
      · rw [get?_of_ne first, get?_of_ne second, get?_of_ne second, get?_of_ne first]
  | trans perm _ ih₁ ih₂ =>
    rw [ih₁ distinct, ih₂ ((perm.map _).nodup_iff.1 distinct)]

/-- Members with distinct names make the same object in every order. -/
theorem sorted_eq_of_perm {left right : List (String × α)} (perm : left.Perm right)
    (distinct : (left.map (·.1)).Nodup) : sorted left = sorted right := by
  refine eq_of_get?_eq (ordered_sorted left) (ordered_sorted right) fun name => ?_
  have right_distinct : (right.map (·.1)).Nodup := (perm.map _).nodup_iff.1 distinct
  rw [get?_sorted distinct, get?_sorted right_distinct, get?_eq_of_perm perm distinct]

/-- Of several members with one name the last one is what the name stands for. -/
theorem get?_sorted_eq_reverse (members : List (String × α)) (name : String) :
    get? name (sorted members) = get? name members.reverse := by
  induction members generalizing name with
  | nil => rfl
  | cons m rest ih =>
    obtain ⟨other, held⟩ := m
    rw [get?_sorted_cons, List.reverse_cons, get?_append, ih, ih, get?_cons, get?_nil]
    by_cases same : other = name
    · subst same
      rw [if_pos rfl, if_pos rfl]
      cases get? other rest.reverse <;> rfl
    · rw [if_neg same, if_neg same, Option.or_none]

end RefactorGateway.Json.Members

namespace RefactorGateway.Json.Document

/-! ### Members of a document -/

theorem names_memberValues (members : List (String × Document)) :
    (memberValues members).map (·.1) = members.map (·.1) := by
  rw [memberValues_eq_map, List.map_map]
  rfl

theorem get?_memberValues (name : String) (members : List (String × Document)) :
    Members.get? name (memberValues members) = (Members.get? name members).map value := by
  induction members with
  | nil => rfl
  | cons m rest ih =>
    rw [memberValues, Members.get?_cons, Members.get?_cons, ih]
    split <;> rfl

end RefactorGateway.Json.Document
