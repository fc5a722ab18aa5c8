import RefactorGateway.Proofs.Json.Lexeme
/-!
# Documents read back

The reader undoes the writer: a document whose numerals are finite and whose brackets are not nested
too deep is read back from its text, member for member and digit for digit.

## Main Definitions

* `Document.Readable`: the documents that can be read with a bound on the nesting of brackets
* `ReadsBack`: a reader gives back a document from its text, whatever stands behind it

## Main Statements

* `readNested_chars`: the reader gives back the documents that are readable within its bound
* `Document.read_text`: a readable document is read back from its whole text
* `read_text`: the value of the text of a readable document is the value of the document

## Design Notes

`Document.Readable` recurses on the bound as `readNested` does, so the main induction is on the
bound, and one level of brackets is treated for an arbitrary reader of what is inside them.  The
loops over items and members are stated for the text after the first of them, where each further
one is led in by its comma.
-/

namespace RefactorGateway.Json

/-- Whether the text of a document can be read with a bound on the nesting of brackets. -/
def Document.Readable : Nat → Document → Prop
  | _, .null | _, .bool _ | _, .string _ => True
  | _, .numeral n => n.isFinite = true
  | levels + 1, .array items => ∀ item ∈ items, Readable levels item
  | levels + 1, .object members => ∀ m ∈ members, Readable levels m.2
  | 0, .array _ | 0, .object _ => False

@[simp] theorem Document.readable_null (levels : Nat) : Document.null.Readable levels := by
  cases levels <;> trivial

@[simp] theorem Document.readable_bool (levels : Nat) (b : Bool) :
    (Document.bool b).Readable levels := by
  cases levels <;> trivial

@[simp] theorem Document.readable_string (levels : Nat) (s : String) :
    (Document.string s).Readable levels := by
  cases levels <;> trivial

@[simp] theorem Document.readable_numeral (levels : Nat) (n : Numeral) :
    (Document.numeral n).Readable levels ↔ n.isFinite = true := by
  cases levels <;> exact Iff.rfl

@[simp] theorem Document.readable_array (levels : Nat) (items : List Document) :
    (Document.array items).Readable (levels + 1) ↔ ∀ item ∈ items, item.Readable levels :=
  Iff.rfl

@[simp] theorem Document.readable_object (levels : Nat) (members : List (String × Document)) :
    (Document.object members).Readable (levels + 1) ↔ ∀ m ∈ members, m.2.Readable levels :=
  Iff.rfl

/-- More levels of brackets do no harm. -/
theorem Document.Readable.mono {levels more : Nat} (le : levels ≤ more) {d : Document}
    (readable : d.Readable levels) : d.Readable more := by
  induction levels generalizing more d with
  | zero =>
    cases d with
    | array items => exact absurd readable id
    | object members => exact absurd readable id
    | numeral n => exact (readable_numeral more n).2 readable
    | null | bool b | string s => simp
  | succ levels ih =>
    obtain ⟨more, rfl⟩ : ∃ k, more = k + 1 := ⟨more - 1, by omega⟩
    have le : levels ≤ more := by omega
    cases d with
    | array items => exact fun item h => ih le (readable item h)
    | object members => exact fun m h => ih le (readable m h)
    | numeral n => exact (readable_numeral (more + 1) n).2 readable
    | null | bool b | string s => simp

/-- A reader gives back a document from its text, and leaves what stands behind it. -/
def ReadsBack (reader : Reader Document) (d : Document) : Prop :=
  ∀ rest, EndsNumeral rest → reader (d.chars ++ rest) = .ok (d, rest)

/-! ### First characters -/

theorem skipBlanks_cons {c : Char} (visible : isBlank c = false) (cs : List Char) :
    skipBlanks (c :: cs) = c :: cs := by
  simp only [skipBlanks, List.dropWhile_cons, visible]
  rfl

theorem digitChar_starts (d : Fin 10) :
    isBlank (digitChar d) = false ∧ digitChar d ≠ ']' ∧ digitChar d ≠ 'n' ∧ digitChar d ≠ 't' ∧
      digitChar d ≠ 'f' ∧ digitChar d ≠ '-' := by
  revert d
  decide

/-- The text of a document begins with a character that is no blank and closes no list. -/
theorem Document.exists_chars_eq_cons (d : Document) :
    ∃ c cs, d.chars = c :: cs ∧ isBlank c = false ∧ c ≠ ']' := by
  cases d with
  | null => exact ⟨'n', _, rfl, rfl, by decide⟩
  | bool b =>
    cases b
    · exact ⟨'f', _, rfl, rfl, by decide⟩
    · exact ⟨'t', _, rfl, rfl, by decide⟩
  | numeral n =>
    obtain ⟨d, cs, unsigned⟩ := exists_unsigned_eq_cons n
    rw [Document.chars, Numeral.chars_eq, unsigned]
    cases n.negative
    · exact ⟨digitChar d, cs, rfl, (digitChar_starts d).1, (digitChar_starts d).2.1⟩
    · exact ⟨'-', _, rfl, rfl, by decide⟩
  | string s => exact ⟨'"', _, rfl, rfl, by decide⟩
  | array items => exact ⟨'[', _, rfl, rfl, by decide⟩
  | object members => exact ⟨'\x7b', _, rfl, rfl, by decide⟩

/-! ### Items -/

/-- The text of the items after the first one, each after its comma. -/
def Document.moreItemChars : List Document → List Char
  | [] => []
  | item :: rest => ',' :: (item.chars ++ moreItemChars rest)

theorem Document.itemChars_cons (item : Document) (rest : List Document) :
    Document.itemChars (item :: rest) = item.chars ++ Document.moreItemChars rest := by
  induction rest generalizing item with
  | nil => simp [Document.itemChars, Document.moreItemChars]
  | cons next rest ih => rw [Document.itemChars, ih next]; rfl

theorem Document.length_le_length_moreItemChars (items : List Document) :
    items.length ≤ (Document.moreItemChars items).length := by
  induction items with
  | nil => exact Nat.le_refl _
  | cons item rest ih =>
    simp only [Document.moreItemChars, List.length_cons, List.length_append]
    omega

/-- What stands behind an item ends a numeral: a comma or the closing bracket. -/
theorem endsNumeral_moreItemChars (items : List Document) (rest : List Char) :
    EndsNumeral (Document.moreItemChars items ++ ']' :: rest) := by
  cases items with
  | nil => exact endsNumeral_cons.2 (by decide)
  | cons item items => exact endsNumeral_cons.2 (by decide)

theorem readItems_cons (reader : Reader Document) {c : Char} (visible : isBlank c = false)
    (other : c ≠ ']') (cs : List Char) :
    readItems reader (c :: cs) = (do
      let (first, rest) ← reader (c :: cs)
      let (more, rest) ← readMoreItems reader (rest.length + 1) rest
      return (first :: more, rest)) := by
  rw [readItems, skipBlanks_cons visible]
  split
  · next h => cases h
  · next h => exact absurd (List.cons.inj h).1 other
  · rfl

theorem readMoreItems_comma (reader : Reader Document) (steps : Nat) {c : Char}
    (visible : isBlank c = false) (other : c ≠ ']') (cs : List Char) :
    readMoreItems reader (steps + 1) (',' :: c :: cs) = (do
      let (first, rest) ← reader (c :: cs)
      let (more, rest) ← readMoreItems reader steps rest
      return (first :: more, rest)) := by
  rw [readMoreItems, skipBlanks_cons rfl]
  simp only [skipBlanks_cons visible]
  split
  · next h => cases h
  · next h => exact absurd (List.cons.inj h).1 other
  · rfl

theorem readMoreItems_chars {reader : Reader Document} (items : List Document)
    (back : ∀ item ∈ items, ReadsBack reader item) {steps : Nat} (enough : items.length < steps)
    (rest : List Char) :
    readMoreItems reader steps (Document.moreItemChars items ++ ']' :: rest) =
      .ok (items, rest) := by
  induction items generalizing steps with
  | nil =>
    obtain ⟨steps, rfl⟩ : ∃ k, steps = k + 1 := ⟨steps - 1, by simp at enough; omega⟩
    rfl
  | cons item items ih =>
    obtain ⟨steps, rfl⟩ : ∃ k, steps = k + 1 := ⟨steps - 1, by simp at enough; omega⟩
    -- the comma of the next item ends a numeral in this one
    have first := back item (by simp) _ (endsNumeral_moreItemChars items rest)
    have shorter : items.length < steps := by simpa using enough
    have more := ih (fun d hd => back d (by simp [hd])) shorter
    obtain ⟨c, cs, chars, visible, other⟩ := item.exists_chars_eq_cons
    rw [Document.moreItemChars, List.cons_append, List.append_assoc]
    rw [chars, List.cons_append] at first ⊢
    rw [readMoreItems_comma reader steps visible other]
    simp only [first, more, bind, Except.bind]
    rfl

theorem readItems_chars {reader : Reader Document} (items : List Document)
    (back : ∀ item ∈ items, ReadsBack reader item) (rest : List Char) :
    readItems reader (Document.itemChars items ++ ']' :: rest) = .ok (items, rest) := by
  cases items with
  | nil => rfl
  | cons item items =>
    have first := back item (by simp) _ (endsNumeral_moreItemChars items rest)
    -- every item takes a character at least, so the steps of the loop suffice
    have enough : items.length < (Document.moreItemChars items ++ ']' :: rest).length + 1 := by
      have := Document.length_le_length_moreItemChars items
      simp only [List.length_append, List.length_cons]
      omega
    have more := readMoreItems_chars items (fun d hd => back d (by simp [hd])) enough rest
    obtain ⟨c, cs, chars, visible, other⟩ := item.exists_chars_eq_cons
    rw [Document.itemChars_cons, List.append_assoc]
    rw [chars, List.cons_append] at first ⊢
    rw [readItems_cons reader visible other]
    simp only [first, more, bind, Except.bind]
    rfl

/-! ### Members -/

/-- The text of a member after the opening quotation mark of its name. -/
def Document.memberTail (member : String × Document) : List Char :=
  member.1.toList.flatMap escape ++ '"' :: ':' :: member.2.chars

/-- The text of the members after the first one, each after its comma. -/
def Document.moreMemberChars : List (String × Document) → List Char
  | [] => []
  | member :: rest => ',' :: '"' :: (memberTail member ++ moreMemberChars rest)

theorem Document.memberChars_cons (member : String × Document) (rest : List (String × Document)) :
    Document.memberChars (member :: rest) =
      '"' :: (Document.memberTail member ++ Document.moreMemberChars rest) := by
  induction rest generalizing member with
  | nil => simp [Document.memberChars, Document.moreMemberChars, Document.memberTail, quote]
  | cons next rest ih =>
    rw [Document.memberChars, ih next]
    simp [Document.moreMemberChars, Document.memberTail, quote]

theorem Document.length_le_length_moreMemberChars (members : List (String × Document)) :
    members.length ≤ (Document.moreMemberChars members).length := by
  induction members with
  | nil => exact Nat.le_refl _
  | cons member rest ih =>
    simp only [Document.moreMemberChars, List.length_cons, List.length_append]
    omega

/-- What stands behind a member ends a numeral: a comma or the closing brace. -/
theorem endsNumeral_moreMemberChars (members : List (String × Document)) (rest : List Char) :
    EndsNumeral (Document.moreMemberChars members ++ '\x7d' :: rest) := by
  cases members with
  | nil => exact endsNumeral_cons.2 (by decide)
  | cons member members => exact endsNumeral_cons.2 (by decide)

theorem readMember_chars {reader : Reader Document} {member : String × Document}
    (back : ReadsBack reader member.2) {rest : List Char} (ends : EndsNumeral rest) :
    readMember reader (Document.memberTail member ++ rest) = .ok (member, rest) := by
  have value := back rest ends
  rw [Document.memberTail, List.append_assoc, List.cons_append, List.cons_append]
  simp only [readMember, readString_quote, bind, Except.bind]
  rw [skipBlanks_cons rfl]
  simp only [value]
  rfl

theorem readMembers_quote (reader : Reader Document) (cs : List Char) :
    readMembers reader ('"' :: cs) = (do
      let (first, rest) ← readMember reader cs
      let (more, rest) ← readMoreMembers reader (rest.length + 1) rest
      return (first :: more, rest)) := by
  rw [readMembers, skipBlanks_cons rfl]
  rfl

theorem readMoreMembers_comma (reader : Reader Document) (steps : Nat) (cs : List Char) :
    readMoreMembers reader (steps + 1) (',' :: '"' :: cs) = (do
      let (first, rest) ← readMember reader cs
      let (more, rest) ← readMoreMembers reader steps rest
      return (first :: more, rest)) := by
  rw [readMoreMembers, skipBlanks_cons rfl]
  simp only [skipBlanks_cons (show isBlank '"' = false by decide)]

theorem readMoreMembers_chars {reader : Reader Document} (members : List (String × Document))
    (back : ∀ member ∈ members, ReadsBack reader member.2) {steps : Nat}
    (enough : members.length < steps) (rest : List Char) :
    readMoreMembers reader steps (Document.moreMemberChars members ++ '\x7d' :: rest) =
      .ok (members, rest) := by
  induction members generalizing steps with
  | nil =>
    obtain ⟨steps, rfl⟩ : ∃ k, steps = k + 1 := ⟨steps - 1, by simp at enough; omega⟩
    rfl
  | cons member members ih =>
    obtain ⟨steps, rfl⟩ : ∃ k, steps = k + 1 := ⟨steps - 1, by simp at enough; omega⟩
    have first := readMember_chars (back member (by simp))
      (endsNumeral_moreMemberChars members rest)
    have shorter : members.length < steps := by simpa using enough
    have more := ih (fun m hm => back m (by simp [hm])) shorter
    rw [Document.moreMemberChars, List.cons_append, List.cons_append, List.append_assoc,
      readMoreMembers_comma]
    simp only [first, more, bind, Except.bind]
    rfl

theorem readMembers_chars {reader : Reader Document} (members : List (String × Document))
    (back : ∀ member ∈ members, ReadsBack reader member.2) (rest : List Char) :
    readMembers reader (Document.memberChars members ++ '\x7d' :: rest) = .ok (members, rest) := by
  cases members with
  | nil => rfl
  | cons member members =>
    have first := readMember_chars (back member (by simp))
      (endsNumeral_moreMemberChars members rest)
    have enough :
        members.length < (Document.moreMemberChars members ++ '\x7d' :: rest).length + 1 := by
      have := Document.length_le_length_moreMemberChars members
      simp only [List.length_append, List.length_cons]
      omega
    have more := readMoreMembers_chars members (fun m hm => back m (by simp [hm])) enough rest
    rw [Document.memberChars_cons, List.cons_append, List.append_assoc, readMembers_quote]
    simp only [first, more, bind, Except.bind]
    rfl

/-! ### Values -/

theorem readValue_numeral_chars (inner : Option (Reader Document)) (n : Numeral)
    (rest : List Char) :
    readValue inner ((Document.numeral n).chars ++ rest) = (do
      let (m, rest) ← readNumeral n.negative (n.unsigned ++ rest)
      return (.numeral m, rest)) := by
  cases negative : n.negative with
  | true =>
    have chars : (Document.numeral n).chars = '-' :: n.unsigned := by
      simp [Document.chars, Numeral.chars_eq, negative]
    rw [chars, List.cons_append, readValue, skipBlanks_cons rfl]
    simp
  | false =>
    have chars : (Document.numeral n).chars = n.unsigned := by
      simp [Document.chars, Numeral.chars_eq, negative]
    obtain ⟨d, cs, unsigned⟩ := exists_unsigned_eq_cons n
    obtain ⟨visible, -, no_n, no_t, no_f, no_minus⟩ := digitChar_starts d
    rw [chars, unsigned, List.cons_append, readValue, skipBlanks_cons visible]
    simp [no_n, no_t, no_f, no_minus]

theorem readValue_numeral (inner : Option (Reader Document)) (n : Numeral)
    (finite : n.isFinite = true) : ReadsBack (readValue inner) (.numeral n) := by
  intro rest ends
  rw [readValue_numeral_chars, readNumeral_chars n finite ends]
  rfl

theorem readValue_string (inner : Option (Reader Document)) (s : String) :
    ReadsBack (readValue inner) (.string s) := by
  intro rest _
  have read := readString_quote s rest
  have chars : (Document.string s).chars ++ rest =
      '"' :: (s.toList.flatMap escape ++ '"' :: rest) := by
    simp [Document.chars, quote]
  rw [chars, readValue, skipBlanks_cons rfl]
  simp [read, bind, Except.bind, pure, Except.pure, digit?]

theorem readValue_array_chars (inner : Option (Reader Document)) (items : List Document)
    (rest : List Char) :
    readValue inner ((Document.array items).chars ++ rest) =
      match inner with
      | none => stopAt .nestedTooDeep ('[' :: (Document.itemChars items ++ ']' :: rest))
      | some item => do
        let (items, rest) ← readItems item (Document.itemChars items ++ ']' :: rest)
        return (.array items, rest) := by
  have chars : (Document.array items).chars ++ rest =
      '[' :: (Document.itemChars items ++ ']' :: rest) := by
    simp [Document.chars]
  rw [chars, readValue, skipBlanks_cons rfl]
  cases inner <;> simp [digit?]

theorem readValue_array {reader : Reader Document} (items : List Document)
    (back : ∀ item ∈ items, ReadsBack reader item) :
    ReadsBack (readValue (some reader)) (.array items) := by
  intro rest _
  rw [readValue_array_chars]
  simp only [readItems_chars items back rest, bind, Except.bind]
  rfl

theorem readValue_object_chars (inner : Option (Reader Document))
    (members : List (String × Document)) (rest : List Char) :
    readValue inner ((Document.object members).chars ++ rest) =
      match inner with
      | none =>
        stopAt .nestedTooDeep ('\x7b' :: (Document.memberChars members ++ '\x7d' :: rest))
      | some item => do
        let (members, rest) ← readMembers item (Document.memberChars members ++ '\x7d' :: rest)
        return (.object members, rest) := by
  have chars : (Document.object members).chars ++ rest =
      '\x7b' :: (Document.memberChars members ++ '\x7d' :: rest) := by
    simp [Document.chars]
  rw [chars, readValue, skipBlanks_cons rfl]
  cases inner <;> simp [digit?]

theorem readValue_object {reader : Reader Document} (members : List (String × Document))
    (back : ∀ member ∈ members, ReadsBack reader member.2) :
    ReadsBack (readValue (some reader)) (.object members) := by
  intro rest _
  rw [readValue_object_chars]
  simp only [readMembers_chars members back rest, bind, Except.bind]
  rfl

/-- Scalars are read back by every reader of values, whatever it does inside brackets. -/
theorem readValue_scalar (inner : Option (Reader Document)) {d : Document}
    (readable : d.Readable 0) : ReadsBack (readValue inner) d := by
  cases d with
  | null => exact fun rest _ => rfl
  | bool b => cases b <;> exact fun rest _ => rfl
  | numeral n => exact readValue_numeral inner n readable
  | string s => exact readValue_string inner s
  | array items => exact absurd readable id
  | object members => exact absurd readable id

/-- The reader gives back every document that is readable within its bound. -/
theorem readNested_chars {levels : Nat} {d : Document} (readable : d.Readable levels) :
    ReadsBack (readNested levels) d := by
  -- the reader of what is inside brackets is the one for a level less
  induction levels generalizing d with
  | zero => exact readValue_scalar none readable
  | succ levels ih =>
    cases d with
    | array items => exact readValue_array items fun item h => ih (readable item h)
    | object members => exact readValue_object members fun m h => ih (readable m h)
    | null | bool b | numeral n | string s => exact readValue_scalar _ readable

/-! ### Texts -/

/-- A readable document is read back from its text. -/
theorem Document.read_text {d : Document} (readable : d.Readable nestingLimit) :
    Document.read d.text = .ok d := by
  have back := readNested_chars readable [] endsNumeral_nil
  rw [List.append_nil] at back
  simp only [Document.read, Document.text, String.toList_ofList, readWholeText, back, bind,
    Except.bind]
  rfl

/-- The text of a readable document has the value of the document. -/
theorem read_text {d : Document} (readable : d.Readable nestingLimit) :
    read d.text = .ok d.value := by
  rw [read, Document.read_text readable]
  rfl

end RefactorGateway.Json
