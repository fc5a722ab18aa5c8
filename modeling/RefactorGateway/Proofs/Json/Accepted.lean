import RefactorGateway.Proofs.Json.RoundTrip
import RefactorGateway.Text.Blank
/-!
# Which texts are accepted

The text of a document is accepted just if the document is readable, and what is read of it is then
the document.  So of the text of a document it is enough to know that it is accepted.  Other texts
may be accepted as well, with blanks between the lexemes and with escapes that are not needed, but
what is read of them is readable too.  And a text of nothing but blanks, whichever these are, is
never accepted.

## Main Definitions

* `Shows`: a reader can only take the text of a document that is readable
* `KeepsWithin`: a reader only gives documents that are readable
* `Spells`: a text is a spelling of a document

## Main Statements

* `shows_readNested`: the reader of values takes no texts of other documents
* `Document.read_text_eq_ok_iff`: when the text of a document is accepted, and what is read of it
* `keepsWithin_readNested`: the reader of values gives no documents that are not readable
* `Document.readable_of_read`: what is read of a text is readable
* `not_allBlank_of_read`: a text that is accepted has a character that is no blank

## Design Notes

The induction runs along the one that reads documents back.  That a list is read says that its first
item is, so this item is readable, so it is read back, and by that it is known what is left for the
other items.
-/

namespace RefactorGateway.Json

/-- If a reader with a bound on the nesting of brackets takes the text of a document, whatever
stands behind it, then the document is readable within this bound. -/
def Shows (levels : Nat) (d : Document) : Prop :=
  ∀ rest, EndsNumeral rest → ∀ taken, readNested levels (d.chars ++ rest) = .ok taken →
    d.Readable levels

/-- A step that fails fails the whole. -/
theorem exists_ok_of_bind {ε α β : Type} {first : Except ε α} {next : α → Except ε β} {b : β}
    (done : (first >>= next) = .ok b) : ∃ a, first = .ok a ∧ next a = .ok b := by
  cases first with
  | error e => cases done
  | ok a => exact ⟨a, rfl, done⟩

/-! ### Numerals -/

/-- A numeral is taken as it is spelled, and only if it is finite. -/
theorem readSpelling_of_readNumeral {negative : Bool} {cs : List Char} {taken : Taken Numeral}
    (read : readNumeral negative cs = .ok taken) :
    readSpelling negative cs = .ok taken ∧ taken.1.isFinite = true := by
  rw [readNumeral] at read
  obtain ⟨⟨numeral, rest⟩, spelling, checked⟩ := exists_ok_of_bind read
  cases finite : numeral.isFinite with
  | true =>
    simp only [finite, if_true] at checked
    cases checked
    exact ⟨spelling, finite⟩
  | false =>
    simp only [finite, Bool.false_eq_true, if_false] at checked
    split at checked <;> cases checked

theorem isFinite_of_readNumeral {n : Numeral} {rest : List Char} (ends : EndsNumeral rest)
    {taken : Taken Numeral} (read : readNumeral n.negative (n.unsigned ++ rest) = .ok taken) :
    n.isFinite = true := by
  obtain ⟨spelling, finite⟩ := readSpelling_of_readNumeral read
  rw [readSpelling_unsigned n ends] at spelling
  cases spelling
  exact finite

/-! ### Brackets -/

section Brackets

variable {levels : Nat}

/-- If further items are read, all of them are readable. -/
theorem readable_of_readMoreItems (shows_all : ∀ d, Shows levels d) (items : List Document)
    {steps : Nat} {rest : List Char} {taken : Taken (List Document)}
    (read : readMoreItems (readNested levels) steps
      (Document.moreItemChars items ++ ']' :: rest) = .ok taken) :
    ∀ item ∈ items, item.Readable levels := by
  induction items generalizing steps taken with
  | nil => exact fun item mem => absurd mem List.not_mem_nil
  | cons item items ih =>
    cases steps with
    | zero => cases read
    | succ steps =>
      have ends := endsNumeral_moreItemChars items rest
      obtain ⟨c, cs, chars, visible, other⟩ := item.exists_chars_eq_cons
      rw [Document.moreItemChars, List.cons_append, List.append_assoc, chars, List.cons_append,
        readMoreItems_comma _ _ visible other, ← List.cons_append, ← chars] at read
      obtain ⟨first, item_read, more⟩ := exists_ok_of_bind read
      have readable := shows_all item _ ends first item_read
      rw [readNested_chars readable _ ends] at item_read
      cases item_read
      obtain ⟨others, items_read, -⟩ := exists_ok_of_bind more
      exact List.forall_mem_cons.2 ⟨readable, ih items_read⟩

theorem readable_of_readItems (shows_all : ∀ d, Shows levels d) (items : List Document)
    {rest : List Char} {taken : Taken (List Document)}
    (read : readItems (readNested levels) (Document.itemChars items ++ ']' :: rest) = .ok taken) :
    ∀ item ∈ items, item.Readable levels := by
  cases items with
  | nil => exact fun item mem => absurd mem List.not_mem_nil
  | cons item items =>
    have ends := endsNumeral_moreItemChars items rest
    obtain ⟨c, cs, chars, visible, other⟩ := item.exists_chars_eq_cons
    rw [Document.itemChars_cons, List.append_assoc, chars, List.cons_append,
      readItems_cons _ visible other, ← List.cons_append, ← chars] at read
    obtain ⟨first, item_read, more⟩ := exists_ok_of_bind read
    have readable := shows_all item _ ends first item_read
    rw [readNested_chars readable _ ends] at item_read
    cases item_read
    obtain ⟨others, items_read, -⟩ := exists_ok_of_bind more
    exact List.forall_mem_cons.2 ⟨readable, readable_of_readMoreItems shows_all items items_read⟩

theorem readable_of_readMember (shows_all : ∀ d, Shows levels d) {member : String × Document}
    {rest : List Char} (ends : EndsNumeral rest) {taken : Taken (String × Document)}
    (read : readMember (readNested levels) (Document.memberTail member ++ rest) = .ok taken) :
    member.2.Readable levels := by
  rw [Document.memberTail, List.append_assoc, List.cons_append, List.cons_append] at read
  simp only [readMember, readString_quote, bind, Except.bind] at read
  rw [skipBlanks_cons rfl] at read
  obtain ⟨value, value_read, -⟩ := exists_ok_of_bind read
  exact shows_all member.2 rest ends value value_read

/-- If further members are read, the values of all of them are readable. -/
theorem readable_of_readMoreMembers (shows_all : ∀ d, Shows levels d)
    (members : List (String × Document)) {steps : Nat} {rest : List Char}
    {taken : Taken (List (String × Document))}
    (read : readMoreMembers (readNested levels) steps
      (Document.moreMemberChars members ++ '\x7d' :: rest) = .ok taken) :
    ∀ m ∈ members, m.2.Readable levels := by
  induction members generalizing steps taken with
  | nil => exact fun m mem => absurd mem List.not_mem_nil
  | cons member members ih =>
    cases steps with
    | zero => cases read
    | succ steps =>
      have ends := endsNumeral_moreMemberChars members rest
      rw [Document.moreMemberChars, List.cons_append, List.cons_append, List.append_assoc,
        readMoreMembers_comma] at read
      obtain ⟨first, member_read, more⟩ := exists_ok_of_bind read
      have readable := readable_of_readMember shows_all ends member_read
      rw [readMember_chars (readNested_chars readable) ends] at member_read
      cases member_read
      obtain ⟨others, members_read, -⟩ := exists_ok_of_bind more
      exact List.forall_mem_cons.2 ⟨readable, ih members_read⟩

theorem readable_of_readMembers (shows_all : ∀ d, Shows levels d)
    (members : List (String × Document)) {rest : List Char}
    {taken : Taken (List (String × Document))}
    (read : readMembers (readNested levels) (Document.memberChars members ++ '\x7d' :: rest) =
      .ok taken) :
    ∀ m ∈ members, m.2.Readable levels := by
  cases members with
  | nil => exact fun m mem => absurd mem List.not_mem_nil
  | cons member members =>
    have ends := endsNumeral_moreMemberChars members rest
    rw [Document.memberChars_cons, List.cons_append, List.append_assoc, readMembers_quote] at read
    obtain ⟨first, member_read, more⟩ := exists_ok_of_bind read
    have readable := readable_of_readMember shows_all ends member_read
    rw [readMember_chars (readNested_chars readable) ends] at member_read
    cases member_read
    obtain ⟨others, members_read, -⟩ := exists_ok_of_bind more
    exact List.forall_mem_cons.2
      ⟨readable, readable_of_readMoreMembers shows_all members members_read⟩

end Brackets

/-! ### Values -/

/-- A reader of values takes a numeral only if it is finite, whatever it does inside brackets. -/
theorem isFinite_of_readValue {inner : Option (Reader Document)} {n : Numeral} {rest : List Char}
    (ends : EndsNumeral rest) {taken : Taken Document}
    (read : readValue inner ((Document.numeral n).chars ++ rest) = .ok taken) :
    n.isFinite = true := by
  rw [readValue_numeral_chars] at read
  obtain ⟨number, numeral_read, -⟩ := exists_ok_of_bind read
  exact isFinite_of_readNumeral ends numeral_read

/-- The reader of values takes the text of no document that is not readable within its bound. -/
theorem shows_readNested (levels : Nat) (d : Document) : Shows levels d := by
  -- the reader of what is inside brackets is the one for a level less
  induction levels generalizing d with
  | zero =>
    intro rest ends taken read
    cases d with
    | null | bool b | string s => simp
    | numeral n => exact (Document.readable_numeral 0 n).2 (isFinite_of_readValue ends read)
    | array items =>
      rw [readNested_zero, readValue_array_chars] at read
      cases read
    | object members =>
      rw [readNested_zero, readValue_object_chars] at read
      cases read
  | succ levels ih =>
    intro rest ends taken read
    cases d with
    | null | bool b | string s => simp
    | numeral n =>
      exact (Document.readable_numeral _ n).2 (isFinite_of_readValue ends read)
    | array items =>
      rw [readNested_succ, readValue_array_chars] at read
      obtain ⟨list, list_read, -⟩ := exists_ok_of_bind read
      exact readable_of_readItems ih items list_read
    | object members =>
      rw [readNested_succ, readValue_object_chars] at read
      obtain ⟨list, list_read, -⟩ := exists_ok_of_bind read
      exact readable_of_readMembers ih members list_read

/-! ### What a reader gives -/

/-- A reader only gives documents that are readable with a bound on the nesting of brackets. -/
def KeepsWithin (levels : Nat) (reader : Reader Document) : Prop :=
  ∀ cs taken, reader cs = .ok taken → taken.1.Readable levels

section KeepsWithin

variable {levels : Nat} {reader : Reader Document}

theorem KeepsWithin.readMoreItems (keeps : KeepsWithin levels reader) {steps : Nat} {cs : List Char}
    {taken : Taken (List Document)} (read : readMoreItems reader steps cs = .ok taken) :
    ∀ item ∈ taken.1, item.Readable levels := by
  induction steps generalizing cs taken with
  | zero => cases read
  | succ steps ih =>
    unfold Json.readMoreItems at read
    split at read
    · cases read
    · cases read
      exact List.forall_mem_nil _
    · split at read
      · cases read
      · cases read
      · obtain ⟨⟨first, rest⟩, item_read, later⟩ := exists_ok_of_bind read
        obtain ⟨⟨more, rest'⟩, more_read, done⟩ := exists_ok_of_bind later
        cases done
        exact List.forall_mem_cons.2 ⟨keeps _ _ item_read, ih more_read⟩
    · cases read

theorem KeepsWithin.readItems (keeps : KeepsWithin levels reader) {cs : List Char}
    {taken : Taken (List Document)} (read : readItems reader cs = .ok taken) :
    ∀ item ∈ taken.1, item.Readable levels := by
  unfold Json.readItems at read
  split at read
  · cases read
  · cases read
    exact List.forall_mem_nil _
  · obtain ⟨⟨first, rest⟩, item_read, later⟩ := exists_ok_of_bind read
    obtain ⟨⟨more, rest'⟩, more_read, done⟩ := exists_ok_of_bind later
    cases done
    exact List.forall_mem_cons.2 ⟨keeps _ _ item_read, keeps.readMoreItems more_read⟩

theorem KeepsWithin.readMember (keeps : KeepsWithin levels reader) {cs : List Char}
    {taken : Taken (String × Document)} (read : readMember reader cs = .ok taken) :
    taken.1.2.Readable levels := by
  unfold Json.readMember at read
  obtain ⟨⟨name, rest⟩, -, later⟩ := exists_ok_of_bind read
  simp only at later
  split at later
  · obtain ⟨⟨value, rest'⟩, value_read, done⟩ := exists_ok_of_bind later
    cases done
    exact keeps _ _ value_read
  · cases later
  · cases later

theorem KeepsWithin.readMoreMembers (keeps : KeepsWithin levels reader) {steps : Nat}
    {cs : List Char} {taken : Taken (List (String × Document))}
    (read : readMoreMembers reader steps cs = .ok taken) : ∀ m ∈ taken.1, m.2.Readable levels := by
  induction steps generalizing cs taken with
  | zero => cases read
  | succ steps ih =>
    unfold Json.readMoreMembers at read
    split at read
    · cases read
    · cases read
      exact List.forall_mem_nil _
    · split at read
      · cases read
      · cases read
      · obtain ⟨⟨first, rest⟩, member_read, later⟩ := exists_ok_of_bind read
        obtain ⟨⟨more, rest'⟩, more_read, done⟩ := exists_ok_of_bind later
        cases done
        exact List.forall_mem_cons.2 ⟨keeps.readMember member_read, ih more_read⟩
      · cases read
    · cases read

theorem KeepsWithin.readMembers (keeps : KeepsWithin levels reader) {cs : List Char}
    {taken : Taken (List (String × Document))} (read : readMembers reader cs = .ok taken) :
    ∀ m ∈ taken.1, m.2.Readable levels := by
  unfold Json.readMembers at read
  split at read
  · cases read
  · cases read
    exact List.forall_mem_nil _
  · obtain ⟨⟨first, rest⟩, member_read, later⟩ := exists_ok_of_bind read
    obtain ⟨⟨more, rest'⟩, more_read, done⟩ := exists_ok_of_bind later
    cases done
    exact List.forall_mem_cons.2
      ⟨keeps.readMember member_read, keeps.readMoreMembers more_read⟩
  · cases read

/-- A reader of values keeps within a bound if what it gives of brackets does: scalars need none. -/
theorem keepsWithin_readValue {inner : Option (Reader Document)}
    (arrays : ∀ item ∈ inner, ∀ cs taken, readItems item cs = .ok taken →
      (Document.array taken.1).Readable levels)
    (objects : ∀ item ∈ inner, ∀ cs taken, readMembers item cs = .ok taken →
      (Document.object taken.1).Readable levels) : KeepsWithin levels (readValue inner) := by
  intro cs taken read
  unfold readValue at read
  split at read
  · cases read
  · next c cs _ =>
    split at read
    · obtain ⟨rest, -, done⟩ := exists_ok_of_bind read
      cases done
      exact Document.readable_null levels
    split at read
    · obtain ⟨rest, -, done⟩ := exists_ok_of_bind read
      cases done
      exact Document.readable_bool levels true
    split at read
    · obtain ⟨rest, -, done⟩ := exists_ok_of_bind read
      cases done
      exact Document.readable_bool levels false
    split at read
    · obtain ⟨⟨n, rest⟩, numeral_read, done⟩ := exists_ok_of_bind read
      cases done
      exact (Document.readable_numeral levels n).2 (readSpelling_of_readNumeral numeral_read).2
    split at read
    · obtain ⟨⟨n, rest⟩, numeral_read, done⟩ := exists_ok_of_bind read
      cases done
      exact (Document.readable_numeral levels n).2 (readSpelling_of_readNumeral numeral_read).2
    split at read
    · obtain ⟨⟨s, rest⟩, -, done⟩ := exists_ok_of_bind read
      cases done
      exact Document.readable_string levels s
    split at read
    · cases inner with
      | none => cases read
      | some item =>
        obtain ⟨⟨items, rest⟩, items_read, done⟩ := exists_ok_of_bind read
        cases done
        exact arrays item rfl cs _ items_read
    split at read
    · cases inner with
      | none => cases read
      | some item =>
        obtain ⟨⟨members, rest⟩, members_read, done⟩ := exists_ok_of_bind read
        cases done
        exact objects item rfl cs _ members_read
    · cases read

end KeepsWithin

/-- The reader of values gives no document that is not readable within its bound. -/
theorem keepsWithin_readNested (levels : Nat) : KeepsWithin levels (readNested levels) := by
  induction levels with
  | zero => exact keepsWithin_readValue nofun nofun
  | succ levels ih =>
    refine keepsWithin_readValue ?_ ?_
    · rintro item ⟨⟩ cs taken read
      exact ih.readItems read
    · rintro item ⟨⟩ cs taken read
      exact ih.readMembers read

/-! ### Texts -/

/-- A text that is accepted begins with the document that is read of it. -/
theorem exists_readNested_of_read {text : String} {d : Document}
    (accepted : Document.read text = .ok d) :
    ∃ rest, readNested nestingLimit text.toList = .ok (d, rest) := by
  unfold Document.read readWholeText at accepted
  cases read : readNested nestingLimit text.toList with
  | error stop =>
    rw [read] at accepted
    cases accepted
  | ok taken =>
    rw [read] at accepted
    simp only [bind, Except.bind] at accepted
    split at accepted
    · cases accepted
      exact ⟨taken.2, rfl⟩
    · cases accepted

/-- The text of a document is accepted just if the document is readable, and it is then read as the
document. -/
theorem Document.read_text_eq_ok_iff {d d' : Document} :
    Document.read d.text = .ok d' ↔ d.Readable nestingLimit ∧ d' = d := by
  constructor
  · intro accepted
    obtain ⟨rest, read⟩ := exists_readNested_of_read accepted
    rw [Document.text, String.toList_ofList, ← List.append_nil d.chars] at read
    have readable := shows_readNested nestingLimit d [] endsNumeral_nil _ read
    rw [Document.read_text readable] at accepted
    exact ⟨readable, (Except.ok.inj accepted).symm⟩
  · rintro ⟨readable, rfl⟩
    exact Document.read_text readable

/-- What is read of a text is readable. -/
theorem Document.readable_of_read {text : String} {d : Document}
    (accepted : Document.read text = .ok d) : d.Readable nestingLimit := by
  obtain ⟨rest, read⟩ := exists_readNested_of_read accepted
  exact keepsWithin_readNested nestingLimit _ _ read

/-- A text spells a document: it is the compact text of the document, or it is read as it. -/
def Spells (text : String) (d : Document) : Prop := text = d.text ∨ Document.read text = .ok d

/-- Whatever spells a readable document is read as it. -/
theorem Spells.read {text : String} {d : Document} (spells : Spells text d)
    (readable : d.Readable nestingLimit) : Document.read text = .ok d := by
  rcases spells with rfl | read
  · exact Document.read_text readable
  · exact read

/-- The characters with which a value can begin. -/
def firstChars : List Char :=
  ['n', 't', 'f', '-', '"', '[', '\x7b', '0', '1', '2', '3', '4', '5', '6', '7', '8', '9']

/-- No other character begins a value. -/
theorem mem_firstChars_of_readValue {inner : Option (Reader Document)} {cs : List Char}
    {taken : Taken Document} (read : readValue inner cs = .ok taken) :
    ∃ c ∈ firstChars, c ∈ cs := by
  unfold readValue at read
  split at read
  · cases read
  · next c rest skipped =>
    have first : c ∈ skipBlanks cs := skipped ▸ List.mem_cons_self
    refine ⟨c, ?_, (List.dropWhile_sublist isBlank).subset first⟩
    by_cases starts : c ∈ firstChars
    · exact starts
    · simp only [firstChars, List.mem_cons, List.not_mem_nil, or_false, not_or] at starts
      simp [starts, digit?, stopAt] at read

/-- A text of nothing but blanks is not accepted. -/
theorem not_allBlank_of_read {text : String} {d : Document}
    (accepted : Document.read text = .ok d) : Text.allBlank text = false := by
  obtain ⟨rest, read⟩ := exists_readNested_of_read accepted
  obtain ⟨c, starts, mem⟩ := mem_firstChars_of_readValue read
  have visible : firstChars.all (fun c => !Text.isBlank c) = true := by decide
  have no_blank := List.all_eq_true.1 visible c starts
  rw [Text.allBlank, List.all_eq_false]
  exact ⟨c, mem, by simpa using no_blank⟩

end RefactorGateway.Json
