import RefactorGateway.Report.Layout
import RefactorGateway.Proofs.Text.Ending
/-!
# Lines of a report

A report is put together from lines, and whoever reads it splits it at newlines.  It has the lines
that it was put together from as long as no newline stands in one of them.  What the bridge sends as
a name may hold one; the part of a source snippet that is shown, and numbers, cannot.

## Main Definitions

* `below`: lines that each stand on a new line
* `linesOf`: a text split at newlines
* `SingleLine`: no newline stands in a text
* `shownLines`: the lines of a list of which only the first entries are shown

## Main Statements

* `joinLines_cons`: a report is its first line and what stands below it
* `linesOf_append_newline`: a text falls apart at each newline
* `linesOf_joinLines`: a report has the lines of its lines
* `singleLine_contextLine`: whatever a snippet is, what is shown of it is one line
-/

namespace RefactorGateway.Report

open Bridge (UsageInfo)

/-! ### Putting lines together -/

/-- Lines that each stand on a new line. -/
def below (lines : List String) : String := String.join (lines.map fun line => "\n" ++ line)

theorem below_nil : below [] = "" := rfl

theorem below_cons (line : String) (lines : List String) :
    below (line :: lines) = "\n" ++ line ++ below lines :=
  String.join_cons

theorem below_append (lines more : List String) :
    below (lines ++ more) = below lines ++ below more := by
  rw [below, List.map_append, String.join_append]
  rfl

theorem below_flatMap {α : Type} (entries : List α) (lines : α → List String) :
    below (entries.flatMap lines) = String.join (entries.map fun entry => below (lines entry)) := by
  induction entries with
  | nil => rfl
  | cons entry rest ih =>
    rw [List.flatMap_cons, below_append, ih, List.map_cons, String.join_cons]

/-- A report is its first line and what stands below it. -/
theorem joinLines_cons (first : String) (rest : List String) :
    joinLines (first :: rest) = first ++ below rest := by
  induction rest generalizing first with
  | nil => exact String.intercalate_singleton.trans String.append_empty.symm
  | cons second rest ih =>
    calc joinLines (first :: second :: rest)
        = first ++ "\n" ++ joinLines (second :: rest) := String.intercalate_cons_cons
      _ = first ++ below (second :: rest) := by
          rw [ih, below_cons, String.append_assoc, String.append_assoc]

/-! ### Splitting at newlines -/

/-- The lines of a text, split at each newline. -/
def linesOf (text : String) : List String := (text.split '\n').toList.map String.Slice.copy

/-- No newline stands in a text. -/
def SingleLine (text : String) : Prop := '\n' ∉ text.toList

instance : DecidablePred SingleLine := fun text => inferInstanceAs (Decidable ('\n' ∉ text.toList))

theorem linesOf_eq (text : String) :
    linesOf text = (text.toList.splitOn '\n').map String.ofList :=
  String.toList_split_char

theorem SingleLine.linesOf {text : String} (single : SingleLine text) : linesOf text = [text] := by
  rw [linesOf_eq, List.splitOn_eq_singleton single, List.map_singleton, String.ofList_toList]

theorem toList_append_newline (first rest : String) :
    (first ++ "\n" ++ rest).toList = first.toList ++ '\n' :: rest.toList := by
  rw [String.append_assoc, String.toList_append, String.toList_append]
  rfl

/-- **A text falls apart at each newline.**  All that is known of splitting follows from this. -/
theorem linesOf_append_newline (first rest : String) :
    linesOf (first ++ "\n" ++ rest) = linesOf first ++ linesOf rest := by
  rw [linesOf_eq, toList_append_newline, List.splitOn_append_cons_self, List.map_append,
    ← linesOf_eq, ← linesOf_eq]

/-- What stands below a text has the lines of its lines. -/
theorem linesOf_append_below (first : String) (lines : List String) :
    linesOf (first ++ below lines) = linesOf first ++ lines.flatMap linesOf := by
  induction lines generalizing first with
  | nil => rw [below_nil, String.append_empty, List.flatMap_nil, List.append_nil]
  | cons line lines ih =>
    calc linesOf (first ++ below (line :: lines))
        = linesOf (first ++ "\n" ++ (line ++ below lines)) := by
          simp only [below_cons, String.append_assoc]
      _ = linesOf first ++ (linesOf line ++ lines.flatMap linesOf) := by
          rw [linesOf_append_newline, ih]
      _ = linesOf first ++ (line :: lines).flatMap linesOf := by rw [List.flatMap_cons]

theorem flatMap_linesOf {lines : List String} (single : ∀ line ∈ lines, SingleLine line) :
    lines.flatMap linesOf = lines := by
  have each : lines.flatMap linesOf = lines.flatMap fun line => [line] :=
    List.flatMap_congr fun line mem => (single line mem).linesOf
  rw [each, List.flatMap_singleton']

/-- A report has the lines of its first line, and then the lines that it was put together from, as
long as each of these is one. -/
theorem linesOf_joinLines_cons (first : String) {rest : List String}
    (single : ∀ line ∈ rest, SingleLine line) :
    linesOf (joinLines (first :: rest)) = linesOf first ++ rest := by
  rw [joinLines_cons, linesOf_append_below, flatMap_linesOf single]

/-- Entries of the same number of lines have that many times their number. -/
theorem length_flatMap_of_forall {α : Type} {lines : α → List String} {n : Nat}
    (each : ∀ entry, (lines entry).length = n) (entries : List α) :
    (entries.flatMap lines).length = n * entries.length := by
  induction entries with
  | nil => rfl
  | cons entry rest ih =>
    rw [List.flatMap_cons, List.length_append, each, ih, List.length_cons, Nat.mul_succ,
      Nat.add_comm]

/-! ### What has no newline -/

theorem SingleLine.append {first rest : String} (single : SingleLine first)
    (single' : SingleLine rest) : SingleLine (first ++ rest) := by
  unfold SingleLine at *
  rw [String.toList_append, List.mem_append]
  exact not_or.2 ⟨single, single'⟩

/-- No newline stands in the digits of a number. -/
theorem singleLine_number (n : Nat) : SingleLine (toString n) := by
  intro mem
  have digit : ('\n').isDigit = true := by
    refine Nat.isDigit_of_mem_toDigits (b := 10) (n := n) (by decide) (by decide) ?_
    rwa [← Nat.toList_repr]
  exact absurd digit (by decide)

theorem singleLine_placeText {file : String} (single : SingleLine file) (line : UInt32) :
    SingleLine (placeText file line) :=
  (single.append (by decide)).append (singleLine_number line.toNat)

theorem singleLine_moreLine (n : Nat) : SingleLine (moreLine n) :=
  ((by decide : SingleLine "  ... and ").append (singleLine_number n)).append (by decide)

/-- Cutting characters leaves none that was not there, but dots. -/
theorem mem_cutChars {cs : List Char} {c : Char} (mem : c ∈ cutChars cs) : c ∈ cs ∨ c = '.' := by
  unfold cutChars at mem
  split at mem
  · rcases List.mem_append.1 mem with kept | dots
    · exact Or.inl (List.mem_of_mem_take kept)
    · exact Or.inr (by simpa using dots)
  · exact Or.inl mem

/-- **Whatever a snippet is, what is shown of it is one line.** -/
theorem singleLine_contextLine (text : String) : SingleLine (contextLine text) := by
  unfold SingleLine contextLine
  rw [String.toList_ofList]
  intro mem
  rcases mem_cutChars mem with inside | dot
  · -- trimming and cutting keep within the first line, which stops in front of a newline
    have before : '\n' ∈ firstLine text.toList := Text.trimChars_subset _ inside
    have other := List.mem_takeWhile_imp before
    exact absurd rfl (of_decide_eq_true other)
  · exact absurd dot (by decide)

/-! ### Long lists -/

/-- The lines of a list of which only the first entries are shown, with a line for the others. -/
def shownLines {α : Type} (most : Nat) (lines : α → List String) (entries : List α) :
    List String :=
  (entries.take most).flatMap lines
    ++ if most < entries.length then
        ["  ... and " ++ toString (entries.length - most) ++ " more"]
      else []

section Shown

variable {α : Type} {lines : α → List String} {entries : List α}

theorem length_shownLines {n : Nat} (each : ∀ entry, (lines entry).length = n) (most : Nat)
    (entries : List α) :
    (shownLines most lines entries).length =
      n * min entries.length most + if most < entries.length then 1 else 0 := by
  rw [shownLines, List.length_append, length_flatMap_of_forall each, List.length_take, Nat.min_comm]
  split <;> rfl

/-- The line for the others comes last. -/
theorem getLast?_shownLines {most : Nat} (many : most < entries.length) :
    (shownLines most lines entries).getLast? =
      some ("  ... and " ++ toString (entries.length - most) ++ " more") := by
  rw [shownLines, if_pos many, List.getLast?_append, List.getLast?_singleton, Option.some_or]

theorem singleLine_shownLines (single : ∀ entry ∈ entries, ∀ line ∈ lines entry, SingleLine line)
    (most : Nat) : ∀ line ∈ shownLines most lines entries, SingleLine line := by
  intro line mem
  rcases List.mem_append.1 mem with own | others
  · obtain ⟨entry, shown, mem⟩ := List.mem_flatMap.1 own
    exact single entry (List.mem_of_mem_take shown) line mem
  · split at others
    · rw [List.mem_singleton.1 others]
      exact singleLine_moreLine (entries.length - most)
    · exact absurd others List.not_mem_nil

end Shown

/-! ### Usages -/

theorem singleLine_usageLines {u : UsageInfo} (single : SingleLine u.file) :
    ∀ line ∈ usageLines u, SingleLine line := by
  have mark : SingleLine (usageMark u.isWriteAccess) := by
    cases u.isWriteAccess <;> decide
  have place : SingleLine (placeText u.file u.line) := singleLine_placeText single u.line
  have blank : SingleLine "  " := by decide
  intro line mem
  rcases List.mem_cons.1 mem with rfl | mem
  · refine ((((blank.append mark).append ?_).append place).append ?_).append
      (singleLine_number u.column.toNat)
    · decide
    · decide
  · rw [List.mem_singleton.1 mem]
    exact (by decide : SingleLine "     ").append (singleLine_contextLine u.text)

end RefactorGateway.Report
