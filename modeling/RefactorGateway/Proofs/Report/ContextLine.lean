import RefactorGateway.Proofs.Report.Lines
import RefactorGateway.Proofs.Text.Trimming
/-!
# Context lines

Of a source snippet a report shows the first line, without the blanks at its ends, and of a wide
line only the beginning.  What is shown once is shown the same again.

## Main Definitions

* `FirstLine`: a text, and its first line

## Main Statements

* `FirstLine.contextLine_eq`: nothing behind the first line counts
* `contextLine_of_narrow`, `contextLine_of_wide`: what is shown of a line that fits, and of one that
  does not
* `bareEnds_contextLine`: what is shown neither begins nor ends with a blank
* `contextLine_shows_first_line`: all of this, and that it is shown the same again

## Design Notes

A carriage return in front of a newline may be counted to the line or to the line break.  It is a
blank, so trimming takes it away in either case, and `FirstLine` admits both.
-/

namespace RefactorGateway.Report

open Text (BareEnds Trimmed isBlank)

/-- A text, and its first line: the whole text if no newline stands in it, and what stands in front
of the first newline if one does, with or without the carriage return at its end. -/
inductive FirstLine : String → String → Prop
  | whole {line : String} (single : SingleLine line) : FirstLine line line
  | newline {line : String} (single : SingleLine line) (rest : String) :
    FirstLine (line ++ "\n" ++ rest) line
  | carriageReturn {line : String} (single : SingleLine line) (rest : String) :
    FirstLine (line ++ "\r\n" ++ rest) line

/-- Every text has a first line. -/
theorem exists_firstLine (text : String) : ∃ line, FirstLine text line := by
  by_cases single : SingleLine text
  · exact ⟨text, .whole single⟩
  · obtain ⟨line, rest, split, before⟩ := List.eq_append_cons_of_mem (not_not.1 single)
    have parts : text = String.ofList line ++ "\n" ++ String.ofList rest := by
      apply String.toList_inj.1
      rw [toList_append_newline, String.toList_ofList, String.toList_ofList, split]
    have no_newline : SingleLine (String.ofList line) := by rwa [SingleLine, String.toList_ofList]
    exact ⟨String.ofList line, parts ▸ .newline no_newline _⟩

/-! ### The first line -/

section FirstLine

variable {text line core : String}

theorem firstLine_toList (single : SingleLine line) : firstLine line.toList = line.toList := by
  refine List.takeWhile_eq_self_iff.2 fun c mem => decide_eq_true ?_
  rintro rfl
  exact single mem

theorem contextLine_of_singleLine (single : SingleLine line) :
    contextLine line = String.ofList (cutChars (Text.trim line).toList) := by
  rw [contextLine, firstLine_toList single, Text.trim, String.toList_ofList]

theorem contextLine_append_newline (single : SingleLine line) (rest : String) :
    contextLine (line ++ "\n" ++ rest) = contextLine line := by
  have stops : firstLine (line ++ "\n" ++ rest).toList = firstLine line.toList := by
    rw [toList_append_newline, firstLine_toList single, firstLine, List.takeWhile_append_of_pos,
      List.takeWhile_cons_of_neg (by decide), List.append_nil]
    exact List.takeWhile_eq_self_iff.1 (firstLine_toList single)
  rw [contextLine, stops, contextLine]

/-- Nothing behind the first line counts. -/
theorem FirstLine.contextLine_eq (first : FirstLine text line) :
    contextLine text = contextLine line := by
  cases first with
  | whole single => rfl
  | newline single rest => exact contextLine_append_newline single rest
  | carriageReturn single rest =>
    have single' : SingleLine (line ++ "\r") := single.append (by decide)
    have both : "\r\n" = "\r" ++ "\n" := by decide
    rw [both, ← String.append_assoc, contextLine_append_newline single',
      contextLine_of_singleLine single', contextLine_of_singleLine single,
      Text.trim_append_of_allBlank (by decide)]

theorem FirstLine.singleLine (first : FirstLine text line) : SingleLine line := by
  cases first with
  | whole single | newline single rest | carriageReturn single rest => exact single

theorem FirstLine.contextLine_eq_cutChars (first : FirstLine text line)
    (trimmed : Trimmed line core) : contextLine text = String.ofList (cutChars core.toList) := by
  rw [first.contextLine_eq, contextLine_of_singleLine first.singleLine, trimmed.eq_trim]

/-! ### Its width -/

/-- A line that fits is shown as it is. -/
theorem contextLine_of_narrow (first : FirstLine text line) (trimmed : Trimmed line core)
    (narrow : core.length ≤ 80) : contextLine text = core := by
  have fits : ¬ core.toList.length > contextWidth := by
    rw [String.length_toList]
    exact Nat.not_lt.2 narrow
  rw [first.contextLine_eq_cutChars trimmed, cutChars, if_neg fits, String.ofList_toList]

/-- Of a line that does not fit, the beginning is shown. -/
theorem contextLine_of_wide (first : FirstLine text line) (trimmed : Trimmed line core)
    (wide : 80 < core.length) : contextLine text = (core.take 77).copy ++ "..." := by
  have exceeds : core.toList.length > contextWidth := by
    rwa [String.length_toList]
  rw [first.contextLine_eq_cutChars trimmed, cutChars, if_pos exceeds]
  apply String.toList_inj.1
  rw [String.toList_ofList, String.toList_append, String.toList_copy_take]
  rfl

theorem length_take_append_dots (wide : 80 < core.length) :
    ((core.take 77).copy ++ "...").length = 80 := by
  rw [← String.length_toList, String.toList_append, String.toList_copy_take, List.length_append,
    List.length_take, String.length_toList, Nat.min_eq_left (by omega)]
  rfl

/-- Dots behind the beginning of a text leave no blank at its ends. -/
theorem bareEnds_take_append_dots (bare : BareEnds core) :
    BareEnds ((core.take 77).copy ++ "...") := by
  rw [Text.bareEnds_iff] at bare ⊢
  rw [String.toList_append, String.toList_copy_take, List.head?_append, List.getLast?_append,
    List.head?_take, if_neg (by decide)]
  refine ⟨?_, rfl⟩
  cases begins : core.toList.head? with
  | none => rfl
  | some c =>
    rw [begins] at bare
    exact bare.1

end FirstLine

/-! ### What is shown -/

theorem length_contextLine_le (text : String) : (contextLine text).length ≤ 80 := by
  obtain ⟨line, first⟩ := exists_firstLine text
  have trimmed := Text.trimmed_trim line
  rcases Nat.lt_or_ge 80 (Text.trim line).length with wide | narrow
  · rw [contextLine_of_wide first trimmed wide, length_take_append_dots wide]
  · rwa [contextLine_of_narrow first trimmed narrow]

/-- What is shown neither begins nor ends with a blank. -/
theorem bareEnds_contextLine (text : String) : BareEnds (contextLine text) := by
  obtain ⟨line, first⟩ := exists_firstLine text
  have trimmed := Text.trimmed_trim line
  rcases Nat.lt_or_ge 80 (Text.trim line).length with wide | narrow
  · rw [contextLine_of_wide first trimmed wide]
    exact bareEnds_take_append_dots trimmed.bare
  · rw [contextLine_of_narrow first trimmed narrow]
    exact trimmed.bare

/-- **A context line shows the first line of a snippet.**  Whatever the snippet is, its context line
is one line of at most eighty characters and neither begins nor ends with a blank.  Every snippet
has a first line, and this can be trimmed; what is then left is shown as it is if it has at most
eighty characters, and otherwise its first seventy-seven are, with three dots behind them, eighty
characters in all.  What stands behind the first line makes no difference, whether a carriage return
belongs to the line break or not.  And a context line is its own context line. -/
theorem contextLine_shows_first_line (text : String) :
    (SingleLine (contextLine text) ∧ (contextLine text).length ≤ 80 ∧
        (contextLine text).startsWith isBlank = false ∧
        (contextLine text).endsWith isBlank = false) ∧
      (∃ line core, FirstLine text line ∧ Trimmed line core) ∧
      (∀ line core, FirstLine text line → Trimmed line core →
        (core.length ≤ 80 → contextLine text = core) ∧
          (80 < core.length → contextLine text = (core.take 77).copy ++ "..." ∧
            (contextLine text).length = 80)) ∧
      (∀ line rest, SingleLine line →
        contextLine (line ++ "\n" ++ rest) = contextLine line ∧
          contextLine (line ++ "\r\n" ++ rest) = contextLine line) ∧
      contextLine (contextLine text) = contextLine text := by
  have single := singleLine_contextLine text
  have narrow := length_contextLine_le text
  have bare := bareEnds_contextLine text
  refine ⟨⟨single, narrow, bare.no_blank_first, bare.no_blank_last⟩, ?_, ?_, ?_, ?_⟩
  · obtain ⟨line, first⟩ := exists_firstLine text
    exact ⟨line, Text.trim line, first, Text.trimmed_trim line⟩
  · intro line core first trimmed
    refine ⟨contextLine_of_narrow first trimmed, fun wide => ?_⟩
    rw [contextLine_of_wide first trimmed wide]
    exact ⟨rfl, length_take_append_dots wide⟩
  · intro line rest single
    exact ⟨(FirstLine.newline single rest).contextLine_eq,
      (FirstLine.carriageReturn single rest).contextLine_eq⟩
  · exact contextLine_of_narrow (.whole single) bare.trimmed narrow

/-- A wide line with another one behind it that would forge a report, and a line that fits. -/
theorem contextLine_shows_first_line_of_two :
    let wide := String.ofList (List.replicate 81 'é')
    let forging := "\t" ++ wide ++ "\r\n" ++ "  • forged.py:1"
    let narrow := "x = 1"
    FirstLine forging ("\t" ++ wide) ∧ Trimmed ("\t" ++ wide) wide ∧ 80 < wide.length ∧
      contextLine forging = String.ofList (List.replicate 77 'é') ++ "..." ∧
      FirstLine narrow narrow ∧ Trimmed narrow narrow ∧ narrow.length ≤ 80 ∧
      contextLine narrow = narrow ∧
      SingleLine narrow ∧ contextLine (narrow ++ "\r\n" ++ "y = 2") = contextLine narrow := by
  intro wide forging narrow
  have single_wide : SingleLine wide := by
    rw [SingleLine, String.toList_ofList]
    exact fun mem => absurd (List.eq_of_mem_replicate mem) (by decide)
  have single : SingleLine ("\t" ++ wide) := (by decide : SingleLine "\t").append single_wide
  have first : FirstLine forging ("\t" ++ wide) := .carriageReturn single _
  have bare : BareEnds wide := by
    rw [Text.bareEnds_iff, String.toList_ofList]
    decide
  have trimmed : Trimmed ("\t" ++ wide) wide :=
    ⟨⟨"\t", "", by decide, rfl, String.append_empty.symm⟩, bare⟩
  have exceeds : 80 < wide.length := by
    rw [String.length_ofList, List.length_replicate]
    decide
  have beginning : (wide.take 77).copy = String.ofList (List.replicate 77 'é') := by
    apply String.toList_inj.1
    rw [String.toList_copy_take, String.toList_ofList, String.toList_ofList, List.take_replicate]
    rfl
  have single' : SingleLine narrow := by decide
  have bare' : BareEnds narrow := by decide
  obtain ⟨-, -, shown, -, -⟩ := contextLine_shows_first_line forging
  obtain ⟨-, -, shown', behind, -⟩ := contextLine_shows_first_line narrow
  refine ⟨first, trimmed, exceeds, ?_, .whole single', bare'.trimmed, by decide, ?_, single', ?_⟩
  · rw [← beginning]
    exact ((shown _ _ first trimmed).2 exceeds).1
  · exact (shown' _ _ (.whole single') bare'.trimmed).1 (by decide)
  · exact (behind narrow "y = 2" single').2

end RefactorGateway.Report
