import RefactorGateway.Proofs.Report.Lines
import RefactorGateway.Report.Refactoring
/-!
# Reports of changes

Renaming, moving, inlining and changing a signature are reported alike: a heading, which alone tells
a preview from what was carried out, the counts that the bridge gives, and the changes.  Of many
changes the first ten are shown, and how many more there are is said in a line of its own.

## Main Definitions

* `ChangeReport`: what is reported of an operation that changes files
* `ChangeReport.text`: its report
* `ChangeReport.heading`, `ChangeReport.body`: the parts that the report is to have

## Main Statements

* `ChangeReport.text_eq`: the report is the heading and the body
* `ChangeReport.linesOf_text`: the lines of a report
* `ChangeReport.text_complete`: what a report shows
-/

namespace RefactorGateway.Report

open Bridge

/-- What is reported of an operation that changes files. -/
inductive ChangeReport
  | rename (response : RenameResponse) (newName : String)
  | move (response : MoveResponse) (targetFile : String)
  | inline (response : InlineResponse)
  | changeSignature (response : ChangeSignatureResponse)

/-! ### What a report is to say -/

/-- A change as it is shown: where it is, what was there, and what is there now. -/
def changeText (c : FileChange) : String :=
  "\n" ++ "  • " ++ c.file ++ ":" ++ toString c.line.toNat
    ++ "\n" ++ "    " ++ c.oldText ++ " → " ++ c.newText

/-- The changes as they are shown: nothing if there are none, else a heading of their own, the first
ten, and how many more there are. -/
def changesText (changes : List FileChange) : String :=
  if changes = [] then ""
  else
    "\n" ++ "\n" ++ "Changes:" ++ String.join ((changes.take 10).map changeText)
      ++ if 10 < changes.length then
          "\n" ++ "  ... and " ++ toString (changes.length - 10) ++ " more"
        else ""

namespace ChangeReport

/-- The report of an operation that was carried out or previewed. -/
def text : ChangeReport → Bool → String
  | .rename response newName => Report.rename response newName
  | .move response targetFile => Report.move response targetFile
  | .inline response => Report.inline response
  | .changeSignature response => Report.changeSignature response

/-- The changes that the bridge gives. -/
def changes : ChangeReport → List FileChange
  | .rename response _ => response.changes
  | .move response _ => response.changes
  | .inline response => response.changes
  | .changeSignature response => response.changes

/-- The first line, which tells a preview from what was carried out. -/
def heading : ChangeReport → Bool → String
  | .rename _ newName, true => "Preview: Renaming to '" ++ newName ++ "' would affect:"
  | .rename _ newName, false => "Successfully renamed to '" ++ newName ++ "':"
  | .move _ targetFile, true => "Preview: Moving to '" ++ targetFile ++ "' would affect:"
  | .move _ targetFile, false => "Successfully moved to '" ++ targetFile ++ "':"
  | .inline _, true => "Preview: Inlining would affect:"
  | .inline _, false => "Successfully inlined:"
  | .changeSignature _, true => "Preview: Signature change would affect:"
  | .changeSignature _, false => "Successfully changed signature:"

/-- The counts, each as the bridge gives it. -/
def countLines : ChangeReport → List String
  | .rename response _ =>
    ["  Files modified: " ++ toString response.filesModified.toNat,
      "  Usages updated: " ++ toString response.usagesUpdated.toNat]
  | .move response _ =>
    ["  Files modified: " ++ toString response.filesModified.toNat,
      "  Imports updated: " ++ toString response.importsUpdated.toNat]
  | .inline response => ["  Usages inlined: " ++ toString response.usagesInlined.toNat]
  | .changeSignature response =>
    ["  Call sites updated: " ++ toString response.callSitesUpdated.toNat]

/-- What stands below the heading, in a preview or not. -/
def body (r : ChangeReport) : String :=
  "\n" ++ String.join (r.countLines.map fun line => "\n" ++ line) ++ changesText r.changes

end ChangeReport

/-! ### What a report says -/

theorem append_named_append (before name behind : String) :
    before ++ named name ++ behind = before ++ "'" ++ name ++ ("'" ++ behind) := by
  rw [named]
  simp only [String.append_assoc]

/-- The four reports are put together in the same way. -/
theorem ChangeReport.text_eq_joinLines (r : ChangeReport) (preview : Bool) :
    r.text preview =
      joinLines (r.heading preview :: "" :: (r.countLines ++ changeLines r.changes)) := by
  -- the apostrophes around a name belong to the words of the heading
  cases r with
  | rename response newName =>
    rw [text, Report.rename, append_named_append, append_named_append]
    cases preview <;> rfl
  | move response targetFile =>
    rw [text, Report.move, append_named_append, append_named_append]
    cases preview <;> rfl
  | inline _ => cases preview <;> rfl
  | changeSignature _ => cases preview <;> rfl

theorem length_changeEntry (c : FileChange) : (changeEntry c).length = 2 := rfl

theorem below_changeEntry (c : FileChange) : below (changeEntry c) = changeText c := by
  unfold changeEntry changeText placeText
  rw [below_cons, below_cons, below_nil]
  simp only [String.append_assoc, String.append_empty]

theorem changeLines_eq (changes : List FileChange) :
    changeLines changes =
      if changes = [] then [] else "" :: "Changes:" :: shownLines 10 changeEntry changes := by
  cases changes <;> rfl

theorem below_shownLines (changes : List FileChange) :
    below (shownLines 10 changeEntry changes) = String.join ((changes.take 10).map changeText)
      ++ if 10 < changes.length then
          "\n" ++ "  ... and " ++ toString (changes.length - 10) ++ " more"
        else "" := by
  rw [shownLines, below_append, below_flatMap, List.map_congr_left fun c _ => below_changeEntry c]
  by_cases many : 10 < changes.length
  · rw [if_pos many, if_pos many, below_cons, below_nil]
    simp only [String.append_assoc, String.append_empty]
  · rw [if_neg many, if_neg many, below_nil]

theorem below_changeLines (changes : List FileChange) :
    below (changeLines changes) = changesText changes := by
  rw [changeLines_eq, changesText]
  by_cases none : changes = []
  · rw [if_pos none, if_pos none, below_nil]
  · rw [if_neg none, if_neg none, below_cons, below_cons, below_shownLines]
    simp only [String.append_assoc, String.append_empty]

/-- The report is the heading and the body. -/
theorem ChangeReport.text_eq (r : ChangeReport) (preview : Bool) :
    r.text preview = r.heading preview ++ r.body := by
  rw [text_eq_joinLines, joinLines_cons, below_cons, below_append, below_changeLines, body]
  simp only [below, String.append_assoc, String.append_empty]

/-! ### The lines of a report -/

/-- No newline stands in the texts of a change. -/
def SingleLineChange (c : FileChange) : Prop :=
  SingleLine c.file ∧ SingleLine c.oldText ∧ SingleLine c.newText

instance : DecidablePred SingleLineChange := fun _ => inferInstanceAs (Decidable (_ ∧ _ ∧ _))

theorem singleLine_changeEntry {c : FileChange} (single : SingleLineChange c) :
    ∀ line ∈ changeEntry c, SingleLine line := by
  obtain ⟨file, oldText, newText⟩ := single
  have bullet : SingleLine "  • " := by decide
  have indent : SingleLine "    " := by decide
  have arrow : SingleLine " → " := by decide
  intro line mem
  rcases List.mem_cons.1 mem with rfl | mem
  · exact bullet.append (singleLine_placeText file c.line)
  · rw [List.mem_singleton.1 mem]
    exact ((indent.append oldText).append arrow).append newText

theorem singleLine_changeLines {changes : List FileChange}
    (single : ∀ c ∈ changes, SingleLineChange c) :
    ∀ line ∈ changeLines changes, SingleLine line := by
  rw [changeLines_eq]
  split
  · exact List.forall_mem_nil _
  · refine List.forall_mem_cons.2 ⟨by decide, List.forall_mem_cons.2 ⟨by decide, ?_⟩⟩
    exact singleLine_shownLines (fun c mem => singleLine_changeEntry (single c mem)) 10

namespace ChangeReport

theorem singleLine_countLines (r : ChangeReport) : ∀ line ∈ r.countLines, SingleLine line := by
  have count : ∀ (label : String) (n : UInt32), SingleLine label →
      SingleLine (label ++ toString n.toNat) :=
    fun label n single => single.append (singleLine_number n.toNat)
  cases r with
  | rename response _ =>
    exact List.forall_mem_cons.2 ⟨count _ _ (by decide),
      List.forall_mem_singleton.2 (count _ _ (by decide))⟩
  | move response _ =>
    exact List.forall_mem_cons.2 ⟨count _ _ (by decide),
      List.forall_mem_singleton.2 (count _ _ (by decide))⟩
  | inline response => exact List.forall_mem_singleton.2 (count _ _ (by decide))
  | changeSignature response => exact List.forall_mem_singleton.2 (count _ _ (by decide))

/-- The lines of a report, whose heading may have several if it names something so. -/
theorem linesOf_text (r : ChangeReport) (preview : Bool)
    (single : ∀ c ∈ r.changes, SingleLineChange c) :
    linesOf (r.text preview) = linesOf (r.heading preview)
      ++ "" :: (r.countLines
        ++ if r.changes = [] then []
          else "" :: "Changes:" :: shownLines 10 changeEntry r.changes) := by
  rw [text_eq_joinLines, linesOf_joinLines_cons, ← changeLines_eq]
  refine List.forall_mem_cons.2 ⟨by decide, List.forall_mem_append.2 ⟨?_, ?_⟩⟩
  · exact r.singleLine_countLines
  · exact singleLine_changeLines single

/-- **The reports of changes.**  A report is the heading and a body that is the same in a preview:
an empty line, the counts as they were received, and, if there are changes, these under a heading of
their own.  If no newline stands in a change, the lines under that heading are two for each change
of the first ten and one for the others, if there are more, which says how many there are; so no
change is left uncounted. -/
theorem text_complete (r : ChangeReport) :
    (∀ preview, r.text preview = r.heading preview ++ r.body) ∧
      ((∀ c ∈ r.changes, SingleLineChange c) → ∃ shown : List String,
        (∀ preview, linesOf (r.text preview) = linesOf (r.heading preview)
            ++ "" :: (r.countLines
              ++ if r.changes = [] then [] else "" :: "Changes:" :: shown)) ∧
          shown.length = 2 * min r.changes.length 10 + (if 10 < r.changes.length then 1 else 0) ∧
          (10 < r.changes.length →
            shown.getLast? = some ("  ... and " ++ toString (r.changes.length - 10) ++ " more")) ∧
          min r.changes.length 10 + (r.changes.length - 10) = r.changes.length) := by
  refine ⟨r.text_eq, fun single => ⟨shownLines 10 changeEntry r.changes, ?_, ?_, ?_, by omega⟩⟩
  · intro preview
    exact r.linesOf_text preview single
  · exact length_shownLines length_changeEntry 10 r.changes
  · intro many
    exact getLast?_shownLines many

/-- One change more than are shown, at a name with a newline. -/
theorem text_complete_of_eleven :
    let change : FileChange := ⟨"a.py", 1, "x", "y"⟩
    let r : ChangeReport := .rename ⟨true, List.replicate 11 change, 1, 11⟩ "new\nname"
    (∀ c ∈ r.changes, SingleLineChange c) ∧
      ∃ shown : List String, shown.length = 21 ∧ shown.getLast? = some "  ... and 1 more" ∧
        linesOf (r.text false) =
          ["Successfully renamed to 'new", "name':", "", "  Files modified: 1",
            "  Usages updated: 11", "", "Changes:"] ++ shown := by
  intro change r
  have single : ∀ c ∈ r.changes, SingleLineChange c := by decide
  have heading : linesOf (r.heading false) = ["Successfully renamed to 'new", "name':"] := by
    rw [linesOf_eq]
    decide
  have counts : r.countLines = ["  Files modified: 1", "  Usages updated: 11"] := by decide
  have announced : "  ... and " ++ toString (r.changes.length - 10) ++ " more" =
      "  ... and 1 more" := by decide
  obtain ⟨shown, lines, length, more, -⟩ := r.text_complete.2 single
  refine ⟨single, shown, length, (more (by decide)).trans (congrArg some announced), ?_⟩
  rw [lines, heading, counts, if_neg (by decide)]
  rfl

end ChangeReport

end RefactorGateway.Report
