import RefactorGateway.Text.Blank
import RefactorGateway.Bridge.Entity
/-!
# The parts of reports

Reports are lists of lines. This module holds the lines that several reports share.

## Main Definitions

- `joinLines`: the text of a list of lines
- `contextLine`: the first line of a source snippet, cut to a readable width
- `changeLines`: the list of edits at the end of a report
- `usageLines`: one usage of a symbol
-/

namespace RefactorGateway.Report

open Bridge (FileChange UsageInfo)

/-- The text of a report. -/
def joinLines (lines : List String) : String := "\n".intercalate lines

/-! ### Source snippets -/

/-- The widest context line. -/
def contextWidth : Nat := 80

/-- How much of a wider one is kept. -/
def contextKept : Nat := 77

/-- The characters up to the first line break. -/
def firstLine (cs : List Char) : List Char := cs.takeWhile (· ≠ '\n')

/-- Characters that fit into the width are kept, of others the beginning and three dots. -/
def cutChars (cs : List Char) : List Char :=
  if cs.length > contextWidth then cs.take contextKept ++ ['.', '.', '.'] else cs

/-- The first line of a source snippet without the blanks around it, cut to a report's width. -/
def contextLine (text : String) : String :=
  String.ofList (cutChars (Text.trimChars (firstLine text.toList)))

/-! ### Changes -/

/-- How many changes a report shows. -/
def changesShown : Nat := 10

/-- The line that stands for what a report does not show. -/
def moreLine (n : Nat) : String := "  ... and " ++ toString n ++ " more"

/-- A place in a file. -/
def placeText (file : String) (line : UInt32) : String := file ++ ":" ++ toString line.toNat

/-- The two lines of a change. -/
def changeEntry (c : FileChange) : List String :=
  ["  • " ++ placeText c.file c.line, "    " ++ c.oldText ++ " → " ++ c.newText]

/-- The changes at the end of a report, under a heading of their own. There is no heading without
changes, and only the first few are shown. -/
def changeLines (changes : List FileChange) : List String :=
  if changes.isEmpty then []
  else
    ["", "Changes:"] ++ (changes.take changesShown).flatMap changeEntry
      ++ (if changes.length > changesShown then [moreLine (changes.length - changesShown)] else [])

/-! ### Usages -/

/-- The mark of a usage: it writes the symbol, or it only reads it. -/
def usageMark (isWriteAccess : Bool) : String := if isWriteAccess then "📝" else "👁️"

/-- The two lines of a usage: where it is, and what stands there. -/
def usageLines (u : UsageInfo) : List String :=
  ["  " ++ usageMark u.isWriteAccess ++ " " ++ placeText u.file u.line ++ ":"
      ++ toString u.column.toNat,
    "     " ++ contextLine u.text]

end RefactorGateway.Report
