import RefactorGateway.Bridge.Response
import RefactorGateway.Report.Layout
/-!
# Reports of refactorings

What a caller is told about a refactoring that was carried out or previewed. Counts are given as the
bridge reports them, and lists keep its order.

## Main Definitions

- `rename`, `move`, `extractMethod`, `extractVariable`, `inline`, `changeSignature`: the reports
-/

namespace RefactorGateway.Report

open Bridge

/-- A line with a label and a value under the heading. -/
def labelled (label value : String) : String := "  " ++ label ++ ": " ++ value

/-- A line with a label and a count under the heading. -/
def counted (label : String) (n : UInt32) : String := labelled label (toString n.toNat)

/-- A name between apostrophes. -/
def named (name : String) : String := "'" ++ name ++ "'"

/-- The report of a rename. -/
def rename (r : RenameResponse) (newName : String) (preview : Bool) : String :=
  joinLines <|
    [if preview then "Preview: Renaming to " ++ named newName ++ " would affect:"
      else "Successfully renamed to " ++ named newName ++ ":",
      "",
      counted "Files modified" r.filesModified,
      counted "Usages updated" r.usagesUpdated]
    ++ changeLines r.changes

/-- The report of a move. -/
def move (r : MoveResponse) (targetFile : String) (preview : Bool) : String :=
  joinLines <|
    [if preview then "Preview: Moving to " ++ named targetFile ++ " would affect:"
      else "Successfully moved to " ++ named targetFile ++ ":",
      "",
      counted "Files modified" r.filesModified,
      counted "Imports updated" r.importsUpdated]
    ++ changeLines r.changes

/-- The parameters of an extracted method. -/
def parameterText (parameters : List String) : String :=
  if parameters.isEmpty then "none" else ", ".intercalate parameters

/-- The line with the return type of an extracted method, if it has one. -/
def returnTypeLines : Option String → List String
  | some type => if type.isEmpty then [] else [labelled "Return type" type]
  | none => []

/-- The report of the extraction of a method. -/
def extractMethod (r : ExtractMethodResponse) (name : String) (preview : Bool) : String :=
  joinLines <|
    [if preview then "Preview: Would extract method " ++ named name ++ ":"
      else "Successfully extracted method " ++ named name ++ ":",
      "",
      labelled "File" r.file,
      counted "Method line" r.methodLine,
      labelled "Parameters" (parameterText r.parameters)]
    ++ returnTypeLines r.returnType

/-- The report of the extraction of a variable. -/
def extractVariable (r : ExtractVariableResponse) (name : String) (preview : Bool) : String :=
  joinLines
    [if preview then "Preview: Would extract variable " ++ named name ++ ":"
      else "Successfully extracted variable " ++ named name ++ ":",
      "",
      labelled "File" r.file,
      counted "Variable line" r.variableLine,
      counted "Occurrences replaced" r.occurrencesReplaced]

/-- The report of an inlining. -/
def inline (r : InlineResponse) (preview : Bool) : String :=
  joinLines <|
    [if preview then "Preview: Inlining would affect:" else "Successfully inlined:",
      "",
      counted "Usages inlined" r.usagesInlined]
    ++ changeLines r.changes

/-- The report of a change of signature. -/
def changeSignature (r : ChangeSignatureResponse) (preview : Bool) : String :=
  joinLines <|
    [if preview then "Preview: Signature change would affect:"
      else "Successfully changed signature:",
      "",
      counted "Call sites updated" r.callSitesUpdated]
    ++ changeLines r.changes

end RefactorGateway.Report
