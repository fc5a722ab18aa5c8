import RefactorGateway.Tool.Basic
import RefactorGateway.Tool.Schema
/-!
# The catalogue of tools

What each tool says about itself to those who look for one.

## Main Definitions

- `Tool.description`, `Tool.schema`: what a tool does, and what it takes
- `Tool.listing`: the entry of a tool in the catalogue
- `Tool.catalogue`: the whole catalogue
-/

namespace RefactorGateway.Tool

open Json (Document)

/-- A member of the arguments with its description. -/
abbrev Property := String × Option String × Schema

/-- A property with a description. -/
def property (name : String) (schema : Schema) (description : String) : Property :=
  (name, some description, schema)

/-- The place of a symbol. -/
def positionProperties : List Property :=
  [property "project_path" .text
      "Absolute path to the project (use pycharm_list_projects to find available projects)",
   property "file_path" .text "Path to the file (relative to the project or absolute)",
   property "line" (.integer 1) "Line number (1-indexed)",
   property "column" (.integer 1) "Column number (1-indexed)"]

/-- The two ends of a selection. -/
def selectionProperties : List Property :=
  [property "project_path" .text "Absolute path to the project",
   property "file_path" .text "Path to the file containing the selection",
   property "start_line" (.integer 1) "Starting line of the selection (1-indexed)",
   property "start_column" (.integer 1) "Starting column of the selection (1-indexed)",
   property "end_line" (.integer 1) "Ending line of the selection (1-indexed)",
   property "end_column" (.integer 1) "Ending column of the selection (1-indexed)"]

/-- Whether to show what would change without changing it. -/
def previewProperty : Property :=
  property "preview" (.flag false) "If true, show what would change without applying it"

/-- The members that name the place of a symbol. -/
def positionRequired : List String := ["project_path", "file_path", "line", "column"]

/-- The members that name a selection. -/
def selectionRequired : List String :=
  ["project_path", "file_path", "start_line", "start_column", "end_line", "end_column"]

/-- A parameter of a new signature. -/
def parameterSchema : Schema :=
  .record
    [("name", none, .text), ("type", none, .text), ("defaultValue", none, .text)]
    ["name"]

/-- What a tool takes. -/
def schema : Tool → Schema
  | .listProjects | .bridgeStatus => .record [] []
  | .renameSymbol =>
    .record
      (positionProperties ++
        [property "new_name" .text "The new name for the symbol",
         property "search_in_comments" (.flag true) "Also rename occurrences in comments",
         property "search_in_strings" (.flag false) "Also rename occurrences in string literals",
         previewProperty])
      (positionRequired ++ ["new_name"])
  | .moveElement =>
    .record
      (positionProperties ++
        [property "target_file" .text "Path to the destination file", previewProperty])
      (positionRequired ++ ["target_file"])
  | .extractMethod =>
    .record
      (selectionProperties ++
        [property "method_name" .text "Name for the new method", previewProperty])
      (selectionRequired ++ ["method_name"])
  | .extractVariable =>
    .record
      (selectionProperties ++
        [property "variable_name" .text "Name for the new variable",
         property "replace_all" (.flag true) "Replace all identical occurrences",
         previewProperty])
      (selectionRequired ++ ["variable_name"])
  | .inlineElement => .record (positionProperties ++ [previewProperty]) positionRequired
  | .changeSignature =>
    .record
      (positionProperties ++
        [property "new_name" .text "New name for the function",
         property "parameters" (.list parameterSchema) "New parameter list",
         property "return_type" .text "New return type annotation",
         previewProperty])
      positionRequired
  | .safeDelete =>
    .record
      (positionProperties ++
        [property "search_for_usages" (.flag true) "Check for usages before deleting"])
      positionRequired
  | .findUsages => .record positionProperties positionRequired

/-- What a tool does. -/
def description : Tool → String
  | .listProjects =>
    "List all projects currently open in PyCharm. Use this to find the project path before any "
      ++ "refactoring."
  | .bridgeStatus =>
    "Check that PyCharm is reachable and report the bridge version and number of open projects."
  | .renameSymbol =>
    "Rename a symbol (variable, function, class, etc.) across the entire project using PyCharm's "
      ++ "semantic rename."
  | .moveElement =>
    "Move a class, function, or variable to a different module. Imports are updated across the "
      ++ "project."
  | .extractMethod =>
    "Extract the selected code into a new method. Parameters and return value are inferred by "
      ++ "PyCharm."
  | .extractVariable =>
    "Extract the selected expression into a variable, optionally replacing identical occurrences."
  | .inlineElement => "Inline a variable or method, replacing each usage with its definition."
  | .changeSignature =>
    "Change a function's name, parameters, or return type. All call sites are updated."
  | .safeDelete =>
    "Delete an element only if it has no usages. If usages are found the delete is aborted and "
      ++ "they are reported."
  | .findUsages => "Find all usages of a symbol across the project, grouped by file."

/-- The entry of a tool in the catalogue. -/
def listing (t : Tool) : Document :=
  .object
    [("name", .string t.name), ("description", .string t.description),
     ("inputSchema", t.schema.document)]

/-- The whole catalogue. -/
def catalogue : Document := .object [("tools", .array (all.map listing))]

end RefactorGateway.Tool
