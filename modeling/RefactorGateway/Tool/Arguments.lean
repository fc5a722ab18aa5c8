import RefactorGateway.Bridge.Request
/-!
# Arguments of tools

What a caller passes to each tool, and the request to the bridge that it becomes.

## Main Definitions

One structure for each tool that takes arguments, with its `shape`, its `request`, and the
`positions` that it names.

## Design Notes

Members that the tool does not know are ignored. A member with a default may be missing but not
null; only the three members of a change of signature that mean "keep as it is" may be null.
-/

namespace RefactorGateway.Tool

open Wire (Shape Fields Codec)
open Bridge

/-- A line and a column of a file, both counted from 1. -/
structure Position where
  line : UInt32
  column : UInt32
  deriving DecidableEq

/-- The arguments of a tool that takes none. -/
structure NoArguments where
  deriving DecidableEq

/-- The arguments of a tool that takes none, under the name that messages give them. -/
def NoArguments.shape (name : String) : Shape NoArguments where
  name := name
  strict := false
  fields := .nil
  build := fun () => ⟨⟩
  split _ := ()

/-- What to rename, and how. -/
structure RenameArguments where
  projectPath : String
  filePath : String
  line : UInt32
  column : UInt32
  newName : String
  searchInComments : Bool
  searchInStrings : Bool
  preview : Bool
  deriving DecidableEq

namespace RenameArguments

/-- How the arguments of a rename are written. -/
def shape : Shape RenameArguments where
  name := "RenameSymbolParam"
  strict := false
  fields :=
    .cons (.required "project_path" .text) <|
    .cons (.required "file_path" .text) <|
    .cons (.required "line" .count) <|
    .cons (.required "column" .count) <|
    .cons (.required "new_name" .text) <|
    .cons (.defaulted "search_in_comments" .flag true) <|
    .cons (.defaulted "search_in_strings" .flag false) <|
    .cons (.defaulted "preview" .flag false) .nil
  build := fun (project, file, line, column, newName, inComments, inStrings, preview, ()) =>
    ⟨project, file, line, column, newName, inComments, inStrings, preview⟩
  split a :=
    (a.projectPath, a.filePath, a.line, a.column, a.newName, a.searchInComments,
      a.searchInStrings, a.preview, ())

/-- The request for a rename. -/
def request (a : RenameArguments) : RenameRequest :=
  ⟨a.projectPath, a.filePath, a.line, a.column, a.newName, a.searchInComments, a.searchInStrings,
    a.preview⟩

/-- The place of the symbol. -/
def positions (a : RenameArguments) : List Position := [⟨a.line, a.column⟩]

end RenameArguments

/-- What to move, and where to. -/
structure MoveArguments where
  projectPath : String
  filePath : String
  line : UInt32
  column : UInt32
  targetFile : String
  preview : Bool
  deriving DecidableEq

namespace MoveArguments

/-- How the arguments of a move are written. -/
def shape : Shape MoveArguments where
  name := "MoveElementParam"
  strict := false
  fields :=
    .cons (.required "project_path" .text) <|
    .cons (.required "file_path" .text) <|
    .cons (.required "line" .count) <|
    .cons (.required "column" .count) <|
    .cons (.required "target_file" .text) <|
    .cons (.defaulted "preview" .flag false) .nil
  build := fun (project, file, line, column, targetFile, preview, ()) =>
    ⟨project, file, line, column, targetFile, preview⟩
  split a := (a.projectPath, a.filePath, a.line, a.column, a.targetFile, a.preview, ())

/-- The request for a move. -/
def request (a : MoveArguments) : MoveRequest :=
  ⟨a.projectPath, a.filePath, a.line, a.column, a.targetFile, a.preview⟩

/-- The place of the element. -/
def positions (a : MoveArguments) : List Position := [⟨a.line, a.column⟩]

end MoveArguments

/-- What to make a method, and its name. -/
structure ExtractMethodArguments where
  projectPath : String
  filePath : String
  startLine : UInt32
  startColumn : UInt32
  endLine : UInt32
  endColumn : UInt32
  methodName : String
  preview : Bool
  deriving DecidableEq

namespace ExtractMethodArguments

/-- How the arguments of the extraction of a method are written. -/
def shape : Shape ExtractMethodArguments where
  name := "ExtractMethodParam"
  strict := false
  fields :=
    .cons (.required "project_path" .text) <|
    .cons (.required "file_path" .text) <|
    .cons (.required "start_line" .count) <|
    .cons (.required "start_column" .count) <|
    .cons (.required "end_line" .count) <|
    .cons (.required "end_column" .count) <|
    .cons (.required "method_name" .text) <|
    .cons (.defaulted "preview" .flag false) .nil
  build := fun (project, file, startLine, startColumn, endLine, endColumn, name, preview, ()) =>
    ⟨project, file, startLine, startColumn, endLine, endColumn, name, preview⟩
  split a :=
    (a.projectPath, a.filePath, a.startLine, a.startColumn, a.endLine, a.endColumn, a.methodName,
      a.preview, ())

/-- The request for the extraction of a method. -/
def request (a : ExtractMethodArguments) : ExtractMethodRequest :=
  ⟨a.projectPath, a.filePath, a.startLine, a.startColumn, a.endLine, a.endColumn, a.methodName,
    a.preview⟩

/-- The two ends of the selection. -/
def positions (a : ExtractMethodArguments) : List Position :=
  [⟨a.startLine, a.startColumn⟩, ⟨a.endLine, a.endColumn⟩]

end ExtractMethodArguments

/-- What to make a variable, and its name. -/
structure ExtractVariableArguments where
  projectPath : String
  filePath : String
  startLine : UInt32
  startColumn : UInt32
  endLine : UInt32
  endColumn : UInt32
  variableName : String
  replaceAll : Bool
  preview : Bool
  deriving DecidableEq

namespace ExtractVariableArguments

/-- How the arguments of the extraction of a variable are written. -/
def shape : Shape ExtractVariableArguments where
  name := "ExtractVariableParam"
  strict := false
  fields :=
    .cons (.required "project_path" .text) <|
    .cons (.required "file_path" .text) <|
    .cons (.required "start_line" .count) <|
    .cons (.required "start_column" .count) <|
    .cons (.required "end_line" .count) <|
    .cons (.required "end_column" .count) <|
    .cons (.required "variable_name" .text) <|
    .cons (.defaulted "replace_all" .flag true) <|
    .cons (.defaulted "preview" .flag false) .nil
  build := fun
    (project, file, startLine, startColumn, endLine, endColumn, name, replaceAll, preview, ()) =>
    ⟨project, file, startLine, startColumn, endLine, endColumn, name, replaceAll, preview⟩
  split a :=
    (a.projectPath, a.filePath, a.startLine, a.startColumn, a.endLine, a.endColumn,
      a.variableName, a.replaceAll, a.preview, ())

/-- The request for the extraction of a variable. -/
def request (a : ExtractVariableArguments) : ExtractVariableRequest :=
  ⟨a.projectPath, a.filePath, a.startLine, a.startColumn, a.endLine, a.endColumn, a.variableName,
    a.replaceAll, a.preview⟩

/-- The two ends of the selection. -/
def positions (a : ExtractVariableArguments) : List Position :=
  [⟨a.startLine, a.startColumn⟩, ⟨a.endLine, a.endColumn⟩]

end ExtractVariableArguments

/-- What to inline. -/
structure InlineArguments where
  projectPath : String
  filePath : String
  line : UInt32
  column : UInt32
  preview : Bool
  deriving DecidableEq

namespace InlineArguments

/-- How the arguments of an inlining are written. -/
def shape : Shape InlineArguments where
  name := "InlineElementParam"
  strict := false
  fields :=
    .cons (.required "project_path" .text) <|
    .cons (.required "file_path" .text) <|
    .cons (.required "line" .count) <|
    .cons (.required "column" .count) <|
    .cons (.defaulted "preview" .flag false) .nil
  build := fun (project, file, line, column, preview, ()) =>
    ⟨project, file, line, column, preview⟩
  split a := (a.projectPath, a.filePath, a.line, a.column, a.preview, ())

/-- The request for an inlining. -/
def request (a : InlineArguments) : InlineRequest :=
  ⟨a.projectPath, a.filePath, a.line, a.column, a.preview⟩

/-- The place of the element. -/
def positions (a : InlineArguments) : List Position := [⟨a.line, a.column⟩]

end InlineArguments

/-- Which function to change, and what of it. -/
structure ChangeSignatureArguments where
  projectPath : String
  filePath : String
  line : UInt32
  column : UInt32
  newName : Option String
  /-- The whole new list of parameters. -/
  parameters : Option (List ParameterInfo)
  returnType : Option String
  preview : Bool
  deriving DecidableEq

namespace ChangeSignatureArguments

/-- How the arguments of a change of signature are written. -/
def shape : Shape ChangeSignatureArguments where
  name := "ChangeSignatureParam"
  strict := false
  fields :=
    .cons (.required "project_path" .text) <|
    .cons (.required "file_path" .text) <|
    .cons (.required "line" .count) <|
    .cons (.required "column" .count) <|
    .cons (.nullable "new_name" .text) <|
    .cons (.nullable "parameters" (.list ParameterInfo.shape.codec)) <|
    .cons (.nullable "return_type" .text) <|
    .cons (.defaulted "preview" .flag false) .nil
  build := fun (project, file, line, column, newName, parameters, returnType, preview, ()) =>
    ⟨project, file, line, column, newName, parameters, returnType, preview⟩
  split a :=
    (a.projectPath, a.filePath, a.line, a.column, a.newName, a.parameters, a.returnType,
      a.preview, ())

/-- The request for a change of signature. -/
def request (a : ChangeSignatureArguments) : ChangeSignatureRequest :=
  ⟨a.projectPath, a.filePath, a.line, a.column, a.preview, a.newName, a.parameters,
    a.returnType⟩

/-- The place of the function. -/
def positions (a : ChangeSignatureArguments) : List Position := [⟨a.line, a.column⟩]

end ChangeSignatureArguments

/-- What to delete. -/
structure SafeDeleteArguments where
  projectPath : String
  filePath : String
  line : UInt32
  column : UInt32
  searchForUsages : Bool
  deriving DecidableEq

namespace SafeDeleteArguments

/-- How the arguments of a deletion are written. -/
def shape : Shape SafeDeleteArguments where
  name := "SafeDeleteParam"
  strict := false
  fields :=
    .cons (.required "project_path" .text) <|
    .cons (.required "file_path" .text) <|
    .cons (.required "line" .count) <|
    .cons (.required "column" .count) <|
    .cons (.defaulted "search_for_usages" .flag true) .nil
  build := fun (project, file, line, column, searchForUsages, ()) =>
    ⟨project, file, line, column, searchForUsages⟩
  split a := (a.projectPath, a.filePath, a.line, a.column, a.searchForUsages, ())

/-- The request for a deletion. -/
def request (a : SafeDeleteArguments) : SafeDeleteRequest :=
  ⟨a.projectPath, a.filePath, a.line, a.column, a.searchForUsages⟩

/-- The place of the element. -/
def positions (a : SafeDeleteArguments) : List Position := [⟨a.line, a.column⟩]

end SafeDeleteArguments

/-- Which symbol to search for. -/
structure FindUsagesArguments where
  projectPath : String
  filePath : String
  line : UInt32
  column : UInt32
  deriving DecidableEq

namespace FindUsagesArguments

/-- How the arguments of a search for usages are written. -/
def shape : Shape FindUsagesArguments where
  name := "FindUsagesParam"
  strict := false
  fields :=
    .cons (.required "project_path" .text) <|
    .cons (.required "file_path" .text) <|
    .cons (.required "line" .count) <|
    .cons (.required "column" .count) .nil
  build := fun (project, file, line, column, ()) => ⟨project, file, line, column⟩
  split a := (a.projectPath, a.filePath, a.line, a.column, ())

/-- The request for a search for usages. -/
def request (a : FindUsagesArguments) : FindUsagesRequest :=
  ⟨a.projectPath, a.filePath, a.line, a.column⟩

/-- The place of the symbol. -/
def positions (a : FindUsagesArguments) : List Position := [⟨a.line, a.column⟩]

end FindUsagesArguments

end RefactorGateway.Tool
