import RefactorGateway.Bridge.Entity
/-!
# Requests to the bridge

What the bridge is sent for each operation that takes a request.

## Main Definitions

One structure for each operation, and its `shape`.
-/

namespace RefactorGateway.Bridge

open Wire (Shape Fields Codec)

/-- Rename the symbol at a place. -/
structure RenameRequest where
  project : String
  file : String
  line : UInt32
  column : UInt32
  newName : String
  searchInComments : Bool
  searchInStrings : Bool
  preview : Bool
  deriving DecidableEq

/-- How a rename is written. -/
def RenameRequest.shape : Shape RenameRequest where
  name := "RenameRequest"
  strict := false
  fields :=
    .cons (.required "project" .text) <|
    .cons (.required "file" .text) <|
    .cons (.required "line" .count) <|
    .cons (.required "column" .count) <|
    .cons (.required "newName" .text) <|
    .cons (.required "searchInComments" .flag) <|
    .cons (.required "searchInStrings" .flag) <|
    .cons (.required "preview" .flag) .nil
  build := fun (project, file, line, column, newName, inComments, inStrings, preview, ()) =>
    ⟨project, file, line, column, newName, inComments, inStrings, preview⟩
  split r :=
    (r.project, r.file, r.line, r.column, r.newName, r.searchInComments, r.searchInStrings,
      r.preview, ())

/-- Move the element at a place to another file. -/
structure MoveRequest where
  project : String
  file : String
  line : UInt32
  column : UInt32
  targetFile : String
  preview : Bool
  deriving DecidableEq

/-- How a move is written. -/
def MoveRequest.shape : Shape MoveRequest where
  name := "MoveRequest"
  strict := false
  fields :=
    .cons (.required "project" .text) <|
    .cons (.required "file" .text) <|
    .cons (.required "line" .count) <|
    .cons (.required "column" .count) <|
    .cons (.required "targetFile" .text) <|
    .cons (.required "preview" .flag) .nil
  build := fun (project, file, line, column, targetFile, preview, ()) =>
    ⟨project, file, line, column, targetFile, preview⟩
  split r := (r.project, r.file, r.line, r.column, r.targetFile, r.preview, ())

/-- Make a selection a method. -/
structure ExtractMethodRequest where
  project : String
  file : String
  startLine : UInt32
  startColumn : UInt32
  endLine : UInt32
  endColumn : UInt32
  methodName : String
  preview : Bool
  deriving DecidableEq

/-- How the extraction of a method is written. -/
def ExtractMethodRequest.shape : Shape ExtractMethodRequest where
  name := "ExtractMethodRequest"
  strict := false
  fields :=
    .cons (.required "project" .text) <|
    .cons (.required "file" .text) <|
    .cons (.required "startLine" .count) <|
    .cons (.required "startColumn" .count) <|
    .cons (.required "endLine" .count) <|
    .cons (.required "endColumn" .count) <|
    .cons (.required "methodName" .text) <|
    .cons (.required "preview" .flag) .nil
  build := fun (project, file, startLine, startColumn, endLine, endColumn, name, preview, ()) =>
    ⟨project, file, startLine, startColumn, endLine, endColumn, name, preview⟩
  split r :=
    (r.project, r.file, r.startLine, r.startColumn, r.endLine, r.endColumn, r.methodName,
      r.preview, ())

/-- Make a selected expression a variable. -/
structure ExtractVariableRequest where
  project : String
  file : String
  startLine : UInt32
  startColumn : UInt32
  endLine : UInt32
  endColumn : UInt32
  variableName : String
  replaceAll : Bool
  preview : Bool
  deriving DecidableEq

/-- How the extraction of a variable is written. -/
def ExtractVariableRequest.shape : Shape ExtractVariableRequest where
  name := "ExtractVariableRequest"
  strict := false
  fields :=
    .cons (.required "project" .text) <|
    .cons (.required "file" .text) <|
    .cons (.required "startLine" .count) <|
    .cons (.required "startColumn" .count) <|
    .cons (.required "endLine" .count) <|
    .cons (.required "endColumn" .count) <|
    .cons (.required "variableName" .text) <|
    .cons (.required "replaceAll" .flag) <|
    .cons (.required "preview" .flag) .nil
  build := fun
    (project, file, startLine, startColumn, endLine, endColumn, name, replaceAll, preview, ()) =>
    ⟨project, file, startLine, startColumn, endLine, endColumn, name, replaceAll, preview⟩
  split r :=
    (r.project, r.file, r.startLine, r.startColumn, r.endLine, r.endColumn, r.variableName,
      r.replaceAll, r.preview, ())

/-- Inline the element at a place. -/
structure InlineRequest where
  project : String
  file : String
  line : UInt32
  column : UInt32
  preview : Bool
  deriving DecidableEq

/-- How an inlining is written. -/
def InlineRequest.shape : Shape InlineRequest where
  name := "InlineRequest"
  strict := false
  fields :=
    .cons (.required "project" .text) <|
    .cons (.required "file" .text) <|
    .cons (.required "line" .count) <|
    .cons (.required "column" .count) <|
    .cons (.required "preview" .flag) .nil
  build := fun (project, file, line, column, preview, ()) =>
    ⟨project, file, line, column, preview⟩
  split r := (r.project, r.file, r.line, r.column, r.preview, ())

/-- Change the signature of the function at a place. What has no value is kept as it is. -/
structure ChangeSignatureRequest where
  project : String
  file : String
  line : UInt32
  column : UInt32
  preview : Bool
  newName : Option String
  parameters : Option (List ParameterInfo)
  returnType : Option String
  deriving DecidableEq

/-- How a change of signature is written. -/
def ChangeSignatureRequest.shape : Shape ChangeSignatureRequest where
  name := "ChangeSignatureRequest"
  strict := false
  fields :=
    .cons (.required "project" .text) <|
    .cons (.required "file" .text) <|
    .cons (.required "line" .count) <|
    .cons (.required "column" .count) <|
    .cons (.required "preview" .flag) <|
    .cons (.optional "newName" .text) <|
    .cons (.optional "parameters" (.list ParameterInfo.shape.codec)) <|
    .cons (.optional "returnType" .text) .nil
  build := fun (project, file, line, column, preview, newName, parameters, returnType, ()) =>
    ⟨project, file, line, column, preview, newName, parameters, returnType⟩
  split r :=
    (r.project, r.file, r.line, r.column, r.preview, r.newName, r.parameters, r.returnType, ())

/-- Delete the element at a place if nothing uses it. -/
structure SafeDeleteRequest where
  project : String
  file : String
  line : UInt32
  column : UInt32
  searchForUsages : Bool
  deriving DecidableEq

/-- How a deletion is written. -/
def SafeDeleteRequest.shape : Shape SafeDeleteRequest where
  name := "SafeDeleteRequest"
  strict := false
  fields :=
    .cons (.required "project" .text) <|
    .cons (.required "file" .text) <|
    .cons (.required "line" .count) <|
    .cons (.required "column" .count) <|
    .cons (.required "searchForUsages" .flag) .nil
  build := fun (project, file, line, column, searchForUsages, ()) =>
    ⟨project, file, line, column, searchForUsages⟩
  split r := (r.project, r.file, r.line, r.column, r.searchForUsages, ())

/-- Find the usages of the symbol at a place. -/
structure FindUsagesRequest where
  project : String
  file : String
  line : UInt32
  column : UInt32
  deriving DecidableEq

/-- How a search for usages is written. -/
def FindUsagesRequest.shape : Shape FindUsagesRequest where
  name := "FindUsagesRequest"
  strict := false
  fields :=
    .cons (.required "project" .text) <|
    .cons (.required "file" .text) <|
    .cons (.required "line" .count) <|
    .cons (.required "column" .count) .nil
  build := fun (project, file, line, column, ()) => ⟨project, file, line, column⟩
  split r := (r.project, r.file, r.line, r.column, ())

end RefactorGateway.Bridge
