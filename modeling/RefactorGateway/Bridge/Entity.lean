import RefactorGateway.Wire.Record
/-!
# Entities of the bridge

The things that requests and replies of the bridge speak of. Lines and columns count from 1, exactly
as an editor shows them.

## Main Definitions

- `FileChange`: an edit that a refactoring makes or would make
- `ProjectInfo`: a project of the editor
- `UsageInfo`: a reference to a symbol
- `ParameterInfo`: a parameter of a new signature
- `Envelope`: what a rejection says
-/

namespace RefactorGateway.Bridge

open Wire (Shape Fields Codec)

/-- An edit that a refactoring makes or would make. -/
structure FileChange where
  file : String
  line : UInt32
  oldText : String
  newText : String
  deriving DecidableEq

/-- How a file change is written. -/
def FileChange.shape : Shape FileChange where
  name := "FileChange"
  strict := true
  fields :=
    .cons (.required "file" .text) <|
    .cons (.required "line" .count) <|
    .cons (.required "oldText" .text) <|
    .cons (.required "newText" .text) .nil
  build := fun (file, line, oldText, newText, ()) => ⟨file, line, oldText, newText⟩
  split c := (c.file, c.line, c.oldText, c.newText, ())

/-- A project of the editor. -/
structure ProjectInfo where
  name : String
  path : String
  isOpen : Bool
  isDefault : Bool
  deriving DecidableEq

/-- How a project is written. -/
def ProjectInfo.shape : Shape ProjectInfo where
  name := "ProjectInfo"
  strict := true
  fields :=
    .cons (.required "name" .text) <|
    .cons (.required "path" .text) <|
    .cons (.required "isOpen" .flag) <|
    .cons (.defaulted "isDefault" .flag false) .nil
  build := fun (name, path, isOpen, isDefault, ()) => ⟨name, path, isOpen, isDefault⟩
  split p := (p.name, p.path, p.isOpen, p.isDefault, ())

/-- A reference to a symbol, with the source text around it. -/
structure UsageInfo where
  file : String
  line : UInt32
  column : UInt32
  text : String
  isWriteAccess : Bool
  deriving DecidableEq

/-- How a usage is written. -/
def UsageInfo.shape : Shape UsageInfo where
  name := "UsageInfo"
  strict := true
  fields :=
    .cons (.required "file" .text) <|
    .cons (.required "line" .count) <|
    .cons (.required "column" .count) <|
    .cons (.required "text" .text) <|
    .cons (.defaulted "isWriteAccess" .flag false) .nil
  build := fun (file, line, column, text, isWriteAccess, ()) =>
    ⟨file, line, column, text, isWriteAccess⟩
  split u := (u.file, u.line, u.column, u.text, u.isWriteAccess, ())

/-- A parameter of a new signature. What it does not say is left unchanged. -/
structure ParameterInfo where
  name : String
  type : Option String
  defaultValue : Option String
  deriving DecidableEq

namespace ParameterInfo

/-- How a parameter is written. -/
def shape : Shape ParameterInfo where
  name := "ParameterInfo"
  strict := true
  fields :=
    .cons (.required "name" .text) <|
    .cons (.optional "type" .text) <|
    .cons (.optional "defaultValue" .text) .nil
  build := fun (name, type, defaultValue, ()) => ⟨name, type, defaultValue⟩
  split p := (p.name, p.type, p.defaultValue, ())

/-- A parameter of which only the name is given. -/
def named (name : String) : ParameterInfo := ⟨name, none, none⟩

/-- The parameter with a type. -/
def withType (p : ParameterInfo) (type : String) : ParameterInfo := { p with type := some type }

/-- The parameter with a default value. -/
def withDefault (p : ParameterInfo) (value : String) : ParameterInfo :=
  { p with defaultValue := some value }

end ParameterInfo

/-- What the bridge says when it rejects an operation. Only a message is hoped for, so everything in
it may be missing and further members are allowed. -/
structure Envelope where
  success : Bool
  error : Option String
  details : Option String
  deriving DecidableEq

/-- How a rejection is written. -/
def Envelope.shape : Shape Envelope where
  name := "ErrorEnvelope"
  strict := false
  fields :=
    .cons (.defaulted "success" .flag false) <|
    .cons (.nullable "error" .text) <|
    .cons (.nullable "details" .text) .nil
  build := fun (success, error, details, ()) => ⟨success, error, details⟩
  split e := (e.success, e.error, e.details, ())

/-- A rejection that says nothing. -/
def Envelope.silent : Envelope := ⟨false, none, none⟩

end RefactorGateway.Bridge
