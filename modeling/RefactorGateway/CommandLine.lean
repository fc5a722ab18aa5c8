import RefactorGateway.Bridge.Config
import RefactorGateway.Text.Similarity
import RefactorGateway.Text.Terminal
/-!
# The command line

Three settings can be given on the command line, and help and version can be asked for.

## Main Definitions

- `Setting`, `Flag`: what can stand on the command line
- `Command`: what it asks for
- `UsageError`: why it asks for nothing
- `parse`: the command of a list of arguments
- `helpText`, `versionText`, `UsageError.text`: what is printed
- `startText`: what is logged when the server starts

## Design Notes

A setting that waits for its value, or for the next argument to confirm that the value is complete,
is *pending*. It is settled when another argument is recognised or the arguments end. An argument
that is not recognised is reported before anything that is wrong with the pending setting.
-/

namespace RefactorGateway.CommandLine

open Bridge (Config Environment)

/-- The name of the program. -/
def programName : String := "refactor-bridge-mcp"

/-- The version of the program. -/
def programVersion : String := "0.1.0"

/-! ### Arguments -/

/-- The settings that take a value. -/
inductive Setting
  | bridgeUrl
  | authToken
  | timeoutSecs
  deriving DecidableEq

/-- What can stand on the command line. -/
inductive Flag
  | setting (setting : Setting)
  | help
  | version
  deriving DecidableEq

/-- The long name of a flag. -/
def Flag.long : Flag → String
  | .setting .bridgeUrl => "bridge-url"
  | .setting .authToken => "auth-token"
  | .setting .timeoutSecs => "timeout-secs"
  | .help => "help"
  | .version => "version"

/-- All settings. -/
def Setting.all : List Setting := [.bridgeUrl, .authToken, .timeoutSecs]

/-- All flags. -/
def Flag.all : List Flag := Setting.all.map Flag.setting ++ [.help, .version]

/-- What stands for the value of a setting. -/
def Setting.placeholder : Setting → String
  | .bridgeUrl => "URL"
  | .authToken => "TOKEN"
  | .timeoutSecs => "SECONDS"

/-- A flag as it is shown, with a place for its value. -/
def Flag.shown : Flag → String
  | .setting s => "--" ++ (Flag.setting s).long ++ " <" ++ s.placeholder ++ ">"
  | f => "--" ++ f.long

/-- Any of the settings, as it is shown. -/
def Setting.anyShown : String :=
  "<" ++ "|".intercalate (all.map fun s => (Flag.setting s).shown) ++ ">"

/-- The flag with a long name. -/
def Flag.ofLong? (name : String) : Option Flag := all.find? fun f => f.long == name

/-- The flag with a short name. -/
def Flag.ofShort? (c : Char) : Option Flag :=
  if c = 'h' then some .help else if c = 'V' then some .version else none

/-! ### Errors -/

/-- Why a text is not a number of seconds. -/
inductive NumberError
  | empty
  | invalidDigit
  | tooLarge
  deriving DecidableEq

/-- The wording of what is wrong with a number. -/
def NumberError.message : NumberError → String
  | .empty => "cannot parse integer from empty string"
  | .invalidDigit => "invalid digit found in string"
  | .tooLarge => "number too large to fit in target type"

/-- Why a command line asks for nothing. -/
inductive UsageError
  /-- An argument that is not known, with one that is like it and the flags that come before it. -/
  | unknown (argument : String) (similar : Option Flag) (used : List Flag)
  /-- A setting without a value. -/
  | valueMissing (setting : Setting)
  /-- A number that is none. -/
  | invalidNumber (value : String) (problem : NumberError)
  /-- A setting that is given twice. -/
  | repeated (setting : Setting)
  /-- A value for a flag that takes none, and whether a setting comes before it. -/
  | needlessValue (value : String) (flag : Flag) (afterSetting : Bool)
  deriving DecidableEq

/-- The line that shows how the program is used, narrowed down to some of what can be given. -/
def usageLine (parts : List String) : String :=
  "Usage: " ++ programName ++ " "
    ++ (if parts.isEmpty then "[OPTIONS]" else " ".intercalate parts)

/-- What is wrong. What was given is shown without orders to a terminal. -/
def UsageError.problem : UsageError → String
  | .unknown argument _ _ => "unexpected argument '" ++ Text.plain argument ++ "' found"
  | .valueMissing s =>
    "a value is required for '" ++ (Flag.setting s).shown ++ "' but none was supplied"
  | .invalidNumber value problem =>
    "invalid value '" ++ Text.plain value ++ "' for '" ++ (Flag.setting .timeoutSecs).shown ++ "': "
      ++ problem.message
  | .repeated s => "the argument '" ++ (Flag.setting s).shown ++ "' cannot be used multiple times"
  | .needlessValue value flag _ =>
    "unexpected value '" ++ Text.plain value ++ "' for '" ++ flag.shown
      ++ "' found; no more were expected"

/-- What the usage line of an error is narrowed down to, if it has one. -/
def UsageError.usage? : UsageError → Option (List String)
  | .unknown _ similar used =>
    let flags := match similar with
      | some flag => if used.contains flag then used else used ++ [flag]
      | none => used
    some (flags.map Flag.shown)
  | .repeated _ => some []
  | .needlessValue _ flag afterSetting =>
    some (flag.shown :: if afterSetting then [Setting.anyShown] else [])
  | .valueMissing _ | .invalidNumber _ _ => none

/-- The paragraph that names a flag like the one that was meant. -/
def UsageError.tip : UsageError → String
  | .unknown _ (some flag) _ =>
    "  tip: a similar argument exists: '--" ++ flag.long ++ "'\n\n"
  | _ => ""

/-- What is printed for an error. -/
def UsageError.text (e : UsageError) : String :=
  "error: " ++ e.problem ++ "\n\n" ++ e.tip
    ++ (match e.usage? with
      | some parts => usageLine parts ++ "\n\n"
      | none => "")
    ++ "For more information, try '--help'.\n"

/-! ### Reading the command line -/

/-- The values of the settings. -/
structure Settings where
  bridgeUrl : Option String
  authToken : Option String
  /-- The timeout of a call in seconds. -/
  timeoutSecs : Option Nat
  deriving DecidableEq

/-- What a command line asks for. -/
inductive Command
  | help
  | version
  | serve (settings : Settings)
  deriving DecidableEq

/-- Read the digits of a number of 64 bits from left to right, up to the first that is wrong. -/
def readDigits : Nat → List Char → Except NumberError Nat
  | n, [] => .ok n
  | n, c :: cs =>
    if !c.isDigit then .error .invalidDigit
    else
      let next := 10 * n + (c.toNat - '0'.toNat)
      if next < UInt64.size then readDigits next cs else .error .tooLarge

/-- Read a number of 64 bits, which may have a plus sign. -/
def readNumber (s : String) : Except NumberError Nat :=
  match s.toList with
  | [] => .error .empty
  | ['+'] => .error .invalidDigit
  | '+' :: cs => readDigits 0 cs
  | cs => readDigits 0 cs

/-- The state of reading. -/
structure State where
  settings : Settings
  /-- The settings that have been given, in order. -/
  used : List Setting
  /-- A setting that is not settled, with its value if that has been seen. -/
  pending : Option (Setting × Option String)
  /-- Whether all further arguments are taken literally. -/
  literal : Bool

/-- Nothing has been read. -/
def State.start : State := ⟨⟨none, none, none⟩, [], none, false⟩

/-- Store the value of a setting. -/
def Settings.store (settings : Settings) (value : String) : Setting → Except UsageError Settings
  | .bridgeUrl => .ok { settings with bridgeUrl := some value }
  | .authToken => .ok { settings with authToken := some value }
  | .timeoutSecs =>
    match readNumber value with
    | .ok n => .ok { settings with timeoutSecs := some n }
    | .error problem => .error (.invalidNumber value problem)

/-- Give a setting a value. A setting can be given once. -/
def State.give (s : State) (setting : Setting) (value : String) : Except UsageError State :=
  if s.used.contains setting then .error (.repeated setting)
  else do
    let settings ← s.settings.store value setting
    return { s with settings, used := s.used ++ [setting] }

/-- Settle the pending setting. -/
def State.settle (s : State) : Except UsageError State :=
  match s.pending with
  | none => .ok s
  | some (setting, none) => .error (.valueMissing setting)
  | some (setting, some value) => { s with pending := none }.give setting value

/-- The flags that count as used next to an argument that is not known. A pending setting with a
value counts, whatever the value, and not if it is given a second time. -/
def State.usedFlags (s : State) : List Flag :=
  let used := match s.pending with
    | some (setting, some _) =>
      if s.used.contains setting then s.used.filter (· != setting) else s.used ++ [setting]
    | _ => s.used
  used.map .setting

/-- Split a long argument at its first equals sign. -/
def splitValue (cs : List Char) : String × Option String :=
  let name := cs.takeWhile (· ≠ '=')
  match cs.drop name.length with
  | _ :: value => (String.ofList name, some (String.ofList value))
  | [] => (String.ofList name, none)

/-- What one argument leads to: further reading, or a command at once. -/
abbrev Progress := Sum Command State

/-- Recognise a flag that takes no value. -/
def State.ask (s : State) (command : Command) : Except UsageError Progress := do
  let _ ← s.settle
  return .inl command

/-- Read an argument that begins with two hyphens. -/
def State.readLong (s : State) (cs : List Char) : Except UsageError Progress :=
  let (name, value) := splitValue cs
  match Flag.ofLong? name, value with
  | some (.setting setting), some value => do
    let settled ← s.settle
    let given ← settled.give setting value
    return .inr given
  | some (.setting setting), none => do
    let settled ← s.settle
    return .inr { settled with pending := some (setting, none) }
  | some flag, some value => .error (.needlessValue value flag (!s.used.isEmpty))
  | some .help, none => s.ask .help
  | some .version, none => s.ask .version
  | none, _ =>
    let similar := (Text.mostSimilar? name (Flag.all.map Flag.long)).bind Flag.ofLong?
    .error (.unknown ("--" ++ name) similar s.usedFlags)

/-- Read an argument that begins with one hyphen: its first character decides. -/
def State.readShort (s : State) (c : Char) : Except UsageError Progress :=
  match Flag.ofShort? c with
  | some .help => s.ask .help
  | some .version => s.ask .version
  | _ => .error (.unknown (String.ofList ['-', c]) none [])

/-- Read an argument that is no flag. -/
def State.readValue (s : State) (argument : String) : Except UsageError Progress :=
  match s.pending, s.literal with
  | some (setting, none), false =>
    .ok (.inr { s with pending := some (setting, some argument) })
  | _, _ => .error (.unknown argument none [])

/-- Read one argument. -/
def State.read (s : State) (argument : String) : Except UsageError Progress :=
  if s.literal then s.readValue argument
  else
    match argument.toList with
    | ['-', '-'] => .ok (.inr { s with literal := true })
    | '-' :: '-' :: cs => s.readLong cs
    | '-' :: c :: _ => s.readShort c
    | _ => s.readValue argument

/-- Read the arguments that are left. -/
def State.readAll (s : State) : List String → Except UsageError Command
  | [] => do
    let settled ← s.settle
    return .serve settled.settings
  | argument :: rest => do
    match ← s.read argument with
    | .inl command => return command
    | .inr next => next.readAll rest

/-- The command of a list of arguments. -/
def parse (arguments : List String) : Except UsageError Command := State.start.readAll arguments

/-! ### Texts -/

/-- What is printed for help. -/
def helpText : String :=
  "Model Context Protocol server for PyCharm refactorings\n\n"
    ++ usageLine [] ++ "\n\n"
    ++ "Options:\n"
    ++ "      --bridge-url <URL>        Base URL of the Refactoring Bridge (overrides "
    ++ Config.urlVariable ++ ")\n"
    ++ "      --auth-token <TOKEN>      Bearer token for the bridge (overrides "
    ++ Config.tokenVariable ++ ")\n"
    ++ "      --timeout-secs <SECONDS>  Per-request timeout in seconds (default: 30)\n"
    ++ "  -h, --help                    Print help\n"
    ++ "  -V, --version                 Print version\n"

/-- What is printed for the version. -/
def versionText : String := programName ++ " " ++ programVersion ++ "\n"

/-- The configuration for settings from the command line and an environment. -/
def Settings.config (s : Settings) (env : Environment) : Config :=
  .resolve s.bridgeUrl s.authToken (s.timeoutSecs.map (1000 * ·)) env

/-- A duration in its greatest unit: seconds with up to three decimals, or milliseconds. -/
def durationText (milliseconds : Nat) : String :=
  if milliseconds = 0 then "0ns"
  else if milliseconds < 1000 then toString milliseconds ++ "ms"
  else
    let rest := milliseconds % 1000
    let decimals := (Nat.toDigits 10 (1000 + rest)).drop 1
    let shown := (decimals.reverse.dropWhile (· == '0')).reverse
    toString (milliseconds / 1000) ++ (if rest = 0 then "" else "." ++ String.ofList shown) ++ "s"

/-- What is logged when the server starts. It says whether there is a token, and not which. -/
def startText (c : Config) : String :=
  "Starting MCP server for bridge at " ++ c.baseUrl ++ " (timeout " ++ durationText c.timeout
    ++ ", auth " ++ (if c.authToken.isSome then "enabled" else "disabled") ++ ")"

end RefactorGateway.CommandLine
