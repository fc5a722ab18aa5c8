import RefactorGateway.Text.Blank
/-!
# Configuration

Where the bridge is, what identifies the caller, and how long to wait. Each setting is taken from an
explicit value, else from the environment, else from a default.

## Main Definitions

- `Config`: the settings
- `Config.resolve`: the settings for given explicit values and a given environment
- `Config.withBaseUrl`, `Config.withAuthToken`, `Config.withTimeout`: change one setting
- `Config.endpoint`: the URL of a path
-/

namespace RefactorGateway.Bridge

/-- The variables of an environment. -/
abbrev Environment := String → Option String

/-- The settings of a connection to the bridge. -/
structure Config where
  /-- The URL of the bridge, without slashes at its end. -/
  baseUrl : String
  /-- The token that identifies the caller. -/
  authToken : Option String
  /-- How long a call may take, in milliseconds. -/
  timeout : Nat
  deriving DecidableEq

namespace Config

/-- The variable that holds the URL of the bridge. -/
def urlVariable : String := "PYCHARM_BRIDGE_URL"

/-- The variable that holds the token. -/
def tokenVariable : String := "PYCHARM_BRIDGE_TOKEN"

/-- The URL of a bridge on the same machine. -/
def defaultBaseUrl : String := "http://localhost:9876"

/-- Half a minute. -/
def defaultTimeout : Nat := 30000

/-- A value that is more than blanks. -/
def nonBlank (value : Option String) : Option String :=
  value.filter fun v => !Text.allBlank v

/-- The settings for explicit values and an environment. Blank values count as missing; the URL
loses the slashes at its end. -/
def resolve (baseUrl authToken : Option String) (timeout : Option Nat) (env : Environment) :
    Config where
  baseUrl :=
    Text.trimSlashes (((nonBlank baseUrl).or (nonBlank (env urlVariable))).getD defaultBaseUrl)
  authToken := (nonBlank authToken).or (nonBlank (env tokenVariable))
  timeout := timeout.getD defaultTimeout

/-- The settings of an environment alone. -/
def ofEnvironment (env : Environment) : Config := resolve none none none env

/-- The settings with another URL, which may be blank here. -/
def withBaseUrl (c : Config) (url : String) : Config := { c with baseUrl := Text.trimSlashes url }

/-- The settings with another token. -/
def withAuthToken (c : Config) (token : String) : Config := { c with authToken := some token }

/-- The settings with another timeout, in milliseconds. -/
def withTimeout (c : Config) (timeout : Nat) : Config := { c with timeout := timeout }

/-- The URL of a path of the bridge. -/
def endpoint (c : Config) (path : String) : String := c.baseUrl ++ path

end Config

end RefactorGateway.Bridge
