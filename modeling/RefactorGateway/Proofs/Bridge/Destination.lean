import RefactorGateway.Proofs.Bridge.Classification
import RefactorGateway.Proofs.Http.BaseUrl
/-!
# Where calls go

All calls of a configuration go to one server, below one base URL, and with the credentials that
this carries.

## Main Definitions

* `Config.base?`: the base URL, read with a slash behind it
* `Config.credentials?`: the credentials that it carries
* `Config.authorization`: the header that identifies the caller

## Main Statements

* `Config.exists_liesBelow`: where the request of an operation goes
* `Client.authorization_requestFor`: whom its header names
-/

namespace RefactorGateway.Bridge

open Http (Url)

/-- The base URL of a configuration, if it names a server. -/
def Config.base? (config : Config) : Option Url := Url.read (config.baseUrl ++ "/")

/-- The credentials of the base URL. -/
def Config.credentials? (config : Config) : Option Http.Credentials :=
  config.base?.bind Url.credentials

/-- The header that identifies the caller: the credentials of the base URL, and else the token if it
can be sent. -/
def Config.authorization (config : Config) : Option String :=
  (config.credentials?.map Http.Credentials.header).or (config.authToken.bind bearer?)

theorem Endpoint.isPath (e : Endpoint) : Url.IsPath (e.path.toList.drop 1) := by
  cases e <;> decide +kernel

theorem Endpoint.slash_path (e : Endpoint) :
    String.ofList ('/' :: e.path.toList.drop 1) = e.path := by
  cases e <;> decide +kernel

variable {config : Config} {e : Endpoint}

theorem Config.endpoint_path (config : Config) (e : Endpoint) :
    config.endpoint e.path = config.baseUrl ++ "/" ++ String.ofList (e.path.toList.drop 1) := by
  have slash : e.path = "/" ++ String.ofList (e.path.toList.drop 1) := by
    rw [← String.toList_inj, ← e.slash_path]
    simp
  rw [endpoint, String.append_assoc, ← slash]

/-- The request of an operation goes to its path below the base URL. -/
theorem Config.exists_liesBelow {base : Url} (named : config.base? = some base) (e : Endpoint) :
    ∃ url, Url.read (config.endpoint e.path) = some url ∧
      url.LiesBelow config.baseUrl base e.path := by
  have below := Url.liesBelow_of_read named e.isPath
  rwa [← config.endpoint_path, e.slash_path] at below

/-- The URL of every operation carries the credentials of the base URL. -/
theorem Config.credentials_of_read {url : Url}
    (found : Url.read (config.endpoint e.path) = some url) :
    url.credentials = config.credentials? := by
  rw [config.endpoint_path] at found
  exact Url.credentials_eq_of_read e.isPath found

/-- What a client puts on a request is decided by the configuration. -/
theorem Client.authorization_requestFor {url : Url} (r : e.Request)
    (found : Url.read (config.endpoint e.path) = some url) :
    (requestFor (.ofConfig config) url e r).authorization = config.authorization := by
  rw [Config.authorization, ← Config.credentials_of_read found]
  rfl

end RefactorGateway.Bridge
