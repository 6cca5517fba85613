import ResourceClient.Error
import ResourceClient.Retry.Policy
import ResourceClient.Text.Blank
import ResourceClient.Url.Basic

/-! # Configuration of a client

    A configuration names the cluster by its URL and the project in it.
    Everything else has a default.  A configuration can be used when its
    project is not blank and at least one request may be in flight. -/

namespace ResourceClient

namespace Product

/-- The name of this library, as it is reported. -/
def name : String := "cognite-sdk"

/-- The version of this library, as it is reported. -/
def version : String := "0.1.0"

/-- The name that stands for this library in headers. -/
def agent : String := "CogniteRustSdk"

/-- The cluster that is used when none is configured. -/
def baseUrl : String := "https://api.cognitedata.com"

end Product

/-- How a client reaches its project. -/
structure ClientConfig where
  /-- The URL of the cluster. -/
  baseUrl : Url
  /-- The name of the project. -/
  project : String
  /-- The key that authenticates the client. -/
  apiKey : Option String := none
  /-- The token that authenticates the client, when there is no key. -/
  token : Option String := none
  /-- The name that the client reports. -/
  clientName : String := "cognite-rust-sdk"
  /-- The version of the interface, a segment of every path. -/
  apiVersion : String := "v1"
  /-- How long an attempt may take, in milliseconds. -/
  timeout : Nat := 30000
  /-- How long connecting may take, in milliseconds. -/
  connectTimeout : Nat := 10000
  /-- How many requests of a bulk operation may be in flight. -/
  maxWorkers : Nat := 10
  /-- Whether bodies are sent as they are. -/
  disableGzip : Bool := false
  /-- How many idle connections are kept. -/
  poolSize : Nat := 50
  /-- Whether certificates are verified. -/
  verifySsl : Bool := true
  /-- The user agent that the client reports. -/
  userAgent : String := Product.agent ++ "/" ++ Product.version
  /-- The retry budgets of requests that may be replayed. -/
  retry : RetryPolicy := {}
  /-- Further headers of every request. -/
  headers : List (String × String) := []

namespace ClientConfig

/-- A text that is no URL. -/
def invalidUrl (fault : Url.Fault) : Error :=
  (Error.configuration ("Invalid URL: " ++ fault.message)).withSource fault.message

/-- The configuration for a project on a cluster. -/
def new (baseUrl project : String) : Result ClientConfig :=
  match Url.parse baseUrl with
  | .ok url => .ok { baseUrl := url, project }
  | .error fault => .error (invalidUrl fault)

/-- A blank project. -/
def noProject : Error := .validation "project must not be empty" (some "project") none

/-- No request may be in flight. -/
def noWorkers : Error :=
  .validation "max_workers must be at least 1" (some "max_workers") (some "0")

/-- Whether a client can be made. -/
def validate (c : ClientConfig) : Result Unit :=
  if (Text.trim c.project).isEmpty then .error noProject
  else if c.maxWorkers = 0 then .error noWorkers
  else .ok ()

/-- The URL that the paths of the project are appended to. -/
def projectUrl (c : ClientConfig) : String :=
  Text.trimEndOf '/' c.baseUrl.text ++ "/api/" ++ c.apiVersion ++ "/projects/" ++ c.project

end ClientConfig

end ResourceClient
