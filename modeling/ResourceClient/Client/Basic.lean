import ResourceClient.Config.Basic
import ResourceClient.Dialogue.Basic
import ResourceClient.Http.Replay
import ResourceClient.Retry.Loop

/-! # Clients

    A client is a usable configuration with the headers of its requests.  It
    sends a request in attempts, each one exchange with the server, and
    repeats them within the retry budgets: the full ones for requests that
    may be replayed, the reduced ones for all others.  A request whose URL
    cannot be used fails before anything is sent. -/

namespace ResourceClient

/-- A client of one project. -/
structure Client where
  /-- The configuration. -/
  config : ClientConfig
  /-- The headers of every request. -/
  headers : Http.Headers

namespace Client

/-! ## Making a client -/

/-- The value of a header. -/
def headerValue (s : String) : Result String :=
  match Http.headerValue? s with
  | some value => .ok value
  | none => .error (.configuration "Invalid header value: failed to parse header value")

/-- The name of a header. -/
def headerName (s : String) : Result String :=
  match Http.headerName? s with
  | some name => .ok name
  | none =>
    .error (.configuration ("Invalid header name " ++ s ++ ": invalid HTTP header name"))

/-- Sets a header after its value was checked. -/
def addHeader (name value : String) (headers : Http.Headers) : Result Http.Headers := do
  return headers.set name (← headerValue value)

/-- Sets the header that authenticates the client: the key, or else the token. -/
def authenticate (config : ClientConfig) (headers : Http.Headers) : Result Http.Headers :=
  match config.apiKey, config.token with
  | some key, _ => addHeader "api-key" key headers
  | none, some token => addHeader "authorization" ("Bearer " ++ token) headers
  | none, none => .ok headers

/-- The headers of every request. -/
def defaultHeaders (config : ClientConfig) : Result Http.Headers := do
  let json := (Http.Headers.empty.set "content-type" "application/json").set "accept"
    "application/json"
  let headers ← addHeader "x-cdp-sdk" (Product.agent ++ ":" ++ Product.version) json
  let headers ← addHeader "x-cdp-app" config.clientName headers
  let headers ← authenticate config headers
  config.headers.foldlM (fun headers (name, value) => do
    addHeader (← headerName name) value headers) headers

/-- The client for a configuration. -/
def new (config : ClientConfig) : Result Client := do
  config.validate
  let headers ← defaultHeaders config
  return { config, headers }

/-- The client that an environment describes. -/
def ofEnvironment (config : Result ClientConfig) : Result Client := config >>= new

/-! ## One attempt -/

/-- A request that cannot be sent. -/
def invalidRequest (source : String) : Error :=
  (Error.configuration "Invalid request").withSource source

/-- The URL of a request, which has to name a host. -/
def requestUrl (s : String) : Result Url :=
  match Url.parse s with
  | .error fault => .error (invalidRequest fault.message)
  | .ok url => if url.hasHost then .ok url else .error (invalidRequest "no host")

/-- Whether the body of a request is compressed. -/
def compresses (config : ClientConfig) (r : Http.Request) : Bool :=
  !config.disableGzip && r.body.isSome && (r.method == .post || r.method == .put)

/-- Sets a header unless the request has it. -/
def defaultHeader (name value : String) (headers : Http.Headers) : Http.Headers :=
  if (headers.get? name).isSome then headers else headers.set name value

/-- A request as it is sent. -/
def prepare (config : ClientConfig) (r : Http.Request) : Result Outgoing := do
  let url ← requestUrl r.url
  if !url.isWeb then .error (invalidRequest "the scheme is not one of the web")
  else
    let gzip := compresses config r
    let headers := defaultHeader "accept" "*/*"
      (defaultHeader "user-agent" config.userAgent r.headers)
    return {
      request := { r with
        headers := if gzip then headers.append "content-encoding" "gzip" else headers }
      target := (url.withQuery r.query).target
      gzip }

/-- What an attempt ends in. -/
def attemptOf : Http.Reply → Attempt
  | .response r => .ok r
  | .readTimeout => .error (Error.withSource { kind := .readTimeout } "no answer in time")
  | .refused => .error (Error.withSource { kind := .connectionRefused } "connection refused")
  | .lost => .error (Error.withSource { kind := .connection } "connection lost")

/-- One attempt. -/
def send (c : Client) (r : Http.Request) : Dialogue Attempt :=
  match prepare c.config r with
  | .error e => .done (.error e)
  | .ok sent => do return attemptOf (← Dialogue.exchange sent)

/-! ## Requests -/

/-- The retry budgets of a request. -/
def policy (c : Client) (replayable : Bool) : RetryPolicy :=
  if replayable then c.config.retry else c.config.retry.forWrites

/-- A request in attempts. -/
def execute (c : Client) (r : Http.Request) (replayable : Bool) : Dialogue Attempt :=
  (c.policy replayable).execute (c.send r)

/-- The request for a path of the project. -/
def requestFor (c : Client) (method : Http.Method) (path : String)
    (query : List (String × String)) (body : Option Json) : Http.Request where
  method
  url := c.config.projectUrl ++ path
  query
  body
  headers := c.headers

/-- A response that is a success; any other response is the error that it reports. -/
def successful : Attempt → Result Http.Response
  | .error e => .error e
  | .ok r => if r.isSuccess then .ok r else .error r.error

/-- A request for a path of the project, in attempts, that has to succeed. -/
def request (c : Client) (method : Http.Method) (path : String) (query : List (String × String))
    (body : Option Json) : Dialogue (Result Http.Response) := do
  let outcome ← c.execute (c.requestFor method path query body) (Http.mayReplay method path)
  return successful outcome

/-- Reads a path of the project. -/
def get (c : Client) (path : String) (query : List (String × String) := []) :
    Dialogue (Result Http.Response) := c.request .get path query none

/-- Posts a body to a path of the project. -/
def post (c : Client) (path : String) (body : Json) : Dialogue (Result Http.Response) :=
  c.request .post path [] (some body)

/-- Puts a body in place at a path of the project. -/
def put (c : Client) (path : String) (body : Json) : Dialogue (Result Http.Response) :=
  c.request .put path [] (some body)

/-- Removes a path of the project. -/
def delete (c : Client) (path : String) (query : List (String × String) := []) :
    Dialogue (Result Http.Response) := c.request .delete path query none

end Client

end ResourceClient
