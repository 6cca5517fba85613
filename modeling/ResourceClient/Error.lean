import ResourceClient.Json.Parser
import ResourceClient.Json.Printer
import ResourceClient.Text.Utf8

/-! # Errors

    An error is a kind, which is its cause, together with what callers on
    the way added to it: a context, the text of an error underneath, and,
    after a bulk operation, what became of each item.  All wording is in
    `ErrorKind.message` and `Error.text`. -/

namespace ResourceClient

/-! ## Answers of the server that report an error -/

/-- A reply whose status is not a success. -/
structure ApiError where
  /-- The status code. -/
  code : Nat
  /-- The message of the reply. -/
  message : String
  /-- The request id that the server gave. -/
  requestId : Option String
  /-- The identifiers that the server did not find. -/
  missing : List Json
  /-- The identifiers or values that the server holds already. -/
  duplicated : List Json
  /-- The other members of the reported error. -/
  extra : Fields

namespace ApiError

/-- An error that has a code only. -/
def ofCode (code : Nat) : ApiError := ⟨code, "", none, [], [], .empty⟩

/-- The list under a key, empty when something else is there. -/
def listUnder (object : Fields) (key : String) : List Json :=
  ((object.get? key).bind Json.array?).getD []

/-- The message of a reported error: a text as it is, any other value as compact text. -/
def messageOf : Option Json → String
  | none => ""
  | some (.string s) => s
  | some v => v.render

/-- The error that a reply reports.  A reported text is the message; a reported
    object holds the message, the lists of identifiers, the code, which the
    status replaces, and further members.  Any other body is the message itself.
    -/
def ofReply (code : Nat) (body : ByteArray) (requestId : Option String) : ApiError :=
  let reported := match Json.parseBytes body with
    | .ok json => json.get? "error"
    | .error _ => none
  match reported with
  | some (.string message) => { ofCode code with message, requestId }
  | some (.object entries) =>
    let object := Fields.ofList entries
    { code
      message := messageOf (object.get? "message")
      requestId
      missing := listUnder object "missing"
      duplicated := listUnder object "duplicated"
      extra := (((object.erase "message").erase "missing").erase "duplicated").erase "code" }
  | _ => { ofCode code with message := Text.showBytes body, requestId }

/-- The text of the error: the parts that are there, set off by bars. -/
def text (e : ApiError) : String :=
  e.message ++ " | code: " ++ toString e.code
    ++ (match e.requestId with
      | some id => " | X-Request-ID: " ++ id
      | none => "")
    ++ (if e.missing.isEmpty then "" else " | missing: " ++ (Json.array e.missing).render)
    ++ (if e.duplicated.isEmpty then ""
      else " | duplicated: " ++ (Json.array e.duplicated).render)

/-- Whether the server reported identifiers that it holds already or did not find. -/
def namesIdentifiers (e : ApiError) : Bool := !e.missing.isEmpty || !e.duplicated.isEmpty

end ApiError

/-! ## Items of a bulk operation -/

/-- What became of the items of a bulk operation that did not succeed as a whole. -/
structure BulkOutcome where
  /-- Items whose request succeeded. -/
  successful : List Json
  /-- Items whose request the server rejected. -/
  failed : List Json
  /-- Items whose request may or may not have taken effect. -/
  unknown : List Json

/-! ## Errors -/

/-- The cause of an error. -/
inductive ErrorKind where
  /-- The server answered with a status that is not a success. -/
  | api (error : ApiError)
  /-- The server did not answer in time. -/
  | readTimeout
  /-- The server refused the connection. -/
  | connectionRefused
  /-- The connection failed in any other way. -/
  | connection
  /-- An input was rejected before a request was sent. -/
  | validation (message : String) (field value : Option String)
  /-- A value could not be read from JSON. -/
  | serialization (message : String)
  /-- The configuration cannot be used. -/
  | configuration (message : String)
  /-- A job on the server ended in failure. -/
  | jobFailed (jobId : Int64) (message : String)
  /-- Something else went wrong inside the client. -/
  | internal (message : String)

/-- The wording of a cause. -/
def ErrorKind.message : ErrorKind → String
  | api error => error.text
  | readTimeout => "Read timed out"
  | connectionRefused => "Connection refused"
  | connection => "Connection error"
  | validation message _ _ => "Validation error: " ++ message
  | serialization message => "Serialization error: " ++ message
  | configuration message => "Configuration error: " ++ message
  | jobFailed jobId message => "Job " ++ toString jobId.toInt ++ " failed: " ++ message
  | internal message => "Internal error: " ++ message

/-- An error with what callers added to it. -/
structure Error where
  /-- The cause. -/
  kind : ErrorKind
  /-- Where it happened. -/
  context : Option String := none
  /-- The text of the error underneath. -/
  source : Option String := none
  /-- What became of the items of a bulk operation. -/
  outcome : Option BulkOutcome := none

namespace Error

/-- An answer of the server that is no success. -/
def api (error : ApiError) : Error := { kind := .api error }

/-- An input that is rejected, the field it stands in and its value. -/
def validation (message : String) (field : Option String) (value : Option String) : Error :=
  { kind := .validation message field value }

/-- A JSON value of the wrong shape. -/
def serialization (message : String) : Error := { kind := .serialization message }

/-- A configuration that cannot be used. -/
def configuration (message : String) : Error := { kind := .configuration message }

/-- The error underneath. -/
def withSource (e : Error) (text : String) : Error := { e with source := some text }

/-- What became of the items. -/
def withOutcome (e : Error) (outcome : BulkOutcome) : Error := { e with outcome := some outcome }

/-- A text that is no JSON value. -/
def ofFault (fault : Json.Fault) : Error :=
  (serialization fault.message).withSource fault.message

/-- A JSON value that has not the shape of what is read from it. -/
def ofShape (text : String) : Error := (serialization text).withSource text

/-- The answer of the server, if that is what the error is. -/
def apiError? (e : Error) : Option ApiError :=
  match e.kind with
  | .api error => some error
  | _ => none

/-- The status code of the answer. -/
def statusCode? (e : Error) : Option Nat := e.apiError?.map (·.code)

/-- Whether the server reported identifiers that it did not find. -/
def isNotFound (e : Error) : Bool :=
  match e.apiError? with
  | some error => !error.missing.isEmpty
  | none => false

/-- Whether no answer was received. -/
def isTransport (e : Error) : Bool :=
  match e.kind with
  | .readTimeout | .connectionRefused | .connection => true
  | _ => false

/-- The whole text of an error. -/
def text (e : Error) : String :=
  (match e.context with
    | some context => context ++ ": "
    | none => "")
    ++ e.kind.message
    ++ (match e.source with
      | some source => " (caused by: " ++ source ++ ")"
      | none => "")
    ++ (match e.outcome with
      | some outcome =>
        " [successful: " ++ toString outcome.successful.length
          ++ ", failed: " ++ toString outcome.failed.length
          ++ ", unknown: " ++ toString outcome.unknown.length ++ "]"
      | none => "")

end Error

/-- A result or an error. -/
abbrev Result (α : Type) := Except Error α

end ResourceClient
