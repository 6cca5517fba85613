import ResourceClient.Error
import ResourceClient.Http.Header

/-! # Requests and replies

    A request is one call as the client means it: its URL is still a text,
    and its body still a JSON value.  A response is a whole reply, its body
    read to the end. -/

namespace ResourceClient.Http

/-- A request method, by its name. -/
structure Method where
  /-- The name; case matters. -/
  name : String
  deriving DecidableEq, Repr

namespace Method

/-- The method that reads. -/
def get : Method := ⟨"GET"⟩

/-- The method that hands over a body. -/
def post : Method := ⟨"POST"⟩

/-- The method that puts a body in place. -/
def put : Method := ⟨"PUT"⟩

/-- The method that removes. -/
def delete : Method := ⟨"DELETE"⟩

/-- The method that reads the headers only. -/
def head : Method := ⟨"HEAD"⟩

end Method

/-- One call. -/
structure Request where
  /-- The method. -/
  method : Method
  /-- The absolute URL, as a text. -/
  url : String
  /-- Parameters that are added to the query of the URL. -/
  query : List (String × String) := []
  /-- The body. -/
  body : Option Json := none
  /-- The headers. -/
  headers : Headers := .empty
  /-- How long to wait for the answer, in milliseconds, when not as long as configured. -/
  timeout : Option Nat := none

/-- A reply, read to the end. -/
structure Response where
  /-- The status code. -/
  status : Nat
  /-- The headers. -/
  headers : Headers
  /-- The body. -/
  body : ByteArray

namespace Response

/-- Whether the status is a success. -/
def isSuccess (r : Response) : Bool := 200 ≤ r.status && r.status < 300

/-- The request id that the server gave, if it can be read as text. -/
def requestId? (r : Response) : Option String :=
  match r.headers.get? "x-request-id" with
  | some id => if isVisible id then some id else none
  | none => none

/-- The body as a JSON value. -/
def json (r : Response) : Result Json :=
  match Json.parseBytes r.body with
  | .ok v => .ok v
  | .error fault =>
    .error ((Error.serialization ("Invalid response body: " ++ fault.message)).withSource
      fault.message)

/-- The error that the reply reports. -/
def error (r : Response) : Error := .api (.ofReply r.status r.body r.requestId?)

end Response

/-- What an exchange with a server comes to. -/
inductive Reply where
  /-- A whole reply. -/
  | response (r : Response)
  /-- No answer in time. -/
  | readTimeout
  /-- The server refused the connection. -/
  | refused
  /-- The connection failed before the answer was complete. -/
  | lost

end ResourceClient.Http
