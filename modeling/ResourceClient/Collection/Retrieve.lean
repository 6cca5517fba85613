import ResourceClient.Collection.Basic
import ResourceClient.Identifier

/-! # Retrieving resources

    One resource is read from its own path.  Several are named by their
    identifiers in chunks.  That a resource does not exist is no error when
    it is the only one named. -/

namespace ResourceClient.Collection

variable {α : Type}

/-- The resource in the body of a response. -/
def bodyAs (decode : Decoder α) (r : Http.Response) : Result α := do
  match decode (← r.json) with
  | .ok a => return a
  | .error e =>
    let text := e.source.getD e.text
    .error ((Error.serialization ("Invalid response body: " ++ text)).withSource text)

/-- The resource with a number, or nothing if there is none. -/
def retrieve (c : Collection) (decode : Decoder α) (id : Int64) :
    Dialogue (Result (Option α)) := do
  match ← c.client.get (c.endpoint ("/" ++ toString id.toInt)) with
  | .ok response => return (bodyAs decode response).map some
  | .error e => return if e.statusCode? = some 404 then .ok none else .error e

/-- The body that names resources. -/
def identifiersBody (items : List Json) (ignoreUnknown : Bool) : Json :=
  itemsBody items (if ignoreUnknown then .ofList [("ignoreUnknownIds", .bool true)] else .empty)

/-- A result of a call that names resources, where nothing stands for the only
    one named that does not exist. -/
def forgiving (identifiers : IdentifierSequence) : Result (List α) → Result (List α)
  | .ok items => .ok items
  | .error e => if e.isNotFound && identifiers.isSingleton then .ok [] else .error e

/-- The resources with the given identifiers. -/
def retrieveMultiple (c : Collection) (decode : Decoder α) (identifiers : IdentifierSequence)
    (wrap : Bool := true) (ignoreUnknown : Bool := false) : Dialogue (Result (List α)) :=
  match identifiers.wire wrap with
  | .error e => .done (.error e)
  | .ok items => do
    let path := c.endpoint "/byids"
    let found ← c.sendChunks c.limits.retrieve items fun chunk =>
      c.postForItems path (identifiersBody chunk ignoreUnknown)
    return decodeItems decode (forgiving identifiers found)

/-- The resource with an identifier, or nothing if there is none. -/
def retrieveByIdentifier (c : Collection) (decode : Decoder α) (identifier : Identifier) :
    Dialogue (Result (Option α)) := do
  let found ← c.retrieveMultiple decode (.single identifier)
  return found.map (·.getLast?)

end ResourceClient.Collection
