import ResourceClient.Bulk.Execute
import ResourceClient.Client.Basic
import ResourceClient.Json.Record
import ResourceClient.RequestLimits

/-! # Collections of resources

    A collection is a path of the project under which resources of one kind
    are kept, together with the limits on its requests.  Most endpoints of a
    collection are posted a list of items under the key `items` and answer
    with such a list.  `Collection.sendChunks` splits the items of one call
    into requests, sends these side by side, and joins the answers in the
    order of the items; when a request fails, its one error says what became
    of every item. -/

namespace ResourceClient

/-- A collection of resources of one kind. -/
structure Collection where
  /-- The client that sends the requests. -/
  client : Client
  /-- The path of the collection in its project. -/
  path : String
  /-- How many items a request may carry. -/
  limits : RequestLimits := {}

namespace Collection

/-- The path of an endpoint of the collection. -/
def endpoint (c : Collection) (name : String) : String := c.path ++ name

/-! ## Bodies -/

/-- The body that carries items, under further members.  A further member named
    `items` replaces them. -/
def itemsBody (items : List Json) (extra : Fields := .empty) : Json :=
  .ofFields ((Fields.empty.insert "items" (.array items)).insertAll extra.entries)

/-- The answer has no list of items. -/
def noItems : Error := .serialization "Response has no items array"

/-- The items that a response carries. -/
def itemsOf (r : Http.Response) : Result (List Json) := do
  let json ← r.json
  match (json.get? "items").bind Json.array? with
  | some items => return items
  | none => .error noItems

/-- Posts a body to an endpoint that answers with items. -/
def postForItems (c : Collection) (path : String) (body : Json) :
    Dialogue (Result (List Json)) := do
  match ← c.client.post path body with
  | .ok response => return itemsOf response
  | .error e => return .error e

/-! ## Requests in chunks -/

/-- Sends items in chunks of at most `size`, one request for each, and joins
    what the requests come to. -/
def sendChunks {ρ : Type} (c : Collection) (size : Nat) (items : List Json)
    (request : List Json → Dialogue (Result (List ρ))) : Dialogue (Result (List ρ)) := do
  match ← Bulk.execute c.client.config.maxWorkers (chunks size items) request with
  | .error e => return .error e
  | .ok summary => return (summary.raise id).map (·.joined id)

/-- Reads the items of an answer. -/
def decodeItems {α : Type} (decode : Decoder α) : Result (List Json) → Result (List α)
  | .ok items => decode.list items
  | .error e => .error e

/-- One item was expected. -/
def notOneItem : Error := .serialization "Expected exactly one item in the response"

/-- The only item of a list. -/
def single {α : Type} : List α → Result α
  | [a] => .ok a
  | _ => .error notOneItem

end Collection

end ResourceClient
