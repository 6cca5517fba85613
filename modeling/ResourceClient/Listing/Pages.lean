import ResourceClient.Collection.Basic
import ResourceClient.Feed
import ResourceClient.Listing.Request

/-! # The pages of a listing

    A listing is a feed of pages.  Each page request carries the cursor of
    the page before it and asks for no more items than are still wanted; a
    page that holds more is cut.  The listing is at its end when a page
    carries no cursor, when as many items as wanted were received, or when a
    page may hold no items at all. -/

namespace ResourceClient

/-- One page of a listing. -/
structure Page where
  /-- The items. -/
  items : List Json
  /-- Where the next page begins, if there is one. -/
  nextCursor : Option String

namespace Page

/-- The page has no list of items. -/
def noItems : Error := .serialization "List response has no items array"

/-- The page that an answer holds.  A cursor that is not a text does not count. -/
def ofJson (v : Json) : Result Page :=
  match (v.get? "items").bind Json.array? with
  | some items => .ok { items, nextCursor := (v.get? "nextCursor").bind Json.string? }
  | none => .error noItems

end Page

/-- How far a listing was read. -/
structure Paging where
  /-- Where the next page begins; absent for the first. -/
  cursor : Option String := none
  /-- How many items were received. -/
  fetched : Nat := 0
  /-- Whether there are no further pages. -/
  finished : Bool := false

namespace Paging

/-- Whether as many items as wanted were received. -/
def satisfies (fetched : Nat) : (limit : Option Nat) → Bool
  | some limit => limit ≤ fetched
  | none => false

/-- How far a listing was read after a page, of which `received` items were kept. -/
def after (p : Paging) (limit : Option Nat) (received : Nat) (nextCursor : Option String) :
    Paging where
  cursor := nextCursor
  fetched := p.fetched + received
  finished := nextCursor.isNone || satisfies (p.fetched + received) limit

end Paging

namespace Collection

/-- Asks for a page. -/
def requestPage (c : Collection) (r : ListRequest) (pageLimit : Nat) (cursor : Option String) :
    Dialogue (Result Http.Response) :=
  match r.method with
  | .get => c.client.get c.path (r.query pageLimit cursor)
  | .post => c.client.post (c.endpoint "/list") (r.body pageLimit cursor)

/-- The page that a response carries. -/
def pageOf (r : Http.Response) : Result Page := do
  Page.ofJson (← r.json)

/-- Fetches a page. -/
def fetchPage (c : Collection) (r : ListRequest) (pageLimit : Nat) (cursor : Option String) :
    Dialogue (Result Page) := do
  return (← c.requestPage r pageLimit cursor) >>= pageOf

/-- The pages of a listing. -/
def pages (c : Collection) (r : ListRequest) : Feed Paging (List Json) where
  step p :=
    let limit := r.pageLimit c.limits.list p.fetched
    if p.finished || limit == 0 then .done .finished
    else do
      match ← c.fetchPage r limit p.cursor with
      | .error e => return .failure e
      | .ok page =>
        let items := page.items.take limit
        return .value items (p.after r.limit items.length page.nextCursor)

end Collection

end ResourceClient
