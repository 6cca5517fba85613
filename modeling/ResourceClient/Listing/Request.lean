import ResourceClient.Json.Printer
import ResourceClient.Json.Record
import ResourceClient.Wire.Item

/-! # Requests for a page of a listing

    A listing is read page by page.  Each page request carries the filter,
    the number of items asked for, and the cursor that the page before it
    gave.  An endpoint takes these as query parameters or in a body.
    `pageLimit` is how many items the next page may hold: no more than a
    request may ask for, no more than the caller takes at a time, and no
    more than are still wanted. -/

namespace ResourceClient

/-- How an endpoint that lists is addressed. -/
inductive ListMethod where
  /-- Parameters in the query. -/
  | get
  /-- Parameters in the body. -/
  | post
  deriving DecidableEq, Repr

namespace ListMethod

/-- The name of the method, as text and in JSON. -/
def text : ListMethod → String
  | get => "GET"
  | post => "POST"

/-- The method with a name. -/
def ofText? : String → Option ListMethod
  | "GET" => some get
  | "POST" => some post
  | _ => none

theorem ofText?_text (m : ListMethod) : ofText? m.text = some m := by cases m <;> rfl

end ListMethod

/-- The name of one of several alternatives: a text, or an object with the name
    as only key and no value. -/
def Json.variantName? : Json → Option String
  | .string name => some name
  | .object [(name, .null)] => some name
  | _ => none

/-- The list method that a JSON value names. -/
def ListMethod.decode (v : Json) : Result ListMethod :=
  match v.variantName?.bind ofText? with
  | some m => .ok m
  | none => .error (.ofShape "GET or POST is expected")

/-- What is the same for all page requests of a listing. -/
structure ListRequest where
  /-- How the endpoint is addressed. -/
  method : ListMethod
  /-- The filter. -/
  filter : Fields := .empty
  /-- How many items are wanted, all if it is absent. -/
  limit : Option Nat := none
  /-- How many items the caller takes at a time. -/
  chunkSize : Option Nat := none
  /-- The part of the collection that is listed, such as `2/4`. -/
  partitionLabel : Option String := none

namespace ListRequest

/-- The request for a listing with a filter or without. -/
def new (method : ListMethod) (filter : Option Filter) (limit chunkSize : Option Nat) :
    ListRequest :=
  { method
    filter := (filter.map Filter.fields).getD .empty
    limit
    chunkSize }

/-- How many items the next page may hold, when `fetched` were received. -/
def pageLimit (r : ListRequest) (listLimit fetched : Nat) : Nat :=
  let page := match r.chunkSize with
    | some size => min size listLimit
    | none => listLimit
  match r.limit with
  | some limit => min page (limit - fetched)
  | none => page

theorem pageLimit_le_listLimit (r : ListRequest) (listLimit fetched : Nat) :
    r.pageLimit listLimit fetched ≤ listLimit := by
  unfold pageLimit
  cases r.chunkSize <;> cases r.limit <;> simp only <;> omega

theorem pageLimit_le_chunkSize {r : ListRequest} {size : Nat} (h : r.chunkSize = some size)
    (listLimit fetched : Nat) : r.pageLimit listLimit fetched ≤ size := by
  unfold pageLimit
  rw [h]
  cases r.limit <;> simp only <;> omega

theorem pageLimit_le_wanted {r : ListRequest} {limit : Nat} (h : r.limit = some limit)
    (listLimit fetched : Nat) : r.pageLimit listLimit fetched ≤ limit - fetched := by
  unfold pageLimit
  rw [h]
  exact Nat.min_le_right _ _

/-- Without limits of the caller a page may hold as many items as a request may ask for. -/
theorem pageLimit_eq {r : ListRequest} (hlimit : r.limit = none) (hchunk : r.chunkSize = none)
    (listLimit fetched : Nat) : r.pageLimit listLimit fetched = listLimit := by
  unfold pageLimit
  rw [hlimit, hchunk]

/-- The query parameters of a page request: the filter, then what selects the page. -/
def query (r : ListRequest) (pageLimit : Nat) (cursor : Option String) :
    List (String × String) :=
  r.filter.entries.map (fun e => (e.1, e.2.queryText))
    ++ [("limit", toString pageLimit)]
    ++ (cursor.map fun c => ("cursor", c)).toList
    ++ (r.partitionLabel.map fun p => ("partition", p)).toList

/-- The body of a page request. -/
def body (r : ListRequest) (pageLimit : Nat) (cursor : Option String) : Json :=
  let fields := Fields.ofList
    [("filter", .ofFields r.filter), ("limit", .int pageLimit),
     ("cursor", (cursor.map Json.string).getD .null)]
  .ofFields <| match r.partitionLabel with
    | some p => fields.insert "partition" (.string p)
    | none => fields

end ListRequest

end ResourceClient
