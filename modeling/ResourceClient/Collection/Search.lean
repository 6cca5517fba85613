import ResourceClient.Collection.Basic
import ResourceClient.Wire.Item

/-! # Searching and aggregating

    Both are one request each, which only reads. -/

namespace ResourceClient.Collection

variable {α : Type}

/-- The body of a search. -/
def searchBody (query : Json) (filter : Option Filter) (limit : Nat) : Json :=
  .ofFields (.ofList
    ([("search", query), ("limit", .int limit)]
      ++ (filter.map fun f => ("filter", f.json)).toList))

/-- Free-text search among the resources that a filter admits. -/
def search (c : Collection) (decode : Decoder α) (query : Json) (filter : Option Filter)
    (limit : Nat) : Dialogue (Result (List α)) := do
  let found ← c.postForItems (c.endpoint "/search") (searchBody query filter limit)
  return decodeItems decode found

/-- The body of an aggregation; no filter is the filter without members. -/
def aggregateBody (filter : Option Filter) : Json :=
  .singleton "filter" ((filter.map Filter.json).getD (.ofFields .empty))

/-- Aggregates over the resources that a filter admits. -/
def aggregate (c : Collection) (decode : Decoder α) (filter : Option Filter) :
    Dialogue (Result (List α)) := do
  let values ← c.postForItems (c.endpoint "/aggregate") (aggregateBody filter)
  return decodeItems decode values

end ResourceClient.Collection
