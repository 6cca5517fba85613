import ResourceClient.Listing.Pages

/-! # Listing resources

    A collection is listed as a whole, item by item, in chunks, or in
    partitions that are read side by side.  Every way has a budget, which
    bounds the steps of the underlying feed. -/

namespace ResourceClient.Collection

variable {α : Type}

/-- The resources of a listing, or the first error. -/
def list (c : Collection) (decode : Decoder α) (budget : Nat) (r : ListRequest) :
    Dialogue (Result (List α)) := (c.pages r).items.collect decode budget { source := {} }

/-- The first `count` resources of a listing, or all of them, one at a time. -/
def listItems (c : Collection) (decode : Decoder α) (budget : Nat) (r : ListRequest)
    (count : Option Nat := none) : Dialogue (List (Result α)) :=
  (c.pages r).items.take decode budget (count.getD (budget + 1)) { source := {} }

/-- The first `count` chunks of a listing, or all of them. -/
def listChunks (c : Collection) (decode : Decoder α) (budget : Nat) (r : ListRequest) (size : Nat)
    (count : Option Nat := none) : Dialogue (List (Result (List α))) :=
  ((c.pages { r with chunkSize := some size }).regrouped size).take decode.list budget
    (count.getD (budget + 1)) { source := some {} }

/-! ## Partitions -/

/-- There has to be a partition. -/
def noPartitions : Error :=
  .validation "partitions must be at least 1" (some "partitions") (some "0")

/-- The labels of the partitions, in order. -/
def partitionLabels (partitions : Nat) : List String :=
  (List.range partitions).map fun i => toString (i + 1) ++ "/" ++ toString partitions

/-- The resources of all partitions of a listing, partition after partition.
    The partitions are read side by side. -/
def listPartitioned (c : Collection) (decode : Decoder α) (budget : Nat) (r : ListRequest)
    (partitions : Nat) : Dialogue (Result (List α)) :=
  if partitions = 0 then .done (.error noPartitions)
  else do
    let outcome ← Bulk.execute c.client.config.maxWorkers (partitionLabels partitions)
      fun label => c.list .json budget { r with partitionLabel := some label }
    match outcome with
    | .error e => return .error e
    | .ok summary =>
      let joined := (summary.raise fun label => [.string label]).map (·.joined id)
      return decodeItems decode joined

end ResourceClient.Collection
