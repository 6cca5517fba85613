import ResourceClient.Collection.Retrieve
import ResourceClient.Wire.Item
import ResourceClient.Wire.Patch

/-! # Creating, updating and deleting resources

    All items of a call are put into their wire form before the first
    request is sent, so that an item that has none stops the call as a
    whole. -/

namespace ResourceClient.Collection

variable {α : Type}

/-- Creates resources, at most `limit` with a request, or as many as the
    collection allows.  The created resources are in the order of the items. -/
def createMultiple (c : Collection) (decode : Decoder α) (items : List WriteItem)
    (limit : Option Nat := none) (extra : Fields := .empty) : Dialogue (Result (List α)) :=
  match items.mapM WriteItem.wire with
  | .error e => .done (.error e)
  | .ok wire => do
    let created ← c.sendChunks (limit.getD c.limits.create) wire fun chunk =>
      c.postForItems c.path (itemsBody chunk extra)
    return decodeItems decode created

/-- Creates a resource. -/
def create (c : Collection) (decode : Decoder α) (item : WriteItem) : Dialogue (Result α) := do
  return (← c.createMultiple decode [item]) >>= single

/-- Updates resources.  The updated resources are in the order of the items. -/
def updateMultiple (c : Collection) (decode : Decoder α) (items : List UpdateItem)
    (mode : UpdateMode) : Dialogue (Result (List α)) :=
  match items.mapM (UpdateItem.wire mode) with
  | .error e => .done (.error e)
  | .ok patches => do
    let path := c.endpoint "/update"
    let updated ← c.sendChunks c.limits.update patches fun chunk =>
      c.postForItems path (itemsBody chunk)
    return decodeItems decode updated

/-- Updates a resource. -/
def update (c : Collection) (decode : Decoder α) (item : UpdateItem) (mode : UpdateMode) :
    Dialogue (Result α) := do
  return (← c.updateMultiple decode [item] mode) >>= single

/-- Deletes the resources with the given identifiers. -/
def deleteMultiple (c : Collection) (identifiers : IdentifierSequence) (wrap : Bool := true)
    (extra : Fields := .empty) : Dialogue (Result Unit) :=
  match identifiers.wire wrap with
  | .error e => .done (.error e)
  | .ok items => do
    let path := c.endpoint "/delete"
    let deleted ← c.sendChunks c.limits.delete items fun chunk => do
      let response ← c.client.post path (itemsBody chunk extra)
      return response.map fun _ => ([] : List Unit)
    return (forgiving identifiers deleted).map fun _ => ()

end ResourceClient.Collection
