import ResourceClient.Json.Record

/-! # Assets

    An asset as far as a caller needs it to tell one from another: its two
    identifiers and its name. -/

namespace ResourceClient

/-- What identifies an asset. -/
structure Asset where
  /-- The number that the server gave. -/
  id : Option Int64
  /-- The text that its user chose. -/
  externalId : Option String
  /-- The name. -/
  name : Option String
  deriving DecidableEq, Repr

namespace Asset

/-- The asset that a record holds, if its members have the right types. -/
def ofJson? (v : Json) : Option Asset := do
  let members ← v.record? ["id", "externalId", "name"]
  let id ← Json.optional? Json.int64? (members.lookup "id")
  let externalId ← Json.optional? Json.string? (members.lookup "externalId")
  let name ← Json.optional? Json.string? (members.lookup "name")
  return { id, externalId, name }

/-- Reads an asset. -/
def decode : Decoder Asset := fun v =>
  match ofJson? v with
  | some asset => .ok asset
  | none => .error (.ofShape "an asset is expected")

/-- The object of an asset. -/
def json (a : Asset) : Json :=
  .ofFields (.ofList
    [("id", (a.id.map Json.ofInt64).getD .null),
     ("externalId", (a.externalId.map Json.string).getD .null),
     ("name", (a.name.map Json.string).getD .null)])

end Asset

end ResourceClient
