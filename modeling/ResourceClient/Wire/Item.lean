import ResourceClient.Error
import ResourceClient.Wire.Form

/-! # Items to create, and filters

    What a caller hands over is raw or typed.  Raw objects are sent exactly
    as given; typed values are sent in their wire form.  Writing a typed
    value as JSON may fail, so a typed value is given as the result of
    writing it. -/

namespace ResourceClient

/-- One item of a request that creates. -/
inductive WriteItem where
  /-- An object that is sent as it is. -/
  | raw (object : Fields)
  /-- A typed value: the JSON value it is written as, or why it cannot be. -/
  | typed (written : Result Json)

namespace WriteItem

/-- A raw item, which has to be an object. -/
def ofJson (v : Json) : Result WriteItem :=
  match v.fields? with
  | some f => .ok (raw f)
  | none => .error (.validation "raw items must be JSON objects" (some "item") (some v.render))

/-- What is sent for an item. -/
def wire : WriteItem → Result Json
  | raw object => .ok (.ofFields object)
  | typed written => written.map Json.wireForm

end WriteItem

/-- The filter of a request that lists, searches or aggregates. -/
inductive Filter where
  /-- An object that is sent as it is. -/
  | raw (object : Fields)
  /-- The wire form of a typed filter. -/
  | typed (object : Fields)

namespace Filter

/-- A raw filter, which has to be an object. -/
def ofJson (v : Json) : Result Filter :=
  match v.fields? with
  | some f => .ok (raw f)
  | none => .error (.validation "filters must be JSON objects" (some "filter") (some v.render))

/-- A typed filter, whose wire form has to be an object. -/
def ofTyped (written : Result Json) : Result Filter := do
  let v := (← written).wireForm
  match v.fields? with
  | some f => return typed f
  | none =>
    .error (.validation "filters must serialize to JSON objects" (some "filter") (some v.render))

/-- The members that are sent. -/
def fields : Filter → Fields
  | raw object | typed object => object

/-- The object that is sent. -/
def json (f : Filter) : Json := .ofFields f.fields

end Filter

end ResourceClient
