import ResourceClient.Json.Value
import ResourceClient.Text.CamelCase

/-! # The wire form of a typed value

    Attributes without a value are left out rather than sent as `null`, and
    the names of attributes are written in camel case.  Both concern the
    outermost object only, so that names which users chose, such as those of
    metadata, stay as they are. -/

namespace ResourceClient

/-- The members with their keys in camel case. -/
def Fields.camelKeys (f : Fields) : Fields := f.mapKeys Text.camelCase

/-- The members that hold a value. -/
def Fields.withoutNulls (f : Fields) : Fields := f.filter fun _ v => !v.isNull

/-- An object with its keys in camel case; any other value as it is. -/
def Json.camelKeys (v : Json) : Json :=
  match v.fields? with
  | some f => ofFields f.camelKeys
  | none => v

/-- The members of the wire form of an object. -/
def Fields.wireForm (f : Fields) : Fields := f.withoutNulls.camelKeys

/-- The wire form of a typed value, given by the JSON value that it is written as. -/
def Json.wireForm (v : Json) : Json :=
  match v.fields? with
  | some f => ofFields f.wireForm
  | none => v

end ResourceClient
