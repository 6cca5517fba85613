import ResourceClient.Identifier
import ResourceClient.Wire.Form

/-! # Patches

    A patch changes attributes of one resource.  Each attribute has one
    operation: a later operation on the same attribute takes the place of
    the earlier one.  Names are compared in camel case, so both spellings of
    a name are one attribute.

    An update item is a patch, or a full resource together with the
    attributes that may be updated.  Of a full resource, attributes with a
    value are set.  Those without one are cleared when the resource is to be
    replaced, and left alone otherwise. -/

namespace ResourceClient

/-- What is done to one attribute. -/
inductive PatchOp where
  /-- The value is replaced. -/
  | set (value : Json)
  /-- The value is removed. -/
  | setNull
  /-- Elements are added to a list. -/
  | add (values : List Json)
  /-- Elements are removed from a list. -/
  | remove (values : List Json)

/-- What is sent for an operation. -/
def PatchOp.wire : PatchOp → Json
  | set value => .singleton "set" value
  | setNull => .singleton "setNull" (.bool true)
  | add values => .singleton "add" (.array values)
  | remove values => .singleton "remove" (.array values)

/-- Changes of one resource. -/
structure Patch where
  /-- The resource. -/
  identifier : Identifier
  /-- The operations, by attribute in camel case, in the order of first use. -/
  operations : List (String × PatchOp) := []

namespace Patch

/-- Puts an operation in place of the one on the same attribute, or at the end. -/
def place (field : String) (op : PatchOp) : List (String × PatchOp) → List (String × PatchOp)
  | [] => [(field, op)]
  | (name, old) :: rest =>
    if name = field then (name, op) :: rest else (name, old) :: place field op rest

/-- Adds an operation on an attribute, in either spelling of its name. -/
def push (p : Patch) (field : String) (op : PatchOp) : Patch :=
  { p with operations := place (Text.camelCase field) op p.operations }

/-- Sets an attribute. -/
def set (p : Patch) (field : String) (value : Json) : Patch := p.push field (.set value)

/-- Clears an attribute. -/
def setNull (p : Patch) (field : String) : Patch := p.push field .setNull

/-- Adds elements to a list. -/
def add (p : Patch) (field : String) (values : List Json) : Patch := p.push field (.add values)

/-- Removes elements from a list. -/
def remove (p : Patch) (field : String) (values : List Json) : Patch :=
  p.push field (.remove values)

/-- Whether no operation was recorded. -/
def isEmpty (p : Patch) : Bool := p.operations.isEmpty

/-- The operations by attribute. -/
def update (p : Patch) : Fields := .ofList (p.operations.map fun e => (e.1, e.2.wire))

/-- What is sent for a patch: the identifier and the operations. -/
def wire (p : Patch) : Json :=
  .ofFields (.ofList [p.identifier.member, ("update", .ofFields p.update)])

end Patch

/-- What happens to attributes that have no value. -/
inductive UpdateMode where
  /-- They are left alone. -/
  | patch
  /-- They are cleared. -/
  | replace
  deriving DecidableEq, Repr

/-- One item of a request that updates. -/
inductive UpdateItem where
  /-- Explicit changes. -/
  | patch (p : Patch)
  /-- The wire form of a full resource, and the attributes that may be updated. -/
  | resource (item : Json) (updatable : List String)

namespace UpdateItem

/-- A full resource that is given by the JSON value it is written as. -/
def ofTyped (written : Result Json) (updatable : List String) : Result UpdateItem := do
  return resource (← written).wireForm (updatable.map Text.camelCase)

/-- A full resource that does not say which one it is. -/
def unidentified : Error :=
  .validation "An update item must have an id or an externalId" (some "id") none

/-- Adds the operation on one attribute of a full resource. -/
def patchField (item : Json) (mode : UpdateMode) (p : Patch) (field : String) : Patch :=
  match item.get? field with
  | none | some .null =>
    match mode with
    | .replace => p.setNull field
    | .patch => p
  | some value => p.set field value

/-- The patch that a full resource stands for. -/
def toPatch (item : Json) (updatable : List String) (mode : UpdateMode) : Result Patch :=
  match Identifier.ofWire? item with
  | none => .error unidentified
  | some identifier => .ok (updatable.foldl (patchField item mode) { identifier })

/-- What is sent for an item. -/
def wire (mode : UpdateMode) : UpdateItem → Result Json
  | patch p => .ok p.wire
  | resource item updatable => (toPatch item updatable mode).map Patch.wire

end UpdateItem

end ResourceClient
