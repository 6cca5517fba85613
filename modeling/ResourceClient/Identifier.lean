import ResourceClient.Error

/-! # Identifiers of resources

    A resource is addressed by the number that the server gave it or by a
    text that its user chose.  A request names resources by objects with one
    member, the wrapped form, or, in an older form that knows numbers only,
    by the bare number.  A sequence of identifiers is never empty, and its
    numbers stand before its texts. -/

namespace ResourceClient

/-- What a resource is addressed by. -/
inductive Identifier where
  /-- The number that the server gave. -/
  | id (n : Int64)
  /-- The text that the user chose. -/
  | externalId (s : String)
  deriving DecidableEq, Repr

namespace Identifier

/-- The member that the wrapped form holds. -/
def member : Identifier → String × Json
  | id n => ("id", .ofInt64 n)
  | externalId s => ("externalId", .string s)

/-- The wrapped form. -/
def wrapped (i : Identifier) : Json := .singleton i.member.1 i.member.2

/-- A text has no bare form. -/
def mustBeWrapped : Error :=
  .validation "External ids must be wrapped" (some "wrap_ids") (some "false")

/-- The bare form, which only numbers have. -/
def bare : Identifier → Result Json
  | id n => .ok (.ofInt64 n)
  | externalId _ => .error mustBeWrapped

/-- The identifier of an object: its number if it has one, else its text. -/
def ofWire? (v : Json) : Option Identifier :=
  match (v.get? "id").bind Json.int64? with
  | some n => some (id n)
  | none => ((v.get? "externalId").bind Json.string?).map externalId

/-- The identifier that the wrapped form stands for, where nothing else is allowed. -/
def decode (v : Json) : Result Identifier :=
  match v with
  | .object [("id", n)] =>
    match n.int64? with
    | some n => .ok (id n)
    | none => .error (.ofShape "a 64-bit integer is expected")
  | .object [("externalId", .string s)] => .ok (externalId s)
  | _ => .error (.ofShape "an object with one of id and externalId is expected")

/-- The identifier as text. -/
def text : Identifier → String
  | id n => "id=" ++ toString n.toInt
  | externalId s => "externalId=" ++ s

/-- Reading the wrapped form gives the identifier back. -/
@[simp] theorem ofWire?_wrapped (i : Identifier) : ofWire? i.wrapped = some i := by
  cases i with
  | id n => simp [ofWire?, wrapped, member, Json.singleton, Json.get?]
  | externalId s =>
    simp [ofWire?, wrapped, member, Json.singleton, Json.get?, Json.string?, List.lookup_cons]

end Identifier

/-- Identifiers in order, one at least, numbers before texts. -/
structure IdentifierSequence where
  /-- The identifiers. -/
  identifiers : List Identifier
  /-- There is one at least. -/
  nonempty : identifiers ≠ []

namespace IdentifierSequence

/-- Nothing was named. -/
def nothingNamed : Error :=
  .validation "At least one of ids and external_ids must be specified" (some "ids") none

/-- The numbers, then the texts. -/
def new (ids : List Int64) (externalIds : List String) : Result IdentifierSequence :=
  let identifiers := ids.map .id ++ externalIds.map .externalId
  if h : identifiers = [] then .error nothingNamed else .ok ⟨identifiers, h⟩

/-- The sequence of one identifier. -/
def single (i : Identifier) : IdentifierSequence := ⟨[i], by simp⟩

/-- How many identifiers there are. -/
def size (s : IdentifierSequence) : Nat := s.identifiers.length

/-- Whether exactly one resource is named. -/
def isSingleton (s : IdentifierSequence) : Bool := s.size == 1

/-- The identifiers in the wrapped form, or in the bare form if every one has it. -/
def wire (s : IdentifierSequence) (wrap : Bool) : Result (List Json) :=
  if wrap then .ok (s.identifiers.map Identifier.wrapped) else s.identifiers.mapM Identifier.bare

@[simp] theorem size_single (i : Identifier) : (single i).size = 1 := rfl

@[simp] theorem size_pos (s : IdentifierSequence) : 0 < s.size :=
  List.length_pos_iff.2 s.nonempty

end IdentifierSequence

/-- The identifiers of a request that names several resources. -/
def processIds (ids : List Int64) (externalIds : List String) (wrap : Bool) :
    Result (List Json) := do
  let sequence ← IdentifierSequence.new ids externalIds
  sequence.wire wrap

end ResourceClient
