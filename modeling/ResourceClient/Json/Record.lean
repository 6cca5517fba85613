import ResourceClient.Error

/-! # Records

    A typed value is read from a record: an object whose further members do
    not count, or an array with one element for each member, in the order of
    the members.  An optional member may be absent or `null`. -/

namespace ResourceClient

namespace Json

/-- The members of a record with the given names. -/
def record? (names : List String) : Json → Option (List (String × Json))
  | .object entries => some entries
  | .array items => if items.length = names.length then some (names.zip items) else none
  | _ => none

/-- An optional member. -/
def optional? {α : Type} (read : Json → Option α) : Option Json → Option (Option α)
  | none | some .null => some none
  | some v => (read v).map some

end Json

/-- How a typed value is read from a JSON value. -/
abbrev Decoder (α : Type) := Json → Result α

/-- The JSON value as it is. -/
def Decoder.json : Decoder Json := .ok

/-- Reads every value of a list, up to the first that cannot be read. -/
def Decoder.list {α : Type} (decode : Decoder α) (items : List Json) : Result (List α) :=
  items.mapM decode

@[simp] theorem Decoder.list_json (items : List Json) : Decoder.json.list items = .ok items := by
  induction items with
  | nil => rfl
  | cons v rest ih =>
    simp only [Decoder.list] at ih
    rw [Decoder.list, List.mapM_cons, ih]
    rfl

end ResourceClient
