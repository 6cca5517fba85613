import Mathlib
import ResourceClient.Proofs.Wire.Update

/-! # Patches that are built call by call

    A patch is built by a sequence of calls, each of which records an
    operation on an attribute.  Of several calls on one attribute the last
    one counts, whatever their operations and in whatever spelling they give
    its name (`operation?_foldl_apply`).

    So a patch is known by the last call on each attribute, and calls on
    different attributes can be exchanged (`patch_builder_law`). -/

namespace ResourceClient

/-! ## What is sent of a patch -/

namespace Patch

theorem isEmpty_push (p : Patch) (field : String) (op : PatchOp) :
    (p.push field op).isEmpty = false := by
  show (place _ op p.operations).isEmpty = false
  cases p.operations with
  | nil => rfl
  | cons first rest =>
    rw [place]
    split <;> rfl

/-- Patches of one resource are sent alike if they have the same operation on
    each attribute. -/
theorem wire_congr {p q : Patch} (hp : p.Distinct) (hq : q.Distinct)
    (hidentifier : p.identifier = q.identifier)
    (hoperation : ∀ key, p.operation? key = q.operation? key) : p.wire = q.wire := by
  have hupdate : p.update = q.update := by
    refine Fields.ext_get? fun key => ?_
    rw [get?_update hp, get?_update hq, hoperation]
  rw [wire, wire, hidentifier, hupdate]

/-- The identifier comes first, and the operations are behind it. -/
theorem wire_eq (p : Patch) :
    p.wire = .object [p.identifier.member, ("update", .ofFields p.update)] := by
  have hfirst : p.identifier.member.1 < "update" := by
    cases p.identifier with
    | id n => exact (by decide : "id" < "update")
    | externalId s => exact (by decide : "externalId" < "update")
  have hsorted : [p.identifier.member, ("update", Json.ofFields p.update)].Pairwise
      fun a b => a.1 < b.1 := List.pairwise_pair.2 hfirst
  exact congrArg Json.ofFields (Fields.ofList_entries ⟨_, hsorted⟩)

/-- What is sent for a patch names the resource that is patched. -/
theorem ofWire?_wire (p : Patch) : Identifier.ofWire? p.wire = some p.identifier := by
  rw [wire_eq]
  cases p.identifier with
  | id n => simp [Identifier.ofWire?, Identifier.member, Json.get?]
  | externalId s =>
    simp [Identifier.ofWire?, Identifier.member, Json.get?, Json.string?, List.lookup_cons]

end Patch

/-! ## Calls -/

/-- A call that records an operation on an attribute, in either spelling of
    its name. -/
inductive PatchCall where
  /-- Sets it. -/
  | set (field : String) (value : Json)
  /-- Clears it. -/
  | setNull (field : String)
  /-- Adds elements to it. -/
  | add (field : String) (values : List Json)
  /-- Removes elements from it. -/
  | remove (field : String) (values : List Json)

namespace PatchCall

/-- The attribute, as it is spelled in the call. -/
def field : PatchCall → String
  | set field _ | setNull field | add field _ | remove field _ => field

/-- The attribute that is touched. -/
def name (call : PatchCall) : String := Text.camelCase call.field

/-- The operation that is recorded. -/
def op : PatchCall → PatchOp
  | set _ value => .set value
  | setNull _ => .setNull
  | add _ values => .add values
  | remove _ values => .remove values

/-- The patch after a call. -/
def apply (p : Patch) : PatchCall → Patch
  | set field value => p.set field value
  | setNull field => p.setNull field
  | add field values => p.add field values
  | remove field values => p.remove field values

/-- The patch of a resource that a sequence of calls builds. -/
def build (i : Identifier) (calls : List PatchCall) : Patch :=
  calls.foldl apply { identifier := i }

/-- A call is the last one in a sequence that touches an attribute. -/
def IsLastOn (calls : List PatchCall) (key : String) (call : PatchCall) : Prop :=
  ∃ before after, calls = before ++ call :: after ∧ call.name = key ∧
    ∀ later ∈ after, later.name ≠ key

/-- The last call on an attribute, if there is one. -/
def lastOn? (calls : List PatchCall) (key : String) : Option PatchCall :=
  calls.reverse.find? fun call => call.name = key

theorem lastOn?_eq_some_iff {calls : List PatchCall} {key : String} {call : PatchCall} :
    lastOn? calls key = some call ↔ IsLastOn calls key call := by
  rw [lastOn?, List.find?_eq_some_iff_append]
  constructor
  · rintro ⟨hname, after, before, hcalls, hafter⟩
    refine ⟨before.reverse, after.reverse, ?_, of_decide_eq_true hname, fun later hlater => ?_⟩
    · rw [← calls.reverse_reverse, hcalls]
      simp only [List.reverse_append, List.reverse_cons, List.append_assoc, List.singleton_append]
    · simpa using hafter later (List.mem_reverse.1 hlater)
  · rintro ⟨before, after, rfl, hname, hafter⟩
    refine ⟨decide_eq_true hname, after.reverse, before.reverse, ?_, fun later hlater => ?_⟩
    · simp only [List.reverse_append, List.reverse_cons, List.append_assoc, List.singleton_append]
    · simpa using hafter later (List.mem_reverse.1 hlater)

theorem lastOn?_cons (call : PatchCall) (rest : List PatchCall) (key : String) :
    lastOn? (call :: rest) key =
      (lastOn? rest key).or (if call.name = key then some call else none) := by
  simp only [lastOn?, List.reverse_cons, List.find?_append, List.find?_singleton,
    decide_eq_true_eq]

/-- An attribute is touched if and only if there is a last call on it. -/
theorem exists_isLastOn_iff {calls : List PatchCall} {key : String} :
    (∃ call, IsLastOn calls key call) ↔ ∃ call ∈ calls, call.name = key := by
  simp only [← lastOn?_eq_some_iff, ← Option.isSome_iff_exists, lastOn?, List.find?_isSome,
    List.mem_reverse, decide_eq_true_eq]

/-- Adjacent calls on different attributes can be exchanged. -/
theorem lastOn?_exchange {first second : PatchCall} (h : first.name ≠ second.name)
    (before after : List PatchCall) (key : String) :
    lastOn? (before ++ second :: first :: after) key =
      lastOn? (before ++ first :: second :: after) key := by
  simp only [lastOn?, List.reverse_append, List.reverse_cons, List.append_assoc,
    List.singleton_append, List.find?_append, List.find?_cons]
  by_cases hfirst : first.name = key
  · have hsecond : second.name ≠ key := fun hsecond => h (hfirst.trans hsecond.symm)
    simp only [hfirst, hsecond, decide_true, decide_false]
  · simp only [hfirst, decide_false]

/-! ## The patch that is built -/

section build

variable {i : Identifier} {calls : List PatchCall}

theorem apply_eq (p : Patch) (call : PatchCall) : apply p call = p.push call.field call.op := by
  cases call <;> rfl

theorem identifier_apply (p : Patch) (call : PatchCall) :
    (apply p call).identifier = p.identifier := by
  rw [apply_eq, Patch.push]

theorem distinct_apply {p : Patch} (h : p.Distinct) (call : PatchCall) :
    (apply p call).Distinct := by
  rw [apply_eq]
  exact h.push call.field call.op

/-- A call changes the operation on its own attribute only. -/
theorem operation?_apply (p : Patch) (call : PatchCall) (key : String) :
    (apply p call).operation? key =
      if call.name = key then some call.op else p.operation? key := by
  rw [apply_eq, Patch.operation?_push]
  exact if_congr eq_comm rfl rfl

theorem identifier_foldl_apply (calls : List PatchCall) (p : Patch) :
    (calls.foldl apply p).identifier = p.identifier := by
  induction calls generalizing p with
  | nil => rfl
  | cons call rest ih => rw [List.foldl_cons, ih, identifier_apply]

theorem distinct_foldl_apply (calls : List PatchCall) {p : Patch} (h : p.Distinct) :
    (calls.foldl apply p).Distinct := by
  induction calls generalizing p with
  | nil => exact h
  | cons call rest ih => exact ih (distinct_apply h call)

/-- The last call on an attribute gives the operation, and an attribute that
    is not touched keeps the one it has. -/
theorem operation?_foldl_apply (calls : List PatchCall) (p : Patch) (key : String) :
    (calls.foldl apply p).operation? key =
      ((lastOn? calls key).map op).or (p.operation? key) := by
  induction calls generalizing p with
  | nil => rfl
  | cons call rest ih =>
    rw [List.foldl_cons, ih, operation?_apply, lastOn?_cons]
    -- a later call hides this one
    cases lastOn? rest key with
    | some later => rfl
    | none => by_cases hname : call.name = key <;> simp [hname]

theorem identifier_build (i : Identifier) (calls : List PatchCall) :
    (build i calls).identifier = i :=
  identifier_foldl_apply calls _

theorem distinct_build (i : Identifier) (calls : List PatchCall) : (build i calls).Distinct :=
  distinct_foldl_apply calls (Patch.distinct_empty i)

theorem operation?_build (i : Identifier) (calls : List PatchCall) (key : String) :
    (build i calls).operation? key = (lastOn? calls key).map op := by
  have hempty : ({ identifier := i } : Patch).operation? key = none := rfl
  rw [build, operation?_foldl_apply, hempty, Option.or_none]

/-- Under an attribute is the operation of the last call on it. -/
theorem get?_update_build {key : String} {value : Json} :
    (build i calls).update.get? key = some value ↔
      ∃ call, IsLastOn calls key call ∧ value = call.op.wire := by
  rw [Patch.get?_update (distinct_build i calls), operation?_build, Option.map_map,
    Option.map_eq_some_iff]
  refine exists_congr fun call => and_congr lastOn?_eq_some_iff ?_
  exact eq_comm

theorem mem_keys_update_build {key : String} :
    key ∈ (build i calls).update.keys ↔ ∃ call ∈ calls, call.name = key := by
  rw [Fields.mem_keys_iff, ← exists_isLastOn_iff]
  simp only [get?_update_build]
  constructor
  · rintro ⟨value, call, hlast, -⟩
    exact ⟨call, hlast⟩
  · rintro ⟨call, hlast⟩
    exact ⟨call.op.wire, call, hlast, rfl⟩

theorem isEmpty_build : (build i calls).isEmpty ↔ calls = [] := by
  constructor
  · intro hempty
    rcases calls.eq_nil_or_concat with hnil | ⟨before, call, hcalls⟩
    · exact hnil
    · rw [hcalls, build, List.concat_eq_append, List.foldl_append, List.foldl_cons, apply_eq,
        List.foldl_nil, Patch.isEmpty_push] at hempty
      cases hempty
  · rintro rfl
    rfl

theorem wire_build_exchange {first second : PatchCall} (h : first.name ≠ second.name)
    (i : Identifier) (before after : List PatchCall) :
    (build i (before ++ second :: first :: after)).wire =
      (build i (before ++ first :: second :: after)).wire := by
  refine Patch.wire_congr (distinct_build i _) (distinct_build i _) ?_ fun key => ?_
  · rw [identifier_build, identifier_build]
  · rw [operation?_build, operation?_build, lastOn?_exchange h]

/-- **What a patch is built to.**  The identifier and the operations are all
    that is sent, and the identifier is read back.  The attributes are those
    that were touched, in camel case, and each has the operation of the last
    call on it.  The patch is empty only if there were no calls.  Adjacent
    calls on different attributes can be exchanged. -/
theorem patch_builder_law (i : Identifier) (calls : List PatchCall) :
    (∃ update : Fields,
      (build i calls).wire = .object [i.member, ("update", .ofFields update)] ∧
      (∀ key, key ∈ update.keys ↔ ∃ call ∈ calls, Text.camelCase call.field = key) ∧
      ∀ key value, update.get? key = some value ↔
        ∃ call, IsLastOn calls key call ∧ value = call.op.wire) ∧
    Identifier.ofWire? (build i calls).wire = some i ∧
    ((build i calls).isEmpty ↔ calls = []) ∧
    ∀ before first second after, calls = before ++ first :: second :: after →
      Text.camelCase first.field ≠ Text.camelCase second.field →
      (build i (before ++ second :: first :: after)).wire = (build i calls).wire := by
  have hidentifier := identifier_build i calls
  refine ⟨⟨(build i calls).update, ?_, fun key => mem_keys_update_build,
    fun key value => get?_update_build⟩, ?_, isEmpty_build, ?_⟩
  · rw [Patch.wire_eq, hidentifier]
  · rw [Patch.ofWire?_wire, hidentifier]
  · rintro before first second after rfl hnames
    exact wire_build_exchange hnames i before after

/-- The data set of an asset is set, its labels are added to, and the data set
    is cleared in the other spelling. -/
def clearedInCamelCase : List PatchCall :=
  [.set "data_set_id" (.int 1), .add "labels" [.string "a"], .setNull "dataSetId"]

/-- The data set is cleared, also when the labels are added to at the end. -/
theorem patch_of_cleared_in_camel_case :
    (build (.id 7) clearedInCamelCase).wire =
        .object [("id", .int 7), ("update", .object
          [("dataSetId", .singleton "setNull" (.bool true)),
            ("labels", .singleton "add" (.array [.string "a"]))])] ∧
      Text.camelCase "labels" ≠ Text.camelCase "dataSetId" ∧
      (build (.id 7) [.set "data_set_id" (.int 1), .setNull "dataSetId",
        .add "labels" [.string "a"]]).wire = (build (.id 7) clearedInCamelCase).wire := by
  have hnames : Text.camelCase "labels" ≠ Text.camelCase "dataSetId" := by decide
  exact ⟨rfl, hnames, (patch_builder_law (.id 7) clearedInCamelCase).2.2.2
    [.set "data_set_id" (.int 1)] _ _ [] rfl hnames⟩

end build

end PatchCall

end ResourceClient
