import Mathlib
import ResourceClient.Proofs.Collection.Calls
import ResourceClient.Proofs.Collection.NotFound
import ResourceClient.Proofs.Collection.WriteErrors
import ResourceClient.Proofs.Wire.Update

/-! # Inputs that have no wire form

    An input has no wire form if it is a typed item that cannot be written, a
    full resource that does not say which one it is, or a text that is to be
    sent bare (`BulkInput.IsInvalid`).  All inputs of a call are put into
    their wire forms before anything else is done.  So one that has none
    stops the call wherever it stands: the first of them gives the error, and
    in no world does anything happen (`invalid_input_sends_nothing`).

    Of calls that could be sent at all these are the only ones that send
    nothing (`sends_nothing_iff`). -/

namespace ResourceClient

open Dialogue

namespace Collection

/-! ## Inputs -/

/-- An input of a call on many items. -/
inductive BulkInput where
  /-- An item that is created. -/
  | item (item : WriteItem)
  /-- Changes of a resource. -/
  | change (change : UpdateItem) (mode : UpdateMode)
  /-- A resource that is named, by an object or bare. -/
  | name (i : Identifier) (wrap : Bool)

namespace BulkInput

/-- What is sent for an input. -/
def wire : BulkInput → Result Json
  | item i => i.wire
  | change i mode => i.wire mode
  | name i wrap => if wrap then .ok i.wrapped else i.bare

/-- An input that cannot be encoded, and what is wrong with it. -/
inductive IsInvalid : BulkInput → Error → Prop where
  /-- A typed item that cannot be written. -/
  | unwritten (e : Error) : IsInvalid (.item (.typed (.error e))) e
  /-- A full resource with neither an integer of 64 bits as its number nor a
      text as its name. -/
  | unidentified {w : Json} {names : List String} {mode : UpdateMode}
      (hid : ∀ n : Int64, w.get? "id" ≠ some (.ofInt64 n))
      (htext : ∀ s, w.get? "externalId" ≠ some (.string s)) :
    IsInvalid (.change (.resource w names) mode) UpdateItem.unidentified
  /-- A text that is to be sent bare. -/
  | unwrapped (s : String) : IsInvalid (.name (.externalId s) false) Identifier.mustBeWrapped

/-- The inputs that cannot be encoded are those that have no wire form. -/
theorem isInvalid_iff {input : BulkInput} {e : Error} :
    input.IsInvalid e ↔ input.wire = .error e := by
  constructor
  · intro h
    cases h with
    | unwritten e => rfl
    | unidentified hid htext =>
      exact UpdateItem.wire_resource_eq_error_iff.2
        ⟨Identifier.ofWire?_eq_none_iff.2 ⟨hid, htext⟩, rfl⟩
    | unwrapped s => rfl
  · intro h
    cases input with
    | item i =>
      cases i with
      | raw object => cases h
      | typed written =>
        cases written with
        | ok v => cases h
        | error e' =>
          obtain rfl := Except.error.inj h
          exact .unwritten e'
    | change i mode =>
      cases i with
      | patch p => cases h
      | resource w names =>
        obtain ⟨hnone, rfl⟩ := UpdateItem.wire_resource_eq_error_iff.1 h
        obtain ⟨hid, htext⟩ := Identifier.ofWire?_eq_none_iff.1 hnone
        exact .unidentified hid htext
    | name i wrap =>
      cases wrap with
      | true => cases h
      | false =>
        cases i with
        | id n => cases h
        | externalId s =>
          obtain rfl := Except.error.inj h
          exact .unwrapped s

/-- What is wrong with an input says nothing of an outcome, if what is wrong
    with writing it does not. -/
theorem IsInvalid.outcome_eq_none {input : BulkInput} {e : Error} (h : input.IsInvalid e)
    (hplain : ∀ e, input = .item (.typed (.error e)) → e.outcome = none) : e.outcome = none := by
  cases h with
  | unwritten e => exact hplain e rfl
  | unidentified hid htext => rfl
  | unwrapped s => rfl

end BulkInput

namespace BulkCall

/-- The inputs of a call, in their order. -/
def inputs : BulkCall → List BulkInput
  | create items _ _ => items.map .item
  | update items mode => items.map (.change · mode)
  | retrieve identifiers wrap _ | delete identifiers wrap _ =>
    identifiers.identifiers.map (.name · wrap)

/-- The wire forms of a call are those of its inputs. -/
theorem wire_eq_mapM_inputs (call : BulkCall) : call.wire = call.inputs.mapM BulkInput.wire := by
  have hnamed (s : IdentifierSequence) (wrap : Bool) :
      s.wire wrap = (s.identifiers.map (BulkInput.name · wrap)).mapM BulkInput.wire := by
    rw [List.mapM_map]
    cases wrap with
    | true => exact (List.mapM_pure (m := Result)).symm
    | false => rfl
  cases call with
  | create items limit extra =>
    show _ = (items.map BulkInput.item).mapM BulkInput.wire
    rw [List.mapM_map]
    rfl
  | update items mode =>
    show _ = (items.map (BulkInput.change · mode)).mapM BulkInput.wire
    rw [List.mapM_map]
    rfl
  | retrieve identifiers wrap ignoreUnknown => exact hnamed identifiers wrap
  | delete identifiers wrap extra => exact hnamed identifiers wrap

theorem exists_isInvalid_iff {call : BulkCall} :
    (∃ input ∈ call.inputs, ∃ e, input.IsInvalid e) ↔ ∃ e, call.wire = .error e := by
  simp only [wire_eq_mapM_inputs, exists_mapM_eq_error_iff, BulkInput.isInvalid_iff]

end BulkCall

/-! ## Nothing is sent -/

section invalid

variable {c : Collection} {call : BulkCall} {ρ : Type} {d : Dialogue (Result ρ)}

/-- **Invalid input sends nothing.**  A call with an input that cannot be
    encoded comes to what is wrong with the first such input, without an
    outcome, and nothing at all happens in any world. -/
theorem invalid_input_sends_nothing (hcall : call.IsMadeBy c d)
    (hplain : ∀ e, BulkInput.item (.typed (.error e)) ∈ call.inputs → e.outcome = none)
    (hinvalid : ∃ input ∈ call.inputs, ∃ e, input.IsInvalid e) :
    ∃ before first after e, call.inputs = before ++ first :: after ∧
      (∀ input ∈ before, ∀ e, ¬ input.IsInvalid e) ∧ first.IsInvalid e ∧ e.outcome = none ∧
      ∀ {ω : Type} (w : World ω) (x : ω),
        d.run w x = some (.error e, x) ∧ turns w d x = [] := by
  obtain ⟨e, hwire⟩ := BulkCall.exists_isInvalid_iff.1 hinvalid
  have hforms := hwire
  rw [BulkCall.wire_eq_mapM_inputs] at hforms
  obtain ⟨before, first, after, hinputs, hbefore, hfirst⟩ := first_of_mapM_eq_error hforms
  have hmem : first ∈ call.inputs := by
    rw [hinputs]
    exact List.mem_append_right _ List.mem_cons_self
  have hwrong : first.IsInvalid e := BulkInput.isInvalid_iff.2 hfirst
  refine ⟨before, first, after, e, hinputs, ?_, hwrong, ?_, ?_⟩
  · intro input hinput e' herror
    obtain ⟨v, hv⟩ := hbefore input hinput
    rw [BulkInput.isInvalid_iff, hv] at herror
    cases herror
  · refine hwrong.outcome_eq_none fun e' hitem => hplain e' ?_
    rwa [← hitem]
  · intro ω w x
    rw [hcall.eq_of_wire_eq_error hwire]
    exact ⟨rfl, rfl⟩

/-- A call that has inputs and could be sent sends nothing, in any world, if
    and only if one of its inputs cannot be encoded. -/
theorem sends_nothing_iff (hcall : call.IsMadeBy c d) (hinputs : call.inputs ≠ [])
    (hworkers : 1 ≤ c.client.config.maxWorkers)
    (hreach : Client.IsReachable (c.client.config.projectUrl ++ call.path c)) {ω : Type}
    (w : World ω) (x : ω) :
    exchanges (turns w d x) = [] ↔ ∃ input ∈ call.inputs, ∃ e, input.IsInvalid e := by
  rw [BulkCall.exists_isInvalid_iff]
  constructor
  · intro hnothing
    cases hwire : call.wire with
    | error e => exact ⟨e, rfl⟩
    | ok wire =>
      obtain ⟨deliveries, hdelivers⟩ := hcall.exists_delivers w x
      refine absurd hnothing (hdelivers.ne_nil hreach ?_)
      rw [BulkCall.parts_eq hworkers hwire]
      -- there is a wire form for each input, and none is lost in the chunks
      intro hparts
      have hflatten := flatten_chunks (call.limit c) wire
      rw [hparts] at hflatten
      rw [BulkCall.wire_eq_mapM_inputs, ← hflatten] at hwire
      have hlength := length_of_mapM_eq_ok hwire
      exact hinputs (List.length_eq_zero_iff.1 hlength.symm)
  · rintro ⟨e, hwire⟩
    rw [hcall.eq_of_wire_eq_error hwire]
    rfl

/-- Four items, of which two cannot be written. -/
def createFour : List WriteItem :=
  [.raw (named "a"), .raw (named "b"), .typed (.error (.ofShape "key must be a string")),
    .typed (.error (.ofShape "number out of range"))]

/-- The first item that cannot be written would be sent in the third request. -/
theorem create_with_unwritten_third :
    let call : BulkCall := .create createFour (some 1) .empty
    let d := plainAssets.createMultiple .json createFour (some 1) .empty
    call.IsMadeBy plainAssets d ∧
      (∀ e, BulkInput.item (.typed (.error e)) ∈ call.inputs → e.outcome = none) ∧
      (∃ input ∈ call.inputs, ∃ e, input.IsInvalid e) ∧
      ∀ {ω : Type} (w : World ω) (x : ω),
        d.run w x = some (.error (.ofShape "key must be a string"), x) ∧ turns w d x = [] := by
  intro call d
  have hcall : call.IsMadeBy plainAssets d := .createMultiple .json createFour (some 1) .empty
  have hplain : ∀ e, BulkInput.item (.typed (.error e)) ∈ call.inputs → e.outcome = none := by
    intro e he
    simp only [call, createFour, BulkCall.inputs, List.map_cons, List.map_nil,
      List.mem_cons, BulkInput.item.injEq, WriteItem.typed.injEq, Except.error.injEq,
      reduceCtorEq, List.not_mem_nil, or_false, false_or] at he
    rcases he with rfl | rfl
    · rfl
    · rfl
  have hinvalid : ∃ input ∈ call.inputs, ∃ e, input.IsInvalid e :=
    ⟨_, List.mem_map_of_mem (by simp [createFour]), _, .unwritten (.ofShape "number out of range")⟩
  obtain ⟨before, first, after, e, -, -, -, -, hnothing⟩ :=
    invalid_input_sends_nothing hcall hplain hinvalid
  -- which error it is can be told in any world
  have hrun : d.run namesWorld () = some (.error (.ofShape "key must be a string"), ()) := rfl
  obtain rfl : e = .ofShape "key must be a string" :=
    Except.error.inj (Prod.mk.inj (Option.some.inj ((hnothing namesWorld ()).1.symm.trans hrun))).1
  exact ⟨hcall, hplain, hinvalid, hnothing⟩

end invalid

end Collection

end ResourceClient
