import Mathlib
import ResourceClient.Proofs.Bulk.Compound
import ResourceClient.Proofs.Collection.Deliveries

/-! # Results that are read

    The operations on many items read the items of their answers with a
    decoder, after everything else is done: they are the plain calls, whose
    results are JSON, with the decoder behind (`createMultiple_eq` and the
    like).  So what there is to say of requests and of their failures is said
    of the plain calls, once for all decoders.

    The joined answers of a plain call are the items of all its chunks if
    each of them is successful (`BulkCall.joined_of_successful`), and one
    error otherwise. -/

namespace ResourceClient

open Dialogue

namespace Collection

section reading

variable {α : Type}

/-- What was read as JSON can be read again. -/
theorem decoded_eq (decode : Decoder α) (d : Dialogue (Result (List Json)))
    (g : Result (List Json) → Result (List Json)) :
    (d.bind fun found => .done (decodeItems decode (g found))) =
      (d.bind fun found => .done (decodeItems .json (g found))).bind fun found =>
        .done (decodeItems decode found) := by
  rw [bind_assoc]
  congr 1
  funext found
  rw [bind_done, decodeItems_json_eq]

theorem createMultiple_eq (c : Collection) (decode : Decoder α) (items : List WriteItem)
    (limit : Option Nat) (extra : Fields) :
    c.createMultiple decode items limit extra =
      ((BulkCall.create items limit extra).run c).bind fun found =>
        .done (decodeItems decode found) := by
  show _ = (c.createMultiple .json items limit extra).bind _
  unfold createMultiple
  cases items.mapM WriteItem.wire with
  | error e => rfl
  | ok wire => exact decoded_eq decode _ id

theorem updateMultiple_eq (c : Collection) (decode : Decoder α) (items : List UpdateItem)
    (mode : UpdateMode) :
    c.updateMultiple decode items mode =
      ((BulkCall.update items mode).run c).bind fun found => .done (decodeItems decode found) := by
  show _ = (c.updateMultiple .json items mode).bind _
  unfold updateMultiple
  cases items.mapM (UpdateItem.wire mode) with
  | error e => rfl
  | ok wire => exact decoded_eq decode _ id

theorem retrieveMultiple_eq (c : Collection) (decode : Decoder α)
    (identifiers : IdentifierSequence) (wrap ignoreUnknown : Bool) :
    c.retrieveMultiple decode identifiers wrap ignoreUnknown =
      ((BulkCall.retrieve identifiers wrap ignoreUnknown).run c).bind fun found =>
        .done (decodeItems decode found) := by
  show _ = (c.retrieveMultiple .json identifiers wrap ignoreUnknown).bind _
  unfold retrieveMultiple
  cases identifiers.wire wrap with
  | error e => rfl
  | ok wire => exact decoded_eq decode _ (forgiving identifiers)

end reading

namespace BulkCall

variable {c : Collection} {call : BulkCall} {deliveries : List Delivery}

/-- When every chunk is successful, their items are joined. -/
theorem joined_of_successful (hdeliveries : ∀ d ∈ deliveries, call.IsDelivery c d)
    (h : ∀ d ∈ deliveries, call.fateOf d.final = .successful) :
    ∃ lists : List (List Json),
      (deliveries.map fun d => call.answer d.final) = lists.map Except.ok ∧
        call.joined deliveries = .ok lists.flatten := by
  have hanswers : ∀ d ∈ deliveries, ∃ items, call.answer d.final = .ok items := by
    intro d hd
    refine Summary.fate_successful ?_
    rw [ofResult_answer (final_ne_api (hdeliveries d hd)), h d hd]
  obtain ⟨lists, hlists⟩ : ∃ lists : List (List Json),
      (deliveries.map fun d => call.answer d.final) = lists.map Except.ok := by
    clear h hdeliveries
    induction deliveries with
    | nil => exact ⟨[], rfl⟩
    | cons d rest ih =>
      obtain ⟨items, hitems⟩ := hanswers d List.mem_cons_self
      obtain ⟨lists, hlists⟩ := ih fun d hd => hanswers d (List.mem_cons_of_mem _ hd)
      exact ⟨items :: lists, by rw [List.map_cons, List.map_cons, hitems, hlists]⟩
  refine ⟨lists, hlists, ?_⟩
  have hlength : lists.length = (deliveries.map (·.items)).length := by
    have hlengths := congrArg List.length hlists
    rw [List.length_map, List.length_map] at hlengths
    rw [List.length_map, hlengths]
  have hsummary : call.summary deliveries =
      .ofOutcomes ((deliveries.map (·.items)).zip (lists.map Except.ok)) := by
    rw [← hlists, List.zip_map']
    rfl
  rw [joined, hsummary]
  exact Summary.raise_joined_of_ok id hlength

/-- One chunk that is not makes for an error. -/
theorem joined_of_unsuccessful (hdeliveries : ∀ d ∈ deliveries, call.IsDelivery c d)
    {d : Delivery} (hd : d ∈ deliveries) (h : call.fateOf d.final ≠ .successful) :
    ∃ e, call.joined deliveries = .error e := by
  cases hjoined : call.joined deliveries with
  | error e => exact ⟨e, rfl⟩
  | ok items =>
    have hall := (reported_joined hdeliveries).1.1 ⟨items, hjoined⟩
    exact absurd (hall _ (List.mem_map_of_mem hd)) h

/-- The errors that are summed up are those of the chunks. -/
theorem mem_exceptions_iff {x : Error} :
    x ∈ (call.summary deliveries).exceptions ↔
      ∃ d ∈ deliveries, call.answer d.final = .error x := by
  simp only [summary, Summary.ofOutcomes, List.filterMap_map, List.mem_filterMap,
    Function.comp_apply]
  refine exists_congr fun d => and_congr_right fun _ => ?_
  cases call.answer d.final with
  | ok items => simp
  | error e => simp

/-- The error that stands for the chunks that failed. -/
theorem isCompound_of_joined {e : Error} (h : call.joined deliveries = .error e) :
    ∃ primary, Summary.IsCompound (call.summary deliveries).exceptions primary e := by
  have hraise : (call.summary deliveries).raise id = .error e := by
    unfold joined at h
    cases hraised : (call.summary deliveries).raise id with
    | ok s =>
      rw [hraised] at h
      cases h
    | error e' =>
      rw [hraised] at h
      exact congrArg Except.error (Except.error.inj h)
  have hfailed : (call.summary deliveries).exceptions ≠ [] := by
    intro hnone
    rw [Summary.raise, compoundError?_eq_none.2 hnone] at hraise
    cases hraise
  obtain ⟨e', primary, hraise', hcompound⟩ := Summary.exists_isCompound hfailed id
  obtain rfl : e' = e := Except.error.inj (hraise'.symm.trans hraise)
  exact ⟨primary, hcompound⟩

end BulkCall

end Collection

end ResourceClient
