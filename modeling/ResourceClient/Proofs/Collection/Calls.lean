import Mathlib
import ResourceClient.Proofs.Collection.Results
import ResourceClient.Proofs.Dialogue.Worlds

/-! # Calls on many items in all their forms

    A call on many items is made with a decoder of the caller, and calls for
    a single item or a single identifier are made of it too.  They differ
    from `BulkCall.run` in what they make of the joined answers, and an error
    they pass on (`BulkCall.IsMadeBy.exists_finish`).

    So what such a call sends is what the plain call sends, in every world:
    each request carries one of the chunks that the wire forms of the inputs
    are split into (`BulkCall.IsMadeBy.exists_part`), and each chunk is
    carried by a request (`BulkCall.IsMadeBy.exists_exchange`). -/

namespace ResourceClient

open Dialogue

namespace Collection

/-- Deleting is the plain call, which forgets that there is nothing: this puts
    it back. -/
theorem deleteMultiple_eq (c : Collection) (identifiers : IdentifierSequence) (wrap : Bool)
    (extra : Fields) :
    c.deleteMultiple identifiers wrap extra =
      ((BulkCall.delete identifiers wrap extra).run c).bind fun found =>
        .done (found.map fun _ => ()) := by
  show _ = ((c.deleteMultiple identifiers wrap extra).bind _).bind _
  have hback (deleted : Result Unit) :
      (deleted.map fun _ => ([] : List Json)).map (fun _ => ()) = deleted := by
    cases deleted <;> rfl
  rw [bind_assoc]
  simp only [Dialogue.pure_eq, bind_done, hback]
  exact (bind_pure _).symm

namespace BulkCall

/-- The forms in which a call on many items is made. -/
inductive IsMadeBy (c : Collection) : BulkCall → {ρ : Type} → Dialogue (Result ρ) → Prop where
  | createMultiple {α : Type} (decode : Decoder α) (items : List WriteItem) (limit : Option Nat)
      (extra : Fields) :
    IsMadeBy c (.create items limit extra) (c.createMultiple decode items limit extra)
  | create {α : Type} (decode : Decoder α) (item : WriteItem) :
    IsMadeBy c (.create [item] none .empty) (c.create decode item)
  | updateMultiple {α : Type} (decode : Decoder α) (items : List UpdateItem) (mode : UpdateMode) :
    IsMadeBy c (.update items mode) (c.updateMultiple decode items mode)
  | update {α : Type} (decode : Decoder α) (item : UpdateItem) (mode : UpdateMode) :
    IsMadeBy c (.update [item] mode) (c.update decode item mode)
  | retrieveMultiple {α : Type} (decode : Decoder α) (identifiers : IdentifierSequence)
      (wrap ignoreUnknown : Bool) :
    IsMadeBy c (.retrieve identifiers wrap ignoreUnknown)
      (c.retrieveMultiple decode identifiers wrap ignoreUnknown)
  | retrieveByIdentifier {α : Type} (decode : Decoder α) (identifier : Identifier) :
    IsMadeBy c (.retrieve (.single identifier) true false)
      (c.retrieveByIdentifier decode identifier)
  | deleteMultiple (identifiers : IdentifierSequence) (wrap : Bool) (extra : Fields) :
    IsMadeBy c (.delete identifiers wrap extra) (c.deleteMultiple identifiers wrap extra)

namespace IsMadeBy

variable {c : Collection} {call : BulkCall} {ρ : Type} {d : Dialogue (Result ρ)}

/-- A call makes something of what the plain call comes to, and passes its
    error on. -/
theorem exists_finish (h : call.IsMadeBy c d) :
    ∃ finish : Result (List Json) → Result ρ, (∀ e, finish (.error e) = .error e) ∧
      d = (call.run c).bind fun found => .done (finish found) := by
  cases h with
  | createMultiple decode items limit extra =>
    exact ⟨decodeItems decode, fun e => rfl, c.createMultiple_eq decode items limit extra⟩
  | @create α decode item =>
    refine ⟨fun found => decodeItems decode found >>= single, fun e => rfl, ?_⟩
    show (c.createMultiple decode [item] none .empty).bind _ = _
    rw [createMultiple_eq, bind_assoc]
    rfl
  | updateMultiple decode items mode =>
    exact ⟨decodeItems decode, fun e => rfl, c.updateMultiple_eq decode items mode⟩
  | @update α decode item mode =>
    refine ⟨fun found => decodeItems decode found >>= single, fun e => rfl, ?_⟩
    show (c.updateMultiple decode [item] mode).bind _ = _
    rw [updateMultiple_eq, bind_assoc]
    rfl
  | retrieveMultiple decode identifiers wrap ignoreUnknown =>
    exact ⟨decodeItems decode, fun e => rfl, c.retrieveMultiple_eq decode identifiers _ _⟩
  | @retrieveByIdentifier α decode identifier =>
    refine ⟨fun found => (decodeItems decode found).map (·.getLast?), fun e => rfl, ?_⟩
    show (c.retrieveMultiple decode (.single identifier) true false).bind _ = _
    rw [retrieveMultiple_eq, bind_assoc]
    rfl
  | deleteMultiple identifiers wrap extra =>
    exact ⟨fun found => found.map fun _ => (), fun e => rfl,
      c.deleteMultiple_eq identifiers wrap extra⟩

/-- A call whose inputs cannot be put into their wire forms is the error, and
    nothing else. -/
theorem eq_of_wire_eq_error (h : call.IsMadeBy c d) {e : Error} (hwire : call.wire = .error e) :
    d = .done (.error e) := by
  obtain ⟨finish, hfinish, rfl⟩ := h.exists_finish
  rw [run_of_wire_eq_error c hwire, bind_done, hfinish]

/-- In every world a call takes the turns of the plain call. -/
theorem turns_eq (h : call.IsMadeBy c d) {ω : Type} (w : World ω) (x : ω) :
    turns w d x = turns w (call.run c) x := by
  obtain ⟨finish, -, rfl⟩ := h.exists_finish
  exact turns_bind_done w _ finish x

/-- In every world the exchanges of a call are deliveries of its chunks. -/
theorem exists_delivers (h : call.IsMadeBy c d) {ω : Type} (w : World ω) (x : ω) :
    ∃ deliveries, call.Delivers c (call.parts c) (exchanges (turns w d x)) deliveries := by
  obtain ⟨result, x', hrun⟩ := run_of_total w (total_run c call) x
  rw [h.turns_eq]
  exact BulkCall.exists_delivers (runs_of_run hrun)

/-- In every world each request carries one of the chunks. -/
theorem exists_part (h : call.IsMadeBy c d) (hextra : call.extra.get? "items" = none) {ω : Type}
    {w : World ω} {x : ω} {e : Outgoing × Http.Reply} (he : e ∈ exchanges (turns w d x)) :
    ∃ part ∈ call.parts c, c.PostsItems (call.path c) e.1.request part := by
  obtain ⟨deliveries, hdelivers⟩ := h.exists_delivers w x
  obtain ⟨sent, hsent, hmem⟩ := hdelivers.interleaves.exists_part he
  obtain ⟨delivery, hdelivery, rfl⟩ := List.mem_map.1 hsent
  refine ⟨delivery.items, ?_, ?_⟩
  · rw [← hdelivers.items_eq]
    exact List.mem_map_of_mem hdelivery
  · exact (hdelivers.isDelivery delivery hdelivery).postsItems hextra e hmem

/-- In every world each chunk is carried by a request, if the URL of the
    requests can be used. -/
theorem exists_exchange (h : call.IsMadeBy c d) (hextra : call.extra.get? "items" = none)
    (hreach : Client.IsReachable (c.client.config.projectUrl ++ call.path c)) {part : List Json}
    (hpart : part ∈ call.parts c) {ω : Type} (w : World ω) (x : ω) :
    ∃ e ∈ exchanges (turns w d x), c.PostsItems (call.path c) e.1.request part := by
  obtain ⟨deliveries, hdelivers⟩ := h.exists_delivers w x
  rw [← hdelivers.items_eq] at hpart
  obtain ⟨delivery, hdelivery, rfl⟩ := List.mem_map.1 hpart
  obtain ⟨e, he, hfor⟩ := hdelivers.exists_exchange hreach hdelivery
  exact ⟨e, he, postsItems_of_isSentFor hextra hfor⟩

end IsMadeBy

end BulkCall

end Collection

end ResourceClient
