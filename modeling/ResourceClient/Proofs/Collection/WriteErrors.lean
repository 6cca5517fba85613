import Mathlib
import ResourceClient.Proofs.Collection.Replay
import ResourceClient.Proofs.Collection.Results

/-! # What the error of a write says

    Once the server has received a request of a call that creates or updates
    resources, there are two ways in which the call can fail.  If a request
    was not successful, then the error of the call holds every item under its
    fate.  If all of them were, the answers are read, and an answer that
    cannot be read is an error of the call as well, but one that says nothing
    of the items (`write_errors`).

    So the writes that are reported are those whose answers can be read.  The
    others have taken effect, and the error does not say so
    (`create_answered_without_item`). -/

namespace ResourceClient

open Dialogue

namespace Collection

/-- A call that creates or updates resources. -/
inductive WriteCall where
  | createMultiple (items : List WriteItem) (limit : Option Nat) (extra : Fields)
  | create (item : WriteItem)
  | updateMultiple (items : List UpdateItem) (mode : UpdateMode)
  | update (item : UpdateItem) (mode : UpdateMode)

namespace WriteCall

variable {α : Type}

/-- The call on many items that is made. -/
def bulk : WriteCall → BulkCall
  | createMultiple items limit extra => .create items limit extra
  | create item => .create [item] none .empty
  | updateMultiple items mode => .update items mode
  | update item mode => .update [item] mode

/-- The call, with a decoder.  A single result is given as a list of one. -/
def run (c : Collection) (decode : Decoder α) : WriteCall → Dialogue (Result (List α))
  | createMultiple items limit extra => c.createMultiple decode items limit extra
  | create item => do return (← c.create decode item).map fun a => [a]
  | updateMultiple items mode => c.updateMultiple decode items mode
  | update item mode => do return (← c.update decode item mode).map fun a => [a]

/-- What is read of the items of the answers: all of them, and there has to be
    exactly one if one was sent by itself. -/
def read (decode : Decoder α) (answers : List Json) : WriteCall → Result (List α)
  | createMultiple _ _ _ | updateMultiple _ _ => decode.list answers
  | create _ | update _ _ => (decode.list answers >>= single).map fun a => [a]

/-- A call is the plain call, whose items are read behind it. -/
theorem run_eq (c : Collection) (decode : Decoder α) (call : WriteCall) :
    call.run c decode =
      (call.bulk.run c).bind
        fun found => .done (found >>= fun items => call.read decode items) := by
  have hmany (found : Result (List Json)) : decodeItems decode found = found >>= decode.list := by
    cases found <;> rfl
  have hsingle (d : Dialogue (Result (List Json))) :
      ((d.bind fun found => .done (decodeItems decode found)).bind fun found =>
        .done (found >>= single)).bind (fun a => .done (a.map fun a => [a])) =
        d.bind fun found => .done (found >>= fun items =>
          (decode.list items >>= single).map fun a => [a]) := by
    rw [bind_assoc, bind_assoc]
    congr 1
    funext found
    cases found <;> rfl
  cases call with
  | createMultiple items limit extra =>
    simp only [run, createMultiple_eq, hmany]
    rfl
  | create item =>
    simp only [run, Collection.create, createMultiple_eq]
    exact hsingle _
  | updateMultiple items mode =>
    simp only [run, updateMultiple_eq, hmany]
    rfl
  | update item mode =>
    simp only [run, Collection.update, updateMultiple_eq]
    exact hsingle _

theorem total_run (c : Collection) (decode : Decoder α) (call : WriteCall) :
    (call.run c decode).Total := by
  rw [run_eq]
  exact (BulkCall.total_run c call.bulk).bind fun found => .done _

theorem finish_bulk (call : WriteCall) (joined : Result (List Json)) :
    call.bulk.finish joined = joined := by
  cases call <;> rfl

end WriteCall

/-- **Errors of writes that reached the server.**  A call that creates or
    updates resources always has a result.  If the server received a request
    of it, then every input has a wire form, and the requests are those of
    its chunks.  If one of them was not successful, then the call fails with
    an error whose outcome holds every wire item once.  If all were
    successful, then the result is what is read of the items of the answers:
    only an answer that cannot be read, or not one item where one was sent by
    itself, makes for an error without a report. -/
theorem write_errors {α : Type} (c : Collection) (decode : Decoder α) (call : WriteCall) :
    (∀ {ω : Type} (w : World ω) (x : ω),
      ∃ result x', (call.run c decode).run w x = some (result, x')) ∧
    ∀ turns result, Runs (call.run c decode) turns result → exchanges turns ≠ [] →
      ∃ wire deliveries, call.bulk.wire = .ok wire ∧
        call.bulk.Delivers c (chunks (call.bulk.limit c) wire) (exchanges turns) deliveries ∧
        ((∃ d ∈ deliveries, call.bulk.fateOf d.final ≠ .successful) →
          ∃ e outcome, result = .error e ∧ e.outcome = some outcome ∧ outcome.Splits wire) ∧
        ((∀ d ∈ deliveries, call.bulk.fateOf d.final = .successful) →
          ∃ lists : List (List Json),
            (deliveries.map fun d => call.bulk.answer d.final) = lists.map Except.ok ∧
              result = call.read decode lists.flatten) := by
  refine ⟨fun w x => run_of_total w (call.total_run c decode) x, fun turns result hruns hsent => ?_⟩
  rw [WriteCall.run_eq] at hruns
  obtain ⟨found, before, after, rfl, hbulk, hread⟩ := runs_bind_iff.1 hruns
  obtain ⟨rfl, rfl⟩ := runs_done_iff.1 hread
  rw [List.append_nil] at hsent ⊢
  rcases BulkCall.runs_cases hbulk with ⟨rfl, -⟩ | ⟨wire, deliveries, hwire, hparts, hdelivers, rfl⟩
  · exact absurd rfl hsent
  rw [hparts] at hdelivers
  rw [call.finish_bulk]
  refine ⟨wire, deliveries, hwire, hdelivers, ?_, fun hall => ?_⟩
  · rintro ⟨d, hd, hfate⟩
    obtain ⟨e, hjoined⟩ := BulkCall.joined_of_unsuccessful hdelivers.isDelivery hd hfate
    have hreports := (BulkCall.reported_joined hdelivers.isDelivery).2 e hjoined
    have hsplits := BulkOutcome.splits_ofFates (call.bulk.fates deliveries)
    rw [BulkCall.flatMap_fates hdelivers] at hsplits
    exact ⟨e, _, by rw [hjoined]; rfl, hreports, hsplits⟩
  · obtain ⟨lists, hlists, hjoined⟩ := BulkCall.joined_of_successful hdelivers.isDelivery hall
    exact ⟨lists, hlists, by rw [hjoined]; rfl⟩

/-! ## A created item of which nothing is said -/

/-- A call with a chunk sends something, if its URL can be used. -/
theorem BulkCall.Delivers.ne_nil {c : Collection} {call : BulkCall} {parts : List (List Json)}
    {sent : List (Outgoing × Http.Reply)} {deliveries : List Delivery}
    (h : call.Delivers c parts sent deliveries)
    (hreach : Client.IsReachable (c.client.config.projectUrl ++ call.path c))
    (hparts : parts ≠ []) : sent ≠ [] := by
  rw [← h.items_eq, ne_eq, List.map_eq_nil_iff] at hparts
  obtain ⟨d, hd⟩ := List.exists_mem_of_ne_nil _ hparts
  obtain ⟨e, he, -⟩ := h.exists_exchange hreach hd
  exact List.ne_nil_of_mem he

theorem itemsOf_emptyList : itemsOf emptyList = .ok [] := by
  have hplain : Json.Plain Json.maxDepth (.object [("items", .array [])]) :=
    ⟨List.pairwise_singleton _ _, trivial, trivial⟩
  unfold itemsOf emptyList
  rw [Client.json_jsonReply hplain]
  rfl

/-- An item is created, and the answer lists none: the error says that one was
    expected, and nothing of the item. -/
theorem create_answered_without_item :
    ∃ turns e, Runs ((WriteCall.create (.raw (named "a"))).run plainAssets .json) turns
        (.error e) ∧
      exchanges turns ≠ [] ∧ e.outcome = none ∧
      e.kind = .serialization "Expected exactly one item in the response" := by
  let call : WriteCall := .create (.raw (named "a"))
  let w := answersItems fun _ => .response emptyList
  have hreach : Client.IsReachable
      (plainAssets.client.config.projectUrl ++ call.bulk.path plainAssets) := by decide +kernel
  obtain ⟨htotal, hreport⟩ := write_errors plainAssets .json call
  obtain ⟨result, x', hrun⟩ := htotal w ()
  have hruns := runs_of_run hrun
  have hwire : call.bulk.wire = .ok [.ofFields (named "a")] := rfl
  -- the plain call takes the same turns, and it sends something
  have hsent : exchanges (Dialogue.turns w (call.run plainAssets .json) ()) ≠ [] := by
    rw [WriteCall.run_eq, turns_bind_done]
    obtain ⟨found, x', hbulk⟩ := run_of_total w (BulkCall.total_run plainAssets call.bulk) ()
    obtain ⟨deliveries, hdelivers⟩ := BulkCall.exists_delivers (runs_of_run hbulk)
    refine hdelivers.ne_nil hreach ?_
    rw [BulkCall.parts_eq (by decide) hwire]
    exact chunks_createOne ▸ List.cons_ne_nil _ _
  obtain ⟨wire, deliveries, hwire, hdelivers, -, hsuccess⟩ := hreport _ _ hruns hsent
  obtain rfl : [Json.ofFields (named "a")] = wire := Except.ok.inj hwire
  have hfinal : ∀ d ∈ deliveries, d.final = .ok emptyList := fun d hd =>
    hdelivers.final_eq rfl hreach (serve_answersItems _) hd
  have hall : ∀ d ∈ deliveries, call.bulk.fateOf d.final = .successful := by
    intro d hd
    have hstatus : emptyList.isSuccess = true := rfl
    simp [hfinal d hd, BulkCall.fateOf, hstatus, carriesItems_emptyList]
  obtain ⟨lists, hlists, rfl⟩ := hsuccess hall
  -- the only answer is empty
  have hparts : chunks (call.bulk.limit plainAssets) [Json.ofFields (named "a")] =
      [[Json.ofFields (named "a")]] := chunks_createOne
  rw [hparts] at hdelivers
  obtain ⟨final, rfl⟩ := hdelivers.of_single
  obtain rfl : final = .ok emptyList := hfinal _ (List.mem_singleton_self _)
  have hanswer : call.bulk.answer (.ok emptyList) = .ok [] := itemsOf_emptyList
  obtain ⟨answers, rfl, hanswers⟩ := List.map_eq_singleton_iff.1 hlists.symm
  obtain rfl : answers = [] := Except.ok.inj (hanswers.trans hanswer)
  exact ⟨_, notOneItem, hruns, hsent, rfl, rfl⟩

end Collection

end ResourceClient
