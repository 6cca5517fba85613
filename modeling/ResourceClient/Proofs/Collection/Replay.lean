import Mathlib
import ResourceClient.Collection.Job
import ResourceClient.Proofs.Collection.Report

/-! # Writes that are sent again

    A request that must not be replayed is sent again after the reply that
    the client is too fast, and after a lost connection as long as the
    budget for these is not zero (`Client.ResendsWrite`).  After any other
    end of an attempt it is not sent again, neither as a chunk of a call nor
    as the start of a job (`writes_resent_only`).

    A lost connection leaves open whether the server applied the write, and
    the report of a call depends on the last attempt only.  So an item that
    is reported as failed was rejected at last, but may have been applied by
    an attempt before (`failed_items_rejected_at_last`,
    `create_rejected_after_loss`).  Without a budget for lost connections no
    attempt that carried it is open. -/

namespace ResourceClient

open Dialogue

/-! ## When a write is sent again -/

/-- A reply after which a write may be sent again. -/
inductive Client.ResendsWrite (c : Client) : Http.Reply → Prop where
  /-- The client is too fast. -/
  | limited {r : Http.Response} (hstatus : r.status = 429) : ResendsWrite c (.response r)
  /-- The connection was lost, and there is a budget for that. -/
  | lost (hconnect : c.config.retry.connect ≠ 0) : ResendsWrite c .lost

/-- The policy for writes repeats nothing else. -/
theorem Client.resendsWrite_of_mayRepeat {c : Client} {reply : Http.Reply}
    (h : (c.policy false).MayRepeat (attemptOf reply)) : c.ResendsWrite reply := by
  cases reply with
  | response r =>
    obtain ⟨hcode⟩ := h
    exact .limited (List.mem_singleton.1 hcode)
  | readTimeout =>
    -- there is no budget for missing answers
    cases h with
    | timeout _ hread => exact absurd rfl hread
    | lost he _ => cases he
  | refused =>
    cases h with
    | timeout he _ => cases he
    | lost he _ => cases he
  | lost =>
    cases h with
    | timeout he _ => cases he
    | lost _ hconnect => exact .lost hconnect

/-- The exchanges are of one request, which is sent again only after a reply
    of this kind. -/
def RepeatsOnlyAfter (again : Http.Reply → Prop) (sent : List (Outgoing × Http.Reply)) : Prop :=
  sent = [] ∨ ∃ request before last,
    sent = (before ++ [last]).map (fun reply => (request, reply)) ∧ ∀ reply ∈ before, again reply

/-- So is every write. -/
theorem Client.History.repeatsOnlyAfter {c : Client} {r : Http.Request}
    {sent : List (Outgoing × Http.Reply)} {outcome : Attempt}
    (h : c.History r false sent outcome) : RepeatsOnlyAfter c.ResendsWrite sent := by
  cases h with
  | unsent _ => exact Or.inl rfl
  | @sent request before last _ hbefore =>
    exact Or.inr ⟨request, before, last, rfl,
      fun reply hreply => resendsWrite_of_mayRepeat (hbefore reply hreply)⟩

namespace Collection

/-- The start of a job is one request. -/
theorem history_of_runs_runJob {c : Collection} {path : String} {body : Json} {turns : List Turn}
    {result : Result Job} (h : Runs (c.runJob path body) turns result) :
    ∃ outcome, c.client.History (c.client.requestFor .post (c.endpoint path) [] (some body))
      (Http.mayReplay .post (c.endpoint path)) (exchanges turns) outcome := by
  obtain ⟨response, before, after, rfl, hpost, hdone⟩ := runs_bind_iff.1 h
  obtain ⟨outcome, hhistory, -⟩ := Client.history_of_runs_request hpost
  -- the response is only read
  have hnothing : after = [] := by
    cases response with
    | ok response => exact (runs_done_iff.1 hdone).1
    | error e => exact (runs_done_iff.1 hdone).1
  rw [hnothing, List.append_nil]
  exact ⟨outcome, hhistory⟩

/-- **Writes are sent again only when the client was too fast or a connection
    was lost.**  In every run of a call at a path that must not be replayed,
    every chunk is posted by one request, which is sent again only after the
    reply 429, or after a lost connection if there is a budget for these.
    The same holds of the request that starts a job. -/
theorem writes_resent_only (c : Collection) :
    (∀ (call : BulkCall) (turns : List Turn) (result : Result (List Json)),
      Http.mayReplay .post (call.path c) = false → Runs (call.run c) turns result →
        ∃ deliveries, call.Delivers c (call.parts c) (exchanges turns) deliveries ∧
          ∀ d ∈ deliveries, RepeatsOnlyAfter c.client.ResendsWrite d.sent) ∧
      ∀ (path : String) (body : Json) (turns : List Turn) (result : Result Job),
        Http.mayReplay .post (c.endpoint path) = false → Runs (c.runJob path body) turns result →
          RepeatsOnlyAfter c.client.ResendsWrite (exchanges turns) := by
  constructor
  · intro call turns result hwrites hruns
    obtain ⟨deliveries, hdelivers⟩ := BulkCall.exists_delivers hruns
    refine ⟨deliveries, hdelivers, ?_⟩
    intro d hd
    have hdelivery := hdelivers.isDelivery d hd
    unfold BulkCall.IsDelivery at hdelivery
    rw [hwrites] at hdelivery
    exact hdelivery.repeatsOnlyAfter
  · intro path body turns result hwrites hruns
    obtain ⟨outcome, hhistory⟩ := history_of_runs_runJob hruns
    rw [hwrites] at hhistory
    exact hhistory.repeatsOnlyAfter

/-! ## Calls with one request -/

/-- Every run of the request for the only chunk is part of a run of the
    call. -/
theorem exists_run_create {c : Collection} (hworkers : 1 ≤ c.client.config.maxWorkers)
    {items : List WriteItem} {limit : Option Nat} {extra : Fields} {wire chunk : List Json}
    (hwire : items.mapM WriteItem.wire = .ok wire)
    (hchunk : chunks ((BulkCall.create items limit extra).limit c) wire = [chunk])
    {turns : List Turn} {final : Attempt}
    (h : Runs ((BulkCall.create items limit extra).attempts c chunk) turns final) :
    ∃ turns' result, Runs ((BulkCall.create items limit extra).run c) turns' result ∧
      exchanges turns' = exchanges turns := by
  have hpost : Runs ((BulkCall.create items limit extra).request c chunk) turns
      (Client.successful final) := by
    rw [BulkCall.request_eq]
    exact h.bind_done rfl
  have hrequest : Runs (c.postForItems c.path (itemsBody chunk extra)) turns
      ((Client.successful final).bind itemsOf) := by
    rw [postForItems_eq]
    exact Runs.bind_done hpost rfl
  -- the request is the only task, and the call looks at its result
  obtain ⟨turns', hgather, hexchanges⟩ := runs_gather_single hworkers hrequest
  let summary := Bulk.summarize [chunk] [(0, (Client.successful final).bind itemsOf)]
  have hexecute : Runs (Bulk.execute c.client.config.maxWorkers [chunk] fun chunk =>
      c.postForItems c.path (itemsBody chunk extra)) turns' (.ok summary) := by
    unfold Bulk.execute
    rw [if_neg (Nat.one_le_iff_ne_zero.1 hworkers)]
    exact hgather.bind_done rfl
  have hsend : Runs (c.sendChunks (limit.getD c.limits.create) wire fun chunk =>
      c.postForItems c.path (itemsBody chunk extra)) turns'
      ((summary.raise id).map (·.joined id)) := by
    replace hchunk : chunks (limit.getD c.limits.create) wire = [chunk] := hchunk
    unfold sendChunks
    rw [hchunk]
    exact hexecute.bind_done rfl
  refine ⟨turns', decodeItems .json ((summary.raise id).map (·.joined id)), ?_, hexchanges⟩
  show Runs (c.createMultiple .json items limit extra) turns' _
  simp only [createMultiple, hwire]
  exact hsend.bind_done rfl

/-- A call that creates one item. -/
def createOne : BulkCall := .create [.raw (named "a")] none .empty

theorem chunks_createOne :
    chunks (createOne.limit plainAssets) [Json.ofFields (named "a")] =
      [[Json.ofFields (named "a")]] := by
  simp [createOne, BulkCall.limit, chunks, chunksOfSucc_cons]

/-- The connection may be lost, the request is sent again, and the second
    attempt comes to any reply that is final. -/
theorem exists_run_createOne_after_loss {reply : Http.Reply}
    (hfinal : (plainAssets.client.policy false).verdict { connect := 1 }
      (Client.attemptOf reply) = .final) :
    ∃ turns result sent, Runs (createOne.run plainAssets) turns result ∧
      exchanges turns = [(sent, .lost), (sent, reply)] := by
  have hreach : Client.IsReachable
      (plainAssets.client.config.projectUrl ++ createOne.path plainAssets) := by decide +kernel
  obtain ⟨sent, hsent, -⟩ := Client.prepare_of_isReachable plainAssets.client.config
    (r := plainAssets.client.requestFor .post (createOne.path plainAssets) []
      (some (createOne.body [.ofFields (named "a")]))) hreach
  have hagain : (plainAssets.client.policy false).verdict {} (Client.attemptOf .lost) =
      .again { connect := 1 } := rfl
  obtain ⟨more, hmore⟩ : ∃ more, RetryPolicy.maxRepetitions = more + 1 + 1 :=
    ⟨UInt64.size - 2, rfl⟩
  have hattempts : Runs (createOne.attempts plainAssets [.ofFields (named "a")])
      [Client.answered sent .lost, Client.answered sent reply] (Client.attemptOf reply) := by
    unfold BulkCall.attempts Client.execute RetryPolicy.execute
    rw [hmore]
    exact Client.runs_attempts_of_again hsent hagain (Client.runs_attempts_of_final hsent hfinal _)
  obtain ⟨turns, result, hruns, hexchanges⟩ :=
    exists_run_create (by decide) (c := plainAssets) rfl chunks_createOne hattempts
  exact ⟨turns, result, sent, hruns, hexchanges⟩

/-- A call with one chunk has one delivery, of all its exchanges. -/
theorem BulkCall.Delivers.of_single {c : Collection} {call : BulkCall} {items : List Json}
    {sent : List (Outgoing × Http.Reply)} {deliveries : List Delivery}
    (h : call.Delivers c [items] sent deliveries) :
    ∃ final, deliveries = [⟨items, sent, final⟩] := by
  obtain ⟨hitems, hinterleaves, -⟩ := h
  match deliveries with
  | [d] =>
    obtain rfl : d.items = items := List.singleton_inj.1 hitems
    obtain rfl : d.sent = sent := hinterleaves.eq_of_single
    exact ⟨d.final, rfl⟩

/-- A write whose connection was lost is sent again, and has an answer. -/
theorem create_resent_after_loss :
    Http.mayReplay .post (createOne.path plainAssets) = false ∧
      ∃ turns result, Runs (createOne.run plainAssets) turns result ∧
        ¬ RepeatsOnlyAfter (fun reply => ∃ r, reply = .response r ∧ r.status = 429)
          (exchanges turns) := by
  have hfinal : (plainAssets.client.policy false).verdict { connect := 1 }
      (Client.attemptOf (.response emptyList)) = .final := rfl
  obtain ⟨turns, result, sent, hruns, hexchanges⟩ := exists_run_createOne_after_loss hfinal
  refine ⟨by decide, turns, result, hruns, ?_⟩
  rw [hexchanges]
  rintro (hnone | ⟨request, before, last, hsent, hbefore⟩)
  · cases hnone
  · -- the lost connection is the reply before the last
    match before with
    | [] => simp at hsent
    | first :: rest =>
      obtain ⟨hfirst, -⟩ := List.cons.inj hsent
      obtain ⟨-, rfl⟩ := Prod.mk.inj hfirst
      obtain ⟨r, hr, -⟩ := hbefore _ List.mem_cons_self
      cases hr

/-- A write whose connection was lost is sent again within the budget. -/
theorem create_resent_within_budget :
    Http.mayReplay .post (createOne.path plainAssets) = false ∧
      ∃ turns result sent, Runs (createOne.run plainAssets) turns result ∧
        exchanges turns = [(sent, .lost), (sent, .response emptyList)] ∧
        ∃ deliveries,
          createOne.Delivers plainAssets (createOne.parts plainAssets) (exchanges turns)
            deliveries ∧
          ∀ d ∈ deliveries, RepeatsOnlyAfter plainAssets.client.ResendsWrite d.sent := by
  have hwrites : Http.mayReplay .post (createOne.path plainAssets) = false := by decide
  have hfinal : (plainAssets.client.policy false).verdict { connect := 1 }
      (Client.attemptOf (.response emptyList)) = .final := rfl
  obtain ⟨turns, result, sent, hruns, hexchanges⟩ := exists_run_createOne_after_loss hfinal
  exact ⟨hwrites, turns, result, sent, hruns, hexchanges,
    (writes_resent_only plainAssets).1 createOne turns result hwrites hruns⟩

/-! ## What the report says of items that were sent again -/

/-- A chunk that is reported as failed was rejected. -/
theorem BulkCall.fateOf_eq_failed {call : BulkCall} {final : Attempt}
    (h : call.fateOf final = .failed) :
    ∃ r, final = .ok r ∧ r.isSuccess = false ∧ r.status < 500 := by
  cases final with
  | error e => cases h
  | ok r =>
    simp only [fateOf] at h
    by_cases hsuccess : r.isSuccess = true
    · rw [if_pos hsuccess] at h
      split at h <;> cases h
    · rw [if_neg hsuccess] at h
      by_cases hstatus : r.status < 500
      · exact ⟨r, rfl, Bool.eq_false_of_not_eq_true hsuccess, hstatus⟩
      · rw [if_neg hstatus] at h
        cases h

/-- **Items reported as failed were rejected at last.**  The last attempt of
    their request was answered with a status below 500 that is no success,
    and every attempt before it with what the policy may repeat.  If the
    path must not be replayed and there is no budget for lost connections,
    then every attempt was answered with a status below 500. -/
theorem failed_items_rejected_at_last {c : Collection} {call : BulkCall} {wire : List Json}
    (hwire : call.wire = .ok wire) {turns : List Turn} {e : Error}
    (hruns : Runs (call.run c) turns (.error e)) {outcome : BulkOutcome}
    (houtcome : e.outcome = some outcome) :
    ∃ deliveries, call.Delivers c (chunks (call.limit c) wire) (exchanges turns) deliveries ∧
      outcome.failed = BulkOutcome.itemsWith (call.fates deliveries) .failed ∧
      outcome.unknown = BulkOutcome.itemsWith (call.fates deliveries) .unknown ∧
      ∀ d ∈ deliveries, call.fateOf d.final = .failed →
        (∃ request before r,
          d.sent = (before ++ [.response r]).map (fun reply => (request, reply)) ∧
          r.isSuccess = false ∧ r.status < 500 ∧
          ∀ reply ∈ before, (c.client.policy (Http.mayReplay .post (call.path c))).MayRepeat
            (Client.attemptOf reply)) ∧
        (Http.mayReplay .post (call.path c) = false → c.client.config.retry.connect = 0 →
          ∀ x ∈ d.sent, ∃ r, x.2 = .response r ∧ r.status < 500) := by
  have hworkers : 1 ≤ c.client.config.maxWorkers := by
    -- without workers there is an error, but no outcome
    refine Nat.one_le_iff_ne_zero.2 fun hzero => ?_
    rw [BulkCall.run_of_no_workers hzero hwire] at hruns
    obtain ⟨-, herror⟩ := runs_done_iff.1 hruns
    cases herror
    cases houtcome
  obtain ⟨deliveries, hdelivers, hreports, -⟩ := BulkCall.runs_deliveries hworkers hwire hruns
  obtain rfl : BulkOutcome.ofFates (call.fates deliveries) = outcome :=
    Option.some.inj ((hreports e rfl).symm.trans houtcome)
  refine ⟨deliveries, hdelivers, rfl, rfl, ?_⟩
  intro d hd hfailed
  obtain ⟨r, hfinal, hsuccess, hstatus⟩ := BulkCall.fateOf_eq_failed hfailed
  have hdelivery := hdelivers.isDelivery d hd
  unfold BulkCall.IsDelivery at hdelivery
  obtain ⟨request, before, hsent, hbefore⟩ := hdelivery.before_of_ok hfinal
  refine ⟨⟨request, before, r, hsent, hsuccess, hstatus, hbefore⟩, ?_⟩
  intro hwrites hconnect x hx
  rw [hsent] at hx
  obtain ⟨reply, hreply, rfl⟩ := List.mem_map.1 hx
  rcases List.mem_append.1 hreply with hearlier | hlast
  · rw [hwrites] at hbefore
    cases Client.resendsWrite_of_mayRepeat (hbefore reply hearlier) with
    | limited hlimited => exact ⟨_, rfl, by omega⟩
    | lost hbudget => exact absurd hconnect hbudget
  · exact ⟨r, List.mem_singleton.1 hlast, hstatus⟩

/-- An item is reported as failed although the connection of the first
    attempt that carried it was lost. -/
theorem create_rejected_after_loss :
    createOne.wire = .ok [.ofFields (named "a")] ∧
      ∃ turns e outcome sent, Runs (createOne.run plainAssets) turns (.error e) ∧
        e.outcome = some outcome ∧
        exchanges turns = [(sent, .lost), (sent, .response (bare 400))] ∧
        outcome.failed = [.ofFields (named "a")] ∧ outcome.unknown = [] := by
  have hwire : createOne.wire = .ok [.ofFields (named "a")] := rfl
  have hfinal : (plainAssets.client.policy false).verdict { connect := 1 }
      (Client.attemptOf (.response (bare 400))) = .final := rfl
  obtain ⟨turns, result, sent, hruns, hexchanges⟩ := exists_run_createOne_after_loss hfinal
  obtain ⟨deliveries, hdelivers, hreports, hreported⟩ :=
    BulkCall.runs_deliveries (by decide) hwire hruns
  have hfates {deliveries : List Delivery} (hdelivers : createOne.Delivers plainAssets
      (chunks (createOne.limit plainAssets) [.ofFields (named "a")]) (exchanges turns) deliveries) :
      createOne.fates deliveries = [([.ofFields (named "a")], .failed)] := by
    rw [chunks_createOne] at hdelivers
    obtain ⟨final, rfl⟩ := hdelivers.of_single
    have hdelivery := hdelivers.isDelivery _ (List.mem_singleton_self _)
    unfold BulkCall.IsDelivery at hdelivery
    rw [hexchanges] at hdelivery
    obtain rfl : final = _ := Client.History.outcome_eq_last [(sent, .lost)] hdelivery
    rfl
  cases result with
  | ok items =>
    have hall := (hreported rfl).1.1 ⟨items, rfl⟩
    simp [hfates hdelivers] at hall
  | error e =>
    obtain ⟨deliveries', hdelivers', hfailed, hunknown, -⟩ :=
      failed_items_rejected_at_last hwire hruns (hreports e rfl)
    rw [hfates hdelivers'] at hfailed hunknown
    exact ⟨hwire, turns, e, _, sent, hruns, hreports e rfl, hexchanges, hfailed, hunknown⟩

end Collection

end ResourceClient
