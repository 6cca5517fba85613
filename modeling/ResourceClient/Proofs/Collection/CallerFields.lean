import Mathlib
import ResourceClient.Proofs.Collection.Invalid
import ResourceClient.Proofs.Json.Members

/-! # Members that the caller adds to the bodies

    A call that creates or deletes resources puts members of the caller into
    every body, behind its items.  A member of the caller counts, whatever
    its key is (`get?_itemsBody`), so that one named like the items takes
    their place in all requests.

    The report knows nothing of that.  It goes by the chunks and by what
    their requests came to, and is right about the items as long as the
    requests carry them (`caller_fields`).  With an item of the caller in
    their place, a call succeeds whose items were never sent
    (`create_replaced_item`). -/

namespace ResourceClient

open Dialogue

namespace Collection

/-! ## Bodies -/

/-- A member of the caller is in the body, and the items are there if the
    caller adds nothing of their name. -/
theorem get?_itemsBody (items : List Json) (extra : Fields) (key : String) :
    (itemsBody items extra).get? key =
      (extra.get? key).or (if key = "items" then some (.array items) else none) := by
  have hmembers : extra.entries.reverse.lookup key = extra.get? key :=
    (lookup_eq_of_perm extra.nodup_keys (List.reverse_perm _).symm key).symm
  rw [itemsBody, Json.get?_ofFields, Fields.get?_insertAll_eq_or, hmembers, Fields.get?_insert,
    Fields.get?_empty]

/-- A request posts items with the members of the caller: these are all in
    the body, the items are too unless one of them has their name, and there
    is nothing else. -/
def PostsFields (c : Collection) (path : String) (sent : Http.Request) (items : List Json)
    (extra : Fields) : Prop :=
  sent.method = .post ∧ sent.url = c.client.config.projectUrl ++ path ∧
    ∃ body, sent.body = some body ∧ ∀ key, body.get? key =
      (extra.get? key).or (if key = "items" then some (.array items) else none)

/-- The calls whose caller adds members to the bodies.  The errors of writing
    items and of reading results hold no outcome. -/
inductive BulkCall.TakesFields (c : Collection) :
    BulkCall → {ρ : Type} → Dialogue (Result ρ) → Prop where
  | createMultiple {α : Type} {decode : Decoder α}
      (hdecode : ∀ v e, decode v = .error e → e.outcome = none) {items : List WriteItem}
      (hplain : ∀ e, .typed (.error e) ∈ items → e.outcome = none) (limit : Option Nat)
      (extra : Fields) :
    TakesFields c (.create items limit extra) (c.createMultiple decode items limit extra)
  | deleteMultiple (identifiers : IdentifierSequence) (wrap : Bool) (extra : Fields) :
    TakesFields c (.delete identifiers wrap extra) (c.deleteMultiple identifiers wrap extra)

variable {c : Collection} {call : BulkCall} {ρ : Type} {d : Dialogue (Result ρ)}
  {delivery : Delivery} {deliveries : List Delivery}

namespace BulkCall

/-- The request for a chunk posts it with the members of the caller. -/
theorem TakesFields.postsFields (h : call.TakesFields c d)
    (hdelivery : call.IsDelivery c delivery) :
    ∀ e ∈ delivery.sent,
      c.PostsFields (call.path c) e.1.request delivery.items call.extra := by
  have hbody : call.body delivery.items = itemsBody delivery.items call.extra := by
    cases h <;> rfl
  intro e he
  obtain ⟨headers, hrequest⟩ := Client.History.isSentFor hdelivery e he
  rw [hrequest]
  refine ⟨rfl, rfl, _, rfl, ?_⟩
  rw [hbody]
  exact get?_itemsBody delivery.items call.extra

/-- If the inputs of such a call have no wire forms, then the error holds no
    outcome. -/
theorem TakesFields.outcome_eq_none (h : call.TakesFields c d) {e : Error}
    (hwire : call.wire = .error e) : e.outcome = none := by
  rw [wire_eq_mapM_inputs] at hwire
  obtain ⟨input, hinput, herror⟩ := exists_of_mapM_eq_error hwire
  refine (BulkInput.isInvalid_iff.2 herror).outcome_eq_none fun e' hitem => ?_
  subst hitem
  cases h with
  | createMultiple hdecode hplain limit extra =>
    obtain ⟨item, hitem, heq⟩ := List.mem_map.1 hinput
    obtain rfl := BulkInput.item.inj heq
    exact hplain e' hitem
  | deleteMultiple identifiers wrap extra =>
    obtain ⟨identifier, -, heq⟩ := List.mem_map.1 hinput
    cases heq

/-- What such a call makes of the plain call: it passes its error on, and an
    error of its own holds no outcome. -/
theorem TakesFields.exists_finish (h : call.TakesFields c d) :
    ∃ finish : Result (List Json) → Result ρ, (∀ e, finish (.error e) = .error e) ∧
      (∀ found e, finish (.ok found) = .error e → e.outcome = none) ∧
      d = (call.run c).bind fun found => .done (finish found) := by
  cases h with
  | @createMultiple α decode hdecode items hplain limit extra =>
    refine ⟨decodeItems decode, fun e => rfl, ?_, c.createMultiple_eq decode items limit extra⟩
    intro found e he
    obtain ⟨v, -, hv⟩ := exists_of_mapM_eq_error he
    exact hdecode v e hv
  | deleteMultiple identifiers wrap extra =>
    exact ⟨fun found => found.map fun _ => (), fun e => rfl, fun found e he => (by cases he),
      c.deleteMultiple_eq identifiers wrap extra⟩

end BulkCall

/-! ## Items that the server took -/

/-- An item was in a request that was answered with success. -/
def Took (c : Collection) (path : String) (sent : List (Outgoing × Http.Reply)) (item : Json) :
    Prop :=
  ∃ e ∈ sent, ∃ items response, c.PostsItems path e.1.request items ∧ item ∈ items ∧
    e.2 = .response response ∧ response.isSuccess = true

/-- The call names a single resource, and a reply without success reports it
    as missing. -/
def BulkCall.Forgives (call : BulkCall) (sent : List (Outgoing × Http.Reply)) : Prop :=
  call.mayForgive = true ∧ ∃ e ∈ sent, ∃ response values, e.2 = .response response ∧
    response.isSuccess = false ∧ response.ReportsMissing values ∧ values ≠ []

namespace BulkCall

/-- The reply that a delivery ends with is the last of its exchanges. -/
theorem IsDelivery.exists_exchange (h : call.IsDelivery c delivery) {response : Http.Response}
    (hfinal : delivery.final = .ok response) : ∃ e ∈ delivery.sent, e.2 = .response response := by
  obtain ⟨request, before, hsent, -⟩ := Client.History.before_of_ok h hfinal
  refine ⟨(request, .response response), ?_, rfl⟩
  rw [hsent]
  exact List.mem_map_of_mem (List.mem_append_right _ (List.mem_singleton_self _))

/-- A successful delivery ends with a reply that is a success. -/
theorem exists_final_of_successful (h : call.fateOf delivery.final = .successful) :
    ∃ response, delivery.final = .ok response ∧ response.isSuccess = true := by
  cases hfinal : delivery.final with
  | error e =>
    rw [hfinal] at h
    cases h
  | ok response =>
    by_cases hsuccess : response.isSuccess = true
    · exact ⟨response, rfl, hsuccess⟩
    · rw [hfinal] at h
      exact absurd h (fateOf_of_not_success call (Bool.eq_false_of_not_eq_true hsuccess))

/-- So its items were taken, if the requests carry them. -/
theorem Delivers.took {parts : List (List Json)} {sent : List (Outgoing × Http.Reply)}
    (h : call.Delivers c parts sent deliveries) (hextra : call.extra.get? "items" = none)
    (hdelivery : delivery ∈ deliveries) (hfate : call.fateOf delivery.final = .successful)
    {item : Json} (hitem : item ∈ delivery.items) : c.Took (call.path c) sent item := by
  have hof := h.isDelivery delivery hdelivery
  obtain ⟨response, hfinal, hsuccess⟩ := exists_final_of_successful hfate
  obtain ⟨e, he, hreply⟩ := hof.exists_exchange hfinal
  exact ⟨e, h.interleaves.mem (List.mem_map_of_mem hdelivery) he, delivery.items, response,
    hof.postsItems hextra e he, hitem, hreply, hsuccess⟩

/-- What was reported as missing was a reply. -/
theorem Delivers.forgives {parts : List (List Json)} {sent : List (Outgoing × Http.Reply)}
    (h : call.Delivers c parts sent deliveries) (hforgives : call.mayForgive = true)
    (hdelivery : delivery ∈ deliveries) {v : Json} (hmisses : delivery.Misses v) :
    call.Forgives sent := by
  obtain ⟨response, values, hfinal, hsuccess, hreports, hmem⟩ := hmisses
  obtain ⟨e, he, hreply⟩ := (h.isDelivery delivery hdelivery).exists_exchange hfinal
  exact ⟨hforgives, e, h.interleaves.mem (List.mem_map_of_mem hdelivery) he, response, values,
    hreply, hsuccess, hreports, List.ne_nil_of_mem hmem⟩

/-- The items that are listed as successful are those of successful
    deliveries. -/
theorem exists_of_mem_successful {item : Json}
    (h : item ∈ (BulkOutcome.ofFates (call.fates deliveries)).successful) :
    ∃ delivery ∈ deliveries, call.fateOf delivery.final = .successful ∧ item ∈ delivery.items := by
  obtain ⟨f, hf, hitem⟩ := List.mem_flatMap.1 h
  obtain ⟨hmem, hfate⟩ := List.mem_filter.1 hf
  obtain ⟨delivery, hdelivery, rfl⟩ := List.mem_map.1 hmem
  exact ⟨delivery, hdelivery, by simpa using hfate, hitem⟩

/-- Only an error that says that resources are missing is forgiven. -/
theorem isNotFound_of_forgiving_eq_ok {identifiers : IdentifierSequence} {e : Error}
    {items : List Json} (h : forgiving identifiers (.error e) = .ok items) :
    identifiers.isSingleton = true ∧ e.isNotFound = true := by
  unfold forgiving at h
  dsimp only at h
  split at h
  · next hboth => exact ((Bool.and_eq_true _ _).mp hboth).symm
  · cases h

theorem isNotFound_of_finish_eq_ok {e : Error} {items : List Json}
    (h : call.finish (.error e) = .ok items) : call.mayForgive = true ∧ e.isNotFound = true := by
  cases call with
  | create items limit extra => cases h
  | update items mode => cases h
  | retrieve identifiers wrap ignoreUnknown => exact isNotFound_of_forgiving_eq_ok h
  | delete identifiers wrap extra =>
    cases hforgiven : forgiving identifiers (.error e : Result (List Json)) with
    | ok found => exact isNotFound_of_forgiving_eq_ok hforgiven
    | error e' =>
      rw [finish, hforgiven] at h
      cases h

/-- What the plain call reports is right if its requests carry the items. -/
theorem took_of_runs {turns : List Turn} {result : Result (List Json)}
    (h : Runs (call.run c) turns result) (hextra : call.extra.get? "items" = none)
    (hplain : ∀ e, call.wire = .error e → e.outcome = none) :
    (∀ found, result = .ok found → ∃ wire, call.wire = .ok wire ∧
        ((∀ item ∈ wire, c.Took (call.path c) (exchanges turns) item) ∨
          call.Forgives (exchanges turns))) ∧
      ∀ e outcome, result = .error e → e.outcome = some outcome →
        ∀ item ∈ outcome.successful, c.Took (call.path c) (exchanges turns) item := by
  rcases runs_cases h with ⟨rfl, -, e, rfl, hcause⟩ |
    ⟨wire, deliveries, hwire, hparts, hdelivers, rfl⟩
  · -- nothing was sent, and the error holds no outcome
    have hnone : e.outcome = none := by
      rcases hcause with hwire | rfl
      · exact hplain e hwire
      · rfl
    refine ⟨fun found hfound => (by cases hfound), fun e' outcome he houtcome => ?_⟩
    obtain rfl := Except.error.inj he
    rw [hnone] at houtcome
    cases houtcome
  have hreported := reported_joined hdelivers.isDelivery
  constructor
  · intro found hfound
    refine ⟨wire, hwire, ?_⟩
    cases hjoined : call.joined deliveries with
    | ok items =>
      -- every chunk is successful, and together they are the items
      left
      intro item hitem
      have hall := forall_fates.1 (hreported.1.1 ⟨items, hjoined⟩)
      rw [hparts] at hdelivers
      rw [← hdelivers.flatMap_items] at hitem
      obtain ⟨delivery, hdelivery, hmem⟩ := List.mem_flatMap.1 hitem
      exact hdelivers.took hextra hdelivery (hall delivery hdelivery) hmem
    | error e =>
      -- the error is forgiven, so that a reply reported what is missing
      right
      rw [hjoined] at hfound
      obtain ⟨hforgives, hnot⟩ := isNotFound_of_finish_eq_ok hfound
      obtain ⟨delivery, hdelivery, v, hmisses⟩ :=
        (namesMissing_of_joined hdelivers.isDelivery hjoined).isNotFound_iff.1 hnot
      exact hdelivers.forgives hforgives hdelivery hmisses
  · intro e outcome he houtcome item hitem
    have hreports := reportsOnError_finish hreported.2 call e he
    obtain rfl := Option.some.inj (houtcome.symm.trans hreports)
    obtain ⟨delivery, hdelivery, hfate, hmem⟩ := exists_of_mem_successful hitem
    exact hdelivers.took hextra hdelivery hfate hmem

end BulkCall

/-- **Members of the caller.**  A call that creates or deletes resources
    always has a result, and its requests are deliveries of its chunks.  In
    every request the members of the caller are in the body, whatever their
    keys are, with the items of the chunk unless one of them has their name.

    If none has, the result is right about the items.  If it is a success,
    every item was in a request that was answered with success, or the call
    names a single resource and a reply said that there is none.  If it is an
    error, this holds of every item that is listed as successful. -/
theorem caller_fields (h : call.TakesFields c d) :
    (∀ {ω : Type} (w : World ω) (x : ω), ∃ result x', d.run w x = some (result, x')) ∧
    ∀ turns result, Runs d turns result →
      (∃ deliveries, call.Delivers c (call.parts c) (exchanges turns) deliveries ∧
        ∀ delivery ∈ deliveries, ∀ e ∈ delivery.sent,
          c.PostsFields (call.path c) e.1.request delivery.items call.extra) ∧
      (call.extra.get? "items" = none →
        (∀ a, result = .ok a → ∃ wire, call.wire = .ok wire ∧
          ((∀ item ∈ wire, c.Took (call.path c) (exchanges turns) item) ∨
            call.Forgives (exchanges turns))) ∧
        ∀ e outcome, result = .error e → e.outcome = some outcome →
          ∀ item ∈ outcome.successful, c.Took (call.path c) (exchanges turns) item) := by
  obtain ⟨finish, herror, hown, rfl⟩ := h.exists_finish
  refine ⟨fun w x => run_of_total w ((BulkCall.total_run c call).bind fun found => .done _) x, ?_⟩
  intro turns result hruns
  obtain ⟨found, before, after, rfl, hbulk, hdone⟩ := runs_bind_iff.1 hruns
  obtain ⟨rfl, rfl⟩ := runs_done_iff.1 hdone
  rw [List.append_nil]
  obtain ⟨deliveries, hdelivers⟩ := BulkCall.exists_delivers hbulk
  refine ⟨⟨deliveries, hdelivers, fun delivery hdelivery =>
    h.postsFields (hdelivers.isDelivery delivery hdelivery)⟩, fun hextra => ?_⟩
  obtain ⟨hsuccess, hreport⟩ := BulkCall.took_of_runs hbulk hextra fun e => h.outcome_eq_none
  cases found with
  | ok found =>
    refine ⟨fun _ _ => hsuccess found rfl, fun e outcome he houtcome => ?_⟩
    -- what was read of the answers is an error, and holds no outcome
    rw [hown found e he] at houtcome
    cases houtcome
  | error e =>
    rw [herror]
    refine ⟨fun a ha => (by cases ha), fun e' outcome he houtcome => ?_⟩
    obtain rfl := Except.error.inj he
    exact hreport e outcome rfl houtcome

/-! ## Items that are replaced -/

/-- A member of the caller that is named like the items. -/
def replacement : Fields := .ofList [("items", .array [.ofFields (named "z")])]

/-- A server that has no items, whatever is asked, and of the tasks that run
    side by side the last one moves first. -/
def answersNone : World Unit where
  serve _ x := (.response emptyList, x)
  pick others x := (Fin.last others, x)

/-- If every chunk is answered with an empty list, then the answers together
    are one. -/
theorem BulkCall.joined_emptyList {items : List WriteItem} {limit : Option Nat} {extra : Fields}
    (h : ∀ delivery ∈ deliveries,
      (BulkCall.create items limit extra).IsDelivery c delivery ∧ delivery.final = .ok emptyList) :
    (BulkCall.create items limit extra).joined deliveries = .ok [] := by
  obtain ⟨lists, hlists, hjoined⟩ :=
    joined_of_successful (fun delivery hdelivery => (h delivery hdelivery).1)
      fun delivery hdelivery => by
        have hstatus : emptyList.isSuccess = true := rfl
        simp [(h delivery hdelivery).2, fateOf, hstatus, carriesItems_emptyList]
  rw [hjoined, List.flatten_eq_nil_iff.2]
  intro list hlist
  have hmem : Except.ok list ∈ deliveries.map fun delivery =>
      (BulkCall.create items limit extra).answer delivery.final :=
    hlists ▸ List.mem_map_of_mem hlist
  obtain ⟨delivery, hdelivery, hanswer⟩ := List.mem_map.1 hmem
  rw [(h delivery hdelivery).2] at hanswer
  exact Except.ok.inj (hanswer.symm.trans itemsOf_emptyList)

/-- The call to create `a` creates `z` in its place.  It is a success all the
    same, and `a` was never sent. -/
theorem create_replaced_item :
    let call : BulkCall := .create [.raw (named "a")] none replacement
    let d := plainAssets.createMultiple .json [.raw (named "a")] none replacement
    call.TakesFields plainAssets d ∧ call.wire = .ok [.ofFields (named "a")] ∧
      ∃ turns, Runs d turns (.ok []) ∧ exchanges turns ≠ [] ∧
        (∀ e ∈ exchanges turns,
          plainAssets.PostsItems (call.path plainAssets) e.1.request [.ofFields (named "z")]) ∧
        ¬ plainAssets.Took (call.path plainAssets) (exchanges turns) (.ofFields (named "a")) := by
  intro call d
  have hfields : call.TakesFields plainAssets d :=
    .createMultiple (fun v e he => (by cases he))
      (fun e he => (by cases List.mem_singleton.1 he)) none replacement
  have hreach : Client.IsReachable
      (plainAssets.client.config.projectUrl ++ call.path plainAssets) := by decide +kernel
  have hwire : call.wire = .ok [.ofFields (named "a")] := rfl
  obtain ⟨htotal, hruns⟩ := caller_fields hfields
  obtain ⟨result, x', hrun⟩ := htotal answersNone ()
  obtain ⟨⟨deliveries, hdelivers, hposts⟩, -⟩ := hruns _ _ (runs_of_run hrun)
  -- every request carries the member of the caller
  have hreplaced : ∀ e ∈ exchanges (turns answersNone d ()),
      plainAssets.PostsItems (call.path plainAssets) e.1.request [.ofFields (named "z")] := by
    intro e he
    obtain ⟨sent, hsent, hmem⟩ := hdelivers.interleaves.exists_part he
    obtain ⟨delivery, hdelivery, rfl⟩ := List.mem_map.1 hsent
    obtain ⟨hmethod, hurl, body, hbody, hget⟩ := hposts delivery hdelivery e hmem
    exact ⟨hmethod, hurl, body, hbody, hget "items"⟩
  have hsent : exchanges (turns answersNone d ()) ≠ [] := by
    refine hdelivers.ne_nil hreach ?_
    rw [BulkCall.parts_eq (by decide) hwire]
    exact chunks_createOne ▸ List.cons_ne_nil _ _
  -- every chunk is answered with an empty list
  have hresult : result = .ok [] := by
    obtain ⟨found, y, hplain⟩ := run_of_total answersNone (BulkCall.total_run plainAssets call) ()
    have hfound : found = .ok [] := by
      obtain ⟨deliveries, hdelivers, rfl⟩ :=
        BulkCall.runs_run_joined (by decide) hwire (runs_of_run hplain)
      exact BulkCall.joined_emptyList fun delivery hdelivery =>
        ⟨hdelivers.isDelivery delivery hdelivery,
          hdelivers.final_eq_of_serve hreach hdelivery fun _ _ _ => rfl⟩
    subst hfound
    have hdone : d.run answersNone () = some (.ok [], y) := by
      show (plainAssets.createMultiple _ _ _ _).run answersNone () = _
      rw [createMultiple_eq, run_bind, hplain]
      rfl
    exact (Prod.mk.inj (Option.some.inj (hrun.symm.trans hdone))).1
  subst hresult
  refine ⟨hfields, hwire, _, runs_of_run hrun, hsent, hreplaced, ?_⟩
  rintro ⟨e, he, items, response, ⟨-, -, body, hbody, hitems⟩, hmem, -⟩
  obtain ⟨-, -, body', hbody', hitems'⟩ := hreplaced e he
  obtain rfl := Option.some.inj (hbody.symm.trans hbody')
  obtain rfl := Json.array.inj (Option.some.inj (hitems.symm.trans hitems'))
  have hname : some (Json.string "a") = some (.string "z") :=
    congrArg (Json.get? · "name") (List.mem_singleton.1 hmem)
  exact absurd (Json.string.inj (Option.some.inj hname)) (by decide)

end Collection

end ResourceClient
