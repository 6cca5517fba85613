import Mathlib
import ResourceClient.Proofs.Collection.Deliveries
import ResourceClient.Proofs.Listing.Server

/-! # The report of a call that failed in part

    A call on many items has one result for all of its requests.  It is a
    success exactly when every request ended in one; otherwise it is one
    error, and the outcome in it holds every input item once, in the list of
    the fate that the last attempt of its request tells
    (`partial_failure_report`).

    The report depends on the last attempts only, and on the way in which
    the input is split, but not on the schedule. -/

namespace ResourceClient

open Dialogue

/-- A client that can be made has a worker at least. -/
theorem Client.one_le_maxWorkers_of_new {config : ClientConfig} {client : Client}
    (h : Client.new config = .ok client) : 1 ≤ client.config.maxWorkers := by
  unfold Client.new ClientConfig.validate at h
  split at h
  · cases h
  · split at h
    · cases h
    · next hworkers =>
      simp only [Bind.bind, Except.bind] at h
      split at h
      · cases h
      · cases h
        exact Nat.one_le_iff_ne_zero.2 hworkers

namespace Collection

namespace BulkCall

/-- What the deliveries of a call hold of the input: its wire forms, in
    order. -/
theorem flatMap_fates {c : Collection} {call : BulkCall} {size : Nat} {wire : List Json}
    {sent : List (Outgoing × Http.Reply)} {deliveries : List Delivery}
    (h : call.Delivers c (chunks size wire) sent deliveries) :
    (call.fates deliveries).flatMap (·.1) = wire := by
  rw [fates, List.flatMap_map, List.flatMap_def, h.items_eq, flatten_chunks]

theorem forall_fates {call : BulkCall} {deliveries : List Delivery} {fate : Fate} :
    (∀ f ∈ call.fates deliveries, f.2 = fate) ↔ ∀ d ∈ deliveries, call.fateOf d.final = fate := by
  simp [fates]

end BulkCall

/-- **The report is exact.**  A call whose inputs have wire forms always has
    a result.  In every run it is a success exactly when every chunk ended
    with a success, whose items could be read if the call has results.
    Otherwise it is an error whose outcome holds the items of the chunks by
    their fates: in input order, and every input item exactly once. -/
theorem partial_failure_report {c : Collection} (hworkers : 1 ≤ c.client.config.maxWorkers)
    {call : BulkCall} (hforgives : call.mayForgive = false) {wire : List Json}
    (hwire : call.wire = .ok wire) :
    (∀ {ω : Type} (w : World ω) (x : ω), ∃ result x', (call.run c).run w x = some (result, x')) ∧
      ∀ turns result, Runs (call.run c) turns result →
        ∃ deliveries,
          call.Delivers c (chunks (call.limit c) wire) (exchanges turns) deliveries ∧
          ((∃ items, result = .ok items) ↔
            ∀ d ∈ deliveries, call.fateOf d.final = .successful) ∧
          ∀ e, result = .error e → ∃ outcome, e.outcome = some outcome ∧
            outcome.successful = BulkOutcome.itemsWith (call.fates deliveries) .successful ∧
            outcome.failed = BulkOutcome.itemsWith (call.fates deliveries) .failed ∧
            outcome.unknown = BulkOutcome.itemsWith (call.fates deliveries) .unknown ∧
            outcome.Splits wire := by
  constructor
  · intro ω w x
    exact run_of_total w (BulkCall.total_run c call) x
  · intro turns result hruns
    obtain ⟨deliveries, hdelivers, -, hreported⟩ := BulkCall.runs_deliveries hworkers hwire hruns
    obtain ⟨hsuccess, hreports⟩ := hreported hforgives
    refine ⟨deliveries, hdelivers, hsuccess.trans BulkCall.forall_fates, ?_⟩
    intro e he
    have hsplits := BulkOutcome.splits_ofFates (call.fates deliveries)
    rw [BulkCall.flatMap_fates hdelivers] at hsplits
    exact ⟨_, hreports e he, rfl, rfl, rfl, hsplits⟩

/-! ## A server that answers by the items -/

/-- A delivery ends in the answer to its request, if the world answers it in
    the same way each time. -/
theorem BulkCall.Delivers.final_eq_of_serve {ω α : Type} {w : World ω} {c : Collection}
    {call : BulkCall} (hreach : Client.IsReachable (c.client.config.projectUrl ++ call.path c))
    {parts : List (List Json)} {deliveries : List Delivery} {dialogue : Dialogue α} {x : ω}
    (h : call.Delivers c parts (exchanges (turns w dialogue x)) deliveries) {d : Delivery}
    (hd : d ∈ deliveries) {reply : Http.Reply}
    (hserve : ∀ sent x, Client.IsSentFor
      (c.client.requestFor .post (call.path c) [] (some (call.body d.items))) sent →
        (w.serve sent x).1 = reply) :
    d.final = Client.attemptOf reply := by
  -- every exchange of a delivery is one of the run, which the world answers
  refine (h.isDelivery d hd).outcome_eq hreach fun e he hfor => ?_
  have hmem := h.interleaves.mem (List.mem_map_of_mem hd) he
  obtain ⟨x₁, x₂, hserved⟩ := exists_serve_of_mem_exchanges hmem
  have hreply := hserve e.1 x₁ hfor
  rw [hserved] at hreply
  exact hreply

/-- In a world that answers requests by the items that they carry, a delivery
    ends in the answer to its items. -/
theorem BulkCall.Delivers.final_eq {ω α : Type} {w : World ω} {c : Collection} {call : BulkCall}
    (hextra : call.extra.get? "items" = none)
    (hreach : Client.IsReachable (c.client.config.projectUrl ++ call.path c))
    {answer : List Json → Http.Reply}
    (hanswer : ∀ (sent : Outgoing) (x : ω) (items : List Json),
      c.PostsItems (call.path c) sent.request items → (w.serve sent x).1 = answer items)
    {parts : List (List Json)} {deliveries : List Delivery} {dialogue : Dialogue α} {x : ω}
    (h : call.Delivers c parts (exchanges (turns w dialogue x)) deliveries) {d : Delivery}
    (hd : d ∈ deliveries) : d.final = Client.attemptOf (answer d.items) :=
  h.final_eq_of_serve hreach hd fun sent x hfor =>
    hanswer sent x d.items (postsItems_of_isSentFor hextra hfor)

/-- So the chunks have the fates of the answers to their items. -/
theorem BulkCall.fates_of_answers {ω α : Type} {w : World ω} {c : Collection} {call : BulkCall}
    (hextra : call.extra.get? "items" = none)
    (hreach : Client.IsReachable (c.client.config.projectUrl ++ call.path c))
    {answer : List Json → Http.Reply}
    (hanswer : ∀ (sent : Outgoing) (x : ω) (items : List Json),
      c.PostsItems (call.path c) sent.request items → (w.serve sent x).1 = answer items)
    {parts : List (List Json)} {deliveries : List Delivery} {dialogue : Dialogue α} {x : ω}
    (h : call.Delivers c parts (exchanges (turns w dialogue x)) deliveries) :
    call.fates deliveries =
      parts.map fun items => (items, call.fateOf (Client.attemptOf (answer items))) := by
  rw [← h.items_eq, List.map_map, fates]
  refine List.map_congr_left fun d hd => ?_
  rw [Function.comp_apply, h.final_eq hextra hreach hanswer hd]

/-- A server that answers posted items by what they are, and of the tasks that
    run side by side the last one moves first. -/
def answersItems (answer : List Json → Http.Reply) : World Unit where
  serve sent x :=
    match sent.request.body.bind (·.get? "items") with
    | some (.array items) => (answer items, x)
    | _ => (.lost, x)
  pick others x := (Fin.last others, x)

theorem serve_answersItems {c : Collection} {path : String} (answer : List Json → Http.Reply)
    (sent : Outgoing) (x : Unit) (items : List Json) (h : c.PostsItems path sent.request items) :
    ((answersItems answer).serve sent x).1 = answer items := by
  obtain ⟨-, -, body, hbody, hitems⟩ := h
  simp only [answersItems, hbody, Option.bind_some, hitems]

/-- An object with a name. -/
def named (name : String) : Fields := .ofList [("name", .string name)]

/-- A reply without a body. -/
def bare (status : Nat) : Http.Response := ⟨status, .empty, .empty⟩

/-- The reply that there are no items. -/
def emptyList : Http.Response := Client.jsonReply (.object [("items", .array [])])

theorem carriesItems_emptyList : carriesItems emptyList = true := by
  have hplain : Json.Plain Json.maxDepth (.object [("items", .array [])]) :=
    ⟨List.pairwise_singleton _ _, trivial, trivial⟩
  unfold carriesItems emptyList
  rw [Client.json_jsonReply hplain]
  rfl

/-- The replies of a server that takes what is named `a`, rejects what is
    named `b`, and breaks down at anything else. -/
def repliesByName (items : List Json) : Http.Reply :=
  match items.map nameOf with
  | [.string "a"] => .response emptyList
  | [.string "b"] => .response (bare 400)
  | _ => .response (bare 500)

/-- Three items, each with a request of its own. -/
def createThree : BulkCall :=
  .create (["a", "b", "c"].map fun name => .raw (named name)) (some 1) .empty

/-- The first of the items is created, the second is rejected, and at the
    third the server breaks down. -/
theorem create_one_of_three :
    1 ≤ plainAssets.client.config.maxWorkers ∧ createThree.mayForgive = false ∧
      createThree.wire = .ok (["a", "b", "c"].map fun name => .ofFields (named name)) ∧
      ∃ e x',
        (createThree.run plainAssets).run (answersItems repliesByName) () = some (.error e, x') ∧
        e.outcome = some
          ⟨[.ofFields (named "a")], [.ofFields (named "b")], [.ofFields (named "c")]⟩ := by
  have hworkers : 1 ≤ plainAssets.client.config.maxWorkers := by decide
  have hwire : createThree.wire =
      .ok (["a", "b", "c"].map fun name => .ofFields (named name)) := rfl
  have hreach : Client.IsReachable
      (plainAssets.client.config.projectUrl ++ createThree.path plainAssets) := by decide +kernel
  have hforgives : createThree.mayForgive = false := rfl
  obtain ⟨htotal, hreport⟩ := partial_failure_report hworkers hforgives hwire
  obtain ⟨result, x', hrun⟩ := htotal (answersItems repliesByName) ()
  obtain ⟨deliveries, hdelivers, hsuccess, herror⟩ := hreport _ _ (runs_of_run hrun)
  -- the fates are those of the replies
  have hfates := BulkCall.fates_of_answers rfl hreach (serve_answersItems repliesByName) hdelivers
  have hparts : chunks (createThree.limit plainAssets)
      (["a", "b", "c"].map fun name => Json.ofFields (named name)) =
        [[.ofFields (named "a")], [.ofFields (named "b")], [.ofFields (named "c")]] := by
    simp [createThree, BulkCall.limit, chunks, chunksOfSucc_cons]
  have hcreated : createThree.fateOf (.ok emptyList) = .successful := by
    have hstatus : emptyList.isSuccess = true := rfl
    simp [BulkCall.fateOf, hstatus, carriesItems_emptyList]
  have hthree : createThree.fates deliveries =
      [([.ofFields (named "a")], .successful), ([.ofFields (named "b")], .failed),
        ([.ofFields (named "c")], .unknown)] := by
    rw [hfates, hparts, ← hcreated]
    rfl
  refine ⟨hworkers, hforgives, hwire, ?_⟩
  cases result with
  | ok items =>
    -- not all of them are successes
    have hall := BulkCall.forall_fates.2 (hsuccess.1 ⟨items, rfl⟩)
    simp [hthree] at hall
  | error e =>
    obtain ⟨⟨_, _, _⟩, houtcome, rfl, rfl, rfl, -⟩ := herror e rfl
    rw [hthree] at houtcome
    exact ⟨e, x', hrun, houtcome⟩

end Collection

end ResourceClient
