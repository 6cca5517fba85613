import Mathlib
import ResourceClient.Collection.Job
import ResourceClient.Collection.Search
import ResourceClient.Proofs.Collection.Calls
import ResourceClient.Proofs.Collection.Partitions
import ResourceClient.Proofs.Collection.Replay
import ResourceClient.Proofs.Http.Segment

/-! # The retry budget of an operation

    An operation makes requests, each of them in the attempts that a retry
    policy allows (`Client.SendsOnce`).  How many requests these are is not
    left open: there is one request, or one for each chunk of a call on many
    items, or one for each page that a listing visits, and what the server
    sees is the attempts of these requests and nothing else
    (`Operation.SendsUnder`).

    Which policy it is, is decided from the method and the path of a request
    alone, so that it has to be told from a text that the path of the
    collection and the name of an endpoint were joined to.
    `Operation.IsReplayable` is the table that is meant: what reads, puts in
    place or removes has the full budget, updating and deleting items has
    the one for writes, and what is posted to a path that the caller names
    has the full budget if the last segment of the path is that of an
    endpoint which only reads.  The operations keep to the table
    (`budget_of_operation`). -/

namespace ResourceClient

open Dialogue

/-! ## Requests under a policy -/

namespace Client

/-- What is sent for a request in the attempts that a policy makes. -/
def SendsOnce (client : Client) (p : RetryPolicy) (r : Http.Request)
    (sent : List (Outgoing × Http.Reply)) : Prop :=
  ∃ turns outcome, Runs (p.execute (client.send r)) turns outcome ∧ exchanges turns = sent

/-- What is sent for some requests side by side: for each of them what its
    attempts send, woven into each other. -/
def SendsEach (client : Client) (p : RetryPolicy) (requests : List Http.Request)
    (sent : List (Outgoing × Http.Reply)) : Prop :=
  ∃ parts, List.Forall₂ (client.SendsOnce p) requests parts ∧ Interleaves parts sent

theorem sendsEach_single_iff {client : Client} {p : RetryPolicy} {r : Http.Request}
    {sent : List (Outgoing × Http.Reply)} :
    client.SendsEach p [r] sent ↔ client.SendsOnce p r sent := by
  constructor
  · rintro ⟨parts, hparts, hsent⟩
    cases hparts with
    | cons honce hnone =>
      cases hnone
      exact hsent.eq_of_single ▸ honce
  · intro h
    exact ⟨[sent], .cons h .nil, interleaves_single sent⟩

/-- All attempts but the last one ended in what the policy repeats. -/
theorem SendsOnce.mayRepeat {client : Client} {replayable : Bool} {r : Http.Request}
    {sent earlier : List (Outgoing × Http.Reply)} {last : Outgoing × Http.Reply}
    (h : client.SendsOnce (client.policy replayable) r sent) (hsplit : sent = earlier ++ [last]) :
    ∀ e ∈ earlier, (client.policy replayable).MayRepeat (attemptOf e.2) := by
  obtain ⟨turns, outcome, hruns, rfl⟩ := h
  exact (history_of_runs hruns).mayRepeat hsplit

/-- In every world a request for a path of the project is sent under the
    policy for its method and its path. -/
theorem sendsEach_request {σ : Type} (w : World σ) (client : Client) (method : Http.Method)
    (path : String) (query : List (String × String)) (body : Option Json) (s : σ) :
    client.SendsEach (client.policy (Http.mayReplay method path))
      [client.requestFor method path query body]
      (exchanges (turns w (client.request method path query body) s)) := by
  obtain ⟨result, s', hrun⟩ := run_of_total w (client.total_request method path query body) s
  obtain ⟨outcome, hexecute, -⟩ := execute_of_runs_request (runs_of_run hrun)
  exact sendsEach_single_iff.2 ⟨_, outcome, hexecute, rfl⟩

end Client

namespace Collection

/-- So are items that are posted for, whatever is made of them. -/
theorem sendsEach_postForItems {σ ρ : Type} (w : World σ) (c : Collection) (path : String)
    (body : Json) (read : Result (List Json) → ρ) (s : σ) :
    c.client.SendsEach (c.client.policy (Http.mayReplay .post path))
      [c.client.requestFor .post path [] (some body)]
      (exchanges
        (turns w ((c.postForItems path body).bind fun found => .done (read found)) s)) := by
  rw [turns_bind_done, postForItems_eq, turns_bind_done]
  exact Client.sendsEach_request w c.client .post path [] (some body) s

/-! ## Calls on many items -/

/-- The request for a chunk of a call. -/
def BulkCall.requestOf (c : Collection) (call : BulkCall) (chunk : List Json) : Http.Request :=
  c.client.requestFor .post (call.path c) [] (some (call.body chunk))

/-- A call on many items sends one request for each of its chunks. -/
theorem BulkCall.sendsEach_of_runs {c : Collection} {call : BulkCall} {turns : List Turn}
    {result : Result (List Json)} (h : Runs (call.run c) turns result) :
    c.client.SendsEach (c.client.policy (Http.mayReplay .post (call.path c)))
      ((call.parts c).map (call.requestOf c)) (exchanges turns) := by
  obtain ⟨responses, hwoven⟩ := BulkCall.exists_woven h
  -- what is sent for a chunk, with the response that it comes to
  have hchunks : ∀ chunk ∈ call.parts c, ∀ turns response,
      Runs (call.request c chunk) turns response →
        ∃ g : List (Outgoing × Http.Reply) × Result Http.Response,
          c.client.SendsOnce (c.client.policy (Http.mayReplay .post (call.path c)))
            (call.requestOf c chunk) g.1 ∧ exchanges turns = g.1 ∧ response = g.2 := by
    intro chunk _ turns response hruns
    obtain ⟨outcome, hexecute, -⟩ := Client.execute_of_runs_request hruns
    exact ⟨(exchanges turns, response), ⟨turns, outcome, hexecute, rfl⟩, rfl, rfl⟩
  obtain ⟨sent, hsent, hinterleaves, -⟩ := hwoven.exists_described hchunks
  refine ⟨sent.map Prod.fst, ?_, hinterleaves⟩
  rw [List.forall₂_map_left_iff, List.forall₂_map_right_iff]
  exact hsent

/-! ## Listings -/

/-- The page of a visit is fetched in the attempts that a policy makes. -/
def FetchesUnder (c : Collection) (p : RetryPolicy) (r : ListRequest) (v : PageVisit) : Prop :=
  ∃ turns outcome,
    Runs (p.execute (c.client.send (c.pageRequest r v.limit v.cursor))) turns outcome ∧
      exchanges turns = v.sent ∧ v.page = (Client.successful outcome).bind pageOf

/-- What is sent for a listing: its pages are visited one after the other,
    and each of them is fetched once, in the attempts that a policy makes. -/
def ListsUnder (c : Collection) (p : RetryPolicy) (r : ListRequest)
    (sent : List (Outgoing × Http.Reply)) : Prop :=
  ∃ visits, Visits c r {} visits ∧ (∀ v ∈ visits, c.FetchesUnder p r v) ∧
    visits.flatMap (·.sent) = sent

theorem listsUnder_of_visits {c : Collection} {r : ListRequest} {visits : List PageVisit}
    (h : Visits c r {} visits) :
    c.ListsUnder (c.listPolicy r.method) r (visits.flatMap (·.sent)) := by
  refine ⟨visits, h, ?_, rfl⟩
  intro v hv
  obtain ⟨p, hvisit⟩ := h.exists_isVisitAt hv
  obtain ⟨turns, hruns, hsent⟩ := hvisit.isFetch
  obtain ⟨outcome, hexecute, hpage⟩ := execute_of_runs_fetchPage hruns
  exact ⟨turns, outcome, hexecute, hsent, hpage⟩

/-- The labels of the partitions that are read.  There are none if there are
    no workers. -/
def labelsRead (c : Collection) (partitions : Nat) : List String :=
  if c.client.config.maxWorkers = 0 then [] else partitionLabels partitions

/-- What is sent for a listing in partitions: for each of them what its
    listing sends, woven into each other. -/
def PartitionsUnder (c : Collection) (p : RetryPolicy) (r : ListRequest) (partitions : Nat)
    (sent : List (Outgoing × Http.Reply)) : Prop :=
  ∃ parts, List.Forall₂ (fun label part => c.ListsUnder p (partition r label) part)
    (c.labelsRead partitions) parts ∧ Interleaves parts sent

theorem partitionsUnder_nil {c : Collection} {r : ListRequest} {partitions : Nat}
    (h : c.labelsRead partitions = []) (p : RetryPolicy) :
    c.PartitionsUnder p r partitions [] :=
  ⟨[], by rw [h]; exact .nil, interleaves_nil⟩

/-- The label of a partition decides neither the method nor the path, and so
    not the policy. -/
theorem partitionsUnder_of_runs {α : Type} {c : Collection} {decode : Decoder α} {budget : Nat}
    {r : ListRequest} {partitions : Nat} {ts : List Turn} {result : Result (List α)}
    (h : Runs (c.listPartitioned decode budget r partitions) ts result) :
    c.PartitionsUnder (c.listPolicy r.method) r partitions (exchanges ts) := by
  unfold listPartitioned at h
  split at h
  · next hnone =>
    obtain ⟨rfl, -⟩ := runs_done_iff.1 h
    exact partitionsUnder_nil (by simp [labelsRead, partitionLabels, hnone]) _
  · obtain ⟨outcome, ts₁, ts₂, rfl, hexecute, hrest⟩ := runs_bind_iff.1 h
    -- nothing is asked once the partitions are read
    have hquiet : ts₂ = [] := by
      cases outcome with
      | error e => exact (runs_done_iff.1 hrest).1
      | ok summary => exact (runs_done_iff.1 hrest).1
    rw [hquiet, List.append_nil]
    by_cases hworkers : c.client.config.maxWorkers = 0
    · unfold Bulk.execute at hexecute
      rw [if_pos hworkers] at hexecute
      obtain ⟨rfl, -⟩ := runs_done_iff.1 hexecute
      exact partitionsUnder_nil (if_pos hworkers) _
    · obtain ⟨chains, hreads, hinterleaves, -⟩ :=
        runs_execute_partitions (Nat.one_le_iff_ne_zero.2 hworkers) hexecute
      refine ⟨chains.map Chain.sent, ?_, hinterleaves⟩
      rw [labelsRead, if_neg hworkers, List.forall₂_map_right_iff]
      exact hreads.imp fun label ch hch => listsUnder_of_visits hch.visits

end Collection

/-! ## Operations -/

/-- The operations of a collection and the requests of a client, with all
    that decides what they send. -/
inductive Operation where
  | retrieve (id : Int64)
  | bulk (call : Collection.BulkCall)
  | list (r : ListRequest)
  | listPartitioned (r : ListRequest) (partitions : Nat)
  | search (query : Json) (filter : Option Filter) (limit : Nat)
  | aggregate (filter : Option Filter)
  | runJob (name : String) (body : Json)
  | get (path : String) (query : List (String × String))
  | post (path : String) (body : Json)
  | put (path : String) (body : Json)
  | delete (path : String) (query : List (String × String))

namespace Operation

/-- The method of the requests of an operation. -/
def method : Operation → Http.Method
  | retrieve _ | get _ _ => .get
  | put _ _ => .put
  | delete _ _ => .delete
  | list r | listPartitioned r _ => Collection.listVerb r.method
  | bulk _ | search _ _ _ | aggregate _ | runJob _ _ | post _ _ => .post

/-- The path that they are sent to. -/
def path (c : Collection) : Operation → String
  | retrieve id => c.endpoint ("/" ++ toString id.toInt)
  | bulk call => call.path c
  | list r | listPartitioned r _ => c.listPath r.method
  | search _ _ _ => c.endpoint "/search"
  | aggregate _ => c.endpoint "/aggregate"
  | runJob name _ => c.endpoint name
  | get path _ | post path _ | put path _ | delete path _ => path

/-- Whether an operation has the full retry budget. -/
def IsReplayable (c : Collection) : Operation → Prop
  | retrieve _ | list _ | listPartitioned _ _ | search _ _ _ | aggregate _ => True
  | get _ _ | put _ _ | delete _ _ => True
  | bulk (.retrieve _ _ _) => True
  | bulk (.update _ _) | bulk (.delete _ _ _) => False
  | bulk (.create _ _ _) => Http.IsReadingPath c.path
  | runJob name _ => Http.IsReadingPath (c.endpoint name)
  | post path _ => Http.IsReadingPath path

/-- What is sent for an operation whose requests are sent in the attempts
    that a policy makes: for a listing what its visits send, and for any
    other operation its one request, or one for each chunk. -/
def SendsUnder (c : Collection) (p : RetryPolicy) :
    Operation → List (Outgoing × Http.Reply) → Prop
  | retrieve id =>
    c.client.SendsEach p [c.client.requestFor .get (c.endpoint ("/" ++ toString id.toInt)) [] none]
  | bulk call => c.client.SendsEach p ((call.parts c).map (call.requestOf c))
  | list r => c.ListsUnder p r
  | listPartitioned r partitions => c.PartitionsUnder p r partitions
  | search query filter limit =>
    c.client.SendsEach p [c.client.requestFor .post (c.endpoint "/search") []
      (some (Collection.searchBody query filter limit))]
  | aggregate filter =>
    c.client.SendsEach p [c.client.requestFor .post (c.endpoint "/aggregate") []
      (some (Collection.aggregateBody filter))]
  | runJob name body =>
    c.client.SendsEach p [c.client.requestFor .post (c.endpoint name) [] (some body)]
  | get path query => c.client.SendsEach p [c.client.requestFor .get path query none]
  | post path body => c.client.SendsEach p [c.client.requestFor .post path [] (some body)]
  | put path body => c.client.SendsEach p [c.client.requestFor .put path [] (some body)]
  | delete path query => c.client.SendsEach p [c.client.requestFor .delete path query none]

/-- The calls of an operation that send requests one after the other, or a
    bounded number of them side by side.  Reading a listing in chunks puts
    the size of the chunks in the place of the chunk size. -/
inductive IsCall (c : Collection) : Operation → {ρ : Type} → Dialogue ρ → Prop where
  | retrieve {α : Type} (decode : Decoder α) (id : Int64) :
    IsCall c (.retrieve id) (c.retrieve decode id)
  | bulk {call : Collection.BulkCall} {ρ : Type} {d : Dialogue (Result ρ)}
      (h : call.IsMadeBy c d) : IsCall c (.bulk call) d
  | list {α : Type} (decode : Decoder α) (budget : Nat) (r : ListRequest) :
    IsCall c (.list r) (c.list decode budget r)
  | listItems {α : Type} (decode : Decoder α) (budget : Nat) (r : ListRequest)
      (count : Option Nat) : IsCall c (.list r) (c.listItems decode budget r count)
  | listChunks {α : Type} (decode : Decoder α) (budget : Nat) (r : ListRequest) (size : Nat)
      (count : Option Nat) :
    IsCall c (.list { r with chunkSize := some size }) (c.listChunks decode budget r size count)
  | search {α : Type} (decode : Decoder α) (query : Json) (filter : Option Filter) (limit : Nat) :
    IsCall c (.search query filter limit) (c.search decode query filter limit)
  | aggregate {α : Type} (decode : Decoder α) (filter : Option Filter) :
    IsCall c (.aggregate filter) (c.aggregate decode filter)
  | runJob (name : String) (body : Json) : IsCall c (.runJob name body) (c.runJob name body)
  | get (path : String) (query : List (String × String)) :
    IsCall c (.get path query) (c.client.get path query)
  | post (path : String) (body : Json) : IsCall c (.post path body) (c.client.post path body)
  | put (path : String) (body : Json) : IsCall c (.put path body) (c.client.put path body)
  | delete (path : String) (query : List (String × String)) :
    IsCall c (.delete path query) (c.client.delete path query)

/-- What an operation sends, in any world and whether it comes to an end
    there or not.  Partitions are read side by side to their ends. -/
inductive Sent (c : Collection) : Operation → List (Outgoing × Http.Reply) → Prop where
  | call {op : Operation} {ρ : Type} {d : Dialogue ρ} (h : IsCall c op d) {σ : Type}
      (w : World σ) (s : σ) : Sent c op (exchanges (turns w d s))
  | partitioned {α : Type} {decode : Decoder α} {budget : Nat} {r : ListRequest}
      {partitions : Nat} {turns : List Turn} {result : Result (List α)}
      (h : Runs (c.listPartitioned decode budget r partitions) turns result) :
      Sent c (.listPartitioned r partitions) (exchanges turns)

/-- A run of a call sends what the operation sends. -/
theorem Sent.of_runs {c : Collection} {op : Operation} {ρ : Type} {d : Dialogue ρ}
    (h : IsCall c op d) {ts : List Turn} {a : ρ} (hruns : Runs d ts a) :
    Sent c op (exchanges ts) := by
  have hcall := Sent.call h replay ts
  rwa [turns_replay hruns] at hcall

/-- In every world a call sends the requests of the operation, under the
    policy that the client has for its method and its path. -/
theorem IsCall.sendsUnder {c : Collection} {op : Operation} {ρ : Type} {d : Dialogue ρ}
    (h : IsCall c op d) {σ : Type} (w : World σ) (s : σ) :
    op.SendsUnder c (c.client.policy (Http.mayReplay op.method (op.path c)))
      (exchanges (turns w d s)) := by
  cases h with
  -- nothing is asked behind the one request, whatever is made of its response
  | retrieve decode id =>
    unfold Collection.retrieve
    rw [Dialogue.bind_eq,
      turns_bind_of_done w (fun response => by cases response <;> exact ⟨_, rfl⟩)]
    exact Client.sendsEach_request w c.client .get _ [] none s
  -- the forms of a call on many items differ in what they make of the result only
  | @bulk call _ d h =>
    obtain ⟨result, s', hrun⟩ := run_of_total w (Collection.BulkCall.total_run c call) s
    rw [h.turns_eq]
    exact Collection.BulkCall.sendsEach_of_runs (runs_of_run hrun)
  | list decode budget r =>
    obtain ⟨visits, hvisits, hsent⟩ := c.exists_visits_list w r decode budget s
    rw [← hsent]
    exact Collection.listsUnder_of_visits hvisits
  | listItems decode budget r count =>
    obtain ⟨visits, hvisits, hsent⟩ := c.exists_visits_listItems w r decode budget count s
    rw [← hsent]
    exact Collection.listsUnder_of_visits hvisits
  | listChunks decode budget r size count =>
    obtain ⟨visits, hvisits, hsent⟩ := c.exists_visits_listChunks w r decode budget size count s
    rw [← hsent]
    exact Collection.listsUnder_of_visits hvisits
  | search decode query filter limit =>
    exact c.sendsEach_postForItems w _ _ (Collection.decodeItems decode) s
  | aggregate decode filter =>
    exact c.sendsEach_postForItems w _ _ (Collection.decodeItems decode) s
  | runJob name body =>
    unfold Collection.runJob Job.start
    rw [Dialogue.bind_eq,
      turns_bind_of_done w (fun response => by cases response <;> exact ⟨_, rfl⟩)]
    exact Client.sendsEach_request w c.client .post (c.endpoint name) [] (some body) s
  | get path query => exact Client.sendsEach_request w c.client .get path query none s
  | post path body => exact Client.sendsEach_request w c.client .post path [] (some body) s
  | put path body => exact Client.sendsEach_request w c.client .put path [] (some body) s
  | delete path query => exact Client.sendsEach_request w c.client .delete path query none s

/-- What an operation sends are its requests, under the policy that the
    client has for its method and its path. -/
theorem Sent.sendsUnder {c : Collection} {op : Operation} {sent : List (Outgoing × Http.Reply)}
    (h : Sent c op sent) :
    op.SendsUnder c (c.client.policy (Http.mayReplay op.method (op.path c))) sent := by
  cases h with
  | call h w s => exact h.sendsUnder w s
  | partitioned h => exact Collection.partitionsUnder_of_runs h

/-! ## Which budget -/

/-- The requests of an operation may be replayed if the operation may,
    whatever stands in the path of the collection. -/
theorem mayReplay_iff {c : Collection} (hpath : '?' ∉ c.path.toList) (op : Operation) :
    Http.mayReplay op.method (op.path c) = true ↔ op.IsReplayable c := by
  have hendpoint (suffix name : String) (hsuffix : suffix.toList = '/' :: name.toList)
      (hplain : name.toList ≠ [] ∧ '/' ∉ name.toList ∧ '?' ∉ name.toList) :
      Http.mayReplay .post (c.endpoint suffix) = true ↔
        name ∈ ["list", "byids", "search", "aggregate"] :=
    Http.mayReplay_post_iff.trans (Http.isReadingPath_append hpath hsuffix hplain.1 hplain.2)
  have hlist (method : ListMethod) :
      Http.mayReplay (Collection.listVerb method) (c.listPath method) = true := by
    cases method with
    | get => rfl
    | post => exact (hendpoint "/list" "list" rfl (by decide)).2 (by decide)
  cases op with
  | retrieve id => exact iff_true_intro rfl
  | bulk call =>
    cases call with
    | create items limit extra => exact Http.mayReplay_post_iff
    | update items mode =>
      exact (hendpoint "/update" "update" rfl (by decide)).trans (iff_false_intro (by decide))
    | retrieve identifiers wrap ignoreUnknown =>
      exact (hendpoint "/byids" "byids" rfl (by decide)).trans (iff_true_intro (by decide))
    | delete identifiers wrap extra =>
      exact (hendpoint "/delete" "delete" rfl (by decide)).trans (iff_false_intro (by decide))
  | list r => exact iff_true_intro (hlist r.method)
  | listPartitioned r partitions => exact iff_true_intro (hlist r.method)
  | search query filter limit =>
    exact (hendpoint "/search" "search" rfl (by decide)).trans (iff_true_intro (by decide))
  | aggregate filter =>
    exact (hendpoint "/aggregate" "aggregate" rfl (by decide)).trans (iff_true_intro (by decide))
  | runJob name body => exact Http.mayReplay_post_iff
  | get path query => exact iff_true_intro rfl
  | post path body => exact Http.mayReplay_post_iff
  | put path body => exact iff_true_intro rfl
  | delete path query => exact iff_true_intro rfl

end Operation

/-- **The right budget for every operation.**  Whatever an operation sends
    are its requests, each of them once and in the attempts that the policy
    of the configuration makes if the operation may be replayed, and in
    those of the policy for writes if it may not. -/
theorem Collection.budget_of_operation {c : Collection} (hpath : '?' ∉ c.path.toList)
    {op : Operation} {sent : List (Outgoing × Http.Reply)} (h : op.Sent c sent) :
    (op.IsReplayable c → op.SendsUnder c c.client.config.retry sent) ∧
      (¬ op.IsReplayable c → op.SendsUnder c c.client.config.retry.forWrites sent) := by
  have hsent := h.sendsUnder
  unfold Client.policy at hsent
  constructor
  · intro hreplay
    rwa [if_pos ((op.mayReplay_iff hpath).2 hreplay)] at hsent
  · intro hwrite
    rwa [if_neg (mt (op.mayReplay_iff hpath).1 hwrite)] at hsent

/-- The server is not available. -/
def unavailable : Http.Response := { status := 503, headers := .empty, body := .empty }

/-- An item is created under the policy for writes, in two attempts after a
    lost connection.  When the server is not available there is only one
    attempt: two exchanges, of which the first ended so, are not sent under
    that policy. -/
theorem Collection.create_sent_under_writes :
    '?' ∉ plainAssets.path.toList ∧ ¬ (Operation.bulk createOne).IsReplayable plainAssets ∧
      (∃ sent request, sent = [(request, .lost), (request, .response emptyList)] ∧
        (Operation.bulk createOne).Sent plainAssets sent ∧
        (Operation.bulk createOne).SendsUnder plainAssets plainAssets.client.config.retry.forWrites
          sent) ∧
      ∀ request last, ¬ (Operation.bulk createOne).SendsUnder plainAssets
        plainAssets.client.config.retry.forWrites [(request, .response unavailable), last] := by
  have hpath : '?' ∉ plainAssets.path.toList := by decide
  have hwrite : ¬ (Operation.bulk createOne).IsReplayable plainAssets :=
    (by decide : ¬ Http.IsReadingPath plainAssets.path)
  refine ⟨hpath, hwrite, ?_, ?_⟩
  · have hfinal : (plainAssets.client.policy false).verdict { connect := 1 }
        (Client.attemptOf (.response emptyList)) = .final := rfl
    obtain ⟨turns, result, request, hruns, hexchanges⟩ := exists_run_createOne_after_loss hfinal
    have hsent : (Operation.bulk createOne).Sent plainAssets (exchanges turns) :=
      .of_runs (.bulk (.createMultiple .json [.raw (named "a")] none .empty)) hruns
    have hunder := (budget_of_operation hpath hsent).2 hwrite
    rw [hexchanges] at hsent hunder
    exact ⟨_, request, rfl, hsent, hunder⟩
  · intro request last hunder
    have hparts : createOne.parts plainAssets = [[Json.ofFields (named "a")]] :=
      (BulkCall.parts_eq (by decide) rfl).trans chunks_createOne
    replace hunder : plainAssets.client.SendsEach (plainAssets.client.policy false)
      ((createOne.parts plainAssets).map (createOne.requestOf plainAssets)) _ := hunder
    rw [hparts, List.map_singleton, Client.sendsEach_single_iff] at hunder
    -- the reply is not one that asks for a repetition of writes
    have hsplit : [(request, .response unavailable), last] =
        [(request, Http.Reply.response unavailable)] ++ [last] := rfl
    have hmay := hunder.mayRepeat hsplit _ (List.mem_singleton_self _)
    cases hmay with
    | reply hcode => exact absurd hcode (by decide)

end ResourceClient
