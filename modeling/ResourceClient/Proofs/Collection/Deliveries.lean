import Mathlib
import ResourceClient.Proofs.Bulk.Fates
import ResourceClient.Proofs.Client.History
import ResourceClient.Proofs.Collection.Chunking

/-! # What the requests of a call come to

    A call on many items makes one request for each chunk.  A `Delivery` is
    what became of one of them: its chunk, its exchanges with the server,
    and the outcome of its last attempt.  `BulkCall.runs_deliveries` reads a
    run of a call as a list of deliveries, one for each chunk and in the
    order of the chunks, whose exchanges are woven into those of the run.

    The result of the call depends on the last outcomes only.  Each of them
    is an answer to the call and gives its chunk a fate (`BulkCall.fateOf`),
    and the result is made of the joined answers (`BulkCall.runs_run_joined`).
    So it reports the fates of the chunks. -/

namespace ResourceClient

open Dialogue

/-! ## What a last outcome says of its chunk -/

namespace Collection

/-- The response has a JSON body with a list of items. -/
def carriesItems (r : Http.Response) : Bool :=
  match r.json with
  | .ok body => ((body.get? "items").bind Json.array?).isSome
  | .error _ => false

/-- Items are read exactly from a response that carries some, and whatever is
    wrong with another one, it is no answer of the server. -/
theorem itemsOf_cases (r : Http.Response) :
    (carriesItems r = true ∧ ∃ items, itemsOf r = .ok items) ∨
      carriesItems r = false ∧
        ∃ e message, itemsOf r = .error e ∧ e.kind = .serialization message := by
  unfold carriesItems itemsOf
  cases hjson : r.json with
  | error e =>
    unfold Http.Response.json at hjson
    split at hjson
    · cases hjson
    · cases hjson
      exact Or.inr ⟨rfl, _, _, rfl, rfl⟩
  | ok body =>
    simp only [Bind.bind, Except.bind]
    cases hitems : (body.get? "items").bind Json.array? with
    | none => exact Or.inr ⟨rfl, _, _, rfl, rfl⟩
    | some items => exact Or.inl ⟨rfl, items, rfl⟩

namespace BulkCall

/-- What the outcome of the last attempt says of the chunk: a reply is a
    success, which has to carry items if the call has results, or a
    rejection, or a failure of the server; without a reply nothing is
    known. -/
def fateOf (call : BulkCall) : Attempt → Fate
  | .ok r =>
    if r.isSuccess then
      if call.hasResults && !carriesItems r then .unknown else .successful
    else if r.status < 500 then .failed
    else .unknown
  | .error _ => .unknown

/-- Whether the call may take missing items for an empty result: it names
    exactly one. -/
def mayForgive : BulkCall → Bool
  | create _ _ _ | update _ _ => false
  | retrieve identifiers _ _ | delete identifiers _ _ => identifiers.isSingleton

/-- The request for a chunk, with the outcome of its last attempt. -/
def attempts (c : Collection) (call : BulkCall) (chunk : List Json) : Dialogue Attempt :=
  c.client.execute (c.client.requestFor .post (call.path c) [] (some (call.body chunk)))
    (Http.mayReplay .post (call.path c))

theorem request_eq (c : Collection) (call : BulkCall) (chunk : List Json) :
    call.request c chunk = (call.attempts c chunk).bind fun o => .done (Client.successful o) := rfl

end BulkCall

end Collection

/-- The last attempt of a request never fails with an answer of the server:
    answers are outcomes. -/
theorem Client.History.kind_ne_api {c : Client} {r : Http.Request} {replayable : Bool}
    {sent : List (Outgoing × Http.Reply)} {e : Error}
    (h : c.History r replayable sent (.error e)) (a : ApiError) : e.kind ≠ .api a := by
  generalize houtcome : (Except.error e : Attempt) = outcome at h
  cases h with
  | unsent hprepare =>
    obtain rfl := Except.error.inj houtcome
    obtain ⟨message, hkind⟩ := Client.kind_of_prepare_eq_error hprepare
    rw [hkind]
    exact ErrorKind.noConfusion
  | @sent _ _ last _ _ =>
    cases last <;> cases houtcome <;> exact ErrorKind.noConfusion

namespace Collection

/-! ## Deliveries -/

/-- What became of the request for a chunk. -/
structure Delivery where
  /-- The items of the chunk. -/
  items : List Json
  /-- The exchanges of the request, in order. -/
  sent : List (Outgoing × Http.Reply)
  /-- What the last attempt ended in. -/
  final : Attempt

namespace BulkCall

/-- A delivery of the call: its exchanges and its last outcome are a history
    of the request for its chunk. -/
def IsDelivery (c : Collection) (call : BulkCall) (d : Delivery) : Prop :=
  c.client.History (c.client.requestFor .post (call.path c) [] (some (call.body d.items)))
    (Http.mayReplay .post (call.path c)) d.sent d.final

/-- The exchanges of a run are the deliveries of these chunks, woven into each
    other. -/
structure Delivers (c : Collection) (call : BulkCall) (parts : List (List Json))
    (sent : List (Outgoing × Http.Reply)) (deliveries : List Delivery) : Prop where
  items_eq : deliveries.map (·.items) = parts
  interleaves : Interleaves (deliveries.map (·.sent)) sent
  isDelivery : ∀ d ∈ deliveries, call.IsDelivery c d

/-- The fates of chunks, as their last outcomes tell them. -/
def fates (call : BulkCall) (deliveries : List Delivery) : List (List Json × Fate) :=
  deliveries.map fun d => (d.items, call.fateOf d.final)

/-- What the last outcome of a request is to the call. -/
def answer (call : BulkCall) (final : Attempt) : Result (List Json) :=
  call.read (Client.successful final)

/-- The requests for the chunks, summed up. -/
def summary (call : BulkCall) (deliveries : List Delivery) : Summary (List Json) (List Json) :=
  .ofOutcomes (deliveries.map fun d => (d.items, call.answer d.final))

/-- The answers of the chunks, or the error that stands for those that have
    none. -/
def joined (call : BulkCall) (deliveries : List Delivery) : Result (List Json) :=
  ((call.summary deliveries).raise id).map (·.joined id)

/-- The fate that a summary gives to a chunk is the one that its last outcome
    tells. -/
theorem ofResult_answer {call : BulkCall} {final : Attempt}
    (hkind : ∀ e, final = .error e → ∀ a, e.kind ≠ .api a) :
    Fate.ofResult (call.answer final) = call.fateOf final := by
  unfold answer read
  cases final with
  | error e => cases call.hasResults <;> exact Fate.ofResult_error (hkind e rfl)
  | ok r =>
    simp only [fateOf, Client.successful]
    by_cases hsuccess : r.isSuccess = true
    · cases call.hasResults with
      | false => simp only [hsuccess]; rfl
      | true =>
        -- the items have to be read
        simp only [hsuccess, if_true, Except.bind, Bool.true_and]
        rcases itemsOf_cases r with ⟨hcarries, items, hitems⟩ | ⟨hcarries, e, message, he, hmessage⟩
        · rw [hitems, hcarries]
          rfl
        · rw [he, hcarries]
          refine Fate.ofResult_error fun a => ?_
          rw [hmessage]
          exact ErrorKind.noConfusion
    · cases call.hasResults <;>
        · simp only [hsuccess]
          exact Fate.ofResult_error_response r

/-! ## The deliveries of a run -/

/-- A run of chunks is a list of deliveries, and its results are read off
    their last outcomes. -/
theorem deliveries_of_woven {c : Collection} {call : BulkCall} {parts : List (List Json)}
    {sent : List (Outgoing × Http.Reply)} {responses : List (Result Http.Response)}
    (h : Woven (parts.map (call.request c)) sent responses) :
    ∃ deliveries, call.Delivers c parts sent deliveries ∧
      responses = deliveries.map fun d => Client.successful d.final := by
  have hdescribed : ∀ chunk ∈ parts, ∀ turns response, Runs (call.request c chunk) turns response →
      ∃ d : Delivery, (d.items = chunk ∧ call.IsDelivery c d) ∧ exchanges turns = d.sent ∧
        response = Client.successful d.final := by
    intro chunk _ turns response hruns
    rw [request_eq] at hruns
    obtain ⟨final, before, after, rfl, hattempts, hdone⟩ := runs_bind_iff.1 hruns
    obtain ⟨rfl, rfl⟩ := runs_done_iff.1 hdone
    refine ⟨⟨chunk, exchanges before, final⟩, ⟨rfl, ?_⟩, by rw [List.append_nil], rfl⟩
    exact Client.history_of_runs hattempts
  obtain ⟨deliveries, hdeliveries, hinterleaves, rfl⟩ := h.exists_described hdescribed
  have hitems : List.Forall₂ (fun chunk d => d.items = chunk) parts deliveries :=
    hdeliveries.imp fun chunk d hd => hd.1
  refine ⟨deliveries, ⟨?_, hinterleaves, ?_⟩, rfl⟩
  · rw [← List.forall₂_eq_eq_eq, List.forall₂_map_left_iff]
    exact hitems.flip
  · intro d hd
    obtain ⟨chunk, -, hdelivery⟩ := exists_mem_of_forall₂ hdeliveries hd
    exact hdelivery.2

theorem final_ne_api {c : Collection} {call : BulkCall} {d : Delivery}
    (h : call.IsDelivery c d) (e : Error) (he : d.final = .error e) (a : ApiError) :
    e.kind ≠ .api a := by
  unfold IsDelivery at h
  rw [he] at h
  exact h.kind_ne_api a

/-- The request for a chunk carries it whenever it is sent. -/
theorem IsDelivery.postsItems {c : Collection} {call : BulkCall} {d : Delivery}
    (h : call.IsDelivery c d) (hextra : call.extra.get? "items" = none) :
    ∀ e ∈ d.sent, c.PostsItems (call.path c) e.1.request d.items :=
  fun e he => postsItems_of_isSentFor hextra (h.isSentFor e he)

/-- It is sent, if the URL of the requests can be used. -/
theorem IsDelivery.sent_ne_nil {c : Collection} {call : BulkCall} {d : Delivery}
    (h : call.IsDelivery c d)
    (hreach : Client.IsReachable (c.client.config.projectUrl ++ call.path c)) : d.sent ≠ [] := by
  unfold IsDelivery at h
  obtain ⟨request, reply, later, hsent, -⟩ := h.exists_cons hreach
  rw [hsent]
  exact List.cons_ne_nil _ _

/-- So each chunk is sent. -/
theorem Delivers.exists_exchange {c : Collection} {call : BulkCall} {parts : List (List Json)}
    {sent : List (Outgoing × Http.Reply)} {deliveries : List Delivery}
    (h : call.Delivers c parts sent deliveries)
    (hreach : Client.IsReachable (c.client.config.projectUrl ++ call.path c)) {d : Delivery}
    (hd : d ∈ deliveries) :
    ∃ e ∈ sent, Client.IsSentFor
      (c.client.requestFor .post (call.path c) [] (some (call.body d.items))) e.1 := by
  have hdelivery := h.isDelivery d hd
  obtain ⟨e, he⟩ := List.exists_mem_of_ne_nil _ (hdelivery.sent_ne_nil hreach)
  exact ⟨e, h.interleaves.mem (List.mem_map_of_mem hd) he, Client.History.isSentFor hdelivery e he⟩

/-- Together the deliveries carry what was split into chunks. -/
theorem Delivers.flatMap_items {c : Collection} {call : BulkCall} {size : Nat} {wire : List Json}
    {sent : List (Outgoing × Http.Reply)} {deliveries : List Delivery}
    (h : call.Delivers c (chunks size wire) sent deliveries) :
    deliveries.flatMap (·.items) = wire := by
  rw [List.flatMap_def, h.items_eq, flatten_chunks]

/-- The joined answers report the fates of the chunks. -/
theorem reported_joined {c : Collection} {call : BulkCall} {deliveries : List Delivery}
    (h : ∀ d ∈ deliveries, call.IsDelivery c d) :
    Reported (call.joined deliveries) (call.fates deliveries) := by
  have hfates : fatesOf (deliveries.map fun d => (d.items, call.answer d.final)) =
      call.fates deliveries := by
    rw [fatesOf, List.map_map, fates]
    refine List.map_congr_left fun d hd => ?_
    rw [Function.comp_apply, ofResult_answer (final_ne_api (h d hd))]
  rw [← hfates]
  exact (reported_raise _).map _

/-- A result that is not forgiven is as it was. -/
theorem forgiving_of_not_singleton {ρ : Type} {identifiers : IdentifierSequence}
    (h : identifiers.isSingleton = false) (result : Result (List ρ)) :
    forgiving identifiers result = result := by
  cases result with
  | ok items => rfl
  | error e => simp [forgiving, h]

/-- An error that is left after forgiving was there before. -/
theorem reportsOnError_forgiving {ρ : Type} {fates : List (List Json × Fate)}
    {result : Result (List ρ)} (h : ReportsOnError result fates)
    (identifiers : IdentifierSequence) : ReportsOnError (forgiving identifiers result) fates := by
  intro e he
  cases result with
  | ok items => cases he
  | error e' =>
    unfold forgiving at he
    dsimp only at he
    split at he
    · cases he
    · exact h e he

/-- A call reports with an error what the joined answers report. -/
theorem reportsOnError_finish {fates : List (List Json × Fate)} {joined : Result (List Json)}
    (h : ReportsOnError joined fates) (call : BulkCall) :
    ReportsOnError (call.finish joined) fates := by
  cases call with
  | create items limit extra => exact h
  | update items mode => exact h
  | retrieve identifiers wrap ignoreUnknown => exact reportsOnError_forgiving h identifiers
  | delete identifiers wrap extra => exact (reportsOnError_forgiving h identifiers).map _

theorem reported_finish {fates : List (List Json × Fate)} {joined : Result (List Json)}
    (h : Reported joined fates) {call : BulkCall} (hforgives : call.mayForgive = false) :
    Reported (call.finish joined) fates := by
  cases call with
  | create items limit extra => exact h
  | update items mode => exact h
  | retrieve identifiers wrap ignoreUnknown =>
    rw [finish, forgiving_of_not_singleton hforgives]
    exact h
  | delete identifiers wrap extra =>
    rw [finish, forgiving_of_not_singleton hforgives]
    exact h.map _

/-- The joined answers are made of the responses of the deliveries. -/
theorem Delivers.joinedFrom_eq {c : Collection} {call : BulkCall} {parts : List (List Json)}
    {sent : List (Outgoing × Http.Reply)} {deliveries : List Delivery}
    (h : call.Delivers c parts sent deliveries) :
    call.joinedFrom parts (deliveries.map fun d => Client.successful d.final) =
      call.joined deliveries := by
  rw [joinedFrom, ← h.items_eq, List.map_map, List.zip_map']
  rfl

/-- A run of a call whose inputs have wire forms is a list of deliveries, one
    for each chunk, and its result is made of their last outcomes. -/
theorem runs_run_joined {c : Collection} (hworkers : 1 ≤ c.client.config.maxWorkers)
    {call : BulkCall} {wire : List Json} (hwire : call.wire = .ok wire) {turns : List Turn}
    {result : Result (List Json)} (h : Runs (call.run c) turns result) :
    ∃ deliveries, call.Delivers c (chunks (call.limit c) wire) (exchanges turns) deliveries ∧
      result = call.finish (call.joined deliveries) := by
  obtain ⟨responses, hwoven, rfl⟩ := runs_run_responses hworkers hwire h
  obtain ⟨deliveries, hdelivers, rfl⟩ := deliveries_of_woven hwoven
  exact ⟨deliveries, hdelivers, by rw [hdelivers.joinedFrom_eq]⟩

/-- A run of a call whose inputs have wire forms is a list of deliveries, one
    for each chunk, and its result reports their fates. -/
theorem runs_deliveries {c : Collection} (hworkers : 1 ≤ c.client.config.maxWorkers)
    {call : BulkCall} {wire : List Json} (hwire : call.wire = .ok wire) {turns : List Turn}
    {result : Result (List Json)} (h : Runs (call.run c) turns result) :
    ∃ deliveries, call.Delivers c (chunks (call.limit c) wire) (exchanges turns) deliveries ∧
      ReportsOnError result (call.fates deliveries) ∧
      (call.mayForgive = false → Reported result (call.fates deliveries)) := by
  obtain ⟨deliveries, hdelivers, rfl⟩ := runs_run_joined hworkers hwire h
  have hreported := reported_joined hdelivers.isDelivery
  exact ⟨deliveries, hdelivers, reportsOnError_finish hreported.2 call, reported_finish hreported⟩

/-! ## Calls that make no requests -/

/-- The chunks that a call makes requests for.  There are none if an input has
    no wire form, or if there are no workers. -/
def parts (c : Collection) (call : BulkCall) : List (List Json) :=
  match call.wire with
  | .ok wire => if c.client.config.maxWorkers = 0 then [] else chunks (call.limit c) wire
  | .error _ => []

theorem parts_eq {c : Collection} (hworkers : 1 ≤ c.client.config.maxWorkers) {call : BulkCall}
    {wire : List Json} (hwire : call.wire = .ok wire) :
    call.parts c = chunks (call.limit c) wire := by
  unfold parts
  simp only [hwire, if_neg (Nat.one_le_iff_ne_zero.1 hworkers)]

/-- A call with an input that has no wire form fails with what is wrong with
    the input. -/
theorem run_of_wire_eq_error (c : Collection) {call : BulkCall} {e : Error}
    (hwire : call.wire = .error e) : call.run c = .done (.error e) := by
  cases call with
  | create items limit extra =>
    replace hwire : items.mapM WriteItem.wire = .error e := hwire
    simp only [run, createMultiple, hwire]
  | update items mode =>
    replace hwire : items.mapM (UpdateItem.wire mode) = .error e := hwire
    simp only [run, updateMultiple, hwire]
  | retrieve identifiers wrap ignoreUnknown =>
    replace hwire : identifiers.wire wrap = .error e := hwire
    simp only [run, retrieveMultiple, hwire]
  | delete identifiers wrap extra =>
    replace hwire : identifiers.wire wrap = .error e := hwire
    simp only [run, deleteMultiple, hwire]
    rfl

/-- Without workers a call fails before any request. -/
theorem run_of_no_workers {c : Collection} (hworkers : c.client.config.maxWorkers = 0)
    {call : BulkCall} {wire : List Json} (hwire : call.wire = .ok wire) :
    call.run c = .done (.error Bulk.noWorkers) := by
  have hsend {ρ : Type} (size : Nat) (items : List Json)
      (request : List Json → Dialogue (Result (List ρ))) :
      c.sendChunks size items request = .done (.error Bulk.noWorkers) := by
    unfold sendChunks Bulk.execute
    rw [if_pos hworkers]
    rfl
  cases call with
  | create items limit extra =>
    replace hwire : items.mapM WriteItem.wire = .ok wire := hwire
    simp only [run, createMultiple, hwire, hsend]
    rfl
  | update items mode =>
    replace hwire : items.mapM (UpdateItem.wire mode) = .ok wire := hwire
    simp only [run, updateMultiple, hwire, hsend]
    rfl
  | retrieve identifiers wrap ignoreUnknown =>
    replace hwire : identifiers.wire wrap = .ok wire := hwire
    simp only [run, retrieveMultiple, hwire, hsend]
    rfl
  | delete identifiers wrap extra =>
    replace hwire : identifiers.wire wrap = .ok wire := hwire
    simp only [run, deleteMultiple, hwire, hsend]
    rfl

/-- A call fails before its first request, or it weaves the requests for its
    chunks, and what it comes to is made of their responses. -/
theorem runs_cases_responses {c : Collection} {call : BulkCall} {turns : List Turn}
    {result : Result (List Json)} (h : Runs (call.run c) turns result) :
    (turns = [] ∧ call.parts c = [] ∧
        ∃ e, result = .error e ∧ (call.wire = .error e ∨ e = Bulk.noWorkers)) ∨
      ∃ wire responses, call.wire = .ok wire ∧ call.parts c = chunks (call.limit c) wire ∧
        Woven ((call.parts c).map (call.request c)) (exchanges turns) responses ∧
        result = call.finish (call.joinedFrom (call.parts c) responses) := by
  cases hwire : call.wire with
  | error e =>
    rw [run_of_wire_eq_error c hwire] at h
    obtain ⟨rfl, rfl⟩ := runs_done_iff.1 h
    exact Or.inl ⟨rfl, by simp [parts, hwire], e, rfl, Or.inl rfl⟩
  | ok wire =>
    by_cases hworkers : c.client.config.maxWorkers = 0
    · rw [run_of_no_workers hworkers hwire] at h
      obtain ⟨rfl, rfl⟩ := runs_done_iff.1 h
      exact Or.inl ⟨rfl, by simp [parts, hwire, hworkers], _, rfl, Or.inr rfl⟩
    · have hpos : 1 ≤ c.client.config.maxWorkers := Nat.one_le_iff_ne_zero.2 hworkers
      have hparts := parts_eq hpos hwire
      obtain ⟨responses, hwoven, hresult⟩ := runs_run_responses hpos hwire h
      rw [← hparts] at hwoven hresult
      exact Or.inr ⟨wire, responses, rfl, hparts, hwoven, hresult⟩

/-- Every run of a call weaves the requests for its chunks. -/
theorem exists_woven {c : Collection} {call : BulkCall} {turns : List Turn}
    {result : Result (List Json)} (h : Runs (call.run c) turns result) :
    ∃ responses, Woven ((call.parts c).map (call.request c)) (exchanges turns) responses := by
  rcases runs_cases_responses h with ⟨rfl, hparts, -⟩ | ⟨-, responses, -, -, hwoven, -⟩
  · rw [hparts]
    exact ⟨[], woven_nil⟩
  · exact ⟨responses, hwoven⟩

/-- A call fails before its first request, or what it comes to is made of what
    its requests come to. -/
theorem runs_cases {c : Collection} {call : BulkCall} {turns : List Turn}
    {result : Result (List Json)} (h : Runs (call.run c) turns result) :
    (turns = [] ∧ call.parts c = [] ∧
        ∃ e, result = .error e ∧ (call.wire = .error e ∨ e = Bulk.noWorkers)) ∨
      ∃ wire deliveries, call.wire = .ok wire ∧ call.parts c = chunks (call.limit c) wire ∧
        call.Delivers c (call.parts c) (exchanges turns) deliveries ∧
        result = call.finish (call.joined deliveries) := by
  refine (runs_cases_responses h).imp_right ?_
  rintro ⟨wire, responses, hwire, hparts, hwoven, rfl⟩
  obtain ⟨deliveries, hdelivers, rfl⟩ := deliveries_of_woven hwoven
  exact ⟨wire, deliveries, hwire, hparts, hdelivers, by rw [hdelivers.joinedFrom_eq]⟩

/-- Every run of a call is a list of deliveries. -/
theorem exists_delivers {c : Collection} {call : BulkCall} {turns : List Turn}
    {result : Result (List Json)} (h : Runs (call.run c) turns result) :
    ∃ deliveries, call.Delivers c (call.parts c) (exchanges turns) deliveries := by
  obtain ⟨responses, hwoven⟩ := exists_woven h
  obtain ⟨deliveries, hdelivers, -⟩ := deliveries_of_woven hwoven
  exact ⟨deliveries, hdelivers⟩

end BulkCall

end Collection

end ResourceClient
