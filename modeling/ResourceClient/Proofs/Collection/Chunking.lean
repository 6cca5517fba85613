import Mathlib
import ResourceClient.Collection.Write
import ResourceClient.Proofs.Bulk.Chunks
import ResourceClient.Proofs.Bulk.Fates
import ResourceClient.Proofs.Client.Request

/-! # Chunking is invisible

    The operations on many items have one shape: the wire items are split
    into chunks, every chunk is posted by a request of its own, and the
    answers are joined.  `BulkCall` names the operations with what they
    differ in.

    A run of a call weaves the runs of its requests (`runs_sendChunks`), and
    the results are laid beside the chunks in order, whatever the schedule
    was.  So the split can be told from the requests only: if the server
    answers every request item by item, then the call gives the answers of
    all items in order, for all chunk sizes, bounds on the requests in
    flight and schedules (`chunking_invisible`). -/

namespace ResourceClient

open Dialogue

namespace Collection

/-! ## Sending chunks -/

/-- A run of chunks weaves the runs of their requests and joins their
    results in the order of the chunks. -/
theorem runs_sendChunks {ρ : Type} {c : Collection} (hworkers : 1 ≤ c.client.config.maxWorkers)
    {size : Nat} {items : List Json} {request : List Json → Dialogue (Result (List ρ))}
    {turns : List Turn} {result : Result (List ρ)}
    (h : Runs (c.sendChunks size items request) turns result) :
    ∃ results, Woven ((chunks size items).map request) (exchanges turns) results ∧
      result = ((Summary.ofOutcomes ((chunks size items).zip results)).raise id).map
        (·.joined id) := by
  obtain ⟨outcome, before, after, rfl, hexecute, hrest⟩ := runs_bind_iff.1 h
  obtain ⟨results, hwoven, rfl⟩ := Bulk.runs_execute hworkers hexecute
  obtain ⟨rfl, rfl⟩ := runs_done_iff.1 hrest
  exact ⟨results, by rwa [List.append_nil], rfl⟩

/-- The same for requests whose answers are read afterwards. -/
theorem runs_sendChunks_read {ρ : Type} {c : Collection}
    (hworkers : 1 ≤ c.client.config.maxWorkers) {size : Nat} {items : List Json}
    {request : List Json → Dialogue (Result Http.Response)}
    {read : Result Http.Response → Result (List ρ)} {turns : List Turn} {result : Result (List ρ)}
    (h : Runs (c.sendChunks size items fun chunk => (request chunk).bind fun r => .done (read r))
      turns result) :
    ∃ responses, Woven ((chunks size items).map request) (exchanges turns) responses ∧
      result = ((Summary.ofOutcomes ((chunks size items).zip (responses.map read))).raise id).map
        (·.joined id) := by
  obtain ⟨results, hwoven, rfl⟩ := runs_sendChunks hworkers h
  have htasks :
      (chunks size items).map (fun chunk => (request chunk).bind fun r => .done (read r)) =
      ((chunks size items).map request).map fun d => d.bind fun r => .done (read r) := by
    rw [List.map_map]
    rfl
  rw [htasks] at hwoven
  obtain ⟨responses, hresponses, rfl⟩ := hwoven.of_map
  exact ⟨responses, hresponses, rfl⟩

theorem postForItems_eq (c : Collection) (path : String) (body : Json) :
    c.postForItems path body = (c.client.post path body).bind fun r => .done (r.bind itemsOf) := by
  unfold postForItems
  rw [Dialogue.bind_eq]
  congr 1
  funext r
  cases r <;> rfl

theorem decodeItems_json (items : List Json) : decodeItems .json (.ok items) = .ok items :=
  Decoder.list_json items

/-- Reading plain JSON changes nothing. -/
theorem decodeItems_json_eq (result : Result (List Json)) : decodeItems .json result = result := by
  cases result with
  | ok items => exact decodeItems_json items
  | error e => rfl

/-- What the items are does not count. -/
theorem forgiving_map {ρ υ : Type} (identifiers : IdentifierSequence) (g : List ρ → List υ)
    (hg : g [] = []) (result : Result (List ρ)) :
    forgiving identifiers (result.map g) = (forgiving identifiers result).map g := by
  cases result with
  | ok items => rfl
  | error e =>
    simp only [forgiving, Except.map]
    split
    · exact congrArg Except.ok hg.symm
    · rfl

theorem total_sendChunks {ρ : Type} (c : Collection) (size : Nat) (items : List Json)
    {request : List Json → Dialogue (Result (List ρ))} (h : ∀ chunk, (request chunk).Total) :
    (c.sendChunks size items request).Total := by
  unfold sendChunks
  refine (Bulk.total_execute _ fun chunk _ => h chunk).bind fun outcome => ?_
  cases outcome <;> exact .done _

/-! ## Operations on many items -/

/-- A call of an operation on many items. -/
inductive BulkCall where
  | create (items : List WriteItem) (limit : Option Nat) (extra : Fields)
  | update (items : List UpdateItem) (mode : UpdateMode)
  | retrieve (identifiers : IdentifierSequence) (wrap ignoreUnknown : Bool)
  | delete (identifiers : IdentifierSequence) (wrap : Bool) (extra : Fields)

namespace BulkCall

/-- The wire forms of the inputs, in their order. -/
def wire : BulkCall → Result (List Json)
  | create items _ _ => items.mapM WriteItem.wire
  | update items mode => items.mapM (UpdateItem.wire mode)
  | retrieve identifiers wrap _ | delete identifiers wrap _ => identifiers.wire wrap

/-- How many items a request of the call may carry. -/
def limit (c : Collection) : BulkCall → Nat
  | create _ limit _ => limit.getD c.limits.create
  | update _ _ => c.limits.update
  | retrieve _ _ _ => c.limits.retrieve
  | delete _ _ _ => c.limits.delete

/-- The path that the requests are posted to. -/
def path (c : Collection) : BulkCall → String
  | create _ _ _ => c.path
  | update _ _ => c.endpoint "/update"
  | retrieve _ _ _ => c.endpoint "/byids"
  | delete _ _ _ => c.endpoint "/delete"

/-- The members that the caller adds to the bodies. -/
def extra : BulkCall → Fields
  | create _ _ extra | delete _ _ extra => extra
  | update _ _ | retrieve _ _ _ => .empty

/-- The body of the request for a chunk. -/
def body (chunk : List Json) : BulkCall → Json
  | create _ _ extra | delete _ _ extra => itemsBody chunk extra
  | update _ _ => itemsBody chunk
  | retrieve _ _ ignoreUnknown => identifiersBody chunk ignoreUnknown

/-- The request for a chunk, with its attempts. -/
def request (c : Collection) (call : BulkCall) (chunk : List Json) :
    Dialogue (Result Http.Response) :=
  c.client.post (call.path c) (call.body chunk)

/-- The call, with results read as plain JSON.  Deleting has no results. -/
def run (c : Collection) : BulkCall → Dialogue (Result (List Json))
  | create items limit extra => c.createMultiple .json items limit extra
  | update items mode => c.updateMultiple .json items mode
  | retrieve identifiers wrap ignoreUnknown =>
    c.retrieveMultiple .json identifiers wrap ignoreUnknown
  | delete identifiers wrap extra => do
    return (← c.deleteMultiple identifiers wrap extra).map fun _ => []

/-- Whether the call has results. -/
def hasResults : BulkCall → Bool
  | delete _ _ _ => false
  | _ => true

/-- What a response is to the call: an error, or a success, whose items are
    read if the call has results. -/
def read (call : BulkCall) (response : Result Http.Response) : Result (List Json) :=
  if call.hasResults then response.bind itemsOf else response.map fun _ => []

/-- What is read of the responses for chunks, or the error that stands for
    those of which nothing can be read. -/
def joinedFrom (call : BulkCall) (parts : List (List Json))
    (responses : List (Result Http.Response)) : Result (List Json) :=
  ((Summary.ofOutcomes (parts.zip (responses.map call.read))).raise id).map (·.joined id)

/-- What the call makes of the joined answers. -/
def finish : BulkCall → Result (List Json) → Result (List Json)
  | create _ _ _, joined | update _ _, joined => joined
  | retrieve identifiers _ _, joined => forgiving identifiers joined
  | delete identifiers _ _, joined => (forgiving identifiers joined).map fun _ => []

/-- A chunk is what its request carries. -/
theorem get?_body {call : BulkCall} (hextra : call.extra.get? "items" = none) (chunk : List Json) :
    (call.body chunk).get? "items" = some (.array chunk) := by
  have hitems {extra : Fields} (h : extra.get? "items" = none) :
      (itemsBody chunk extra).get? "items" = some (.array chunk) := by
    rw [itemsBody, Json.get?_ofFields, Fields.get?_insertAll h, Fields.get?_insert_self]
  cases call with
  | create items limit extra => exact hitems hextra
  | update items mode => exact hitems hextra
  | delete identifiers wrap extra => exact hitems hextra
  | retrieve identifiers wrap ignoreUnknown =>
    -- the flag is a member of its own
    apply hitems
    cases ignoreUnknown <;> rfl

/-- Without results nothing is read of the responses. -/
theorem joinedFrom_of_no_results {call : BulkCall} (h : call.hasResults = false)
    (parts : List (List Json)) (responses : List (Result Http.Response)) :
    call.joinedFrom parts responses =
      (((Summary.ofOutcomes (parts.zip (responses.map fun r =>
        r.map fun _ => ([] : List Unit)))).raise id).map (·.joined id)).map
          (List.map fun _ => Json.null) := by
  have hread : call.read = fun r => (r.map fun _ => ([] : List Unit)).map
      (List.map fun _ => Json.null) := by
    funext r
    unfold read
    rw [h]
    cases r <;> rfl
  rw [← raise_joined_map, joinedFrom, hread, List.zip_map_right, List.zip_map_right, List.map_map]
  rfl

/-- A run of a call weaves the runs of the requests for its chunks, and its
    result is made of their responses, in the order of the chunks. -/
theorem runs_run_responses {c : Collection} (hworkers : 1 ≤ c.client.config.maxWorkers)
    {call : BulkCall} {wire : List Json} (hwire : call.wire = .ok wire) {turns : List Turn}
    {result : Result (List Json)} (h : Runs (call.run c) turns result) :
    ∃ responses, Woven ((chunks (call.limit c) wire).map (call.request c)) (exchanges turns)
        responses ∧
      result = call.finish (call.joinedFrom (chunks (call.limit c) wire) responses) := by
  -- results are read from the items of the responses
  have hitems (call : BulkCall) (hresults : call.hasResults = true)
      {finish : Result (List Json) → Result (List Json)}
      (hrun : Runs ((c.sendChunks (call.limit c) wire fun chunk =>
        c.postForItems (call.path c) (call.body chunk)).bind fun found =>
          .done (decodeItems .json (finish found))) turns result) :
      ∃ responses, Woven ((chunks (call.limit c) wire).map (call.request c)) (exchanges turns)
          responses ∧
        result = finish (call.joinedFrom (chunks (call.limit c) wire) responses) := by
    obtain ⟨found, before, after, rfl, hsend, hdone⟩ := runs_bind_iff.1 hrun
    obtain ⟨rfl, rfl⟩ := runs_done_iff.1 hdone
    have hread : call.read = fun response => response.bind itemsOf := by
      funext response
      rw [read, hresults, if_pos rfl]
    simp only [postForItems_eq] at hsend
    obtain ⟨responses, hwoven, rfl⟩ := runs_sendChunks_read hworkers hsend
    rw [List.append_nil, decodeItems_json_eq]
    refine ⟨responses, hwoven, ?_⟩
    rw [joinedFrom, hread]
  cases call with
  | create items limit extra =>
    replace hwire : items.mapM WriteItem.wire = .ok wire := hwire
    simp only [run, createMultiple, hwire] at h
    exact hitems (.create items limit extra) rfl h
  | update items mode =>
    replace hwire : items.mapM (UpdateItem.wire mode) = .ok wire := hwire
    simp only [run, updateMultiple, hwire] at h
    exact hitems (.update items mode) rfl h
  | retrieve identifiers wrap ignoreUnknown =>
    replace hwire : identifiers.wire wrap = .ok wire := hwire
    simp only [run, retrieveMultiple, hwire] at h
    exact hitems (.retrieve identifiers wrap ignoreUnknown) rfl h
  | delete identifiers wrap extra =>
    replace hwire : identifiers.wire wrap = .ok wire := hwire
    simp only [run, deleteMultiple, hwire] at h
    obtain ⟨deleted, before, after, rfl, hdelete, hdone⟩ := runs_bind_iff.1 h
    obtain ⟨rfl, rfl⟩ := runs_done_iff.1 hdone
    obtain ⟨joined, before', after', rfl, hsend, hdone'⟩ := runs_bind_iff.1 hdelete
    obtain ⟨rfl, rfl⟩ := runs_done_iff.1 hdone'
    obtain ⟨responses, hwoven, rfl⟩ := runs_sendChunks_read hworkers hsend
    rw [List.append_nil, List.append_nil]
    refine ⟨responses, hwoven, ?_⟩
    have hforget (deleted : Result (List Unit)) :
        (deleted.map fun _ => ()).map (fun _ => ([] : List Json)) =
          (deleted.map (List.map fun _ => Json.null)).map fun _ => [] := by
      cases deleted <;> rfl
    rw [finish, joinedFrom_of_no_results rfl, forgiving_map _ _ rfl]
    exact hforget _

/-- So a call with results gives the items of all responses, in the order of
    the chunks. -/
theorem runs_run {c : Collection} (hworkers : 1 ≤ c.client.config.maxWorkers) {call : BulkCall}
    {wire : List Json} (hwire : call.wire = .ok wire) {turns : List Turn}
    {result : Result (List Json)} (h : Runs (call.run c) turns result) :
    ∃ responses, Woven ((chunks (call.limit c) wire).map (call.request c)) (exchanges turns)
        responses ∧
      (call.hasResults = true → ∀ lists : List (List Json),
        responses.map (·.bind itemsOf) = lists.map Except.ok → result = .ok lists.flatten) := by
  obtain ⟨responses, hwoven, rfl⟩ := runs_run_responses hworkers hwire h
  refine ⟨responses, hwoven, ?_⟩
  intro hresults lists hlists
  -- there is one list for each chunk
  have hlength : lists.length = (chunks (call.limit c) wire).length := by
    have hresponses := hwoven.1
    rw [List.length_map] at hresponses
    have hmapped := congrArg List.length hlists
    rw [List.length_map, List.length_map] at hmapped
    rw [← hmapped, hresponses]
  have hread : responses.map call.read = lists.map Except.ok := by
    rw [← hlists]
    refine List.map_congr_left fun response _ => ?_
    rw [read, hresults, if_pos rfl]
  rw [joinedFrom, hread, Summary.raise_joined_of_ok id hlength]
  cases call with
  | delete identifiers wrap extra => cases hresults
  | _ => rfl

theorem total_run (c : Collection) (call : BulkCall) : (call.run c).Total := by
  have hpost (path : String) (body : Json) : (c.client.post path body).Total :=
    c.client.total_request _ _ _ _
  have hitems (path : String) (body : Json) : (c.postForItems path body).Total := by
    rw [postForItems_eq]
    exact (hpost path body).bind fun r => .done _
  cases call with
  | create items limit extra =>
    show (c.createMultiple .json items limit extra).Total
    unfold createMultiple
    split
    · exact .done _
    · exact (c.total_sendChunks _ _ fun chunk => hitems _ _).bind fun created => .done _
  | update items mode =>
    show (c.updateMultiple .json items mode).Total
    unfold updateMultiple
    split
    · exact .done _
    · exact (c.total_sendChunks _ _ fun chunk => hitems _ _).bind fun updated => .done _
  | retrieve identifiers wrap ignoreUnknown =>
    show (c.retrieveMultiple .json identifiers wrap ignoreUnknown).Total
    unfold retrieveMultiple
    split
    · exact .done _
    · exact (c.total_sendChunks _ _ fun chunk => hitems _ _).bind fun found => .done _
  | delete identifiers wrap extra =>
    refine Total.bind ?_ fun deleted => .done _
    unfold deleteMultiple
    split
    · exact .done _
    · exact (c.total_sendChunks _ _ fun chunk => (hpost _ _).bind fun r => .done _).bind
        fun deleted => .done _

end BulkCall

/-! ## Servers that answer item by item -/

/-- A request posts items to a path of the project. -/
def PostsItems (c : Collection) (path : String) (sent : Http.Request) (items : List Json) :
    Prop :=
  sent.method = .post ∧ sent.url = c.client.config.projectUrl ++ path ∧
    ∃ body, sent.body = some body ∧ body.get? "items" = some (.array items)

/-- A world in which a server answers every request that posts items to a
    path, in every state, with a function of each item. -/
structure AnswersEach {ω : Type} (w : World ω) (c : Collection) (path : String)
    (f : Json → Json) : Prop where
  reachable : Client.IsReachable (c.client.config.projectUrl ++ path)
  answers : ∀ (sent : Outgoing) (x : ω) (items : List Json),
    c.PostsItems path sent.request items →
      Client.IsAnswer (fun response => itemsOf response = .ok (items.map f)) (w.serve sent x).1

namespace BulkCall

theorem postsItems_of_isSentFor {c : Collection} {call : BulkCall}
    (hextra : call.extra.get? "items" = none) {chunk : List Json} {sent : Outgoing}
    (h : Client.IsSentFor
      (c.client.requestFor .post (call.path c) [] (some (call.body chunk))) sent) :
    c.PostsItems (call.path c) sent.request chunk := by
  obtain ⟨headers, hrequest⟩ := h
  rw [hrequest]
  exact ⟨rfl, rfl, _, rfl, get?_body hextra chunk⟩

/-- The request for a chunk carries the chunk whenever it is sent, and is
    sent at least once if it can be sent at all. -/
theorem runs_request {c : Collection} {call : BulkCall}
    (hextra : call.extra.get? "items" = none) {chunk : List Json} {turns : List Turn}
    {response : Result Http.Response} (h : Runs (call.request c chunk) turns response) :
    (∀ e ∈ exchanges turns, c.PostsItems (call.path c) e.1.request chunk) ∧
      (Client.IsReachable (c.client.config.projectUrl ++ call.path c) → exchanges turns ≠ []) := by
  constructor
  · intro e he
    exact postsItems_of_isSentFor hextra (Client.isSentFor_of_mem_exchanges h he)
  · intro hreach
    obtain ⟨sent, hsent, -⟩ := Client.prepare_of_isReachable c.client.config
      (r := c.client.requestFor .post (call.path c) [] (some (call.body chunk))) hreach
    obtain ⟨before, reply, hexchanges, -⟩ := Client.runs_request hsent h
    rw [hexchanges]
    simp

/-- The requests of a call to a server that answers item by item come to the
    answers of their chunks. -/
theorem responses_of_answersEach {ω α : Type} {w : World ω} {c : Collection} {call : BulkCall}
    (hextra : call.extra.get? "items" = none) {f : Json → Json}
    (hserver : AnswersEach w c (call.path c) f) {parts : List (List Json)} {d : Dialogue α} {x : ω}
    {responses : List (Result Http.Response)}
    (h : Woven (parts.map (call.request c)) (exchanges (turns w d x)) responses) :
    responses.map (·.bind itemsOf) = (parts.map (List.map f)).map Except.ok := by
  obtain ⟨hlength, labels, hlabels, -, hrequests⟩ := h
  rw [List.length_map] at hlength
  apply List.ext_getElem (by simp [hlength])
  intro i hi hi'
  have hpart : i < parts.length := by simpa using hi'
  obtain ⟨turnsᵢ, response, hresponse, hruns, hexchanges⟩ :=
    hrequests i (call.request c parts[i]) (by simp [hpart])
  -- the exchanges of this request are among those of the run, which the server answers
  have hanswer : ∀ sent reply, (sent, reply) ∈ exchanges turnsᵢ →
      Client.IsSentFor
          (c.client.requestFor .post (call.path c) [] (some (call.body parts[i]))) sent →
      Client.IsAnswer (fun r => itemsOf r = .ok (parts[i].map f)) reply := by
    intro sent reply hmem hfor
    rw [hexchanges] at hmem
    obtain ⟨l, hl, heq⟩ := List.mem_map.1 hmem
    have hserved : (sent, reply) ∈ exchanges (turns w d x) := by
      rw [← hlabels, ← heq]
      exact List.mem_map_of_mem (List.mem_of_mem_filter hl)
    obtain ⟨x₁, x₂, hserve⟩ := exists_serve_of_mem_exchanges hserved
    have hreply := hserver.answers sent x₁ parts[i] (postsItems_of_isSentFor hextra hfor)
    rwa [hserve] at hreply
  obtain ⟨r, rfl, hitems⟩ := Client.runs_request_of_isAnswer hserver.reachable hruns hanswer
  have hi'' : i < responses.length := by omega
  rw [List.getElem?_eq_getElem hi'', Option.some.injEq] at hresponse
  simp only [List.getElem_map, hresponse]
  exact hitems

end BulkCall

/-- **Chunking is invisible.**  A call whose inputs have wire forms makes one
    request for each of as many chunks as needed.  All chunks but the last
    are full, and together they hold the wire forms in input order.  Every
    run weaves the runs of these requests, each of which carries its chunk
    whenever it is sent.  If the server answers item by item, then the call
    gives the answers of all items in input order, in every world. -/
theorem chunking_invisible {c : Collection} (hworkers : 1 ≤ c.client.config.maxWorkers)
    {call : BulkCall} {wire : List Json} (hwire : call.wire = .ok wire)
    (hextra : call.extra.get? "items" = none) :
    ∃ parts : List (List Json),
      (parts.length = (wire.length + max (call.limit c) 1 - 1) / max (call.limit c) 1 ∧
        (∀ i chunk, parts[i]? = some chunk →
          1 ≤ chunk.length ∧ chunk.length ≤ max (call.limit c) 1 ∧
            (i + 1 < parts.length → chunk.length = max (call.limit c) 1)) ∧
        parts.flatten = wire ∧
        ∀ chunk, (call.body chunk).get? "items" = some (.array chunk)) ∧
      (∀ turns result, Runs (call.run c) turns result →
        ∃ responses, Woven (parts.map (call.request c)) (exchanges turns) responses) ∧
      (∀ chunk turns response, Runs (call.request c chunk) turns response →
        (∀ e ∈ exchanges turns, c.PostsItems (call.path c) e.1.request chunk) ∧
          (Client.IsReachable (c.client.config.projectUrl ++ call.path c) →
            exchanges turns ≠ [])) ∧
      (call.hasResults = true →
        ∀ {ω : Type} (w : World ω) (f : Json → Json), AnswersEach w c (call.path c) f →
          ∀ x, ∃ x', (call.run c).run w x = some (.ok (wire.map f), x')) := by
  have hsize : 0 < max (call.limit c) 1 := by omega
  have hflatten : (chunks (call.limit c) wire).flatten = wire := flatten_chunks _ _
  refine ⟨chunks (call.limit c) wire, ⟨?_, ?_, hflatten, BulkCall.get?_body hextra⟩, ?_, ?_, ?_⟩
  · -- as many chunks as needed
    rw [← chunks_max_one]
    exact length_chunks hsize wire
  · -- all but the last are full
    intro i chunk hchunk
    rw [← chunks_max_one] at hchunk ⊢
    exact length_getElem?_chunks hsize hchunk
  · -- one request for each of them
    intro turns result hruns
    obtain ⟨responses, hwoven, -⟩ := BulkCall.runs_run hworkers hwire hruns
    exact ⟨responses, hwoven⟩
  · -- which carries it
    intro chunk turns response hruns
    exact BulkCall.runs_request hextra hruns
  · -- the answers are joined in the order of the chunks
    intro hresults ω w f hserver x
    obtain ⟨result, x', hrun⟩ := run_of_total w (BulkCall.total_run c call) x
    obtain ⟨responses, hwoven, hjoined⟩ := BulkCall.runs_run hworkers hwire (runs_of_run hrun)
    have hresponses := BulkCall.responses_of_answersEach hextra hserver hwoven
    rw [hjoined hresults _ hresponses, ← List.map_flatten, hflatten] at hrun
    exact ⟨x', hrun⟩

/-- The name of an item. -/
def nameOf (v : Json) : Json :=
  match v.get? "name" with
  | some (.string s) => .string s
  | _ => .null

/-- A server that answers with the names of the items, and of the tasks that
    run side by side the last one moves first. -/
def namesWorld : World Unit where
  serve sent x :=
    match sent.request.body.bind (·.get? "items") with
    | some (.array items) =>
      (.response (Client.jsonReply (.object [("items", .array (items.map nameOf))])), x)
    | _ => (.lost, x)
  pick others x := (Fin.last others, x)

theorem answersEach_namesWorld {c : Collection} {path : String}
    (hreach : Client.IsReachable (c.client.config.projectUrl ++ path)) :
    AnswersEach namesWorld c path nameOf where
  reachable := hreach
  answers sent x items hposts := by
    obtain ⟨-, -, body, hbody, hitems⟩ := hposts
    have hnames : ∀ v ∈ items.map nameOf, Json.Plain 125 v := by
      intro v hv
      obtain ⟨item, -, rfl⟩ := List.mem_map.1 hv
      unfold nameOf
      split <;> trivial
    have hplain : Json.Plain Json.maxDepth (.object [("items", .array (items.map nameOf))]) :=
      ⟨List.pairwise_singleton _ _, Json.plainItems_iff.2 hnames, trivial⟩
    refine ⟨Client.jsonReply (.object [("items", .array (items.map nameOf))]), ?_, rfl, ?_⟩
    · simp only [namesWorld, hbody, Option.bind_some, hitems]
    · show itemsOf _ = _
      unfold itemsOf
      rw [Client.json_jsonReply hplain]
      rfl

/-- Three items in chunks of two, the second chunk first. -/
theorem create_three_by_two :
    let c : Collection := { client := .plain, path := "/assets" }
    let named : String → Fields := fun name => .ofList [("name", .string name)]
    let call : BulkCall :=
      .create (["a", "b", "c"].map fun name => .raw (named name)) (some 2) .empty
    1 ≤ c.client.config.maxWorkers ∧
      call.wire = .ok (["a", "b", "c"].map fun name => .ofFields (named name)) ∧
      call.extra.get? "items" = none ∧
      ∃ x', (call.run c).run namesWorld () =
        some (.ok [.string "a", .string "b", .string "c"], x') := by
  intro c named call
  have hwire : call.wire = .ok (["a", "b", "c"].map fun name => .ofFields (named name)) := rfl
  have hreach : Client.IsReachable (c.client.config.projectUrl ++ call.path c) := by
    decide +kernel
  obtain ⟨parts, -, -, -, hanswers⟩ := chunking_invisible (c := c) (by decide) hwire rfl
  have hrun := hanswers rfl namesWorld nameOf (answersEach_namesWorld hreach) ()
  exact ⟨by decide, hwire, rfl, hrun⟩

end Collection

end ResourceClient
