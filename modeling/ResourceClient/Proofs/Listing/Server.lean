import Mathlib
import ResourceClient.Listing.Pages
import ResourceClient.Proofs.Client.Request

/-! # Servers that hold a list

    A server holds a list of items and hands them out page by page: a page
    is some consecutive items from where the cursor points, as many as it
    likes within the limit, and comes with a cursor for what follows
    (`IsPageAt`, `Serves`).  What a page request asks for is read off the
    request as it is sent (`AsksForPage`), so that the server knows no more
    of the client than that.

    There are such servers (`serves_oneByOne`, `ends_oneByOne`). -/

namespace ResourceClient

open Dialogue

/-! ## What a page request asks for -/

namespace ListRequest

/-- The limit and the cursor that the parameters of a query name. -/
def pageOfQuery (parameters : List (String × String)) : Option (Nat × Option String) :=
  match (parameters.lookup "limit").bind String.toNat? with
  | some limit => some (limit, parameters.lookup "cursor")
  | none => none

/-- The limit and the cursor that a body names. -/
def pageOfBody (body : Json) : Option (Nat × Option String) :=
  match body.get? "limit", body.get? "cursor" with
  | some (.int limit), some .null => some (limit.toNat, none)
  | some (.int limit), some (.string cursor) => some (limit.toNat, some cursor)
  | _, _ => none

/-- The parameters of the filter, with which a query begins. -/
def filterQuery (r : ListRequest) : List (String × String) :=
  r.filter.entries.map fun e => (e.1, e.2.queryText)

theorem pageOfQuery_query (r : ListRequest) (limit : Nat) (cursor : Option String) :
    ∃ parameters, r.query limit cursor = r.filterQuery ++ parameters ∧
      parameters.lookup "partition" = r.partitionLabel ∧
      pageOfQuery parameters = some (limit, cursor) := by
  refine ⟨("limit", toString limit) :: (cursor.map fun c => ("cursor", c)).toList
    ++ (r.partitionLabel.map fun p => ("partition", p)).toList, ?_, ?_, ?_⟩
  · simp [query, filterQuery]
  · cases cursor <;> cases r.partitionLabel <;> simp [List.lookup_cons]
  · cases cursor <;> cases r.partitionLabel <;> simp [pageOfQuery, List.lookup_cons]

/-- What is under a key of a body. -/
theorem get?_body (r : ListRequest) (limit : Nat) (cursor : Option String) (key : String) :
    (r.body limit cursor).get? key =
      if key = "partition" ∧ r.partitionLabel.isSome then r.partitionLabel.map .string
      else if key = "cursor" then some ((cursor.map Json.string).getD .null)
      else if key = "limit" then some (.int limit)
      else if key = "filter" then some (.ofFields r.filter) else none := by
  unfold body
  cases r.partitionLabel <;>
    simp [Fields.ofList, Fields.insertAll, Json.get?_ofFields, Fields.get?_insert]

theorem get?_body_limit (r : ListRequest) (limit : Nat) (cursor : Option String) :
    (r.body limit cursor).get? "limit" = some (.int limit) := by
  rw [get?_body]
  rfl

theorem get?_body_cursor (r : ListRequest) (limit : Nat) (cursor : Option String) :
    (r.body limit cursor).get? "cursor" = some ((cursor.map Json.string).getD .null) := by
  rw [get?_body]
  rfl

theorem get?_body_partition (r : ListRequest) (limit : Nat) (cursor : Option String) :
    (r.body limit cursor).get? "partition" = r.partitionLabel.map .string := by
  rw [get?_body]
  cases r.partitionLabel <;> rfl

theorem pageOfBody_body (r : ListRequest) (limit : Nat) (cursor : Option String) :
    (r.body limit cursor).get? "filter" = some (.ofFields r.filter) ∧
      (r.body limit cursor).get? "partition" = r.partitionLabel.map .string ∧
      pageOfBody (r.body limit cursor) = some (limit, cursor) := by
  refine ⟨by rw [get?_body]; rfl, r.get?_body_partition limit cursor, ?_⟩
  unfold pageOfBody
  rw [get?_body_limit, get?_body_cursor]
  cases cursor <;> rfl

end ListRequest

namespace Collection

/-- The path at which a listing is asked for. -/
def listPath (c : Collection) : ListMethod → String
  | .get => c.path
  | .post => c.endpoint "/list"

/-- The method of the requests for a listing. -/
def listVerb : ListMethod → Http.Method
  | .get => .get
  | .post => .post

/-- The retry policy of the requests for a listing. -/
def listPolicy (c : Collection) (method : ListMethod) : RetryPolicy :=
  c.client.policy (Http.mayReplay (listVerb method) (c.listPath method))

/-- A request asks for the page of a listing at a cursor, with so many items
    at most. -/
def AsksForPage (c : Collection) (r : ListRequest) (sent : Http.Request) (limit : Nat)
    (cursor : Option String) : Prop :=
  sent.url = c.client.config.projectUrl ++ c.listPath r.method ∧
    match r.method with
    | .get => sent.method = .get ∧ ∃ parameters, sent.query = r.filterQuery ++ parameters ∧
        parameters.lookup "partition" = r.partitionLabel ∧
        ListRequest.pageOfQuery parameters = some (limit, cursor)
    | .post => sent.method = .post ∧ ∃ body, sent.body = some body ∧
        body.get? "filter" = some (.ofFields r.filter) ∧
        body.get? "partition" = r.partitionLabel.map .string ∧
        ListRequest.pageOfBody body = some (limit, cursor)

/-- The request that a page request of a listing sends. -/
def pageRequest (c : Collection) (r : ListRequest) (limit : Nat) (cursor : Option String) :
    Http.Request :=
  match r.method with
  | .get => c.client.requestFor .get c.path (r.query limit cursor) none
  | .post => c.client.requestFor .post (c.endpoint "/list") [] (some (r.body limit cursor))

theorem url_pageRequest (c : Collection) (r : ListRequest) (limit : Nat) (cursor : Option String) :
    (c.pageRequest r limit cursor).url = c.client.config.projectUrl ++ c.listPath r.method := by
  unfold pageRequest listPath
  cases r.method <;> rfl

/-- A page request asks for its page. -/
theorem asksForPage_of_isSentFor {c : Collection} {r : ListRequest} {limit : Nat}
    {cursor : Option String} {sent : Outgoing}
    (h : Client.IsSentFor (c.pageRequest r limit cursor) sent) :
    c.AsksForPage r sent.request limit cursor := by
  obtain ⟨headers, hrequest⟩ := h
  unfold pageRequest at hrequest
  unfold AsksForPage
  rw [hrequest]
  cases r.method with
  | get => exact ⟨rfl, rfl, r.pageOfQuery_query limit cursor⟩
  | post => exact ⟨rfl, rfl, _, rfl, r.pageOfBody_body limit cursor⟩

/-! ## Servers that hold a list -/

variable {ω : Type}

/-- A page is some of the items that a server holds, from the position of a
    cursor on, and carries a cursor for the position after them unless
    nothing is left. -/
structure IsPageAt (held : List Json) (position : String → Nat) (limit : Nat)
    (cursor : Option String) (page : Page) : Prop where
  length_le : page.items.length ≤ limit
  consecutive : page.items <+: held.drop ((cursor.map position).getD 0)
  position_next : ∀ next, page.nextCursor = some next →
    position next = (cursor.map position).getD 0 + page.items.length
  nothing_left : page.nextCursor = none →
    held.length ≤ (cursor.map position).getD 0 + page.items.length

/-- A world in which a server holds a list under a listing: it answers every
    page request, in every state, with some page from the cursor on.  How
    many items the page holds and how the cursors look is up to it. -/
structure Serves (w : World ω) (c : Collection) (r : ListRequest) (held : List Json)
    (position : String → Nat) : Prop where
  reachable : Client.IsReachable (c.client.config.projectUrl ++ c.listPath r.method)
  answers : ∀ (sent : Outgoing) (x : ω) (limit : Nat) (cursor : Option String),
    c.AsksForPage r sent.request limit cursor → 0 < limit →
      Client.IsAnswer (fun response => ∃ page, pageOf response = .ok page ∧
        IsPageAt held position limit cursor page) (w.serve sent x).1

/-- Page requests that start at a cursor and follow the cursors of the
    answers come to an answer without a cursor after finitely many of them,
    whatever limits they have. -/
inductive Ends (w : World ω) (c : Collection) (r : ListRequest) : Option String → ω → Prop where
  | page {cursor : Option String} {x : ω}
      (hnext : ∀ limit page x' next, 0 < limit →
        (c.fetchPage r limit cursor).run w x = some (.ok page, x') →
        page.nextCursor = some next → Ends w c r (some next) x') : Ends w c r cursor x

/-- A page request that is answered with pages fetches one of them. -/
theorem run_fetchPage {w : World ω} {c : Collection} {r : ListRequest} {limit : Nat}
    {cursor : Option String} {p : Page → Prop}
    (hreach : Client.IsReachable (c.client.config.projectUrl ++ c.listPath r.method))
    (hanswer : ∀ (sent : Outgoing) (x : ω), c.AsksForPage r sent.request limit cursor →
      Client.IsAnswer (fun response => ∃ page, pageOf response = .ok page ∧ p page)
        (w.serve sent x).1)
    (x : ω) :
    ∃ page x', (c.fetchPage r limit cursor).run w x = some (.ok page, x') ∧ p page := by
  have hsent : ∀ sent x, Client.IsSentFor (c.pageRequest r limit cursor) sent → _ :=
    fun sent x hsent => hanswer sent x (asksForPage_of_isSentFor hsent)
  have hrequest : ∃ response x', (c.requestPage r limit cursor).run w x =
      some (.ok response, x') ∧ ∃ page, pageOf response = .ok page ∧ p page := by
    unfold pageRequest at hsent
    unfold requestPage
    cases hmethod : r.method with
    | get =>
      simp only [hmethod] at hsent hreach
      exact Client.run_request_of_isAnswer hreach hsent x
    | post =>
      simp only [hmethod] at hsent hreach
      exact Client.run_request_of_isAnswer hreach hsent x
  obtain ⟨response, x', hrun, page, hpage, hp⟩ := hrequest
  refine ⟨page, x', ?_, hp⟩
  unfold fetchPage
  rw [Dialogue.bind_eq, Dialogue.run_bind, hrun]
  show some (pageOf response, x') = _
  rw [hpage]

theorem Serves.run_fetchPage {w : World ω} {c : Collection} {r : ListRequest}
    {held : List Json} {position : String → Nat} (h : Serves w c r held position) {limit : Nat}
    (hlimit : 0 < limit) (cursor : Option String) (x : ω) :
    ∃ page x', (c.fetchPage r limit cursor).run w x = some (.ok page, x') ∧
      IsPageAt held position limit cursor page :=
  Collection.run_fetchPage h.reachable
    (fun sent x hasks => h.answers sent x limit cursor hasks hlimit) x

/-! ## A server with pages of one item -/

/-- A page as it is written in a reply. -/
def pageJson (page : Page) : Json :=
  .object (("items", .array page.items) ::
    (page.nextCursor.map fun c => ("nextCursor", Json.string c)).toList)

theorem pageOf_jsonReply {page : Page} (h : ∀ v ∈ page.items, Json.Plain 125 v) :
    pageOf (Client.jsonReply (pageJson page)) = .ok page := by
  have hkeys : "items" < "nextCursor" := by decide +kernel
  have hitems : Json.PlainItems 125 page.items := Json.plainItems_iff.2 h
  have hplain : Json.Plain Json.maxDepth (pageJson page) := by
    unfold pageJson
    cases page.nextCursor with
    | none => exact ⟨List.pairwise_singleton _ _, hitems, trivial⟩
    | some next => exact ⟨List.pairwise_pair.2 hkeys, hitems, trivial, trivial⟩
  unfold pageOf
  rw [Client.json_jsonReply hplain]
  cases page with
  | mk items nextCursor => cases nextCursor <;> rfl

/-- The position that a cursor names in decimal digits. -/
def decimalPosition (cursor : String) : Nat := cursor.toNat?.getD 0

/-- The page with the item at a cursor. -/
def pageOfOne (held : List Json) (cursor : Option String) : Page :=
  let start := (cursor.map decimalPosition).getD 0
  { items := (held.drop start).take 1
    nextCursor := if start + 1 < held.length then some (toString (start + 1)) else none }

/-- A server that answers posted page requests with one item at a time. -/
def oneByOne (held : List Json) : World Unit where
  serve sent x :=
    match sent.request.body.bind ListRequest.pageOfBody with
    | some (_, cursor) => (.response (Client.jsonReply (pageJson (pageOfOne held cursor))), x)
    | none => (.lost, x)
  pick others x := (Fin.last others, x)

/-- A cursor points behind the one item, at another one. -/
theorem decimalPosition_of_pageOfOne {held : List Json} {cursor : Option String} {next : String}
    (h : (pageOfOne held cursor).nextCursor = some next) :
    decimalPosition next = (cursor.map decimalPosition).getD 0 + 1 ∧
      (cursor.map decimalPosition).getD 0 + 1 < held.length := by
  simp only [pageOfOne, Option.ite_none_right_eq_some, Option.some.injEq] at h
  obtain ⟨hlt, rfl⟩ := h
  refine ⟨?_, hlt⟩
  generalize (cursor.map decimalPosition).getD 0 + 1 = position
  have hdigits : (toString position).toNat? = some position := Nat.toNat?_repr position
  rw [decimalPosition, hdigits]
  rfl

theorem isPageAt_pageOfOne (held : List Json) {limit : Nat} (hlimit : 0 < limit)
    (cursor : Option String) :
    IsPageAt held decimalPosition limit cursor (pageOfOne held cursor) where
  length_le := by
    simp only [pageOfOne, List.length_take]
    omega
  consecutive := List.take_prefix 1 _
  position_next next hnext := by
    obtain ⟨hposition, hlt⟩ := decimalPosition_of_pageOfOne hnext
    simp only [hposition, pageOfOne, List.length_take, List.length_drop]
    omega
  nothing_left hnone := by
    simp only [pageOfOne, ite_eq_right_iff, reduceCtorEq, imp_false] at hnone
    simp only [pageOfOne, List.length_take, List.length_drop]
    omega

/-- What the server answers to a page request. -/
theorem isAnswer_oneByOne {held : List Json} (hheld : ∀ v ∈ held, Json.Plain 125 v)
    {c : Collection} {r : ListRequest} (hmethod : r.method = .post) {sent : Outgoing}
    {limit : Nat} {cursor : Option String} (hasks : c.AsksForPage r sent.request limit cursor)
    (x : Unit) :
    Client.IsAnswer (fun response => ∃ page, pageOf response = .ok page ∧
      page = pageOfOne held cursor) ((oneByOne held).serve sent x).1 := by
  unfold AsksForPage at hasks
  rw [hmethod] at hasks
  obtain ⟨-, -, body, hbody, -, -, hpage⟩ := hasks
  have hplain : ∀ v ∈ (pageOfOne held cursor).items, Json.Plain 125 v :=
    fun v hv => hheld v (List.mem_of_mem_drop (List.mem_of_mem_take hv))
  refine ⟨Client.jsonReply (pageJson (pageOfOne held cursor)), ?_, rfl, _, pageOf_jsonReply hplain,
    rfl⟩
  simp only [oneByOne, hbody, Option.bind_some, hpage]

theorem serves_oneByOne {held : List Json} (hheld : ∀ v ∈ held, Json.Plain 125 v)
    {c : Collection} {r : ListRequest} (hmethod : r.method = .post)
    (hreach : Client.IsReachable (c.client.config.projectUrl ++ c.listPath r.method)) :
    Serves (oneByOne held) c r held decimalPosition where
  reachable := hreach
  answers sent x limit cursor hasks hlimit := by
    obtain ⟨response, hreply, hsuccess, page, hpage, rfl⟩ :=
      isAnswer_oneByOne hheld hmethod hasks x
    exact ⟨response, hreply, hsuccess, _, hpage, isPageAt_pageOfOne held hlimit cursor⟩

/-- Its pages end, since every cursor points further than the one before. -/
theorem ends_oneByOne {held : List Json} (hheld : ∀ v ∈ held, Json.Plain 125 v)
    {c : Collection} {r : ListRequest} (hmethod : r.method = .post)
    (hreach : Client.IsReachable (c.client.config.projectUrl ++ c.listPath r.method))
    (cursor : Option String) (x : Unit) : Ends (oneByOne held) c r cursor x := by
  induction hleft : held.length - (cursor.map decimalPosition).getD 0 using
    Nat.strong_induction_on generalizing cursor x with
  | _ left ih =>
    constructor
    intro limit page x' next hlimit hrun hnext
    -- the page is the one of the server, and its cursor points further
    obtain ⟨page', x'', hrun', rfl⟩ := run_fetchPage hreach
      (fun sent x hasks => isAnswer_oneByOne hheld hmethod hasks x) x
    rw [hrun] at hrun'
    obtain ⟨⟨⟩, rfl⟩ := Prod.mk.inj (Option.some.inj hrun')
    obtain ⟨hposition, hlt⟩ := decimalPosition_of_pageOfOne hnext
    refine ih _ ?_ (some next) x' rfl
    rw [Option.map_some, Option.getD_some, hposition]
    omega

/-- A collection of assets. -/
def plainAssets : Collection where
  client := .plain
  path := "/assets"

end Collection

end ResourceClient
