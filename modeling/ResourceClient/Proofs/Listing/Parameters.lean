import Mathlib
import ResourceClient.Proofs.Collection.Limits
import ResourceClient.Proofs.Listing.Chains

/-! # The two ways to ask for a page

    A page request has its limit, its cursor and its label in the query under
    one method, and in the body under the other.  In the body the filter is a
    member of its own.  In the query its members come first, and the names
    that select a page follow them, in the same list of pairs.

    So the two agree behind the filter (`NamesPageOf`): a query has under each
    of these names what the filter has under it, and then the text of what
    the body of the same state has under it, if that is there and not null.
    A filter that has none of the names leaves them to the listing, and no
    filter can take one away.

    The state is the one in which the page feed asks (`AsksAsPosted`), so that
    the law holds along the whole chain of cursors (`query_names_page`). -/

namespace ResourceClient

open Dialogue

/-! ## Parameters -/

/-- The values that a query has under a name, in order. -/
def valuesOf (query : List (String × String)) (name : String) : List String :=
  (query.filter (·.1 == name)).map (·.2)

theorem valuesOf_append (query later : List (String × String)) (name : String) :
    valuesOf (query ++ later) name = valuesOf query name ++ valuesOf later name := by
  rw [valuesOf, List.filter_append, List.map_append]
  rfl

/-- At most one pair. -/
theorem valuesOf_toList (key : String) (value : Option String) (name : String) :
    valuesOf (value.map fun v => (key, v)).toList name =
      if key = name then value.toList else [] := by
  by_cases hname : key = name <;> cases value <;> simp [valuesOf, hname]

/-- The text that a body has under a name, unless there is nothing or it is
    null. -/
def Json.parameter? (body : Json) (name : String) : Option String :=
  match body.get? name with
  | none | some .null => none
  | some v => some v.queryText

/-- The names under which a listing says which page it asks for. -/
def pageNames : List String := ["limit", "cursor", "partition"]

/-- The parameters of a filter, by name. -/
theorem valuesOf_filterQuery (r : ListRequest) (name : String) :
    valuesOf r.filterQuery name = ((r.filter.get? name).map Json.queryText).toList := by
  rw [Option.toList_map, ← Fields.filter_entries, valuesOf, ListRequest.filterQuery,
    List.filter_map, List.map_map, List.map_map]
  rfl

namespace ListRequest

/-- The parameters of a query, by name: behind the one of the filter there
    is one at most. -/
theorem valuesOf_query (r : ListRequest) (limit : Nat) (cursor : Option String) (name : String) :
    valuesOf (r.query limit cursor) name =
      ((r.filter.get? name).map Json.queryText).toList ++
        ((if "limit" = name then [toString limit] else []) ++
          (if "cursor" = name then cursor.toList else []) ++
            if "partition" = name then r.partitionLabel.toList else []) := by
  have hquery : r.query limit cursor = r.filterQuery ++
      ((Option.map (fun l => ("limit", l)) (some (toString limit))).toList ++
        (cursor.map fun c => ("cursor", c)).toList ++
          (r.partitionLabel.map fun p => ("partition", p)).toList) := by
    simp [query, filterQuery]
  rw [hquery, valuesOf_append, valuesOf_filterQuery, valuesOf_append, valuesOf_append,
    valuesOf_toList, valuesOf_toList, valuesOf_toList]
  rfl

/-! ### The texts in a body -/

theorem parameter?_body_limit (r : ListRequest) (limit : Nat) (cursor : Option String) :
    (r.body limit cursor).parameter? "limit" = some (toString limit) := by
  rw [Json.parameter?, get?_body_limit]
  exact congrArg some (String.empty_append (s := toString limit))

theorem parameter?_body_cursor (r : ListRequest) (limit : Nat) (cursor : Option String) :
    (r.body limit cursor).parameter? "cursor" = cursor := by
  rw [Json.parameter?, get?_body_cursor]
  cases cursor <;> rfl

theorem parameter?_body_partition (r : ListRequest) (limit : Nat) (cursor : Option String) :
    (r.body limit cursor).parameter? "partition" = r.partitionLabel := by
  rw [Json.parameter?, get?_body_partition]
  cases r.partitionLabel <;> rfl

end ListRequest

/-! ## One page request -/

/-- A query asks for the page that a body asks for, with a filter of its own
    before that. -/
structure NamesPageOf (filter : Fields) (query : List (String × String)) (body : Json) :
    Prop where
  /-- Under a name that selects a page stand the member of the filter, if it
      has one of this name, and the text of what the body has under it. -/
  selects : ∀ name ∈ pageNames, valuesOf query name =
    ((filter.get? name).map Json.queryText).toList ++ (body.parameter? name).toList
  /-- Under every other name stands the member of the filter. -/
  filters : ∀ name ∉ pageNames, valuesOf query name =
    ((filter.get? name).map Json.queryText).toList

/-- The query and the body of a page request, in the same state. -/
theorem ListRequest.namesPageOf (r : ListRequest) (limit : Nat) (cursor : Option String) :
    NamesPageOf r.filter (r.query limit cursor) (r.body limit cursor) where
  selects name hname := by
    rw [valuesOf_query]
    simp only [pageNames, List.mem_cons, List.not_mem_nil, or_false] at hname
    rcases hname with rfl | rfl | rfl
    · rw [parameter?_body_limit]
      simp
    · rw [parameter?_body_cursor]
      simp
    · rw [parameter?_body_partition]
      simp
  filters name hname := by
    simp only [pageNames, List.mem_cons, List.not_mem_nil, or_false, not_or] at hname
    rw [valuesOf_query, if_neg (Ne.symm hname.1), if_neg (Ne.symm hname.2.1),
      if_neg (Ne.symm hname.2.2)]
    simp

namespace Collection

variable {c : Collection} {r : ListRequest}

/-- A request has a query that asks for the page that would be posted with
    the limit and the cursor. -/
structure AsksAsPosted (c : Collection) (r : ListRequest) (limit : Nat) (cursor : Option String)
    (request : Http.Request) : Prop where
  method_eq : request.method = .get
  query_eq : ∃ body,
    (c.pageRequest { r with method := .post } limit cursor).body = some body ∧
    NamesPageOf r.filter request.query body ∧ body.parameter? "limit" = some (toString limit) ∧
    body.parameter? "cursor" = cursor ∧ body.parameter? "partition" = r.partitionLabel

/-- Whatever is sent in a visit asks for the page that would be posted. -/
theorem IsFetch.asksAsPosted {v : PageVisit} (h : c.IsFetch r v) (hmethod : r.method = .get) :
    ∀ e ∈ v.sent, c.AsksAsPosted r v.limit v.cursor e.1.request := by
  intro e he
  obtain ⟨headers, hrequest⟩ := h.isSentFor e he
  rw [pageRequest, hmethod] at hrequest
  rw [hrequest]
  exact ⟨rfl, _, rfl, r.namesPageOf v.limit v.cursor, r.parameter?_body_limit _ _,
    r.parameter?_body_cursor _ _, r.parameter?_body_partition _ _⟩

/-- The chunk size is no part of what is asked for. -/
theorem AsksAsPosted.of_chunkSize {size : Option Nat} {limit : Nat} {cursor : Option String}
    {request : Http.Request}
    (h : c.AsksAsPosted { r with chunkSize := size } limit cursor request) :
    c.AsksAsPosted r limit cursor request :=
  ⟨h.method_eq, h.query_eq⟩

/-! ## All page requests -/

/-- What is sent are the visits of a listing from its start, which may be read
    in chunks of some size, and in the state of each visit the query asks for
    the page that would be posted. -/
def QueriesAsPosted (c : Collection) (r : ListRequest) (sent : List (Outgoing × Http.Reply)) :
    Prop :=
  ∃ size visits, Visits c { r with chunkSize := size } {} visits ∧
    visits.flatMap (·.sent) = sent ∧
    ∀ v ∈ visits, ∀ e ∈ v.sent, c.AsksAsPosted r v.limit v.cursor e.1.request

theorem queriesAsPosted_of_visits (hmethod : r.method = .get) (size : Option Nat)
    {visits : List PageVisit} (h : Visits c { r with chunkSize := size } {} visits) :
    c.QueriesAsPosted r (visits.flatMap (·.sent)) := by
  refine ⟨size, visits, h, rfl, fun v hv e he => ?_⟩
  obtain ⟨p, hvisit⟩ := h.exists_isVisitAt hv
  exact (hvisit.isFetch.asksAsPosted hmethod e he).of_chunkSize

/-- The readers of a listing make visits.  Those in chunks put the size of
    the chunks in the place of the chunk size. -/
theorem IsListing.exists_visits {ρ : Type} {d : Dialogue ρ} (h : c.IsListing r d) {ω : Type}
    (w : World ω) (x : ω) :
    ∃ size visits, Visits c { r with chunkSize := size } {} visits ∧
      visits.flatMap (·.sent) = exchanges (turns w d x) := by
  cases h with
  | list decode budget => exact ⟨r.chunkSize, c.exists_visits_list w r decode budget x⟩
  | listItems decode budget count =>
    exact ⟨r.chunkSize, c.exists_visits_listItems w r decode budget count x⟩
  | listChunks decode budget size count =>
    exact ⟨some size, c.exists_visits_listChunks w r decode budget size count x⟩

theorem IsListing.queriesAsPosted {ρ : Type} {d : Dialogue ρ} (h : c.IsListing r d)
    (hmethod : r.method = .get) {ω : Type} (w : World ω) (x : ω) :
    c.QueriesAsPosted r (exchanges (turns w d x)) := by
  obtain ⟨size, visits, hvisits, hsent⟩ := h.exists_visits w x
  exact hsent ▸ queriesAsPosted_of_visits hmethod size hvisits

/-- So every page request of a listing is made in some state of it. -/
theorem QueriesAsPosted.exists_state {sent : List (Outgoing × Http.Reply)}
    (h : c.QueriesAsPosted r sent) :
    ∀ e ∈ sent, ∃ limit cursor, c.AsksAsPosted r limit cursor e.1.request := by
  obtain ⟨size, visits, -, rfl, hposted⟩ := h
  intro e he
  obtain ⟨v, hv, he⟩ := List.mem_flatMap.1 he
  exact ⟨v.limit, v.cursor, hposted v hv e he⟩

/-- **A query names the page that a body would name.**  In every world,
    whatever is drawn from the pages of a listing under the method that uses
    the query, and whatever its readers send, are visits of the listing.  In
    the query of each request stand, under the names that select a page, the
    limit, the cursor and the label of the body that would be posted in the
    same state, once each, behind the member of the filter of that name; a
    cursor or a label that this body does not have, or that is null in it,
    is not there.  The requests of partitions keep to it, each with the label
    of its partition. -/
theorem query_names_page {r : ListRequest} (hmethod : r.method = .get) (c : Collection) {ω : Type}
    (w : World ω) (x : ω) :
    (∀ draws, (c.pages r).Draws w {} x draws → c.QueriesAsPosted r (draws.flatMap (·.sent))) ∧
    (∀ {ρ : Type} {d : Dialogue ρ}, c.IsListing r d →
      c.QueriesAsPosted r (exchanges (turns w d x))) ∧
    ∀ {α : Type} (decode : Decoder α) (budget partitions : Nat),
      ∀ e ∈ exchanges (turns w (c.listPartitioned decode budget r partitions) x),
        ∃ label ∈ partitionLabels partitions, ∃ limit cursor,
          c.AsksAsPosted { r with partitionLabel := some label } limit cursor e.1.request := by
  refine ⟨?_, fun hlisting => hlisting.queriesAsPosted hmethod w x, ?_⟩
  · intro draws hdraws
    obtain ⟨visits, hvisits, hsent, -⟩ := visits_of_draws hdraws
    exact hsent ▸ queriesAsPosted_of_visits hmethod r.chunkSize hvisits
  · intro α decode budget partitions
    have hposted : (c.listPartitioned decode budget r partitions).SendsOnly fun sent =>
        ∃ label ∈ partitionLabels partitions, ∃ limit cursor,
          c.AsksAsPosted { r with partitionLabel := some label } limit cursor sent.request := by
      refine sendsOnly_listPartitioned_of_list (fun label _ {ω} w x => ?_) decode
      have hlist : c.IsListing { r with partitionLabel := some label }
          (c.list .json budget { r with partitionLabel := some label }) := .list .json budget
      exact (hlist.queriesAsPosted hmethod w x).exists_state
    exact hposted w x

/-- A part of the assets with a name. -/
def namedPart : ListRequest :=
  { method := .get, filter := .ofList [("name", .string "a")], partitionLabel := some "1/2" }

/-- The first request for it names the page once, beside the filter. -/
theorem first_request_of_namedPart :
    namedPart.method = .get ∧
      plainAssets.QueriesAsPosted namedPart
        (exchanges (turns endless (plainAssets.list .json 1 namedPart) ())) ∧
      ∃ sent reply later,
        exchanges (turns endless (plainAssets.list .json 1 namedPart) ()) =
          (sent, reply) :: later ∧
        pageNames.map (valuesOf sent.request.query) = [["1000"], [], ["1/2"]] := by
  have hmethod : namedPart.method = .get := rfl
  have hreach : Client.IsReachable
      (plainAssets.client.config.projectUrl ++ plainAssets.listPath namedPart.method) := by
    decide +kernel
  have hlimit : namedPart.pageLimit plainAssets.limits.list 0 ≠ 0 := by decide
  obtain ⟨-, hreads, -⟩ := query_names_page hmethod plainAssets endless ()
  obtain ⟨sent, reply, later, hsent, headers, hrequest⟩ :=
    exists_first_request endless hreach hlimit .json 0 ()
  refine ⟨hmethod, hreads (.list .json 1), sent, reply, later, hsent, ?_⟩
  rw [hrequest]
  dsimp only
  decide +kernel

/-- A listing whose filter names a limit. -/
def filteredByLimit : ListRequest :=
  .new .get (some (.raw (.ofList [("limit", .int 5)]))) none none

/-- The member of a filter that is named like a parameter stands before it, so
    that a request may have two limits. -/
theorem first_request_with_two_limits :
    ∃ sent reply later,
      exchanges (turns endless (plainAssets.list .json 1 filteredByLimit) ()) =
        (sent, reply) :: later ∧
      valuesOf sent.request.query "limit" = ["5", "1000"] := by
  have hreach : Client.IsReachable
      (plainAssets.client.config.projectUrl ++ plainAssets.listPath filteredByLimit.method) := by
    decide +kernel
  have hlimit : filteredByLimit.pageLimit plainAssets.limits.list 0 ≠ 0 := by decide
  obtain ⟨sent, reply, later, hsent, headers, hrequest⟩ :=
    exists_first_request endless hreach hlimit .json 0 ()
  refine ⟨sent, reply, later, hsent, ?_⟩
  rw [hrequest]
  dsimp only
  decide +kernel

end Collection

end ResourceClient
