import Mathlib
import ResourceClient.Collection.Listing
import ResourceClient.Proofs.Client.History
import ResourceClient.Proofs.Listing.Draws
import ResourceClient.Proofs.Listing.Server

/-! # Paging is safe against any server

    A listing visits pages one after the other (`PageVisit`).  What a server
    may do is left open altogether: its pages may be too long, its cursors
    may go round in circles, and any request may fail.  Still the visits keep
    to the limits, follow the cursors of the answers, and end as soon as
    enough items were received (`SafePaging`).  In a visit its page is
    requested once, where only the retry policy may repeat an attempt, so
    that the visits count the page requests.

    The visits of a listing are read off the steps of its page feed
    (`Visits`).  The invariant that carries the proof is how far the listing
    was read (`Paging.afterAll`): the items received so far are those kept
    from the visits, and the cursor is the one of the last answer.

    All readers of a listing are safe, because they ask what its page feed
    asks (`paging_safe`). -/

namespace ResourceClient

open Dialogue

/-! ## Visits -/

/-- A page request of a listing: what it asks for, its exchanges with the
    server, and the page that it comes to. -/
structure PageVisit where
  limit : Nat
  cursor : Option String
  sent : List (Outgoing × Http.Reply)
  page : Result Page

namespace PageVisit

/-- The items that are kept of the page. -/
def kept (v : PageVisit) : List Json :=
  match v.page with
  | .ok page => page.items.take v.limit
  | .error _ => []

/-- The cursor of the page, if there is a page and it has one. -/
def next? (v : PageVisit) : Option String :=
  match v.page with
  | .ok page => page.nextCursor
  | .error _ => none

theorem length_kept_le (v : PageVisit) : v.kept.length ≤ v.limit := by
  unfold kept
  split
  · exact List.length_take_le _ _
  · exact Nat.zero_le _

/-- A cursor comes with a page. -/
theorem page_of_next? {v : PageVisit} {next : String} (h : v.next? = some next) :
    ∃ page, v.page = .ok page ∧ page.nextCursor = some next := by
  unfold next? at h
  split at h
  · next page hpage => exact ⟨page, hpage, h⟩
  · cases h

/-- Of a page with items something is kept, since the limit is not zero. -/
theorem length_kept_pos (v : PageVisit) (hlimit : 1 ≤ v.limit) {page : Page}
    (hpage : v.page = .ok page) (hitems : page.items ≠ []) : 1 ≤ v.kept.length := by
  have hlength := List.length_pos_of_ne_nil hitems
  simp only [kept, hpage, List.length_take]
  omega

end PageVisit

/-- How far a listing was read after visits. -/
def Paging.afterAll (p : Paging) (limit : Option Nat) (visits : List PageVisit) : Paging :=
  visits.foldl (fun p v => p.after limit v.kept.length v.next?) p

theorem Paging.fetched_afterAll (p : Paging) (limit : Option Nat) (visits : List PageVisit) :
    (p.afterAll limit visits).fetched =
      p.fetched + (visits.flatMap PageVisit.kept).length := by
  induction visits generalizing p with
  | nil => rfl
  | cons v later ih =>
    rw [List.flatMap_cons, List.length_append]
    exact (ih _).trans (Nat.add_assoc _ _ _)

theorem Paging.afterAll_snoc (p : Paging) (limit : Option Nat) (before : List PageVisit)
    (v : PageVisit) :
    p.afterAll limit (before ++ [v]) =
      (p.afterAll limit before).after limit v.kept.length v.next? :=
  List.foldl_concat _ _ _ _

namespace Collection

/-- A visit is a run of its page request. -/
def IsFetch (c : Collection) (r : ListRequest) (v : PageVisit) : Prop :=
  ∃ turns, Runs (c.fetchPage r v.limit v.cursor) turns v.page ∧ exchanges turns = v.sent

/-- The visit that a listing makes from where it was read to, unless it is
    at its end: it has the limit and the cursor of this state. -/
structure IsVisitAt (c : Collection) (r : ListRequest) (p : Paging) (v : PageVisit) : Prop where
  finished_eq : p.finished = false
  limit_eq : v.limit = r.pageLimit c.limits.list p.fetched
  limit_pos : 1 ≤ v.limit
  cursor_eq : v.cursor = p.cursor
  isFetch : c.IsFetch r v

/-- The visits that a listing makes from where it was read to.  It may be
    left at any time. -/
inductive Visits (c : Collection) (r : ListRequest) : Paging → List PageVisit → Prop where
  /-- No more pages are asked for. -/
  | stop (p : Paging) : Visits c r p []
  /-- A page is visited, and the listing goes on behind it. -/
  | visit {p : Paging} {v : PageVisit} {later : List PageVisit} (hvisit : c.IsVisitAt r p v)
      (hlater : Visits c r (p.after r.limit v.kept.length v.next?) later) :
      Visits c r p (v :: later)

/-- Visits go on from where those before them have led. -/
theorem Visits.later {c : Collection} {r : ListRequest} {p : Paging}
    {before later : List PageVisit} (h : Visits c r p (before ++ later)) :
    Visits c r (p.afterAll r.limit before) later := by
  induction before generalizing p with
  | nil => exact h
  | cons v before ih =>
    cases h with
    | visit _ hlater => exact ih hlater

/-- A visit is made from where those before it have led. -/
theorem Visits.isVisitAt {c : Collection} {r : ListRequest} {p : Paging}
    {before after : List PageVisit} {v : PageVisit} (h : Visits c r p (before ++ v :: after)) :
    c.IsVisitAt r (p.afterAll r.limit before) v := by
  cases h.later with
  | visit hvisit _ => exact hvisit

/-- Every visit is made from somewhere. -/
theorem Visits.exists_isVisitAt {c : Collection} {r : ListRequest} {p : Paging}
    {visits : List PageVisit} (h : Visits c r p visits) {v : PageVisit} (hv : v ∈ visits) :
    ∃ p', c.IsVisitAt r p' v := by
  obtain ⟨before, after, rfl⟩ := List.append_of_mem hv
  exact ⟨_, h.isVisitAt⟩

/-- A visit that is not the first one follows a page with a cursor, and has
    that cursor. -/
theorem Visits.cursor_eq_next {c : Collection} {r : ListRequest} {p : Paging}
    {before after : List PageVisit} {u v : PageVisit}
    (h : Visits c r p (before ++ u :: v :: after)) :
    ∃ page next, u.page = .ok page ∧ page.nextCursor = some next ∧ v.cursor = some next := by
  rw [List.append_cons] at h
  have hvisit := h.isVisitAt
  rw [Paging.afterAll_snoc] at hvisit
  -- the listing is not at its end, so that there is a cursor
  have hnext : u.next?.isNone = false := (Bool.or_eq_false_iff.1 hvisit.finished_eq).1
  obtain ⟨next, hnext⟩ := Option.isSome_iff_exists.1 (by simpa using hnext)
  obtain ⟨page, hpage, hpagenext⟩ := PageVisit.page_of_next? hnext
  exact ⟨page, next, hpage, hpagenext, hvisit.cursor_eq.trans hnext⟩

/-! ## The visits of the page feed -/

theorem total_fetchPage (c : Collection) (r : ListRequest) (limit : Nat) (cursor : Option String) :
    (c.fetchPage r limit cursor).Total := by
  refine Total.bind ?_ fun response => .done _
  unfold requestPage
  cases r.method with
  | get => exact c.client.total_request _ _ _ _
  | post => exact c.client.total_request _ _ _ _

theorem total_step_pages (c : Collection) (r : ListRequest) (p : Paging) :
    ((c.pages r).step p).Total := by
  simp only [pages]
  split
  · exact .done _
  · exact (c.total_fetchPage r _ _).bind fun page => by cases page <;> exact .done _

/-- While the listing goes on, a step of the page feed asks for a page. -/
theorem turns_step_pages {ω : Type} {w : World ω} {c : Collection} {r : ListRequest} {p : Paging}
    (hopen : p.finished = false) (hlimit : r.pageLimit c.limits.list p.fetched ≠ 0) (x : ω) :
    turns w ((c.pages r).step p) x =
      turns w (c.fetchPage r (r.pageLimit c.limits.list p.fetched) p.cursor) x := by
  obtain ⟨page, x', hfetch⟩ := run_of_total w
    (c.total_fetchPage r (r.pageLimit c.limits.list p.fetched) p.cursor) x
  simp only [pages, hopen, Bool.false_or, beq_iff_eq, if_neg hlimit, Dialogue.bind_eq,
    turns_bind_of_run hfetch]
  cases page <;> exact List.append_nil _

/-- A step of the page feed is at the end of the listing and asks nothing, or
    visits a page: it fails if that fails, and hands out what is kept
    otherwise. -/
theorem runs_step_pages {c : Collection} {r : ListRequest} {p : Paging} {ts : List Turn}
    {step : FeedStep Paging (List Json)} (h : Runs ((c.pages r).step p) ts step) :
    (step = .finished ∧ ts = [] ∧
        (p.finished = true ∨ r.pageLimit c.limits.list p.fetched = 0)) ∨
      ∃ v : PageVisit, c.IsVisitAt r p v ∧ v.sent = exchanges ts ∧
        ((∃ e, v.page = .error e ∧ step = .failure e) ∨
          ∃ page, v.page = .ok page ∧
            step = .value v.kept (p.after r.limit v.kept.length v.next?)) := by
  by_cases hend : (p.finished || r.pageLimit c.limits.list p.fetched == 0) = true
  · left
    simp only [pages, if_pos hend] at h
    obtain ⟨rfl, rfl⟩ := runs_done_iff.1 h
    exact ⟨rfl, rfl, by simpa using hend⟩
  · right
    have hopen := hend
    rw [Bool.or_eq_true, not_or, Bool.not_eq_true, beq_iff_eq] at hopen
    obtain ⟨hfinished, hlimit⟩ := hopen
    -- the page is fetched, whatever it comes to
    simp only [pages, if_neg hend] at h
    obtain ⟨page, ts₁, ts₂, rfl, hfetch, hrest⟩ := runs_bind_iff.1 h
    refine ⟨⟨r.pageLimit c.limits.list p.fetched, p.cursor, exchanges ts₁, page⟩,
      ⟨hfinished, rfl, Nat.one_le_iff_ne_zero.2 hlimit, rfl, ts₁, hfetch, rfl⟩, ?_⟩
    cases page with
    | error e =>
      obtain ⟨rfl, rfl⟩ := runs_done_iff.1 hrest
      exact ⟨by rw [List.append_nil], Or.inl ⟨e, rfl, rfl⟩⟩
    | ok page =>
      obtain ⟨rfl, rfl⟩ := runs_done_iff.1 hrest
      exact ⟨by rw [List.append_nil], Or.inr ⟨page, rfl, rfl⟩⟩

/-- What is drawn from the page feed are visits, and hands out what is kept
    of their pages. -/
theorem visits_of_draws {ω : Type} {w : World ω} {c : Collection} {r : ListRequest} {p : Paging}
    {x : ω} {draws : List (Draw Paging (List Json))} (h : (c.pages r).Draws w p x draws) :
    ∃ visits, Visits c r p visits ∧
      visits.flatMap (·.sent) = draws.flatMap (·.sent) ∧
      visits.flatMap (·.kept) = (draws.filterMap (·.step.value?)).flatten := by
  induction h with
  | stop p x => exact ⟨[], .stop p, rfl, rfl⟩
  | @last p x x' step hstep hrest =>
    rcases runs_step_pages (runs_of_run hstep) with ⟨rfl, hts, -⟩ |
      ⟨v, hvisit, hsent, ⟨e, hpage, rfl⟩ | ⟨page, hpage, rfl⟩⟩
    · exact ⟨[], .stop p, by simp [hts], rfl⟩
    · refine ⟨[v], .visit hvisit (.stop _), by simp [hsent], ?_⟩
      simp [PageVisit.kept, hpage, FeedStep.value?]
    · cases hrest
  | @next p rest x x' step later hstep hrest _ ih =>
    rcases runs_step_pages (runs_of_run hstep) with ⟨rfl, -, -⟩ |
      ⟨v, hvisit, hsent, ⟨e, hpage, rfl⟩ | ⟨page, hpage, rfl⟩⟩
    · cases hrest
    · cases hrest
    · cases hrest
      obtain ⟨visits, hvisits, hlater, hkept⟩ := ih
      refine ⟨v :: visits, .visit hvisit hvisits, ?_, ?_⟩
      · rw [List.flatMap_cons, List.flatMap_cons, hsent, hlater]
      · simp [FeedStep.value?, hkept]

/-! ## What visits keep to -/

/-- The law of paging, for a listing of which so many items are wanted.  The
    fields speak of the visits and of what is sent and received in them. -/
structure SafePaging (c : Collection) (r : ListRequest) (wanted : Nat)
    (visits : List PageVisit) : Prop where
  /-- A visit is a run of its page request. -/
  isFetch : ∀ v ∈ visits, c.IsFetch r v
  /-- All its exchanges but the last one ended in what the retry policy
      repeats. -/
  repeats : ∀ v ∈ visits, ∀ earlier last, v.sent = earlier ++ [last] →
    ∀ e ∈ earlier, (c.listPolicy r.method).MayRepeat (Client.attemptOf e.2)
  /-- Whatever is sent in a visit asks for its page. -/
  asks : ∀ v ∈ visits, ∀ e ∈ v.sent, c.AsksForPage r e.1.request v.limit v.cursor
  /-- If the filter names neither limit nor cursor, nothing else in a query
      does. -/
  asks_only : ∀ v ∈ visits, ∀ e ∈ v.sent, r.method = .get → r.filter.get? "limit" = none →
    r.filter.get? "cursor" = none →
      ListRequest.pageOfQuery e.1.request.query = some (v.limit, v.cursor)
  /-- A page is read from the last reply. -/
  answered : ∀ v ∈ visits, ∀ page, v.page = .ok page → ∃ earlier request response,
    v.sent = earlier ++ [(request, .response response)] ∧ pageOf response = .ok page
  /-- The limit of a visit is not zero, and within those of the requests and
      of the reader. -/
  limit_le : ∀ v ∈ visits, 1 ≤ v.limit ∧ v.limit ≤ c.limits.list ∧
    ∀ size, r.chunkSize = some size → v.limit ≤ size
  /-- It is within what is still wanted after the visits before. -/
  limit_le_wanted : ∀ before v after, visits = before ++ v :: after →
    v.limit ≤ wanted - (before.flatMap (·.kept)).length
  /-- The first visit has no cursor. -/
  first : ∀ v after, visits = v :: after → v.cursor = none
  /-- Every other visit follows a page with a cursor, and has that cursor. -/
  next : ∀ before u v after, visits = before ++ u :: v :: after →
    ∃ page next, u.page = .ok page ∧ page.nextCursor = some next ∧ v.cursor = some next

section safe

variable {c : Collection} {r : ListRequest} {wanted : Nat} {visits : List PageVisit}

/-- Before a visit less was received than is wanted. -/
theorem SafePaging.length_kept_lt {before after : List PageVisit} {v : PageVisit}
    (h : SafePaging c r wanted visits) (hsplit : visits = before ++ v :: after) :
    (before.flatMap (·.kept)).length < wanted := by
  have hwanted := h.limit_le_wanted before v after hsplit
  have hpos := (h.limit_le v (by simp [hsplit])).1
  omega

/-- No more items are kept than are wanted. -/
theorem SafePaging.length_kept_le (h : SafePaging c r wanted visits) :
    (visits.flatMap (·.kept)).length ≤ wanted := by
  rcases List.eq_nil_or_concat visits with rfl | ⟨before, v, hsplit⟩
  · exact Nat.zero_le _
  · rw [List.concat_eq_append] at hsplit
    have hlt := h.length_kept_lt hsplit
    have hle := h.limit_le_wanted before v [] hsplit
    have hkept := v.length_kept_le
    rw [hsplit, List.flatMap_append, List.flatMap_singleton, List.length_append]
    omega

/-- A visit before the last one came to a page. -/
theorem SafePaging.exists_page {before : List PageVisit} {v : PageVisit}
    (h : SafePaging c r wanted visits) (hsplit : visits = before ++ [v]) {u : PageVisit}
    (hu : u ∈ before) :
    ∃ page, u.page = .ok page := by
  obtain ⟨earlier, later, rfl⟩ := List.append_of_mem hu
  obtain ⟨u', after, hafter⟩ := List.exists_cons_of_ne_nil (List.concat_ne_nil v later)
  have hnext : visits = earlier ++ u :: u' :: after := by
    rw [hsplit, ← hafter]
    simp
  obtain ⟨page, -, hpage, -, -⟩ := h.next earlier u u' after hnext
  exact ⟨page, hpage⟩

/-- If all pages hold items, then there are no more visits than items
    wanted. -/
theorem SafePaging.length_le (h : SafePaging c r wanted visits)
    (hitems : ∀ v ∈ visits, ∀ page, v.page = .ok page → page.items ≠ []) :
    visits.length ≤ wanted := by
  rcases List.eq_nil_or_concat visits with rfl | ⟨before, v, hsplit⟩
  · exact Nat.zero_le _
  · rw [List.concat_eq_append] at hsplit
    -- every visit before the last one kept an item
    have hkept : ∀ k ∈ before.map fun u => u.kept.length, 1 ≤ k := by
      intro k hk
      obtain ⟨u, hu, rfl⟩ := List.mem_map.1 hk
      obtain ⟨page, hpage⟩ := h.exists_page hsplit hu
      have hmem : u ∈ visits := hsplit ▸ List.mem_append_left [v] hu
      exact u.length_kept_pos (h.limit_le u hmem).1 hpage (hitems u hmem page hpage)
    have hlength : before.length ≤ (before.flatMap (·.kept)).length := calc
      before.length = (before.map fun u => u.kept.length).length := (List.length_map _).symm
      _ ≤ (before.map fun u => u.kept.length).sum := List.length_le_sum_of_one_le _ hkept
      _ = (before.flatMap (·.kept)).length := List.length_flatMap.symm
    have hlt := h.length_kept_lt hsplit
    rw [hsplit, List.length_append, List.length_singleton]
    omega

end safe

/-! ## Visits are safe -/

/-- Fetching a page is the attempts of its request, and the page is what the
    last of them comes to. -/
theorem execute_of_runs_fetchPage {c : Collection} {r : ListRequest} {limit : Nat}
    {cursor : Option String} {turns : List Turn} {page : Result Page}
    (h : Runs (c.fetchPage r limit cursor) turns page) :
    ∃ outcome, Runs ((c.listPolicy r.method).execute (c.client.send (c.pageRequest r limit cursor)))
        turns outcome ∧
      page = (Client.successful outcome).bind pageOf := by
  obtain ⟨response, before, after, rfl, hrequest, hdone⟩ := runs_bind_iff.1 h
  obtain ⟨rfl, rfl⟩ := runs_done_iff.1 hdone
  rw [List.append_nil]
  unfold requestPage at hrequest
  unfold pageRequest
  cases hmethod : r.method with
  | get =>
    simp only [hmethod] at hrequest
    obtain ⟨outcome, hexecute, rfl⟩ := Client.execute_of_runs_request hrequest
    exact ⟨outcome, hexecute, rfl⟩
  | post =>
    simp only [hmethod] at hrequest
    obtain ⟨outcome, hexecute, rfl⟩ := Client.execute_of_runs_request hrequest
    exact ⟨outcome, hexecute, rfl⟩

theorem history_of_runs_fetchPage {c : Collection} {r : ListRequest} {limit : Nat}
    {cursor : Option String} {turns : List Turn} {page : Result Page}
    (h : Runs (c.fetchPage r limit cursor) turns page) :
    ∃ outcome, c.client.History (c.pageRequest r limit cursor)
        (Http.mayReplay (listVerb r.method) (c.listPath r.method)) (exchanges turns) outcome ∧
      page = (Client.successful outcome).bind pageOf := by
  obtain ⟨outcome, hexecute, hpage⟩ := execute_of_runs_fetchPage h
  exact ⟨outcome, Client.history_of_runs hexecute, hpage⟩

/-- Whatever is sent in a visit is its page request. -/
theorem IsFetch.isSentFor {c : Collection} {r : ListRequest} {v : PageVisit}
    (h : c.IsFetch r v) :
    ∀ e ∈ v.sent, Client.IsSentFor (c.pageRequest r v.limit v.cursor) e.1 := by
  obtain ⟨turns, hruns, hsent⟩ := h
  obtain ⟨outcome, hhistory, -⟩ := history_of_runs_fetchPage hruns
  intro e he
  rw [← hsent] at he
  exact hhistory.isSentFor e he

/-- A page request that can be sent is sent. -/
theorem IsFetch.sent_ne_nil {c : Collection} {r : ListRequest} {v : PageVisit}
    (h : c.IsFetch r v)
    (hreach : Client.IsReachable (c.client.config.projectUrl ++ c.listPath r.method)) :
    v.sent ≠ [] := by
  obtain ⟨turns, hruns, hsent⟩ := h
  obtain ⟨outcome, hhistory, -⟩ := history_of_runs_fetchPage hruns
  obtain ⟨sent, reply, later, hcons, -⟩ := hhistory.exists_cons (c.url_pageRequest r _ _ ▸ hreach)
  rw [← hsent, hcons]
  exact List.cons_ne_nil _ _

theorem IsFetch.asks {c : Collection} {r : ListRequest} {v : PageVisit} (h : c.IsFetch r v) :
    ∀ e ∈ v.sent, c.AsksForPage r e.1.request v.limit v.cursor :=
  fun e he => asksForPage_of_isSentFor (h.isSentFor e he)

/-- What a page request comes to whose last reply is this one. -/
def pageOfReply (reply : Http.Reply) : Result Page :=
  (Client.successful (Client.attemptOf reply)).bind pageOf

theorem pageOfReply_jsonReply {page : Page} (h : ∀ v ∈ page.items, Json.Plain 125 v) :
    pageOfReply (.response (Client.jsonReply (pageJson page))) = .ok page :=
  pageOf_jsonReply h

/-- Only a response holds a page. -/
theorem response_of_pageOfReply {reply : Http.Reply} {page : Page}
    (h : pageOfReply reply = .ok page) :
    ∃ response, reply = .response response ∧ pageOf response = .ok page := by
  cases reply with
  | response response =>
    refine ⟨response, rfl, ?_⟩
    simp only [pageOfReply, Client.attemptOf, Client.successful] at h
    by_cases hsuccess : response.isSuccess = true
    · rwa [if_pos hsuccess] at h
    · rw [if_neg hsuccess] at h
      cases h
  | readTimeout => cases h
  | refused => cases h
  | lost => cases h

/-- A page request that cannot be sent fails, and otherwise it comes to what
    the last reply to it holds. -/
theorem IsFetch.page_cases {c : Collection} {r : ListRequest} {v : PageVisit}
    (h : c.IsFetch r v) :
    (v.sent = [] ∧ ∃ e, v.page = .error e) ∨
      ∃ earlier request reply, v.sent = earlier ++ [(request, reply)] ∧
        v.page = pageOfReply reply := by
  obtain ⟨turns, hruns, hsent⟩ := h
  obtain ⟨outcome, hhistory, hpage⟩ := history_of_runs_fetchPage hruns
  rw [hsent] at hhistory
  generalize v.sent = sent at hhistory ⊢
  cases hhistory with
  | unsent _ => exact Or.inl ⟨rfl, _, hpage⟩
  | sent _ _ => exact Or.inr ⟨_, _, _, List.map_append, hpage⟩

/-- Within a visit the policy of the listing repeats the page request. -/
theorem IsFetch.mayRepeat {c : Collection} {r : ListRequest} {v : PageVisit} (h : c.IsFetch r v)
    {earlier : List (Outgoing × Http.Reply)} {last : Outgoing × Http.Reply}
    (hsplit : v.sent = earlier ++ [last]) :
    ∀ e ∈ earlier, (c.listPolicy r.method).MayRepeat (Client.attemptOf e.2) := by
  obtain ⟨turns, hruns, hsent⟩ := h
  obtain ⟨outcome, hhistory, -⟩ := history_of_runs_fetchPage hruns
  rw [hsent] at hhistory
  exact hhistory.mayRepeat hsplit

theorem IsFetch.answered {c : Collection} {r : ListRequest} {v : PageVisit} (h : c.IsFetch r v)
    {page : Page} (hpage : v.page = .ok page) : ∃ earlier request response,
      v.sent = earlier ++ [(request, .response response)] ∧ pageOf response = .ok page := by
  rcases h.page_cases with ⟨-, e, herror⟩ | ⟨earlier, request, reply, hsent, hread⟩
  · rw [hpage] at herror
    cases herror
  · rw [hpage] at hread
    obtain ⟨response, rfl, hok⟩ := response_of_pageOfReply hread.symm
    exact ⟨earlier, request, response, hsent, hok⟩

/-- A filter without a key does not hide a parameter of that name. -/
theorem lookup_filterQuery_append {r : ListRequest} {key : String} (h : r.filter.get? key = none)
    (parameters : List (String × String)) :
    (r.filterQuery ++ parameters).lookup key = parameters.lookup key := by
  unfold ListRequest.filterQuery
  unfold Fields.get? at h
  generalize r.filter.entries = entries at h ⊢
  induction entries with
  | nil => rfl
  | cons e entries ih =>
    obtain ⟨name, value⟩ := e
    rw [List.lookup_cons] at h
    rw [List.map_cons, List.cons_append, List.lookup_cons]
    cases hkey : key == name with
    | true => simp [hkey] at h
    | false =>
      simp only [hkey] at h ⊢
      exact ih h

/-- A query whose filter names neither limit nor cursor asks for one page. -/
theorem AsksForPage.pageOfQuery {c : Collection} {r : ListRequest} {sent : Http.Request}
    {limit : Nat} {cursor : Option String} (h : c.AsksForPage r sent limit cursor)
    (hmethod : r.method = .get) (hlimit : r.filter.get? "limit" = none)
    (hcursor : r.filter.get? "cursor" = none) :
    ListRequest.pageOfQuery sent.query = some (limit, cursor) := by
  unfold AsksForPage at h
  rw [hmethod] at h
  obtain ⟨-, -, parameters, hquery, -, hpage⟩ := h
  unfold ListRequest.pageOfQuery at hpage ⊢
  rw [hquery, lookup_filterQuery_append hlimit, lookup_filterQuery_append hcursor]
  exact hpage

/-- The visits of a listing from its start are safe. -/
theorem safePaging_of_visits {c : Collection} {r : ListRequest} {wanted : Nat}
    (hwanted : r.limit = some wanted) {visits : List PageVisit} (h : Visits c r {} visits) :
    SafePaging c r wanted visits := by
  have hat {before after : List PageVisit} {v : PageVisit}
      (hsplit : visits = before ++ v :: after) :
      c.IsVisitAt r (Paging.afterAll {} r.limit before) v := (hsplit ▸ h).isVisitAt
  have hmem : ∀ v ∈ visits, ∃ p, c.IsVisitAt r p v := fun v hv => h.exists_isVisitAt hv
  have hfetch : ∀ v ∈ visits, c.IsFetch r v := by
    intro v hv
    obtain ⟨p, hvisit⟩ := hmem v hv
    exact hvisit.isFetch
  refine ⟨hfetch, fun v hv _ _ => (hfetch v hv).mayRepeat, fun v hv => (hfetch v hv).asks, ?_,
    fun v hv _ => (hfetch v hv).answered, ?_, ?_, ?_, ?_⟩
  · intro v hv e he hmethod hlimit hcursor
    exact ((hfetch v hv).asks e he).pageOfQuery hmethod hlimit hcursor
  · intro v hv
    obtain ⟨p, hvisit⟩ := hmem v hv
    rw [hvisit.limit_eq]
    exact ⟨hvisit.limit_eq ▸ hvisit.limit_pos, r.pageLimit_le_listLimit _ _,
      fun size hsize => ListRequest.pageLimit_le_chunkSize hsize _ _⟩
  · intro before v after hsplit
    have hle := ListRequest.pageLimit_le_wanted hwanted c.limits.list
      (Paging.afterAll {} r.limit before).fetched
    rw [← (hat hsplit).limit_eq, Paging.fetched_afterAll, Nat.zero_add] at hle
    exact hle
  · intro v after hsplit
    have hsplit' : visits = [] ++ v :: after := hsplit
    exact (hat hsplit').cursor_eq
  · intro before u v after hsplit
    rw [hsplit] at h
    exact h.cursor_eq_next

/-! ## Readers of a listing -/

/-- What is sent and received for a listing are visits that are safe.  No
    more items are received than are wanted; nothing is sent if none are
    wanted, and if all pages hold items, then there are no more visits than
    items wanted. -/
def ReadsSafely (c : Collection) (r : ListRequest) (wanted : Nat)
    (sent : List (Outgoing × Http.Reply)) (received : List Json) : Prop :=
  ∃ visits, SafePaging c r wanted visits ∧ visits.flatMap (·.sent) = sent ∧
    visits.flatMap (·.kept) = received ∧ received.length ≤ wanted ∧ (wanted = 0 → visits = []) ∧
    ((∀ v ∈ visits, ∀ page, v.page = .ok page → page.items ≠ []) → visits.length ≤ wanted)

section readers

variable {ω α : Type} {w : World ω} {c : Collection} {r : ListRequest} {wanted : Nat}

/-- The visits of a listing from its start are a safe reading. -/
theorem readsSafely_of_visits (hwanted : r.limit = some wanted) {visits : List PageVisit}
    (h : Visits c r {} visits) :
    c.ReadsSafely r wanted (visits.flatMap (·.sent)) (visits.flatMap (·.kept)) := by
  have hsafe := safePaging_of_visits hwanted h
  refine ⟨visits, hsafe, rfl, rfl, hsafe.length_kept_le, ?_, hsafe.length_le⟩
  intro hzero
  cases visits with
  | nil => rfl
  | cons v after =>
    -- even the first visit would need something to be wanted
    have hsplit : v :: after = [] ++ v :: after := rfl
    have hlt := hsafe.length_kept_lt hsplit
    omega

/-- A feed that is made from the pages sends what visits send. -/
theorem exists_visits_of_driven {τ β : Type} {made : Feed τ β} {source : τ → Option Paging}
    (hdriven : made.IsDrivenBy w (c.pages r) source) {t : τ} {x : ω} {draws : List (Draw τ β)}
    (h : made.Draws w t x draws) (hsource : source t = some {}) :
    ∃ visits, Visits c r {} visits ∧ visits.flatMap (·.sent) = draws.flatMap (·.sent) := by
  obtain ⟨pages, hpages, hsent⟩ := h.of_driven hdriven
  rw [hsource] at hpages
  obtain ⟨visits, hvisits, hsent', -⟩ := visits_of_draws hpages
  exact ⟨visits, hvisits, hsent'.trans hsent⟩

/-- What the list of the items sends is what visits send. -/
theorem exists_visits_list (w : World ω) (c : Collection) (r : ListRequest) (decode : Decoder α)
    (budget : Nat) (x : ω) :
    ∃ visits, Visits c r {} visits ∧
      visits.flatMap (·.sent) = exchanges (turns w (c.list decode budget r) x) := by
  have hitems := Feed.total_step_items (c.total_step_pages r)
  obtain ⟨draws, hdraws, hsent⟩ := Feed.draws_collect hitems decode budget { source := {} } x
  unfold list
  rw [hsent]
  exact exists_visits_of_driven (Feed.isDrivenBy_items w (c.total_step_pages r)) hdraws rfl

/-- So do the items one by one. -/
theorem exists_visits_listItems (w : World ω) (c : Collection) (r : ListRequest)
    (decode : Decoder α) (budget : Nat) (count : Option Nat) (x : ω) :
    ∃ visits, Visits c r {} visits ∧
      visits.flatMap (·.sent) = exchanges (turns w (c.listItems decode budget r count) x) := by
  have hitems := Feed.total_step_items (c.total_step_pages r)
  obtain ⟨draws, hdraws, hsent⟩ :=
    Feed.draws_take hitems decode budget (count.getD (budget + 1)) { source := {} } x
  unfold listItems
  rw [hsent]
  exact exists_visits_of_driven (Feed.isDrivenBy_items w (c.total_step_pages r)) hdraws rfl

/-- So do the items in chunks, whose size takes the place of the chunk
    size. -/
theorem exists_visits_listChunks (w : World ω) (c : Collection) (r : ListRequest)
    (decode : Decoder α) (budget size : Nat) (count : Option Nat) (x : ω) :
    ∃ visits, Visits c { r with chunkSize := some size } {} visits ∧
      visits.flatMap (·.sent) =
        exchanges (turns w (c.listChunks decode budget r size count) x) := by
  have hpages := c.total_step_pages { r with chunkSize := some size }
  obtain ⟨draws, hdraws, hsent⟩ := Feed.draws_take (Feed.total_step_regrouped size hpages)
    decode.list budget (count.getD (budget + 1)) { source := some {} } x
  unfold listChunks
  rw [hsent]
  exact exists_visits_of_driven (Feed.isDrivenBy_regrouped w size hpages) hdraws rfl

end readers

/-- **Paging is safe against any server.**  In every world, whatever is drawn
    from the pages of a listing with a limit is visits that are safe, and
    hands out what they receive.  The list of the items, the items one by
    one, and the items in chunks, for which pages are no larger than a
    chunk, ask for pages in the same way. -/
theorem paging_safe {ω α : Type} (w : World ω) (c : Collection) {r : ListRequest} {wanted : Nat}
    (hwanted : r.limit = some wanted) (x : ω) :
    (∀ draws, (c.pages r).Draws w {} x draws →
      c.ReadsSafely r wanted (draws.flatMap (·.sent))
        (draws.filterMap (·.step.value?)).flatten) ∧
      ∀ (decode : Decoder α) (budget : Nat) (count : Option Nat),
        (∃ received, c.ReadsSafely r wanted
          (exchanges (turns w (c.list decode budget r) x)) received) ∧
        (∃ received, c.ReadsSafely r wanted
          (exchanges (turns w (c.listItems decode budget r count) x)) received) ∧
        ∀ size, ∃ received, c.ReadsSafely { r with chunkSize := some size } wanted
          (exchanges (turns w (c.listChunks decode budget r size count) x)) received := by
  constructor
  · intro draws hdraws
    obtain ⟨visits, hvisits, hsent, hkept⟩ := visits_of_draws hdraws
    rw [← hsent, ← hkept]
    exact readsSafely_of_visits hwanted hvisits
  · intro decode budget count
    refine ⟨?_, ?_, ?_⟩
    · obtain ⟨visits, hvisits, hsent⟩ := exists_visits_list w c r decode budget x
      rw [← hsent]
      exact ⟨_, readsSafely_of_visits hwanted hvisits⟩
    · obtain ⟨visits, hvisits, hsent⟩ := exists_visits_listItems w c r decode budget count x
      rw [← hsent]
      exact ⟨_, readsSafely_of_visits hwanted hvisits⟩
    · intro size
      obtain ⟨visits, hvisits, hsent⟩ := exists_visits_listChunks w c r decode budget size count x
      rw [← hsent]
      exact ⟨_, readsSafely_of_visits (r := { r with chunkSize := some size }) hwanted hvisits⟩

/-! ## A server without an end -/

/-- A server that answers every request with three items and a cursor, which
    is always the same. -/
def endless : World Unit where
  serve _ x :=
    (.response (Client.jsonReply
      (pageJson ⟨[.string "a", .string "b", .string "c"], some "again"⟩)), x)
  pick others x := (Fin.last others, x)

/-- A listing of which something is wanted asks for its first page. -/
theorem exists_first_request {ω α : Type} (w : World ω) {c : Collection} {r : ListRequest}
    (hreach : Client.IsReachable (c.client.config.projectUrl ++ c.listPath r.method))
    (hlimit : r.pageLimit c.limits.list 0 ≠ 0) (decode : Decoder α) (budget : Nat) (x : ω) :
    ∃ sent reply later,
      exchanges (turns w (c.list decode (budget + 1) r) x) = (sent, reply) :: later ∧
      Client.IsSentFor (c.pageRequest r (r.pageLimit c.limits.list 0) none) sent := by
  obtain ⟨page, x₁, hfetch⟩ :=
    run_of_total w (c.total_fetchPage r (r.pageLimit c.limits.list 0) none) x
  obtain ⟨outcome, hhistory, -⟩ := history_of_runs_fetchPage (runs_of_run hfetch)
  obtain ⟨sent, reply, later, hsent, hfor⟩ :=
    hhistory.exists_cons (c.url_pageRequest r _ _ ▸ hreach)
  -- the request is the first thing that the first step of the items asks
  obtain ⟨step, x₂, hstep⟩ := run_of_total w (c.total_step_pages r {}) x
  obtain ⟨item, x₃, hitem⟩ :=
    run_of_total w (Feed.total_step_items (c.total_step_pages r) { source := {} }) x
  unfold list Feed.collect
  rw [Dialogue.bind_eq, turns_bind_of_run hitem, exchanges_append, Feed.turns_step_items hstep,
    turns_step_pages rfl hlimit, hsent]
  exact ⟨sent, reply, _, rfl, hfor⟩

/-- A listing whose filter names a cursor. -/
def filteredByCursor : ListRequest :=
  .new .get (some (.raw (.ofList [("cursor", .string "abc")]))) (some 1) none

/-- In a query the members of the filter stand beside the limit and the
    cursor, so that the first request may name a cursor. -/
theorem first_request_names_cursor :
    ∃ sent reply later,
      exchanges (turns endless (plainAssets.list .json 1 filteredByCursor) ()) =
        (sent, reply) :: later ∧
      sent.request.query.lookup "cursor" = some "abc" := by
  have hreach : Client.IsReachable
      (plainAssets.client.config.projectUrl ++ plainAssets.listPath filteredByCursor.method) := by
    decide +kernel
  have hlimit : filteredByCursor.pageLimit plainAssets.limits.list 0 ≠ 0 := by decide
  obtain ⟨sent, reply, later, hsent, headers, hrequest⟩ :=
    exists_first_request endless hreach hlimit .json 0 ()
  refine ⟨sent, reply, later, hsent, ?_⟩
  rw [hrequest]
  rfl

/-- A listing of two items. -/
def firstTwo : ListRequest := .new .post none (some 2) none

/-- Two items of a server without an end. -/
theorem list_two_of_endless :
    firstTwo.limit = some 2 ∧
      exchanges (turns endless (plainAssets.list .json 5 firstTwo) ()) ≠ [] ∧
      ∃ received, plainAssets.ReadsSafely firstTwo 2
        (exchanges (turns endless (plainAssets.list .json 5 firstTwo) ())) received := by
  have hwanted : firstTwo.limit = some 2 := rfl
  have hreach : Client.IsReachable
      (plainAssets.client.config.projectUrl ++ plainAssets.listPath firstTwo.method) := by
    decide +kernel
  have hlimit : firstTwo.pageLimit plainAssets.limits.list 0 ≠ 0 := by decide
  obtain ⟨sent, reply, later, hsent, -⟩ :=
    exists_first_request endless hreach hlimit .json 4 ()
  obtain ⟨-, hread⟩ := paging_safe endless plainAssets hwanted ()
  refine ⟨hwanted, ?_, (hread .json 5 none).1⟩
  rw [hsent]
  exact List.cons_ne_nil _ _

end Collection

end ResourceClient
