import Mathlib
import ResourceClient.Proofs.Listing.Safety

/-! # What a listing receives

    In a world, a listing has one page request to make from where it was read
    to, and the world says what it comes to (`IsVisitIn`).  As long as these
    are pages, the listing receives them one after the other, each cut to the
    limit of its request (`Receives`).  No world stands in the way of this:
    in every one, pages are received until the listing is at its end or a
    page request fails (`exists_receives`).

    The page feed does just this.  A step of it makes the page request and
    hands out what is kept (`IsVisitIn.comesTo_step`), so that the values of
    the feed are the pages received, and then whatever comes behind them
    (`Receives.yields`).

    A server that gives its replies in turn (`inTurn`) receives each request
    once, unless the policy of the client asks for a repetition
    (`exists_isVisitIn_inTurn`). -/

namespace ResourceClient

open Dialogue

namespace Collection

variable {ω : Type}

/-- The visit that a listing makes in a world, from where it was read to and
    from a state of the world, and the state of the world after it. -/
structure IsVisitIn (w : World ω) (c : Collection) (r : ListRequest) (p : Paging) (x : ω)
    (v : PageVisit) (x' : ω) : Prop where
  finished_eq : p.finished = false
  limit_eq : v.limit = r.pageLimit c.limits.list p.fetched
  limit_pos : 1 ≤ v.limit
  cursor_eq : v.cursor = p.cursor
  comesTo : ComesTo w (c.fetchPage r v.limit v.cursor) x v.sent v.page x'

/-- The pages that a listing receives in a world, one after the other, from
    where it was read to; and where it is read to behind them, in which state
    of the world. -/
inductive Receives (w : World ω) (c : Collection) (r : ListRequest) :
    Paging → ω → List PageVisit → Paging → ω → Prop where
  /-- No page is asked for. -/
  | stop (p : Paging) (x : ω) : Receives w c r p x [] p x
  /-- A page is received, and then more of them. -/
  | page {p p' : Paging} {x x₁ x' : ω} {v : PageVisit} {page : Page} {later : List PageVisit}
      (hvisit : c.IsVisitIn w r p x v x₁) (hpage : v.page = .ok page)
      (hlater : Receives w c r (p.after r.limit v.kept.length v.next?) x₁ later p' x') :
    Receives w c r p x (v :: later) p' x'

section steps

variable {w : World ω} {c : Collection} {r : ListRequest} {p p' : Paging} {x x' : ω}

/-- A step of the page feed makes the visit: it hands out what is kept, or
    fails if that fails. -/
theorem IsVisitIn.comesTo_step {v : PageVisit} (h : c.IsVisitIn w r p x v x') :
    ComesTo w ((c.pages r).step p) x v.sent
      (match v.page with
        | .ok _ => .value v.kept (p.after r.limit v.kept.length v.next?)
        | .error e => .failure e) x' := by
  obtain ⟨hopen, hlimit, hpos, hcursor, hfetch⟩ := h
  rw [hlimit, hcursor] at hfetch
  rw [hlimit] at hpos
  simp only [pages, hopen, Bool.false_or, beq_iff_eq, if_neg (Nat.one_le_iff_ne_zero.1 hpos)]
  refine hfetch.bind_done ?_
  unfold PageVisit.kept PageVisit.next?
  cases hpage : v.page with
  | ok page =>
    rw [hlimit]
    rfl
  | error e => rfl

/-- The pages received are values of the page feed, before those that it hands
    out behind them. -/
theorem Receives.yields {visits : List PageVisit} (h : Receives w c r p x visits p' x')
    {values : List (List Json)} {fault : Option Error}
    (hlater : (c.pages r).Yields w p' x' values fault) :
    (c.pages r).Yields w p x (visits.map PageVisit.kept ++ values) fault := by
  induction h with
  | stop p x => exact hlater
  | page hvisit hpage _ ih =>
    have hstep := hvisit.comesTo_step.run_eq
    simp only [hpage] at hstep
    exact .value hstep (ih hlater)

/-- A listing that is not at its end makes a visit in every world. -/
theorem exists_isVisitIn (w : World ω) (c : Collection) {r : ListRequest} {p : Paging}
    (hopen : p.finished = false) (hlimit : 1 ≤ r.pageLimit c.limits.list p.fetched) (x : ω) :
    ∃ v x', c.IsVisitIn w r p x v x' := by
  obtain ⟨sent, page, x', hfetch⟩ := exists_comesTo_of_total w
    (c.total_fetchPage r (r.pageLimit c.limits.list p.fetched) p.cursor) x
  exact ⟨⟨_, _, sent, page⟩, x', hopen, rfl, hlimit, rfl, hfetch⟩

/-- Whatever the world is, as many pages are received as one likes, or the
    listing is at its end behind those that are, or a page request fails. -/
theorem exists_receives (w : World ω) (c : Collection) (r : ListRequest) (p : Paging) (x : ω)
    (pages : Nat) :
    ∃ visits p' x', Receives w c r p x visits p' x' ∧
      (visits.length = pages ∨
        (p'.finished = true ∨ r.pageLimit c.limits.list p'.fetched = 0) ∨
        ∃ v x'' e, c.IsVisitIn w r p' x' v x'' ∧ v.page = .error e) := by
  induction pages generalizing p x with
  | zero => exact ⟨[], p, x, .stop p x, Or.inl rfl⟩
  | succ pages ih =>
    by_cases hend : p.finished = true ∨ r.pageLimit c.limits.list p.fetched = 0
    · exact ⟨[], p, x, .stop p x, Or.inr (Or.inl hend)⟩
    · rw [not_or, Bool.not_eq_true, ← ne_eq, ← Nat.one_le_iff_ne_zero] at hend
      obtain ⟨v, x₁, hvisit⟩ := exists_isVisitIn w c hend.1 hend.2 x
      cases hpage : v.page with
      | error e => exact ⟨[], p, x, .stop p x, Or.inr (Or.inr ⟨v, x₁, e, hvisit, hpage⟩)⟩
      | ok page =>
        obtain ⟨later, p', x', hlater, hcases⟩ :=
          ih (p.after r.limit v.kept.length v.next?) x₁
        refine ⟨v :: later, p', x', .page hvisit hpage hlater, hcases.imp_left fun hlength => ?_⟩
        rw [List.length_cons, hlength]

end steps

/-! ## A server with replies in turn -/

/-- A server that gives its replies in turn, one for each request, and then
    refuses every connection. -/
def inTurn : World (List Http.Reply) where
  serve _ replies := (replies.headD .refused, replies.tail)
  pick others replies := (Fin.last others, replies)

/-- A page request that is answered in turn comes to what the reply holds. -/
theorem exists_isVisitIn_inTurn {c : Collection} {r : ListRequest}
    (hreach : Client.IsReachable (c.client.config.projectUrl ++ c.listPath r.method))
    {p : Paging} (hopen : p.finished = false) (hlimit : 1 ≤ r.pageLimit c.limits.list p.fetched)
    (reply : Http.Reply) (hfinal : ∀ replayable,
      (c.client.policy replayable).verdict {} (Client.attemptOf reply) = .final)
    (later : List Http.Reply) :
    ∃ sent, c.IsVisitIn inTurn r p (reply :: later)
      ⟨r.pageLimit c.limits.list p.fetched, p.cursor, [(sent, reply)], pageOfReply reply⟩
      later := by
  have hrequest : ∃ sent, ComesTo inTurn
      (c.requestPage r (r.pageLimit c.limits.list p.fetched) p.cursor) (reply :: later)
      [(sent, reply)] (Client.successful (Client.attemptOf reply)) later := by
    unfold requestPage
    cases hmethod : r.method with
    | get =>
      rw [hmethod] at hreach
      exact Client.exists_comesTo_request _ _ _ hreach (fun _ => rfl) (hfinal _)
    | post =>
      rw [hmethod] at hreach
      exact Client.exists_comesTo_request _ _ _ hreach (fun _ => rfl) (hfinal _)
  obtain ⟨sent, hcomes⟩ := hrequest
  exact ⟨sent, hopen, rfl, hlimit, rfl, hcomes.bind_done rfl⟩

/-- Assets that are asked for within limits. -/
def assetsWithin (limits : RequestLimits) : Collection := { plainAssets with limits }

theorem isReachable_listPath (limits : RequestLimits) (method : ListMethod) :
    Client.IsReachable ((assetsWithin limits).client.config.projectUrl ++
      (assetsWithin limits).listPath method) := by
  have hreach : Client.IsReachable
      (plainAssets.client.config.projectUrl ++ plainAssets.listPath method) := by
    cases method <;> decide +kernel
  exact hreach

/-- The reply with a page. -/
def pageReply (page : Page) : Http.Reply := .response (Client.jsonReply (pageJson page))

/-- A page of assets is received with the reply that holds it. -/
theorem exists_isVisitIn_pageReply (limits : RequestLimits) (r : ListRequest) {p : Paging}
    (hopen : p.finished = false) (hlimit : 1 ≤ r.pageLimit limits.list p.fetched) (page : Page)
    (hplain : ∀ v ∈ page.items, Json.Plain 125 v) (later : List Http.Reply) :
    ∃ sent, (assetsWithin limits).IsVisitIn inTurn r p (pageReply page :: later)
      ⟨r.pageLimit limits.list p.fetched, p.cursor, [(sent, pageReply page)], .ok page⟩ later := by
  rw [← pageOfReply_jsonReply hplain]
  refine exists_isVisitIn_inTurn (c := assetsWithin limits) (isReachable_listPath limits r.method)
    hopen hlimit (pageReply page) (fun replayable => ?_) later
  cases replayable <;> rfl

end Collection

end ResourceClient
