import Mathlib
import ResourceClient.Proofs.Dialogue.Endings
import ResourceClient.Proofs.Listing.Safety

/-! # Listings that are read to their ends

    Reading a whole listing visits a chain of pages, and the chain ends
    where the listing does or with an error (`Chain`).  A run of the reader
    is such a chain, and comes to the items of its pages, or to the error
    (`reads_of_runs_collect`).

    What a chain keeps to is said once for all of its visits (`IsChain`):
    every request asks for the page at the cursor that the page before it
    gave, and the first one asks without a cursor.  Nothing comes from
    anywhere else.

    A listing may have no end.  Where it has one (`EndsWithin`), the reader
    ends with it, whatever else goes on in the world meanwhile
    (`endsIn_collect`).

    The labels of a request, by which the chains of several listings can be
    told apart, are those of the listing (`labelsOf`). -/

namespace ResourceClient

open Dialogue

/-- The visits of a listing that was read to its end, and the error that
    ended it, if there was one. -/
structure Chain where
  visits : List PageVisit
  fault : Option Error

namespace Chain

/-- What was sent in the visits. -/
def sent (ch : Chain) : List (Outgoing × Http.Reply) := ch.visits.flatMap PageVisit.sent

/-- The items that were kept, in the order of the pages. -/
def items (ch : Chain) : List Json := ch.visits.flatMap PageVisit.kept

/-- What the reader of the listing comes to. -/
def result (ch : Chain) : Result (List Json) :=
  match ch.fault with
  | none => .ok ch.items
  | some e => .error e

theorem result_eq_ok_iff (ch : Chain) : (∃ items, ch.result = .ok items) ↔ ch.fault = none := by
  unfold result
  cases ch.fault with
  | none => exact ⟨fun _ => rfl, fun _ => ⟨_, rfl⟩⟩
  | some e =>
    constructor
    · rintro ⟨_, h⟩
      cases h
    · intro h
      cases h

end Chain

namespace Collection

/-- A listing that is read to its end from where it was read to. -/
inductive Reads (c : Collection) (r : ListRequest) : Paging → Chain → Prop where
  /-- It is at its end. -/
  | finished {p : Paging}
      (hend : p.finished = true ∨ r.pageLimit c.limits.list p.fetched = 0) :
    Reads c r p ⟨[], none⟩
  /-- A page fails. -/
  | failed {p : Paging} {v : PageVisit} {e : Error} (hvisit : c.IsVisitAt r p v)
      (hpage : v.page = .error e) : Reads c r p ⟨[v], some e⟩
  /-- A page is read, and then the rest. -/
  | page {p : Paging} {v : PageVisit} {page : Page} {later : List PageVisit}
      {fault : Option Error} (hvisit : c.IsVisitAt r p v) (hpage : v.page = .ok page)
      (hlater : Reads c r (p.after r.limit v.kept.length v.next?) ⟨later, fault⟩) :
    Reads c r p ⟨v :: later, fault⟩

theorem Reads.visits {c : Collection} {r : ListRequest} {p : Paging} {ch : Chain}
    (h : Reads c r p ch) : Visits c r p ch.visits := by
  induction h with
  | finished _ => exact .stop _
  | failed hvisit _ => exact .visit hvisit (.stop _)
  | page hvisit _ _ ih => exact .visit hvisit ih

/-- Collecting the items of a listing reads it to its end.  By induction on
    the budget: a step hands out an item that is held, or it is a step of
    the pages. -/
theorem reads_of_runs_collect {c : Collection} {r : ListRequest} {p : Paging}
    {held : List Json} {budget : Nat} {ts : List Turn} {result : Result (List Json)}
    (h : Runs ((c.pages r).items.collect Decoder.json budget { source := p, held }) ts result) :
    ∃ ch, Reads c r p ch ∧ exchanges ts = ch.sent ∧ result = ch.result.map (held ++ ·) := by
  induction budget generalizing p held ts result with
  | zero => exact absurd h not_runs_abandoned
  | succ budget ih =>
    obtain ⟨step, ts₁, ts₂, rfl, hstep, hrest⟩ := runs_bind_iff.1 h
    cases held with
    | cons a held =>
      obtain ⟨rfl, rfl⟩ := runs_done_iff.1 hstep
      obtain ⟨later, ts₃, ts₄, rfl, hlater, hdone⟩ := runs_bind_iff.1 hrest
      obtain ⟨rfl, rfl⟩ := runs_done_iff.1 hdone
      obtain ⟨ch, hreads, hsent, rfl⟩ := ih hlater
      refine ⟨ch, hreads, by rw [List.nil_append, List.append_nil, hsent], ?_⟩
      cases ch.result <;> rfl
    | nil =>
      obtain ⟨page, ts₃, ts₄, rfl, hpage, hgoes⟩ := runs_bind_iff.1 hstep
      rcases runs_step_pages hpage with ⟨rfl, rfl, hend⟩ |
        ⟨v, hvisit, hsent, ⟨e, hfault, rfl⟩ | ⟨page, hread, rfl⟩⟩
      · obtain ⟨rfl, rfl⟩ := runs_done_iff.1 hgoes
        obtain ⟨rfl, rfl⟩ := runs_done_iff.1 hrest
        exact ⟨_, .finished hend, rfl, rfl⟩
      · obtain ⟨rfl, rfl⟩ := runs_done_iff.1 hgoes
        obtain ⟨rfl, rfl⟩ := runs_done_iff.1 hrest
        refine ⟨_, .failed hvisit hfault, ?_, rfl⟩
        simp [Chain.sent, hsent]
      · obtain ⟨rfl, rfl⟩ := runs_done_iff.1 hgoes
        obtain ⟨ch, hreads, hlater, rfl⟩ := ih hrest
        refine ⟨⟨v :: ch.visits, ch.fault⟩, .page hvisit hread hreads, ?_, ?_⟩
        · rw [List.append_nil, exchanges_append, hlater, ← hsent]
          rfl
        · obtain ⟨visits, fault⟩ := ch
          cases fault <;> rfl

/-! ## What a chain keeps to -/

/-- The law of a chain of pages. -/
structure IsChain (c : Collection) (r : ListRequest) (ch : Chain) : Prop where
  /-- A visit is a run of its page request. -/
  isFetch : ∀ v ∈ ch.visits, c.IsFetch r v
  /-- Whatever is sent in a visit asks for its page. -/
  asks : ∀ v ∈ ch.visits, ∀ e ∈ v.sent, c.AsksForPage r e.1.request v.limit v.cursor
  /-- If the filter names neither limit nor cursor, nothing else in a query
      does. -/
  asks_only : ∀ v ∈ ch.visits, ∀ e ∈ v.sent, r.method = .get → r.filter.get? "limit" = none →
    r.filter.get? "cursor" = none →
      ListRequest.pageOfQuery e.1.request.query = some (v.limit, v.cursor)
  /-- A page is read from the last reply. -/
  answered : ∀ v ∈ ch.visits, ∀ page, v.page = .ok page → ∃ earlier request response,
    v.sent = earlier ++ [(request, .response response)] ∧ pageOf response = .ok page
  /-- A page may hold as many items as the collection allows. -/
  limit_eq : ∀ v ∈ ch.visits, v.limit = c.limits.list
  /-- The first visit has no cursor. -/
  first : ∀ v later, ch.visits = v :: later → v.cursor = none
  /-- Every other visit follows a page with a cursor, and has that cursor. -/
  next : ∀ before u v after, ch.visits = before ++ u :: v :: after →
    ∃ page next, u.page = .ok page ∧ page.nextCursor = some next ∧ v.cursor = some next
  /-- There are no visits only if pages may not hold anything. -/
  exists_visit : ch.visits = [] → c.limits.list = 0 ∧ ch.fault = none
  /-- The last visit fails with the error of the chain, or comes to a page
      without a cursor. -/
  last : ∀ before v, ch.visits = before ++ [v] →
    match ch.fault with
    | some e => v.page = .error e
    | none => ∃ page, v.page = .ok page ∧ page.nextCursor = none

/-- How the last visit of a listing without limits ends. -/
theorem Reads.last {c : Collection} {r : ListRequest} (hlimit : r.limit = none)
    (hchunk : r.chunkSize = none) {p : Paging} {ch : Chain} (h : Reads c r p ch)
    {before : List PageVisit} {v : PageVisit} (hsplit : ch.visits = before ++ [v]) :
    match ch.fault with
    | some e => v.page = .error e
    | none => ∃ page, v.page = .ok page ∧ page.nextCursor = none := by
  induction h generalizing before with
  | finished _ => simp at hsplit
  | @failed p u e _ hpage =>
    obtain ⟨-, hlast⟩ := List.append_eq_singleton_iff.1 hsplit.symm |>.resolve_right (by simp)
    cases hlast
    exact hpage
  | @page p u page later fault hvisit hpage hlater ih =>
    cases later with
    | nil =>
      obtain ⟨-, hlast⟩ := List.append_eq_singleton_iff.1 hsplit.symm |>.resolve_right (by simp)
      cases hlast
      cases hlater with
      | finished hend =>
        refine ⟨page, hpage, ?_⟩
        rcases hend with hfinished | hzero
        · -- the listing is at its end behind this page, so that the page has no cursor
          have hnext : v.next?.isNone = true := by
            simpa [Paging.after, Paging.satisfies, hlimit] using hfinished
          simpa [PageVisit.next?, hpage] using hnext
        · -- the visit would have had the same limit
          have hpos := hvisit.limit_pos
          rw [hvisit.limit_eq, ListRequest.pageLimit_eq hlimit hchunk] at hpos
          rw [ListRequest.pageLimit_eq hlimit hchunk] at hzero
          omega
    | cons w later =>
      cases before with
      | nil => simp at hsplit
      | cons first before =>
        obtain ⟨-, htail⟩ := List.cons.inj hsplit
        exact ih htail

/-- Reading a listing without limits from its start is a chain. -/
theorem Reads.isChain {c : Collection} {r : ListRequest} (hlimit : r.limit = none)
    (hchunk : r.chunkSize = none) {ch : Chain} (h : Reads c r {} ch) : c.IsChain r ch := by
  have hvisits := h.visits
  have hfetch : ∀ v ∈ ch.visits, c.IsFetch r v := by
    intro v hv
    obtain ⟨p, hvisit⟩ := hvisits.exists_isVisitAt hv
    exact hvisit.isFetch
  refine ⟨hfetch, fun v hv => (hfetch v hv).asks, ?_, fun v hv page => (hfetch v hv).answered,
    ?_, ?_, ?_, ?_, ?_⟩
  · intro v hv e he hmethod hnolimit hnocursor
    exact ((hfetch v hv).asks e he).pageOfQuery hmethod hnolimit hnocursor
  · intro v hv
    obtain ⟨p, hvisit⟩ := hvisits.exists_isVisitAt hv
    rw [hvisit.limit_eq, ListRequest.pageLimit_eq hlimit hchunk]
  · intro v later hsplit
    have hfirst : Visits c r {} ([] ++ v :: later) := hsplit ▸ hvisits
    exact hfirst.isVisitAt.cursor_eq
  · intro before u v after hsplit
    rw [hsplit] at hvisits
    exact hvisits.cursor_eq_next
  · intro hnone
    cases h with
    | finished hend =>
      rcases hend with hfinished | hzero
      · cases hfinished
      · rw [ListRequest.pageLimit_eq hlimit hchunk] at hzero
        exact ⟨hzero, rfl⟩
    | failed _ _ => cases hnone
    | page _ _ _ => cases hnone
  · intro before v hsplit
    exact h.last hlimit hchunk hsplit

/-! ## Listings that end -/

section ending

variable {σ : Type} {w : World σ} {c : Collection} {r : ListRequest}

/-- From where it was read to, and from a state of the world on, a listing
    has no more than so many pages, whatever else the world is asked in
    between. -/
def EndsWithin (c : Collection) (r : ListRequest) (w : World σ) (p : Paging) (s : σ)
    (pages : Nat) : Prop :=
  ∀ visits s', Visits c r p visits → w.Serves s (visits.flatMap PageVisit.sent) s' →
    visits.length ≤ pages

/-- Behind a page there is one page less. -/
theorem EndsWithin.after {p : Paging} {s s' : σ} {pages : Nat} (h : c.EndsWithin r w p s pages)
    {v : PageVisit} (hvisit : c.IsVisitAt r p v) (hserves : w.Serves s v.sent s') :
    ∃ left, pages = left + 1 ∧
      c.EndsWithin r w (p.after r.limit v.kept.length v.next?) s' left := by
  have hone : [v].length ≤ pages := by
    refine h [v] s' (.visit hvisit (.stop _)) ?_
    rwa [List.flatMap_singleton]
  obtain ⟨left, rfl⟩ := Nat.exists_eq_add_of_le' hone
  refine ⟨left, rfl, fun later s'' hlater hserves' => ?_⟩
  have hall := h (v :: later) s'' (.visit hvisit hlater) (hserves.append hserves')
  simpa using hall

/-- With a budget for its pages and for the items on them, the reader of a
    listing that ends comes to the end.  By induction on the budget: a step
    hands out an item that is held, or it is a step of the pages. -/
theorem endsIn_collect {p : Paging} {held : List Json} {s : σ} {pages budget : Nat}
    (h : c.EndsWithin r w p s pages)
    (hbudget : held.length + pages * (c.limits.list + 1) < budget) :
    EndsIn w ((c.pages r).items.collect Decoder.json budget { source := p, held }) s := by
  induction budget generalizing p held s pages with
  | zero => omega
  | succ budget ih =>
    cases held with
    | cons a held =>
      refine EndsIn.map (ih h ?_) _
      rw [List.length_cons] at hbudget
      omega
    | nil =>
      have hstep : EndsIn w ((c.pages r).items.step { source := p, held := [] }) s :=
        (Feed.total_step_items (c.total_step_pages r) _).endsIn w s
      refine hstep.bind fun ts step s' hruns hserves => ?_
      obtain ⟨page, ts₁, ts₂, rfl, hpage, hgoes⟩ := runs_bind_iff.1 hruns
      rcases runs_step_pages hpage with ⟨rfl, -, -⟩ |
        ⟨v, hvisit, hsent, ⟨e, -, rfl⟩ | ⟨page, -, rfl⟩⟩
      · obtain ⟨-, rfl⟩ := runs_done_iff.1 hgoes
        exact .done _ s'
      · obtain ⟨-, rfl⟩ := runs_done_iff.1 hgoes
        exact .done _ s'
      · obtain ⟨rfl, rfl⟩ := runs_done_iff.1 hgoes
        rw [List.append_nil, ← hsent] at hserves
        obtain ⟨left, rfl, hafter⟩ := h.after hvisit hserves
        -- the items of the page and those behind it are paid by the page
        have hkept : v.kept.length ≤ c.limits.list := by
          refine v.length_kept_le.trans ?_
          rw [hvisit.limit_eq]
          exact r.pageLimit_le_listLimit _ _
        refine ih hafter ?_
        rw [List.length_nil, Nat.succ_mul] at hbudget
        omega

end ending

end Collection

/-! ## Labels -/

/-- The labels that a request carries: those of its query, and the one of its
    body. -/
def labelsOf (request : Http.Request) : List String :=
  (request.query.filter (·.1 == "partition")).map (·.2) ++
    ((request.body.bind (·.get? "partition")).bind Json.string?).toList

/-- The label that the filter of a listing gives to its requests: the members
    of a filter stand beside the label in a query, but not in a body. -/
def ListRequest.filterLabel? (r : ListRequest) : Option String :=
  match r.method with
  | .get => (r.filter.get? "partition").map Json.queryText
  | .post => none

/-- Members of an object have one value. -/
theorem Fields.filter_entries (f : Fields) (key : String) :
    (f.entries.filter (·.1 == key)).map (·.2) = (f.get? key).toList := by
  unfold Fields.get?
  have hsorted := f.sorted
  generalize f.entries = entries at hsorted ⊢
  induction entries with
  | nil => rfl
  | cons e rest ih =>
    obtain ⟨name, value⟩ := e
    obtain ⟨hbelow, hrest⟩ := List.pairwise_cons.1 hsorted
    rw [List.lookup_cons]
    by_cases hname : name = key
    · subst hname
      -- no other member has the key, since the keys ascend
      have hnone : rest.filter (·.1 == name) = [] := by
        rw [List.filter_eq_nil_iff]
        intro e he
        simpa using (ne_of_lt (hbelow e he)).symm
      simp [hnone]
    · have hne : (key == name) = false := beq_false_of_ne (Ne.symm hname)
      simp [hname, hne, ih hrest]

/-- A page request carries the label of its listing behind that of the
    filter. -/
theorem Collection.labelsOf_pageRequest (c : Collection) {r : ListRequest} {label : String}
    (hlabel : r.partitionLabel = some label) (limit : Nat) (cursor : Option String) :
    labelsOf (c.pageRequest r limit cursor) = r.filterLabel?.toList ++ [label] := by
  unfold pageRequest ListRequest.filterLabel? labelsOf
  cases r.method with
  | get =>
    have hfilter : ((r.filter.entries.map fun e => (e.1, e.2.queryText)).filter
        (·.1 == "partition")).map (·.2) =
          ((r.filter.get? "partition").map Json.queryText).toList := by
      rw [Option.toList_map, ← Fields.filter_entries, List.filter_map, List.map_map, List.map_map]
      rfl
    simp only [Client.requestFor, ListRequest.query, hlabel, List.filter_append, List.map_append,
      hfilter]
    cases cursor <;> simp
  | post =>
    obtain ⟨-, hpartition, -⟩ := r.pageOfBody_body limit cursor
    simp only [Client.requestFor, Option.bind_some, hpartition, hlabel]
    rfl

/-- Whatever is sent for a listing carries its label behind that of the
    filter. -/
theorem Collection.Reads.labelsOf_eq {c : Collection} {r : ListRequest} {p : Paging} {ch : Chain}
    (h : c.Reads r p ch) {label : String} (hlabel : r.partitionLabel = some label) :
    ∀ e ∈ ch.sent, labelsOf e.1.request = r.filterLabel?.toList ++ [label] := by
  intro e he
  obtain ⟨v, hv, he⟩ := List.mem_flatMap.1 he
  obtain ⟨p', hvisit⟩ := h.visits.exists_isVisitAt hv
  obtain ⟨headers, hrequest⟩ := hvisit.isFetch.isSentFor e he
  rw [← c.labelsOf_pageRequest hlabel v.limit v.cursor, hrequest]
  rfl

end ResourceClient
