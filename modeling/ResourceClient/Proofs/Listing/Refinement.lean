import Mathlib
import ResourceClient.Collection.Listing
import ResourceClient.Proofs.Listing.Feed
import ResourceClient.Proofs.Listing.Server

/-! # Listing refines the collection

    The invariant of a listing is that the number of items received is the
    position of its cursor.  From a state with this invariant the pages of
    the listing hold exactly the wanted items that were not received yet
    (`yields_pages`), by induction on the page requests that are left.  The
    three ways to read a listing draw on the same pages
    (`listing_refines`). -/

namespace ResourceClient.Collection

open Dialogue

variable {ω : Type}

/-! ## The pages of a listing -/

/-- The wanted items of a list: all, or the first so many. -/
def wanted (limit : Option Nat) (held : List Json) : List Json :=
  match limit with
  | none => held
  | some n => held.take n

/-- A page may hold no items only when as many as wanted were received. -/
theorem satisfies_of_pageLimit_eq_zero {r : ListRequest} {listLimit fetched : Nat}
    (hlist : 0 < listLimit) (hsize : ∀ size, r.chunkSize = some size → 0 < size)
    (h : r.pageLimit listLimit fetched = 0) : Paging.satisfies fetched r.limit = true := by
  cases hchunk : r.chunkSize with
  | none =>
    cases hlimit : r.limit <;> simp only [ListRequest.pageLimit, hchunk, hlimit] at h <;>
      simp [Paging.satisfies] <;> omega
  | some size =>
    have hpos := hsize size hchunk
    cases hlimit : r.limit <;> simp only [ListRequest.pageLimit, hchunk, hlimit] at h <;>
      simp [Paging.satisfies] <;> omega

/-- The listing is at its end when nothing is left, or as many items as
    wanted were received. -/
theorem drop_wanted_of_satisfies {r : ListRequest} {fetched : Nat} {held : List Json}
    (h : held.length ≤ fetched ∨ Paging.satisfies fetched r.limit = true) :
    (wanted r.limit held).drop fetched = [] := by
  apply List.drop_eq_nil_of_le
  cases hlimit : r.limit with
  | none => simpa [wanted, Paging.satisfies, hlimit] using h
  | some n =>
    rw [wanted, List.length_take]
    simp only [Paging.satisfies, hlimit, decide_eq_true_eq] at h
    omega

/-- A page extends the items received by the next wanted ones. -/
theorem drop_wanted_eq_append {r : ListRequest} {listLimit fetched : Nat} {held items : List Json}
    (hitems : items <+: held.drop fetched)
    (hlength : items.length ≤ r.pageLimit listLimit fetched) :
    (wanted r.limit held).drop fetched =
      items ++ (wanted r.limit held).drop (fetched + items.length) := by
  have hprefix : items <+: (wanted r.limit held).drop fetched := by
    cases hlimit : r.limit with
    | none => exact hitems
    | some n =>
      have hle := hlength.trans (r.pageLimit_le_wanted hlimit listLimit fetched)
      rw [wanted, List.drop_take]
      exact List.prefix_take_iff.2 ⟨hitems, hle⟩
  obtain ⟨later, hlater⟩ := hprefix
  rw [← List.drop_drop, ← hlater, List.drop_left]

/-- The pages are at their end when the listing is, or when a page may hold
    no items. -/
theorem step_pages_of_end {c : Collection} {r : ListRequest} {s : Paging}
    (h : s.finished = true ∨ r.pageLimit c.limits.list s.fetched = 0) :
    (c.pages r).step s = .done .finished := by
  rcases h with hfinished | hlimit
  · simp [pages, hfinished]
  · simp [pages, hlimit]

theorem run_step_pages_of_end (w : World ω) {c : Collection} {r : ListRequest} {s : Paging}
    (h : s.finished = true ∨ r.pageLimit c.limits.list s.fetched = 0) (x : ω) :
    ((c.pages r).step s).run w x = some (.finished, x) := by
  rw [step_pages_of_end h, run_done]

/-- Otherwise a page is fetched, and is cut to its limit. -/
theorem run_step_pages_of_fetch {w : World ω} {c : Collection} {r : ListRequest}
    {cursor : Option String} {fetched : Nat} {x x' : ω} {page : Page}
    (hpos : 0 < r.pageLimit c.limits.list fetched)
    (hrun : (c.fetchPage r (r.pageLimit c.limits.list fetched) cursor).run w x =
      some (.ok page, x')) :
    ((c.pages r).step { cursor, fetched }).run w x =
      some (.value (page.items.take (r.pageLimit c.limits.list fetched))
        (Paging.after { cursor, fetched } r.limit
          (page.items.take (r.pageLimit c.limits.list fetched)).length page.nextCursor), x') := by
  simp only [pages, Bool.false_or, beq_iff_eq, if_neg hpos.ne', Dialogue.bind_eq,
    Dialogue.run_bind, hrun, Option.bind_some]
  rfl

/-- Nothing is cut of a page that keeps to its limit. -/
theorem run_step_pages_of_page {w : World ω} {c : Collection} {r : ListRequest}
    {cursor : Option String} {fetched : Nat} {x x' : ω} {page : Page}
    (hpos : 0 < r.pageLimit c.limits.list fetched)
    (hlength : page.items.length ≤ r.pageLimit c.limits.list fetched)
    (hrun : (c.fetchPage r (r.pageLimit c.limits.list fetched) cursor).run w x =
      some (.ok page, x')) :
    ((c.pages r).step { cursor, fetched }).run w x =
      some (.value page.items (Paging.after { cursor, fetched } r.limit page.items.length
        page.nextCursor), x') := by
  have hstep := run_step_pages_of_fetch hpos hrun
  rwa [List.take_of_length_le hlength] at hstep

/-- From a state in which the number of items received is the position of
    the cursor, the pages hold the wanted items that were not received. -/
theorem yields_pages {w : World ω} {c : Collection} {r : ListRequest} {held : List Json}
    {position : String → Nat} (hserves : Serves w c r held position) (hlist : 0 < c.limits.list)
    (hsize : ∀ size, r.chunkSize = some size → 0 < size) {cursor : Option String} {x : ω}
    (hends : Ends w c r cursor x) {fetched : Nat}
    (hfetched : (cursor.map position).getD 0 = fetched) :
    ∃ pages, (c.pages r).Yields w { cursor, fetched } x pages none ∧
      pages.flatten = (wanted r.limit held).drop fetched := by
  induction hends generalizing fetched with
  | @page cursor x hnext ih =>
    by_cases hlimit : r.pageLimit c.limits.list fetched = 0
    · -- no more items are wanted
      have henough := satisfies_of_pageLimit_eq_zero hlist hsize hlimit
      refine ⟨[], .finished (run_step_pages_of_end w (Or.inr hlimit) x), ?_⟩
      exact (drop_wanted_of_satisfies (Or.inr henough)).symm
    · have hpos : 0 < r.pageLimit c.limits.list fetched := Nat.pos_of_ne_zero hlimit
      -- a page is fetched, and starts where the items received end
      obtain ⟨page, x', hrun, hat⟩ := hserves.run_fetchPage hpos cursor x
      obtain ⟨hlength, hitems, hposition, hnothing⟩ := hat
      rw [hfetched] at hitems hposition hnothing
      have hstep := run_step_pages_of_page hpos hlength hrun
      let rest := Paging.after { cursor, fetched } r.limit page.items.length page.nextCursor
      have hrest : ∃ later, (c.pages r).Yields w rest x' later none ∧
          later.flatten = (wanted r.limit held).drop (fetched + page.items.length) := by
        by_cases hfinished : rest.finished = true
        · -- it was the last page: no cursor came with it, or enough was received
          refine ⟨[], .finished (run_step_pages_of_end w (Or.inl hfinished) x'), ?_⟩
          simp only [rest, Paging.after, Bool.or_eq_true, Option.isNone_iff_eq_none] at hfinished
          exact (drop_wanted_of_satisfies (hfinished.imp_left hnothing)).symm
        · cases hcursor : page.nextCursor with
          | none => simp [rest, Paging.after, hcursor] at hfinished
          | some next =>
            -- the cursor has moved on by the items of the page
            have hgoes :
                rest = { cursor := some next, fetched := fetched + page.items.length } := by
              simp only [rest, Paging.after, hcursor] at hfinished ⊢
              simpa using hfinished
            rw [hgoes]
            exact ih _ page x' next hpos hrun hcursor (hposition next hcursor)
      obtain ⟨later, hlater, hflatten⟩ := hrest
      refine ⟨page.items :: later, .value hstep hlater, ?_⟩
      rw [List.flatten_cons, hflatten, ← drop_wanted_eq_append hitems hlength]

/-! ## The three ways to read a listing -/

/-- How many items the caller takes changes nothing about the page requests. -/
theorem Ends.withLimits {w : World ω} {c : Collection} {r : ListRequest}
    {cursor : Option String} {x : ω} (h : Ends w c r cursor x) (limit chunkSize : Option Nat) :
    Ends w c { r with limit, chunkSize } cursor x := by
  induction h with
  | page _ ih =>
    exact .page fun p page x' next hpos hrun hcursor => ih p page x' next hpos hrun hcursor

theorem Serves.withLimits {w : World ω} {c : Collection} {r : ListRequest} {held : List Json}
    {position : String → Nat} (h : Serves w c r held position) (limit chunkSize : Option Nat) :
    Serves w c { r with limit, chunkSize } held position :=
  ⟨h.reachable, h.answers⟩

/-- The pages of a listing that starts hold the wanted items. -/
theorem yields_pages_start {w : World ω} {c : Collection} {r : ListRequest} {held : List Json}
    {position : String → Nat} (hserves : Serves w c r held position) {x : ω}
    (hends : Ends w c r none x) (hlist : 0 < c.limits.list) (limit chunkSize : Option Nat)
    (hsize : ∀ size, chunkSize = some size → 0 < size) :
    ∃ pages, (c.pages { r with limit, chunkSize }).Yields w {} x pages none ∧
      pages.flatten = wanted limit held := by
  obtain ⟨pages, hyields, hflatten⟩ :=
    yields_pages (hserves.withLimits limit chunkSize) hlist hsize
      (hends.withLimits limit chunkSize) rfl
  exact ⟨pages, hyields, hflatten⟩

/-- **Listing refines the collection.**  Whatever pages a server makes of the
    list that it holds, if they end, then a listing of all or of the first
    items, an item feed and a chunk feed give these items, each in its own
    form: the list of the items read, the items read one by one, and the
    items in chunks of the wanted size. -/
theorem listing_refines {α : Type} {w : World ω} {c : Collection} (method : ListMethod)
    (filter : Option Filter) {held : List Json} {position : String → Nat}
    (hserves : Serves w c (.new method filter none none) held position) {x : ω}
    (hends : Ends w c (.new method filter none none) none x) (hlist : 1 ≤ c.limits.list)
    (decode : Decoder α) (limit : Option Nat) (size : Nat) (hsize : 1 ≤ size) :
    ∃ enough, ∀ budget ≥ enough,
      (∃ x', (c.list decode budget (.new method filter limit none)).run w x =
        some ((wanted limit held).mapM decode, x')) ∧
      (∃ x', (c.listItems decode budget (.new method filter limit none)).run w x =
        some ((wanted limit held).map decode, x')) ∧
      (∃ x', (c.listChunks decode budget (.new method filter limit none) size).run w x =
        some ((chunks size (wanted limit held)).map decode.list, x')) ∧
      (chunks size (wanted limit held)).flatten = wanted limit held := by
  -- the list and the item feed draw on pages of any size
  obtain ⟨pages, hpages, hflatten⟩ :=
    yields_pages_start hserves hends hlist limit none (by simp)
  have hitems := hpages.items
  rw [hflatten] at hitems
  -- the chunk feed asks for pages no larger than a chunk
  obtain ⟨groups, hgroups, hregrouped⟩ :=
    yields_pages_start hserves hends hlist limit (some size) (by rintro _ ⟨⟩; exact hsize)
  have hchunks := hgroups.regrouped hsize []
  rw [List.nil_append, hregrouped] at hchunks
  obtain ⟨enough₁, hlisted⟩ := hitems.collect decode
  obtain ⟨enough₂, htaken⟩ := hitems.take decode
  obtain ⟨enough₃, hgrouped⟩ := hchunks.take decode.list
  -- the budget also bounds how many values are drawn
  refine ⟨max (max enough₁ (max enough₂ (wanted limit held).length))
    (max enough₃ (chunks size (wanted limit held)).length), ?_⟩
  intro budget hbudget
  refine ⟨?_, ?_, ?_, flatten_chunks size _⟩
  · obtain ⟨x', hrun⟩ := hlisted budget (by omega)
    rw [Feed.collected_none] at hrun
    exact ⟨x', hrun⟩
  · obtain ⟨x', hrun⟩ := htaken budget (by omega) (budget + 1)
    refine ⟨x', hrun.trans ?_⟩
    rw [Option.toList_none, List.map_nil, List.append_nil, List.take_of_length_le]
    rw [List.length_map]
    omega
  · obtain ⟨x', hrun⟩ := hgrouped budget (by omega) (budget + 1)
    refine ⟨x', hrun.trans ?_⟩
    rw [Option.toList_none, List.map_nil, List.append_nil, List.take_of_length_le]
    · rfl
    · rw [List.length_map, Feed.chunksUntil]
      omega

/-- The first two of three items, from a server that hands them out one by
    one. -/
theorem list_two_of_three_one_by_one :
    1 ≤ plainAssets.limits.list ∧
      ∃ enough, ∀ budget ≥ enough, ∃ x',
        (plainAssets.list .json budget (.new .post none (some 2) none)).run
          (oneByOne [.string "a", .string "b", .string "c"]) () =
            some (.ok [.string "a", .string "b"], x') := by
  have hheld : ∀ v ∈ [Json.string "a", .string "b", .string "c"], Json.Plain 125 v := by
    simp [Json.Plain]
  have hreach : Client.IsReachable
      (plainAssets.client.config.projectUrl ++ plainAssets.listPath .post) := by decide +kernel
  obtain ⟨enough, hlist⟩ := listing_refines .post none
    (serves_oneByOne hheld (r := .new .post none none none) rfl hreach)
    (ends_oneByOne hheld (r := .new .post none none none) rfl hreach none ())
    (by decide) .json (some 2) 2 (by decide)
  refine ⟨by decide, enough, fun budget hbudget => ?_⟩
  obtain ⟨⟨x', hrun⟩, -⟩ := hlist budget hbudget
  exact ⟨x', hrun⟩

end ResourceClient.Collection
