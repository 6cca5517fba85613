import Mathlib
import ResourceClient.Collection.Listing
import ResourceClient.Proofs.Listing.Receipt
import ResourceClient.Proofs.Listing.Refinement

/-! # Listings without a limit are complete

    A server hands out pages one after the other, each at the cursor of the
    one before, until a page comes without a cursor (`HandsOut`).  Nothing is
    said about the lengths of the pages.

    A listing without a limit asks for all of them, and keeps of each page as
    many items as it asked for (`HandsOut.yields`).  So what the server hands
    out is listed without a gap as long as no page is longer than it should
    be (`list_complete`).

    There are three ways to lose items: pages that are too long, cursors that
    are no texts, and a collection whose pages may not hold anything
    (`list_may_lose_items`). -/

namespace ResourceClient

open Dialogue

namespace Collection

section completeness

variable {ω α : Type} {w : World ω} {c : Collection} {r : ListRequest}

/-- In a world, the page requests of a listing that start at a cursor and
    follow the cursors of the pages come to these pages.  Only the last page
    has no cursor. -/
inductive HandsOut (w : World ω) (c : Collection) (r : ListRequest) :
    Option String → ω → List Page → Prop where
  /-- The last page. -/
  | last {cursor : Option String} {x x' : ω} {page : Page}
      (hfetch : (c.fetchPage r c.limits.list cursor).run w x = some (.ok page, x'))
      (hnone : page.nextCursor = none) : HandsOut w c r cursor x [page]
  /-- A page that is followed by others. -/
  | next {cursor : Option String} {x x' : ω} {page : Page} {next : String} {later : List Page}
      (hfetch : (c.fetchPage r c.limits.list cursor).run w x = some (.ok page, x'))
      (hnext : page.nextCursor = some next) (hlater : HandsOut w c r (some next) x' later) :
      HandsOut w c r cursor x (page :: later)

/-- Without a limit, a step of the page feed fetches a page at the cursor, and
    keeps as many items of it as it asked for. -/
theorem run_step_pages_without_limit (hlimit : r.limit = none) (hchunk : r.chunkSize = none)
    (hlist : 1 ≤ c.limits.list) {cursor : Option String} (fetched : Nat) {x x' : ω} {page : Page}
    (hfetch : (c.fetchPage r c.limits.list cursor).run w x = some (.ok page, x')) :
    ((c.pages r).step { cursor, fetched }).run w x =
      some (.value (page.items.take c.limits.list)
        { cursor := page.nextCursor
          fetched := fetched + (page.items.take c.limits.list).length
          finished := page.nextCursor.isNone }, x') := by
  have hpage := ListRequest.pageLimit_eq hlimit hchunk c.limits.list fetched
  have hpos : 0 < r.pageLimit c.limits.list fetched := by
    rw [hpage]
    exact hlist
  have hstep := run_step_pages_of_fetch hpos (hpage.symm ▸ hfetch)
  simpa only [hpage, Paging.after, Paging.satisfies, hlimit, Bool.or_false] using hstep

/-- The pages of a listing without a limit are those that the server hands
    out, each up to the length that was asked for. -/
theorem HandsOut.yields (hlimit : r.limit = none) (hchunk : r.chunkSize = none)
    (hlist : 1 ≤ c.limits.list) {cursor : Option String} {x : ω} {pages : List Page}
    (h : HandsOut w c r cursor x pages) (fetched : Nat) :
    (c.pages r).Yields w { cursor, fetched } x
      (pages.map fun page => page.items.take c.limits.list) none := by
  induction h generalizing fetched with
  | @last cursor x x' page hfetch hnone =>
    have hstep := run_step_pages_without_limit hlimit hchunk hlist fetched hfetch
    refine .value hstep (.finished (run_step_pages_of_end w (Or.inl ?_) x'))
    rw [hnone, Option.isNone_none]
  | @next cursor x x' page next later hfetch hnext _ ih =>
    have hstep := run_step_pages_without_limit hlimit hchunk hlist fetched hfetch
    rw [hnext, Option.isNone_some] at hstep
    exact .value hstep (ih _)

/-- The list of a listing without a limit is what is kept of the pages. -/
theorem HandsOut.list (hlimit : r.limit = none) (hchunk : r.chunkSize = none)
    (hlist : 1 ≤ c.limits.list) {x : ω} {pages : List Page} (h : HandsOut w c r none x pages)
    (decode : Decoder α) :
    ∃ enough, ∀ budget ≥ enough, ∃ x', (c.list decode budget r).run w x =
      some ((pages.flatMap fun page => page.items.take c.limits.list).mapM decode, x') := by
  obtain ⟨enough, hcollect⟩ := (h.yields hlimit hchunk hlist 0).items.collect decode
  refine ⟨enough, fun budget hbudget => ?_⟩
  rw [List.flatMap_def, ← Feed.collected_none]
  exact hcollect budget hbudget

end completeness

/-- **Listings without a limit are complete.**  Whatever pages a server hands
    out one after the other, until one comes without a cursor, a listing
    without a limit comes to all items of them in their order, of each page
    as many as it asked for, or to the first error in reading these.  So
    nothing is lost of pages that are no longer than that. -/
theorem list_complete {ω α : Type} {w : World ω} {c : Collection} (method : ListMethod)
    (filter : Option Filter) (hlist : 1 ≤ c.limits.list) {x : ω} {pages : List Page}
    (h : HandsOut w c (.new method filter none none) none x pages) (decode : Decoder α) :
    ∃ enough, ∀ budget ≥ enough, ∃ result x',
      (c.list decode budget (.new method filter none none)).run w x = some (result, x') ∧
        result = (pages.flatMap fun page => page.items.take c.limits.list).mapM decode ∧
        ((∀ page ∈ pages, page.items.length ≤ c.limits.list) →
          result = (pages.flatMap Page.items).mapM decode) := by
  obtain ⟨enough, hlisted⟩ := h.list rfl rfl hlist decode
  refine ⟨enough, fun budget hbudget => ?_⟩
  obtain ⟨x', hrun⟩ := hlisted budget hbudget
  refine ⟨_, x', hrun, rfl, fun hshort => ?_⟩
  have hwhole : (pages.flatMap fun page => page.items.take c.limits.list) =
      pages.flatMap Page.items := by
    rw [List.flatMap_def, List.flatMap_def]
    congr 1
    exact List.map_congr_left fun page hpage => List.take_of_length_le (hshort page hpage)
  rw [hwhole]

/-- A page of two assets and one of another are listed as three. -/
theorem list_two_pages :
    1 ≤ (assetsWithin (.uniform 2)).limits.list ∧ ∃ enough, ∀ budget ≥ enough, ∃ x',
      ((assetsWithin (.uniform 2)).list .json budget (.new .post none none none)).run inTurn
        [pageReply ⟨[.string "a", .string "b"], some "next"⟩, pageReply ⟨[.string "c"], none⟩] =
          some (.ok [.string "a", .string "b", .string "c"], x') := by
  obtain ⟨_, hfirst⟩ := exists_isVisitIn_pageReply (.uniform 2) (.new .post none none none)
    (p := {}) rfl (by decide) ⟨[.string "a", .string "b"], some "next"⟩ (by simp [Json.Plain])
    [pageReply ⟨[.string "c"], none⟩]
  obtain ⟨_, hsecond⟩ := exists_isVisitIn_pageReply (.uniform 2) (.new .post none none none)
    (p := { cursor := some "next", fetched := 2 }) rfl (by decide) ⟨[.string "c"], none⟩
    (by simp [Json.Plain]) []
  have hpages : HandsOut inTurn (assetsWithin (.uniform 2)) (.new .post none none none) none
      [pageReply ⟨[.string "a", .string "b"], some "next"⟩, pageReply ⟨[.string "c"], none⟩]
      [⟨[.string "a", .string "b"], some "next"⟩, ⟨[.string "c"], none⟩] :=
    .next hfirst.comesTo.run_eq rfl (.last hsecond.comesTo.run_eq rfl)
  obtain ⟨enough, hlisted⟩ := list_complete .post none (by decide) hpages .json
  refine ⟨by decide, enough, fun budget hbudget => ?_⟩
  obtain ⟨result, x', hrun, rfl, -⟩ := hlisted budget hbudget
  exact ⟨x', hrun⟩

/-- The reply with a page whose cursor is a number. -/
def numberedPage : Http.Reply :=
  .response (Client.jsonReply
    (.object [("items", .array [.string "a"]), ("nextCursor", .int 7)]))

theorem pageOfReply_numberedPage : pageOfReply numberedPage = .ok ⟨[.string "a"], none⟩ := by
  have hplain : Json.Plain Json.maxDepth
      (.object [("items", .array [.string "a"]), ("nextCursor", .int 7)]) := by
    have hkeys : "items" < "nextCursor" := by decide +kernel
    exact ⟨List.pairwise_pair.2 hkeys, ⟨trivial, trivial⟩, ⟨by decide, by decide⟩, trivial⟩
  show (Client.jsonReply _).json >>= Page.ofJson = _
  rw [Client.json_jsonReply hplain]
  rfl

/-- Items are lost without an error on a page that is longer than what was
    asked for, behind a page whose cursor is not a text, and of a collection
    whose pages may not hold anything. -/
theorem list_may_lose_items :
    (∃ budget x',
      ((assetsWithin (.uniform 2)).list .json budget (.new .post none none none)).run inTurn
        [pageReply ⟨[.string "a", .string "b", .string "c"], none⟩] =
          some (.ok [.string "a", .string "b"], x')) ∧
      (∃ budget x',
        ((assetsWithin {}).list .json budget (.new .post none none none)).run inTurn
          [numberedPage, pageReply ⟨[.string "b"], none⟩] = some (.ok [.string "a"], x')) ∧
      ((assetsWithin (.uniform 0)).list .json 1 (.new .post none none none)).run inTurn
        [pageReply ⟨[.string "a"], none⟩] = some (.ok [], [pageReply ⟨[.string "a"], none⟩]) := by
  refine ⟨?_, ?_, rfl⟩
  · obtain ⟨_, hvisit⟩ := exists_isVisitIn_pageReply (.uniform 2) (.new .post none none none)
      (p := {}) rfl (by decide) ⟨[.string "a", .string "b", .string "c"], none⟩
      (by simp [Json.Plain]) []
    have hpages : HandsOut inTurn (assetsWithin (.uniform 2)) (.new .post none none none) none
        _ [_] := .last hvisit.comesTo.run_eq rfl
    obtain ⟨enough, hlisted⟩ := hpages.list rfl rfl (by decide) .json
    obtain ⟨x', hrun⟩ := hlisted enough le_rfl
    exact ⟨enough, x', hrun⟩
  · obtain ⟨_, hvisit⟩ := exists_isVisitIn_inTurn (c := assetsWithin {})
      (r := .new .post none none none) (p := {}) (isReachable_listPath {} .post) rfl (by decide)
      numberedPage (fun replayable => by cases replayable <;> rfl) [pageReply ⟨[.string "b"], none⟩]
    rw [pageOfReply_numberedPage] at hvisit
    have hpages : HandsOut inTurn (assetsWithin {}) (.new .post none none none) none _ [_] :=
      .last hvisit.comesTo.run_eq rfl
    obtain ⟨enough, hlisted⟩ := hpages.list rfl rfl (by decide) .json
    obtain ⟨x', hrun⟩ := hlisted enough le_rfl
    exact ⟨enough, x', hrun⟩

end Collection

end ResourceClient
