import Mathlib
import ResourceClient.Collection.Listing
import ResourceClient.Proofs.Collection.Report
import ResourceClient.Proofs.Listing.Draws
import ResourceClient.Proofs.Listing.Receipt
import ResourceClient.Proofs.Listing.Refinement

/-! # Items are fetched when they are wanted

    A reader that draws items one at a time asks for a page when the one
    before it is used up, and not earlier.  So the pages that were asked for
    when some items are drawn are as few as can hold these items
    (`pagesHolding`).

    Items that are held are drawn without a question (`take_items_held`).  So
    a page is asked for once, and its items are drawn before the next one is
    (`IsVisitIn.comesTo_take`).  By induction on the pages received, drawing
    items that are among them comes to these items, with the least number of
    pages (`Receives.exists_comesTo_take`), and drawing more of them leaves
    the rest to what comes behind these pages (`Receives.comesTo_take`): to a
    page request that fails, or to the end of the listing
    (`listItems_lazy`). -/

namespace ResourceClient

open Dialogue

/-! ## Items that are held -/

namespace Feed

variable {ω σ α β : Type}

/-- Items that are held are drawn first, and nothing is asked for them.  By
    induction on the items, of which each takes one step. -/
theorem take_items_held (pages : Feed σ (List α)) (read : α → Result β) (held : List α)
    (budget count : Nat) (source : σ) :
    pages.items.take read (min count held.length + budget) count { source, held } =
      (pages.items.take read budget (count - held.length) { source }).bind fun drawn =>
        .done ((held.take count).map read ++ drawn) := by
  induction held generalizing count with
  | nil =>
    rw [List.length_nil, Nat.min_zero, Nat.zero_add, Nat.sub_zero, List.take_nil]
    exact (Dialogue.bind_pure _).symm
  | cons a held ih =>
    cases count with
    | zero => rw [Nat.zero_sub, take_zero, take_zero]; rfl
    | succ count =>
      have hbudget : min (count + 1) (a :: held).length + budget =
          min count held.length + budget + 1 := by
        rw [List.length_cons]
        omega
      have hcount : count + 1 - (a :: held).length = count - held.length := by
        rw [List.length_cons]
        omega
      rw [hbudget, hcount, Feed.take]
      show (pages.items.take read _ count { source, held }).bind _ = _
      rw [ih, Dialogue.bind_assoc]
      rfl

/-- What becomes of a step of the pages when nothing is held. -/
def itemsStep : FeedStep σ (List α) → FeedStep (Remainder σ α) α
  | .value page rest => .silent { source := rest, held := page }
  | .silent rest => .silent { source := rest }
  | .failure e => .failure e
  | .finished => .finished

theorem comesTo_step_items {w : World ω} {pages : Feed σ (List α)} {s : σ} {x x' : ω}
    {sent : List (Outgoing × Http.Reply)} {step : FeedStep σ (List α)}
    (h : ComesTo w (pages.step s) x sent step x') :
    ComesTo w (pages.items.step { source := s }) x sent (itemsStep step) x' := by
  refine h.bind_done ?_
  cases step <;> rfl

end Feed

/-! ## As few pages as hold the items -/

/-- The numbers of first pages that hold so many items together. -/
def pagesHolding (visits : List PageVisit) (count : Nat) : Set Nat :=
  {j | count ≤ ((visits.take j).flatMap PageVisit.kept).length}

theorem mem_pagesHolding {visits : List PageVisit} {count j : Nat} :
    j ∈ pagesHolding visits count ↔ count ≤ ((visits.take j).flatMap PageVisit.kept).length :=
  Iff.rfl

theorem isLeast_pagesHolding_zero (visits : List PageVisit) :
    IsLeast (pagesHolding visits 0) 0 :=
  ⟨Nat.zero_le _, fun _ _ => Nat.zero_le _⟩

/-- The first page is one of those that hold any items, and the others hold
    what it does not. -/
theorem isLeast_pagesHolding_cons {v : PageVisit} {later : List PageVisit} {count j : Nat}
    (h : IsLeast (pagesHolding later (count + 1 - v.kept.length)) j) :
    IsLeast (pagesHolding (v :: later) (count + 1)) (j + 1) := by
  have hlength (i : Nat) : (((v :: later).take (i + 1)).flatMap PageVisit.kept).length =
      v.kept.length + ((later.take i).flatMap PageVisit.kept).length := by
    rw [List.take_succ_cons, List.flatMap_cons, List.length_append]
  obtain ⟨hholds, hleast⟩ := h
  rw [mem_pagesHolding] at hholds
  constructor
  · rw [mem_pagesHolding, hlength]
    omega
  · intro i hi
    rw [mem_pagesHolding] at hi
    cases i with
    | zero => simp at hi
    | succ i =>
      rw [hlength] at hi
      have hle : j ≤ i := hleast (Nat.sub_le_of_le_add (by omega))
      omega

namespace Collection

section laziness

variable {ω α : Type} {w : World ω} {c : Collection} {r : ListRequest} {p p' : Paging}
  {x x₁ x' x'' : ω} {visits : List PageVisit} {sent : List (Outgoing × Http.Reply)}
  {out : List (Result α)}

/-- With nothing held, drawing an item asks for a page.  Its items are drawn,
    and the rest is drawn behind it. -/
theorem IsVisitIn.comesTo_take {v : PageVisit} {page : Page} (h : c.IsVisitIn w r p x v x₁)
    (hpage : v.page = .ok page) (decode : Decoder α) (budget count : Nat)
    (hlater : ComesTo w ((c.pages r).items.take decode budget (count + 1 - v.kept.length)
      { source := p.after r.limit v.kept.length v.next? }) x₁ sent out x') :
    ComesTo w ((c.pages r).items.take decode (min (count + 1) v.kept.length + budget + 1)
      (count + 1) { source := p }) x (v.sent ++ sent)
      ((v.kept.take (count + 1)).map decode ++ out) x' := by
  have hstep := Feed.comesTo_step_items h.comesTo_step
  simp only [hpage] at hstep
  refine hstep.bind ?_
  show ComesTo w ((c.pages r).items.take decode _ (count + 1)
    { source := p.after r.limit v.kept.length v.next?, held := v.kept }) x₁ _ _ x'
  rw [Feed.take_items_held]
  exact hlater.bind_done rfl

/-- Drawing items that are on the pages received comes to these items, with
    as few of the pages as hold them. -/
theorem Receives.exists_comesTo_take (h : c.Receives w r p x visits p' x') (decode : Decoder α)
    {count : Nat} (hcount : count ≤ (visits.flatMap PageVisit.kept).length) :
    ∃ j, IsLeast (pagesHolding visits count) j ∧ ∀ budget ≥ count + j, ∃ x₁,
      ComesTo w ((c.pages r).items.take decode budget count { source := p }) x
        ((visits.take j).flatMap PageVisit.sent)
        (((visits.flatMap PageVisit.kept).take count).map decode) x₁ := by
  have hzero (visits : List PageVisit) (p : Paging) (x : ω) :
      ∃ j, IsLeast (pagesHolding visits 0) j ∧ ∀ budget ≥ 0 + j, ∃ x₁,
        ComesTo w ((c.pages r).items.take decode budget 0 { source := p }) x
          ((visits.take j).flatMap PageVisit.sent)
          (((visits.flatMap PageVisit.kept).take 0).map decode) x₁ := by
    refine ⟨0, isLeast_pagesHolding_zero visits, fun budget _ => ⟨x, ?_⟩⟩
    rw [Feed.take_zero]
    exact comesTo_done w _ x
  induction h generalizing count with
  | stop p x =>
    obtain rfl : count = 0 := Nat.le_zero.1 hcount
    exact hzero [] p x
  | @page p p' x x₁ x' v page later hvisit hpage _ ih =>
    cases count with
    | zero => exact hzero _ p x
    | succ count =>
      rw [List.flatMap_cons, List.length_append] at hcount
      have hleft : count + 1 - v.kept.length ≤ (later.flatMap PageVisit.kept).length := by omega
      obtain ⟨j, hleast, hdraws⟩ := ih hleft
      refine ⟨j + 1, isLeast_pagesHolding_cons hleast, fun budget hbudget => ?_⟩
      -- a step for the page and one for each item of it, the rest is for what follows
      obtain ⟨left, rfl⟩ : ∃ left, budget = min (count + 1) v.kept.length + left + 1 :=
        ⟨budget - 1 - min (count + 1) v.kept.length, by omega⟩
      obtain ⟨x₂, hlater⟩ := hdraws left (by omega)
      refine ⟨x₂, ?_⟩
      rw [List.take_succ_cons, List.flatMap_cons, List.flatMap_cons, List.take_append,
        List.map_append]
      exact hvisit.comesTo_take hpage decode left count hlater

/-- Drawing more items than are on the pages received draws all of these, and
    the rest behind the pages. -/
theorem Receives.comesTo_take (h : c.Receives w r p x visits p' x') (decode : Decoder α)
    (budget count : Nat)
    (hlater : ComesTo w ((c.pages r).items.take decode budget (count + 1) { source := p' }) x'
      sent out x'') :
    ComesTo w ((c.pages r).items.take decode
      ((visits.flatMap PageVisit.kept).length + visits.length + budget)
      ((visits.flatMap PageVisit.kept).length + count + 1) { source := p }) x
      (visits.flatMap PageVisit.sent ++ sent)
      ((visits.flatMap PageVisit.kept).map decode ++ out) x'' := by
  induction h with
  | stop p x => simpa using hlater
  | @page p p' x x₁ x' v page later hvisit hpage _ ih =>
    have hrest := ih hlater
    generalize htotal : (later.flatMap PageVisit.kept).length = total at hrest
    have hcount : v.kept.length + total + count + 1 - v.kept.length = total + count + 1 := by
      omega
    have hbudget : v.kept.length + total + (later.length + 1) + budget =
        min (v.kept.length + total + count + 1) v.kept.length +
          (total + later.length + budget) + 1 := by omega
    have hkept : v.kept.take (v.kept.length + total + count + 1) = v.kept :=
      List.take_of_length_le (by omega)
    have hdraws := hvisit.comesTo_take hpage decode (total + later.length + budget)
      (v.kept.length + total + count) (hcount.symm ▸ hrest)
    rw [hkept] at hdraws
    rw [List.flatMap_cons, List.flatMap_cons, List.length_append, htotal, List.length_cons, hbudget,
      List.map_append, List.append_assoc, List.append_assoc]
    exact hdraws

end laziness

/-- **Items are fetched when they are wanted.**  Of the pages that a listing
    receives, drawing some items asks for the least number that hold these
    items together, and for none if no items are drawn.  A page request that
    fails behind these pages is an error behind all of their items, and the
    last thing that is asked or handed out, however many more items are
    drawn.  If the listing is at its end there, nothing more is asked. -/
theorem listItems_lazy {ω α : Type} {w : World ω} {c : Collection} {r : ListRequest} {p : Paging}
    {x x' : ω} {visits : List PageVisit} (h : c.Receives w r {} x visits p x')
    (decode : Decoder α) :
    (∀ count ≤ (visits.flatMap PageVisit.kept).length, ∃ j,
      IsLeast (pagesHolding visits count) j ∧ ∀ budget ≥ count + j, ∃ x₁,
        ComesTo w (c.listItems decode budget r (some count)) x
          ((visits.take j).flatMap PageVisit.sent)
          (((visits.flatMap PageVisit.kept).take count).map decode) x₁) ∧
      ∀ budget > (visits.flatMap PageVisit.kept).length + visits.length, ∀ count : Option Nat,
        (visits.flatMap PageVisit.kept).length < count.getD (budget + 1) →
          (∀ v x'' e, c.IsVisitIn w r p x' v x'' → v.page = .error e →
            ComesTo w (c.listItems decode budget r count) x
              ((visits ++ [v]).flatMap PageVisit.sent)
              ((visits.flatMap PageVisit.kept).map decode ++ [.error e]) x'') ∧
          (p.finished = true ∨ r.pageLimit c.limits.list p.fetched = 0 →
            ComesTo w (c.listItems decode budget r count) x
              (visits.flatMap PageVisit.sent)
              ((visits.flatMap PageVisit.kept).map decode) x') := by
  refine ⟨fun count hcount => h.exists_comesTo_take decode hcount, ?_⟩
  intro budget hbudget count hcount
  unfold listItems
  generalize count.getD (budget + 1) = wanted at hcount
  -- one step is left behind the pages, and something is still to be drawn
  obtain ⟨left, rfl⟩ := Nat.exists_eq_add_of_lt hbudget
  obtain ⟨more, rfl⟩ := Nat.exists_eq_add_of_lt hcount
  rw [Nat.add_assoc _ left 1]
  constructor
  · intro v x'' e hvisit hpage
    have hstep := Feed.comesTo_step_items hvisit.comesTo_step
    simp only [hpage] at hstep
    rw [List.flatMap_append, List.flatMap_singleton]
    exact h.comesTo_take decode (left + 1) more (hstep.bind_done rfl)
  · intro hend
    have hpages : ComesTo w ((c.pages r).step p) x' [] .finished x' := by
      rw [step_pages_of_end hend]
      exact comesTo_done w _ x'
    have hstep := Feed.comesTo_step_items hpages
    have hdraws := h.comesTo_take decode (left + 1) more (hstep.bind_done rfl)
    rwa [List.append_nil, List.append_nil] at hdraws

/-- The replies of a server that hands out a page of three items and then
    rejects a request. -/
def pageAndRejection : List Http.Reply :=
  [pageReply ⟨[.string "a", .string "b", .string "c"], some "next"⟩, .response (bare 400)]

/-- Two items of a page are drawn with one page request, and all of them with
    another one, which is the last. -/
theorem listItems_page_and_rejection :
    ∃ first second,
      (∃ x₁, ComesTo inTurn
        ((assetsWithin {}).listItems .json 3 (.new .post none none none) (some 2)) pageAndRejection
        [first] [.ok (.string "a"), .ok (.string "b")] x₁) ∧
      ComesTo inTurn ((assetsWithin {}).listItems .json 5 (.new .post none none none))
        pageAndRejection [first, second]
        [.ok (.string "a"), .ok (.string "b"), .ok (.string "c"), .error (bare 400).error] [] := by
  let r : ListRequest := .new .post none none none
  obtain ⟨sent, hpage⟩ := exists_isVisitIn_pageReply {} r (p := {}) rfl (by decide)
    ⟨[.string "a", .string "b", .string "c"], some "next"⟩ (by simp [Json.Plain])
    [.response (bare 400)]
  obtain ⟨rejected, hrejection⟩ := exists_isVisitIn_inTurn (c := assetsWithin {}) (r := r)
    (p := { cursor := some "next", fetched := 3 }) (isReachable_listPath {} .post) rfl (by decide)
    (.response (bare 400)) (fun replayable => by cases replayable <;> rfl) []
  obtain ⟨hitems, hend⟩ :=
    listItems_lazy (Receives.page hpage rfl (.stop _ _)) (.json : Decoder Json)
  refine ⟨_, _, ?_, (hend 5 (show 3 + 1 < 5 by decide) none (show 3 < 6 by decide)).1 _ _ _
    hrejection rfl⟩
  obtain ⟨j, ⟨hholds, hleast⟩, hdraws⟩ := hitems 2 (show 2 ≤ 3 by decide)
  -- two items need a page, and the first one has them
  have hone : j ≤ 1 := hleast (show 2 ≤ 3 by decide)
  have hpos : j ≠ 0 := by
    rintro rfl
    exact absurd hholds (show ¬ 2 ≤ 0 by decide)
  obtain rfl : j = 1 := by omega
  exact hdraws 3 (by decide)

end Collection

end ResourceClient
