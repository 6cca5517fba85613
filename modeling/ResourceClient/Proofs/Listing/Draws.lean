import Mathlib
import ResourceClient.Proofs.Dialogue.Totality
import ResourceClient.Proofs.Listing.Feed

/-! # What is asked while a feed is read

    A reader makes the steps of a feed one after the other and may stop
    after any of them.  `Feed.Draws` lists the steps that were made, each
    with its exchanges.  It puts nothing on the answers, so that a feed that
    goes on for ever has draws of any length.

    The exchanges of a reader are those of the steps that it makes
    (`draws_take`, `draws_collect`).  A feed that is made from another one
    asks what that one asks: each of its steps makes one step of the other
    feed or none (`IsDrivenBy`, `Draws.of_driven`), as items and chunks do
    with pages. -/

namespace ResourceClient

open Dialogue

/-- Where a feed goes on after a step, unless it ends. -/
def FeedStep.rest? {σ α : Type} : FeedStep σ α → Option σ
  | value _ rest | silent rest => some rest
  | failure _ | finished => none

/-- The value that a step hands out. -/
def FeedStep.value? {σ α : Type} : FeedStep σ α → Option α
  | value a _ => some a
  | _ => none

/-- A step of a feed that was made, with its exchanges. -/
structure Draw (σ α : Type) where
  sent : List (Outgoing × Http.Reply)
  step : FeedStep σ α

namespace Feed

variable {ω σ τ α β : Type} {w : World ω}

/-- The steps that a reader makes from a state and a state of the world. -/
inductive Draws (w : World ω) (feed : Feed σ α) : σ → ω → List (Draw σ α) → Prop where
  /-- The reader stops. -/
  | stop (s : σ) (x : ω) : Draws w feed s x []
  /-- The feed ends. -/
  | last {s : σ} {x x' : ω} {step : FeedStep σ α} (hstep : (feed.step s).run w x = some (step, x'))
      (hrest : step.rest? = none) :
      Draws w feed s x [⟨exchanges (turns w (feed.step s) x), step⟩]
  /-- The feed goes on. -/
  | next {s rest : σ} {x x' : ω} {step : FeedStep σ α} {later : List (Draw σ α)}
      (hstep : (feed.step s).run w x = some (step, x')) (hrest : step.rest? = some rest)
      (hlater : Draws w feed rest x' later) :
      Draws w feed s x (⟨exchanges (turns w (feed.step s) x), step⟩ :: later)

/-! ## Readers -/

/-- The exchanges of drawing values are those of the steps that are made. -/
theorem draws_take {feed : Feed σ α} (htotal : ∀ s, (feed.step s).Total) (read : α → Result β)
    (budget count : Nat) (s : σ) (x : ω) :
    ∃ draws, feed.Draws w s x draws ∧
      exchanges (turns w (feed.take read budget count s) x) = draws.flatMap (·.sent) := by
  induction budget generalizing count s x with
  | zero =>
    refine ⟨[], .stop s x, ?_⟩
    cases count <;> rfl
  | succ budget ih =>
    cases count with
    | zero => exact ⟨[], .stop s x, rfl⟩
    | succ count =>
      obtain ⟨step, x', hstep⟩ := run_of_total w (htotal s) x
      rw [Feed.take, Dialogue.bind_eq, turns_bind_of_run hstep, exchanges_append]
      cases step with
      | value a rest =>
        obtain ⟨draws, hdraws, hsent⟩ := ih count rest x'
        refine ⟨_, .next hstep rfl hdraws, ?_⟩
        simp only [Dialogue.bind_eq, Dialogue.pure_eq, turns_bind_done, hsent, List.flatMap_cons]
      | silent rest =>
        obtain ⟨draws, hdraws, hsent⟩ := ih (count + 1) rest x'
        refine ⟨_, .next hstep rfl hdraws, ?_⟩
        simp only [hsent, List.flatMap_cons]
      | failure e => exact ⟨_, .last hstep rfl, rfl⟩
      | finished => exact ⟨_, .last hstep rfl, rfl⟩

/-- The exchanges of collecting values are those of the steps that are
    made. -/
theorem draws_collect {feed : Feed σ α} (htotal : ∀ s, (feed.step s).Total) (read : α → Result β)
    (budget : Nat) (s : σ) (x : ω) :
    ∃ draws, feed.Draws w s x draws ∧
      exchanges (turns w (feed.collect read budget s) x) = draws.flatMap (·.sent) := by
  induction budget generalizing s x with
  | zero => exact ⟨[], .stop s x, rfl⟩
  | succ budget ih =>
    obtain ⟨step, x', hstep⟩ := run_of_total w (htotal s) x
    rw [Feed.collect, Dialogue.bind_eq, turns_bind_of_run hstep, exchanges_append]
    cases step with
    | value a rest =>
      cases hread : read a with
      | error e =>
        -- a value that cannot be read is the last one
        refine ⟨_, .next hstep rfl (.stop rest x'), ?_⟩
        simp only [hread]
        rfl
      | ok b =>
        obtain ⟨draws, hdraws, hsent⟩ := ih rest x'
        refine ⟨_, .next hstep rfl hdraws, ?_⟩
        simp only [hread, Dialogue.bind_eq, Dialogue.pure_eq, turns_bind_done, hsent,
          List.flatMap_cons]
    | silent rest =>
      obtain ⟨draws, hdraws, hsent⟩ := ih rest x'
      refine ⟨_, .next hstep rfl hdraws, ?_⟩
      simp only [hsent, List.flatMap_cons]
    | failure e => exact ⟨_, .last hstep rfl, rfl⟩
    | finished => exact ⟨_, .last hstep rfl, rfl⟩

/-! ## Feeds made from other feeds -/

/-- The steps that a reader makes from a state, or none without one. -/
def DrawsFrom (w : World ω) (feed : Feed σ α) (s : Option σ) (x : ω)
    (draws : List (Draw σ α)) : Prop :=
  match s with
  | some s => feed.Draws w s x draws
  | none => draws = []

/-- A feed is driven by another one, whose state is part of its own: each of
    its steps asks nothing and leaves that state, or asks what a step of the
    other feed asks and makes that step. -/
def IsDrivenBy (w : World ω) (made : Feed τ β) (feed : Feed σ α) (source : τ → Option σ) : Prop :=
  ∀ t x step x', (made.step t).run w x = some (step, x') →
    (exchanges (turns w (made.step t) x) = [] ∧ x' = x ∧
        ∀ rest, step.rest? = some rest → source rest = source t) ∨
      ∃ s sourceStep, source t = some s ∧ (feed.step s).run w x = some (sourceStep, x') ∧
        exchanges (turns w (made.step t) x) = exchanges (turns w (feed.step s) x) ∧
        ∀ rest, step.rest? = some rest → source rest = sourceStep.rest?

/-- A step of a feed extends what is drawn after it. -/
theorem DrawsFrom.cons {feed : Feed σ α} {s : σ} {x x' : ω} {step : FeedStep σ α}
    (hstep : (feed.step s).run w x = some (step, x')) {later : List (Draw σ α)}
    (h : feed.DrawsFrom w step.rest? x' later) :
    feed.Draws w s x (⟨exchanges (turns w (feed.step s) x), step⟩ :: later) := by
  cases hrest : step.rest? with
  | none =>
    rw [hrest] at h
    obtain rfl : later = [] := h
    exact .last hstep hrest
  | some rest =>
    rw [hrest] at h
    exact .next hstep hrest h

/-- A feed that is driven by another one asks what is drawn from that. -/
theorem Draws.of_driven {made : Feed τ β} {feed : Feed σ α} {source : τ → Option σ}
    (hdriven : made.IsDrivenBy w feed source) {t : τ} {x : ω} {draws : List (Draw τ β)}
    (h : made.Draws w t x draws) :
    ∃ draws', feed.DrawsFrom w (source t) x draws' ∧
      draws'.flatMap (·.sent) = draws.flatMap (·.sent) := by
  have hnone (s : Option σ) (x : ω) : feed.DrawsFrom w s x [] := by
    cases s with
    | none => rfl
    | some s => exact .stop s x
  induction h with
  | stop t x => exact ⟨[], hnone _ x, rfl⟩
  | @last t x x' step hstep hrest =>
    rcases hdriven t x step x' hstep with ⟨hquiet, -, -⟩ | ⟨s, sourceStep, hs, hsource, hsent, -⟩
    · exact ⟨[], hnone _ x, by simp [hquiet]⟩
    · rw [hs]
      refine ⟨_, DrawsFrom.cons hsource (hnone _ x'), ?_⟩
      rw [List.flatMap_singleton, List.flatMap_singleton, hsent]
  | @next t rest x x' step later hstep hrest _ ih =>
    obtain ⟨draws', hdraws', heq⟩ := ih
    rcases hdriven t x step x' hstep with
      ⟨hquiet, rfl, hkeep⟩ | ⟨s, sourceStep, hs, hsource, hsent, hgoes⟩
    · rw [hkeep rest hrest] at hdraws'
      refine ⟨draws', hdraws', ?_⟩
      rw [heq, List.flatMap_cons, hquiet, List.nil_append]
    · rw [hgoes rest hrest] at hdraws'
      rw [hs]
      refine ⟨_, DrawsFrom.cons hsource hdraws', ?_⟩
      rw [List.flatMap_cons, List.flatMap_cons, heq, hsent]

/-! ## Items and chunks -/

/-- With nothing held back, the items ask what the pages ask. -/
theorem turns_step_items {pages : Feed σ (List α)} {s : σ} {x x' : ω}
    {page : FeedStep σ (List α)} (hpage : (pages.step s).run w x = some (page, x')) :
    turns w (pages.items.step { source := s }) x = turns w (pages.step s) x := by
  simp only [Feed.items, Dialogue.bind_eq, turns_bind_of_run hpage]
  cases page <;> exact List.append_nil _

/-- Items are handed out from a page, or a page is fetched. -/
theorem isDrivenBy_items (w : World ω) {pages : Feed σ (List α)}
    (htotal : ∀ s, (pages.step s).Total) :
    pages.items.IsDrivenBy w pages fun r => some r.source := by
  rintro ⟨source, held⟩ x step x' hstep
  cases held with
  | cons a held =>
    left
    obtain ⟨rfl, rfl⟩ := Prod.mk.inj (Option.some.inj hstep)
    refine ⟨rfl, rfl, ?_⟩
    rintro rest ⟨⟩
    rfl
  | nil =>
    right
    obtain ⟨page, x₁, hpage⟩ := run_of_total w (htotal source) x
    obtain ⟨rfl, rfl⟩ := Prod.mk.inj (Option.some.inj (hstep.symm.trans (run_step_items hpage)))
    refine ⟨source, page, rfl, hpage, by rw [turns_step_items hpage], ?_⟩
    cases page <;> rintro rest ⟨⟩ <;> rfl

/-- Chunks are made of what is held, or a page is fetched. -/
theorem isDrivenBy_regrouped (w : World ω) (size : Nat) {pages : Feed σ (List α)}
    (htotal : ∀ s, (pages.step s).Total) :
    (pages.regrouped size).IsDrivenBy w pages Regrouping.source := by
  have hquiet {t : Regrouping σ α} {step next : FeedStep (Regrouping σ α) (List α)} {x x' : ω}
      (hstep : ((pages.regrouped size).step t).run w x = some (step, x'))
      (hdone : (pages.regrouped size).step t = .done next)
      (hnext : ∀ rest, next.rest? = some rest → rest.source = t.source) :
      exchanges (turns w ((pages.regrouped size).step t) x) = [] ∧ x' = x ∧
        ∀ rest, step.rest? = some rest → rest.source = t.source := by
    rw [hdone] at hstep ⊢
    obtain ⟨rfl, rfl⟩ := Prod.mk.inj (Option.some.inj hstep)
    exact ⟨rfl, rfl, hnext⟩
  rintro ⟨source, held⟩ x step x' hstep
  by_cases hsize : size = 0
  · left
    refine hquiet hstep (by simp only [Feed.regrouped, if_pos hsize]; rfl) ?_
    rintro rest ⟨⟩
  · by_cases hheld : size ≤ held.length
    · left
      refine hquiet hstep (by simp only [Feed.regrouped, if_neg hsize, if_pos hheld]; rfl) ?_
      rintro rest ⟨⟩
      rfl
    · cases source with
      | none =>
        left
        refine hquiet hstep (by simp only [Feed.regrouped, if_neg hsize, if_neg hheld]; rfl) ?_
        intro rest hrest
        split at hrest <;> cases hrest
        rfl
      | some source =>
        right
        obtain ⟨page, x₁, hpage⟩ := run_of_total w (htotal source) x
        have hrun := run_step_regrouped (Nat.pos_of_ne_zero hsize) hpage (not_le.mp hheld)
        obtain ⟨rfl, rfl⟩ := Prod.mk.inj (Option.some.inj (hstep.symm.trans hrun))
        have hturns : turns w ((pages.regrouped size).step { source := some source, held }) x =
            turns w (pages.step source) x := by
          simp only [Feed.regrouped, if_neg hsize, if_neg hheld, Dialogue.bind_eq,
            turns_bind_of_run hpage]
          cases page <;> exact List.append_nil _
        refine ⟨source, page, rfl, hpage, by rw [hturns], ?_⟩
        cases page <;> rintro rest ⟨⟩ <;> rfl

theorem total_step_items {pages : Feed σ (List α)} (htotal : ∀ s, (pages.step s).Total)
    (r : Remainder σ α) : (pages.items.step r).Total := by
  obtain ⟨source, held⟩ := r
  cases held with
  | cons a held => exact .done _
  | nil => exact (htotal source).bind fun page => by cases page <;> exact .done _

theorem total_step_regrouped (size : Nat) {pages : Feed σ (List α)}
    (htotal : ∀ s, (pages.step s).Total) (r : Regrouping σ α) :
    ((pages.regrouped size).step r).Total := by
  obtain ⟨source, held⟩ := r
  simp only [Feed.regrouped]
  split
  · exact .done _
  · split
    · exact .done _
    · cases source with
      | none => exact .done _
      | some source => exact (htotal source).bind fun page => by cases page <;> exact .done _

end Feed

end ResourceClient
