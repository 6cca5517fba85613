import Mathlib
import ResourceClient.Feed
import ResourceClient.Proofs.Bulk.Chunks

/-! # What a feed hands out

    `Feed.Yields` gives a feed a meaning in a world that answers its
    questions: the values that its steps hand out and the error that ends
    it, if it fails.  It mentions no budget.

    Drawing values is right for this meaning (`Yields.collect`,
    `Yields.take`): with a budget that is large enough, the values are those
    of the feed.  The feeds made from pages are right as well
    (`Yields.items`, `Yields.regrouped`): they hand out the values of the
    pages, neither lost nor doubled nor in another order. -/

namespace ResourceClient

namespace Feed

variable {ω σ α β : Type} {w : Dialogue.World ω}

/-- From a state and a state of the world, a feed hands out these values, and
    then is at its end or fails. -/
inductive Yields (w : Dialogue.World ω) (feed : Feed σ α) :
    σ → ω → List α → Option Error → Prop where
  /-- The feed is at its end. -/
  | finished {s : σ} {x x' : ω} (hstep : (feed.step s).run w x = some (.finished, x')) :
      Yields w feed s x [] none
  /-- The feed fails. -/
  | failure {s : σ} {x x' : ω} {e : Error}
      (hstep : (feed.step s).run w x = some (.failure e, x')) : Yields w feed s x [] (some e)
  /-- The feed goes on in silence. -/
  | silent {s rest : σ} {x x' : ω} {values : List α} {fault : Option Error}
      (hstep : (feed.step s).run w x = some (.silent rest, x'))
      (hrest : Yields w feed rest x' values fault) : Yields w feed s x values fault
  /-- The feed hands out a value. -/
  | value {s rest : σ} {x x' : ω} {a : α} {values : List α} {fault : Option Error}
      (hstep : (feed.step s).run w x = some (.value a rest, x'))
      (hrest : Yields w feed rest x' values fault) : Yields w feed s x (a :: values) fault

/-! ## Drawing values -/

/-- The values read up to the first error, or the error that ended the
    feed. -/
def collected (read : α → Result β) (values : List α) (fault : Option Error) :
    Result (List β) :=
  match values.mapM read, fault with
  | .ok bs, none => .ok bs
  | .ok _, some e => .error e
  | .error e, _ => .error e

theorem collected_cons (read : α → Result β) (a : α) (values : List α) (fault : Option Error) :
    collected read (a :: values) fault =
      match read a with
      | .ok b => (collected read values fault).map (b :: ·)
      | .error e => .error e := by
  unfold collected
  rw [List.mapM_cons]
  cases read a with
  | error e => rfl
  | ok b => cases values.mapM read <;> cases fault <;> rfl

theorem collected_none (read : α → Result β) (values : List α) :
    collected read values none = values.mapM read := by
  unfold collected
  cases values.mapM read <;> rfl

/-- What holds of every large enough budget that is not zero holds of every
    large enough budget. -/
theorem enough_of_succ {p : Nat → Prop} (h : ∃ enough, ∀ budget ≥ enough, p (budget + 1)) :
    ∃ enough, ∀ budget ≥ enough, p budget := by
  obtain ⟨enough, hp⟩ := h
  refine ⟨enough + 1, ?_⟩
  intro budget hbudget
  obtain ⟨less, rfl⟩ := Nat.exists_eq_add_of_le' (Nat.le_of_add_left_le hbudget)
  exact hp less (by omega)

/-- With enough budget, collecting a feed collects its values. -/
theorem Yields.collect {feed : Feed σ α} {s : σ} {x : ω} {values : List α}
    {fault : Option Error} (h : Yields w feed s x values fault) (read : α → Result β) :
    ∃ enough, ∀ budget ≥ enough, ∃ x',
      (feed.collect read budget s).run w x = some (collected read values fault, x') := by
  induction h with
  | @finished s x x' hstep =>
    refine enough_of_succ ⟨0, ?_⟩
    intro budget _
    refine ⟨x', ?_⟩
    rw [Feed.collect, Dialogue.bind_eq, Dialogue.run_bind, hstep]
    rfl
  | @failure s x x' e hstep =>
    refine enough_of_succ ⟨0, ?_⟩
    intro budget _
    refine ⟨x', ?_⟩
    rw [Feed.collect, Dialogue.bind_eq, Dialogue.run_bind, hstep]
    rfl
  | silent hstep _ ih =>
    obtain ⟨enough, hrest⟩ := ih
    refine enough_of_succ ⟨enough, ?_⟩
    intro budget hbudget
    rw [Feed.collect, Dialogue.bind_eq, Dialogue.run_bind, hstep]
    exact hrest budget hbudget
  | @value s rest x x₁ a values fault hstep _ ih =>
    obtain ⟨enough, hrest⟩ := ih
    refine enough_of_succ ⟨enough, ?_⟩
    intro budget hbudget
    rw [Feed.collect, Dialogue.bind_eq, Dialogue.run_bind, hstep, collected_cons]
    cases hread : read a with
    | error e =>
      -- a value that cannot be read ends the collecting, whatever follows
      exact ⟨x₁, by simp [hread]⟩
    | ok b =>
      obtain ⟨x', hcollect⟩ := hrest budget hbudget
      refine ⟨x', ?_⟩
      simp only [Option.bind_some, hread, Dialogue.bind_eq, Dialogue.run_bind, hcollect]
      rfl

/-- The same with a number of values to draw: no step is made for none. -/
theorem enough_of_succ_succ {p : Nat → Nat → Prop} (hzero : ∀ budget, p budget 0)
    (h : ∃ enough, ∀ budget ≥ enough, ∀ count, p (budget + 1) (count + 1)) :
    ∃ enough, ∀ budget ≥ enough, ∀ count, p budget count := by
  obtain ⟨enough, hp⟩ := h
  apply enough_of_succ
  refine ⟨enough, ?_⟩
  intro budget hbudget count
  cases count with
  | zero => exact hzero (budget + 1)
  | succ count => exact hp budget hbudget count

/-- With enough budget, the first values drawn from a feed are its first
    values, and the error that ends it comes after all of them. -/
theorem Yields.take {feed : Feed σ α} {s : σ} {x : ω} {values : List α}
    {fault : Option Error} (h : Yields w feed s x values fault) (read : α → Result β) :
    ∃ enough, ∀ budget ≥ enough, ∀ count, ∃ x',
      (feed.take read budget count s).run w x =
        some ((values.map read ++ fault.toList.map Except.error).take count, x') := by
  have hnone (s : σ) (x : ω) (drawn : List (Result β)) (budget : Nat) :
      ∃ x', (feed.take read budget 0 s).run w x = some (drawn.take 0, x') := by
    rw [take_zero, List.take_zero]
    exact ⟨x, Dialogue.run_done w [] x⟩
  induction h with
  | @finished s x x' hstep =>
    refine enough_of_succ_succ (hnone s x _) ⟨0, ?_⟩
    intro budget _ count
    refine ⟨x', ?_⟩
    rw [Feed.take, Dialogue.bind_eq, Dialogue.run_bind, hstep]
    rfl
  | @failure s x x' e hstep =>
    refine enough_of_succ_succ (hnone s x _) ⟨0, ?_⟩
    intro budget _ count
    refine ⟨x', ?_⟩
    rw [Feed.take, Dialogue.bind_eq, Dialogue.run_bind, hstep]
    simp
  | @silent s rest x x' values fault hstep _ ih =>
    obtain ⟨enough, hrest⟩ := ih
    refine enough_of_succ_succ (hnone s x _) ⟨enough, ?_⟩
    intro budget hbudget count
    rw [Feed.take, Dialogue.bind_eq, Dialogue.run_bind, hstep]
    exact hrest budget hbudget (count + 1)
  | @value s rest x x₁ a values fault hstep _ ih =>
    obtain ⟨enough, hrest⟩ := ih
    refine enough_of_succ_succ (hnone s x _) ⟨enough, ?_⟩
    intro budget hbudget count
    obtain ⟨x', htake⟩ := hrest budget hbudget count
    refine ⟨x', ?_⟩
    rw [Feed.take, Dialogue.bind_eq, Dialogue.run_bind, hstep]
    simp only [Option.bind_some, Dialogue.bind_eq, Dialogue.run_bind, htake]
    rfl

/-! ## Feeds made from pages -/

/-- What is held back comes first. -/
theorem Yields.items_held {pages : Feed σ (List α)} {source : σ} {x : ω} {values : List α}
    {fault : Option Error} (h : Yields w pages.items { source } x values fault)
    (held : List α) : Yields w pages.items { source, held } x (held ++ values) fault := by
  induction held with
  | nil => exact h
  | cons a held ih => exact .value rfl ih

/-- With nothing held back, the items step with the pages. -/
theorem run_step_items {pages : Feed σ (List α)} {s : σ} {x x' : ω} {r : FeedStep σ (List α)}
    (hstep : (pages.step s).run w x = some (r, x')) :
    (pages.items.step { source := s }).run w x =
      some (match r with
        | .value page rest => .silent { source := rest, held := page }
        | .silent rest => .silent { source := rest }
        | .failure e => .failure e
        | .finished => .finished, x') := by
  simp only [Feed.items, Dialogue.bind_eq, Dialogue.run_bind, hstep, Option.bind_some]
  cases r <;> rfl

/-- Items are the values of the pages, one after the other. -/
theorem Yields.items {pages : Feed σ (List α)} {source : σ} {x : ω} {values : List (List α)}
    {fault : Option Error} (h : Yields w pages source x values fault) :
    Yields w pages.items { source } x values.flatten fault := by
  induction h with
  | finished hstep => exact .finished (run_step_items hstep)
  | failure hstep => exact .failure (run_step_items hstep)
  | silent hstep _ ih => exact .silent (run_step_items hstep) ih
  | @value s rest x x' page values fault hstep _ ih =>
    have hheld : Yields w pages.items { source := rest, held := page } x'
        (page ++ values.flatten) fault := ih.items_held page
    exact .silent (run_step_items hstep) hheld

/-- The chunks that values are made into: if the feed fails, those that are
    complete. -/
def chunksUntil (size : Nat) (values : List α) : (fault : Option Error) → List (List α)
  | none => chunks size values
  | some _ => chunks size (values.take (size * (values.length / size)))

/-- A full chunk comes first. -/
theorem chunksUntil_append {size : Nat} (hsize : 0 < size) {held : List α}
    (hheld : size ≤ held.length) (later : List α) (fault : Option Error) :
    chunksUntil size (held ++ later) fault =
      held.take size :: chunksUntil size (held.drop size ++ later) fault := by
  have hne : held ≠ [] := List.ne_nil_of_length_pos (by omega)
  cases fault with
  | none =>
    rw [chunksUntil, chunks_of_ne_nil hsize (by simp [hne]),
      List.take_append_of_le_length hheld, List.drop_append_of_le_length hheld]
    rfl
  | some e =>
    have hcount : (held ++ later).length / size = (held.drop size ++ later).length / size + 1 := by
      have hlength : (held ++ later).length = (held.drop size ++ later).length + size := by
        simp only [List.length_append, List.length_drop]
        omega
      rw [hlength, Nat.add_div_right _ hsize]
    have hfull : size ≤ size * ((held ++ later).length / size) := by
      rw [hcount]
      exact Nat.le_mul_of_pos_right _ (Nat.succ_pos _)
    have hne' : (held ++ later).take (size * ((held ++ later).length / size)) ≠ [] := by
      simp [hne]
      omega
    rw [chunksUntil, chunks_of_ne_nil hsize hne', List.take_take, min_eq_left hfull,
      List.take_append_of_le_length hheld, List.drop_take, List.drop_append_of_le_length hheld,
      chunksUntil, hcount, Nat.mul_succ, Nat.add_sub_cancel]

theorem chunksUntil_of_lt {size : Nat} {held : List α} (hheld : held.length < size) (e : Error) :
    chunksUntil size held (some e) = [] := by
  rw [chunksUntil, Nat.div_eq_of_lt hheld, Nat.mul_zero, List.take_zero, chunks_nil]

/-- It is enough to follow a regrouping from where no chunk is full. -/
theorem Yields.regrouped_held {size : Nat} (hsize : 0 < size) {pages : Feed σ (List α)}
    {source : Option σ} {x : ω} {later : List α} {fault : Option Error}
    (h : ∀ held : List α, held.length < size →
      Yields w (pages.regrouped size) { source, held } x (chunksUntil size (held ++ later) fault)
        fault)
    (held : List α) :
    Yields w (pages.regrouped size) { source, held } x (chunksUntil size (held ++ later) fault)
      fault := by
  induction hlength : held.length using Nat.strong_induction_on generalizing held with
  | _ n ih =>
    by_cases hheld : size ≤ held.length
    · have hstep : ((pages.regrouped size).step { source, held }).run w x =
          some (.value (held.take size) { source, held := held.drop size }, x) := by
        simp only [Feed.regrouped, if_neg hsize.ne', if_pos hheld, Dialogue.run_done]
      rw [chunksUntil_append hsize hheld]
      refine .value hstep (ih (held.drop size).length ?_ _ rfl)
      rw [List.length_drop]
      omega
    · exact h held (by omega)

/-- What is held back at the end of the pages is the last chunk. -/
theorem yields_regrouped_end {size : Nat} (hsize : 0 < size) (pages : Feed σ (List α)) (x : ω)
    {held : List α} (hheld : held.length < size) :
    Yields w (pages.regrouped size) { source := none, held } x (chunks size held) none := by
  have hstep : ((pages.regrouped size).step { source := none, held }).run w x =
      some (if held.isEmpty then .finished else .value held { source := none }, x) := by
    simp only [Feed.regrouped, if_neg hsize.ne', if_neg (not_le.mpr hheld), Dialogue.run_done]
  cases held with
  | nil =>
    rw [chunks_nil]
    exact .finished hstep
  | cons a rest =>
    rw [chunks_of_ne_nil hsize (List.cons_ne_nil a rest), List.take_of_length_le hheld.le,
      List.drop_eq_nil_of_le hheld.le, chunks_nil]
    have hend : ((pages.regrouped size).step { source := none }).run w x =
        some (.finished, x) := by
      simp [Feed.regrouped, hsize.ne']
    exact .value hstep (.finished hend)

/-- While no chunk is full, the chunks step with the pages. -/
theorem run_step_regrouped {size : Nat} (hsize : 0 < size) {pages : Feed σ (List α)} {s : σ}
    {x x' : ω} {r : FeedStep σ (List α)} (hstep : (pages.step s).run w x = some (r, x'))
    {held : List α} (hheld : held.length < size) :
    ((pages.regrouped size).step { source := some s, held }).run w x =
      some (match r with
        | .value page rest => .silent { source := some rest, held := held ++ page }
        | .silent rest => .silent { source := some rest, held }
        | .failure e => .failure e
        | .finished => .silent { source := none, held }, x') := by
  simp only [Feed.regrouped, if_neg hsize.ne', if_neg (not_le.mpr hheld), Dialogue.bind_eq,
    Dialogue.run_bind, hstep, Option.bind_some]
  cases r <;> rfl

/-- Chunks are the values of the pages, regrouped. -/
theorem Yields.regrouped {size : Nat} (hsize : 0 < size) {pages : Feed σ (List α)} {source : σ}
    {x : ω} {values : List (List α)} {fault : Option Error}
    (h : Yields w pages source x values fault) (held : List α) :
    Yields w (pages.regrouped size) { source := some source, held } x
      (chunksUntil size (held ++ values.flatten) fault) fault := by
  induction h generalizing held with
  | @finished s x x' hstep =>
    refine regrouped_held hsize ?_ held
    intro held hheld
    rw [List.flatten_nil, List.append_nil]
    exact .silent (run_step_regrouped hsize hstep hheld)
      (yields_regrouped_end hsize pages x' hheld)
  | failure hstep =>
    refine regrouped_held hsize ?_ held
    intro held hheld
    -- the values held back are lost
    rw [List.flatten_nil, List.append_nil, chunksUntil_of_lt hheld]
    exact .failure (run_step_regrouped hsize hstep hheld)
  | silent hstep _ ih =>
    refine regrouped_held hsize ?_ held
    intro held hheld
    exact .silent (run_step_regrouped hsize hstep hheld) (ih held)
  | @value s rest x x' page values fault hstep _ ih =>
    refine regrouped_held hsize ?_ held
    intro held hheld
    have hrest := ih (held ++ page)
    rw [List.append_assoc, ← List.flatten_cons] at hrest
    exact .silent (run_step_regrouped hsize hstep hheld) hrest

end Feed

end ResourceClient
