import Mathlib
import ResourceClient.Bulk.Execute
import ResourceClient.Proofs.Dialogue.Gather

/-! # Bulk operations under every schedule

    The results of a bulk operation come in the order of completion, each
    with the number of its task.  Sorting by these numbers gives the results
    in task order, since every number occurs once
    (`inTaskOrder_of_perm`), and so the summary is that of the tasks laid
    beside their results, whatever the schedule was.

    `Summary.Reports` says without a word about fates and filters what such
    a summary holds: the tasks fall into three order-preserving parts by
    their own results. -/

namespace ResourceClient

/-! ## Back in task order -/

namespace Bulk

/-- Values that come with their numbers in any order are put back. -/
theorem inTaskOrder_of_perm {α : Type} {completed : List (Nat × α)} {values : List α}
    (h : completed.Perm (Pool.numbered values)) : inTaskOrder completed = values := by
  have hsorted : (completed.mergeSort fun a b => a.1 ≤ b.1).Pairwise fun a b => a.1 ≤ b.1 := by
    have hpairwise := @List.pairwise_mergeSort (Nat × α) (fun a b => decide (a.1 ≤ b.1))
      (by intro a b c hab hbc; simp only [decide_eq_true_eq] at *; omega)
      (by intro a b; simp only [Bool.or_eq_true, decide_eq_true_eq]; omega) completed
    simpa only [decide_eq_true_eq] using hpairwise
  have hnumbered : (Pool.numbered values).Pairwise fun a b => a.1 ≤ b.1 := by
    rw [← List.pairwise_map (R := (· ≤ ·)), Pool.map_fst_numbered]
    exact List.pairwise_le_range
  have hperm := (List.mergeSort_perm completed fun a b => decide (a.1 ≤ b.1)).trans h
  -- two entries with one number are equal, so the order of the numbers decides all
  have hantisymm : ∀ a b, a ∈ completed.mergeSort (fun a b => decide (a.1 ≤ b.1)) →
      b ∈ Pool.numbered values → a.1 ≤ b.1 → b.1 ≤ a.1 → a = b := by
    rintro ⟨i, a⟩ ⟨j, b⟩ ha hb hij hji
    obtain rfl : i = j := Nat.le_antisymm hij hji
    have ha' := Pool.mem_numbered.1 (hperm.mem_iff.1 ha)
    have hb' := Pool.mem_numbered.1 hb
    rw [Option.some.inj (ha'.symm.trans hb')]
  unfold inTaskOrder
  rw [hperm.eq_of_pairwise hantisymm hsorted hnumbered, Pool.map_snd_numbered]

end Bulk

/-! ## What a summary holds -/

namespace Summary

variable {τ ρ : Type}

/-- A summary of tasks with their results.  The tasks fall into three parts
    that keep their order and hold each task once: those with a result,
    those that a reply with a status below 500 rejected, and those with any
    other error.  The results and the errors are in task order as well. -/
def Reports (s : Summary τ ρ) (outcomes : List (τ × Result ρ)) : Prop :=
  ∃ accepted rejected unsettled errors : List (τ × Result ρ),
    (accepted ++ rejected ++ unsettled).Perm outcomes ∧
    (accepted.Sublist outcomes ∧ ∀ o ∈ accepted, ∃ r, o.2 = .ok r) ∧
    (rejected.Sublist outcomes ∧ ∀ o ∈ rejected, ∃ e error, o.2 = .error e ∧
      e.kind = .api error ∧ error.code < 500) ∧
    (unsettled.Sublist outcomes ∧ ∀ o ∈ unsettled, ∃ e, o.2 = .error e ∧
      ∀ error, e.kind = .api error → 500 ≤ error.code) ∧
    (errors.Sublist outcomes ∧ errors.Perm (rejected ++ unsettled)) ∧
    s.successful = accepted.map (·.1) ∧ s.failed = rejected.map (·.1) ∧
    s.unknown = unsettled.map (·.1) ∧ s.results.map Except.ok = accepted.map (·.2) ∧
    s.exceptions.map Except.error = errors.map (·.2)

theorem fate_successful {r : Result ρ} (h : Fate.ofResult r = .successful) :
    ∃ a, r = .ok a := by
  cases r with
  | ok a => exact ⟨a, rfl⟩
  | error e =>
    unfold Fate.ofResult at h
    dsimp only at h
    split at h
    · split at h <;> cases h
    · cases h

theorem fate_failed {r : Result ρ} (h : Fate.ofResult r = .failed) :
    ∃ e error, r = .error e ∧ e.kind = .api error ∧ error.code < 500 := by
  cases r with
  | ok a => cases h
  | error e =>
    unfold Fate.ofResult at h
    dsimp only at h
    split at h
    · next error hkind =>
      split at h
      · next hcode => exact ⟨e, error, rfl, hkind, hcode⟩
      · cases h
    · cases h

theorem fate_unknown {r : Result ρ} (h : Fate.ofResult r = .unknown) :
    ∃ e, r = .error e ∧ ∀ error, e.kind = .api error → 500 ≤ error.code := by
  cases r with
  | ok a => cases h
  | error e =>
    refine ⟨e, rfl, ?_⟩
    intro error hkind
    simp only [Fate.ofResult, hkind] at h
    split at h
    · cases h
    · omega

/-- The outcomes with a fate. -/
def part (outcomes : List (τ × Result ρ)) (fate : Fate) : List (τ × Result ρ) :=
  outcomes.filter fun o => Fate.ofResult o.2 == fate

theorem fate_of_mem_part {outcomes : List (τ × Result ρ)} {fate : Fate}
    {o : τ × Result ρ} (h : o ∈ part outcomes fate) : Fate.ofResult o.2 = fate :=
  eq_of_beq (List.mem_filter.1 h).2

theorem part_cons (o : τ × Result ρ) (os : List (τ × Result ρ)) (fate : Fate) :
    part (o :: os) fate =
      if Fate.ofResult o.2 = fate then o :: part os fate else part os fate := by
  unfold part
  rw [List.filter_cons]
  simp only [beq_iff_eq]

/-- The outcomes that are errors. -/
def errorPart (outcomes : List (τ × Result ρ)) : List (τ × Result ρ) :=
  outcomes.filter fun o => Fate.ofResult o.2 != .successful

theorem perm_parts (outcomes : List (τ × Result ρ)) :
    (part outcomes .successful ++ part outcomes .failed ++ part outcomes .unknown).Perm
      outcomes := by
  induction outcomes with
  | nil => exact .nil
  | cons o os ih =>
    rw [part_cons, part_cons, part_cons]
    cases hfate : Fate.ofResult o.2 with
    | successful => exact ih.cons o
    | failed =>
      -- the outcome stands behind the accepted ones and is moved to the front
      simp only [reduceCtorEq, if_false, if_true]
      rw [List.append_assoc, List.cons_append]
      exact List.perm_middle.trans (by rw [← List.append_assoc]; exact ih.cons o)
    | unknown =>
      simp only [reduceCtorEq, if_false, if_true]
      exact List.perm_middle.trans (ih.cons o)

theorem errorPart_perm (outcomes : List (τ × Result ρ)) :
    (errorPart outcomes).Perm (part outcomes .failed ++ part outcomes .unknown) := by
  induction outcomes with
  | nil => exact .nil
  | cons o os ih =>
    unfold errorPart at ih ⊢
    rw [part_cons, part_cons, List.filter_cons]
    cases hfate : Fate.ofResult o.2 with
    | successful => simpa using ih
    | failed => simpa using ih.cons o
    | unknown =>
      simp only [reduceCtorEq, if_false, if_true]
      exact (ih.cons o).trans List.perm_middle.symm

theorem map_ok_results (outcomes : List (τ × Result ρ)) :
    (ofOutcomes outcomes).results.map Except.ok = (part outcomes .successful).map (·.2) := by
  induction outcomes with
  | nil => rfl
  | cons o os ih =>
    obtain ⟨t, r⟩ := o
    rw [part_cons]
    cases r with
    | ok a => exact congrArg (Except.ok a :: ·) ih
    | error e =>
      rw [if_neg (by intro h; obtain ⟨a, ha⟩ := fate_successful h; cases ha)]
      exact ih

theorem map_error_exceptions (outcomes : List (τ × Result ρ)) :
    (ofOutcomes outcomes).exceptions.map Except.error = (errorPart outcomes).map (·.2) := by
  induction outcomes with
  | nil => rfl
  | cons o os ih =>
    obtain ⟨t, r⟩ := o
    unfold errorPart at ih ⊢
    cases r with
    | ok a => exact ih
    | error e =>
      have hfate : (Fate.ofResult (.error e : Result ρ) != .successful) = true := by
        rw [bne_iff_ne]
        intro h
        obtain ⟨a, ha⟩ := fate_successful h
        cases ha
      rw [List.filter_cons, if_pos hfate]
      exact congrArg (Except.error e :: ·) ih

theorem reports_ofOutcomes (outcomes : List (τ × Result ρ)) :
    (ofOutcomes outcomes).Reports outcomes := by
  refine ⟨part outcomes .successful, part outcomes .failed, part outcomes .unknown,
    errorPart outcomes, perm_parts outcomes, ⟨List.filter_sublist, ?_⟩,
    ⟨List.filter_sublist, ?_⟩, ⟨List.filter_sublist, ?_⟩,
    ⟨List.filter_sublist, errorPart_perm outcomes⟩, rfl, rfl, rfl, map_ok_results outcomes,
    map_error_exceptions outcomes⟩
  · intro o ho
    exact fate_successful (fate_of_mem_part ho)
  · intro o ho
    exact fate_failed (fate_of_mem_part ho)
  · intro o ho
    exact fate_unknown (fate_of_mem_part ho)

/-- When every task has a list, the lists are joined. -/
theorem raise_joined_of_ok {τ ρ : Type} (unwrap : τ → List Json) {tasks : List τ}
    {lists : List (List ρ)} (hlength : lists.length = tasks.length) :
    ((ofOutcomes (tasks.zip (lists.map Except.ok))).raise unwrap).map (·.joined id) =
      (.ok lists.flatten : Result (List ρ)) := by
  have hparts : (ofOutcomes (tasks.zip (lists.map Except.ok))).exceptions = [] ∧
      (ofOutcomes (tasks.zip (lists.map Except.ok))).results = lists := by
    induction lists generalizing tasks with
    | nil => simp [ofOutcomes]
    | cons l lists ih =>
      cases tasks with
      | nil => simp at hlength
      | cons t tasks =>
        obtain ⟨hexceptions, hresults⟩ := ih (Nat.succ.inj hlength)
        exact ⟨hexceptions, congrArg (l :: ·) hresults⟩
  obtain ⟨hexceptions, hresults⟩ := hparts
  have hnone : (ofOutcomes (tasks.zip (lists.map Except.ok))).compoundError? unwrap = none := by
    rw [compoundError?, hexceptions]
    rfl
  unfold raise
  rw [hnone]
  show Except.ok (joined _ id) = _
  rw [joined, hresults, List.flatMap_id]

end Summary

/-! ## Schedules of a bulk operation -/

namespace Bulk

open Dialogue

variable {τ ρ : Type}

/-- The summary of a complete path is that of the tasks with their results. -/
theorem summarize_of_path {workers : Nat} {tasks : List τ} {task : τ → Dialogue (Result ρ)}
    {es : List (Nat × Slot.Event (Result ρ))} {pool : Pool (Result ρ)}
    (h : Pool.Path workers (.ofTasks (tasks.map task)) es pool) (hcomplete : pool.IsComplete)
    {results : List (Result ρ)} (hlength : results.length = tasks.length)
    (hresults : ∀ i r, (i, .finish r) ∈ es → results[i]? = some r) :
    summarize tasks pool.completed = .ofOutcomes (tasks.zip results) := by
  obtain ⟨values, hvlength, hvalues, hperm⟩ := h.complete hcomplete
  -- the value of a task is the one that the schedule finishes it with
  have heq : values = results := by
    rw [List.length_map] at hvlength
    apply List.ext_getElem (hvlength.trans hlength.symm)
    intro i hi hi'
    have hd : (tasks.map task)[i]? = some (task (tasks.get ⟨i, hvlength ▸ hi⟩)) := by
      rw [List.getElem?_map, List.getElem?_eq_getElem (hvlength ▸ hi)]
      rfl
    obtain ⟨turns, a, ha, hhistory, -⟩ := hvalues i _ hd
    have hmem : (i, Slot.Event.finish a) ∈ es := by
      rw [← Pool.mem_historyOf, hhistory]
      simp
    have hget := hresults i a hmem
    rw [List.getElem?_eq_getElem hi] at ha
    rw [List.getElem?_eq_getElem hi'] at hget
    rw [Option.some.inj ha, Option.some.inj hget]
  unfold summarize
  rw [inTaskOrder_of_perm hperm, heq]

/-- A run of `execute` follows a complete path and sums its log up. -/
theorem path_of_runs_execute {workers : Nat} (hpos : 0 < workers) {tasks : List τ}
    {task : τ → Dialogue (Result ρ)} {turns : List Turn} {outcome : Result (Summary τ ρ)}
    (h : Runs (execute workers tasks task) turns outcome) :
    ∃ es pool, Pool.Path workers (.ofTasks (tasks.map task)) es pool ∧ pool.IsComplete ∧
      outcome = .ok (summarize tasks pool.completed) := by
  unfold execute at h
  rw [if_neg (by omega)] at h
  obtain ⟨completed, before, after, rfl, hgather, hdone⟩ := runs_bind_iff.1 h
  obtain ⟨-, rfl⟩ := runs_done_iff.1 hdone
  obtain ⟨es, pool, hpath, hcomplete, rfl, -⟩ := Pool.path_of_runs_gather hpos hgather
  exact ⟨es, pool, hpath, hcomplete, rfl⟩

/-- A run of `execute` weaves the runs of the tasks, and sums up the tasks
    with their results in task order. -/
theorem runs_execute {workers : Nat} (hpos : 0 < workers) {tasks : List τ}
    {task : τ → Dialogue (Result ρ)} {turns : List Turn} {outcome : Result (Summary τ ρ)}
    (h : Runs (execute workers tasks task) turns outcome) :
    ∃ results, Woven (tasks.map task) (exchanges turns) results ∧
      outcome = .ok (.ofOutcomes (tasks.zip results)) := by
  unfold execute at h
  rw [if_neg (by omega)] at h
  obtain ⟨completed, before, after, rfl, hgather, hdone⟩ := runs_bind_iff.1 h
  obtain ⟨rfl, rfl⟩ := runs_done_iff.1 hdone
  obtain ⟨results, hwoven, hperm⟩ := woven_of_runs_gather hpos hgather
  refine ⟨results, by rwa [List.append_nil], ?_⟩
  rw [summarize, inTaskOrder_of_perm hperm]

theorem total_execute (workers : Nat) {tasks : List τ} {task : τ → Dialogue (Result ρ)}
    (h : ∀ t ∈ tasks, (task t).Total) : (execute workers tasks task).Total := by
  unfold execute
  split
  · exact .done _
  · refine (total_gather workers ?_).bind fun completed => .done _
    intro d hd
    obtain ⟨t, ht, rfl⟩ := List.mem_map.1 hd
    exact h t ht

/-- **Schedule independence.**  In every reachable state no more tasks are in
    flight than there are workers, and tasks were started in order and each
    at most once; a state that is not complete can go on.  Every complete
    path in which the tasks have given results ends in the one summary that
    these results make up, and every run of `execute` follows such a path.
    Tasks that are never abandoned come to an outcome in every world. -/
theorem execute_schedule_independent {workers : Nat} (hpos : 0 < workers) (tasks : List τ)
    (task : τ → Dialogue (Result ρ)) :
    (∀ es pool, Pool.Path workers (.ofTasks (tasks.map task)) es pool →
      pool.inFlight ≤ workers ∧ (Pool.starts es).Nodup ∧
      Pool.starts es = List.range (Pool.starts es).length ∧
      (pool.IsComplete ∨ (∃ e pool', Pool.Step workers pool e pool') ∨ pool.IsGivenUp)) ∧
    (∀ es pool, Pool.Path workers (.ofTasks (tasks.map task)) es pool → pool.IsComplete →
      ∀ results : List (Result ρ), results.length = tasks.length →
        (∀ i r, (i, .finish r) ∈ es → results[i]? = some r) →
        summarize tasks pool.completed = .ofOutcomes (tasks.zip results) ∧
        (summarize tasks pool.completed).Reports (tasks.zip results)) ∧
    (∀ turns outcome, Runs (execute workers tasks task) turns outcome →
      ∃ es pool, Pool.Path workers (.ofTasks (tasks.map task)) es pool ∧ pool.IsComplete ∧
        outcome = .ok (summarize tasks pool.completed)) ∧
    ((∀ t ∈ tasks, (task t).Total) → ∀ {ω : Type} (w : World ω) (x : ω),
      ∃ outcome x', (execute workers tasks task).run w x = some (outcome, x')) := by
  refine ⟨?_, ?_, ?_, ?_⟩
  · -- every reachable state
    intro es pool hpath
    have hrange := hpath.starts_eq_range
    refine ⟨hpath.inFlight_le (by simp), ?_, hrange, Pool.isComplete_or_exists_step hpos pool⟩
    rw [hrange]
    exact List.nodup_range
  · -- every complete path
    intro es pool hpath hcomplete results hlength hresults
    have hsummary := summarize_of_path hpath hcomplete hlength hresults
    refine ⟨hsummary, ?_⟩
    rw [hsummary]
    exact Summary.reports_ofOutcomes _
  · -- every run of the operation
    intro turns outcome hruns
    exact path_of_runs_execute hpos hruns
  · -- and there are such runs
    intro htotal ω w x
    exact run_of_total w (total_execute workers htotal) x

/-- Two tasks that finish in the reverse order, the first one rejected. -/
theorem execute_in_reverse :
    0 < 2 ∧
      summarize ["a", "b"] [(1, .ok 7), (0, .error (.api (.ofCode 400)))] =
        .ofOutcomes [("a", .error (.api (.ofCode 400))), ("b", .ok 7)] := by
  let result : String → Result Nat := fun t =>
    if t = "a" then .error (.api (.ofCode 400)) else .ok 7
  have hpath : Pool.Path 2 (.ofTasks (["a", "b"].map fun t => .done (result t)))
      [(0, .start), (1, .start), (1, .finish (result "b")), (0, .finish (result "a"))]
      ⟨[.finished, .finished], [(1, result "b"), (0, result "a")]⟩ := by
    refine .cons (.start rfl (by omega) (by decide)) (.cons (.start rfl ?_ (by decide))
      (.cons (.finish rfl) (.cons (.finish rfl) (.nil _))))
    intro j hj t
    obtain rfl : j = 0 := by omega
    simp [Pool.movedTo, Pool.ofTasks]
  have hall := (execute_schedule_independent (by decide) ["a", "b"] fun t => .done (result t)).2.1
    _ _ hpath (by simp [Pool.IsComplete]) [result "a", result "b"] rfl (by
      intro i r hmem
      simp at hmem
      rcases hmem with ⟨rfl, rfl⟩ | ⟨rfl, rfl⟩ <;> rfl)
  exact ⟨by decide, hall.1⟩

end Bulk

end ResourceClient
