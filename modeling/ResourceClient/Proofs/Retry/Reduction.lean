import Mathlib
import ResourceClient.Proofs.Retry.Law

/-! # The reduced budgets

    The policy for writes is made from a full policy by taking budgets away,
    with one exception: the reply that the client is too fast asks for a
    repetition of a write, whether the full policy has its code or not
    (`IsForWritesOnly`).

    Two loops that run over the same outcomes, one under each policy, move in
    lock-step.  What they count does not depend on the policy, so that their
    trackers are the same for as long as both go on, and a verdict of one is
    to be compared with the verdict of the other from the same tracker
    (`verdict_of_forWrites`).  By induction on the repetitions that are left,
    the loop for writes ends with the other one at the latest, or the other
    one ends with the exception (`forWrites_stops_no_later`).

    Nothing is assumed of the budgets: an attempt that the counters cannot
    count is none for either loop, and ends both. -/

namespace ResourceClient

open Attempt

namespace RetryPolicy

variable {p : RetryPolicy} {t t' : RetryTracker}

/-- A reply asks for a repetition of writes, but not for one under the full
    policy. -/
def IsForWritesOnly (p : RetryPolicy) (outcome : Attempt) : Prop :=
  ∃ r, outcome = .ok r ∧ r.status = 429 ∧ 429 ∉ p.codes

/-! ## One verdict -/

/-- What is within the reduced budgets is within the full ones. -/
theorem withinBudgets_of_forWrites (h : t.withinBudgets? p.forWrites = some true) :
    t.withinBudgets? p = some true := by
  rw [RetryTracker.withinBudgets?_eq_some_true_iff] at h ⊢
  obtain ⟨htotal, hstatus, hread, hconnect⟩ := h
  have hzero : p.forWrites.read.toNat = 0 := rfl
  exact ⟨htotal, hstatus, by omega, hconnect⟩

/-- What is repeated under the reduced policy is repeated under the full one,
    unless the reply asks for a repetition of writes only. -/
theorem repeats_of_forWrites {outcome : Attempt} (h : p.forWrites.Repeats outcome) :
    p.Repeats outcome ∨ p.IsForWritesOnly outcome := by
  obtain ⟨hcounted, hcode⟩ := h
  cases kind_of outcome with
  | reply r =>
    -- the only code of the reduced policy
    have hstatus : r.status = 429 := by simpa [forWrites] using hcode r rfl
    by_cases hfull : 429 ∈ p.codes
    · refine Or.inl ⟨hcounted, ?_⟩
      rintro r' hr
      obtain rfl := Except.ok.inj hr
      rwa [hstatus]
    · exact Or.inr ⟨r, rfl, hstatus, hfull⟩
  | timeout he => exact Or.inl ⟨hcounted, by simp⟩
  | lost he => exact Or.inl ⟨hcounted, by simp⟩
  | other hread hconnect => exact absurd hcounted (not_isCounted hread hconnect)

/-- Where the loop for writes goes on, so does the other one, with the same
    counts, unless the reply asks for a repetition of writes only. -/
theorem verdict_of_forWrites {outcome : Attempt} (h : p.forWrites.verdict t outcome = .again t') :
    p.verdict t outcome = .again t' ∨ p.IsForWritesOnly outcome := by
  obtain ⟨hrepeats, hcounted, hwithin⟩ := verdict_eq_again_iff.mp h
  refine (repeats_of_forWrites hrepeats).imp_left fun hfull => ?_
  exact verdict_eq_again_iff.mpr ⟨hfull, hcounted, withinBudgets_of_forWrites hwithin⟩

/-- After a reply that asks for a repetition of writes only, the loop under
    the full policy does not go on. -/
theorem IsForWritesOnly.verdict_ne_again {outcome : Attempt} (h : p.IsForWritesOnly outcome)
    (t t' : RetryTracker) : p.verdict t outcome ≠ .again t' := by
  obtain ⟨r, rfl, hstatus, hfull⟩ := h
  intro hverdict
  have hcode := (verdict_eq_again_iff.mp hverdict).1.2 r rfl
  rw [hstatus] at hcode
  exact hfull hcode

/-! ## Two loops -/

/-- A loop ends with one of the attempts that it makes, and hands back the
    outcome of that one. -/
theorem exists_run_attempts (p : RetryPolicy) (outcomes : Nat → Attempt) (more : Nat)
    (t : RetryTracker) (k : Nat) :
    ∃ n, k ≤ n ∧ (p.attempts (scripted outcomes) more t).run k = (outcomes n, n + 1) := by
  induction more generalizing t k with
  | zero => exact ⟨k, le_rfl, rfl⟩
  | succ more ih =>
    by_cases hgoes : ∃ t', p.verdict t (outcomes k) = .again t'
    · obtain ⟨t', hverdict⟩ := hgoes
      obtain ⟨n, hle, hrun⟩ := ih t' (k + 1)
      exact ⟨n, by omega, (run_attempts_of_again outcomes hverdict more).trans hrun⟩
    · exact ⟨k, le_rfl, run_attempts_of_ends outcomes (not_exists.mp hgoes) more⟩

/-- From the same tracker, the loop for writes ends with the other one at the
    latest, or the other one ends with a reply that asks for a repetition of
    writes only. -/
theorem attempts_forWrites_le (p : RetryPolicy) (outcomes : Nat → Attempt) (more : Nat)
    (t : RetryTracker) (k : Nat) :
    ∃ n m, (p.attempts (scripted outcomes) more t).run k = (outcomes n, n + 1) ∧
      (p.forWrites.attempts (scripted outcomes) more t).run k = (outcomes m, m + 1) ∧
      (m ≤ n ∨ p.IsForWritesOnly (outcomes n)) := by
  induction more generalizing t k with
  | zero => exact ⟨k, k, rfl, rfl, Or.inl le_rfl⟩
  | succ more ih =>
    by_cases hgoes : ∃ t', p.forWrites.verdict t (outcomes k) = .again t'
    · obtain ⟨t', hreduced⟩ := hgoes
      rcases verdict_of_forWrites hreduced with hfull | honly
      · -- both count the attempt
        rw [run_attempts_of_again outcomes hreduced, run_attempts_of_again outcomes hfull]
        exact ih t' (k + 1)
      · -- the loops part here
        obtain ⟨m, -, hrun⟩ := p.forWrites.exists_run_attempts outcomes (more + 1) t k
        have hends := run_attempts_of_ends outcomes (honly.verdict_ne_again t) more
        exact ⟨k, m, hends, hrun, Or.inr honly⟩
    · obtain ⟨n, hle, hrun⟩ := p.exists_run_attempts outcomes (more + 1) t k
      have hends := run_attempts_of_ends outcomes (not_exists.mp hgoes) more
      exact ⟨n, k, hrun, hends, Or.inl hle⟩

/-- **The reduced policy repeats no more than the full one, a single reply
    apart.**  Over the same outcomes, the loop under the full policy ends
    with an attempt and the loop under the reduced policy with the same or an
    earlier one, unless the first of them ends with the reply that the client
    is too fast and the full policy does not have its code. -/
theorem forWrites_stops_no_later (p : RetryPolicy) (outcomes : Nat → Attempt) :
    ∃ n m, (p.execute (scripted outcomes)).run 0 = (outcomes n, n + 1) ∧
      (p.forWrites.execute (scripted outcomes)).run 0 = (outcomes m, m + 1) ∧
      (m ≤ n ∨ ∃ r, outcomes n = .ok r ∧ r.status = 429 ∧ 429 ∉ p.codes) :=
  p.attempts_forWrites_le outcomes maxRepetitions {} 0

/-- Under a policy that repeats after 503 only, a read is over with the reply
    that the client is too fast, and a write is sent again after it. -/
theorem forWrites_repeats_after_429 :
    let p : RetryPolicy := RetryPolicy.withCodes {} [503]
    let outcomes : Nat → Attempt := fun i =>
      .ok { status := if i = 0 then 429 else 200, headers := .empty, body := .empty }
    (p.execute (scripted outcomes)).run 0 = (outcomes 0, 1) ∧
      (p.forWrites.execute (scripted outcomes)).run 0 = (outcomes 1, 2) := by
  intro p outcomes
  have hrepetitions : maxRepetitions = maxRepetitions - 2 + 1 + 1 := rfl
  have hfull : p.verdict {} (outcomes 0) = .final := rfl
  have hagain : p.forWrites.verdict {} (outcomes 0) = .again { status := 1 } := rfl
  have hfinal : p.forWrites.verdict { status := 1 } (outcomes 1) = .final := rfl
  unfold execute
  rw [hrepetitions]
  refine ⟨run_attempts_of_final outcomes hfull _, ?_⟩
  rw [run_attempts_of_again outcomes hagain]
  exact run_attempts_of_final outcomes hfinal _

end RetryPolicy

end ResourceClient
