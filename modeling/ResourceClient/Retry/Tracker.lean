import ResourceClient.Retry.Policy

/-! # Counting attempts

    A tracker counts the attempts of one request by what they ended in.  The
    counters are 32-bit words, like the budgets they are compared with, and
    their arithmetic is checked: where no word can hold a sum there is no
    sum, and neither a decision nor a pause that depends on it.

    The pause before the next attempt grows with the number of attempts: it
    is a random part of `factor * 2 ^ total` seconds, of the longest pause at
    most. -/

namespace ResourceClient

/-! ## Sums of words -/

/-- The sum of two words, if a word can hold it. -/
def addWords? (a b : UInt32) : Option UInt32 :=
  if a.toNat + b.toNat < UInt32.size then some (a + b) else none

theorem addWords?_eq_some_iff {a b c : UInt32} :
    addWords? a b = some c ↔ c.toNat = a.toNat + b.toNat := by
  have hlt := c.toNat_lt
  have hsum := UInt32.toNat_add a b
  unfold addWords? UInt32.size
  split
  · rw [Option.some.injEq, ← UInt32.toNat_inj]
    omega
  · simp only [reduceCtorEq, false_iff]
    omega

theorem addWords?_eq_none_iff {a b : UInt32} :
    addWords? a b = none ↔ UInt32.size ≤ a.toNat + b.toNat := by
  simp [addWords?]

/-- The attempts of one request so far. -/
structure RetryTracker where
  /-- Attempts that ended with a reply. -/
  status : UInt32 := 0
  /-- Attempts that ended without an answer in time. -/
  read : UInt32 := 0
  /-- Attempts that ended with a lost connection. -/
  connect : UInt32 := 0
  deriving DecidableEq, Repr

namespace RetryTracker

/-! ## Decisions -/

/-- All counted attempts. -/
def total? (t : RetryTracker) : Option UInt32 := do
  addWords? (← addWords? t.status t.read) t.connect

theorem total?_eq_some_iff {t : RetryTracker} {total : UInt32} :
    t.total? = some total ↔
      total.toNat = t.status.toNat + t.read.toNat + t.connect.toNat := by
  unfold total?
  cases hfirst : addWords? t.status t.read with
  | none =>
    have hover := addWords?_eq_none_iff.mp hfirst
    have hlt := total.toNat_lt_size
    simp only [Option.bind_eq_bind, Option.bind_none, reduceCtorEq, false_iff]
    omega
  | some first =>
    rw [Option.bind_eq_bind, Option.bind_some, addWords?_eq_some_iff,
      addWords?_eq_some_iff.mp hfirst]

theorem total?_eq_none_iff {t : RetryTracker} :
    t.total? = none ↔ UInt32.size ≤ t.status.toNat + t.read.toNat + t.connect.toNat := by
  unfold total?
  cases hfirst : addWords? t.status t.read with
  | none =>
    have hover := addWords?_eq_none_iff.mp hfirst
    simp only [Option.bind_eq_bind, Option.bind_none, true_iff]
    omega
  | some first =>
    rw [Option.bind_eq_bind, Option.bind_some, addWords?_eq_none_iff,
      addWords?_eq_some_iff.mp hfirst]

/-- Whether every counter is within its budget. -/
def withinBudgets? (t : RetryTracker) (p : RetryPolicy) : Option Bool :=
  t.total?.map fun total =>
    total ≤ p.total && t.status ≤ p.status && t.read ≤ p.read && t.connect ≤ p.connect

/-- Whether another attempt is allowed after one that ended with a status code,
    or without. -/
def allows? (t : RetryTracker) (p : RetryPolicy) (code : Option Nat) : Option Bool :=
  (t.withinBudgets? p).map fun within =>
    within &&
      match code with
      | some code => p.codes.contains code
      | none => true

/-! ## Pauses -/

/-- A quotient, rounded to the nearest natural number. -/
def roundedDiv (num den : Nat) : Nat := (2 * num + den) / (2 * den)

/-- Nanoseconds in a second. -/
def nanosecondsPerSecond : Nat := 1000000000

/-- Nanoseconds in a millisecond. -/
def nanosecondsPerMillisecond : Nat := 1000000

/-- The number of doublings after which the pauses grow no further. -/
def maxDoublings : Nat := 62

/-- The bound of the pause after a number of attempts, in nanoseconds.  A
    negative factor counts as zero. -/
def pauseBoundAfter (p : RetryPolicy) (attempts : UInt32) : Nat :=
  if p.backoffFactor.negative then 0
  else
    let (num, den) := p.backoffFactor.ratio
    let grown :=
      roundedDiv ((num <<< min attempts.toNat maxDoublings) * nanosecondsPerSecond) den
    min grown (p.maxBackoff * nanosecondsPerMillisecond)

/-- The bound of the pause before the next attempt. -/
def pauseBound? (t : RetryTracker) (p : RetryPolicy) : Option Nat :=
  t.total?.map (pauseBoundAfter p)

/-- How many random numbers there are. -/
def randomNumbers : Nat := 0x20000000000000

/-- The pause before the next attempt, in nanoseconds, for a random number below
    `randomNumbers`. -/
def pause? (t : RetryTracker) (p : RetryPolicy) (random : Nat) : Option Nat :=
  (t.pauseBound? p).map fun bound => bound * (random % randomNumbers) / randomNumbers

theorem pause?_le_pauseBound? {t : RetryTracker} {p : RetryPolicy} {random pause : Nat}
    (h : t.pause? p random = some pause) :
    ∃ bound, t.pauseBound? p = some bound ∧ pause ≤ bound := by
  obtain ⟨bound, hbound, rfl⟩ := Option.map_eq_some_iff.mp h
  refine ⟨bound, hbound, Nat.div_le_of_le_mul ?_⟩
  rw [Nat.mul_comm]
  exact Nat.mul_le_mul_right _ (Nat.le_of_lt (Nat.mod_lt _ (by decide)))

theorem pauseBoundAfter_le_maxBackoff (p : RetryPolicy) (attempts : UInt32) :
    pauseBoundAfter p attempts ≤ p.maxBackoff * nanosecondsPerMillisecond := by
  unfold pauseBoundAfter
  split
  · exact Nat.zero_le _
  · exact Nat.min_le_right _ _

/-- No pause is longer than the longest one. -/
theorem pause?_le_maxBackoff {t : RetryTracker} {p : RetryPolicy} {random pause : Nat}
    (h : t.pause? p random = some pause) : pause ≤ p.maxBackoff * nanosecondsPerMillisecond := by
  obtain ⟨bound, hbound, hle⟩ := pause?_le_pauseBound? h
  obtain ⟨total, -, rfl⟩ := Option.map_eq_some_iff.mp hbound
  exact Nat.le_trans hle (pauseBoundAfter_le_maxBackoff p total)

/-- The least `k` between `-30` and `98` with `nanoseconds ≤ 2 ^ k` seconds. -/
def powerOfTwoAbove? (nanoseconds : Nat) : Option Int :=
  ((List.range 128).map (fun i : Nat => (i : Int) - 30)).find? fun k =>
    if 0 ≤ k then nanoseconds ≤ nanosecondsPerSecond <<< k.toNat
    else nanoseconds <<< (-k).toNat ≤ nanosecondsPerSecond

/-- A bound of pauses as a power of two in seconds; none when there are no
    pauses. -/
def magnitude? (bound : Nat) : Option Int :=
  if bound = 0 then none else powerOfTwoAbove? bound

end RetryTracker

end ResourceClient
