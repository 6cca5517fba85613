import Mathlib
import ResourceClient.Config.Environment
import ResourceClient.Proofs.Retry.Law

/-! # Where the counters overflow

    An attempt is counted before its count is compared with the budgets, so
    that the counts of a loop go up to one more than its budgets.  For the
    largest total budget this is one more than a 32-bit word can hold, and
    where no word can hold the sum of the counters, the loop breaks down.
    Whether it comes to that depends on the other three budgets, which bound
    the sum as well (`FitsWords`).

    Since the arithmetic is checked, the states of the loop can be told by
    the attempts made (`exists_reaches_iff`): they are the lists of
    repeatable attempts that are within all budgets (`Allows`).  A policy
    that fits allows no list as long as the largest word, and therefore
    leaves room for one more attempt in every state.  A policy that does not
    fit allows one, made of as many attempts of each kind as its budgets
    take, and the next attempt cannot be counted. -/

namespace ResourceClient

open Attempt

/-- Counting an outcome gives what it should: the counter of its kind grows
    by one, and the sum of the counters is their sum. -/
def RetryTracker.CountsExactly (t : RetryTracker) (outcome : Attempt) : Prop :=
  ∃ counted total, t.counted? outcome = some counted ∧ counted.total? = some total ∧
    counted.status.toNat = t.status.toNat + (isReply outcome).toNat ∧
    counted.read.toNat = t.read.toNat + (isTimeout outcome).toNat ∧
    counted.connect.toNat = t.connect.toNat + (isLost outcome).toNat ∧
    total.toNat = counted.status.toNat + counted.read.toNat + counted.connect.toNat

/-- Checked sums are exact where there are any. -/
theorem RetryTracker.countsExactly_iff {t : RetryTracker} {outcome : Attempt} :
    t.CountsExactly outcome ↔ (t.counted? outcome).bind total? ≠ none := by
  rw [ne_eq, Option.bind_eq_none_iff]
  push Not
  constructor
  · rintro ⟨counted, total, hcounted, htotal, -⟩
    exact ⟨counted, hcounted, by simp [htotal]⟩
  · rintro ⟨counted, hcounted, htotal⟩
    obtain ⟨total, htotal⟩ := Option.ne_none_iff_exists'.mp htotal
    obtain ⟨hstatus, hread, hconnect⟩ := counted?_eq_some_iff.mp hcounted
    exact ⟨counted, total, hcounted, htotal, hstatus, hread, hconnect,
      total?_eq_some_iff.mp htotal⟩

namespace RetryPolicy

variable {p : RetryPolicy}

/-! ## The attempts that a policy allows -/

/-- The attempts may all be followed by another one. -/
structure Allows (p : RetryPolicy) (made : List Attempt) : Prop where
  repeats : ∀ outcome ∈ made, p.Repeats outcome
  total_le : made.length ≤ p.total.toNat
  status_le : made.countP isReply ≤ p.status.toNat
  read_le : made.countP isTimeout ≤ p.read.toNat
  connect_le : made.countP isLost ≤ p.connect.toNat

theorem allows_nil (p : RetryPolicy) : p.Allows [] where
  repeats := by simp
  total_le := Nat.zero_le _
  status_le := Nat.zero_le _
  read_le := Nat.zero_le _
  connect_le := Nat.zero_le _

/-- Attempts that do not stop with the next one are allowed with it. -/
theorem allows_snoc_iff {made : List Attempt} (h : p.Allows made) (outcome : Attempt) :
    p.Allows (made ++ [outcome]) ↔ ¬ p.Stops (made ++ [outcome]) := by
  rw [stops_snoc_iff, not_or, not_not]
  constructor
  · rintro ⟨hrepeats, htotal, hstatus, hread, hconnect⟩
    exact ⟨hrepeats outcome (by simp), by omega⟩
  · rintro ⟨hrepeats, hbudgets⟩
    refine ⟨?_, by omega, by omega, by omega, by omega⟩
    intro other hmem
    rcases List.mem_append.1 hmem with hmade | hmem
    · exact h.repeats other hmade
    · obtain rfl := List.mem_singleton.1 hmem
      exact hrepeats

/-- Attempts that are allowed are allowed without the last of them. -/
theorem Allows.of_snoc {made : List Attempt} {outcome : Attempt}
    (h : p.Allows (made ++ [outcome])) : p.Allows made := by
  obtain ⟨hrepeats, htotal, hstatus, hread, hconnect⟩ := h
  rw [countP_snoc] at hstatus hread hconnect
  rw [List.length_append] at htotal
  refine ⟨?_, by omega, by omega, by omega, by omega⟩
  intro other hmem
  exact hrepeats other (List.mem_append_left _ hmem)

/-! ## The states of the loop -/

theorem Reaches.allows {made : List Attempt} {t : RetryTracker} (h : p.Reaches made t) :
    p.Allows made := by
  induction h with
  | start => exact p.allows_nil
  | again hmade hverdict ih =>
    rw [allows_snoc_iff ih, ← exists_again_iff p hmade.counts.1]
    exact ⟨_, hverdict⟩

/-- The loop can make all attempts that the policy allows. -/
theorem Allows.exists_reaches {made : List Attempt} (h : p.Allows made) :
    ∃ t, p.Reaches made t := by
  -- from the end: the last attempt is the one that the last verdict was about
  induction made using List.reverseRecOn with
  | nil => exact ⟨{}, .start⟩
  | append_singleton made outcome ih =>
    obtain ⟨t, hreaches⟩ := ih h.of_snoc
    have hgoes := (allows_snoc_iff h.of_snoc outcome).mp h
    obtain ⟨t', hverdict⟩ := (p.exists_again_iff hreaches.counts.1 outcome).mpr hgoes
    exact ⟨t', .again hreaches hverdict⟩

/-- The states of the loop, told by the attempts made. -/
theorem exists_reaches_iff (p : RetryPolicy) {made : List Attempt} :
    (∃ t, p.Reaches made t) ↔ p.Allows made :=
  ⟨fun ⟨_, h⟩ => h.allows, Allows.exists_reaches⟩

/-- In a state one more attempt is counted exactly if it is one that a word
    can still tell. -/
theorem Reaches.countsExactly_iff {made : List Attempt} {t : RetryTracker} {outcome : Attempt}
    (h : p.Reaches made t) (hcounted : IsCounted outcome) :
    t.CountsExactly outcome ↔ made.length + 1 < 2 ^ 32 := by
  rw [RetryTracker.countsExactly_iff, ne_eq,
    RetryTracker.total?_counted?_eq_none_iff hcounted, h.counts.1.sum_eq]
  omega

/-! ## The policies that fit -/

/-- How often a request is repeated at most after a reply: never, unless some
    status asks for it. -/
def replyBudget (p : RetryPolicy) : Nat := if p.codes = [] then 0 else p.status.toNat

/-- How often a request is repeated at most as far as the budgets for the
    single kinds of attempts go. -/
def separateBudgets (p : RetryPolicy) : Nat := p.replyBudget + p.read.toNat + p.connect.toNat

/-- The budgets end the attempts before the counters are at their end. -/
def FitsWords (p : RetryPolicy) : Prop :=
  p.total.toNat < 2 ^ 32 - 1 ∨ p.separateBudgets < 2 ^ 32 - 1

instance (p : RetryPolicy) : Decidable p.FitsWords :=
  inferInstanceAs (Decidable (_ ∨ _))

/-- Of replies, no more are allowed than their budget. -/
theorem Allows.countP_isReply_le {made : List Attempt} (h : p.Allows made) :
    made.countP isReply ≤ p.replyBudget := by
  unfold replyBudget
  split
  · next hcodes =>
    rw [Nat.le_zero, List.countP_eq_zero]
    intro outcome hmem hreply
    cases kind_of outcome with
    | reply r =>
      have hcode := (h.repeats _ hmem).2 r rfl
      simp [hcodes] at hcode
    | timeout he => simp [isReply] at hreply
    | lost he => simp [isReply] at hreply
    | other hread hconnect => simp [isReply] at hreply
  · exact h.status_le

/-- Attempts that are allowed are within the separate budgets. -/
theorem Allows.length_le {made : List Attempt} (h : p.Allows made) {t : RetryTracker}
    (hcounts : t.Counts made) : made.length ≤ p.separateBudgets := by
  have hreplies := h.countP_isReply_le
  have hread := h.read_le
  have hconnect := h.connect_le
  have hsum := hcounts.sum_eq
  rw [hcounts.status_eq, hcounts.read_eq, hcounts.connect_eq] at hsum
  unfold separateBudgets
  omega

/-- Under a policy that fits, every state has room for one more attempt. -/
theorem FitsWords.length_lt (hfits : p.FitsWords) {made : List Attempt} {t : RetryTracker}
    (h : p.Reaches made t) : made.length + 1 < 2 ^ 32 := by
  obtain ⟨hcounts, htotal⟩ := h.counts
  have hseparate := h.allows.length_le hcounts
  -- whichever budgets are small, the attempts are within them
  rcases hfits with hfits | hfits <;> omega

/-! ## The policies that do not fit -/

/-- An answer that did not come in time. -/
def late : Attempt := .error { kind := .readTimeout }

/-- A connection that was lost. -/
def lost : Attempt := .error { kind := .connection }

theorem isCounted_late : IsCounted late := Or.inr (Or.inl rfl)

theorem isCounted_lost : IsCounted lost := Or.inr (Or.inr rfl)

/-- A reply without a body. -/
def reply (status : Nat) : Attempt := .ok { status, headers := .empty, body := .empty }

/-- Attempts of the three kinds, as many as are wanted. -/
def attemptsOf (code replies timeouts losses : Nat) : List Attempt :=
  List.replicate replies (reply code) ++ List.replicate timeouts late ++
    List.replicate losses lost

@[simp] theorem length_attemptsOf (code a b c : Nat) :
    (attemptsOf code a b c).length = a + b + c := by
  simp [attemptsOf, Nat.add_assoc]

/-- They are allowed within the budgets, where replies need a status that
    asks for a repetition. -/
theorem allows_attemptsOf {code a b c : Nat} (htotal : a + b + c ≤ p.total.toNat)
    (ha : a ≤ p.status.toNat) (hcode : a = 0 ∨ code ∈ p.codes) (hb : b ≤ p.read.toNat)
    (hc : c ≤ p.connect.toNat) : p.Allows (attemptsOf code a b c) := by
  refine ⟨?_, ?_, ?_, ?_, ?_⟩
  · intro outcome hmem
    simp only [attemptsOf, List.mem_append, List.mem_replicate, or_assoc] at hmem
    rcases hmem with ⟨hpos, rfl⟩ | ⟨-, rfl⟩ | ⟨-, rfl⟩
    · refine ⟨Or.inl rfl, ?_⟩
      rintro r hr
      obtain rfl := Except.ok.inj hr
      exact hcode.resolve_left hpos
    · exact ⟨Or.inr (Or.inl rfl), by simp [late]⟩
    · exact ⟨Or.inr (Or.inr rfl), by simp [lost]⟩
  · rw [length_attemptsOf]
    exact htotal
  · simpa [attemptsOf, List.countP_replicate, isReply, reply, late, lost] using ha
  · simpa [attemptsOf, List.countP_replicate, isTimeout, reply, late, lost] using hb
  · simpa [attemptsOf, List.countP_replicate, isLost, reply, late, lost] using hc

/-- A policy that does not fit allows as many attempts as the largest word. -/
theorem exists_allows_of_not_fitsWords (h : ¬ p.FitsWords) :
    ∃ made, p.Allows made ∧ made.length = 2 ^ 32 - 1 := by
  unfold FitsWords at h
  have htotal : p.total.toNat = 2 ^ 32 - 1 := by
    have hlt := p.total.toNat_lt
    omega
  have hseparate : 2 ^ 32 - 1 ≤ p.replyBudget + p.read.toNat + p.connect.toNat := by
    unfold separateBudgets at h
    omega
  -- the attempts are dealt out to the budgets in turn
  obtain ⟨a, b, c, ha, hb, hc, hsum⟩ : ∃ a b c, a ≤ p.replyBudget ∧ b ≤ p.read.toNat ∧
      c ≤ p.connect.toNat ∧ a + b + c = 2 ^ 32 - 1 := by
    refine ⟨min (2 ^ 32 - 1) p.replyBudget,
      min (2 ^ 32 - 1 - min (2 ^ 32 - 1) p.replyBudget) p.read.toNat, _,
      min_le_right _ _, min_le_right _ _, ?_, Nat.add_sub_of_le ?_⟩ <;> omega
  unfold replyBudget at ha
  have hreplies : a ≤ p.status.toNat ∧ (a = 0 ∨ p.codes.headD 0 ∈ p.codes) := by
    cases hcodes : p.codes with
    | nil =>
      rw [hcodes] at ha
      simp only [if_true] at ha
      exact ⟨by omega, Or.inl (by omega)⟩
    | cons code rest =>
      rw [hcodes] at ha
      simp only [reduceCtorEq, if_false] at ha
      exact ⟨ha, Or.inr List.mem_cons_self⟩
  exact ⟨attemptsOf (p.codes.headD 0) a b c,
    allows_attemptsOf (by omega) hreplies.1 hreplies.2 hb hc, by simpa using hsum⟩

/-- It comes to a state with as many attempts as the largest word. -/
theorem exists_reaches_of_not_fitsWords (h : ¬ p.FitsWords) :
    ∃ made t, p.Reaches made t ∧ made.length = 2 ^ 32 - 1 := by
  obtain ⟨made, hallows, hlength⟩ := exists_allows_of_not_fitsWords h
  obtain ⟨t, hreaches⟩ := p.exists_reaches_iff.mpr hallows
  exact ⟨made, t, hreaches, hlength⟩

/-- The outcomes of a list, and then always the same one. -/
theorem firstOutcomes_getD (made : List Attempt) (next : Attempt) :
    firstOutcomes (fun i => made.getD i next) made.length = made := by
  refine List.ext_getElem (by simp) fun i hi hi' => ?_
  simp [firstOutcomes, hi']

/-! ## Runs that can break down -/

/-- The attempts that are left, over a script, in a computation that breaks
    down when an attempt cannot be counted: the outcome, if there is one, and
    the number of attempts made. -/
def checkedRun (p : RetryPolicy) (outcomes : Nat → Attempt) (more : Nat) (t : RetryTracker)
    (k : Nat) : Option Attempt × Nat :=
  (p.attempts (OptionT.lift (scripted outcomes)) more t fun _ => failure).run.run k

theorem checkedRun_zero (outcomes : Nat → Attempt) (t : RetryTracker) (k : Nat) :
    p.checkedRun outcomes 0 t k = (some (outcomes k), k + 1) := rfl

/-- One turn of the loop. -/
theorem checkedRun_succ (outcomes : Nat → Attempt) (more : Nat) (t : RetryTracker) (k : Nat) :
    p.checkedRun outcomes (more + 1) t k =
      match p.verdict t (outcomes k) with
      | .final => (some (outcomes k), k + 1)
      | .again t' => p.checkedRun outcomes more t' (k + 1)
      | .overflow => (none, k + 1) := by
  unfold checkedRun
  rw [attempts]
  simp only [OptionT.run_bind, OptionT.run_lift, Option.elimM, StateT.run_bind, run_scripted,
    pure_bind, StateT.run_pure, Option.elim_some]
  cases p.verdict t (outcomes k) <;> rfl

/-- The attempts of a request, over a script, in a computation that breaks
    down when an attempt cannot be counted. -/
def executed (p : RetryPolicy) (outcomes : Nat → Attempt) : Option Attempt × Nat :=
  (p.execute (OptionT.lift (scripted outcomes)) fun _ => failure).run.run 0

/-- The loop makes one more attempt than the total budget at most. -/
theorem Reaches.checkedRun_le {outcomes : Nat → Attempt} {k : Nat} {t : RetryTracker}
    (h : p.Reaches (firstOutcomes outcomes k) t) (more : Nat) :
    (p.checkedRun outcomes more t k).2 ≤ p.total.toNat + 1 := by
  have hle := h.counts.2
  rw [length_firstOutcomes] at hle
  induction more generalizing k t with
  | zero => exact Nat.succ_le_succ hle
  | succ more ih =>
    rw [checkedRun_succ]
    cases hverdict : p.verdict t (outcomes k) with
    | final => exact Nat.succ_le_succ hle
    | overflow => exact Nat.succ_le_succ hle
    | again t' =>
      have hnext : p.Reaches (firstOutcomes outcomes (k + 1)) t' := by
        rw [firstOutcomes_succ]
        exact .again h hverdict
      have hlength := hnext.counts.2
      rw [length_firstOutcomes] at hlength
      exact ih hnext hlength

/-- Under a policy that fits, it does not break down. -/
theorem FitsWords.checkedRun_ne_none (hfits : p.FitsWords) {outcomes : Nat → Attempt} {k : Nat}
    {t : RetryTracker} (h : p.Reaches (firstOutcomes outcomes k) t) (more : Nat) :
    (p.checkedRun outcomes more t k).1 ≠ none := by
  induction more generalizing k t with
  | zero => simp [checkedRun_zero]
  | succ more ih =>
    rw [checkedRun_succ]
    cases hverdict : p.verdict t (outcomes k) with
    | final => simp
    | overflow => exact absurd hverdict (verdict_ne_overflow h.counts.1 (hfits.length_lt h) _)
    | again t' =>
      refine ih ?_
      rw [firstOutcomes_succ]
      exact .again h hverdict

/-- The loop comes to its states. -/
theorem Reaches.executed_eq {outcomes : Nat → Attempt} {k : Nat} {t : RetryTracker}
    (h : p.Reaches (firstOutcomes outcomes k) t) (hk : k ≤ maxRepetitions) :
    p.executed outcomes = p.checkedRun outcomes (maxRepetitions - k) t k := by
  -- the attempts are generalized, since a state is taken apart by its attempts
  induction k generalizing t with
  | zero =>
    generalize hmade : firstOutcomes outcomes 0 = made at h
    cases h with
    | start => rfl
    | again hmade' hverdict => simp [firstOutcomes] at hmade
  | succ k ih =>
    rw [firstOutcomes_succ] at h
    generalize hmade : firstOutcomes outcomes k ++ [outcomes k] = made at h
    cases h with
    | start => simp at hmade
    | @again before t₀ _ outcome hbefore hverdict =>
      obtain ⟨rfl, hlast⟩ := List.append_inj' hmade rfl
      obtain rfl := List.singleton_inj.1 hlast
      have hone : maxRepetitions - k = maxRepetitions - (k + 1) + 1 := by omega
      rw [ih hbefore (by omega), hone, checkedRun_succ, hverdict]

/-- After as many attempts as the largest word, the loop breaks down with one
    more that is counted. -/
theorem Reaches.executed_eq_none {outcomes : Nat → Attempt} {t : RetryTracker}
    (h : p.Reaches (firstOutcomes outcomes (2 ^ 32 - 1)) t)
    (hnext : IsCounted (outcomes (2 ^ 32 - 1))) : p.executed outcomes = (none, 2 ^ 32) := by
  have hsum := h.counts.1.sum_eq
  rw [length_firstOutcomes] at hsum
  have hoverflow : p.verdict t (outcomes (2 ^ 32 - 1)) = .overflow :=
    verdict_eq_overflow_iff.mpr ⟨hnext, by omega⟩
  have hmax : maxRepetitions = 2 ^ 64 := rfl
  have hone : maxRepetitions - (2 ^ 32 - 1) = maxRepetitions - 2 ^ 32 + 1 := by omega
  rw [h.executed_eq (by omega), hone, checkedRun_succ, hoverflow]
  rfl

/-- Under a policy that does not fit, some run breaks down. -/
theorem exists_executed_eq_none_of_not_fitsWords (h : ¬ p.FitsWords) :
    ∃ outcomes, p.executed outcomes = (none, 2 ^ 32) := by
  obtain ⟨made, t, hreaches, hlength⟩ := exists_reaches_of_not_fitsWords h
  -- the script is the attempts that are allowed, and then one more
  have hmade := firstOutcomes_getD made late
  rw [hlength] at hmade
  rw [← hmade] at hreaches
  have hnext : IsCounted (made.getD (2 ^ 32 - 1) late) := by
    rw [List.getD_eq_default _ _ hlength.le]
    exact isCounted_late
  exact ⟨_, hreaches.executed_eq_none hnext⟩

/-! ## The law -/

/-- **The arithmetic of the loop is exact under the policies that fit, and
    under no other.**  Under every policy the counters of every state are the
    counts of the attempts made, and the attempts are one more than the total
    budget at most.  Counting another attempt is exact in every state, and no
    run breaks down, exactly under the policies that fit: under any other,
    which has the largest total budget, a sum overflows in some state. -/
theorem arithmetic_exact_iff (p : RetryPolicy) :
    (∀ made t, p.Reaches made t → t.Counts made) ∧
      (∀ outcomes, (p.executed outcomes).2 ≤ p.total.toNat + 1) ∧
      ((∀ made t, p.Reaches made t → ∀ outcome, IsCounted outcome → t.CountsExactly outcome) ↔
        p.FitsWords) ∧
      ((∀ outcomes, (p.executed outcomes).1 ≠ none) ↔ p.FitsWords) := by
  refine ⟨fun made t h => h.counts.1, fun outcomes => Reaches.start.checkedRun_le maxRepetitions,
    ⟨?_, ?_⟩, ?_, fun hfits outcomes => hfits.checkedRun_ne_none .start maxRepetitions⟩
  · intro hexact
    by_contra hfits
    obtain ⟨made, t, hreaches, hlength⟩ := exists_reaches_of_not_fitsWords hfits
    have hlate := hexact made t hreaches late isCounted_late
    rw [hreaches.countsExactly_iff isCounted_late] at hlate
    omega
  · intro hfits made t hreaches outcome hcounted
    rw [hreaches.countsExactly_iff hcounted]
    exact hfits.length_lt hreaches
  · intro hruns
    by_contra hfits
    obtain ⟨outcomes, hnone⟩ := exists_executed_eq_none_of_not_fitsWords hfits
    refine hruns outcomes ?_
    rw [hnone]

/-! ## The largest budgets -/

/-- As many answers can be late as the budgets take. -/
theorem exists_reaches_late {outcomes : Nat → Attempt} {n : Nat}
    (hlate : ∀ i < n, outcomes i = late) (htotal : n ≤ p.total.toNat) (hread : n ≤ p.read.toNat) :
    ∃ t, p.Reaches (firstOutcomes outcomes n) t := by
  have hmade : firstOutcomes outcomes n = attemptsOf 0 0 n 0 := by
    rw [attemptsOf, List.replicate_zero, List.replicate_zero, List.nil_append, List.append_nil,
      List.eq_replicate_iff]
    refine ⟨length_firstOutcomes outcomes n, ?_⟩
    intro outcome hmem
    obtain ⟨i, hi, rfl⟩ := List.mem_map.1 hmem
    exact hlate i (List.mem_range.1 hi)
  rw [hmade, exists_reaches_iff]
  exact allows_attemptsOf (by omega) (Nat.zero_le _) (Or.inl rfl) hread (Nat.zero_le _)

/-- All budgets as large as can be. -/
def largest : RetryPolicy :=
  { total := 4294967295, status := 4294967295, read := 4294967295, connect := 4294967295 }

/-- Under the largest budgets the loop breaks down when as many answers as
    the largest word did not come in time and then a connection is lost: the
    counters have a sum before, and none after. -/
theorem execute_beyond_largest :
    let outcomes : Nat → Attempt := fun i => if i < 2 ^ 32 - 1 then late else lost
    ¬ (∀ made t, largest.Reaches made t →
        ∀ outcome, IsCounted outcome → t.CountsExactly outcome) ∧
      ∃ t, largest.Reaches (firstOutcomes outcomes (2 ^ 32 - 1)) t ∧
        t.total? = some 4294967295 ∧ (t.counted? lost).bind RetryTracker.total? = none ∧
        largest.executed outcomes = (none, 2 ^ 32) := by
  intro outcomes
  obtain ⟨-, -, hexact, -⟩ := arithmetic_exact_iff largest
  refine ⟨fun h => absurd (hexact.mp h) (by decide), ?_⟩
  have hlate : ∀ i < 2 ^ 32 - 1, outcomes i = late := fun i hi => if_pos hi
  have hlost : outcomes (2 ^ 32 - 1) = lost := rfl
  obtain ⟨t, hreaches⟩ := exists_reaches_late (p := largest) hlate le_rfl le_rfl
  have hsum := hreaches.counts.1.sum_eq
  rw [length_firstOutcomes] at hsum
  refine ⟨t, hreaches, ?_, ?_, hreaches.executed_eq_none (hlost ▸ isCounted_lost)⟩
  · rw [RetryTracker.total?_eq_some_iff, hsum]
    rfl
  · rw [RetryTracker.total?_counted?_eq_none_iff isCounted_lost, hsum]
    decide

end RetryPolicy

/-! ## Policies from the environment -/

theorem Result.exists_of_bind_eq_ok {α β : Type} {x : Result α} {f : α → Result β} {b : β}
    (h : x >>= f = .ok b) : ∃ a, x = .ok a ∧ f a = .ok b := by
  cases x with
  | error e => exact absurd h (by simp [bind, Except.bind])
  | ok a => exact ⟨a, rfl, h⟩

theorem ClientConfig.retry_of_new {baseUrl project : String} {c : ClientConfig}
    (h : ClientConfig.new baseUrl project = .ok c) : c.retry = {} := by
  unfold ClientConfig.new at h
  split at h
  · rw [← Except.ok.inj h]
  · simp at h

/-- A policy that is read from the environment fits, whatever its total
    budget: the other budgets have their defaults, which are small. -/
theorem Environment.fitsWords_of_config {env : Environment} {c : ClientConfig}
    (h : env.config = .ok c) : c.retry.FitsWords := by
  unfold config at h
  cases hproject : env.get? "COGNITE_PROJECT" with
  | none => simp [hproject] at h
  | some project =>
    simp only [hproject] at h
    obtain ⟨base, hbase, h⟩ := Result.exists_of_bind_eq_ok h
    obtain ⟨maxWorkers, -, h⟩ := Result.exists_of_bind_eq_ok h
    obtain ⟨timeout, -, h⟩ := Result.exists_of_bind_eq_ok h
    obtain ⟨retries, -, h⟩ := Result.exists_of_bind_eq_ok h
    obtain ⟨backoff, -, h⟩ := Result.exists_of_bind_eq_ok h
    obtain ⟨-, -, h⟩ := Result.exists_of_bind_eq_ok h
    obtain rfl := Except.ok.inj h
    -- the total budget may be any word, and the others are not read
    refine Or.inr ?_
    simp only [RetryPolicy.separateBudgets, RetryPolicy.replyBudget,
      ClientConfig.retry_of_new hbase]
    decide

end ResourceClient
