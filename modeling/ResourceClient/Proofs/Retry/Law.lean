import Mathlib
import ResourceClient.Retry.Loop

/-! # When the attempts of a request end

    `RetryPolicy.Stops` says of the attempts made so far whether the last of
    them is final.  It counts them by what they ended in and knows neither
    words nor trackers.

    The loop keeps a tracker of three 32-bit counters, whose arithmetic is
    checked.  So a tracker that is there counts exactly, and what one turn of
    the loop does is said in natural numbers (`verdict_eq_again_iff`,
    `verdict_eq_overflow_iff`).  The invariant is that the counters are the
    counts of the attempts made and that they add up to their number
    (`RetryTracker.Counts`): every attempt that is followed by another was
    counted, by one counter.  As the total budget bounds that number, every
    attempt can be counted, and the verdict of the loop is `Stops`
    (`verdict_eq_final_iff`).

    The main statement, `execute_stops_exactly`, follows by induction on the
    attempts that are left: below the largest total budget the loop ends, at
    the first attempt that stops. -/

namespace ResourceClient

/-! ## Kinds of outcomes -/

namespace Attempt

/-- The attempt ended with a reply. -/
def isReply : Attempt → Bool
  | .ok _ => true
  | .error _ => false

/-- The attempt ended without an answer in time. -/
def isTimeout : Attempt → Bool
  | .error e =>
    match e.kind with
    | .readTimeout => true
    | _ => false
  | .ok _ => false

/-- The attempt ended with a lost connection. -/
def isLost : Attempt → Bool
  | .error e =>
    match e.kind with
    | .connection => true
    | _ => false
  | .ok _ => false

/-- The attempt is one that a budget counts. -/
def IsCounted (outcome : Attempt) : Prop := isReply outcome ∨ isTimeout outcome ∨ isLost outcome

/-- What an attempt may end in. -/
inductive Kind : Attempt → Prop where
  | reply (r : Http.Response) : Kind (.ok r)
  | timeout {e : Error} (he : e.kind = .readTimeout) : Kind (.error e)
  | lost {e : Error} (he : e.kind = .connection) : Kind (.error e)
  | other {e : Error} (hread : e.kind ≠ .readTimeout) (hconnect : e.kind ≠ .connection) :
    Kind (.error e)

theorem kind_of (outcome : Attempt) : Kind outcome := by
  cases outcome with
  | ok r => exact .reply r
  | error e =>
    by_cases hread : e.kind = .readTimeout
    · exact .timeout hread
    · by_cases hconnect : e.kind = .connection
      · exact .lost hconnect
      · exact .other hread hconnect

/-- An attempt is of one kind at most. -/
theorem sum_kinds_le_one (outcome : Attempt) :
    (isReply outcome).toNat + (isTimeout outcome).toNat + (isLost outcome).toNat ≤ 1 := by
  cases kind_of outcome with
  | reply r => simp [isReply, isTimeout, isLost]
  | timeout he => simp [isReply, isTimeout, isLost, he]
  | lost he => simp [isReply, isTimeout, isLost, he]
  | other hread hconnect => simp [isReply, isTimeout, isLost]

theorem sum_kinds_eq_one {outcome : Attempt} (h : IsCounted outcome) :
    (isReply outcome).toNat + (isTimeout outcome).toNat + (isLost outcome).toNat = 1 := by
  have hle := sum_kinds_le_one outcome
  rcases h with hreply | htimeout | hlost
  · rw [hreply, Bool.toNat_true] at hle ⊢
    omega
  · rw [htimeout, Bool.toNat_true] at hle ⊢
    omega
  · rw [hlost, Bool.toNat_true] at hle ⊢
    omega

theorem countP_snoc (p : Attempt → Bool) (made : List Attempt) (outcome : Attempt) :
    (made ++ [outcome]).countP p = made.countP p + (p outcome).toNat := by
  rw [List.countP_append, List.countP_singleton]
  cases p outcome <;> rfl

end Attempt

open Attempt

namespace RetryPolicy

/-- Whether the last of the attempts made so far is final: it ended with an
    error other than no answer in time or a lost connection, or with a reply
    whose status does not ask for a repetition, or the attempts are more
    than one of the budgets allows. -/
def Stops (p : RetryPolicy) (made : List Attempt) : Prop :=
  (∃ e, made.getLast? = some (.error e) ∧ e.kind ≠ .readTimeout ∧ e.kind ≠ .connection) ∨
    (∃ r, made.getLast? = some (.ok r) ∧ r.status ∉ p.codes) ∨
    p.total.toNat < made.length ∨
    p.status.toNat < made.countP isReply ∨
    p.read.toNat < made.countP isTimeout ∨
    p.connect.toNat < made.countP isLost

/-- The outcome is one that may be followed by another attempt: the attempt
    is counted, and the status of a reply asks for a repetition. -/
def Repeats (p : RetryPolicy) (outcome : Attempt) : Prop :=
  IsCounted outcome ∧ ∀ r, outcome = .ok r → r.status ∈ p.codes

/-- The states of the loop: the attempts made, none of them final, and the
    tracker after them. -/
inductive Reaches (p : RetryPolicy) : List Attempt → RetryTracker → Prop where
  /-- No attempt was made. -/
  | start : Reaches p [] {}
  /-- Another attempt was made and was not final. -/
  | again {made : List Attempt} {t t' : RetryTracker} {outcome : Attempt}
      (hmade : Reaches p made t) (hverdict : p.verdict t outcome = .again t') :
      Reaches p (made ++ [outcome]) t'

end RetryPolicy

/-! ## The tracker counts the attempts -/

namespace RetryTracker

/-- The counters are the counts of the attempts made, each of which one of
    them counts. -/
structure Counts (t : RetryTracker) (made : List Attempt) : Prop where
  status_eq : t.status.toNat = made.countP isReply
  read_eq : t.read.toNat = made.countP isTimeout
  connect_eq : t.connect.toNat = made.countP isLost
  sum_eq : t.status.toNat + t.read.toNat + t.connect.toNat = made.length

theorem counts_start : Counts {} [] := ⟨rfl, rfl, rfl, rfl⟩

/-- Counting an outcome is adding one to the counter of its kind. -/
theorem counted?_eq_some_iff {t t' : RetryTracker} {outcome : Attempt} :
    t.counted? outcome = some t' ↔
      t'.status.toNat = t.status.toNat + (isReply outcome).toNat ∧
        t'.read.toNat = t.read.toNat + (isTimeout outcome).toNat ∧
        t'.connect.toNat = t.connect.toNat + (isLost outcome).toNat := by
  obtain ⟨status, read, connect⟩ := t'
  obtain ⟨status₀, read₀, connect₀⟩ := t
  cases kind_of outcome with
  | reply r =>
    simp [counted?, isReply, isTimeout, isLost, addWords?_eq_some_iff, UInt32.toNat_inj,
      @eq_comm _ read₀, @eq_comm _ connect₀]
  | timeout he =>
    simp [counted?, isReply, isTimeout, isLost, he, addWords?_eq_some_iff, UInt32.toNat_inj,
      @eq_comm _ status₀, @eq_comm _ connect₀, and_left_comm]
  | lost he =>
    simp [counted?, isReply, isTimeout, isLost, he, addWords?_eq_some_iff, UInt32.toNat_inj,
      @eq_comm _ status₀, @eq_comm _ read₀, and_comm, and_assoc]
  | other hread hconnect =>
    simp [counted?, isReply, isTimeout, isLost, UInt32.toNat_inj, @eq_comm _ status₀,
      @eq_comm _ read₀, @eq_comm _ connect₀]

/-- An outcome that cannot be counted comes after as many attempts as a word
    can count. -/
theorem le_sum_of_counted?_eq_none {t : RetryTracker} {outcome : Attempt}
    (h : t.counted? outcome = none) :
    2 ^ 32 ≤ t.status.toNat + t.read.toNat + t.connect.toNat + 1 := by
  cases kind_of outcome with
  | reply r =>
    have hover : 2 ^ 32 ≤ t.status.toNat + 1 :=
      addWords?_eq_none_iff.mp (Option.map_eq_none_iff.mp h)
    omega
  | timeout he =>
    simp only [counted?, he, Option.map_eq_none_iff, addWords?_eq_none_iff] at h
    rw [UInt32.size, UInt32.toNat_one] at h
    omega
  | lost he =>
    simp only [counted?, he, Option.map_eq_none_iff, addWords?_eq_none_iff] at h
    rw [UInt32.size, UInt32.toNat_one] at h
    omega
  | other hread hconnect => simp [counted?] at h

/-- One more attempt cannot be counted exactly when the counts and one more
    are too many for a word. -/
theorem total?_counted?_eq_none_iff {t : RetryTracker} {outcome : Attempt}
    (h : IsCounted outcome) :
    (t.counted? outcome).bind total? = none ↔
      2 ^ 32 ≤ t.status.toNat + t.read.toNat + t.connect.toNat + 1 := by
  cases hcounted : t.counted? outcome with
  | none => simpa using le_sum_of_counted?_eq_none hcounted
  | some t' =>
    obtain ⟨hstatus, hread, hconnect⟩ := counted?_eq_some_iff.mp hcounted
    have hone := sum_kinds_eq_one h
    rw [Option.bind_some, total?_eq_none_iff, UInt32.size]
    omega

/-- A counted attempt is one more of its kind. -/
theorem Counts.counted {t t' : RetryTracker} {made : List Attempt} {outcome : Attempt}
    (h : t.Counts made) (hcounted : t.counted? outcome = some t') (hkind : IsCounted outcome) :
    t'.Counts (made ++ [outcome]) := by
  obtain ⟨hstatus, hread, hconnect⟩ := counted?_eq_some_iff.mp hcounted
  have hsum := h.sum_eq
  have hone := sum_kinds_eq_one hkind
  constructor
  · rw [hstatus, h.status_eq, countP_snoc]
  · rw [hread, h.read_eq, countP_snoc]
  · rw [hconnect, h.connect_eq, countP_snoc]
  · rw [hstatus, hread, hconnect, List.length_append, List.length_singleton]
    omega

/-- The counters are compared with the budgets as numbers. -/
theorem withinBudgets?_eq_some_true_iff {t : RetryTracker} {p : RetryPolicy} :
    t.withinBudgets? p = some true ↔
      t.status.toNat + t.read.toNat + t.connect.toNat ≤ p.total.toNat ∧
        t.status.toNat ≤ p.status.toNat ∧ t.read.toNat ≤ p.read.toNat ∧
        t.connect.toNat ≤ p.connect.toNat := by
  unfold withinBudgets?
  cases htotal : t.total? with
  | none =>
    -- what no word can hold is more than any budget
    have hover := total?_eq_none_iff.mp htotal
    have hlt := p.total.toNat_lt_size
    simp only [Option.map_none, reduceCtorEq, false_iff]
    omega
  | some total =>
    rw [← total?_eq_some_iff.mp htotal]
    simp only [Option.map_some, Option.some.injEq, Bool.and_eq_true, decide_eq_true_eq,
      UInt32.le_iff_toNat_le, and_assoc]

/-- Counters that count are within the budgets if the attempts are. -/
theorem Counts.withinBudgets?_iff {t : RetryTracker} {made : List Attempt} {p : RetryPolicy}
    (h : t.Counts made) :
    t.withinBudgets? p = some true ↔
      made.length ≤ p.total.toNat ∧ made.countP isReply ≤ p.status.toNat ∧
        made.countP isTimeout ≤ p.read.toNat ∧ made.countP isLost ≤ p.connect.toNat := by
  rw [withinBudgets?_eq_some_true_iff, h.sum_eq, h.status_eq, h.read_eq, h.connect_eq]

end RetryTracker

/-! ## The verdict of the loop -/

namespace RetryPolicy

theorem verdictOn_eq_again_iff {p : RetryPolicy} {counted : Option RetryTracker}
    {code : Option Nat} {t' : RetryTracker} :
    p.verdictOn counted code = .again t' ↔
      counted = some t' ∧ t'.withinBudgets? p = some true ∧ ∀ c, code = some c → c ∈ p.codes := by
  unfold verdictOn
  cases counted with
  | none => simp
  | some t =>
    have hallows : t.allows? p code = some true ↔
        t.withinBudgets? p = some true ∧ ∀ c, code = some c → c ∈ p.codes := by
      unfold RetryTracker.allows?
      cases code <;> simp
    constructor
    · intro h
      cases hgoes : t.allows? p code with
      | none => simp [hgoes] at h
      | some within =>
        cases within with
        | false => simp [hgoes] at h
        | true =>
          simp only [hgoes] at h
          obtain rfl := Verdict.again.inj h
          exact ⟨rfl, hallows.mp hgoes⟩
    · rintro ⟨heq, hgoes⟩
      obtain rfl := Option.some.inj heq
      simp only [hallows.mpr hgoes]

theorem verdictOn_eq_overflow_iff {p : RetryPolicy} {counted : Option RetryTracker}
    {code : Option Nat} :
    p.verdictOn counted code = .overflow ↔ counted.bind RetryTracker.total? = none := by
  unfold verdictOn
  cases counted with
  | none => simp
  | some t =>
    have hallows : t.allows? p code = none ↔ t.total? = none := by
      simp [RetryTracker.allows?, RetryTracker.withinBudgets?]
    rw [Option.bind_some, ← hallows]
    cases hgoes : t.allows? p code with
    | none => simp [hgoes]
    | some within => cases within <;> simp [hgoes]

/-- The verdict on a counted attempt is the one of the budgets and the codes,
    on any other attempt it is final. -/
theorem verdict_cases (p : RetryPolicy) (t : RetryTracker) (outcome : Attempt) :
    (IsCounted outcome ∧ ∃ code, p.verdict t outcome = p.verdictOn (t.counted? outcome) code ∧
        ∀ c, code = some c ↔ ∃ r, outcome = .ok r ∧ r.status = c) ∨
      (∃ e, outcome = .error e ∧ e.kind ≠ .readTimeout ∧ e.kind ≠ .connection) ∧
        p.verdict t outcome = .final := by
  cases kind_of outcome with
  | reply r => exact Or.inl ⟨Or.inl rfl, some r.status, rfl, by simp⟩
  | timeout he =>
    exact Or.inl ⟨Or.inr (Or.inl (by simp [isTimeout, he])), none, by simp [verdict, he], by simp⟩
  | lost he =>
    exact Or.inl ⟨Or.inr (Or.inr (by simp [isLost, he])), none, by simp [verdict, he], by simp⟩
  | other hread hconnect =>
    exact Or.inr ⟨⟨_, rfl, hread, hconnect⟩, by simp [verdict]⟩

/-- An error that is not counted is not one of those that are. -/
theorem not_isCounted {e : Error} (hread : e.kind ≠ .readTimeout)
    (hconnect : e.kind ≠ .connection) : ¬ IsCounted (.error e) := by
  simp [IsCounted, isReply, isTimeout, isLost]

/-- The loop goes on after an attempt that may be repeated, as long as the
    counts with it are within the budgets. -/
theorem verdict_eq_again_iff {p : RetryPolicy} {t t' : RetryTracker} {outcome : Attempt} :
    p.verdict t outcome = .again t' ↔
      p.Repeats outcome ∧ t.counted? outcome = some t' ∧ t'.withinBudgets? p = some true := by
  rcases p.verdict_cases t outcome with
    ⟨hkind, code, hverdict, hcode⟩ | ⟨⟨e, rfl, hread, hconnect⟩, hfinal⟩
  · have hcodes :
        (∀ c, code = some c → c ∈ p.codes) ↔ ∀ r, outcome = .ok r → r.status ∈ p.codes := by
      constructor
      · intro h r hr
        exact h r.status ((hcode r.status).2 ⟨r, hr, rfl⟩)
      · intro h c hc
        obtain ⟨r, hr, rfl⟩ := (hcode c).1 hc
        exact h r hr
    rw [hverdict, verdictOn_eq_again_iff, hcodes, Repeats]
    tauto
  · rw [hfinal]
    simp [Repeats, not_isCounted hread hconnect]

/-- The loop breaks off after a counted attempt for which the counters have
    no room. -/
theorem verdict_eq_overflow_iff {p : RetryPolicy} {t : RetryTracker} {outcome : Attempt} :
    p.verdict t outcome = .overflow ↔
      IsCounted outcome ∧ 2 ^ 32 ≤ t.status.toNat + t.read.toNat + t.connect.toNat + 1 := by
  rcases p.verdict_cases t outcome with
    ⟨hkind, code, hverdict, -⟩ | ⟨⟨e, rfl, hread, hconnect⟩, hfinal⟩
  · rw [hverdict, verdictOn_eq_overflow_iff, RetryTracker.total?_counted?_eq_none_iff hkind]
    exact (and_iff_right hkind).symm
  · rw [hfinal]
    simp [not_isCounted hread hconnect]

/-- The invariant of the loop: the tracker counts the attempts made, and
    they are within the total budget. -/
theorem Reaches.counts {p : RetryPolicy} {made : List Attempt} {t : RetryTracker}
    (h : p.Reaches made t) : t.Counts made ∧ made.length ≤ p.total.toNat := by
  induction h with
  | start => exact ⟨RetryTracker.counts_start, Nat.zero_le _⟩
  | @again made t t' outcome _ hverdict ih =>
    obtain ⟨hrepeats, hcounted, hwithin⟩ := verdict_eq_again_iff.mp hverdict
    have hcounts := ih.1.counted hcounted hrepeats.1
    exact ⟨hcounts, (hcounts.withinBudgets?_iff.mp hwithin).1⟩

/-- After the attempts made, the counters have room for one more. -/
theorem verdict_ne_overflow {p : RetryPolicy} {t : RetryTracker} {made : List Attempt}
    (h : t.Counts made) (hlt : made.length + 1 < 2 ^ 32) (outcome : Attempt) :
    p.verdict t outcome ≠ .overflow := by
  rw [ne_eq, verdict_eq_overflow_iff, h.sum_eq]
  omega

theorem not_repeats_iff {p : RetryPolicy} {outcome : Attempt} :
    ¬ p.Repeats outcome ↔
      (∃ e, outcome = .error e ∧ e.kind ≠ .readTimeout ∧ e.kind ≠ .connection) ∨
        ∃ r, outcome = .ok r ∧ r.status ∉ p.codes := by
  cases kind_of outcome with
  | reply r => simp [Repeats, IsCounted, isReply]
  | timeout he => simp [Repeats, IsCounted, isTimeout, he]
  | lost he => simp [Repeats, IsCounted, isLost, he]
  | other hread hconnect => simp [Repeats, not_isCounted hread hconnect, hread, hconnect]

/-- The attempts made stop with one that is not repeated, or when they are
    too many. -/
theorem stops_snoc_iff {p : RetryPolicy} {made : List Attempt} {outcome : Attempt} :
    p.Stops (made ++ [outcome]) ↔
      ¬ p.Repeats outcome ∨ p.total.toNat < (made ++ [outcome]).length ∨
        p.status.toNat < (made ++ [outcome]).countP isReply ∨
        p.read.toNat < (made ++ [outcome]).countP isTimeout ∨
        p.connect.toNat < (made ++ [outcome]).countP isLost := by
  have hlast : (made ++ [outcome]).getLast? = some outcome := by simp
  rw [not_repeats_iff, or_assoc, Stops, hlast]
  simp only [Option.some.injEq]

/-- The loop goes on after an attempt exactly when the attempts made do not
    stop with it. -/
theorem exists_again_iff (p : RetryPolicy) {t : RetryTracker} {made : List Attempt}
    (h : t.Counts made) (outcome : Attempt) :
    (∃ t', p.verdict t outcome = .again t') ↔ ¬ p.Stops (made ++ [outcome]) := by
  rw [stops_snoc_iff]
  constructor
  · rintro ⟨t', hverdict⟩
    obtain ⟨hrepeats, hcounted, hwithin⟩ := verdict_eq_again_iff.mp hverdict
    rw [(h.counted hcounted hrepeats.1).withinBudgets?_iff] at hwithin
    rw [not_or, not_not]
    exact ⟨hrepeats, by omega⟩
  · intro hgoes
    rw [not_or, not_not] at hgoes
    obtain ⟨hrepeats, hbudgets⟩ := hgoes
    -- the attempt can be counted, since the total budget is a word
    have hroom : (t.counted? outcome).isSome := by
      rw [Option.isSome_iff_ne_none]
      intro hnone
      have hover := RetryTracker.le_sum_of_counted?_eq_none hnone
      have hlt := p.total.toNat_lt
      rw [h.sum_eq] at hover
      rw [List.length_append, List.length_singleton] at hbudgets
      omega
    obtain ⟨t', hcounted⟩ := Option.isSome_iff_exists.mp hroom
    refine ⟨t', verdict_eq_again_iff.mpr ⟨hrepeats, hcounted, ?_⟩⟩
    rw [(h.counted hcounted hrepeats.1).withinBudgets?_iff]
    omega

/-- The verdict after an attempt is final exactly when the attempts made
    stop with it. -/
theorem verdict_eq_final_iff (p : RetryPolicy) {t : RetryTracker} {made : List Attempt}
    (h : t.Counts made) (hlt : made.length + 1 < 2 ^ 32) (outcome : Attempt) :
    p.verdict t outcome = .final ↔ p.Stops (made ++ [outcome]) := by
  have hagain := p.exists_again_iff h outcome
  cases hverdict : p.verdict t outcome with
  | final => simpa [hverdict] using hagain
  | again t' => simpa [hverdict] using hagain
  | overflow => exact absurd hverdict (verdict_ne_overflow h hlt outcome)

/-! ## The loop -/

/-- Attempts that end as a sequence says.  The state is the number of
    attempts made. -/
def scripted (outcomes : Nat → Attempt) : StateM Nat Attempt :=
  fun made => (outcomes made, made + 1)

theorem run_scripted (outcomes : Nat → Attempt) (k : Nat) :
    (scripted outcomes).run k = (pure (outcomes k, k + 1) : Id (Attempt × Nat)) := rfl

/-- The outcomes of the first `n` attempts. -/
def firstOutcomes (outcomes : Nat → Attempt) (n : Nat) : List Attempt :=
  (List.range n).map outcomes

theorem firstOutcomes_succ (outcomes : Nat → Attempt) (n : Nat) :
    firstOutcomes outcomes (n + 1) = firstOutcomes outcomes n ++ [outcomes n] := by
  simp [firstOutcomes, List.range_succ]

@[simp] theorem length_firstOutcomes (outcomes : Nat → Attempt) (n : Nat) :
    (firstOutcomes outcomes n).length = n := by
  simp [firstOutcomes]

/-- The loop ends with an attempt after which it does not go on. -/
theorem run_attempts_of_ends {p : RetryPolicy} {t : RetryTracker} (outcomes : Nat → Attempt)
    {k : Nat} (h : ∀ t', p.verdict t (outcomes k) ≠ .again t') (more : Nat) :
    (p.attempts (scripted outcomes) (more + 1) t).run k = (outcomes k, k + 1) := by
  rw [attempts]
  simp only [StateT.run_bind, run_scripted, pure_bind]
  cases hverdict : p.verdict t (outcomes k) with
  | final => rfl
  | again t' => exact absurd hverdict (h t')
  | overflow => rfl

theorem run_attempts_of_final {p : RetryPolicy} {t : RetryTracker} (outcomes : Nat → Attempt)
    {k : Nat} (h : p.verdict t (outcomes k) = .final) (more : Nat) :
    (p.attempts (scripted outcomes) (more + 1) t).run k = (outcomes k, k + 1) :=
  run_attempts_of_ends outcomes (by simp [h]) more

theorem run_attempts_of_again {p : RetryPolicy} {t t' : RetryTracker} (outcomes : Nat → Attempt)
    {k : Nat} (h : p.verdict t (outcomes k) = .again t') (more : Nat) :
    (p.attempts (scripted outcomes) (more + 1) t).run k =
      (p.attempts (scripted outcomes) more t').run (k + 1) := by
  rw [attempts]
  simp only [StateT.run_bind, run_scripted, pure_bind, h]

/-- Another repetition is left as long as the attempts made are within the
    total budget. -/
theorem maxRepetitions_sub {p : RetryPolicy} {k : Nat} (hle : k ≤ p.total.toNat) :
    maxRepetitions - k = maxRepetitions - (k + 1) + 1 := by
  have hmax : maxRepetitions = 2 ^ 64 := rfl
  have htotal := p.total.toNat_lt
  omega

/-- One turn of the loop: it ends with this attempt if the attempts made
    stop with it, and goes on with the attempt counted otherwise. -/
theorem attempts_turn {p : RetryPolicy} (hbudget : p.total.toNat < 2 ^ 32 - 1)
    (outcomes : Nat → Attempt) {k : Nat} {t : RetryTracker}
    (h : p.Reaches (firstOutcomes outcomes k) t) :
    (p.Stops (firstOutcomes outcomes (k + 1)) ∧
        (p.attempts (scripted outcomes) (maxRepetitions - k) t).run k = (outcomes k, k + 1)) ∨
      (¬ p.Stops (firstOutcomes outcomes (k + 1)) ∧
        ∃ t', p.Reaches (firstOutcomes outcomes (k + 1)) t' ∧
          (p.attempts (scripted outcomes) (maxRepetitions - k) t).run k =
            (p.attempts (scripted outcomes) (maxRepetitions - (k + 1)) t').run (k + 1)) := by
  obtain ⟨hcounts, hle⟩ := h.counts
  rw [length_firstOutcomes] at hle
  have hlt : (firstOutcomes outcomes k).length + 1 < 2 ^ 32 := by
    rw [length_firstOutcomes]
    omega
  have hfinal := verdict_eq_final_iff p hcounts hlt (outcomes k)
  rw [← firstOutcomes_succ] at hfinal
  rw [maxRepetitions_sub hle]
  cases hverdict : p.verdict t (outcomes k) with
  | final =>
    left
    exact ⟨hfinal.mp hverdict, run_attempts_of_final outcomes hverdict _⟩
  | again t' =>
    right
    refine ⟨?_, t', ?_, run_attempts_of_again outcomes hverdict _⟩
    · intro hstops
      rw [hfinal.mpr hstops] at hverdict
      exact Verdict.noConfusion hverdict
    · rw [firstOutcomes_succ]
      exact .again h hverdict
  | overflow => exact absurd hverdict (verdict_ne_overflow hcounts hlt _)

/-- As long as the attempts made do not stop, the loop goes on. -/
theorem execute_reaches {p : RetryPolicy} (hbudget : p.total.toNat < 2 ^ 32 - 1)
    (outcomes : Nat → Attempt) {k : Nat}
    (h : ∀ m, 1 ≤ m → m ≤ k → ¬ p.Stops (firstOutcomes outcomes m)) :
    ∃ t, p.Reaches (firstOutcomes outcomes k) t ∧
      (p.execute (scripted outcomes)).run 0 =
        (p.attempts (scripted outcomes) (maxRepetitions - k) t).run k := by
  induction k with
  | zero => exact ⟨{}, .start, rfl⟩
  | succ k ih =>
    have hbefore : ∀ m, 1 ≤ m → m ≤ k → ¬ p.Stops (firstOutcomes outcomes m) := by
      intro m hpos hm
      exact h m hpos (by omega)
    obtain ⟨t, hreaches, hrun⟩ := ih hbefore
    rcases attempts_turn hbudget outcomes hreaches with ⟨hstops, -⟩ | ⟨-, t', hnext, hturn⟩
    · exact absurd hstops (h (k + 1) (by omega) le_rfl)
    · exact ⟨t', hnext, hrun.trans hturn⟩

/-! ## No counter overflows -/

/-- No addition overflows that the loop makes to count an outcome: a counter
    is incremented, and the counters are added up. -/
def HasRoomFor (t : RetryTracker) (outcome : Attempt) : Prop :=
  t.status.toNat + 1 < 2 ^ 32 ∧ t.read.toNat + 1 < 2 ^ 32 ∧ t.connect.toNat + 1 < 2 ^ 32 ∧
    ∃ counted, t.counted? outcome = some counted ∧
      counted.status.toNat + counted.read.toNat + counted.connect.toNat < 2 ^ 32

theorem hasRoomFor_of_counts {t : RetryTracker} {made : List Attempt} (h : t.Counts made)
    (hlt : made.length + 1 < 2 ^ 32) (outcome : Attempt) : HasRoomFor t outcome := by
  have hsum := h.sum_eq
  refine ⟨by omega, by omega, by omega, ?_⟩
  cases hcounted : t.counted? outcome with
  | none =>
    have hover := RetryTracker.le_sum_of_counted?_eq_none hcounted
    omega
  | some counted =>
    obtain ⟨hstatus, hread, hconnect⟩ := RetryTracker.counted?_eq_some_iff.mp hcounted
    have hone := sum_kinds_le_one outcome
    exact ⟨counted, rfl, by omega⟩

/-! ## The retry law -/

theorem stops_of_total_lt {p : RetryPolicy} {made : List Attempt}
    (h : p.total.toNat < made.length) : p.Stops made :=
  Or.inr (Or.inr (Or.inl h))

/-- Below the largest total budget the loop ends, whatever the attempts end
    in: at the first attempt with which the attempts made stop, whose
    outcome it returns.  Until then its tracker counts the attempts, and no
    counter overflows. -/
theorem execute_stops_exactly (p : RetryPolicy) (hbudget : p.total.toNat < 2 ^ 32 - 1)
    (outcomes : Nat → Attempt) :
    ∃ n, 1 ≤ n ∧ n ≤ p.total.toNat + 1 ∧ p.Stops (firstOutcomes outcomes n) ∧
      (∀ m, 1 ≤ m → m < n → ¬ p.Stops (firstOutcomes outcomes m)) ∧
      (p.execute (scripted outcomes)).run 0 = (outcomes (n - 1), n) ∧
      ∀ k < n, ∃ t, p.Reaches (firstOutcomes outcomes k) t ∧
        (p.execute (scripted outcomes)).run 0 =
          (p.attempts (scripted outcomes) (maxRepetitions - k) t).run k ∧
        t.Counts (firstOutcomes outcomes k) ∧ HasRoomFor t (outcomes k) := by
  classical
  -- the attempt after the total budget stops, if none before does
  have hexists : ∃ k, p.Stops (firstOutcomes outcomes (k + 1)) :=
    ⟨p.total.toNat, stops_of_total_lt (by simp)⟩
  -- the attempt `last + 1` is the first to stop
  obtain ⟨last, hstops, hleast⟩ :
      ∃ last, p.Stops (firstOutcomes outcomes (last + 1)) ∧
        ∀ k < last, ¬ p.Stops (firstOutcomes outcomes (k + 1)) :=
    ⟨Nat.find hexists, Nat.find_spec hexists, fun k hk => Nat.find_min hexists hk⟩
  have hbefore : ∀ m, 1 ≤ m → m < last + 1 → ¬ p.Stops (firstOutcomes outcomes m) := by
    intro m hpos hm
    obtain ⟨k, rfl⟩ := Nat.exists_eq_add_of_le' hpos
    exact hleast k (by omega)
  -- so the loop reaches every state before that attempt, and ends with it
  have hreach : ∀ k < last + 1, ∃ t, p.Reaches (firstOutcomes outcomes k) t ∧
      (p.execute (scripted outcomes)).run 0 =
        (p.attempts (scripted outcomes) (maxRepetitions - k) t).run k :=
    fun k hk => execute_reaches hbudget outcomes fun m hpos hm => hbefore m hpos (by omega)
  obtain ⟨t, hreaches, hrun⟩ := hreach last (Nat.lt_succ_self last)
  obtain ⟨-, hle⟩ := hreaches.counts
  rw [length_firstOutcomes] at hle
  refine ⟨last + 1, by omega, by omega, hstops, hbefore, ?_, ?_⟩
  · rcases attempts_turn hbudget outcomes hreaches with ⟨-, hturn⟩ | ⟨hgoes, -⟩
    · exact hrun.trans hturn
    · exact absurd hstops hgoes
  · intro k hk
    obtain ⟨t, hreaches, hrun⟩ := hreach k hk
    obtain ⟨hcounts, hle⟩ := hreaches.counts
    exact ⟨t, hreaches, hrun, hcounts, hasRoomFor_of_counts hcounts (by omega) _⟩

/-- One 503 among losses of the answer, with a budget of one reply: the
    second 503 ends the loop and is returned. -/
theorem execute_with_one_reply_allowed :
    let p : RetryPolicy := { status := 1 }
    let reply : Attempt := .ok { status := 503, headers := .empty, body := .empty }
    let late : Attempt := .error { kind := .readTimeout }
    let outcomes : Nat → Attempt := fun i => if i = 1 then late else reply
    (p.execute (scripted outcomes)).run 0 = (reply, 3) := by
  intro p reply late outcomes
  obtain ⟨n, hpos, -, hstops, hbefore, hrun, -⟩ :=
    execute_stops_exactly p (by decide) outcomes
  have hthree : p.Stops (firstOutcomes outcomes 3) := by
    simp [Stops, firstOutcomes, List.range_succ, List.countP_cons, outcomes, reply, late, p,
      isReply]
  have hn : n = 3 := by
    by_contra hne
    have hle : n ≤ 3 := not_lt.mp fun hlt => hbefore 3 (by decide) hlt hthree
    have hcases : n = 1 ∨ n = 2 := by omega
    rcases hcases with rfl | rfl <;>
      simp [Stops, firstOutcomes, List.range_succ, List.countP_cons, outcomes, reply, late, p,
        isReply, isTimeout, isLost] at hstops
  subst hn
  exact hrun

end RetryPolicy

end ResourceClient
