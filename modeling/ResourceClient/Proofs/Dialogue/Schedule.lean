import Mathlib
import ResourceClient.Dialogue.Pool

/-! # Schedules of a pool

    A schedule is a list of events, each with the number of its task.  A
    step starts the first waiting task, which needs a free worker, or lets
    any task in flight move: it has the answer to its question, or it is at
    its end.  `Pool.Path` follows a schedule from a pool to a pool.

    Three invariants carry everything that is said of paths:

    * no more tasks are in flight than there are workers (`inFlight_le`);
    * the waiting tasks are those from some number on, so that tasks are
      started one after the other and each once (`starts_eq_range`);
    * the events of one task are a path of its slot (`Path.slot`), so that
      its history is a start, a run of the task, and a finish.

    Together they say what is left of a complete path when the schedule is
    forgotten: every task ran once, and the log of completions is a
    permutation of the values in task order (`Path.complete`). -/

namespace ResourceClient

/-! ## Paths of one slot -/

namespace Slot

variable {α : Type}

/-- The events that lead from a slot to a slot. -/
inductive Path : Slot α → List (Event α) → Slot α → Prop where
  /-- Nothing happened. -/
  | nil (s : Slot α) : Path s [] s
  /-- One event, and then others. -/
  | cons {s s' s'' : Slot α} {e : Event α} {es : List (Event α)}
      (hstep : Step s e s') (hrest : Path s' es s'') : Path s (e :: es) s''

/-- Turns that lead from a dialogue to what is left of it. -/
inductive Leads : Dialogue α → List Dialogue.Turn → Dialogue α → Prop where
  /-- No question was answered. -/
  | nil (d : Dialogue α) : Leads d [] d
  /-- A question was answered, and then others. -/
  | cons {q : Question} {next : q.Answer → Dialogue α} (a : q.Answer)
      {turns : List Dialogue.Turn} {d : Dialogue α} (hrest : Leads (next a) turns d) :
      Leads (.ask q next) (⟨q, a⟩ :: turns) d

/-- What the events of a task say when it was waiting at first. -/
inductive History (d : Dialogue α) : List (Event α) → Slot α → Prop where
  /-- It was not started. -/
  | waiting : History d [] (.waiting d)
  /-- It was started, and some of its questions were answered. -/
  | running {turns : List Dialogue.Turn} {rest : Dialogue α} (hleads : Leads d turns rest) :
      History d (.start :: turns.map .answer) (.running rest)
  /-- It was started and run to its end. -/
  | finished {turns : List Dialogue.Turn} {a : α} (hruns : Dialogue.Runs d turns a) :
      History d (.start :: turns.map .answer ++ [.finish a]) .finished

theorem eq_nil_of_path_finished {es : List (Event α)} {s : Slot α}
    (h : Path finished es s) : es = [] ∧ s = finished := by
  cases h with
  | nil => exact ⟨rfl, rfl⟩
  | cons hstep _ => cases hstep

/-- A task in flight goes on through its dialogue, and at the end of that
    it finishes. -/
theorem path_running {d : Dialogue α} {es : List (Event α)} {s : Slot α}
    (h : Path (running d) es s) :
    (∃ turns rest, es = turns.map .answer ∧ s = running rest ∧ Leads d turns rest) ∨
      ∃ turns a, es = turns.map .answer ++ [.finish a] ∧ s = finished ∧
        Dialogue.Runs d turns a := by
  induction d generalizing es with
  | done a =>
    cases h with
    | nil => exact Or.inl ⟨[], .done a, rfl, rfl, .nil _⟩
    | cons hstep hrest =>
      cases hstep
      obtain ⟨rfl, rfl⟩ := eq_nil_of_path_finished hrest
      exact Or.inr ⟨[], a, rfl, rfl, .done a⟩
  | ask q next ih =>
    cases h with
    | nil => exact Or.inl ⟨[], .ask q next, rfl, rfl, .nil _⟩
    | cons hstep hrest =>
      cases hstep with
      | answer _ a =>
        rcases ih a hrest with ⟨turns, rest, rfl, rfl, hleads⟩ | ⟨turns, b, rfl, rfl, hruns⟩
        · exact Or.inl ⟨⟨q, a⟩ :: turns, rest, rfl, rfl, .cons a hleads⟩
        · exact Or.inr ⟨⟨q, a⟩ :: turns, b, rfl, rfl, .ask a hruns⟩

theorem history_of_path {d : Dialogue α} {es : List (Event α)} {s : Slot α}
    (h : Path (waiting d) es s) : History d es s := by
  cases h with
  | nil => exact .waiting
  | cons hstep hrest =>
    cases hstep
    rcases path_running hrest with ⟨turns, rest, rfl, rfl, hleads⟩ | ⟨turns, a, rfl, rfl, hruns⟩
    · exact .running hleads
    · exact .finished hruns

end Slot

namespace Pool

variable {α : Type}

/-! ## Steps and paths of a pool -/

/-- One event of a pool, with the number of its task. -/
inductive Step (workers : Nat) (pool : Pool α) : Nat × Slot.Event α → Pool α → Prop where
  /-- The first waiting task is started while a worker is free. -/
  | start {i : Nat} {task : Dialogue α} (hwaiting : pool.slots[i]? = some (.waiting task))
      (hfirst : ∀ j < i, ∀ t, pool.slots[j]? ≠ some (.waiting t))
      (hfree : pool.inFlight < workers) :
      Step workers pool (i, .start) (pool.movedTo i task)
  /-- A task in flight has the answer to its question. -/
  | answer {i : Nat} {q : Question} {next : q.Answer → Dialogue α}
      (hrunning : pool.slots[i]? = some (.running (.ask q next))) (a : q.Answer) :
      Step workers pool (i, .answer ⟨q, a⟩) (pool.movedTo i (next a))
  /-- A task in flight is at its end. -/
  | finish {i : Nat} {a : α} (hrunning : pool.slots[i]? = some (.running (.done a))) :
      Step workers pool (i, .finish a) (pool.finished i a)

/-- A schedule that leads from a pool to a pool. -/
inductive Path (workers : Nat) : Pool α → List (Nat × Slot.Event α) → Pool α → Prop where
  /-- Nothing happened. -/
  | nil (pool : Pool α) : Path workers pool [] pool
  /-- One event, and then others. -/
  | cons {pool mid pool' : Pool α} {e : Nat × Slot.Event α} {es : List (Nat × Slot.Event α)}
      (hstep : Step workers pool e mid) (hrest : Path workers mid es pool') :
      Path workers pool (e :: es) pool'

/-- Whether every task is at its end. -/
def IsComplete (pool : Pool α) : Prop := ∀ s ∈ pool.slots, s = .finished

/-- The numbers of the tasks that a schedule starts, in order. -/
def starts (events : List (Nat × Slot.Event α)) : List Nat :=
  events.filterMap fun e =>
    match e.2 with
    | .start => some e.1
    | _ => none

/-- The values of the tasks that a schedule finishes, with their numbers. -/
def finishes (events : List (Nat × Slot.Event α)) : List (Nat × α) :=
  events.filterMap fun e =>
    match e.2 with
    | .finish a => some (e.1, a)
    | _ => none

/-- The events of one task. -/
def historyOf (i : Nat) (events : List (Nat × Slot.Event α)) : List (Slot.Event α) :=
  (events.filter (·.1 = i)).map (·.2)

@[simp] theorem historyOf_nil (i : Nat) : historyOf i ([] : List (Nat × Slot.Event α)) = [] := rfl

@[simp] theorem historyOf_cons_self (i : Nat) (e : Slot.Event α)
    (es : List (Nat × Slot.Event α)) : historyOf i ((i, e) :: es) = e :: historyOf i es := by
  simp [historyOf]

theorem historyOf_cons_ne {i j : Nat} (hne : j ≠ i) (e : Slot.Event α)
    (es : List (Nat × Slot.Event α)) : historyOf i ((j, e) :: es) = historyOf i es := by
  simp [historyOf, hne]

theorem mem_historyOf {i : Nat} {e : Slot.Event α} {es : List (Nat × Slot.Event α)} :
    e ∈ historyOf i es ↔ (i, e) ∈ es := by
  simp [historyOf]

theorem mem_finishes {i : Nat} {a : α} {es : List (Nat × Slot.Event α)} :
    (i, a) ∈ finishes es ↔ (i, .finish a) ∈ es := by
  unfold finishes
  rw [List.mem_filterMap]
  constructor
  · rintro ⟨⟨j, e⟩, hmem, heq⟩
    cases e with
    | finish b =>
      simp only [Option.some.injEq, Prod.mk.injEq] at heq
      obtain ⟨rfl, rfl⟩ := heq
      exact hmem
    | start => simp at heq
    | answer turn => simp at heq
  · intro hmem
    exact ⟨(i, .finish a), hmem, rfl⟩

/-- What a step does to the slots: one of them moves, the others stay. -/
theorem Step.slot {workers : Nat} {pool pool' : Pool α} {i : Nat} {e : Slot.Event α}
    (h : Step workers pool (i, e) pool') :
    ∃ s s', pool.slots[i]? = some s ∧ Slot.Step s e s' ∧
      pool'.slots = pool.slots.set i s' := by
  cases h with
  | start hwaiting _ _ => exact ⟨_, _, hwaiting, .start _, rfl⟩
  | answer hrunning a => exact ⟨_, _, hrunning, .answer _ a, rfl⟩
  | finish hrunning => exact ⟨_, _, hrunning, .finish _, rfl⟩

/-! ## The bound on the tasks in flight -/

theorem inFlight_set {pool : Pool α} {i : Nat} {s : Slot α}
    (hs : pool.slots[i]? = some s) (s' : Slot α) :
    (pool.slots.set i s').countP Slot.isRunning + (if s.isRunning then 1 else 0) =
      pool.inFlight + (if s'.isRunning then 1 else 0) := by
  obtain ⟨hi, hget⟩ := List.getElem?_eq_some_iff.1 hs
  unfold inFlight
  rw [List.countP_set hi, hget]
  by_cases hrun : s.isRunning = true
  · -- the slot itself is one of those in flight
    have hpos : 0 < pool.slots.countP Slot.isRunning :=
      List.countP_pos_iff.2 ⟨s, hget ▸ List.getElem_mem hi, hrun⟩
    simp only [hrun, if_true]
    omega
  · simp only [hrun]
    simp

/-- A step leaves no more tasks in flight than there are workers. -/
theorem Step.inFlight_le {workers : Nat} {pool pool' : Pool α} {e : Nat × Slot.Event α}
    (h : Step workers pool e pool') (hle : pool.inFlight ≤ workers) :
    pool'.inFlight ≤ workers := by
  cases h with
  | @start i task hwaiting _ hfree =>
    -- one more is in flight, but a worker was free
    have hcount := inFlight_set hwaiting (.running task)
    simp only [Slot.isRunning, Bool.false_eq_true, if_false, if_true] at hcount
    simp only [Pool.movedTo, inFlight] at hcount ⊢ hfree
    omega
  | @answer i q next hrunning a =>
    -- the task stays in flight
    have hcount := inFlight_set hrunning (.running (next a))
    simp only [Slot.isRunning, if_true] at hcount
    simp only [Pool.movedTo, inFlight] at hcount ⊢ hle
    omega
  | finish hrunning =>
    -- one less is in flight
    have hcount := inFlight_set hrunning .finished
    simp only [Slot.isRunning, Bool.false_eq_true, if_false, if_true] at hcount
    simp only [Pool.finished, inFlight] at hcount ⊢ hle
    omega

theorem Path.inFlight_le {workers : Nat} {pool pool' : Pool α}
    {es : List (Nat × Slot.Event α)} (h : Path workers pool es pool')
    (hle : pool.inFlight ≤ workers) : pool'.inFlight ≤ workers := by
  induction h with
  | nil pool => exact hle
  | cons hstep _ ih => exact ih (hstep.inFlight_le hle)

@[simp] theorem inFlight_ofTasks (tasks : List (Dialogue α)) : (ofTasks tasks).inFlight = 0 := by
  simp [inFlight, ofTasks, List.countP_map, Function.comp_def, Slot.isRunning]

/-! ## The order in which tasks are started -/

/-- The waiting tasks are those with the numbers from `k` on. -/
def WaitingFrom (k : Nat) (pool : Pool α) : Prop :=
  ∀ i, (∃ t, pool.slots[i]? = some (.waiting t)) ↔ k ≤ i ∧ i < pool.slots.length

theorem waitingFrom_ofTasks (tasks : List (Dialogue α)) : WaitingFrom 0 (ofTasks tasks) := by
  intro i
  unfold ofTasks
  rw [List.length_map]
  constructor
  · rintro ⟨t, ht⟩
    have hi := (List.getElem?_eq_some_iff.1 ht).1
    rw [List.length_map] at hi
    exact ⟨Nat.zero_le i, hi⟩
  · rintro ⟨-, hi⟩
    exact ⟨tasks[i], by simp [hi]⟩

/-- Moving a slot that does not wait to another one keeps the waiting tasks. -/
theorem WaitingFrom.set {k i : Nat} {pool pool' : Pool α} {s s' : Slot α}
    (h : WaitingFrom k pool) (hs : pool.slots[i]? = some s) (hnot : ∀ t, s ≠ .waiting t)
    (hnot' : ∀ t, s' ≠ .waiting t) (hslots : pool'.slots = pool.slots.set i s') :
    WaitingFrom k pool' := by
  intro j
  have hi := (List.getElem?_eq_some_iff.1 hs).1
  rw [hslots, List.length_set, ← h j, List.getElem?_set]
  by_cases hij : i = j
  · subst hij
    simp only [if_true, hi, Option.some.injEq]
    constructor
    · rintro ⟨t, ht⟩
      exact absurd ht (hnot' t)
    · rintro ⟨t, ht⟩
      rw [hs] at ht
      exact absurd (Option.some.inj ht) (hnot t)
  · simp only [hij, if_false]

/-- A step that starts a task starts the one with the number `k`, and the
    others wait from the next number on. -/
theorem WaitingFrom.start {workers k i : Nat} {pool pool' : Pool α}
    (h : WaitingFrom k pool) (hstep : Step workers pool (i, .start) pool') :
    i = k ∧ WaitingFrom (k + 1) pool' := by
  cases hstep with
  | @start _ task hwaiting hfirst _ =>
    obtain ⟨hki, hi⟩ := (h i).1 ⟨task, hwaiting⟩
    have hik : i = k := by
      -- otherwise the task with the number `k` waits before the first one
      by_contra hne
      obtain ⟨t, ht⟩ := (h k).2 ⟨Nat.le_refl k, by omega⟩
      exact hfirst k (by omega) t ht
    subst hik
    refine ⟨rfl, ?_⟩
    intro j
    simp only [movedTo, List.length_set, List.getElem?_set]
    by_cases hij : i = j
    · subst hij
      simp [hi]
    · simp only [hij, if_false]
      rw [h j]
      omega

/-- Any other step keeps the waiting tasks: neither the slot that moves nor
    what it becomes waits. -/
theorem WaitingFrom.move {workers k i : Nat} {pool pool' : Pool α} {e : Slot.Event α}
    (h : WaitingFrom k pool) (hstep : Step workers pool (i, e) pool') (he : e ≠ .start) :
    WaitingFrom k pool' := by
  obtain ⟨s, s', hs, hmove, hslots⟩ := hstep.slot
  have hnot : ∀ t, s ≠ .waiting t := by
    intro t ht
    subst ht
    cases hmove
    exact he rfl
  have hnot' : ∀ t, s' ≠ .waiting t := by
    intro t ht
    subst ht
    cases hmove
  exact h.set hs hnot hnot' hslots

theorem starts_cons_start (i : Nat) (es : List (Nat × Slot.Event α)) :
    starts ((i, .start) :: es) = i :: starts es := rfl

/-- Tasks are started in order and without gaps. -/
theorem Path.starts_eq_range' {workers k : Nat} {pool pool' : Pool α}
    {es : List (Nat × Slot.Event α)} (h : Path workers pool es pool')
    (hfrom : WaitingFrom k pool) :
    starts es = List.range' k (starts es).length := by
  induction h generalizing k with
  | nil pool => rfl
  | @cons pool mid pool' e es hstep _ ih =>
    obtain ⟨i, e⟩ := e
    cases e with
    | start =>
      obtain ⟨rfl, hnext⟩ := hfrom.start hstep
      have htail := ih hnext
      rw [starts_cons_start, List.length_cons, List.range'_succ, ← htail]
    | answer turn => exact ih (hfrom.move hstep (by simp))
    | finish a => exact ih (hfrom.move hstep (by simp))

theorem Path.starts_eq_range {workers : Nat} {tasks : List (Dialogue α)} {pool : Pool α}
    {es : List (Nat × Slot.Event α)} (h : Path workers (ofTasks tasks) es pool) :
    starts es = List.range (starts es).length := by
  have hrange := h.starts_eq_range' (waitingFrom_ofTasks tasks)
  rwa [← List.range_eq_range'] at hrange

/-! ## The history of one task -/

/-- The events of one task are a path of its slot. -/
theorem Path.slot {workers : Nat} {pool pool' : Pool α} {es : List (Nat × Slot.Event α)}
    (h : Path workers pool es pool') {i : Nat} {s : Slot α} (hs : pool.slots[i]? = some s) :
    ∃ s', pool'.slots[i]? = some s' ∧ Slot.Path s (historyOf i es) s' := by
  induction h generalizing s with
  | nil pool => exact ⟨s, hs, .nil s⟩
  | @cons pool mid pool' e es hstep _ ih =>
    obtain ⟨j, e⟩ := e
    obtain ⟨t, t', ht, hmove, hslots⟩ := hstep.slot
    by_cases hij : j = i
    · -- the event is one of the task
      subst hij
      obtain rfl : t = s := Option.some.inj (ht.symm.trans hs)
      have hmid : mid.slots[j]? = some t' := by
        rw [hslots, List.getElem?_set_self (List.getElem?_eq_some_iff.1 hs).1]
      obtain ⟨s', hs', hpath⟩ := ih hmid
      exact ⟨s', hs', by rw [historyOf_cons_self]; exact .cons hmove hpath⟩
    · -- the event is one of another task, and leaves the slot alone
      have hmid : mid.slots[i]? = some s := by
        rw [hslots, List.getElem?_set_ne hij, hs]
      obtain ⟨s', hs', hpath⟩ := ih hmid
      exact ⟨s', hs', by rw [historyOf_cons_ne hij]; exact hpath⟩

/-- Only tasks of the pool have events. -/
theorem Path.lt_length {workers : Nat} {pool pool' : Pool α} {es : List (Nat × Slot.Event α)}
    (h : Path workers pool es pool') {e : Nat × Slot.Event α} (hmem : e ∈ es) :
    e.1 < pool.slots.length := by
  induction h with
  | nil pool => cases hmem
  | @cons pool mid pool' e' es hstep hrest ih =>
    obtain ⟨s, s', hs, _, hslots⟩ := hstep.slot
    rcases List.mem_cons.1 hmem with rfl | hmem
    · exact (List.getElem?_eq_some_iff.1 hs).1
    · have hlt := ih hmem
      rwa [hslots, List.length_set] at hlt

/-- The log of completions grows by what the schedule finishes. -/
theorem Path.completed {workers : Nat} {pool pool' : Pool α} {es : List (Nat × Slot.Event α)}
    (h : Path workers pool es pool') : pool'.completed = pool.completed ++ finishes es := by
  induction h with
  | nil pool => simp [finishes]
  | @cons pool mid pool' e es hstep _ ih =>
    rw [ih]
    cases hstep with
    | start _ _ _ => rfl
    | answer _ _ => rfl
    | @finish i a _ =>
      show (pool.completed ++ [(i, a)]) ++ finishes es = pool.completed ++ ((i, a) :: finishes es)
      simp

/-! ## Complete paths -/

/-- Values with their numbers, in order. -/
def numbered (values : List α) : List (Nat × α) := values.zipIdx.map Prod.swap

theorem mem_numbered {values : List α} {i : Nat} {a : α} :
    (i, a) ∈ numbered values ↔ values[i]? = some a := by
  unfold numbered
  rw [List.mem_map]
  constructor
  · rintro ⟨⟨b, j⟩, hmem, heq⟩
    obtain ⟨rfl, rfl⟩ := Prod.mk.inj heq
    exact List.mem_zipIdx_iff_getElem?.1 hmem
  · intro hget
    exact ⟨(a, i), List.mem_zipIdx_iff_getElem?.2 hget, rfl⟩

theorem map_fst_numbered (values : List α) :
    (numbered values).map (·.1) = List.range values.length := by
  unfold numbered
  rw [List.map_map, List.range_eq_range', ← List.zipIdx_map_snd 0 values]
  rfl

theorem map_snd_numbered (values : List α) : (numbered values).map (·.2) = values := by
  unfold numbered
  rw [List.map_map]
  exact List.zipIdx_map_fst 0 values

/-- The history of a task in a path from the start. -/
theorem Path.history {workers : Nat} {tasks : List (Dialogue α)} {pool : Pool α}
    {es : List (Nat × Slot.Event α)} (h : Path workers (ofTasks tasks) es pool)
    {i : Nat} {d : Dialogue α} (hd : tasks[i]? = some d) :
    ∃ s, pool.slots[i]? = some s ∧ Slot.History d (historyOf i es) s := by
  have hs : (ofTasks tasks).slots[i]? = some (.waiting d) := by
    simp [ofTasks, hd]
  obtain ⟨s, hs', hpath⟩ := h.slot hs
  exact ⟨s, hs', Slot.history_of_path hpath⟩

theorem historyOf_eq_nil {workers : Nat} {tasks : List (Dialogue α)} {pool : Pool α}
    {es : List (Nat × Slot.Event α)} (h : Path workers (ofTasks tasks) es pool)
    {i : Nat} (hi : tasks.length ≤ i) : historyOf i es = [] := by
  rw [List.eq_nil_iff_forall_not_mem]
  intro e he
  have hlt := h.lt_length (mem_historyOf.1 he)
  simp only [ofTasks, List.length_map] at hlt
  omega

/-- Whether an event is a finish. -/
def isFinish : Slot.Event α → Bool
  | .finish _ => true
  | _ => false

theorem count_finishes (i : Nat) (es : List (Nat × Slot.Event α)) :
    ((finishes es).map (·.1)).count i = (historyOf i es).countP isFinish := by
  induction es with
  | nil => rfl
  | cons e es ih =>
    obtain ⟨j, e⟩ := e
    by_cases hij : j = i
    · subst hij
      rw [historyOf_cons_self, List.countP_cons, ← ih]
      cases e <;> simp [finishes, isFinish]
    · rw [historyOf_cons_ne hij, ← ih]
      cases e <;> simp [finishes, hij]

theorem Slot.History.countP_isFinish_le {d : Dialogue α} {es : List (Slot.Event α)}
    {s : Slot α} (h : Slot.History d es s) : es.countP isFinish ≤ 1 := by
  have hanswers : ∀ turns : List Dialogue.Turn,
      (turns.map (.answer : _ → Slot.Event α)).countP isFinish = 0 := by
    intro turns
    rw [List.countP_map, List.countP_eq_zero]
    intro turn _ hfinish
    cases hfinish
  cases h with
  | waiting => simp
  | running _ => simp [isFinish, hanswers]
  | finished _ => simp [isFinish, hanswers]

/-- No task finishes twice. -/
theorem Path.nodup_finishes {workers : Nat} {tasks : List (Dialogue α)} {pool : Pool α}
    {es : List (Nat × Slot.Event α)} (h : Path workers (ofTasks tasks) es pool) :
    ((finishes es).map (·.1)).Nodup := by
  rw [List.nodup_iff_count_le_one]
  intro i
  -- how often a task finishes is told by its history
  rw [count_finishes]
  cases hd : tasks[i]? with
  | none =>
    rw [historyOf_eq_nil h (List.getElem?_eq_none_iff.1 hd)]
    simp
  | some d =>
    obtain ⟨s, _, hhistory⟩ := h.history hd
    exact Slot.History.countP_isFinish_le hhistory

/-- In a complete path every task was run to its end. -/
theorem Path.finished {workers : Nat} {tasks : List (Dialogue α)} {pool : Pool α}
    {es : List (Nat × Slot.Event α)} (h : Path workers (ofTasks tasks) es pool)
    (hcomplete : pool.IsComplete) {i : Nat} {d : Dialogue α} (hd : tasks[i]? = some d) :
    ∃ turns a, historyOf i es = .start :: turns.map .answer ++ [.finish a] ∧
      Dialogue.Runs d turns a := by
  obtain ⟨s, hs, hhistory⟩ := h.history hd
  obtain rfl : s = .finished := hcomplete s (List.mem_of_getElem? hs)
  generalize hes : historyOf i es = history at hhistory
  cases hhistory with
  | finished hruns => exact ⟨_, _, rfl, hruns⟩

/-- What is left of a complete path when its schedule is forgotten: the
    values of the tasks, each the value of a run that the answers to the
    task make up, and a log that holds each of them once. -/
theorem Path.complete {workers : Nat} {tasks : List (Dialogue α)} {pool : Pool α}
    {es : List (Nat × Slot.Event α)} (h : Path workers (ofTasks tasks) es pool)
    (hcomplete : pool.IsComplete) :
    ∃ values : List α, values.length = tasks.length ∧
      (∀ i d, tasks[i]? = some d → ∃ turns a, values[i]? = some a ∧
        historyOf i es = .start :: turns.map .answer ++ [.finish a] ∧
        Dialogue.Runs d turns a) ∧
      pool.completed.Perm (numbered values) := by
  have hfinished : ∀ i : Fin tasks.length, ∃ a turns,
      historyOf i es = .start :: turns.map .answer ++ [.finish a] ∧
        Dialogue.Runs tasks[i] turns a := by
    intro i
    obtain ⟨turns, a, hhistory, hruns⟩ := h.finished hcomplete (List.getElem?_eq_getElem i.isLt)
    exact ⟨a, turns, hhistory, hruns⟩
  choose value turns hhistory hruns using hfinished
  have hvalue : ∀ i (hi : i < tasks.length), (List.ofFn value)[i]? = some (value ⟨i, hi⟩) := by
    intro i hi
    simp [hi]
  refine ⟨List.ofFn value, List.length_ofFn, ?_, ?_⟩
  · intro i d hd
    obtain ⟨hi, rfl⟩ := List.getElem?_eq_some_iff.1 hd
    exact ⟨turns ⟨i, hi⟩, value ⟨i, hi⟩, hvalue i hi, hhistory ⟨i, hi⟩, hruns ⟨i, hi⟩⟩
  · -- neither list holds a number twice, so it is enough that they hold the same
    have hlog : pool.completed = finishes es := by
      rw [h.completed]
      rfl
    rw [hlog, List.perm_ext_iff_of_nodup (List.Nodup.of_map _ h.nodup_finishes)
      (List.Nodup.of_map _ (by rw [map_fst_numbered]; exact List.nodup_range))]
    rintro ⟨i, a⟩
    rw [mem_finishes, mem_numbered, ← mem_historyOf]
    by_cases hi : i < tasks.length
    · rw [hvalue i hi, hhistory ⟨i, hi⟩]
      simp [eq_comm]
    · rw [historyOf_eq_nil h (Nat.le_of_not_lt hi)]
      simp [Nat.le_of_not_lt hi]

end Pool

end ResourceClient
