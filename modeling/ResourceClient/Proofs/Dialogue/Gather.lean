import Mathlib
import ResourceClient.Proofs.Dialogue.Schedule
import ResourceClient.Proofs.Dialogue.Totality

/-! # Runs of tasks side by side

    A run of `gather` follows a complete path of its pool
    (`path_of_runs_gather`): the choices of the run pick the events, and all
    other turns of the run are answers to tasks.  So the exchanges of the
    run are those of the tasks, woven into each other; labelled with the
    numbers of their tasks they come apart again.

    Tasks that are never abandoned are not abandoned side by side either
    (`total_gather`).

    `Woven` says this of a list of dialogues without a word about pools,
    schedules or workers, and `woven_of_runs_gather` is the one fact about
    `gather` that operations on many items need. -/

namespace ResourceClient

namespace Pool

variable {α : Type}

/-! ## What `gather` finds in a pool -/

theorem next?_eq_some {workers i : Nat} {pool : Pool α} (h : next? workers pool = some i) :
    (∃ t, pool.slots[i]? = some (.waiting t)) ∧
      (∀ j < i, ∀ t, pool.slots[j]? ≠ some (.waiting t)) ∧ pool.inFlight < workers := by
  unfold next? at h
  split at h
  · next hfree =>
    obtain ⟨hi, hwaiting, hbefore⟩ := List.findIdx?_eq_some_iff_getElem.1 h
    refine ⟨?_, ?_, hfree⟩
    · rw [List.getElem?_eq_getElem hi]
      cases hs : pool.slots[i] with
      | waiting t => exact ⟨t, rfl⟩
      | running d => rw [hs] at hwaiting; cases hwaiting
      | finished => rw [hs] at hwaiting; cases hwaiting
    · intro j hj t ht
      obtain ⟨hlt, hget⟩ := List.getElem?_eq_some_iff.1 ht
      have hnot := hbefore j hj
      rw [hget] at hnot
      exact hnot rfl
  · cases h

theorem mem_runningAt {pool : Pool α} {i : Nat} :
    i ∈ pool.runningAt ↔ ∃ d, pool.slots[i]? = some (.running d) := by
  unfold runningAt
  simp only [List.mem_map, List.mem_filter]
  constructor
  · rintro ⟨⟨s, j⟩, ⟨hmem, hrun⟩, rfl⟩
    have hs := List.mem_zipIdx_iff_getElem?.1 hmem
    cases s with
    | running d => exact ⟨d, hs⟩
    | waiting d => cases hrun
    | finished => cases hrun
  · rintro ⟨d, hd⟩
    exact ⟨(.running d, i), ⟨List.mem_zipIdx_iff_getElem?.2 hd, rfl⟩, rfl⟩

/-- Where no task is in flight and none can be started, all are finished. -/
theorem isComplete_of_idle {workers : Nat} {pool : Pool α} (hpos : 0 < workers)
    (hnext : next? workers pool = none) (hrunning : pool.runningAt = []) :
    pool.IsComplete := by
  have hnone : ∀ d, .running d ∉ pool.slots := by
    -- a running task would be among those in flight
    intro d hmem
    obtain ⟨i, hi, hget⟩ := List.getElem_of_mem hmem
    have hat : i ∈ pool.runningAt :=
      mem_runningAt.2 ⟨d, by rw [List.getElem?_eq_getElem hi, hget]⟩
    rw [hrunning] at hat
    cases hat
  have hzero : pool.inFlight = 0 := by
    unfold inFlight
    rw [List.countP_eq_zero]
    intro s hs hrun
    cases s with
    | running d => exact hnone d hs
    | waiting d => cases hrun
    | finished => cases hrun
  -- all workers are free, so that no task is left to be started
  unfold next? at hnext
  rw [hzero, if_pos hpos, List.findIdx?_eq_none_iff] at hnext
  intro s hs
  cases s with
  | waiting d => exact absurd (hnext _ hs) (by simp [Slot.isWaiting])
  | running d => exact absurd hs (hnone d)
  | finished => rfl

/-- Whether a task in flight has put a question without answers. -/
def IsGivenUp (pool : Pool α) : Prop :=
  ∃ (i : Nat) (q : Question) (next : q.Answer → Dialogue α),
    pool.slots[i]? = some (.running (.ask q next)) ∧ IsEmpty q.Answer

/-- A pool that is not complete can go on, unless a task is given up. -/
theorem isComplete_or_exists_step {workers : Nat} (hpos : 0 < workers) (pool : Pool α) :
    pool.IsComplete ∨ (∃ e pool', Step workers pool e pool') ∨ pool.IsGivenUp := by
  cases hrunning : pool.runningAt with
  | nil =>
    -- no task is in flight: one can be started, or all are finished
    cases hnext : next? workers pool with
    | none => exact Or.inl (isComplete_of_idle hpos hnext hrunning)
    | some i =>
      obtain ⟨⟨t, ht⟩, hfirst, hfree⟩ := next?_eq_some hnext
      exact Or.inr (Or.inl ⟨_, _, .start ht hfirst hfree⟩)
  | cons i others =>
    -- the first task in flight can move unless its question has no answer
    obtain ⟨d, hd⟩ := mem_runningAt.1 (hrunning ▸ List.mem_cons_self : i ∈ pool.runningAt)
    cases d with
    | done a => exact Or.inr (Or.inl ⟨_, _, .finish hd⟩)
    | ask q next =>
      rcases isEmpty_or_nonempty q.Answer with hempty | ⟨⟨a⟩⟩
      · exact Or.inr (Or.inr ⟨i, q, next, hd, hempty⟩)
      · exact Or.inr (Or.inl ⟨_, _, .answer hd a⟩)

/-! ## Exchanges of a schedule -/

/-- The exchanges of one event, with the number of its task. -/
def exchangesOf (e : Nat × Slot.Event α) : List (Nat × Outgoing × Http.Reply) :=
  match e.2 with
  | .answer turn => (Dialogue.exchanges [turn]).map fun x => (e.1, x)
  | _ => []

/-- The exchanges of a schedule, with the numbers of their tasks. -/
def labelled (es : List (Nat × Slot.Event α)) : List (Nat × Outgoing × Http.Reply) :=
  es.flatMap exchangesOf

/-- The turns in the events of a task. -/
def answersIn (es : List (Slot.Event α)) : List Dialogue.Turn :=
  es.filterMap fun e =>
    match e with
    | .answer turn => some turn
    | _ => none

theorem answersIn_history (turns : List Dialogue.Turn) (a : α) :
    answersIn (.start :: turns.map .answer ++ [.finish a]) = turns := by
  simp [answersIn, List.filterMap_append, List.filterMap_map]

theorem exchanges_cons (turn : Dialogue.Turn) (turns : List Dialogue.Turn) :
    Dialogue.exchanges (turn :: turns) =
      Dialogue.exchanges [turn] ++ Dialogue.exchanges turns :=
  Dialogue.exchanges_append [turn] turns

/-- The exchanges of one task are those with its number. -/
theorem filter_labelled (i : Nat) (es : List (Nat × Slot.Event α)) :
    ((labelled es).filter (·.1 = i)).map (·.2) =
      Dialogue.exchanges (answersIn (historyOf i es)) := by
  induction es with
  | nil => rfl
  | cons e es ih =>
    obtain ⟨j, e⟩ := e
    have hcons : labelled ((j, e) :: es) = exchangesOf (j, e) ++ labelled es := rfl
    rw [hcons, List.filter_append, List.map_append, ih]
    by_cases hij : j = i
    · subst hij
      rw [historyOf_cons_self]
      cases e with
      | answer turn =>
        show _ = Dialogue.exchanges (turn :: answersIn (historyOf j es))
        rw [exchanges_cons]
        simp [exchangesOf, List.filter_map, Function.comp_def]
      | start => rfl
      | finish a => rfl
    · rw [historyOf_cons_ne hij]
      cases e with
      | answer turn => simp [exchangesOf, List.filter_map, Function.comp_def, hij]
      | start => rfl
      | finish a => rfl

/-! ## From runs to paths -/

/-- A run of `gather` follows a complete path. -/
theorem path_of_runs_gather {workers : Nat} (hpos : 0 < workers) {pool : Pool α}
    {turns : List Dialogue.Turn} {completed : List (Nat × α)}
    (h : Dialogue.Runs (gather workers pool) turns completed) :
    ∃ es pool', Path workers pool es pool' ∧ pool'.IsComplete ∧
      completed = pool'.completed ∧ Dialogue.exchanges turns = (labelled es).map (·.2) := by
  fun_induction gather workers pool generalizing turns with
  | case1 pool i hnext task hslot ih =>
    -- a task is started
    obtain ⟨es, pool', hpath, hcomplete, hlog, hsent⟩ := ih h
    obtain ⟨_, hfirst, hfree⟩ := next?_eq_some hnext
    exact ⟨_, pool', .cons (.start hslot hfirst hfree) hpath, hcomplete, hlog, hsent⟩
  | case2 pool i hnext hnot =>
    -- the task to be started waits
    obtain ⟨⟨t, ht⟩, -, -⟩ := next?_eq_some hnext
    exact absurd ht (hnot t)
  | case3 pool hnext hrunning =>
    -- nothing is left to do
    obtain ⟨rfl, rfl⟩ := Dialogue.runs_done_iff.1 h
    exact ⟨[], pool, .nil pool, isComplete_of_idle hpos hnext hrunning, rfl, rfl⟩
  | case4 pool hnext first others hrunning ihfinish ihanswer =>
    -- one of the tasks in flight is picked, and finishes or has an answer
    obtain ⟨k, rest, rfl, hrest⟩ := Dialogue.runs_ask_iff.1 h
    have hpick : (first :: others).get k ∈ pool.runningAt := by
      rw [hrunning]
      exact List.get_mem (first :: others) k
    split at hrest
    · next a hslot =>
      obtain ⟨es, pool', hpath, hcomplete, hlog, hsent⟩ := ihfinish k a hslot hrest
      exact ⟨_, pool', .cons (.finish hslot) hpath, hcomplete, hlog, hsent⟩
    · next q next hslot =>
      obtain ⟨a, later, rfl, hlater⟩ := Dialogue.runs_ask_iff.1 hrest
      obtain ⟨es, pool', hpath, hcomplete, hlog, hsent⟩ := ihanswer k q next hslot a hlater
      refine ⟨_, pool', .cons (.answer hslot a) hpath, hcomplete, hlog, ?_⟩
      have hcons : labelled ((_, .answer ⟨q, a⟩) :: es) =
          exchangesOf ((first :: others).get k, .answer ⟨q, a⟩) ++ labelled es := rfl
      show Dialogue.exchanges (⟨q, a⟩ :: later) = _
      rw [exchanges_cons, hsent, hcons, List.map_append]
      simp [exchangesOf]
    · next hdone hask =>
      -- the picked task is in flight, so it is at its end or puts a question
      obtain ⟨d, hd⟩ := mem_runningAt.1 hpick
      cases d with
      | done a => exact absurd hd (hdone a)
      | ask q next => exact absurd hd (hask q next)

/-! ## A task that runs alone -/

/-- A pool of one task in flight asks what the task asks. -/
theorem runs_gather_running (workers : Nat) {d : Dialogue α} {turns : List Dialogue.Turn} {a : α}
    (h : Dialogue.Runs d turns a) :
    ∃ turns', Dialogue.Runs (gather workers { slots := [.running d] }) turns' [(0, a)] ∧
      Dialogue.exchanges turns' = Dialogue.exchanges turns := by
  have hnext (s : Slot α) (hs : s.isWaiting = false) (completed : List (Nat × α)) :
      next? workers { slots := [s], completed } = none := by
    simp [next?, hs]
  induction h with
  | done a =>
    -- the task is picked, finishes, and leaves nothing to do
    refine ⟨[⟨.choice 0, (0 : Fin 1)⟩], ?_, rfl⟩
    unfold gather
    rw [hnext _ rfl]
    refine .ask (q := .choice 0) (0 : Fin 1) ?_
    show Dialogue.Runs (gather workers { slots := [.finished], completed := [(0, a)] }) [] [(0, a)]
    unfold gather
    rw [hnext _ rfl]
    exact .done _
  | @ask q next answer turns a _ ih =>
    obtain ⟨turns', hruns, hexchanges⟩ := ih
    refine ⟨⟨.choice 0, (0 : Fin 1)⟩ :: ⟨q, answer⟩ :: turns', ?_, ?_⟩
    · unfold gather
      rw [hnext _ rfl]
      exact .ask (q := .choice 0) (0 : Fin 1) (.ask answer hruns)
    · show Dialogue.exchanges (⟨q, answer⟩ :: turns') = _
      rw [exchanges_cons, exchanges_cons _ turns, hexchanges]

/-! ## Total tasks -/

/-- A slot whose task is total. -/
def IsTotal (s : Slot α) : Prop :=
  match s with
  | .waiting d | .running d => d.Total
  | .finished => True

/-- What holds of every slot still holds when one of them moves. -/
theorem forall_mem_set {P : Slot α → Prop} {slots : List (Slot α)} (h : ∀ s ∈ slots, P s)
    (i : Nat) {s' : Slot α} (hs' : P s') : ∀ s ∈ slots.set i s', P s := by
  intro s hs
  rcases List.mem_or_eq_of_mem_set hs with hmem | rfl
  · exact h s hmem
  · exact hs'

/-- Running total tasks side by side is total. -/
theorem total_gather (workers : Nat) (pool : Pool α) (h : ∀ s ∈ pool.slots, IsTotal s) :
    (gather workers pool).Total := by
  fun_induction gather workers pool with
  | case1 pool i _ task hslot ih =>
    have htask : IsTotal (.waiting task) := h _ (List.mem_of_getElem? hslot)
    exact ih (forall_mem_set h i htask)
  | case2 => exact .done _
  | case3 => exact .done _
  | case4 pool _ first others _ ihfinish ihanswer =>
    refine .ask (by simp) fun k => ?_
    split
    · next a hslot => exact ihfinish k a hslot (forall_mem_set h _ trivial)
    · next q next hslot =>
      have htask : Dialogue.Total (.ask q next) := h _ (List.mem_of_getElem? hslot)
      cases htask with
      | ask hq hnext =>
        exact .ask hq fun a => ihanswer k q next hslot a (forall_mem_set h _ (hnext a))
    · exact .done _

end Pool

/-! ## Woven exchanges -/

namespace Dialogue

variable {α β : Type}

/-- The exchanges of dialogues that run side by side: each dialogue has a run
    with its value, and the exchanges of these runs are woven into `sent`.
    The labels say which exchange belongs to which dialogue. -/
def Woven (tasks : List (Dialogue α)) (sent : List (Outgoing × Http.Reply))
    (values : List α) : Prop :=
  values.length = tasks.length ∧
    ∃ labels : List (Nat × Outgoing × Http.Reply), labels.map (·.2) = sent ∧
      (∀ l ∈ labels, l.1 < tasks.length) ∧
      ∀ i d, tasks[i]? = some d → ∃ turns a, values[i]? = some a ∧ Runs d turns a ∧
        exchanges turns = (labels.filter (·.1 = i)).map (·.2)

theorem woven_nil : Woven ([] : List (Dialogue α)) [] [] := ⟨rfl, [], rfl, by simp, by simp⟩

/-- What a run of tasks side by side comes to: the runs of the tasks, woven
    into each other, and their values in any order, each with its number. -/
theorem woven_of_runs_gather {workers : Nat} (hpos : 0 < workers) {tasks : List (Dialogue α)}
    {turns : List Turn} {completed : List (Nat × α)}
    (h : Runs (gather workers tasks) turns completed) :
    ∃ values, Woven tasks (exchanges turns) values ∧ completed.Perm (Pool.numbered values) := by
  obtain ⟨es, pool, hpath, hcomplete, rfl, hsent⟩ := Pool.path_of_runs_gather hpos h
  obtain ⟨values, hlength, hvalues, hperm⟩ := hpath.complete hcomplete
  refine ⟨values, ⟨hlength, Pool.labelled es, hsent.symm, ?_, ?_⟩, hperm⟩
  · intro l hl
    obtain ⟨e, he, hmem⟩ := List.mem_flatMap.1 hl
    have hlt := hpath.lt_length he
    simp only [Pool.ofTasks, List.length_map] at hlt
    obtain ⟨j, e⟩ := e
    cases e with
    | answer turn =>
      obtain ⟨x, _, rfl⟩ := List.mem_map.1 hmem
      exact hlt
    | start => cases hmem
    | finish a => cases hmem
  · intro i d hd
    obtain ⟨turnsᵢ, a, ha, hhistory, hruns⟩ := hvalues i d hd
    refine ⟨turnsᵢ, a, ha, hruns, ?_⟩
    rw [Pool.filter_labelled, hhistory, Pool.answersIn_history]

/-- Dialogues whose values are only looked at differently are woven in the
    same way. -/
theorem Woven.of_map {tasks : List (Dialogue α)} {g : α → β}
    {sent : List (Outgoing × Http.Reply)} {values : List β}
    (h : Woven (tasks.map fun d => d.bind fun a => .done (g a)) sent values) :
    ∃ values', Woven tasks sent values' ∧ values = values'.map g := by
  obtain ⟨hlength, labels, hlabels, hlt, htasks⟩ := h
  rw [List.length_map] at hlength hlt
  have hall : ∀ i : Fin tasks.length, ∃ a turns, values[i.1]? = some (g a) ∧
      Runs (tasks.get i) turns a ∧ exchanges turns = (labels.filter (·.1 = i.1)).map (·.2) := by
    intro i
    obtain ⟨turns, b, hb, hruns, hexchanges⟩ := htasks i.1
      ((tasks.get i).bind fun a => .done (g a)) (by simp)
    obtain ⟨a, before, after, rfl, hbefore, hafter⟩ := runs_bind_iff.1 hruns
    obtain ⟨rfl, rfl⟩ := runs_done_iff.1 hafter
    rw [List.append_nil] at hexchanges
    exact ⟨a, before, hb, hbefore, hexchanges⟩
  choose f turns hvalue hruns hexchanges using hall
  refine ⟨List.ofFn f, ⟨List.length_ofFn, labels, hlabels, hlt, ?_⟩, ?_⟩
  · intro i d hd
    obtain ⟨hi, rfl⟩ := List.getElem?_eq_some_iff.1 hd
    exact ⟨turns ⟨i, hi⟩, f ⟨i, hi⟩, by simp [hi], hruns ⟨i, hi⟩, hexchanges ⟨i, hi⟩⟩
  · apply List.ext_getElem?
    intro i
    by_cases hi : i < tasks.length
    · rw [hvalue ⟨i, hi⟩]
      simp [hi]
    · rw [List.getElem?_eq_none (by omega)]
      simp [hi]

/-- A run goes on with nothing if its value is only looked at. -/
theorem Runs.bind_done {d : Dialogue α} {turns : List Turn} {a : α} (h : Runs d turns a)
    {f : α → Dialogue β} {b : β} (hf : f a = .done b) : Runs (d.bind f) turns b := by
  refine runs_bind_iff.2 ⟨a, turns, [], (List.append_nil turns).symm, h, ?_⟩
  rw [hf]
  exact .done b

/-- A task that runs alone runs as it would by itself. -/
theorem runs_gather_single {workers : Nat} (hpos : 0 < workers) {d : Dialogue α}
    {turns : List Turn} {a : α} (h : Runs d turns a) :
    ∃ turns', Runs (gather workers [d]) turns' [(0, a)] ∧ exchanges turns' = exchanges turns := by
  obtain ⟨turns', hruns, hexchanges⟩ := Pool.runs_gather_running workers h
  refine ⟨turns', ?_, hexchanges⟩
  have hnext : Pool.next? workers (Pool.ofTasks [d]) = some 0 := by
    simp [Pool.next?, Pool.ofTasks, Pool.inFlight, Slot.isRunning, Slot.isWaiting, hpos]
  unfold gather Pool.gather
  rw [hnext]
  exact hruns

/-- Lists that are woven into one, each in its own order.  The labels say
    which list an element comes from. -/
def Interleaves {γ : Type} (parts : List (List γ)) (whole : List γ) : Prop :=
  ∃ labels : List (Nat × γ), labels.map (·.2) = whole ∧ (∀ l ∈ labels, l.1 < parts.length) ∧
    ∀ i part, parts[i]? = some part → (labels.filter (·.1 = i)).map (·.2) = part

theorem interleaves_nil {γ : Type} : Interleaves ([] : List (List γ)) [] :=
  ⟨[], rfl, by simp, by simp⟩

theorem interleaves_single {γ : Type} (part : List γ) : Interleaves [part] part := by
  refine ⟨part.map (0, ·), by simp, by simp, ?_⟩
  intro i other hi
  obtain ⟨hlt, rfl⟩ := List.getElem?_eq_some_iff.1 hi
  obtain rfl : i = 0 := Nat.lt_one_iff.1 hlt
  simp [List.filter_map, Function.comp_def]

/-- An element of one of the lists is an element of the whole. -/
theorem Interleaves.mem {γ : Type} {parts : List (List γ)} {whole part : List γ}
    (h : Interleaves parts whole) (hpart : part ∈ parts) {a : γ} (ha : a ∈ part) : a ∈ whole := by
  obtain ⟨labels, rfl, -, hparts⟩ := h
  obtain ⟨i, hi⟩ := List.mem_iff_getElem?.1 hpart
  rw [← hparts i part hi] at ha
  obtain ⟨l, hl, rfl⟩ := List.mem_map.1 ha
  exact List.mem_map_of_mem (List.mem_of_mem_filter hl)

/-- Only one list is not woven at all. -/
theorem Interleaves.eq_of_single {γ : Type} {part whole : List γ}
    (h : Interleaves [part] whole) : part = whole := by
  obtain ⟨labels, rfl, hlt, hparts⟩ := h
  rw [← hparts 0 part rfl, List.filter_eq_self.2]
  intro l hl
  have hzero := hlt l hl
  simp only [List.length_singleton, Nat.lt_one_iff] at hzero
  simp [hzero]

/-- The exchanges of dialogues that run side by side are an interleaving of
    the exchanges of their runs. -/
theorem Woven.interleaves {tasks : List (Dialogue α)} {sent : List (Outgoing × Http.Reply)}
    {values : List α} (h : Woven tasks sent values) :
    ∃ parts, parts.length = tasks.length ∧ Interleaves parts sent ∧
      ∀ (i : Nat) d part a, tasks[i]? = some d → parts[i]? = some part → values[i]? = some a →
        ∃ turns, Runs d turns a ∧ exchanges turns = part := by
  obtain ⟨-, labels, hlabels, hlt, htasks⟩ := h
  have hpart (i : Nat) (part : List (Outgoing × Http.Reply))
      (hi : (List.ofFn fun j : Fin tasks.length =>
        (labels.filter (·.1 = j.1)).map (·.2))[i]? = some part) :
      (labels.filter (·.1 = i)).map (·.2) = part := by
    obtain ⟨hlt', heq⟩ := List.getElem?_eq_some_iff.1 hi
    rw [← heq, List.getElem_ofFn]
  refine ⟨List.ofFn fun j : Fin tasks.length => (labels.filter (·.1 = j.1)).map (·.2),
    List.length_ofFn, ⟨labels, hlabels, ?_, hpart⟩, ?_⟩
  · rwa [List.length_ofFn]
  · intro i d part a hd hi ha
    obtain ⟨turns, a', ha', hruns, hexchanges⟩ := htasks i d hd
    obtain rfl : a' = a := Option.some.inj (ha'.symm.trans ha)
    exact ⟨turns, hruns, hexchanges.trans (hpart i part hi)⟩

/-- An element of the whole is an element of one of the lists. -/
theorem Interleaves.exists_part {γ : Type} {parts : List (List γ)} {whole : List γ}
    (h : Interleaves parts whole) {a : γ} (ha : a ∈ whole) : ∃ part ∈ parts, a ∈ part := by
  obtain ⟨labels, rfl, hlt, hparts⟩ := h
  obtain ⟨l, hl, rfl⟩ := List.mem_map.1 ha
  refine ⟨parts.get ⟨l.1, hlt l hl⟩, List.get_mem _ _, ?_⟩
  rw [List.get_eq_getElem, ← hparts l.1 _ (List.getElem?_eq_getElem (hlt l hl))]
  exact List.mem_map_of_mem (List.mem_filter.2 ⟨hl, by simp⟩)

/-- If the elements of each list have a key of their own, then the lists are
    found again in the whole by their keys. -/
theorem Interleaves.forall₂_filter {γ κ : Type} [DecidableEq κ] {key : γ → κ}
    {keys : List κ} {parts : List (List γ)} {whole : List γ} (h : Interleaves parts whole)
    (hnodup : keys.Nodup) (hkeys : List.Forall₂ (fun k part => ∀ a ∈ part, key a = k) keys parts) :
    List.Forall₂ (fun k part => whole.filter (key · = k) = part) keys parts := by
  obtain ⟨labels, rfl, hlt, hparts⟩ := h
  obtain ⟨hlength, hkey⟩ := List.forall₂_iff_get.1 hkeys
  refine List.forall₂_iff_get.2 ⟨hlength, fun i hi hi' => ?_⟩
  show _ = parts[i]
  rw [← hparts i _ (List.getElem?_eq_getElem hi'), List.filter_map]
  refine congrArg (List.map _) (List.filter_congr fun l hl => ?_)
  -- the key of an element tells the list that it comes from
  have hlt' := hlt l hl
  have hmem : l.2 ∈ parts.get ⟨l.1, hlt'⟩ := by
    rw [List.get_eq_getElem, ← hparts l.1 _ (List.getElem?_eq_getElem hlt')]
    exact List.mem_map_of_mem (List.mem_filter.2 ⟨hl, by simp⟩)
  have hthis := hkey l.1 (hlength ▸ hlt') hlt' l.2 hmem
  simp only [Function.comp_apply, hthis, decide_eq_decide, List.get_eq_getElem]
  exact hnodup.getElem_inj_iff

/-- Of two lists whose elements belong together, every element of the second
    belongs to one of the first. -/
theorem exists_mem_of_forall₂ {γ δ : Type} {R : γ → δ → Prop} {xs : List γ} {ys : List δ}
    (h : List.Forall₂ R xs ys) {y : δ} (hy : y ∈ ys) : ∃ x ∈ xs, R x y := by
  induction h with
  | nil => cases hy
  | @cons x _ xs _ hR _ ih =>
    rcases List.mem_cons.1 hy with rfl | hlater
    · exact ⟨x, List.mem_cons_self, hR⟩
    · obtain ⟨x', hx', hR'⟩ := ih hlater
      exact ⟨x', List.mem_cons_of_mem x hx', hR'⟩

/-- Tasks that run side by side, each of whose runs is described by
    something: there is a description for each task, the exchanges of the
    descriptions are woven into each other, and their values are those of
    the tasks. -/
theorem Woven.exists_described {τ γ : Type} {tasks : List τ} {task : τ → Dialogue α}
    {sent : List (Outgoing × Http.Reply)} {values : List α} (h : Woven (tasks.map task) sent values)
    {P : τ → γ → Prop} {sentIn : γ → List (Outgoing × Http.Reply)} {valueOf : γ → α}
    (hruns : ∀ t ∈ tasks, ∀ turns a, Runs (task t) turns a →
      ∃ g, P t g ∧ exchanges turns = sentIn g ∧ a = valueOf g) :
    ∃ gs, List.Forall₂ P tasks gs ∧ Interleaves (gs.map sentIn) sent ∧
      values = gs.map valueOf := by
  have hlength : values.length = tasks.length := by rw [h.1, List.length_map]
  obtain ⟨parts, hparts, hinterleaves, hall⟩ := h.interleaves
  rw [List.length_map] at hparts
  have hdescribed (i : Fin tasks.length) : ∃ g, P (tasks.get i) g ∧
      parts.get (i.cast hparts.symm) = sentIn g ∧ values.get (i.cast hlength.symm) = valueOf g := by
    obtain ⟨turns, hrun, hsent⟩ := hall i.1 (task (tasks.get i)) _ _ (by simp)
      (List.getElem?_eq_getElem (i.cast hparts.symm).2)
      (List.getElem?_eq_getElem (i.cast hlength.symm).2)
    obtain ⟨g, hg, hsent', hvalue⟩ := hruns _ (List.get_mem _ _) turns _ hrun
    exact ⟨g, hg, hsent.symm.trans hsent', hvalue⟩
  choose f hP hsent hvalue using hdescribed
  refine ⟨List.ofFn f, List.forall₂_iff_get.2 ⟨List.length_ofFn.symm, ?_⟩, ?_, ?_⟩
  · intro i hi hi'
    simpa using hP ⟨i, hi⟩
  · have heq : (List.ofFn f).map sentIn = parts := by
      apply List.ext_getElem (by simp [hparts])
      intro i hi hi'
      simpa using (hsent ⟨i, by simpa using hi⟩).symm
    rwa [heq]
  · apply List.ext_getElem (by simp [hlength])
    intro i hi hi'
    simpa using hvalue ⟨i, by simpa using hi'⟩

theorem total_gather (workers : Nat) {tasks : List (Dialogue α)}
    (h : ∀ d ∈ tasks, d.Total) : (gather workers tasks).Total := by
  apply Pool.total_gather
  intro s hs
  obtain ⟨d, hd, rfl⟩ := List.mem_map.1 hs
  exact h d hd

end Dialogue

end ResourceClient
