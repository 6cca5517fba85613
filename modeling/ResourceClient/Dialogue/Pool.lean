import ResourceClient.Dialogue.Basic

/-! # Tasks side by side

    A pool runs tasks, each a dialogue of its own, with a bounded number of
    them in flight.  A task is waiting, running or finished.  As long as
    fewer tasks run than are allowed, the next waiting one is started;
    otherwise it is left open which running task moves, and that task puts
    its question or finishes.  So the order in which tasks finish is as open
    as the answers are, and every task is started once, in order.  A pool
    keeps the values of finished tasks in the order in which they finished,
    each with the number of its task.

    Each move replaces one slot of the pool by a later one.  Slots cannot
    move for ever, because a dialogue is a well-founded tree, and so neither
    can a pool: this is the order that `gather` ends by. -/

namespace ResourceClient

/-- A task of a pool. -/
inductive Slot (α : Type) where
  /-- Not started. -/
  | waiting (task : Dialogue α)
  /-- In flight: what is left of it. -/
  | running (task : Dialogue α)
  /-- At its end. -/
  | finished

namespace Slot

variable {α : Type}

/-- Whether the task is not started. -/
def isWaiting : Slot α → Bool
  | waiting _ => true
  | _ => false

/-- Whether the task is in flight. -/
def isRunning : Slot α → Bool
  | running _ => true
  | _ => false

/-- What may happen to a task. -/
inductive Event (α : Type) where
  /-- It is started. -/
  | start
  /-- Its question is answered. -/
  | answer (turn : Dialogue.Turn)
  /-- It is at its end. -/
  | finish (value : α)

/-- How an event moves a task on. -/
inductive Step : Slot α → Event α → Slot α → Prop where
  /-- A waiting task is started. -/
  | start (task : Dialogue α) : Step (waiting task) .start (running task)
  /-- A running task has its answer. -/
  | answer {q : Question} (next : q.Answer → Dialogue α) (a : q.Answer) :
    Step (running (.ask q next)) (.answer ⟨q, a⟩) (running (next a))
  /-- A running task is at its end. -/
  | finish (a : α) : Step (running (.done a)) (.finish a) finished

/-- A slot is later than another when one event leads to it. -/
def Later (s' s : Slot α) : Prop := ∃ e, Step s e s'

theorem acc_finished : Acc Later (finished : Slot α) := ⟨_, fun _ ⟨_, h⟩ => nomatch h⟩

theorem acc_running (d : Dialogue α) : Acc Later (running d) := by
  induction d with
  | done a => exact ⟨_, fun _ ⟨_, h⟩ => by cases h; exact acc_finished⟩
  | ask q next ih => exact ⟨_, fun _ ⟨_, h⟩ => by cases h; exact ih _⟩

theorem acc_later (s : Slot α) : Acc Later s := by
  cases s with
  | waiting d => exact ⟨_, fun _ ⟨_, h⟩ => by cases h; exact acc_running d⟩
  | running d => exact acc_running d
  | finished => exact acc_finished

end Slot

/-- A list of slots is later than another when one of its slots is. -/
inductive LaterSlots {α : Type} : List (Slot α) → List (Slot α) → Prop where
  /-- The first slot moved. -/
  | head {s' s : Slot α} (rest : List (Slot α)) (h : s'.Later s) :
    LaterSlots (s' :: rest) (s :: rest)
  /-- A slot after the first moved. -/
  | tail (s : Slot α) {rest' rest : List (Slot α)} (h : LaterSlots rest' rest) :
    LaterSlots (s :: rest') (s :: rest)

namespace LaterSlots

variable {α : Type}

theorem acc_cons {s : Slot α} (hs : Acc Slot.Later s) {rest : List (Slot α)}
    (hr : Acc LaterSlots rest) : Acc LaterSlots (s :: rest) := by
  induction hs generalizing rest with
  | intro s hs ihs =>
    induction hr with
    | intro rest hr ihr =>
      refine ⟨_, fun slots h => ?_⟩
      cases h with
      | head _ h => exact ihs _ h ⟨_, hr⟩
      | tail _ h => exact ihr _ h

theorem wellFounded : WellFounded (LaterSlots (α := α)) := by
  refine ⟨fun slots => ?_⟩
  induction slots with
  | nil => exact ⟨_, fun _ h => nomatch h⟩
  | cons s rest ih => exact acc_cons (Slot.acc_later s) ih

/-- Moving the slot at one place makes the slots later. -/
theorem set {slots : List (Slot α)} {i : Nat} {s s' : Slot α} (hs : slots[i]? = some s)
    (h : s'.Later s) : LaterSlots (slots.set i s') slots := by
  induction slots generalizing i with
  | nil => simp at hs
  | cons first rest ih =>
    cases i with
    | zero =>
      obtain rfl : first = s := by simpa using hs
      exact .head rest h
    | succ i => exact .tail first (ih (by simpa using hs))

end LaterSlots

/-- The tasks of a pool, and the values of those that are finished. -/
structure Pool (α : Type) where
  /-- The tasks, in their order. -/
  slots : List (Slot α)
  /-- The values of the finished tasks with the numbers of these, in the order of completion. -/
  completed : List (Nat × α) := []

namespace Pool

variable {α : Type}

/-- A pool of tasks of which none is started. -/
def ofTasks (tasks : List (Dialogue α)) : Pool α := { slots := tasks.map .waiting }

/-- How many tasks are in flight. -/
def inFlight (pool : Pool α) : Nat := pool.slots.countP Slot.isRunning

/-- The numbers of the tasks in flight. -/
def runningAt (pool : Pool α) : List Nat :=
  (pool.slots.zipIdx.filter fun s => s.1.isRunning).map (·.2)

/-- The pool where the task with number `i` is in flight and `rest` is left of it. -/
def movedTo (pool : Pool α) (i : Nat) (rest : Dialogue α) : Pool α :=
  { pool with slots := pool.slots.set i (.running rest) }

/-- The pool where the task with number `i` has just finished. -/
def finished (pool : Pool α) (i : Nat) (a : α) : Pool α where
  slots := pool.slots.set i .finished
  completed := pool.completed ++ [(i, a)]

/-- The first waiting task, if there is one and a worker is free. -/
def next? (workers : Nat) (pool : Pool α) : Option Nat :=
  if pool.inFlight < workers then pool.slots.findIdx? Slot.isWaiting else none

instance : WellFoundedRelation (Pool α) :=
  invImage Pool.slots ⟨LaterSlots, LaterSlots.wellFounded⟩

/-- Runs the tasks of a pool to their ends, `workers` of them at a time at most,
    and gives their values with their numbers, in the order of completion. -/
def gather (workers : Nat) (pool : Pool α) : Dialogue (List (Nat × α)) :=
  match next? workers pool with
  | some i =>
    match _h : pool.slots[i]? with
    | some (.waiting task) => gather workers (pool.movedTo i task)
    | _ => .done pool.completed
  | none =>
    match pool.runningAt with
    | [] => .done pool.completed
    | first :: others =>
      .ask (.choice others.length) fun k =>
        match _h : pool.slots[(first :: others).get k]? with
        | some (.running (.done a)) => gather workers (pool.finished ((first :: others).get k) a)
        | some (.running (.ask q next)) =>
          .ask q fun a => gather workers (pool.movedTo ((first :: others).get k) (next a))
        | _ => .done pool.completed
termination_by pool
decreasing_by
  · exact LaterSlots.set _h ⟨_, .start task⟩
  · exact LaterSlots.set _h ⟨_, .finish a⟩
  · exact LaterSlots.set _h ⟨_, .answer next a⟩

end Pool

/-- Runs tasks side by side, `workers` of them at a time at most, and gives
    their values with their numbers, in the order of completion. -/
def Dialogue.gather {α : Type} (workers : Nat) (tasks : List (Dialogue α)) :
    Dialogue (List (Nat × α)) :=
  Pool.gather workers (.ofTasks tasks)

end ResourceClient
