import ResourceClient.Bulk.Summary
import ResourceClient.Dialogue.Pool

/-! # Running the tasks of a bulk operation

    Every task is run to its result, a bounded number of them at a time.
    The results come in the order of completion, each with the number of its
    task; they are sorted by these numbers and laid beside the tasks before
    they are summed up.  Only a bound of zero is an error; what happens to
    the tasks is in the summary. -/

namespace ResourceClient.Bulk

/-- The bound on the tasks in flight has to be positive. -/
def noWorkers : Error :=
  .validation "max_workers must be at least 1" (some "max_workers") (some "0")

/-- Values that come with numbers, in the order of these. -/
def inTaskOrder {α : Type} (completed : List (Nat × α)) : List α :=
  (completed.mergeSort fun a b => a.1 ≤ b.1).map (·.2)

/-- The summary of tasks whose results come in any order, each with the number of its task. -/
def summarize {τ ρ : Type} (tasks : List τ) (completed : List (Nat × Result ρ)) : Summary τ ρ :=
  .ofOutcomes (tasks.zip (inTaskOrder completed))

/-- Runs `task` for every one of `tasks`, `workers` at a time at most, and sums the results up. -/
def execute {τ ρ : Type} (workers : Nat) (tasks : List τ) (task : τ → Dialogue (Result ρ)) :
    Dialogue (Result (Summary τ ρ)) :=
  if workers = 0 then .done (.error noWorkers)
  else do
    let completed ← Dialogue.gather workers (tasks.map task)
    return .ok (summarize tasks completed)

end ResourceClient.Bulk
