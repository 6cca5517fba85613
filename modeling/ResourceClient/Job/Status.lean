import ResourceClient.Listing.Request

/-! # The status of a job

    A job goes through several statuses and stays in one of two: completed
    or failed. -/

namespace ResourceClient

/-- Where a job stands. -/
inductive JobStatus where
  /-- Accepted, and not picked up yet. -/
  | notStarted
  /-- Waiting for a worker. -/
  | queued
  /-- Worked on. -/
  | running
  /-- Being split into parts. -/
  | distributing
  /-- Its parts are handed out. -/
  | distributed
  /-- The results of its parts are being gathered. -/
  | collecting
  /-- Ended with a result. -/
  | completed
  /-- Ended with an error. -/
  | failed
  deriving DecidableEq, Repr

namespace JobStatus

/-- The name of a status, as text and in JSON. -/
def text : JobStatus → String
  | notStarted => "Not started"
  | queued => "Queued"
  | running => "Running"
  | distributing => "Distributing"
  | distributed => "Distributed"
  | collecting => "Collecting"
  | completed => "Completed"
  | failed => "Failed"

/-- The status with a name. -/
def ofText? : String → Option JobStatus
  | "Not started" => some notStarted
  | "Queued" => some queued
  | "Running" => some running
  | "Distributing" => some distributing
  | "Distributed" => some distributed
  | "Collecting" => some collecting
  | "Completed" => some completed
  | "Failed" => some failed
  | _ => none

@[simp] theorem ofText?_text (s : JobStatus) : ofText? s.text = some s := by cases s <;> rfl

/-- Whether a job stays in this status. -/
def isTerminal : JobStatus → Bool
  | completed | failed => true
  | _ => false

/-- The status that a JSON value names, if it names one. -/
def ofJson? (v : Json) : Option JobStatus := v.variantName?.bind ofText?

/-- The status that a JSON value names. -/
def decode : Decoder JobStatus := fun v =>
  match ofJson? v with
  | some s => .ok s
  | none => .error (.ofShape "the status of a job is expected")

end JobStatus

end ResourceClient
