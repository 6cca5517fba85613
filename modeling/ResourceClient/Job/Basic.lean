import ResourceClient.Client.Basic
import ResourceClient.Job.Status

/-! # Jobs

    Some endpoints answer with the description of a job, which the server
    then works on by itself.  A job keeps what the last document said, and
    of the points in time the last that was given.  It is waited for by
    asking for its document until it has ended, or until the wait has lasted
    for long enough.  A wait without a bound may never end, so that it has a
    budget of documents. -/

namespace ResourceClient

/-- A document that describes a job. -/
structure JobReport where
  /-- The number of the job. -/
  jobId : Int64
  /-- Where the job stands. -/
  status : JobStatus
  /-- When it was created, in milliseconds since 1970. -/
  createdTime : Option Int64
  /-- When it was started. -/
  startTime : Option Int64
  /-- When its status changed. -/
  statusTime : Option Int64
  /-- Why it failed. -/
  errorMessage : Option String

namespace JobReport

/-- The report that a record holds, if its members have the right types. -/
def ofJson? (v : Json) : Option JobReport := do
  let members ← v.record?
    ["jobId", "status", "createdTime", "startTime", "statusTime", "errorMessage"]
  let jobId ← (← members.lookup "jobId").int64?
  let status ← JobStatus.ofJson? (← members.lookup "status")
  let createdTime ← Json.optional? Json.int64? (members.lookup "createdTime")
  let startTime ← Json.optional? Json.int64? (members.lookup "startTime")
  let statusTime ← Json.optional? Json.int64? (members.lookup "statusTime")
  let errorMessage ← Json.optional? Json.string? (members.lookup "errorMessage")
  return { jobId, status, createdTime, startTime, statusTime, errorMessage }

/-- Reads a report. -/
def decode : Decoder JobReport := fun v =>
  match ofJson? v with
  | some report => .ok report
  | none => .error (.ofShape "the description of a job is expected")

end JobReport

/-- A job on the server. -/
structure Job where
  /-- Its number. -/
  id : Int64
  /-- The path at which it was started. -/
  path : String
  /-- Where it stands. -/
  status : JobStatus
  /-- When it was created, in milliseconds since 1970. -/
  createdTime : Option Int64 := none
  /-- When it was started. -/
  startTime : Option Int64 := none
  /-- When its status changed. -/
  statusTime : Option Int64 := none
  /-- Why it failed. -/
  errorMessage : Option String := none
  /-- The last document. -/
  document : Json

namespace Job

/-! ## Documents -/

/-- A job after a document and what it reports.  The number stays that of the
    first report, and a point in time that is not reported stays as it was. -/
def apply (job : Job) (report : JobReport) (document : Json) : Job :=
  { job with
    status := report.status
    createdTime := report.createdTime <|> job.createdTime
    startTime := report.startTime <|> job.startTime
    statusTime := report.statusTime <|> job.statusTime
    errorMessage := report.errorMessage
    document }

/-- The job that the first document describes. -/
def ofDocument (path : String) (document : Json) : Result Job := do
  let report ← JobReport.decode document
  let job : Job := { id := report.jobId, path, status := report.status, document := .null }
  return job.apply report document

/-- The report and the document of a response. -/
def reportOf (r : Http.Response) : Result (JobReport × Json) := do
  let document ← r.json
  return (← JobReport.decode document, document)

@[simp] theorem id_apply (job : Job) (report : JobReport) (document : Json) :
    (job.apply report document).id = job.id := rfl

@[simp] theorem path_apply (job : Job) (report : JobReport) (document : Json) :
    (job.apply report document).path = job.path := rfl

/-! ## Asking for the document -/

/-- Starts a job at a path of the project. -/
def start (client : Client) (path : String) (body : Json) : Dialogue (Result Job) := do
  match ← client.post path body with
  | .error e => return .error e
  | .ok response => return response.json >>= ofDocument path

/-- Asks for the document of a job.  An error leaves the job as it is. -/
def update (client : Client) (job : Job) : Dialogue (Result JobStatus × Job) := do
  match (← client.get (job.path ++ "/" ++ toString job.id.toInt)) >>= reportOf with
  | .error e => return (.error e, job)
  | .ok (report, document) => return (.ok report.status, job.apply report document)

/-- A job that failed. -/
def failure (job : Job) : Error :=
  { kind := .jobFailed job.id (job.errorMessage.getD "unknown error") }

/-- What a wait comes to when the status ends it. -/
def settled? (job : Job) : Option (Result JobStatus) :=
  match job.status with
  | .failed => some (.error job.failure)
  | .completed => some (.ok .completed)
  | _ => none

/-- Whether a wait that began at `started` has lasted for long enough. -/
def gaveUp (started : Nat) : (timeout : Option Nat) → Dialogue Bool
  | none => .done false
  | some timeout => do return timeout ≤ (← Dialogue.readClock) - started

/-- Asks for documents until one ends the wait. -/
def poll (client : Client) (timeout : Option Nat) (started : Nat) :
    (budget : Nat) → Job → Dialogue (Result JobStatus × Job)
  | 0, _ => .abandoned
  | budget + 1, job => do
    match ← job.update client with
    | (.error e, job) => return (.error e, job)
    | (.ok status, job) =>
      match job.settled? with
      | some outcome => return (outcome, job)
      | none =>
        if ← gaveUp started timeout then return (.ok status, job)
        else poll client timeout started budget job

/-- Waits until the job has ended, or for `timeout` milliseconds.  A job that failed is an error. -/
def wait (client : Client) (budget : Nat) (timeout : Option Nat) (job : Job) :
    Dialogue (Result JobStatus × Job) := do
  let started ← Dialogue.readClock
  poll client timeout started budget job

/-- The document of a completed job, which is waited for. -/
def result (client : Client) (budget : Nat) (job : Job) : Dialogue (Result Json × Job) :=
  if job.status = .completed then .done (.ok job.document, job)
  else do
    let (outcome, job) ← job.wait client budget none
    return (outcome.map fun _ => job.document, job)

end Job

end ResourceClient
