import ResourceClient.Job.Basic

/-! # Points in time

    Documents give points in time in milliseconds since 1970.  A point in
    time can be shown when it lies between the years -262143 and 262142, the
    range of a calendar with 32-bit dates. -/

namespace ResourceClient

/-- A point in time since 1970. -/
structure Timestamp where
  /-- Whole seconds. -/
  seconds : Int
  /-- The milliseconds after them. -/
  milliseconds : Nat
  deriving DecidableEq, Repr

namespace Timestamp

/-- The first millisecond of the calendar. -/
def first : Int := -8334601228800000

/-- The last millisecond of the calendar. -/
def last : Int := 8210266876799999

/-- The point in time of a number of milliseconds, if the calendar has it. -/
def ofMilliseconds? (n : Int64) : Option Timestamp :=
  if first ≤ n.toInt ∧ n.toInt ≤ last then
    some ⟨Int.fdiv n.toInt 1000, (Int.fmod n.toInt 1000).toNat⟩
  else none

end Timestamp

namespace Job

/-- When the job was created. -/
def createdAt (job : Job) : Option Timestamp := job.createdTime.bind Timestamp.ofMilliseconds?

/-- When the job was started. -/
def startedAt (job : Job) : Option Timestamp := job.startTime.bind Timestamp.ofMilliseconds?

/-- When the status of the job changed. -/
def statusChangedAt (job : Job) : Option Timestamp :=
  job.statusTime.bind Timestamp.ofMilliseconds?

end Job

end ResourceClient
