import ResourceClient.Http.Message
import ResourceClient.Retry.Tracker

/-! # Repeating attempts

    `verdict` decides after each attempt whether its outcome is final.  A
    reply is final unless its status asks for a repetition; no answer in time
    and a lost connection are final once a budget is used up; every other
    error, a refused connection included, is final at once.  The loop hands
    back the final outcome as it is.

    An attempt that the counters cannot count ends the loop as well.  What
    becomes of its outcome is left open: where a computation can break down,
    it breaks down there, and where it cannot, the outcome is handed back.

    The loop works for attempts of any kind of computation, so that the same
    loop runs against a server and over a script of outcomes. -/

namespace ResourceClient

/-- What one attempt ends in. -/
abbrev Attempt := Result Http.Response

/-- What is decided after an attempt. -/
inductive Verdict where
  /-- The outcome is final. -/
  | final
  /-- Another attempt follows, with these counts. -/
  | again (tracker : RetryTracker)
  /-- The attempt cannot be counted, or the counts cannot be added up. -/
  | overflow

/-- The counts with one more attempt.  Errors that are never repeated are not
    counted. -/
def RetryTracker.counted? (t : RetryTracker) : Attempt → Option RetryTracker
  | .ok _ => (addWords? t.status 1).map fun status => { t with status }
  | .error e =>
    match e.kind with
    | .readTimeout => (addWords? t.read 1).map fun read => { t with read }
    | .connection => (addWords? t.connect 1).map fun connect => { t with connect }
    | _ => some t

namespace RetryPolicy

/-- Asks for another attempt if the counts allow one after an attempt that ended
    with a status code, or without. -/
def verdictOn (p : RetryPolicy) (counted : Option RetryTracker) (code : Option Nat) : Verdict :=
  match counted with
  | none => .overflow
  | some counted =>
    match counted.allows? p code with
    | none => .overflow
    | some true => .again counted
    | some false => .final

/-- The decision after an attempt, with the counts of the attempts before it. -/
def verdict (p : RetryPolicy) (t : RetryTracker) (outcome : Attempt) : Verdict :=
  match outcome with
  | .ok r => p.verdictOn (t.counted? outcome) (some r.status)
  | .error e =>
    match e.kind with
    | .readTimeout | .connection => p.verdictOn (t.counted? outcome) none
    | _ => .final

/-- Attempts, `more + 1` at most, until one is final.  An outcome that cannot be
    counted goes to `overflow`. -/
def attempts {m : Type → Type} [Monad m] (p : RetryPolicy) (attempt : m Attempt) (more : Nat)
    (t : RetryTracker) (overflow : Attempt → m Attempt := pure) : m Attempt :=
  match more with
  | 0 => attempt
  | more + 1 => do
    let outcome ← attempt
    match p.verdict t outcome with
    | .final => return outcome
    | .again t => p.attempts attempt more t overflow
    | .overflow => overflow outcome

/-- How often a request is repeated at most, whatever its budgets: far more
    often than the counters can tell, so that the attempts have always ended
    before. -/
def maxRepetitions : Nat := UInt64.size

/-- Attempts of one request until one is final. -/
def execute {m : Type → Type} [Monad m] (p : RetryPolicy) (attempt : m Attempt)
    (overflow : Attempt → m Attempt := pure) : m Attempt :=
  p.attempts attempt maxRepetitions {} overflow

end RetryPolicy

end ResourceClient
