import ResourceClient.Binary64

/-! # Retry budgets

    A policy says how often a request may be repeated: in total, and for
    each way in which an attempt can fail.  A budget of `n` allows `n + 1`
    attempts.  Requests that must not be replayed after they may have been
    applied use a reduced policy, `RetryPolicy.forWrites`. -/

namespace ResourceClient

/-- The budgets of one request, and how long to pause between its attempts. -/
structure RetryPolicy where
  /-- Repetitions in total. -/
  total : UInt32 := 10
  /-- Repetitions after a reply whose status asks for one. -/
  status : UInt32 := 10
  /-- Repetitions after no answer in time. -/
  read : UInt32 := 5
  /-- Repetitions after a lost connection. -/
  connect : UInt32 := 5
  /-- The base of the pauses, in seconds. -/
  backoffFactor : Binary64 := .ofFloat 0.5
  /-- The longest pause, in milliseconds. -/
  maxBackoff : Nat := 30000
  /-- The status codes that ask for a repetition, in increasing order. -/
  codes : List Nat := [429, 502, 503, 504]

namespace RetryPolicy

/-- The policy that never repeats. -/
def disabled : RetryPolicy := { total := 0, status := 0, read := 0, connect := 0 }

/-- Puts a code into its place in an increasing list, unless it is there. -/
def insertCode (code : Nat) : List Nat → List Nat
  | [] => [code]
  | c :: rest =>
    if code < c then code :: c :: rest
    else if code = c then c :: rest
    else c :: insertCode code rest

/-- The policy with other status codes. -/
def withCodes (p : RetryPolicy) (codes : List Nat) : RetryPolicy :=
  { p with codes := codes.foldl (fun sorted code => insertCode code sorted) [] }

/-- The policy for requests that must not be replayed once they may have been
    applied: no answer in time ends them, and only the reply that the client is
    too fast asks for a repetition. -/
def forWrites (p : RetryPolicy) : RetryPolicy := { p with read := 0, codes := [429] }

end RetryPolicy

end ResourceClient
