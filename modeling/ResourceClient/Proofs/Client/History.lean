import Mathlib
import ResourceClient.Proofs.Client.Request
import ResourceClient.Proofs.Retry.Law

/-! # The history of a request

    A request is sent in attempts, and only the last of them tells what it
    comes to.  Its history (`Client.History`) holds all of them: the same
    request each time, and before each repetition an outcome after which the
    policy may repeat (`RetryPolicy.MayRepeat`).

    That an outcome may be repeated depends on the policy alone.  No
    invariant of the loop is needed for this: an attempt without an answer is
    counted before its counter is compared with the budget, so that a budget
    of zero admits no repetition, whatever the counters were before. -/

namespace ResourceClient

open Dialogue

/-! ## Outcomes that may be repeated -/

namespace RetryPolicy

/-- Whether another attempt may follow one with this outcome. -/
inductive MayRepeat (p : RetryPolicy) : Attempt → Prop where
  /-- The status of the reply asks for a repetition. -/
  | reply {r : Http.Response} (hcode : r.status ∈ p.codes) : MayRepeat p (.ok r)
  /-- There was no answer in time, and there is a budget for that. -/
  | timeout {e : Error} (he : e.kind = .readTimeout) (hread : p.read ≠ 0) : MayRepeat p (.error e)
  /-- The connection was lost, and there is a budget for that. -/
  | lost {e : Error} (he : e.kind = .connection) (hconnect : p.connect ≠ 0) :
    MayRepeat p (.error e)

/-- An attempt that is followed by another may be repeated. -/
theorem mayRepeat_of_again {p : RetryPolicy} {t t' : RetryTracker} {outcome : Attempt}
    (h : p.verdict t outcome = .again t') : p.MayRepeat outcome := by
  obtain ⟨⟨hkind, hcode⟩, hcounted, hbudgets⟩ := verdict_eq_again_iff.mp h
  obtain ⟨-, hread, hconnect⟩ := RetryTracker.counted?_eq_some_iff.mp hcounted
  obtain ⟨-, -, hreadBudget, hconnectBudget⟩ :=
    RetryTracker.withinBudgets?_eq_some_true_iff.mp hbudgets
  cases Attempt.kind_of outcome with
  | reply r => exact .reply (hcode r rfl)
  | timeout he =>
    refine .timeout he fun hzero => ?_
    -- with no budget, the counter would be one at least
    have hcount : t'.read.toNat = t.read.toNat + 1 := by simpa [Attempt.isTimeout, he] using hread
    rw [hzero, UInt32.toNat_zero] at hreadBudget
    omega
  | lost he =>
    refine .lost he fun hzero => ?_
    have hcount : t'.connect.toNat = t.connect.toNat + 1 := by
      simpa [Attempt.isLost, he] using hconnect
    rw [hzero, UInt32.toNat_zero] at hconnectBudget
    omega
  | other hread' hconnect' => exact absurd hkind (not_isCounted hread' hconnect')

/-! ## Attempts that are not sent -/

/-- Attempts that are over before anything is sent come to the outcome that
    they have. -/
theorem runs_attempts_done {p : RetryPolicy} {first outcome : Attempt} {more : Nat}
    {t : RetryTracker} {turns : List Turn}
    (h : Runs (p.attempts (.done first) more t) turns outcome) :
    turns = [] ∧ outcome = first := by
  induction more generalizing t with
  | zero => exact runs_done_iff.1 h
  | succ more ih =>
    obtain ⟨first', turns₁, turns₂, rfl, hfirst, hrest⟩ := runs_attempts_succ h
    obtain ⟨rfl, rfl⟩ := runs_done_iff.1 hfirst
    rcases hrest with ⟨t', -, hrest⟩ | hends
    · exact ih hrest
    · exact hends

end RetryPolicy

namespace Client

/-- What a request that cannot be sent fails with. -/
theorem kind_of_prepare_eq_error {config : ClientConfig} {r : Http.Request} {e : Error}
    (h : prepare config r = .error e) : ∃ message, e.kind = .configuration message := by
  unfold prepare at h
  cases hurl : requestUrl r.url with
  | error fault =>
    rw [hurl] at h
    cases h
    unfold requestUrl at hurl
    split at hurl
    · cases hurl
      exact ⟨_, rfl⟩
    · split at hurl
      · cases hurl
      · cases hurl
        exact ⟨_, rfl⟩
  | ok u =>
    rw [hurl] at h
    simp only [Bind.bind, Except.bind] at h
    split at h
    · cases h
      exact ⟨_, rfl⟩
    · cases h

/-- A request that can be sent does not fail before. -/
theorem prepare_ne_error (config : ClientConfig) {r : Http.Request} (h : IsReachable r.url)
    (e : Error) : prepare config r ≠ .error e := by
  obtain ⟨sent, hsent, -⟩ := prepare_of_isReachable config h
  simp [hsent]

/-! ## Histories -/

/-- The exchanges of a request and the outcome of its last attempt. -/
inductive History (c : Client) (r : Http.Request) (replayable : Bool) :
    List (Outgoing × Http.Reply) → Attempt → Prop where
  /-- The request cannot be sent. -/
  | unsent {e : Error} (hprepare : prepare c.config r = .error e) :
    History c r replayable [] (.error e)
  /-- The request is sent, and sent again only after what may be repeated. -/
  | sent {sent : Outgoing} {before : List Http.Reply} {last : Http.Reply}
      (hprepare : prepare c.config r = .ok sent)
      (hbefore : ∀ reply ∈ before, (c.policy replayable).MayRepeat (attemptOf reply)) :
    History c r replayable ((before ++ [last]).map fun reply => (sent, reply)) (attemptOf last)

/-- Attempts are a history. -/
theorem history_of_attempts {c : Client} {r : Http.Request} {replayable : Bool} {sent : Outgoing}
    (hprepare : prepare c.config r = .ok sent) {more : Nat} {t : RetryTracker}
    {turns : List Turn} {outcome : Attempt}
    (h : Runs ((c.policy replayable).attempts (c.send r) more t) turns outcome) :
    ∃ before last, exchanges turns = (before ++ [last]).map (fun reply => (sent, reply)) ∧
      outcome = attemptOf last ∧
      ∀ reply ∈ before, (c.policy replayable).MayRepeat (attemptOf reply) := by
  induction more generalizing t turns with
  | zero =>
    obtain ⟨reply, rfl, rfl⟩ := runs_send hprepare h
    exact ⟨[], reply, rfl, rfl, by simp⟩
  | succ more ih =>
    obtain ⟨first, turns₁, turns₂, rfl, hfirst, hrest⟩ := RetryPolicy.runs_attempts_succ h
    obtain ⟨reply, rfl, rfl⟩ := runs_send hprepare hfirst
    rcases hrest with ⟨t', hverdict, hrest⟩ | ⟨rfl, rfl⟩
    · obtain ⟨before, last, hexchanges, rfl, hbefore⟩ := ih hrest
      have hmay := RetryPolicy.mayRepeat_of_again hverdict
      refine ⟨reply :: before, last, ?_, rfl, List.forall_mem_cons.2 ⟨hmay, hbefore⟩⟩
      rw [exchanges_append, hexchanges]
      rfl
    · exact ⟨[], reply, rfl, rfl, by simp⟩

/-- Every run of a request is a history. -/
theorem history_of_runs {c : Client} {r : Http.Request} {replayable : Bool} {turns : List Turn}
    {outcome : Attempt} (h : Runs (c.execute r replayable) turns outcome) :
    c.History r replayable (exchanges turns) outcome := by
  cases hprepare : prepare c.config r with
  | error e =>
    have hsend : c.send r = .done (.error e) := by
      unfold send
      rw [hprepare]
    unfold execute RetryPolicy.execute at h
    rw [hsend] at h
    obtain ⟨rfl, rfl⟩ := RetryPolicy.runs_attempts_done h
    exact .unsent hprepare
  | ok sent =>
    obtain ⟨before, last, hexchanges, rfl, hbefore⟩ :=
      history_of_attempts hprepare h
    rw [hexchanges]
    exact .sent hprepare hbefore

/-- A request for a path of the project comes to what its last attempt comes
    to. -/
theorem history_of_runs_request {c : Client} {method : Http.Method} {path : String}
    {query : List (String × String)} {body : Option Json} {turns : List Turn}
    {result : Result Http.Response} (h : Runs (c.request method path query body) turns result) :
    ∃ outcome, c.History (c.requestFor method path query body) (Http.mayReplay method path)
      (exchanges turns) outcome ∧ result = successful outcome := by
  obtain ⟨outcome, hexecute, rfl⟩ := execute_of_runs_request h
  exact ⟨outcome, history_of_runs hexecute, rfl⟩

section history

variable {c : Client} {r : Http.Request} {replayable : Bool}
  {sent : List (Outgoing × Http.Reply)} {outcome : Attempt}

/-- All exchanges but the last one ended in what may be repeated. -/
theorem History.mayRepeat (h : c.History r replayable sent outcome)
    {earlier : List (Outgoing × Http.Reply)} {last : Outgoing × Http.Reply}
    (hsplit : sent = earlier ++ [last]) :
    ∀ e ∈ earlier, (c.policy replayable).MayRepeat (attemptOf e.2) := by
  cases h with
  | unsent hprepare => simp at hsplit
  | sent hprepare hbefore =>
    rw [List.map_append] at hsplit
    obtain ⟨rfl, -⟩ := List.append_inj' hsplit rfl
    intro e he
    obtain ⟨reply, hreply, rfl⟩ := List.mem_map.1 he
    exact hbefore reply hreply

/-- Whatever is sent for a request is sent for it. -/
theorem History.isSentFor (h : c.History r replayable sent outcome) :
    ∀ e ∈ sent, IsSentFor r e.1 := by
  cases h with
  | unsent hprepare => simp
  | sent hprepare hbefore =>
    intro e he
    obtain ⟨reply, -, rfl⟩ := List.mem_map.1 he
    exact isSentFor_of_prepare hprepare

/-- A request that can be sent is sent. -/
theorem History.exists_cons (h : c.History r replayable sent outcome) (hreach : IsReachable r.url) :
    ∃ request reply later, sent = (request, reply) :: later ∧ IsSentFor r request := by
  cases h with
  | unsent hprepare => exact absurd hprepare (prepare_ne_error _ hreach _)
  | @sent request before last hprepare _ =>
    cases before with
    | nil => exact ⟨request, last, [], rfl, isSentFor_of_prepare hprepare⟩
    | cons first before => exact ⟨request, first, _, rfl, isSentFor_of_prepare hprepare⟩

/-- A request that can be sent ends like its exchanges if these all end the
    same. -/
theorem History.outcome_eq (h : c.History r replayable sent outcome) (hreach : IsReachable r.url)
    {reply : Http.Reply} (hreply : ∀ e ∈ sent, IsSentFor r e.1 → e.2 = reply) :
    outcome = attemptOf reply := by
  cases h with
  | unsent hprepare => exact absurd hprepare (prepare_ne_error _ hreach _)
  | @sent out before last hprepare _ =>
    have hlast : (out, last) ∈ (before ++ [last]).map fun reply => (out, reply) :=
      List.mem_map_of_mem (List.mem_append_right before (List.mem_singleton_self last))
    exact congrArg attemptOf (hreply (out, last) hlast (isSentFor_of_prepare hprepare))

/-- A request that ends with a response was sent, and the response is the
    last reply. -/
theorem History.before_of_ok (h : c.History r replayable sent outcome)
    {response : Http.Response} (houtcome : outcome = .ok response) :
    ∃ request before, sent = (before ++ [.response response]).map (fun reply => (request, reply)) ∧
      ∀ reply ∈ before, (c.policy replayable).MayRepeat (attemptOf reply) := by
  cases h with
  | unsent hprepare => cases houtcome
  | @sent request before last hprepare hbefore =>
    refine ⟨request, before, ?_, hbefore⟩
    cases last <;> cases houtcome
    rfl

/-- A request ends like the last of its exchanges. -/
theorem History.outcome_eq_last (earlier : List (Outgoing × Http.Reply)) {request : Outgoing}
    {reply : Http.Reply} (h : c.History r replayable (earlier ++ [(request, reply)]) outcome) :
    outcome = attemptOf reply := by
  generalize hsent : earlier ++ [(request, reply)] = sent at h
  cases h with
  | unsent hprepare => simp at hsent
  | sent hprepare hbefore =>
    rw [List.map_append] at hsent
    obtain ⟨-, hlast⟩ := List.append_inj' hsent rfl
    cases hlast
    rfl

end history

/-! ## Histories that happen -/

section happening

variable {c : Client} {r : Http.Request} {sent : Outgoing} {p : RetryPolicy} {t t' : RetryTracker}
  {reply : Http.Reply}

theorem runs_send_of_prepare (hprepare : prepare c.config r = .ok sent) (reply : Http.Reply) :
    Runs (c.send r) [answered sent reply] (attemptOf reply) := by
  unfold send
  rw [hprepare]
  exact .ask (q := .exchange sent) reply (.done _)

/-- A request is over with a reply that does not ask for a repetition. -/
theorem runs_attempts_of_final (hprepare : prepare c.config r = .ok sent)
    (hverdict : p.verdict t (attemptOf reply) = .final) (more : Nat) :
    Runs (p.attempts (c.send r) (more + 1) t) [answered sent reply] (attemptOf reply) := by
  refine runs_bind_iff.2 ⟨_, _, [], rfl, runs_send_of_prepare hprepare reply, ?_⟩
  simp only [hverdict]
  exact .done _

/-- A request goes on after a reply that asks for a repetition. -/
theorem runs_attempts_of_again (hprepare : prepare c.config r = .ok sent)
    (hverdict : p.verdict t (attemptOf reply) = .again t') {more : Nat} {turns : List Turn}
    {outcome : Attempt} (h : Runs (p.attempts (c.send r) more t') turns outcome) :
    Runs (p.attempts (c.send r) (more + 1) t) (answered sent reply :: turns) outcome := by
  refine runs_bind_iff.2 ⟨_, _, turns, rfl, runs_send_of_prepare hprepare reply, ?_⟩
  simp only [hverdict]
  exact h

/-- A request that can be sent is over with a reply that does not ask for a
    repetition. -/
theorem exists_comesTo_request {ω : Type} {w : World ω} (method : Http.Method) {path : String}
    (query : List (String × String)) (body : Option Json) {reply : Http.Reply} {x x' : ω}
    (hreach : IsReachable (c.config.projectUrl ++ path))
    (hserve : ∀ sent, w.serve sent x = (reply, x'))
    (hfinal : (c.policy (Http.mayReplay method path)).verdict {} (attemptOf reply) = .final) :
    ∃ sent, ComesTo w (c.request method path query body) x [(sent, reply)]
      (successful (attemptOf reply)) x' := by
  obtain ⟨sent, hsent, -⟩ :=
    prepare_of_isReachable c.config (r := c.requestFor method path query body) hreach
  have hask : c.send (c.requestFor method path query body) =
      .ask (.exchange sent) fun reply => .done (attemptOf reply) := by
    unfold send
    rw [hsent]
    rfl
  have hsend : ComesTo w (c.send (c.requestFor method path query body)) x [(sent, reply)]
      (attemptOf reply) x' := by
    rw [hask]
    constructor
    · show some (attemptOf (w.serve sent x).1, (w.serve sent x).2) = _
      rw [hserve]
    · show [(sent, (w.serve sent x).1)] = _
      rw [hserve]
  -- the first verdict ends the loop
  have hexecute : ComesTo w (c.execute (c.requestFor method path query body)
      (Http.mayReplay method path)) x [(sent, reply)] (attemptOf reply) x' := by
    have hrepetitions : RetryPolicy.maxRepetitions = RetryPolicy.maxRepetitions - 1 + 1 := rfl
    unfold execute RetryPolicy.execute
    rw [hrepetitions, RetryPolicy.attempts]
    refine hsend.bind_done ?_
    simp only [hfinal]
    rfl
  refine ⟨sent, ?_⟩
  unfold request
  exact hexecute.bind_done rfl

/-- Every reply that does not ask for a repetition is an end of the request
    that can be sent. -/
theorem exists_runs_request_of_final (method : Http.Method) {path : String}
    (query : List (String × String)) (body : Option Json) (reply : Http.Reply)
    (hreach : IsReachable (c.config.projectUrl ++ path))
    (hfinal : (c.policy (Http.mayReplay method path)).verdict {} (attemptOf reply) = .final) :
    ∃ turns, Runs (c.request method path query body) turns (successful (attemptOf reply)) := by
  -- in the world that knows no other reply
  let w : World Unit := { serve := fun _ x => (reply, x) }
  obtain ⟨sent, hrequest⟩ :=
    exists_comesTo_request (w := w) (x := ()) method query body hreach (fun _ => rfl) hfinal
  exact ⟨_, runs_of_run hrequest.run_eq⟩

end happening

end Client

end ResourceClient
