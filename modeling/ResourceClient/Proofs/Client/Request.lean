import Mathlib
import ResourceClient.Client.Basic
import ResourceClient.Proofs.Dialogue.Totality
import ResourceClient.Proofs.Json.RoundTrip

/-! # What a request comes to

    A request that can be sent is sent once or several times over, always
    the same, and comes to what its last attempt ended in
    (`Client.runs_request`).  How often it is sent is the matter of the retry
    policy; nothing here depends on it.

    Requests are total: whatever is shown of their runs is shown of runs
    that exist in every world. -/

namespace ResourceClient

open Dialogue

/-! ## Requests are never abandoned -/

theorem RetryPolicy.total_attempts (p : RetryPolicy) {attempt : Dialogue Attempt}
    (h : attempt.Total) (more : Nat) (t : RetryTracker) : (p.attempts attempt more t).Total := by
  induction more generalizing t with
  | zero => exact h
  | succ more ih =>
    refine h.bind fun outcome => ?_
    cases p.verdict t outcome with
    | final => exact .done outcome
    | again t' => exact ih t'
    | overflow => exact .done outcome

/-- The attempts made are a first one and those after it, if the loop goes
    on, or else this one. -/
theorem RetryPolicy.runs_attempts_succ {p : RetryPolicy} {attempt : Dialogue Attempt}
    {more : Nat} {t : RetryTracker} {turns : List Turn} {outcome : Attempt}
    (h : Runs (p.attempts attempt (more + 1) t) turns outcome) :
    ∃ first turns₁ turns₂, turns = turns₁ ++ turns₂ ∧ Runs attempt turns₁ first ∧
      ((∃ t', p.verdict t first = .again t' ∧ Runs (p.attempts attempt more t') turns₂ outcome) ∨
        turns₂ = [] ∧ outcome = first) := by
  obtain ⟨first, turns₁, turns₂, rfl, hfirst, hrest⟩ := runs_bind_iff.1 h
  refine ⟨first, turns₁, turns₂, rfl, hfirst, ?_⟩
  cases hverdict : p.verdict t first with
  | final =>
    simp only [hverdict] at hrest
    exact Or.inr (runs_done_iff.1 hrest)
  | again t' =>
    simp only [hverdict] at hrest
    exact Or.inl ⟨t', rfl, hrest⟩
  | overflow =>
    simp only [hverdict] at hrest
    exact Or.inr (runs_done_iff.1 hrest)

/-- Whatever is exchanged in attempts is exchanged in one of them. -/
theorem RetryPolicy.mem_exchanges_attempts {p : RetryPolicy} {attempt : Dialogue Attempt}
    {more : Nat} {t : RetryTracker} {turns : List Turn} {outcome : Attempt}
    (h : Runs (p.attempts attempt more t) turns outcome) {e : Outgoing × Http.Reply}
    (he : e ∈ exchanges turns) :
    ∃ turns' outcome', Runs attempt turns' outcome' ∧ e ∈ exchanges turns' := by
  induction more generalizing t turns with
  | zero => exact ⟨turns, outcome, h, he⟩
  | succ more ih =>
    obtain ⟨first, turns₁, turns₂, rfl, hfirst, hrest⟩ := runs_attempts_succ h
    rw [exchanges_append, List.mem_append] at he
    rcases he with hhere | hlater
    · exact ⟨turns₁, first, hfirst, hhere⟩
    · rcases hrest with ⟨t', -, hrest⟩ | ⟨rfl, -⟩
      · exact ih hrest hlater
      · simp at hlater

namespace Client

theorem total_send (c : Client) (r : Http.Request) : (c.send r).Total := by
  unfold send
  split
  · exact .done _
  · exact (total_exchange _).bind fun reply => .done (attemptOf reply)

theorem total_request (c : Client) (method : Http.Method) (path : String)
    (query : List (String × String)) (body : Option Json) :
    (c.request method path query body).Total :=
  ((c.policy _).total_attempts (c.total_send _) _ _).bind fun outcome => .done (successful outcome)

/-! ## The runs of a request -/

/-- The turn in which a request is sent and comes to a reply. -/
def answered (sent : Outgoing) (reply : Http.Reply) : Turn := ⟨.exchange sent, reply⟩

@[simp] theorem exchanges_map_answered (sent : Outgoing) (replies : List Http.Reply) :
    exchanges (replies.map (answered sent)) = replies.map fun reply => (sent, reply) := by
  induction replies with
  | nil => rfl
  | cons reply rest ih => exact congrArg ((sent, reply) :: ·) ih

theorem runs_send {c : Client} {r : Http.Request} {sent : Outgoing}
    (hsent : prepare c.config r = .ok sent) {turns : List Turn} {outcome : Attempt}
    (h : Runs (c.send r) turns outcome) :
    ∃ reply, turns = [answered sent reply] ∧ outcome = attemptOf reply := by
  unfold send at h
  rw [hsent] at h
  obtain ⟨reply, rest, rfl, hrest⟩ := runs_ask_iff.1 h
  obtain ⟨rfl, rfl⟩ := runs_done_iff.1 hrest
  exact ⟨reply, rfl, rfl⟩

/-- Attempts are exchanges of the same request, and end in the last of
    them. -/
theorem runs_attempts {c : Client} {r : Http.Request} {sent : Outgoing}
    (hsent : prepare c.config r = .ok sent) {p : RetryPolicy} {more : Nat} {t : RetryTracker}
    {turns : List Turn} {outcome : Attempt}
    (h : Runs (p.attempts (c.send r) more t) turns outcome) :
    ∃ before reply, turns = (before ++ [reply]).map (answered sent) ∧
      outcome = attemptOf reply := by
  induction more generalizing t turns with
  | zero =>
    obtain ⟨reply, rfl, rfl⟩ := runs_send hsent h
    exact ⟨[], reply, rfl, rfl⟩
  | succ more ih =>
    obtain ⟨first, turns₁, turns₂, rfl, hfirst, hrest⟩ := RetryPolicy.runs_attempts_succ h
    obtain ⟨reply, rfl, rfl⟩ := runs_send hsent hfirst
    rcases hrest with ⟨t', -, hrest⟩ | ⟨rfl, rfl⟩
    · obtain ⟨before, last, rfl, rfl⟩ := ih hrest
      exact ⟨reply :: before, last, rfl, rfl⟩
    · -- the first exchange is the last one
      exact ⟨[], reply, rfl, rfl⟩

/-- A request for a path of the project is its attempts, under the policy for
    its method and its path, and comes to what they come to. -/
theorem execute_of_runs_request {c : Client} {method : Http.Method} {path : String}
    {query : List (String × String)} {body : Option Json} {turns : List Turn}
    {result : Result Http.Response} (h : Runs (c.request method path query body) turns result) :
    ∃ outcome, Runs (c.execute (c.requestFor method path query body)
      (Http.mayReplay method path)) turns outcome ∧ result = successful outcome := by
  obtain ⟨outcome, before, after, rfl, hexecute, hdone⟩ := runs_bind_iff.1 h
  obtain ⟨rfl, rfl⟩ := runs_done_iff.1 hdone
  rw [List.append_nil]
  exact ⟨outcome, hexecute, rfl⟩

/-- A request that can be sent comes to what the last of its exchanges says,
    and all its exchanges are of that request. -/
theorem runs_request {c : Client} {method : Http.Method} {path : String}
    {query : List (String × String)} {body : Option Json} {sent : Outgoing}
    (hsent : prepare c.config (c.requestFor method path query body) = .ok sent)
    {turns : List Turn} {result : Result Http.Response}
    (h : Runs (c.request method path query body) turns result) :
    ∃ before reply, exchanges turns = (before ++ [reply]).map (fun reply => (sent, reply)) ∧
      result = successful (attemptOf reply) := by
  obtain ⟨outcome, hattempts, rfl⟩ := execute_of_runs_request h
  obtain ⟨before, reply, rfl, rfl⟩ := runs_attempts hsent hattempts
  exact ⟨before, reply, exchanges_map_answered sent _, rfl⟩

/-! ## Requests that are answered -/

/-- A URL at which requests can be sent. -/
def IsReachable (url : String) : Prop := ∃ u, requestUrl url = .ok u ∧ u.isWeb = true

instance (url : String) : Decidable (IsReachable url) :=
  decidable_of_iff ((requestUrl url).toOption.any Url.isWeb = true) (by
    unfold IsReachable
    cases requestUrl url with
    | ok u => simp [Except.toOption]
    | error e => simp [Except.toOption])

/-- What is sent for a request: the request, with headers of its own. -/
def IsSentFor (r : Http.Request) (sent : Outgoing) : Prop :=
  ∃ headers, sent.request = { r with headers }

/-- A prepared request is sent for the request that was prepared. -/
theorem isSentFor_of_prepare {config : ClientConfig} {r : Http.Request} {sent : Outgoing}
    (h : prepare config r = .ok sent) : IsSentFor r sent := by
  unfold prepare at h
  cases hurl : requestUrl r.url with
  | error e =>
    rw [hurl] at h
    cases h
  | ok u =>
    rw [hurl] at h
    simp only [Bind.bind, Except.bind] at h
    split at h
    · cases h
    · cases h
      exact ⟨_, rfl⟩

/-- Whatever is exchanged for a request is sent for it, whether the request
    can be sent or not. -/
theorem isSentFor_of_mem_exchanges {c : Client} {method : Http.Method} {path : String}
    {query : List (String × String)} {body : Option Json} {turns : List Turn}
    {result : Result Http.Response} (h : Runs (c.request method path query body) turns result)
    {e : Outgoing × Http.Reply} (he : e ∈ exchanges turns) :
    IsSentFor (c.requestFor method path query body) e.1 := by
  obtain ⟨outcome, turns₁, turns₂, rfl, hattempts, hdone⟩ := runs_bind_iff.1 h
  obtain ⟨rfl, -⟩ := runs_done_iff.1 hdone
  rw [List.append_nil] at he
  obtain ⟨turns', outcome', hsend, he'⟩ := RetryPolicy.mem_exchanges_attempts hattempts he
  cases hprepare : prepare c.config (c.requestFor method path query body) with
  | error fault =>
    -- the attempt fails before anything is sent
    unfold send at hsend
    rw [hprepare] at hsend
    obtain ⟨rfl, -⟩ := runs_done_iff.1 hsend
    simp at he'
  | ok sent =>
    obtain ⟨reply, rfl, -⟩ := runs_send hprepare hsend
    obtain rfl : e = (sent, reply) := List.mem_singleton.1 he'
    exact isSentFor_of_prepare hprepare

theorem prepare_of_isReachable (config : ClientConfig) {r : Http.Request}
    (h : IsReachable r.url) : ∃ sent, prepare config r = .ok sent ∧ IsSentFor r sent := by
  obtain ⟨u, hurl, hweb⟩ := h
  unfold prepare
  rw [hurl]
  simp only [Bind.bind, Except.bind, hweb, Bool.not_true, Bool.false_eq_true, if_false]
  exact ⟨_, rfl, _, rfl⟩

/-- Whether a reply is a success with a property. -/
def IsAnswer (p : Http.Response → Prop) (reply : Http.Reply) : Prop :=
  ∃ response, reply = .response response ∧ response.isSuccess = true ∧ p response

/-- A request whose exchanges are all answered comes to an answer, however
    often it is repeated. -/
theorem runs_request_of_isAnswer {c : Client} {method : Http.Method} {path : String}
    {query : List (String × String)} {body : Option Json}
    (hreach : IsReachable (c.config.projectUrl ++ path)) {turns : List Turn}
    {result : Result Http.Response} (h : Runs (c.request method path query body) turns result)
    {p : Http.Response → Prop}
    (hanswer : ∀ sent reply, (sent, reply) ∈ exchanges turns →
      IsSentFor (c.requestFor method path query body) sent → IsAnswer p reply) :
    ∃ response, result = .ok response ∧ p response := by
  obtain ⟨sent, hsent, hfor⟩ :=
    prepare_of_isReachable c.config (r := c.requestFor method path query body) hreach
  obtain ⟨before, reply, hexchanges, rfl⟩ := runs_request hsent h
  -- the exchange that the result comes from is one of those answered
  have hmem : (sent, reply) ∈ exchanges turns := by
    rw [hexchanges]
    exact List.mem_map_of_mem (List.mem_append_right before (List.mem_singleton_self reply))
  obtain ⟨response, rfl, hsuccess, hp⟩ := hanswer sent reply hmem hfor
  refine ⟨response, ?_, hp⟩
  show successful (.ok response) = _
  rw [successful, if_pos hsuccess]

/-- In a world that answers it, a request comes to an answer. -/
theorem run_request_of_isAnswer {ω : Type} {w : World ω} {c : Client} {method : Http.Method}
    {path : String} {query : List (String × String)} {body : Option Json}
    (hreach : IsReachable (c.config.projectUrl ++ path)) {p : Http.Response → Prop}
    (hanswer : ∀ sent x, IsSentFor (c.requestFor method path query body) sent →
      IsAnswer p (w.serve sent x).1)
    (x : ω) :
    ∃ response x', (c.request method path query body).run w x = some (.ok response, x') ∧
      p response := by
  obtain ⟨result, x', hrun⟩ := run_of_total w (c.total_request method path query body) x
  have hserved : ∀ sent reply,
      (sent, reply) ∈ exchanges (Dialogue.turns w (c.request method path query body) x) →
      IsSentFor (c.requestFor method path query body) sent → IsAnswer p reply := by
    intro sent reply hmem hrequest
    obtain ⟨x₁, x₂, hserve⟩ := exists_serve_of_mem_exchanges hmem
    have hreply := hanswer sent x₁ hrequest
    rwa [hserve] at hreply
  obtain ⟨response, rfl, hp⟩ := runs_request_of_isAnswer hreach (runs_of_run hrun) hserved
  exact ⟨response, x', hrun, hp⟩

/-! ## A client and its replies -/

/-- A client without anything particular. -/
def plain : Client where
  config :=
    { baseUrl := { scheme := "http", host := some "h", path := .segments [""] }
      project := "p" }
  headers := .empty

example : IsReachable (plain.config.projectUrl ++ "/assets/list") := by decide +kernel

/-- The reply with a JSON value. -/
def jsonReply (v : Json) : Http.Response where
  status := 200
  headers := .empty
  body := v.render.toUTF8

theorem json_jsonReply {v : Json} (h : Json.Plain Json.maxDepth v) :
    (jsonReply v).json = .ok v := by
  unfold Http.Response.json
  rw [jsonReply, Json.parseBytes_toUTF8, Json.parse_render h]

end Client

end ResourceClient
