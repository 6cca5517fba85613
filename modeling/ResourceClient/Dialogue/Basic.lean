import ResourceClient.Http.Message

/-! # Dialogues with a server

    What the client does is a dialogue: it puts a question to the world
    outside, goes on with the answer, and in the end has a value.  There are
    three kinds of question: what a request comes to, which of several tasks
    that run side by side moves next, and what the clock shows.  A dialogue
    decides nothing about the answers, so that whatever holds of all of its
    `Runs` holds for every server, every order of completion and every
    clock.

    A dialogue that might never end, such as one that reads a listing to its
    end, is given a budget and is abandoned when that is used up.  An
    abandoned dialogue puts a question that has no answer: it has no runs,
    and whatever is said of all runs is said of those that end.

    `Dialogue.run` lets a `World` give the answers.  It is the semantics
    that a program executes, and each of its runs is one of the `Runs`. -/

namespace ResourceClient

/-- A request as it is sent. -/
structure Outgoing where
  /-- The request. -/
  request : Http.Request
  /-- The path and the query that are asked for. -/
  target : String
  /-- Whether the body is compressed. -/
  gzip : Bool

/-- What a dialogue may ask. -/
inductive Question where
  /-- What a request comes to. -/
  | exchange (sent : Outgoing)
  /-- Which of `others + 1` tasks moves next. -/
  | choice (others : Nat)
  /-- How many milliseconds the clock shows. -/
  | clock
  /-- How to go on without a budget, which has no answer. -/
  | abandon

/-- The answers to a question. -/
def Question.Answer : Question → Type
  | exchange _ => Http.Reply
  | choice others => Fin (others + 1)
  | clock => Nat
  | abandon => Empty

/-- A computation that asks questions. -/
inductive Dialogue (α : Type) where
  /-- The end of a dialogue. -/
  | done (value : α)
  /-- A question, and how the dialogue goes on after each answer. -/
  | ask (question : Question) (next : question.Answer → Dialogue α)

namespace Dialogue

/-- A dialogue that is followed by another. -/
def bind {α β : Type} : Dialogue α → (α → Dialogue β) → Dialogue β
  | done a, f => f a
  | ask q next, f => ask q fun answer => (next answer).bind f

instance : Monad Dialogue where
  pure := done
  bind := bind

@[simp] theorem pure_eq {α : Type} (a : α) : (pure a : Dialogue α) = done a := rfl

@[simp] theorem bind_eq {α β : Type} (d : Dialogue α) (f : α → Dialogue β) :
    d >>= f = d.bind f := rfl

@[simp] theorem bind_done {α β : Type} (a : α) (f : α → Dialogue β) :
    (done a).bind f = f a := rfl

@[simp] theorem bind_ask {α β : Type} (q : Question) (next : q.Answer → Dialogue α)
    (f : α → Dialogue β) :
    (ask q next).bind f = ask q fun answer => (next answer).bind f := rfl

theorem bind_pure {α : Type} (d : Dialogue α) : d.bind done = d := by
  induction d with
  | done a => rfl
  | ask q next ih => simp [ih]

theorem bind_assoc {α β γ : Type} (d : Dialogue α) (f : α → Dialogue β) (g : β → Dialogue γ) :
    (d.bind f).bind g = d.bind fun a => (f a).bind g := by
  induction d with
  | done a => rfl
  | ask q next ih => simp [ih]

instance : LawfulMonad Dialogue :=
  LawfulMonad.mk' Dialogue (fun d => bind_pure d) (fun _ _ => rfl) bind_assoc

/-- Sends a request and waits for what it comes to. -/
def exchange (sent : Outgoing) : Dialogue Http.Reply := ask (.exchange sent) done

/-- Reads the clock, in milliseconds. -/
def readClock : Dialogue Nat := ask .clock done

/-- The dialogue whose budget is used up. -/
def abandoned {α : Type} : Dialogue α := ask .abandon Empty.elim

/-! ## Runs -/

/-- A question with its answer. -/
structure Turn where
  /-- The question. -/
  question : Question
  /-- Its answer. -/
  answer : question.Answer

/-- The turns and the value of one way through a dialogue. -/
inductive Runs {α : Type} : Dialogue α → List Turn → α → Prop where
  /-- The end. -/
  | done (a : α) : Runs (.done a) [] a
  /-- Any answer to the question. -/
  | ask {q : Question} {next : q.Answer → Dialogue α} (answer : q.Answer) {turns : List Turn}
      {a : α} (rest : Runs (next answer) turns a) : Runs (.ask q next) (⟨q, answer⟩ :: turns) a

theorem runs_done_iff {α : Type} {a b : α} {turns : List Turn} :
    Runs (.done a) turns b ↔ turns = [] ∧ b = a := by
  constructor
  · rintro ⟨⟩; exact ⟨rfl, rfl⟩
  · rintro ⟨rfl, rfl⟩; exact .done b

theorem runs_ask_iff {α : Type} {q : Question} {next : q.Answer → Dialogue α} {turns : List Turn}
    {a : α} :
    Runs (.ask q next) turns a ↔
      ∃ answer rest, turns = ⟨q, answer⟩ :: rest ∧ Runs (next answer) rest a := by
  constructor
  · rintro ⟨⟩
    exact ⟨_, _, rfl, ‹_›⟩
  · rintro ⟨answer, rest, rfl, h⟩
    exact .ask answer h

/-- An abandoned dialogue has no runs. -/
theorem not_runs_abandoned {α : Type} {turns : List Turn} {a : α} :
    ¬ Runs (abandoned : Dialogue α) turns a := by
  intro h
  obtain ⟨answer, _⟩ := runs_ask_iff.1 h
  exact Empty.elim answer

/-- A run of a dialogue that is followed by another is a run of each, one after the other. -/
theorem runs_bind_iff {α β : Type} {d : Dialogue α} {f : α → Dialogue β} {turns : List Turn}
    {b : β} :
    Runs (d.bind f) turns b ↔
      ∃ a before after, turns = before ++ after ∧ Runs d before a ∧ Runs (f a) after b := by
  induction d generalizing turns with
  | done a =>
    constructor
    · intro h
      exact ⟨a, [], turns, rfl, .done a, h⟩
    · rintro ⟨a', before, after, rfl, h₁, h₂⟩
      obtain ⟨rfl, rfl⟩ := runs_done_iff.1 h₁
      exact h₂
  | ask q next ih =>
    rw [bind_ask, runs_ask_iff]
    constructor
    · rintro ⟨answer, rest, rfl, h⟩
      obtain ⟨a, before, after, rfl, h₁, h₂⟩ := (ih answer).1 h
      exact ⟨a, ⟨q, answer⟩ :: before, after, rfl, .ask answer h₁, h₂⟩
    · rintro ⟨a, before, after, rfl, h₁, h₂⟩
      obtain ⟨answer, rest, rfl, h⟩ := runs_ask_iff.1 h₁
      exact ⟨answer, rest ++ after, rfl, (ih answer).2 ⟨a, rest, after, rfl, h, h₂⟩⟩

/-- The requests that were sent in a run, with what they came to. -/
def exchanges : List Turn → List (Outgoing × Http.Reply)
  | [] => []
  | ⟨.exchange sent, reply⟩ :: rest => (sent, reply) :: exchanges rest
  | _ :: rest => exchanges rest

@[simp] theorem exchanges_nil : exchanges [] = [] := rfl

@[simp] theorem exchanges_append (xs ys : List Turn) :
    exchanges (xs ++ ys) = exchanges xs ++ exchanges ys := by
  induction xs with
  | nil => rfl
  | cons turn rest ih =>
    obtain ⟨q, answer⟩ := turn
    cases q <;> simp [exchanges, ih]

/-! ## Worlds -/

/-- Who gives the answers, from a state of its own. -/
structure World (σ : Type) where
  /-- What a request comes to. -/
  serve : Outgoing → σ → Http.Reply × σ
  /-- Which task moves next. -/
  pick : (others : Nat) → σ → Fin (others + 1) × σ := fun _ s => (0, s)
  /-- What the clock shows. -/
  time : σ → Nat × σ := fun s => (0, s)

/-- The answer to a question, if it has one. -/
def World.answer? {σ : Type} (w : World σ) : (q : Question) → σ → Option (q.Answer × σ)
  | .exchange sent, s => some (w.serve sent s)
  | .choice others, s => some (w.pick others s)
  | .clock, s => some (w.time s)
  | .abandon, _ => none

/-- What a dialogue comes to in a world: its value and the state of the world
    after it, unless it is abandoned. -/
def run {α σ : Type} (w : World σ) : Dialogue α → σ → Option (α × σ)
  | .done a, s => some (a, s)
  | .ask q next, s =>
    match w.answer? q s with
    | some (answer, s) => run w (next answer) s
    | none => none

/-- The turns that a dialogue takes in a world. -/
def turns {α σ : Type} (w : World σ) : Dialogue α → σ → List Turn
  | .done _, _ => []
  | .ask q next, s =>
    match w.answer? q s with
    | some (answer, s) => ⟨q, answer⟩ :: turns w (next answer) s
    | none => []

theorem runs_of_run {α σ : Type} {w : World σ} {d : Dialogue α} {s s' : σ} {a : α}
    (h : run w d s = some (a, s')) : Runs d (turns w d s) a := by
  induction d generalizing s with
  | done b =>
    simp only [run, Option.some.injEq, Prod.mk.injEq] at h
    exact h.1 ▸ .done b
  | ask q next ih =>
    rw [run] at h
    rw [turns]
    cases hq : w.answer? q s with
    | none => simp [hq] at h
    | some answered =>
      simp only [hq] at h ⊢
      exact .ask _ (ih _ h)

@[simp] theorem run_done {α σ : Type} (w : World σ) (a : α) (s : σ) :
    run w (.done a) s = some (a, s) := rfl

@[simp] theorem run_abandoned {α σ : Type} (w : World σ) (s : σ) :
    run w (abandoned : Dialogue α) s = none := rfl

theorem run_bind {α β σ : Type} (w : World σ) (d : Dialogue α) (f : α → Dialogue β) (s : σ) :
    run w (d.bind f) s = (run w d s).bind fun r => run w (f r.1) r.2 := by
  induction d generalizing s with
  | done a => rfl
  | ask q next ih =>
    rw [bind_ask, run, run]
    cases w.answer? q s with
    | none => rfl
    | some answered => exact ih _ _

end Dialogue

end ResourceClient
