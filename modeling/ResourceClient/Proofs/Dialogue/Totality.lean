import Mathlib
import ResourceClient.Dialogue.Basic

/-! # Dialogues that are never abandoned

    A total dialogue puts only questions that have answers.  In every world
    it comes to a value (`run_of_total`), so that whatever is shown of all
    runs of a total dialogue is shown of a run that exists.  The exchanges
    of this run are answered by the world (`exists_serve_of_mem_exchanges`).

    Totality follows the way in which dialogues are put together, and so does
    what a dialogue comes to in one world, with its exchanges (`ComesTo`). -/

namespace ResourceClient

namespace Dialogue

variable {α β : Type}

/-- A dialogue that is not abandoned, whatever the answers are. -/
inductive Total : Dialogue α → Prop where
  /-- It is at its end. -/
  | done (a : α) : Total (.done a)
  /-- It puts a question that has answers, and goes on. -/
  | ask {q : Question} {next : q.Answer → Dialogue α} (hq : q ≠ .abandon)
      (hnext : ∀ a, Total (next a)) : Total (.ask q next)

theorem total_exchange (sent : Outgoing) : Total (exchange sent) :=
  .ask (by simp) fun a => .done a

theorem Total.bind {d : Dialogue α} {f : α → Dialogue β} (hd : Total d)
    (hf : ∀ a, Total (f a)) : Total (d.bind f) := by
  induction hd with
  | done a => exact hf a
  | ask hq _ ih => exact .ask hq ih

/-- A total dialogue comes to a value in every world. -/
theorem run_of_total {σ : Type} (w : World σ) {d : Dialogue α} (h : Total d) (s : σ) :
    ∃ a s', run w d s = some (a, s') := by
  induction h generalizing s with
  | done a => exact ⟨a, s, rfl⟩
  | @ask q next hq _ ih =>
    rw [run]
    cases q with
    | abandon => exact absurd rfl hq
    | exchange sent => exact ih _ _
    | choice others => exact ih _ _
    | clock => exact ih _ _

/-- The turns of a dialogue that is followed by another are those of both. -/
theorem turns_bind_of_run {σ : Type} {w : World σ} {d : Dialogue α} {f : α → Dialogue β}
    {s s' : σ} {a : α} (h : run w d s = some (a, s')) :
    turns w (d.bind f) s = turns w d s ++ turns w (f a) s' := by
  induction d generalizing s with
  | done b =>
    simp only [run, Option.some.injEq, Prod.mk.injEq] at h
    obtain ⟨rfl, rfl⟩ := h
    rfl
  | ask q next ih =>
    rw [run] at h
    rw [bind_ask, turns, turns]
    cases hq : w.answer? q s with
    | none => simp [hq] at h
    | some answered =>
      simp only [hq] at h ⊢
      rw [ih _ h, List.cons_append]

/-- Looking at the value of a dialogue takes no turns. -/
theorem turns_bind_done {σ : Type} (w : World σ) (d : Dialogue α) (g : α → β) (s : σ) :
    turns w (d.bind fun a => .done (g a)) s = turns w d s := by
  induction d generalizing s with
  | done a => rfl
  | ask q next ih =>
    rw [bind_ask, turns, turns]
    cases w.answer? q s with
    | none => rfl
    | some answered => simp only [ih]

/-- Nothing is asked after a dialogue if no continuation asks anything. -/
theorem turns_bind_of_done {σ : Type} (w : World σ) {d : Dialogue α} {f : α → Dialogue β}
    (hf : ∀ a, ∃ b, f a = .done b) (s : σ) : turns w (d.bind f) s = turns w d s := by
  choose g hg using hf
  obtain rfl : f = fun a => .done (g a) := funext hg
  exact turns_bind_done w d g s

/-- In a world and from a state of it, a dialogue comes to a value with these
    exchanges, and leaves the world in a state. -/
structure ComesTo {σ : Type} (w : World σ) (d : Dialogue α) (s : σ)
    (sent : List (Outgoing × Http.Reply)) (a : α) (s' : σ) : Prop where
  run_eq : run w d s = some (a, s')
  exchanges_eq : exchanges (turns w d s) = sent

section comesTo

variable {σ : Type} {w : World σ} {d : Dialogue α} {f : α → Dialogue β} {s s₁ s' : σ}
  {sent later : List (Outgoing × Http.Reply)} {a : α} {b : β}

theorem comesTo_done (w : World σ) (a : α) (s : σ) : ComesTo w (.done a) s [] a s := ⟨rfl, rfl⟩

/-- Reading the clock sends nothing. -/
theorem comesTo_readClock {now : Nat} (htime : w.time s = (now, s')) :
    ComesTo w readClock s [] now s' where
  run_eq := congrArg some htime
  exchanges_eq := rfl

/-- One dialogue after the other. -/
theorem ComesTo.bind (hd : ComesTo w d s sent a s₁) (hf : ComesTo w (f a) s₁ later b s') :
    ComesTo w (d.bind f) s (sent ++ later) b s' := by
  constructor
  · rw [run_bind, hd.run_eq]
    exact hf.run_eq
  · rw [turns_bind_of_run hd.run_eq, exchanges_append, hd.exchanges_eq, hf.exchanges_eq]

/-- A dialogue after which nothing is asked. -/
theorem ComesTo.bind_done (hd : ComesTo w d s sent a s₁) (hf : f a = .done b) :
    ComesTo w (d.bind f) s sent b s₁ := by
  have hbind := hd.bind (f := f) (hf ▸ comesTo_done w b s₁)
  rwa [List.append_nil] at hbind

/-- In a world and from a state of it, a dialogue takes these exchanges, and
    then another one is what is left of it. -/
structure Passes {σ : Type} (w : World σ) (d : Dialogue α) (s : σ)
    (sent : List (Outgoing × Http.Reply)) (rest : Dialogue α) (s' : σ) : Prop where
  run_eq : run w d s = run w rest s'
  exchanges_eq : exchanges (turns w d s) = sent ++ exchanges (turns w rest s')

theorem Passes.refl (w : World σ) (d : Dialogue α) (s : σ) : Passes w d s [] d s := ⟨rfl, rfl⟩

theorem Passes.trans {d₁ d₂ : Dialogue α} (h : Passes w d s sent d₁ s₁)
    (hlater : Passes w d₁ s₁ later d₂ s') : Passes w d s (sent ++ later) d₂ s' where
  run_eq := h.run_eq.trans hlater.run_eq
  exchanges_eq := by rw [h.exchanges_eq, hlater.exchanges_eq, List.append_assoc]

/-- After a dialogue, what follows it is left. -/
theorem ComesTo.passes (h : ComesTo w d s sent a s₁) (f : α → Dialogue β) :
    Passes w (d.bind f) s sent (f a) s₁ where
  run_eq := by rw [run_bind, h.run_eq]; rfl
  exchanges_eq := by rw [turns_bind_of_run h.run_eq, exchanges_append, h.exchanges_eq]

/-- What is left comes to a value. -/
theorem Passes.comesTo {d₁ : Dialogue α} (h : Passes w d s sent d₁ s₁)
    (hlater : ComesTo w d₁ s₁ later a s') : ComesTo w d s (sent ++ later) a s' where
  run_eq := h.run_eq.trans hlater.run_eq
  exchanges_eq := by rw [h.exchanges_eq, hlater.exchanges_eq]

/-- A total dialogue comes to something in every world. -/
theorem exists_comesTo_of_total (w : World σ) (h : Total d) (s : σ) :
    ∃ sent a s', ComesTo w d s sent a s' := by
  obtain ⟨a, s', hrun⟩ := run_of_total w h s
  exact ⟨_, a, s', hrun, rfl⟩

end comesTo

/-- The exchanges of a dialogue in a world are answered by that world. -/
theorem exists_serve_of_mem_exchanges {σ : Type} {w : World σ} {d : Dialogue α} {s : σ}
    {sent : Outgoing} {reply : Http.Reply} (h : (sent, reply) ∈ exchanges (turns w d s)) :
    ∃ s₁ s₂, w.serve sent s₁ = (reply, s₂) := by
  induction d generalizing s with
  | done a => simp [turns] at h
  | ask q next ih =>
    rw [turns] at h
    cases q with
    | abandon => simp [World.answer?] at h
    | exchange request =>
      rcases List.mem_cons.1 h with heq | hmem
      · obtain ⟨rfl, rfl⟩ := Prod.mk.inj heq
        exact ⟨s, _, rfl⟩
      · exact ih _ hmem
    | choice others => exact ih _ h
    | clock => exact ih _ h

end Dialogue

end ResourceClient
