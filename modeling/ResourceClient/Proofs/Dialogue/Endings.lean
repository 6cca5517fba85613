import Mathlib
import ResourceClient.Proofs.Dialogue.Gather

/-! # Dialogues that end beside others

    A dialogue with a budget is not total, but in a world that answers well
    it comes to its end all the same.  When it runs beside others, the world
    may have gone on between any two of its questions (`World.Onward`).  So
    `EndsIn` asks more than that the dialogue ends when it runs alone: it
    ends wherever the world has got to before each of its questions, and
    `World.Serves` says the same of what the world replies.

    This is what makes endings compose: dialogues that end in this sense end
    one after the other (`EndsIn.bind`), and side by side under every
    schedule (`endsIn_gather`). -/

namespace ResourceClient

namespace Dialogue

variable {α β σ : Type} {w : World σ}

/-! ## A world that goes on -/

/-- A world gets from one state to another by answering questions, whichever
    they are. -/
def World.Onward (w : World σ) : σ → σ → Prop :=
  Relation.ReflTransGen fun s s' => ∃ (q : Question) (a : q.Answer), w.answer? q s = some (a, s')

theorem World.Onward.answer {s s₁ s₂ : σ} (h : w.Onward s s₁) {q : Question} {a : q.Answer}
    (hanswer : w.answer? q s₁ = some (a, s₂)) : w.Onward s s₂ :=
  h.tail ⟨q, a, hanswer⟩

/-- A world replies to requests, one after the other, and may be asked
    anything else in between. -/
inductive World.Serves (w : World σ) : σ → List (Outgoing × Http.Reply) → σ → Prop where
  /-- No request is left. -/
  | nil {s s' : σ} (hafter : w.Onward s s') : Serves w s [] s'
  /-- The first request has its reply. -/
  | cons {s s₁ s₂ s' : σ} {sent : Outgoing} {reply : Http.Reply}
      {later : List (Outgoing × Http.Reply)} (hbefore : w.Onward s s₁)
      (hserve : w.serve sent s₁ = (reply, s₂)) (hlater : Serves w s₂ later s') :
      Serves w s ((sent, reply) :: later) s'

theorem World.Serves.of_onward {s s₁ s' : σ} {sent : List (Outgoing × Http.Reply)}
    (hbefore : w.Onward s s₁) (h : w.Serves s₁ sent s') : w.Serves s sent s' := by
  cases h with
  | nil hafter => exact .nil (hbefore.trans hafter)
  | cons hnext hserve hlater => exact .cons (hbefore.trans hnext) hserve hlater

theorem World.Serves.append {s s₁ s' : σ} {earlier later : List (Outgoing × Http.Reply)}
    (h : w.Serves s earlier s₁) (hlater : w.Serves s₁ later s') :
    w.Serves s (earlier ++ later) s' := by
  induction h with
  | nil hafter => exact hlater.of_onward hafter
  | cons hbefore hserve _ ih => exact .cons hbefore hserve (ih hlater)

/-- Every reply is one that the world gives. -/
theorem World.Serves.exists_serve {s s' : σ} {sent : List (Outgoing × Http.Reply)}
    (h : w.Serves s sent s') : ∀ e ∈ sent, ∃ s₁ s₂, w.serve e.1 s₁ = (e.2, s₂) := by
  induction h with
  | nil _ => simp
  | cons _ hserve _ ih => exact List.forall_mem_cons.2 ⟨⟨_, _, hserve⟩, ih⟩

/-- One more answer, before the others. -/
theorem World.Serves.turn {s s₁ s₂ s' : σ} {q : Question} {a : q.Answer} {ts : List Turn}
    (hbefore : w.Onward s s₁) (hanswer : w.answer? q s₁ = some (a, s₂))
    (h : w.Serves s₂ (exchanges ts) s') : w.Serves s (exchanges (⟨q, a⟩ :: ts)) s' := by
  cases q with
  | exchange sent => exact .cons hbefore (Option.some.inj hanswer) h
  | choice others => exact h.of_onward (hbefore.answer hanswer)
  | clock => exact h.of_onward (hbefore.answer hanswer)
  | abandon => exact a.elim

/-! ## Dialogues that end -/

/-- A dialogue that ends in a world from a state on, wherever the world has
    got to before each of its questions. -/
inductive EndsIn (w : World σ) : Dialogue α → σ → Prop where
  /-- It is at its end. -/
  | done (a : α) (s : σ) : EndsIn w (.done a) s
  /-- It puts a question that has answers, and ends after each that the world
      may give. -/
  | ask {q : Question} {next : q.Answer → Dialogue α} {s : σ} (hq : q ≠ .abandon)
      (hnext : ∀ s₁ a s₂, w.Onward s s₁ → w.answer? q s₁ = some (a, s₂) →
        EndsIn w (next a) s₂) : EndsIn w (.ask q next) s

theorem EndsIn.onward {d : Dialogue α} {s s' : σ} (h : EndsIn w d s) (hs : w.Onward s s') :
    EndsIn w d s' := by
  cases h with
  | done a => exact .done a s'
  | ask hq hnext => exact .ask hq fun s₁ a s₂ hbefore => hnext s₁ a s₂ (hs.trans hbefore)

theorem Total.endsIn {d : Dialogue α} (h : d.Total) (w : World σ) (s : σ) : EndsIn w d s := by
  induction h generalizing s with
  | done a => exact .done a s
  | ask hq _ ih => exact .ask hq fun _ a s₂ _ _ => ih a s₂

/-- The world may also stand still in between. -/
theorem EndsIn.exists_run {d : Dialogue α} {s : σ} (h : EndsIn w d s) :
    ∃ a s', run w d s = some (a, s') := by
  induction h with
  | done a s => exact ⟨a, s, rfl⟩
  | @ask q next s hq hnext ih =>
    rw [run]
    cases hanswer : w.answer? q s with
    | some answered => exact ih s answered.1 answered.2 .refl hanswer
    | none =>
      -- only a dialogue that is abandoned has no answer
      cases q with
      | abandon => exact absurd rfl hq
      | exchange sent => cases hanswer
      | choice others => cases hanswer
      | clock => cases hanswer

/-- What follows has to end only after the runs whose requests the world
    replies to. -/
theorem EndsIn.bind {d : Dialogue α} {f : α → Dialogue β} {s : σ} (h : EndsIn w d s)
    (hf : ∀ ts a s', Runs d ts a → w.Serves s (exchanges ts) s' → EndsIn w (f a) s') :
    EndsIn w (d.bind f) s := by
  induction h with
  | done a s => exact hf [] a s (.done a) (.nil .refl)
  | ask hq _ ih =>
    refine .ask hq fun s₁ a s₂ hbefore hanswer => ih s₁ a s₂ hbefore hanswer ?_
    intro ts b s' hruns hserves
    exact hf _ b s' (.ask a hruns) (hserves.turn hbefore hanswer)

theorem EndsIn.map {d : Dialogue α} {s : σ} (h : EndsIn w d s) (g : α → β) :
    EndsIn w (d.bind fun a => .done (g a)) s :=
  h.bind fun _ a s' _ _ => .done (g a) s'

end Dialogue

/-! ## Side by side -/

namespace Pool

open Dialogue

variable {α σ : Type} {w : World σ}

/-- A slot whose task ends. -/
def SlotEndsIn (w : World σ) (slot : Slot α) (s : σ) : Prop :=
  match slot with
  | .waiting d | .running d => EndsIn w d s
  | .finished => True

theorem SlotEndsIn.onward {slot : Slot α} {s s' : σ} (h : SlotEndsIn w slot s)
    (hs : w.Onward s s') : SlotEndsIn w slot s' := by
  cases slot with
  | waiting d => exact EndsIn.onward h hs
  | running d => exact EndsIn.onward h hs
  | finished => trivial

/-- Tasks that end, end side by side: while one of them is answered, the
    world goes on for the others. -/
theorem endsIn_gather (workers : Nat) (pool : Pool α) (s : σ)
    (h : ∀ slot ∈ pool.slots, SlotEndsIn w slot s) : EndsIn w (gather workers pool) s := by
  fun_induction gather workers pool generalizing s with
  | case1 pool i _ task hslot ih =>
    have htask : SlotEndsIn w (.waiting task) s := h _ (List.mem_of_getElem? hslot)
    exact ih s (forall_mem_set h i htask)
  | case2 => exact .done _ s
  | case3 => exact .done _ s
  | case4 pool _ first others _ ihfinish ihanswer =>
    refine .ask (by simp) fun s₁ k s₂ hbefore hpick => ?_
    have hs₂ : w.Onward s s₂ := hbefore.answer hpick
    split
    · next a hslot =>
      exact ihfinish k a hslot s₂ (forall_mem_set (fun slot hmem => (h slot hmem).onward hs₂) _
        trivial)
    · next q next hslot =>
      have htask : EndsIn w (.ask q next) s := h _ (List.mem_of_getElem? hslot)
      cases htask with
      | ask hq hnext =>
        refine .ask hq fun s₃ a s₄ hthen hanswer => ?_
        have hs₃ : w.Onward s s₃ := hs₂.trans hthen
        have hs₄ : w.Onward s s₄ := hs₃.answer hanswer
        exact ihanswer k q next hslot a s₄ (forall_mem_set
          (fun slot hmem => (h slot hmem).onward hs₄) _ (hnext s₃ a s₄ hs₃ hanswer))
    · exact .done _ s₂

end Pool

namespace Dialogue

theorem endsIn_gather {α σ : Type} {w : World σ} (workers : Nat) {tasks : List (Dialogue α)}
    {s : σ} (h : ∀ d ∈ tasks, EndsIn w d s) : EndsIn w (gather workers tasks) s := by
  apply Pool.endsIn_gather
  intro slot hslot
  obtain ⟨d, hd, rfl⟩ := List.mem_map.1 hslot
  exact h d hd

end Dialogue

end ResourceClient
