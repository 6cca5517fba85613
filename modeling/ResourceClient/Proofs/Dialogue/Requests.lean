import Mathlib
import ResourceClient.Bulk.Execute
import ResourceClient.Proofs.Dialogue.Worlds

/-! # Requests that are sent in every world

    That every single request of a dialogue has a property (`SendsOnly`) is
    told at each question of the dialogue: the request that is put has it,
    and so have those that may follow (`sendsOnly_ask_iff`).

    So tasks that run side by side need not come to their ends.  In whatever
    order they move and whether one of them is abandoned or not, nothing else
    is sent than what the tasks send (`sendsOnly_execute`). -/

namespace ResourceClient

namespace Dialogue

variable {α β : Type} {Q : Outgoing → Prop}

/-- Every request that a dialogue sends in a world has a property. -/
def SendsOnly (d : Dialogue α) (Q : Outgoing → Prop) : Prop :=
  d.Sends fun sent => ∀ e ∈ sent, Q e.1

theorem isSequential_sendsOnly (Q : Outgoing → Prop) :
    IsSequential fun sent : List (Outgoing × Http.Reply) => ∀ e ∈ sent, Q e.1 where
  nil := List.forall_mem_nil _
  append hearlier hlater := by
    intro e he
    rcases List.mem_append.1 he with h | h
    · exact hearlier e h
    · exact hlater e h

theorem SendsOnly.mono {Q' : Outgoing → Prop} {d : Dialogue α} (h : d.SendsOnly Q)
    (hQ : ∀ sent, Q sent → Q' sent) : d.SendsOnly Q' :=
  fun _ w s e he => hQ e.1 (h w s e he)

/-- What happens in a world also happens in the one that repeats it. -/
theorem turns_replay_turns {σ : Type} (w : World σ) (d : Dialogue α) (s : σ) :
    turns replay d (turns w d s) = turns w d s := by
  induction d generalizing s with
  | done a => rfl
  | ask q next ih =>
    cases hanswer : w.answer? q s with
    | none =>
      -- only an abandoned dialogue has no answer, and it has none in any world
      cases q with
      | abandon => rfl
      | _ => cases hanswer
    | some answered =>
      have hturns : turns w (.ask q next) s =
          ⟨q, answered.1⟩ :: turns w (next answered.1) answered.2 := by
        rw [turns, hanswer]
      rw [hturns, turns, answer?_replay]
      exact congrArg _ (ih _ _)

/-- The requests of a dialogue are the one that it puts and those of what may
    follow. -/
theorem sendsOnly_ask_iff {q : Question} {next : q.Answer → Dialogue α} :
    (ask q next).SendsOnly Q ↔
      (∀ sent, q = .exchange sent → Q sent) ∧ ∀ answer, (next answer).SendsOnly Q := by
  constructor
  · intro h
    constructor
    · rintro sent rfl
      exact h ({ serve := fun _ x => (.lost, x) } : World Unit) () (sent, .lost) List.mem_cons_self
    · intro answer σ w s e he
      -- the answer comes first, and then what happens in the world
      have hreplay := h replay (⟨q, answer⟩ :: turns w (next answer) s)
      rw [turns, answer?_replay] at hreplay
      have hturns := turns_replay_turns w (next answer) s
      refine hreplay e ?_
      show e ∈ exchanges (⟨q, answer⟩ :: turns replay (next answer) (turns w (next answer) s))
      rw [hturns, Pool.exchanges_cons, List.mem_append]
      exact Or.inr he
  · rintro ⟨hq, hnext⟩ σ w s e he
    rw [turns] at he
    cases hanswer : w.answer? q s with
    | none =>
      rw [hanswer] at he
      cases he
    | some answered =>
      simp only [hanswer] at he
      cases q with
      | exchange sent =>
        rcases List.mem_cons.1 he with rfl | hlater
        · exact hq sent rfl
        · exact hnext _ w _ e hlater
      | choice others => exact hnext _ w _ e he
      | clock => exact hnext _ w _ e he
      | abandon => exact answered.1.elim

theorem sendsOnly_done (a : α) : (done a).SendsOnly Q :=
  sends_done (isSequential_sendsOnly Q) a

theorem SendsOnly.bind {d : Dialogue α} (hd : d.SendsOnly Q) {f : α → Dialogue β}
    (hf : ∀ a, (f a).SendsOnly Q) : (d.bind f).SendsOnly Q :=
  Sends.bind (isSequential_sendsOnly Q) hd hf

end Dialogue

/-! ## Tasks side by side -/

namespace Pool

open Dialogue

variable {α : Type} {Q : Outgoing → Prop}

/-- A slot whose task sends requests with a property only. -/
def SlotSendsOnly (slot : Slot α) (Q : Outgoing → Prop) : Prop :=
  match slot with
  | .waiting d | .running d => d.SendsOnly Q
  | .finished => True

theorem sendsOnly_gather (workers : Nat) (pool : Pool α)
    (h : ∀ slot ∈ pool.slots, SlotSendsOnly slot Q) : (gather workers pool).SendsOnly Q := by
  fun_induction gather workers pool with
  | case1 pool i _ task hslot ih =>
    have htask : SlotSendsOnly (.waiting task) Q := h _ (List.mem_of_getElem? hslot)
    exact ih (forall_mem_set h i htask)
  | case2 => exact sendsOnly_done _
  | case3 => exact sendsOnly_done _
  | case4 pool _ first others _ ihfinish ihanswer =>
    refine sendsOnly_ask_iff.2 ⟨fun sent hsent => (by cases hsent), fun k => ?_⟩
    split
    · next a hslot => exact ihfinish k a hslot (forall_mem_set h _ trivial)
    · next q next hslot =>
      have htask : SendsOnly (.ask q next) Q := h _ (List.mem_of_getElem? hslot)
      obtain ⟨hput, hnext⟩ := sendsOnly_ask_iff.1 htask
      exact sendsOnly_ask_iff.2
        ⟨hput, fun a => ihanswer k q next hslot a (forall_mem_set h _ (hnext a))⟩
    · exact sendsOnly_done _

end Pool

/-- Tasks that run side by side send what the tasks send, also when one of
    them is abandoned. -/
theorem Bulk.sendsOnly_execute {τ ρ : Type} {Q : Outgoing → Prop} (workers : Nat) {tasks : List τ}
    {task : τ → Dialogue (Result ρ)} (h : ∀ t ∈ tasks, (task t).SendsOnly Q) :
    (execute workers tasks task).SendsOnly Q := by
  unfold execute
  split
  · exact Dialogue.sendsOnly_done _
  · refine Dialogue.SendsOnly.bind ?_ fun completed => Dialogue.sendsOnly_done _
    apply Pool.sendsOnly_gather
    intro slot hslot
    obtain ⟨d, hd, rfl⟩ := List.mem_map.1 hslot
    obtain ⟨t, ht, rfl⟩ := List.mem_map.1 hd
    exact h t ht

end ResourceClient
