import Mathlib
import ResourceClient.Feed
import ResourceClient.Proofs.Dialogue.Gather

/-! # What is sent in every world

    A property of everything that a dialogue sends is shown in every world
    (`Sends`), where the dialogue comes to a value or is abandoned on the
    way.  If the property holds of nothing and of one thing after another
    (`IsSequential`), then it follows the way in which dialogues and feeds
    are put together.

    No run is missed in this way, since a world may just repeat the answers
    of a run (`replay`). -/

namespace ResourceClient

namespace Dialogue

variable {α β : Type}

/-! ## Runs and worlds -/

/-- The world that repeats the answers of a run. -/
def replay : World (List Turn) where
  serve _
    | ⟨.exchange _, reply⟩ :: rest => (reply, rest)
    | turns => (.lost, turns)
  pick others
    | ⟨.choice _, k⟩ :: rest => (⟨k.val % (others + 1), Nat.mod_lt _ others.succ_pos⟩, rest)
    | turns => (Fin.last others, turns)
  time
    | ⟨.clock, now⟩ :: rest => (now, rest)
    | turns => (0, turns)

theorem answer?_replay {q : Question} (answer : q.Answer) (rest : List Turn) :
    replay.answer? q (⟨q, answer⟩ :: rest) = some (answer, rest) := by
  cases q with
  | exchange sent => rfl
  | choice others =>
    have hpick (k : Fin (others + 1)) :
        (⟨k.val % (others + 1), Nat.mod_lt _ others.succ_pos⟩ : Fin (others + 1)) = k :=
      Fin.ext (Nat.mod_eq_of_lt k.isLt)
    exact congrArg (fun k => some (k, rest)) (hpick answer)
  | clock => rfl
  | abandon => exact answer.elim

/-- Every run is what happens in some world. -/
theorem turns_replay {d : Dialogue α} {ts : List Turn} {a : α} (h : Runs d ts a) :
    turns replay d ts = ts := by
  induction h with
  | done a => rfl
  | ask answer _ ih =>
    rw [turns, answer?_replay]
    exact congrArg _ ih

/-- A dialogue that is abandoned goes on with nothing. -/
theorem turns_bind_of_run_eq_none {σ : Type} {w : World σ} {d : Dialogue α} {f : α → Dialogue β}
    {s : σ} (h : run w d s = none) : turns w (d.bind f) s = turns w d s := by
  induction d generalizing s with
  | done a => simp [run] at h
  | ask q next ih =>
    rw [run] at h
    rw [bind_ask, turns, turns]
    cases hq : w.answer? q s with
    | none => rfl
    | some answered =>
      simp only [hq] at h
      exact congrArg _ (ih _ h)

/-! ## Whatever is sent -/

/-- Whatever a dialogue sends in a world has a property. -/
def Sends (d : Dialogue α) (P : List (Outgoing × Http.Reply) → Prop) : Prop :=
  ∀ ⦃σ : Type⦄ (w : World σ) (s : σ), P (exchanges (turns w d s))

/-- A property of nothing, and of one thing after another. -/
structure IsSequential (P : List (Outgoing × Http.Reply) → Prop) : Prop where
  /-- It holds of nothing. -/
  nil : P []
  /-- It holds of two things if it holds of each. -/
  append : ∀ {earlier later}, P earlier → P later → P (earlier ++ later)

section sends

variable {P : List (Outgoing × Http.Reply) → Prop}

/-- Of a total dialogue it is enough to look at the runs. -/
theorem Sends.of_total {d : Dialogue α} (htotal : d.Total)
    (h : ∀ ts a, Runs d ts a → P (exchanges ts)) : d.Sends P := by
  intro σ w s
  obtain ⟨a, s', hrun⟩ := run_of_total w htotal s
  exact h _ a (runs_of_run hrun)

variable (hP : IsSequential P)
include hP

theorem sends_done (a : α) : (done a).Sends P := fun _ _ _ => hP.nil

theorem sends_abandoned : (abandoned : Dialogue α).Sends P := fun _ _ _ => hP.nil

theorem Sends.bind {d : Dialogue α} (hd : d.Sends P) {f : α → Dialogue β}
    (hf : ∀ a, (f a).Sends P) : (d.bind f).Sends P := by
  intro σ w s
  cases hrun : run w d s with
  | none =>
    rw [turns_bind_of_run_eq_none hrun]
    exact hd w s
  | some ended =>
    rw [turns_bind_of_run hrun, exchanges_append]
    exact hP.append (hd w s) (hf ended.1 w ended.2)

theorem Sends.map {d : Dialogue α} (hd : d.Sends P) (g : α → β) :
    (d.bind fun a => done (g a)).Sends P :=
  hd.bind hP fun a => sends_done hP (g a)

end sends

end Dialogue

/-! ## Feeds -/

namespace Feed

open Dialogue

variable {σ α β : Type} {P : List (Outgoing × Http.Reply) → Prop} (hP : IsSequential P)
include hP

/-- Collecting values sends what the steps send. -/
theorem sends_collect {feed : Feed σ α} (h : ∀ s, (feed.step s).Sends P) (read : α → Result β)
    (budget : Nat) (s : σ) : (feed.collect read budget s).Sends P := by
  induction budget generalizing s with
  | zero => exact sends_abandoned hP
  | succ budget ih =>
    refine (h s).bind hP fun step => ?_
    cases step with
    | value a rest =>
      cases hread : read a with
      | ok b =>
        simp only [hread]
        exact (ih rest).map hP _
      | error e =>
        simp only [hread]
        exact sends_done hP _
    | silent rest => exact ih rest
    | failure e => exact sends_done hP _
    | finished => exact sends_done hP _

/-- So does drawing the first values. -/
theorem sends_take {feed : Feed σ α} (h : ∀ s, (feed.step s).Sends P) (read : α → Result β)
    (budget count : Nat) (s : σ) : (feed.take read budget count s).Sends P := by
  induction budget generalizing count s with
  | zero =>
    cases count with
    | zero => exact sends_done hP _
    | succ count => exact sends_abandoned hP
  | succ budget ih =>
    cases count with
    | zero => exact sends_done hP _
    | succ count =>
      refine (h s).bind hP fun step => ?_
      cases step with
      | value a rest => exact (ih count rest).map hP _
      | silent rest => exact ih (count + 1) rest
      | failure e => exact sends_done hP _
      | finished => exact sends_done hP _

theorem sends_step_items {pages : Feed σ (List α)} (h : ∀ s, (pages.step s).Sends P)
    (r : Remainder σ α) : (pages.items.step r).Sends P := by
  obtain ⟨source, held⟩ := r
  cases held with
  | cons a held => exact sends_done hP _
  | nil =>
    refine (h source).bind hP fun page => ?_
    cases page <;> exact sends_done hP _

theorem sends_step_regrouped (size : Nat) {pages : Feed σ (List α)}
    (h : ∀ s, (pages.step s).Sends P) (r : Regrouping σ α) :
    ((pages.regrouped size).step r).Sends P := by
  obtain ⟨source, held⟩ := r
  simp only [regrouped]
  split
  · exact sends_done hP _
  · split
    · exact sends_done hP _
    · cases source with
      | none => exact sends_done hP _
      | some source =>
        refine (h source).bind hP fun page => ?_
        cases page <;> exact sends_done hP _

end Feed

end ResourceClient
