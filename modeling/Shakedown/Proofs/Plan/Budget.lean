/-
  Shakedown.Proofs.Plan.Budget

  How long a plan goes on at most.  If every call is over by some limit, what
  a plan may take can be read off the plan: a call takes the limit, a call
  with a limit of its own takes that, a pause takes its length, and of the
  ways to go on after an answer the longest counts.
-/
import Shakedown.Proofs.Plan.Trace

namespace Shakedown

variable {σ α β : Type}

/-- Every call is answered, and after no more than a limit. -/
def Api.Prompt (api : Api σ) (limit : Nat) : Prop :=
  ∀ s now c, ∃ delay, (api.answer s now c).1.delay = some delay ∧ delay ≤ limit

/-! ## Traces that end by some time -/

/-- A trace comes to an end, no later than at a time. -/
def Trace.EndsBy (t : Trace α) (time : Nat) : Prop :=
  ∃ now a, t.ending = some (now, a) ∧ now ≤ time

namespace Trace.EndsBy

variable {t : Trace α} {time later : Nat}

/-- A trace that ends by some time ends by every later one. -/
theorem mono (h : t.EndsBy time) (hle : time ≤ later) : t.EndsBy later := by
  obtain ⟨now, a, hend, hnow⟩ := h
  exact ⟨now, a, hend, Nat.le_trans hnow hle⟩

/-- Events in front of a trace leave its end where it is. -/
theorem prepend (h : t.EndsBy time) (events : List Event) : (t.prepend events).EndsBy time :=
  h

/-- A trace that is followed by another ends when that does. -/
theorem andThen {next : Nat → α → Trace β} (h : t.EndsBy time)
    (hnext : ∀ now a, t.ending = some (now, a) → now ≤ time → (next now a).EndsBy later) :
    (t.andThen next).EndsBy later := by
  obtain ⟨now, a, hend, hnow⟩ := h
  rw [andThen_of_some hend]
  exact (hnext now a hend hnow).prepend t.events

end Trace.EndsBy

/-! ## What a plan may take -/

namespace Plan

/-- A plan takes no longer than `n`, if each call without a limit of its own is over
within `limit`. -/
def Within (limit : Nat) : Plan α → Nat → Prop
  | .done _, _ => True
  | .ask _ next, n => ∃ rest, limit + rest ≤ n ∧ ∀ r, (next r).Within limit rest
  | .askWithin own _ next, n => ∃ rest, own + rest ≤ n ∧ ∀ r, (next r).Within limit rest
  | .pause length next, n => ∃ rest, length + rest ≤ n ∧ next.Within limit rest

variable {limit n m : Nat} {plan : Plan α}

theorem within_done (limit : Nat) (a : α) (n : Nat) : (Plan.done a).Within limit n :=
  trivial

/-- A call takes the limit, and then what the longest way to go on takes. -/
theorem within_ask {c : Call} {next : c.Result → Plan α} (h : ∀ r, (next r).Within limit n) :
    (Plan.ask c next).Within limit (limit + n) :=
  ⟨n, Nat.le_refl _, h⟩

theorem within_askWithin {own : Nat} {c : Call} {next : Option c.Result → Plan α}
    (h : ∀ r, (next r).Within limit n) : (Plan.askWithin own c next).Within limit (own + n) :=
  ⟨n, Nat.le_refl _, h⟩

theorem within_pause {next : Plan α} (length : Nat) (h : next.Within limit n) :
    (Plan.pause length next).Within limit (length + n) :=
  ⟨n, Nat.le_refl _, h⟩

namespace Within

theorem mono (h : plan.Within limit n) (hle : n ≤ m) : plan.Within limit m := by
  cases plan with
  | done a => trivial
  | ask c next =>
    obtain ⟨rest, hrest, hnext⟩ := h
    exact ⟨rest, Nat.le_trans hrest hle, hnext⟩
  | askWithin own c next =>
    obtain ⟨rest, hrest, hnext⟩ := h
    exact ⟨rest, Nat.le_trans hrest hle, hnext⟩
  | pause length next =>
    obtain ⟨rest, hrest, hnext⟩ := h
    exact ⟨rest, Nat.le_trans hrest hle, hnext⟩

/-- A plan that goes on with another takes as long as both. -/
theorem bind {f : α → Plan β} (h : plan.Within limit n) (hf : ∀ a, (f a).Within limit m) :
    (plan.bind f).Within limit (n + m) := by
  -- What the first plan has left over after a step is what its rest may take.
  induction plan generalizing n with
  | done a => exact (hf a).mono (Nat.le_add_left m n)
  | ask c next ih =>
    obtain ⟨rest, hrest, hnext⟩ := h
    refine ⟨rest + m, ?_, fun r => ih r (hnext r)⟩
    omega
  | askWithin own c next ih =>
    obtain ⟨rest, hrest, hnext⟩ := h
    refine ⟨rest + m, ?_, fun r => ih r (hnext r)⟩
    omega
  | pause length next ih =>
    obtain ⟨rest, hrest, hnext⟩ := h
    refine ⟨rest + m, ?_, ih hnext⟩
    omega

/-- Against an API that answers by the limit, a plan ends in the time that it may take. -/
theorem endsBy {api : Api σ} (hapi : api.Prompt limit) (h : plan.Within limit n)
    (now : Nat) (s : σ) : (plan.trace api now s).EndsBy (now + n) := by
  induction plan generalizing n now s with
  | done a =>
    rw [trace_done]
    exact ⟨now, a, rfl, Nat.le_add_right now n⟩
  | ask c next ih =>
    obtain ⟨rest, hrest, hnext⟩ := h
    obtain ⟨delay, hdelay, hle⟩ := hapi s now c
    rw [trace_ask_of_some hdelay]
    have hends := ih _ (hnext (api.answer s now c).1.result) (now + delay) (api.answer s now c).2
    exact (hends.mono (by omega)).prepend _
  | askWithin own c next ih =>
    obtain ⟨rest, hrest, hnext⟩ := h
    have hle : ((api.answer s now c).1.within own).1 ≤ own := by
      unfold Answer.within
      cases (api.answer s now c).1.delay with
      | none => exact Nat.le_refl own
      | some delay =>
        dsimp only
        split
        · assumption
        · exact Nat.le_refl own
    rw [trace_askWithin]
    exact ((ih _ (hnext _) _ _).mono (by omega)).prepend _
  | pause length next ih =>
    obtain ⟨rest, hrest, hnext⟩ := h
    rw [trace_pause]
    exact ((ih hnext (now + length) s).mono (by omega)).prepend _

end Within

end Plan

end Shakedown
