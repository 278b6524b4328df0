/-
  Shakedown.Proofs.Plan.Calls

  Which calls a plan can make, whatever they are answered.  `MakesOnly` is
  read off the tree of a plan, so it says something of every trace of it: the
  calls of the trace are among those, and two APIs that answer them alike
  leave the same trace.
-/
import Shakedown.Proofs.Plan.Trace

namespace Shakedown

variable {σ α β : Type} {P : Call → Prop}

/-! ## Calls that a plan can make -/

namespace Plan

/-- Every call of a plan is one of some, whatever is answered. -/
def MakesOnly (P : Call → Prop) : Plan α → Prop
  | .done _ => True
  | .ask c next => P c ∧ ∀ r, (next r).MakesOnly P
  | .askWithin _ c next => P c ∧ ∀ r, (next r).MakesOnly P
  | .pause _ next => next.MakesOnly P

theorem MakesOnly.bind {plan : Plan α} {f : α → Plan β} (h : plan.MakesOnly P)
    (hf : ∀ a, (f a).MakesOnly P) : (plan.bind f).MakesOnly P := by
  induction plan with
  | done a => exact hf a
  | ask c next ih => exact ⟨h.1, fun r => ih r (h.2 r)⟩
  | askWithin limit c next ih => exact ⟨h.1, fun r => ih r (h.2 r)⟩
  | pause length next ih => exact ih h

/-- Against every API a plan makes only calls that it can make. -/
theorem MakesOnly.calls {plan : Plan α} (h : plan.MakesOnly P) (api : Api σ) (now : Nat) (s : σ) :
    ∀ c ∈ (plan.trace api now s).calls, P c.call := by
  induction plan generalizing now s with
  | done a =>
    rw [trace_done]
    exact nofun
  | ask c next ih =>
    cases hd : (api.answer s now c).1.delay with
    | none =>
      rw [trace_ask_of_none hd]
      intro c' hc'
      obtain rfl := List.mem_singleton.mp hc'
      exact h.1
    | some d =>
      rw [trace_ask_of_some hd, Trace.prepend_calls, callsOf_ask]
      intro c' hc'
      rcases List.mem_cons.mp hc' with rfl | hc'
      · exact h.1
      · exact ih _ (h.2 _) _ _ c' hc'
  | askWithin limit c next ih =>
    rw [trace_askWithin, Trace.prepend_calls, callsOf_ask]
    intro c' hc'
    rcases List.mem_cons.mp hc' with rfl | hc'
    · exact h.1
    · exact ih _ (h.2 _) _ _ c' hc'
  | pause length next ih =>
    rw [trace_pause]
    exact ih h _ _

end Plan

/-! ## APIs that answer some calls alike -/

/-- Two APIs with one memory answer some calls alike, and remember the same of them. -/
def Api.AgreesOn (P : Call → Prop) (api other : Api σ) : Prop :=
  ∀ s now c, P c → api.answer s now c = other.answer s now c

namespace Api.AgreesOn

variable {api other : Api σ}

theorem after (h : api.AgreesOn P other) {calls : List TimedCall} (hcalls : ∀ c ∈ calls, P c.call)
    (s : σ) : api.after s calls = other.after s calls := by
  induction calls generalizing s with
  | nil => rfl
  | cons c rest ih =>
    rw [after_cons, after_cons, h s c.time c.call (hcalls c List.mem_cons_self)]
    exact ih (fun c' hc' => hcalls c' (List.mem_cons_of_mem c hc')) _

/-- A plan that makes only calls answered alike leaves the same trace. -/
theorem trace (h : api.AgreesOn P other) {plan : Plan α} (hplan : plan.MakesOnly P) (now : Nat)
    (s : σ) : plan.trace api now s = plan.trace other now s := by
  induction plan generalizing now s with
  | done a => rw [Plan.trace_done, Plan.trace_done]
  | ask c next ih =>
    have hc := h s now c hplan.1
    cases hd : (other.answer s now c).1.delay with
    | none => rw [Plan.trace_ask_of_none hd, Plan.trace_ask_of_none (hc ▸ hd)]
    | some d =>
      rw [Plan.trace_ask_of_some hd, Plan.trace_ask_of_some (hc ▸ hd), hc, ih _ (hplan.2 _)]
  | askWithin limit c next ih =>
    rw [Plan.trace_askWithin, Plan.trace_askWithin, h s now c hplan.1, ih _ (hplan.2 _)]
  | pause length next ih => rw [Plan.trace_pause, Plan.trace_pause, ih hplan]

end Api.AgreesOn

end Shakedown
