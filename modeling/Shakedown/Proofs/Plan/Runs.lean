/-
  Shakedown.Proofs.Plan.Runs

  The run of a plan: the calls it makes from a standing on, each with its
  time, and what it comes to, and where, if it comes to anything.  The rules
  below follow the constructors of plans, so that the run of a plan is put
  together from the runs of its parts.
-/
import Shakedown.Proofs.Plan.Course

namespace Shakedown.Plan

variable {σ α β : Type} {api : Api σ} {p q : Standing σ}

/-- Started at `p`, a plan makes exactly these calls and comes to this outcome, if any. -/
def Runs (plan : Plan α) (api : Api σ) (p : Standing σ) (calls : List TimedCall)
    (outcome : Option (α × Standing σ)) : Prop :=
  (plan.trace api p.now p.state).calls = calls ∧ plan.outcome? api p = outcome

namespace Runs

/-- A plan runs in one way. -/
theorem unique {plan : Plan α} {calls calls' : List TimedCall}
    {outcome outcome' : Option (α × Standing σ)} (h : plan.Runs api p calls outcome)
    (h' : plan.Runs api p calls' outcome') : calls = calls' ∧ outcome = outcome' :=
  ⟨h.1.symm.trans h'.1, h.2.symm.trans h'.2⟩

theorem done (api : Api σ) (a : α) (p : Standing σ) :
    (Plan.done a).Runs api p [] (some (a, p)) := by
  refine ⟨?_, outcome?_done api a p⟩
  rw [trace_done]
  rfl

theorem pause {next : Plan α} {length : Nat} {calls : List TimedCall}
    {outcome : Option (α × Standing σ)} (h : next.Runs api (p.later length) calls outcome) :
    (Plan.pause length next).Runs api p calls outcome := by
  refine ⟨?_, (outcome?_pause api length next p).trans h.2⟩
  rw [trace_pause, Trace.prepend_calls]
  exact h.1

/-- A call that is answered is followed by what its answer leads to. -/
theorem ask {c : Call} {r : c.Result} {next : c.Result → Plan α} {calls : List TimedCall}
    {outcome : Option (α × Standing σ)} (hr : api.Answers p c r q)
    (h : (next r).Runs api q calls outcome) :
    (Plan.ask c next).Runs api p (⟨p.now, c⟩ :: calls) outcome := by
  refine ⟨?_, (outcome?_ask_of_answers hr next).trans h.2⟩
  obtain ⟨d, hd, rfl, rfl⟩ := hr
  rw [trace_ask_of_some hd, Trace.prepend_calls, callsOf_ask]
  exact congrArg (⟨p.now, c⟩ :: ·) h.1

/-- A call that is never answered is the last one. -/
theorem ask_of_ignores {c : Call} (hnone : api.Ignores p c) (next : c.Result → Plan α) :
    (Plan.ask c next).Runs api p [⟨p.now, c⟩] none := by
  refine ⟨?_, outcome?_ask_of_ignores hnone next⟩
  rw [trace_ask_of_none hnone]
  rfl

/-- A plan that comes to something is followed by the plan it leads to. -/
theorem bind {plan : Plan α} {f : α → Plan β} {a : α} {first rest : List TimedCall}
    {outcome : Option (β × Standing σ)} (h : plan.Runs api p first (some (a, q)))
    (hf : (f a).Runs api q rest outcome) :
    (plan.bind f).Runs api p (first ++ rest) outcome := by
  obtain ⟨hcalls, houtcome⟩ := h
  obtain ⟨hending, hstate⟩ := Trace.ending_of_outcome? houtcome
  constructor
  · rw [trace_bind, Trace.andThen_of_some hending, Trace.prepend_calls, hstate, hf.1]
    exact congrArg (· ++ rest) hcalls
  · rw [outcome?_bind, houtcome]
    exact hf.2

theorem bind_of_none {plan : Plan α} {calls : List TimedCall} (h : plan.Runs api p calls none)
    (f : α → Plan β) : (plan.bind f).Runs api p calls none := by
  obtain ⟨hcalls, houtcome⟩ := h
  constructor
  · rw [trace_bind, Trace.andThen_of_none (Trace.outcome?_eq_none_iff.mp houtcome)]
    exact hcalls
  · rw [outcome?_bind, houtcome]
    rfl

end Runs

end Shakedown.Plan
