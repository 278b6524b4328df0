/-
  Shakedown.Api.Behaviour

  An agent's API as its callers meet it: for every call, after any earlier
  ones and at any time, how long the answer takes and what it says.  Times
  are nanoseconds on a clock that starts with the harness and moves only
  while something is waited for.
-/
import Shakedown.Api.Request

namespace Shakedown

/-- An answer: how long it takes, `none` if it never comes, and what it says. -/
structure Answer (c : Call) where
  delay : Option Nat
  result : c.Result

/-- An API with states `σ`.  The state is what the API remembers of the calls
made before; it changes when a call starts. -/
structure Api (σ : Type) where
  answer : σ → (now : Nat) → (c : Call) → Answer c × σ

structure TimedCall where
  time : Nat
  call : Call

namespace Api

/-- The same API for callers that tell the agent's health by its system information. -/
def healthBySystemInfo (api : Api σ) : Api σ where
  answer s now
    | ⟨token, .health⟩ =>
      let (a, s) := api.answer s now ⟨token, .systemInfo⟩
      (⟨a.delay, healthOf a.result⟩, s)
    | c => api.answer s now c

/-- The state after calls at given times. -/
def after (api : Api σ) (s : σ) (calls : List TimedCall) : σ :=
  calls.foldl (fun s c => (api.answer s c.time c.call).2) s

theorem after_append (api : Api σ) (s : σ) (xs ys : List TimedCall) :
    api.after s (xs ++ ys) = api.after (api.after s xs) ys := by
  simp [after]

end Api

end Shakedown
