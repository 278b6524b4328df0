/-
  Shakedown.Proofs.Run.Opacity

  Credentials are opaque to a run.  Two runs with other admin tokens, against
  APIs that cannot tell the credentials of the one from those of the other,
  take the same steps at the same times, make the same requests with the same
  bodies, and come to the same end.  All that differs is the credential of
  each call, and the secret of the token that a run reports.

  A launch hands the admin token to the agent's environment, which does not
  take every text.  So the two tokens are to be taken alike there: both, or
  neither and for the same reason.
-/
import Shakedown.Proofs.Plan.Alike
import Shakedown.Proofs.Probe
import Shakedown.Proofs.Run.Execution
import Shakedown.Proofs.Token.Issue

namespace Shakedown

variable {σ τ : Type} {P : String → String → Prop} {R : σ → τ → Prop} {api : Api σ}
  {other : Api τ} {s : σ} {t : τ} {a b u v : String} {token : ScopedToken}

/-! ## Launching with another admin token -/

namespace Machine

variable {m : Machine} {l : Launch}

end Machine

/-! ## Credentials -/

/-- Whether a request is made with the scoped token, and not as the admin. -/
def Request.isScoped : Request → Bool
  | .createContainer _ => true
  | .listContainers => true
  | _ => false

/-- The credentials of two runs for one request: the admin tokens `a` and `b`, or the
secrets `u` and `v` of the tokens that the runs were issued. -/
inductive Presents (P : String → String → Prop) (a b u v : String) :
    Request → String → String → Prop where
  | asAdmin {r : Request} (h : r.isScoped = false) (hP : P a b) : Presents P a b u v r a b
  | withToken {r : Request} (h : r.isScoped = true) (hP : P u v) : Presents P a b u v r u v

theorem Presents.paired {r : Request} {c d : String} (h : Presents P a b u v r c d) : P c d := by
  cases h with
  | asAdmin _ hP => exact hP
  | withToken _ hP => exact hP

/-- The token with another secret. -/
def ScopedToken.withSecret (token : ScopedToken) (secret : String) : ScopedToken :=
  { token with secret }

/-! ## Readiness -/

/-- Two endings of a stage: the same failure, or values as `S` has them. -/
inductive EndsAlike {α β : Type} (S : α → β → Prop) :
    Except RunFailure α → Except RunFailure β → Prop where
  | failed (f : RunFailure) : EndsAlike S (.error f) (.error f)
  | passed {x : α} {y : β} (h : S x y) : EndsAlike S (.ok x) (.ok y)

namespace Scenario

end Scenario

/-! ## The stages of a run -/

/-- Two findings that differ in the secret of the token only: `u` in the one, `v` in the
other. -/
def RunFindings.Alike (u v : String) (x y : RunFindings) : Prop :=
  x.token.secret = u ∧ y = { x with token := x.token.withSecret v }

namespace Run

variable {config : RunParameters}

end Run

/-! ## Whole runs -/

/-- Two steps of runs: calls and waits that are alike, or the same otherwise. -/
inductive RunStep.Alike (Q : Request → String → String → Prop) : RunStep → RunStep → Prop where
  | launched (pid : Pid) : RunStep.Alike Q (.launched pid) (.launched pid)
  | armed (pid : Pid) : RunStep.Alike Q (.armed pid) (.armed pid)
  | event {e f : Event} (h : e.Alike Q f) : RunStep.Alike Q (.event e) (.event f)
  | cleanedUp (report : CleanupFindings) : RunStep.Alike Q (.cleanedUp report) (.cleanedUp report)
  | disarmed : RunStep.Alike Q .disarmed .disarmed

/-- Two reports that differ in the secret of the token only: `u` in the one, `v` in the
other. -/
def RunSummary.Alike (u v : String) (x y : RunSummary) : Prop :=
  x.findings.Alike u v y.findings ∧ y.cleanup = x.cleanup

/-- Two runs that take the same steps at the same times and come to the same end: the same
failure, or one report, or none because they go on for ever.  The credentials of their
calls are as `Q` has them, and the tokens they report have the secrets `u` and `v`. -/
structure Execution.Alike (Q : Request → String → String → Prop) (u v : String)
    (x y : Execution) : Prop where
  steps : List.Forall₂ (RunStep.Alike Q) x.steps y.steps
  result : Option.Rel (EndsAlike (RunSummary.Alike u v)) x.result y.result
  machine : x.machine = y.machine
  agent : x.agent = y.agent

/-- A run that is like one that failed came to the same failure. -/
theorem Execution.Alike.failed {Q : Request → String → String → Prop} {x y : Execution}
    (h : x.Alike Q u v y) {f : RunFailure} (hx : x.result = some (.error f)) :
    y.result = some (.error f) := by
  have hresult := h.result
  rw [hx] at hresult
  generalize y.result = result at hresult ⊢
  cases hresult with
  | some hend =>
    cases hend with
    | failed => rfl

/-- A run that is like one that passed came to a report that differs in the secret only. -/
theorem Execution.Alike.passed {Q : Request → String → String → Prop} {x y : Execution}
    (h : x.Alike Q u v y) {report : RunSummary} (hx : x.result = some (.ok report)) :
    ∃ report', y.result = some (.ok report') ∧ report.Alike u v report' := by
  have hresult := h.result
  rw [hx] at hresult
  generalize y.result = result at hresult ⊢
  cases hresult with
  | some hend =>
    cases hend with
    | passed hreport => exact ⟨_, rfl, hreport⟩

namespace Run

end Run

end Shakedown
