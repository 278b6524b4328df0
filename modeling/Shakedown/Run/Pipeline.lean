/-
  Shakedown.Run.Pipeline

  The stages of a run against a launched agent: wait until it is ready, have
  it issue a token, put it through the scenario, revoke the token.  The first
  stage that fails ends the run, except that the token is revoked whatever
  the scenario came to.
-/
import Shakedown.Readiness
import Shakedown.Run.Parameters

namespace Shakedown

/-- What the stages of a run found out. -/
structure RunFindings where
  /-- How many health checks it took. -/
  readyAfter : Nat
  token : ScopedToken
  tokenRevoked : Bool
  scenario : ScenarioFindings
deriving DecidableEq, Repr

namespace Run

/-- The outcome of the scenario as an outcome of the run. -/
def settle (findings : RunFindings) : Except RunFailure RunFindings :=
  match findings.scenario.cause with
  | none => .ok findings
  | some cause => .error (.scenarioFailed cause)

/-- Revokes the token of a run if it is to be revoked.  A revocation that fails
leaves the token unrevoked and the run as it is. -/
def revoke (config : RunParameters) (token : ScopedToken) : Plan Bool :=
  if config.revokeToken then
    (Token.revoke config.launch.adminToken token).bind fun
      | .ok revoked => .done revoked
      | .error _ => .done false
  else .done false

/-- The scenario and the revocation after it, from a moment on. -/
def exercise (config : RunParameters) (readyAfter : Nat) (token : ScopedToken) (now : Moment) :
    Plan (Except RunFailure RunFindings) :=
  (Scenario.plan config.launch.adminToken token config.scenario now).bind fun outcome =>
    (revoke config token).bind fun revoked =>
      .done (settle ⟨readyAfter, token, revoked, outcome⟩)

/-- A run that has failed at a time. -/
def failed (now : Nat) (f : RunFailure) : Trace (Except RunFailure α) :=
  ⟨[], some (now, .error f)⟩

/-- The stages from issuance on. -/
def afterReady (api : Api σ) (config : RunParameters) (clock : Nat → Moment) (readyAfter : Nat)
    (now : Nat) (s : σ) : Trace (Except RunFailure RunFindings) :=
  let issued := (Token.issue config.launch.adminToken config.token (clock now)).trace api now s
  issued.andThen fun now result => match result with
    | .error fault => failed now (.noToken fault)
    | .ok token =>
      -- The scenario meets the API as the order of the token has left it.
      (exercise config readyAfter token (clock now)).trace api now (api.after s issued.calls)

/-- The stages of a run, from a time on, with an agent that exits as given.
`clock` tells the moment of each time. -/
def pipeline (api : Api σ) (config : RunParameters) (exit : Option (Nat × ProcessExit))
    (clock : Nat → Moment) (now : Nat) (s : σ) : Trace (Except RunFailure RunFindings) :=
  let ready := Readiness.await api config.launch.adminToken config.probe exit now s
  ready.andThen fun now result => match result with
    | .error f => failed now f
    | .ok readyAfter => afterReady api config clock readyAfter now (api.after s ready.calls)

end Run

end Shakedown
