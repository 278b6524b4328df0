/-
  Shakedown.Run.Failure

  Why a run ended without a report.  Every failure is final and belongs to
  one stage of the run.
-/
import Shakedown.Agent.Exit
import Shakedown.Scenario.Cause
import Shakedown.Token.Issue

namespace Shakedown

inductive RunStage where
  | configure
  | launch
  | readiness
  | issuance
  | scenario
  | interrupted
deriving DecidableEq, Repr

namespace RunStage

/-- The word for a stage. -/
def text : RunStage → String
  | configure => "configure"
  | launch => "launch"
  | readiness => "readiness"
  | issuance => "issuance"
  | scenario => "scenario"
  | interrupted => "interrupted"

end RunStage

inductive RunFailure where
  /-- What the agent needs could not be set up. -/
  | configuration (message : String)
  /-- The agent's program could not be started. -/
  | notLaunched (command : String) (reason : String)
  /-- So many health checks failed, for the given reasons. -/
  | notReady (attempts : Nat) (reason : String)
  /-- The agent exited while its health was still being checked. -/
  | exitedEarly (exit : ProcessExit)
  /-- The agent issued no token. -/
  | noToken (fault : IssueFault)
  /-- The scenario failed. -/
  | scenarioFailed (cause : ScenarioCause)
  /-- The run was interrupted. -/
  | interrupted
deriving DecidableEq, Repr

namespace RunFailure

/-- The text of a failure. -/
def message : RunFailure → String
  | configuration m => "invalid configuration: " ++ m
  | notLaunched command reason => "failed to spawn agent `" ++ command ++ "`: " ++ reason
  | notReady attempts reason =>
    "agent not ready after " ++ Text.Decimal.text attempts ++ " attempts: " ++ reason
  | exitedEarly exit => "agent exited before becoming ready (" ++ exit.text ++ ")"
  | noToken fault => "token issuance failed: " ++ fault.message
  | scenarioFailed cause => "scenario assertion failed: " ++ cause.message
  | interrupted => "interrupted by signal"

def stage : RunFailure → RunStage
  | configuration _ => .configure
  | notLaunched _ _ => .launch
  | notReady _ _ => .readiness
  | exitedEarly _ => .readiness
  | noToken _ => .issuance
  | scenarioFailed _ => .scenario
  | interrupted => .interrupted

/-- Whether the run was interrupted rather than failed. -/
def isInterruption (f : RunFailure) : Bool :=
  f == .interrupted

end RunFailure

end Shakedown
