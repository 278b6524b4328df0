/-
  Shakedown.Run.Parameters

  Everything one run needs to know.
-/
import Shakedown.Launch
import Shakedown.Probe
import Shakedown.Scenario.Basic
import Shakedown.Token.Issue

namespace Shakedown

/-- Everything one run needs to know. -/
structure RunParameters where
  launch : Launch
  probe : ProbeSchedule := {}
  token : TokenParameters := {}
  scenario : ScenarioParameters := {}
  /-- How long a call may take.  Health checks have a limit of their own. -/
  requestTimeout : Duration := .ofSeconds 30
  /-- How long cleanup waits after asking the agent to stop, and again for it
  to be gone. -/
  cleanupGrace : Duration := .ofSeconds 5
  /-- Whether the scoped token is revoked once the scenario has run. -/
  revokeToken : Bool := true
deriving DecidableEq, Repr

end Shakedown
