/-
  Shakedown.Readiness

  Waiting for an agent to be ready, which its exit cuts short.  The exit is
  told rather than the verdict of a probe that ends with it, so a dead agent
  is never reported as one that is merely not ready.
-/
import Shakedown.Probe
import Shakedown.Run.Failure

namespace Shakedown.Readiness

/-- The verdict of a probe as an outcome of the run: how many checks it took. -/
def ofVerdict : ProbeVerdict → Except RunFailure Nat
  | .ready attempts => .ok attempts
  | .failed attempts reason => .error (.notReady attempts reason)

/-- A probe started at a time, with an agent that exits as given, if it does. -/
def race (now : Nat) (exit : Option (Nat × ProcessExit)) (probe : Trace ProbeVerdict) :
    Trace (Except RunFailure Nat) :=
  match exit with
  | none => probe.map ofVerdict
  | some (time, x) =>
    -- A probe that ends together with the agent loses the race.
    if probe.ending.any fun e => e.1 < time then probe.map ofVerdict
    else ⟨Trace.eventsBefore time probe.events, some (Nat.max now time, .error (.exitedEarly x))⟩

/-- Waits for an agent to be ready. -/
def await (api : Api σ) (adminToken : String) (schedule : ProbeSchedule)
    (exit : Option (Nat × ProcessExit)) (now : Nat) (s : σ) : Trace (Except RunFailure Nat) :=
  race now exit ((Probe.plan adminToken schedule).trace api now s)

end Shakedown.Readiness
