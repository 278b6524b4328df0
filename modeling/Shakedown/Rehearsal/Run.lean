/-
  Shakedown.Rehearsal.Run

  A run rehearsed against a script, with the cancellation that a scripted
  reply may fire.
-/
import Shakedown.Rehearsal.Api
import Shakedown.Run.Basic

namespace Shakedown.Rehearsal

/-- The cancellation that the replies of a script fire during a run, if they do: it
comes with the first call whose reply interrupts. -/
def cancellation? (script : Script) (config : RunParameters) (machine : Machine)
    (clock : Nat → Moment) : Option Cancellation :=
  match (machine.launch config.launch 0).2 with
  | .error _ => none
  | .ok agent =>
    let t := Run.pipeline script.api config agent.process.exit? clock 0 Script.start
    (script.interruptedAfter? Script.start t.events).map fun events => .during { events }

/-- A run against a script.  `cancelled` says whether it is cancelled beforehand. -/
def execute (script : Script) (config : RunParameters) (machine : Machine) (clock : Nat → Moment)
    (cancelled : Bool) : Execution :=
  let cancellation :=
    if cancelled then some .beforehand else cancellation? script config machine clock
  Run.execute script.api config machine clock cancellation Script.start

end Shakedown.Rehearsal
