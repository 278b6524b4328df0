/-
  Shakedown.Run.Basic

  A whole run: launch the agent, arm the kill switch, go through the stages,
  clean up, disarm.  Cleanup follows every launch that succeeded, whatever
  the stages come to, and never changes what they came to.
-/
import Shakedown.Agent.Cleanup
import Shakedown.Agent.Machine
import Shakedown.Run.Interruption
import Shakedown.Run.Pipeline

namespace Shakedown

/-- What a run that passed reports. -/
structure RunSummary where
  findings : RunFindings
  cleanup : CleanupFindings
deriving DecidableEq, Repr

/-- A step of a run. -/
inductive RunStep where
  | launched (pid : Pid)
  | armed (pid : Pid)
  /-- A call or a wait of the stages. -/
  | event (e : Event)
  | cleanedUp (report : CleanupFindings)
  | disarmed

/-- A run: the steps it took, what it came to (nothing if it never ends), and the
machine and the agent as it left them. -/
structure Execution where
  steps : List RunStep
  result : Option (Except RunFailure RunSummary)
  machine : Machine
  agent : Option LaunchedAgent := none

namespace Execution

/-- The calls that a run made. -/
def calls (x : Execution) : List TimedCall :=
  x.steps.filterMap fun
    | .event e => e.call?
    | _ => none

/-- The process group that the kill switch holds after steps. -/
def armedAfter (held : Option Pid) : List RunStep → Option Pid
  | [] => held
  | .armed pid :: rest => armedAfter (some pid) rest
  | .disarmed :: rest => armedAfter none rest
  | _ :: rest => armedAfter held rest

end Execution

/-- When a run is cancelled. -/
inductive Cancellation where
  /-- Before it begins. -/
  | beforehand
  /-- While its stages go on. -/
  | during (i : Interruption)
deriving DecidableEq, Repr

namespace Run

/-- The stages of a run with a cancellation that may cut them short. -/
def stages (api : Api σ) (config : RunParameters) (agent : LaunchedAgent) (clock : Nat → Moment)
    (interruption : Option Interruption) (s : σ) : Trace (Except RunFailure RunFindings) :=
  Interruption.apply interruption 0 (.error .interrupted)
    (pipeline api config agent.process.exit? clock 0 s)

/-- The run of an agent that was launched at time zero. -/
def supervise (api : Api σ) (config : RunParameters) (machine : Machine) (agent : LaunchedAgent)
    (clock : Nat → Moment) (interruption : Option Interruption) (s : σ) : Execution :=
  let pid := agent.process.pid
  let t := stages api config agent clock interruption s
  let before := RunStep.launched pid :: RunStep.armed pid :: t.events.map RunStep.event
  match t.ending with
  -- Stages that go on for ever are never cleaned up after.
  | none => ⟨before, none, machine, some agent⟩
  | some (now, result) =>
    let cleaned := agent.process.cleanup now config.cleanupGrace.nanoseconds
    { steps := before ++ [.cleanedUp cleaned.report, .disarmed]
      result := some (result.map fun findings => ⟨findings, cleaned.report⟩)
      machine
      agent := some { agent with process := cleaned.process } }

/-- A run on a machine, which starts at time zero. -/
def execute (api : Api σ) (config : RunParameters) (machine : Machine) (clock : Nat → Moment)
    (cancellation : Option Cancellation) (s : σ) : Execution :=
  match cancellation with
  | some .beforehand => ⟨[], some (.error .interrupted), machine, none⟩
  | other =>
    match machine.launch config.launch 0 with
    -- There is no agent, so nothing is armed and nothing cleaned up.
    | (machine, .error f) => ⟨[], some (.error f), machine, none⟩
    | (machine, .ok agent) =>
      let interruption := match other with
        | some (.during i) => some i
        | _ => none
      supervise api config machine agent clock interruption s

end Run

end Shakedown
