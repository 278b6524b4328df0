/-
  Shakedown.Run.Lifecycle

  A run next to the signals that the harness gets meanwhile.  The run takes
  its steps one after the other, and any number of signals may be handled
  between two of them.  What the agent does is told by what the steps see of
  its exit: that may come in time, only after the agent was killed, or not at
  all.
-/
import Shakedown.Interrupt

namespace Shakedown

/-- How far a run has come. -/
inductive RunPhase where
  /-- Nothing has been done. -/
  | start
  /-- The cancellation has been looked at, and the agent may be launched. -/
  | checked
  | launched
  | armed
  /-- The stages are over. -/
  | staged
  | cleaned
  /-- The run has ended. -/
  | ended
deriving DecidableEq, Repr

/-- A run and the signals so far. -/
structure Lifecycle where
  phase : RunPhase := .start
  interrupts : InterruptState := {}
  /-- The agent's process group, once it was launched. -/
  spawned : Option Pid := none
  /-- Whether the agent's exit has been observed. -/
  exitSeen : Bool := false
  /-- The process groups that were killed. -/
  killed : List Pid := []
  /-- What the harness did about each signal, in order. -/
  responses : List SignalResponse := []
deriving DecidableEq, Repr

/-- Whether a step observes the agent's exit. -/
inductive ExitSighting where
  | missed
  /-- Before the step would kill the agent. -/
  | inTime
  /-- Only once the step has killed the agent, if it does. -/
  | onceKilled
deriving DecidableEq, Repr

/-- Something that happens. -/
inductive LifecycleEvent where
  /-- The run takes its next step.  `pid` is what a launch would yield, and `exit`
  whether the step observes the agent's exit. -/
  | next (pid : Option Pid) (exit : ExitSighting)
  /-- A signal is handled. -/
  | signal
deriving DecidableEq, Repr

namespace Lifecycle

/-- The stages of a run: they kill nobody, but may see the agent exit. -/
def passStages (l : Lifecycle) (exit : ExitSighting) : Lifecycle :=
  { l with phase := .staged, exitSeen := l.exitSeen || exit == .inTime }

/-- The cleanup of a run.  An agent whose exit is not observed in time is killed. -/
def cleanUp (l : Lifecycle) (exit : ExitSighting) : Lifecycle :=
  if l.exitSeen || exit == .inTime then { l with phase := .cleaned, exitSeen := true }
  else
    { l with
      phase := .cleaned
      exitSeen := exit == .onceKilled
      killed := l.killed ++ l.spawned.toList }

def handleSignal (l : Lifecycle) : Lifecycle :=
  let (response, target, interrupts) := l.interrupts.signal
  { l with
    interrupts
    killed := l.killed ++ target.toList
    responses := l.responses ++ [response] }

/-- The next step of the run. -/
def advance (l : Lifecycle) (pid : Option Pid) (exit : ExitSighting) : Lifecycle :=
  match l.phase with
  | .start => { l with phase := if l.interrupts.cancelled then .ended else .checked }
  | .checked => match pid with
    | some pid => { l with phase := .launched, spawned := some pid }
    | none => { l with phase := .ended }
  -- Until this step the agent runs already, but a signal finds no group to kill.
  | .launched => match l.spawned with
    | some pid => { l with phase := .armed, interrupts := l.interrupts.arm pid }
    | none => { l with phase := .armed }
  | .armed => l.passStages exit
  | .staged => l.cleanUp exit
  -- The switch holds the agent until the cleanup is over.
  | .cleaned => { l with phase := .ended, interrupts := l.interrupts.disarm }
  | .ended => l

/-- What happens next. -/
def step (l : Lifecycle) : LifecycleEvent → Lifecycle
  | .next pid exit => l.advance pid exit
  | .signal => l.handleSignal

/-- All that happens, from the start. -/
def run (events : List LifecycleEvent) : Lifecycle :=
  events.foldl step {}

end Lifecycle

end Shakedown
