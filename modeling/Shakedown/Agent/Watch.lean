/-
  Shakedown.Agent.Watch

  Watching a launched agent while time goes on: asking about it, waiting for
  it, and stopping it, each from where the last left off.
-/
import Shakedown.Agent.Cleanup
import Shakedown.Readiness

namespace Shakedown

/-- A launched agent, its shared cleanup, and the time. -/
structure AgentWatch where
  cleanup : SharedCleanup
  now : Nat := 0

namespace AgentWatch

/-- The watch of an agent that has just been launched. -/
def ofProcess (process : AgentProcess) (grace : Nat) : AgentWatch :=
  ⟨{ process, grace }, process.launched⟩

def process (w : AgentWatch) : AgentProcess := w.cleanup.process

/-- The watch with the agent as something left it. -/
def withProcess (w : AgentWatch) (p : AgentProcess) : AgentWatch :=
  { w with cleanup := { w.cleanup with process := p } }

/-- Some time later. -/
def wait (w : AgentWatch) (length : Nat) : AgentWatch :=
  { w with now := w.now + length }

def isRunning (w : AgentWatch) : Bool := w.process.isRunning w.now

def exit? (w : AgentWatch) : Option ProcessExit := w.process.exitBy w.now

/-- Waits for the agent's exit, if it ever comes. -/
def awaitExit (w : AgentWatch) : AgentWatch :=
  match w.process.exit? with
  | some (time, _) => { w with now := Nat.max w.now time }
  | none => w

/-- Stops the agent, and tells whether it had to be killed. -/
def terminate (w : AgentWatch) : AgentWatch × Bool :=
  let t := w.process.terminate w.now w.cleanup.grace
  ({ w.withProcess t.process with now := t.time }, t.forced)

def kill (w : AgentWatch) : AgentWatch :=
  w.withProcess (w.process.send w.now .kill)

/-- Asks for the cleanup and waits for its report. -/
def awaitCleanup (w : AgentWatch) : AgentWatch × Option CleanupFindings :=
  match w.cleanup.await w.now with
  | (cleanup, some (time, findings)) => (⟨cleanup, time⟩, some findings)
  | (cleanup, none) => (⟨cleanup, w.now⟩, none)

/-- Waits for the agent to be ready, and tells how many calls that took and what it
came to, unless it goes on for ever. -/
def awaitReady (w : AgentWatch) (api : Api σ) (adminToken : String) (schedule : ProbeSchedule)
    (s : σ) : AgentWatch × Nat × Option (Except RunFailure Nat) :=
  let t := Readiness.await api adminToken schedule w.process.exit? w.now s
  match t.ending with
  | some (now, result) => ({ w with now }, t.calls.length, some result)
  | none => (w, t.calls.length, none)

end AgentWatch

end Shakedown
