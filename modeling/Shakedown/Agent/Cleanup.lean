/-
  Shakedown.Agent.Cleanup

  Cleaning up after an agent: it is stopped and its exit awaited, each
  bounded by the grace.  Any number of callers may ask for it at any time;
  they share one cleanup and see one report.
-/
import Shakedown.Agent.Process

namespace Shakedown

/-- What cleanup observed. -/
structure CleanupFindings where
  /-- How the agent exited, unless it had not when the grace was over. -/
  exit : Option ProcessExit
  /-- Whether the agent had to be killed. -/
  forced : Bool
deriving DecidableEq, Repr

namespace AgentProcess

/-- What became of a cleanup. -/
structure Cleaned where
  process : AgentProcess
  report : CleanupFindings
  time : Nat
deriving DecidableEq, Repr

/-- Stops an agent and waits for its exit, up to the grace. -/
def cleanup (p : AgentProcess) (now grace : Nat) : Cleaned :=
  let t := p.terminate now grace
  match t.process.exit?.filter fun e => e.1 ≤ t.time + grace with
  | some (time, exit) => ⟨t.process, ⟨some exit, t.forced⟩, Nat.max t.time time⟩
  | none => ⟨t.process, ⟨none, t.forced⟩, t.time + grace⟩

end AgentProcess

/-! ## One cleanup for all callers -/

/-- How far a shared cleanup has come. -/
inductive CleanupPhase where
  /-- Nobody has asked for it. -/
  | idle
  /-- The agent has been asked to stop. -/
  | asked (since : Nat)
  /-- The agent has stopped or been killed, and its exit is awaited. -/
  | reaping (since : Nat) (forced : Bool)
  | finished (time : Nat) (report : CleanupFindings)
deriving DecidableEq, Repr

/-- A cleanup that any number of callers share. -/
structure SharedCleanup where
  process : AgentProcess
  grace : Nat
  phase : CleanupPhase := .idle
deriving DecidableEq, Repr

namespace SharedCleanup

/-- Whether the cleanup is over. -/
def isDone (c : SharedCleanup) : Bool :=
  match c.phase with
  | .finished _ _ => true
  | _ => false

/-- The report, once there is one. -/
def report? (c : SharedCleanup) : Option CleanupFindings :=
  match c.phase with
  | .finished _ r => some r
  | _ => none

/-- One step that the cleanup can take by a time: from asking to reaping once the
agent exits or the grace is over, and from reaping to the report likewise. -/
def step (c : SharedCleanup) (now : Nat) : SharedCleanup :=
  match c.phase with
  | .idle => c
  | .finished _ _ => c
  | .asked since =>
    let deadline := since + c.grace
    -- An exit at the very deadline is in time, so it is looked for first.
    match c.process.exit?.filter fun e => e.1 ≤ Nat.min now deadline with
    | some (time, _) => { c with phase := .reaping (Nat.max since time) false }
    | none =>
      if deadline ≤ now then
        { c with process := c.process.send deadline .kill, phase := .reaping deadline true }
      else c
  | .reaping since forced =>
    let deadline := since + c.grace
    match c.process.exit?.filter fun e => e.1 ≤ Nat.min now deadline with
    | some (time, exit) =>
      { c with phase := .finished (Nat.max since time) ⟨some exit, forced⟩ }
    | none =>
      if deadline ≤ now then { c with phase := .finished deadline ⟨none, forced⟩ } else c

/-- The cleanup as far as it has come by a time. -/
def advance (c : SharedCleanup) (now : Nat) : SharedCleanup :=
  -- Two steps lead from the request to the report, and there are no others.
  (c.step now).step now

/-- A caller asks for the cleanup: the first one starts it. -/
def call (c : SharedCleanup) (now : Nat) : SharedCleanup :=
  match (c.advance now).phase with
  | .idle =>
    -- An agent that has exited is not asked to stop.
    if (c.process.exitBy now).isSome then
      ({ c with phase := .reaping now false } : SharedCleanup).advance now
    else
      ({ c with process := c.process.send now .term, phase := .asked now } :
        SharedCleanup).advance now
  | _ => c.advance now

/-- What a caller at a time sees: the report and when it comes. -/
def await (c : SharedCleanup) (now : Nat) : SharedCleanup × Option (Nat × CleanupFindings) :=
  -- One grace for the stop and one for the exit: by then the report is there.
  let c := (c.call now).advance (now + 2 * c.grace)
  match c.phase with
  | .finished time r => (c, some (Nat.max now time, r))
  | _ => (c, none)

end SharedCleanup

end Shakedown
