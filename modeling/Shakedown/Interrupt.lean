/-
  Shakedown.Interrupt

  Stopping the harness from outside.  The kill switch holds the agent's
  process group while there is one, so that a harness that exits at once does
  not leave the agent behind.  The first signal asks the run to stop and the
  agent to be cleaned up; any later one kills the agent and ends the harness.
-/

namespace Shakedown

/-- The number of a process, which also names the process group it leads. -/
abbrev Pid := Nat

/-! ## Kill switches -/

/-- Kill switches.  Each stands on a slot, and those that share one act as one. -/
structure KillSwitches where
  /-- The process group that each slot holds. -/
  slots : List (Option Pid)
  /-- The slot that each switch stands on. -/
  switches : List Nat
deriving DecidableEq, Repr

namespace KillSwitches

/-- One switch that holds nothing. -/
def single : KillSwitches := ⟨[none], [0]⟩

/-- The process group that a switch holds. -/
def armed (k : KillSwitches) (i : Nat) : Option Pid := do
  let slot ← k.switches[i]?
  (k.slots[slot]?).join

/-- What every switch holds. -/
def all (k : KillSwitches) : List (Option Pid) :=
  k.switches.map fun slot => (k.slots[slot]?).join

/-- Makes the slot of a switch hold what is given, if there is such a switch. -/
def put (k : KillSwitches) (i : Nat) (held : Option Pid) : KillSwitches :=
  match k.switches[i]? with
  | some slot => { k with slots := k.slots.set slot held }
  | none => k

/-- Makes a switch hold a process group in place of any other. -/
def arm (k : KillSwitches) (i : Nat) (pid : Pid) : KillSwitches :=
  k.put i (some pid)

/-- Makes a switch hold nothing. -/
def disarm (k : KillSwitches) (i : Nat) : KillSwitches :=
  k.put i none

/-- Adds a switch on the slot of another. -/
def share (k : KillSwitches) (i : Nat) : KillSwitches :=
  match k.switches[i]? with
  | some slot => { k with switches := k.switches ++ [slot] }
  | none => k

/-- Adds a switch on a slot of its own. -/
def add (k : KillSwitches) : KillSwitches :=
  ⟨k.slots ++ [none], k.switches ++ [k.slots.length]⟩

/-- The process group that firing a switch kills.  Numbers that no process can
have are left alone. -/
def target? (k : KillSwitches) (i : Nat) : Option Pid :=
  (k.armed i).filter (· < Nat.pow 2 31)

end KillSwitches

/-! ## Signals -/

/-- What the harness does about a signal. -/
inductive SignalResponse where
  /-- The run stops, and the agent is cleaned up. -/
  | stop
  /-- The agent is killed and the harness exits. -/
  | forceExit
deriving DecidableEq, Repr

/-- What is known of the signals so far. -/
structure InterruptState where
  /-- Whether a signal has come. -/
  seen : Bool := false
  /-- Whether the run has been asked to stop. -/
  cancelled : Bool := false
  /-- The process group to kill, if one is held. -/
  armed : Option Pid := none
deriving DecidableEq, Repr, Inhabited

namespace InterruptState

def arm (i : InterruptState) (pid : Pid) : InterruptState :=
  { i with armed := some pid }

def disarm (i : InterruptState) : InterruptState :=
  { i with armed := none }

/-- A signal comes: what the harness does about it, the process group that it
kills, and what is known afterwards. -/
def signal (i : InterruptState) : SignalResponse × Option Pid × InterruptState :=
  if i.seen then (.forceExit, i.armed, i)
  else (.stop, none, { i with seen := true, cancelled := true })

end InterruptState

end Shakedown
