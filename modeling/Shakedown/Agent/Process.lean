/-
  Shakedown.Agent.Process

  A launched agent in time: when it would exit of its own accord, how it
  takes signals, which signals its process group has been sent, and so when
  and how it exits.  Signals that come after an exit change nothing.
-/
import Shakedown.Agent.Exit
import Shakedown.Interrupt

namespace Shakedown

/-- A signal that the harness sends. -/
inductive AgentSignal where
  /-- Asks to stop. -/
  | term
  /-- Stops at once. -/
  | kill
deriving DecidableEq, Repr

/-- How an agent behaves: what it does of its own accord, at a time after its
launch, and what a signal makes it do, after a delay.  `none` stands for
nothing at all. -/
structure AgentLife where
  natural : Option (Nat × ProcessExit)
  onTerm : Option (Nat × ProcessExit)
  onKill : Option (Nat × ProcessExit)
deriving DecidableEq, Repr

/-- What a signal makes an agent do. -/
def AgentLife.reaction (l : AgentLife) : AgentSignal → Option (Nat × ProcessExit)
  | .term => l.onTerm
  | .kill => l.onKill

/-- A launched agent, and the signals it was sent, in order, with their times. -/
structure AgentProcess where
  pid : Pid
  life : AgentLife
  launched : Nat
  signals : List (Nat × AgentSignal) := []
deriving DecidableEq, Repr

/-- The earlier of two exits that may come; of two at one time the first. -/
def earlier : Option (Nat × ProcessExit) → Option (Nat × ProcessExit) → Option (Nat × ProcessExit)
  | none, b => b
  | some a, none => some a
  | some a, some b => if b.1 < a.1 then some b else some a

namespace AgentProcess

def send (p : AgentProcess) (now : Nat) (s : AgentSignal) : AgentProcess :=
  { p with signals := p.signals ++ [(now, s)] }

/-- When and how the agent exits of its own accord. -/
def naturalExit? (p : AgentProcess) : Option (Nat × ProcessExit) :=
  p.life.natural.map fun e => (p.launched + e.1, e.2)

/-- When and how a signal makes the agent exit. -/
def exitOn (p : AgentProcess) (s : Nat × AgentSignal) : Option (Nat × ProcessExit) :=
  (p.life.reaction s.2).map fun e => (s.1 + e.1, e.2)

/-- When and how the agent exits, after all that it was sent so far. -/
def exit? (p : AgentProcess) : Option (Nat × ProcessExit) :=
  p.signals.foldl (fun e s => earlier e (p.exitOn s)) p.naturalExit?

def exitBy (p : AgentProcess) (now : Nat) : Option ProcessExit :=
  (p.exit?.filter fun e => e.1 ≤ now).map (·.2)

def isRunning (p : AgentProcess) (now : Nat) : Bool :=
  (p.exitBy now).isNone

/-! ## Stopping an agent -/

/-- What became of the attempt to stop an agent. -/
structure Termination where
  process : AgentProcess
  /-- Whether the agent had to be killed. -/
  forced : Bool
  /-- When it was over. -/
  time : Nat
deriving DecidableEq, Repr

/-- Stops an agent: asks it to, waits for its exit up to the grace, and kills it
then.  An agent that has exited is left alone. -/
def terminate (p : AgentProcess) (now grace : Nat) : Termination :=
  if (p.exitBy now).isSome then ⟨p, false, now⟩
  else
    let asked := p.send now .term
    match asked.exit?.filter fun e => e.1 ≤ now + grace with
    | some (time, _) => ⟨asked, false, time⟩
    | none => ⟨asked.send (now + grace) .kill, true, now + grace⟩

end AgentProcess

end Shakedown
