/-
  Shakedown.Rehearsal.Agent

  An agent that is no more than a description: what it writes, and how it
  ends.
-/
import Shakedown.Agent.Machine

namespace Shakedown.Rehearsal

/-- Something that a described agent writes. -/
inductive Utterance where
  | bytes (stream : OutputChannel) (content : List UInt8)
  /-- A variable of its environment, as `NAME=value`. -/
  | variable (name : String)
  /-- Its working directory. -/
  | workingDir
  /-- Its arguments, each in brackets. -/
  | args
deriving DecidableEq, Repr

/-- How a described agent ends. -/
inductive Ending where
  | exit (code : Nat)
  | signal (number : Nat)
  /-- Waits until it is asked to stop, and ends as it does by default. -/
  | wait
  /-- Waits, and takes no notice of being asked to stop. -/
  | ignore
  /-- Waits until it is asked to stop, and exits with a code. -/
  | exitOnTerm (code : Nat)
deriving DecidableEq, Repr

/-- A described agent. -/
structure ScriptedAgent where
  utterances : List Utterance := []
  ending : Ending := .wait
deriving DecidableEq, Repr

namespace ScriptedAgent

/-- How long an agent takes until it exits of its own accord, in nanoseconds. -/
def exitDelay : Nat := 2000000

/-- How long an agent takes to react to a signal. -/
def reactionDelay : Nat := 100000

/-- How long an agent waits to be asked to stop. -/
def patience : Nat := 30000000000

/-- What an agent writes for one utterance. -/
def chunk (start : ProgramStart) : Utterance → OutputChunk
  | .bytes stream content => ⟨stream, content⟩
  | .variable name =>
    let value := ((start.environment.find? fun v => v.1 == name).map (·.2)).getD ""
    ⟨.stdout, Text.Utf8.encode (name ++ "=" ++ value ++ "\n")⟩
  | .workingDir =>
    ⟨.stdout, Text.Utf8.encode ("/" ++ String.intercalate "/" start.workingPlace ++ "\n")⟩
  | .args =>
    ⟨.stdout, Text.Utf8.encode (String.join (start.args.map fun a => "[" ++ a ++ "]\n"))⟩

/-- The behaviour of an agent that ends in a given way. -/
def life (ending : Ending) : AgentLife :=
  let killed : Option (Nat × ProcessExit) := some (reactionDelay, .ofSignal 9)
  let stopped : Option (Nat × ProcessExit) := some (reactionDelay, .ofSignal 15)
  let done : Option (Nat × ProcessExit) := some (patience, .ofCode 0)
  match ending with
  | .exit code => ⟨some (exitDelay, .ofCode (code % 256 : Nat)), stopped, killed⟩
  | .signal number => ⟨some (exitDelay, .ofSignal number), stopped, killed⟩
  | .wait => ⟨done, stopped, killed⟩
  | .ignore => ⟨done, none, killed⟩
  | .exitOnTerm code => ⟨done, some (reactionDelay, .ofCode (code % 256 : Nat)), killed⟩

/-- The description as a program. -/
def run (a : ScriptedAgent) (start : ProgramStart) : ProgramRun :=
  ⟨life a.ending, a.utterances.map (chunk start)⟩

end ScriptedAgent

end Shakedown.Rehearsal
