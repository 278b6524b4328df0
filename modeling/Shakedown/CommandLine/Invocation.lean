/-
  Shakedown.CommandLine.Invocation

  The three commands and what each can be given on the command line.
-/
import Shakedown.CommandLine.Grammar

namespace Shakedown

/-- What `run` can be given. -/
structure RunOptions where
  /-- The directory the agent is run from. -/
  root : Option Path := none
  adminToken : Option String := none
  bind : Option String := none
  db : Option Path := none
  containers : Option Path := none
  /-- The program to run as the agent. -/
  agent : Option Path := none
  agentArgs : List String := []
  attempts : Option Nat := none
  intervalMillis : Option Nat := none
  taskListAttempts : Nat := 1
  quietAgent : Bool := false
  keepToken : Bool := false
deriving DecidableEq, Repr, Inhabited

/-- Which agent to talk to, and as whom. -/
structure RemoteOptions where
  baseUrl : Option String := none
  adminToken : Option String := none
deriving DecidableEq, Repr, Inhabited

/-- A command with what it was given. -/
inductive Invocation where
  /-- Launch the agent, put it through the scenario, and tear it down. -/
  | run (options : RunOptions)
  /-- Walk the panel flow against an agent that is running. -/
  | flow (remote : RemoteOptions) (settleSeconds : Nat)
  /-- Check the health of an agent that is running. -/
  | probe (remote : RemoteOptions) (attempts intervalMillis : Nat)
deriving DecidableEq, Repr

namespace CommandLine

/-! ## Grammars -/

def runGrammar : Grammar where
  options := [("root", .path), ("admin-token", .text), ("bind", .text), ("db", .path),
    ("containers", .path), ("agent", .path), ("attempts", .small), ("interval-ms", .large),
    ("task-list-attempts", .small), ("quiet-agent", .flag), ("keep-token", .flag)]
  trailing := true

def flowGrammar : Grammar where
  options := [("base-url", .text), ("admin-token", .text), ("settle-secs", .large)]
  trailing := false

def probeGrammar : Grammar where
  options := [("base-url", .text), ("admin-token", .text), ("attempts", .small),
    ("interval-ms", .large)]
  trailing := false

/-! ## From what was given -/

def runOptions (g : Given) : RunOptions where
  root := g.path? "root"
  adminToken := g.text? "admin-token"
  bind := g.text? "bind"
  db := g.path? "db"
  containers := g.path? "containers"
  agent := g.path? "agent"
  agentArgs := g.trailing
  attempts := g.number? "attempts"
  intervalMillis := g.number? "interval-ms"
  taskListAttempts := (g.number? "task-list-attempts").getD 1
  quietAgent := g.has "quiet-agent"
  keepToken := g.has "keep-token"

/-- The options that `flow` and `probe` share. -/
def remoteOptions (g : Given) : RemoteOptions :=
  ⟨g.text? "base-url", g.text? "admin-token"⟩

/-- The command of a word with the arguments after it; nothing if the word is no
command. -/
def command? (word : String) (args : List String) : Option (Except UsageError Invocation) :=
  if word = "run" then
    some ((Given.read runGrammar {} none args).map fun g => .run (runOptions g))
  else if word = "flow" then
    some ((Given.read flowGrammar {} none args).map fun g =>
      .flow (remoteOptions g) ((g.number? "settle-secs").getD 2))
  else if word = "probe" then
    some ((Given.read probeGrammar {} none args).map fun g =>
      .probe (remoteOptions g) ((g.number? "attempts").getD 1) ((g.number? "interval-ms").getD 500))
  else none

/-- The words that name a command, the one for help among them. -/
def isCommand (word : String) : Bool :=
  word = "run" || word = "flow" || word = "probe" || word = "help"

/-- What `help` with arguments comes to: at most one command to explain. -/
def help : List String → UsageError
  | [] => .displayHelp
  | [word] => if isCommand word then .displayHelp else .invalidSubcommand
  | _ => .invalidSubcommand

/-- Reads the arguments after the program's name. -/
def parse : List String → Except UsageError Invocation
  | [] => .error .missingSubcommand
  | arg :: rest =>
    if arg = "help" then .error (help rest)
    else match command? arg rest with
      | some r => r
      | none =>
        if arg = "--" then
          .error (match rest with
            | [] => .missingSubcommand
            | word :: _ => if isCommand word then .unknownArgument else .invalidSubcommand)
        else match long? arg with
          | some ("help", some _) => .error .tooManyValues
          | some ("help", none) => .error .displayHelp
          | some _ => .error .unknownArgument
          | none => match short? arg with
            | some ('h' :: _) => .error .displayHelp
            | some _ => .error .unknownArgument
            | none => .error .invalidSubcommand

end CommandLine

end Shakedown
