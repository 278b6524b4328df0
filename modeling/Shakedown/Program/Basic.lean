/-
  Shakedown.Program.Basic

  The program: a command line, carried out where it is started, against
  whatever can be reached there.
-/
import Shakedown.Http.Client
import Shakedown.Program.Text
import Shakedown.Settings.Surroundings

namespace Shakedown

/-- Signals that the program gets during a run: the first with its place in the run, and
the later ones with the time since the first was noticed. -/
structure Signals where
  first : Interruption
  later : List Nat := []
deriving DecidableEq, Repr

/-- Where the program is started. -/
structure World (σ : Type) where
  surroundings : Surroundings
  machine : Machine
  network : Network σ
  /-- The state of the network at the start. -/
  state : σ
  clock : Nat → Moment
  /-- Eight random hexadecimal digits. -/
  suffix : String
  signals : Option Signals := none

namespace World

/-- How long a call of a panel flow may take. -/
def flowTimeout : Duration := .ofSeconds 30

/-- Carries out a plan as a client of an agent, from time zero. -/
def play (w : World σ) (baseUrl : String) (timeout : Duration) (p : Plan α) : Option α :=
  ((p.trace ((HttpClient.ofBase baseUrl timeout).api w.network) 0 w.state).ending).map (·.2)

/-! ## Run -/

/-- What an agent's output adds to a stream of the program. -/
def passedOn (config : RunParameters) (x : Execution) (channel : OutputChannel) : String :=
  match x.agent with
  | some agent =>
    Text.Utf8.lossyText (Lines.forwarded config.launch.output (chunksOf channel agent.output))
  | none => ""

/-- The time from an interruption of a run to its end. -/
def stoppingTime (x : Execution) : Nat :=
  match x.agent with
  | some agent => match agent.process.signals.head?, agent.process.exit? with
    | some (asked, _), some (exited, _) => exited - asked
    | _, _ => 0
  | none => 0

/-- What is printed about a run that signals stop: one that comes before the agent has
gone ends the program at once. -/
def ofStopped (signals : Signals) (x : Execution) (printed : Printed) : Printed :=
  if signals.later.any (· < stoppingTime x) then
    { code := Program.interruptedCode, stderr := Program.stopNotice ++ Program.forceNotice }
  else { printed with stderr := Program.stopNotice ++ printed.stderr }

/-- What is printed about a run, and what its agent wrote before that; nothing if the run
never ends. -/
def ofExecution (config : RunParameters) (signals : Option Signals) (x : Execution) :
    Option Printed := do
  let result ← x.result
  let printed := match signals, result with
    | some s, .error .interrupted => ofStopped s x (Program.ofRun result)
    | _, _ => Program.ofRun result
  return { printed with
    stdout := passedOn config x .stdout ++ printed.stdout
    stderr := passedOn config x .stderr ++ printed.stderr }

/-- Carries out `run`; nothing if it never ends. -/
def run (w : World σ) (options : RunOptions) : Option Printed :=
  match w.surroundings.forRun options with
  | .error f => some (Program.ofSettingsFault f)
  | .ok config =>
    let api := (HttpClient.ofBase config.launch.baseUrl config.requestTimeout).api w.network
    ofExecution config w.signals (Run.execute api config w.machine w.clock
      (w.signals.map fun s => .during s.first) w.state)

/-! ## Flow and probe -/

/-- Carries out `flow`. -/
def flow (w : World σ) (remote : RemoteOptions) (settleSeconds : Nat) : Option Printed :=
  match w.surroundings.forFlow remote with
  | .error f => some (Program.ofSettingsFault f)
  | .ok target =>
    let config : PanelFlowParameters := { settle := .ofSeconds settleSeconds }
    (w.play target.baseUrl flowTimeout (PanelFlow.plan target.adminToken config w.suffix)).map
      (Program.ofFlow target)

/-- Carries out `probe`. -/
def probe (w : World σ) (remote : RemoteOptions) (attempts intervalMillis : Nat) :
    Option Printed :=
  match w.surroundings.forProbe remote with
  | .error f => some (Program.ofSettingsFault f)
  | .ok target =>
    let schedule : ProbeSchedule := { attempts, interval := .ofMillis intervalMillis }
    (w.play target.baseUrl schedule.attemptTimeout
      (Probe.plan target.adminToken schedule)).map (Program.ofProbe target)

/-- Carries out a command. -/
def perform (w : World σ) : Invocation → Option Printed
  | .run options => w.run options
  | .flow remote settle => w.flow remote settle
  | .probe remote attempts interval => w.probe remote attempts interval

/-- Carries out a command line, if it is one; nothing comes of a command that never ends. -/
def execute (w : World σ) (args : List String) : Except CommandLine.UsageError (Option Printed) :=
  (CommandLine.parse args).map w.perform

end World

end Shakedown
