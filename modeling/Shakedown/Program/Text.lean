/-
  Shakedown.Program.Text

  What each command prints and the code it exits with.  Reports go to
  standard output, failures to standard error.
-/
import Shakedown.PanelFlow
import Shakedown.Run.Basic
import Shakedown.Settings.Resolve

namespace Shakedown

/-- What a command printed by the time it exited, and its exit code. -/
structure Printed where
  code : Nat
  stdout : String := ""
  stderr : String := ""
deriving DecidableEq, Repr

namespace Program

/-- Lines, each with its end. -/
def lines (ls : List String) : String :=
  String.join (ls.map (· ++ "\n"))

/-- The exit code of a run that a signal stopped. -/
def interruptedCode : Nat := 130

/-! ## Failures before or around a command's work -/

/-- A text with four blanks in front of every line. -/
def indent (s : String) : String :=
  "    " ++ String.ofList (s.toList.flatMap fun c => if c = '\n' then "\n    ".toList else [c])

/-- A failure and what caused it, if something did. -/
def failed (message : String) (cause : Option String) : Printed where
  code := 1
  stderr := match cause with
    | none => lines ["Error: " ++ message]
    | some c => lines ["Error: " ++ message, "", "Caused by:", indent c]

/-- What is printed when a command cannot be run with the settings there are. -/
def ofSettingsFault (f : SettingsFault) : Printed :=
  failed f.message (match f with
    | .file fault => some fault.reason
    | _ => none)

/-! ## Run -/

def passedText (s : RunSummary) : List String :=
  let scenario := s.findings.scenario
  let taskId := match scenario.resourceId with
    | some id => ["  task id:      " ++ id]
    | none => []
  ["", "Smoke run passed.",
    "  ready after:  " ++ Text.Decimal.text s.findings.readyAfter ++ " check(s)",
    "  resource:     " ++ scenario.resourceName] ++ taskId ++
  ["  tasks listed: " ++ Text.Decimal.text scenario.tasks.length,
    "  token:        " ++ s.findings.token.fingerprint ++
      (if s.findings.tokenRevoked then " (revoked)" else " (kept)")]

/-- What `run` prints about what the run came to. -/
def ofRun : Except RunFailure RunSummary → Printed
  | .ok s => { code := 0, stdout := lines (passedText s) }
  | .error .interrupted =>
    { code := interruptedCode, stderr := lines ["", "Smoke run interrupted; agent stopped."] }
  | .error f =>
    { code := 1
      stderr := lines ["", "Smoke run failed during " ++ f.stage.text ++ ": " ++ f.message] }

/-- What is printed at the first signal. -/
def stopNotice : String :=
  lines ["", "Interrupted; stopping the agent (signal again to force)..."]

/-- What is printed at the second signal. -/
def forceNotice : String :=
  lines ["", "Force exit; agent killed."]

/-! ## Flow -/

/-- A task in the report of a flow. -/
def taskLine (t : AgentTask) : String :=
  "    - " ++ t.id ++ " " ++ t.status.text ++ " " ++ Text.Decimal.text t.progress.toNat ++ "% " ++
    t.kind

/-- The report of a flow. -/
def panelText (r : PanelReport) : List String :=
  ["Agent " ++ r.system.version ++ " (build " ++ r.system.build ++ ")",
    "  containers before: " ++ Text.Decimal.text r.existingContainers,
    "  created:           " ++ r.resourceName,
    "  task id:           " ++ r.createdTaskId.getD "(none returned)",
    "  recent tasks:"] ++ r.recentTasks.map taskLine

/-- What `flow` prints about what the flow came to. -/
def ofFlow (target : AgentTarget) : Except ApiFault PanelReport → Printed
  | .ok r => { code := 0, stdout := lines (panelText r) }
  | .error f => failed ("panel flow against " ++ target.baseUrl ++ " failed") (some f.message)

/-! ## Probe -/

def ofProbe (target : AgentTarget) : ProbeVerdict → Printed
  | .ready n =>
    { code := 0
      stdout := lines [target.baseUrl ++ " is ready (after " ++ Text.Decimal.text n ++ " check(s))."] }
  | .failed n reason =>
    { code := 1
      stderr := lines [target.baseUrl ++ " not ready after " ++ Text.Decimal.text n ++
        " check(s): " ++ reason] }

end Program

end Shakedown
