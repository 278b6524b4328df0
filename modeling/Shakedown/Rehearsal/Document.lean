/-
  Shakedown.Rehearsal.Document

  A rehearsal written down as a JSON document: the replies of a scripted API
  or of a raw server, calls, a described agent, the parameters of a run and
  the profile of a stub.  What a document leaves out is as it is by default.
-/
import Shakedown.Http.Exchange
import Shakedown.Json.Lookup
import Shakedown.Rehearsal.Agent
import Shakedown.Rehearsal.Api
import Shakedown.PanelFlow
import Shakedown.Run.Parameters
import Shakedown.Stub.Basic

namespace Shakedown.Rehearsal

open Json (field textOf natOf flagOf isSet listOf textsOf part millisOf)

/-! ## Scripts -/

/-- Reads a reply: a document under `ok`, or the fault it fails with. -/
def readReply (j : Json) : Reply :=
  let content : Except ApiFault Json :=
    match j.get? "ok", natOf j "status", textOf j "decode", field j "timeout" with
    | some document, _, _, _ => .ok document
    | none, some code, _, _ => .error (.status code ((textOf j "body").getD ""))
    | none, none, some m, _ => .error (.malformed m)
    | none, none, none, some d => .error (.timeout d.duration)
    | none, none, none, none => .error (.transport ((textOf j "transport").getD "unscripted"))
  { interrupts := isSet j "cancel"
    delay := if isSet j "hang" then none else some ((millisOf j "delay_ms").getD .zero)
    content }

/-- Reads a script: a list of replies for each endpoint. -/
def readScript (j : Json) : Script :=
  ⟨fun e => (listOf j e.text).map readReply⟩

/-! ## Calls and what a raw server does with them -/

/-- Reads a call; nothing if its identifier is none. -/
def readCall? (j : Json) : Option Call := do
  let token := (textOf j "token").getD ""
  let body := part j "body"
  let text (name : String) := (textOf body name).getD ""
  match (textOf j "call").getD "" with
  | "health" => return ⟨token, .health⟩
  | "system_info" => return ⟨token, .systemInfo⟩
  | "issue_token" =>
    return ⟨token, .issueToken ⟨text "name", (textsOf body "scopes").getD [], text "expires_at"⟩⟩
  | "revoke_token" => return ⟨token, .revokeToken (← (textOf j "id").bind Uuid.ofText?)⟩
  | "create_container" =>
    return ⟨token, .createContainer ⟨text "name", text "platform", textOf body "description"⟩⟩
  | "list_containers" => return ⟨token, .listContainers⟩
  | _ =>
    let query := part j "query"
    return ⟨token, .listTasks ⟨(natOf query "limit").map UInt32.ofNat, textOf query "status"⟩⟩

/-- Reads what a raw server does with a request.  It sends its answer at once; a body that
is shorter than declared breaks off. -/
def readExchange (j : Json) : Exchange :=
  let status := (natOf j "status").getD 200
  let body := match textOf j "body_hex" with
    | some hex => (Text.Hex.bytes? hex.toList).getD []
    | none => Text.Utf8.encode
        (String.join (List.replicate ((natOf j "times").getD 1) ((textOf j "body").getD "")))
  if isSet j "hang" then .silent
  else if isSet j "drop" then .unreachable 0
  else if status = 204 || status = 304 then .answered 0 status (.whole 0 [])
  else if isSet j "stall" then .answered 0 status .unfinished
  else if body.length < (natOf j "declared_length").getD 0 then .answered 0 status (.brokenOff 0)
  else .answered 0 status (.whole 0 body)

/-! ## Agents -/

/-- Reads what an agent writes at one point. -/
def readUtterances (j : Json) : List Utterance :=
  let times := (natOf j "times").getD 1
  let repeated (channel : OutputChannel) (bytes : List UInt8) : List Utterance :=
    List.replicate times (.bytes channel bytes)
  match textOf j "out", textOf j "err", textOf j "out_hex", textOf j "env" with
  | some s, _, _, _ => repeated .stdout (Text.Utf8.encode s)
  | _, some s, _, _ => repeated .stderr (Text.Utf8.encode s)
  | _, _, some hex, _ => repeated .stdout ((Text.Hex.bytes? hex.toList).getD [])
  | _, _, _, some name => [.variable name]
  | _, _, _, _ =>
    if isSet j "pwd" then [.workingDir] else if isSet j "args" then [.args] else []

/-- Whether an utterance is the same wherever the agent runs. -/
def Utterance.isFixed : Utterance → Bool
  | .bytes _ _ => true
  | _ => false

/-- Reads how an agent ends. -/
def readEnding (j : Json) : Ending :=
  match natOf j "exit", natOf j "signal", field j "wait" with
  | some code, _, _ => .exit code
  | _, some n, _ => .signal n
  | _, _, some (.integer code) => .exitOnTerm code.toNat
  | _, _, some (.string "ignore") => .ignore
  | _, _, some _ => .wait
  | _, _, none => .exit 0

/-- Reads an agent.  Fixed texts come first, and then what depends on where it runs. -/
def readAgent (j : Json) : ScriptedAgent :=
  let said := (listOf j "do").flatMap readUtterances
  ⟨said.filter Utterance.isFixed ++ said.filter fun u => !u.isFixed, readEnding (part j "end")⟩

/-! ## Parameters -/

def readTokenParameters (j : Json) : TokenParameters :=
  let d : TokenParameters := {}
  { name := (textOf j "name").getD d.name
    scopes := (textsOf j "scopes").getD d.scopes
    ttl := ((field j "ttl").map Json.duration).getD d.ttl }

def readProbe (d : ProbeSchedule) (j : Json) : ProbeSchedule where
  attempts := (natOf j "attempts").getD d.attempts
  interval := (millisOf j "interval_ms").getD d.interval
  attemptTimeout := (millisOf j "attempt_timeout_ms").getD d.attemptTimeout

def readScenario (j : Json) : ScenarioParameters :=
  let d : ScenarioParameters := {}
  { resourcePrefix := (textOf j "resource_prefix").getD d.resourcePrefix
    platform := (textOf j "platform").getD d.platform
    taskListAttempts := (natOf j "task_list_attempts").getD d.taskListAttempts
    taskListInterval := (millisOf j "task_list_interval_ms").getD d.taskListInterval }

def readPanelFlow (j : Json) : PanelFlowParameters :=
  let d : PanelFlowParameters := {}
  { namePrefix := (textOf j "name_prefix").getD d.namePrefix
    platform := (textOf j "platform").getD d.platform
    settle := (millisOf j "settle_ms").getD d.settle
    taskLimit := ((natOf j "task_limit").map UInt32.ofNat).getD d.taskLimit }

/-- Reads the parameters of the run of a launch.  A rehearsed agent is probed every five
milliseconds and has ten seconds to stop. -/
def readRun (launch : Launch) (j : Json) : RunParameters :=
  let d : RunParameters := { launch }
  { launch
    probe := readProbe { interval := .ofMillis 5 } (part j "probe")
    token := readTokenParameters (part j "token")
    scenario := readScenario (part j "scenario")
    requestTimeout := (millisOf j "request_timeout_ms").getD d.requestTimeout
    cleanupGrace := (millisOf j "grace_ms").getD (.ofSeconds 10)
    revokeToken := (flagOf j "revoke").getD d.revokeToken }

def readLaunch (l : Launch) (j : Json) : Launch :=
  { l with
    bind := ((textOf j "bind").bind fun raw => (Bind.read raw).toOption).getD l.bind
    adminToken := (textOf j "admin_token").getD l.adminToken
    storagePath := ((textOf j "storage_path").map Path.mk).getD l.storagePath
    workloadRoot := ((textOf j "workload_root").map Path.mk).getD l.workloadRoot
    command := { l.command with
      workingDir := ((textOf j "working_dir").map Path.mk).or l.command.workingDir }
    output := match textOf j "output" with
      | some "capture" => .capture
      | some "forward" => .forward
      | _ => l.output }

def readProfile (j : Json) : StubProfile :=
  let d : StubProfile := {}
  { adminToken := (textOf j "admin_token").getD d.adminToken
    healthFailures := (natOf j "health_failures").getD d.healthFailures
    plainHealth := isSet j "plain_health"
    createDelay := (millisOf j "create_delay_ms").getD d.createDelay
    omitTaskId := isSet j "omit_task_id"
    dropTasks := isSet j "drop_tasks"
    ignoreScopes := isSet j "ignore_scopes" }

end Shakedown.Rehearsal
