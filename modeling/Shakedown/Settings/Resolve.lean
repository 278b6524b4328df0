/-
  Shakedown.Settings.Resolve

  What each command runs with.  A setting comes from the first source that
  has it: the command line, the environment, the settings file, and a
  default at last.
-/
import Shakedown.CommandLine.Invocation
import Shakedown.PanelFlow
import Shakedown.Run.Parameters
import Shakedown.Settings.File

namespace Shakedown

/-- The variables of an environment. -/
abbrev Environment := String → Option String

/-- The environment with empty variables left out. -/
def Environment.nonEmpty (env : Environment) : Environment :=
  fun name => (env name).filter fun v => !v.isEmpty

/-- Why a command cannot be run with the settings there are. -/
inductive SettingsFault where
  | file (fault : FileFault)
  /-- The file names no program for the agent. -/
  | emptyCommand
  | blankAdminToken
  | badBind (bad : BadBind)
  /-- Tokens would expire at once. -/
  | zeroTtl
  | noAdminToken
deriving DecidableEq, Repr

/-- The text of a fault. -/
def SettingsFault.message : SettingsFault → String
  | .file f => f.message
  | .emptyCommand => "[agent] command in config file is empty"
  | .blankAdminToken => "admin token must not be empty"
  | .badBind bad => bad.message
  | .zeroTtl => "[token] ttl_secs must be positive"
  | .noAdminToken => "admin token not found; set ORBIT_ADMIN_TOKEN or pass --admin-token"

/-- The agent to talk to, and as whom. -/
structure AgentTarget where
  baseUrl : String
  adminToken : String
deriving DecidableEq, Repr

namespace Settings

/-- The first source that has a setting. -/
def firstOf (sources : List (Option α)) : Option α :=
  sources.findSome? id

/-! ## Run -/

/-- The command that runs the agent. -/
def commandOf (options : RunOptions) (file : FileSettings) (cargo root : Path) :
    Except SettingsFault LaunchCommand :=
  match options.agent with
  | some program => .ok ⟨program, options.agentArgs, some root⟩
  -- A command line that names the agent leaves the file's command out altogether.
  | none => match file.agent.command with
    | some [] => .error .emptyCommand
    | some (program :: args) => .ok ⟨⟨program⟩, args, some root⟩
    | none => .ok (.ofWorkspace cargo root)

/-- The listening address that a setting names. -/
def readBind (raw : String) : Except SettingsFault Bind :=
  match Bind.read raw with
  | .ok b => .ok b
  | .error bad => .error (.badBind bad)

/-- The listening address, read from the first source that has one. -/
def bindOf (sources : List (Option String)) : Except SettingsFault Bind :=
  match firstOf sources with
  | none => .ok .default
  | some raw => readBind raw

/-- The time to live of tokens. -/
def ttlOf (file : FileSettings) : Except SettingsFault Duration :=
  match file.token.ttlSeconds with
  | none => .ok ({} : TokenParameters).ttl
  | some 0 => .error .zeroTtl
  | some s => .ok (.ofSeconds s)

/-- What `run` runs with. -/
def forRun (options : RunOptions) (env : Environment) (file : Option FileSettings)
    (cwd cargo : Path) : Except SettingsFault RunParameters := do
  let file := file.getD {}
  -- The paths below start at the root as it is given; nothing makes it absolute.
  let root := (firstOf [options.root, file.agent.root]).getD cwd
  let command ← commandOf options file cargo root
  let adminToken :=
    (firstOf [options.adminToken, env "ORBIT_SMOKE_ADMIN", file.agent.adminToken]).getD
      standardAdminToken
  if Text.blank adminToken then throw .blankAdminToken
  let bind ← bindOf [options.bind, env "ORBIT_SMOKE_BIND", file.agent.bind]
  let ttl ← ttlOf file
  let probe : ProbeSchedule := {}
  let token : TokenParameters := {}
  return {
    launch := {
      command, bind, adminToken
      storagePath := (firstOf [options.db, (env "ORBIT_SMOKE_DB").map Path.mk,
        file.agent.storagePath]).getD (standardStoragePath root)
      workloadRoot := (firstOf [options.containers, (env "ORBIT_SMOKE_CONTAINERS").map Path.mk,
        file.agent.workloadRoot]).getD (standardWorkloadRoot root)
      output := if options.quietAgent then .capture else .forward }
    probe := {
      attempts := (firstOf [options.attempts, file.probe.attempts]).getD probe.attempts
      interval := ((firstOf [options.intervalMillis, file.probe.intervalMillis]).map
        Duration.ofMillis).getD probe.interval
      attemptTimeout := (file.probe.attemptTimeoutMillis.map Duration.ofMillis).getD
        probe.attemptTimeout }
    token := {
      name := file.token.name.getD token.name
      scopes := file.token.scopes.getD token.scopes
      ttl }
    scenario := { taskListAttempts := options.taskListAttempts }
    cleanupGrace := (file.agent.cleanupGraceSeconds.map Duration.ofSeconds).getD (.ofSeconds 5)
    revokeToken := !options.keepToken }

/-! ## Flow and probe -/

/-- Where the panel flow looks for an agent when nothing else is said. -/
def defaultFlowUrl : String := "http://127.0.0.1:7443"

/-- The agent that `flow` talks to.  The admin token has to be given. -/
def forFlow (remote : RemoteOptions) (env : Environment) :
    Except SettingsFault AgentTarget :=
  match firstOf [remote.adminToken, env "ORBIT_ADMIN_TOKEN"] with
  | none => .error .noAdminToken
  | some adminToken =>
    .ok ⟨(firstOf [remote.baseUrl, env "ORBIT_BASE_URL"]).getD defaultFlowUrl, adminToken⟩

/-- The agent that `probe` talks to: the one that `run` would launch. -/
def forProbe (remote : RemoteOptions) (env : Environment) (file : Option FileSettings) :
    Except SettingsFault AgentTarget := do
  let file := file.getD {}
  let baseUrl ← match remote.baseUrl with
    | some url => pure url
    | none =>
      -- There is no address here to fall back on, only its text, which is read like any other.
      let raw := (firstOf [env "ORBIT_SMOKE_BIND", file.agent.bind]).getD Bind.defaultText
      (readBind raw).map (·.baseUrl)
  return ⟨baseUrl, (firstOf [remote.adminToken, env "ORBIT_SMOKE_ADMIN",
    file.agent.adminToken]).getD standardAdminToken⟩

end Settings

end Shakedown
