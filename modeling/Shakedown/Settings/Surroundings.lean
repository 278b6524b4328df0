/-
  Shakedown.Settings.Surroundings

  What a command finds where it is started: environment variables, a home
  directory, a working directory and a disk.  An empty variable of the
  harness counts as one that is not set.
-/
import Shakedown.Settings.Resolve

namespace Shakedown

/-- Where a command is started. -/
structure Surroundings where
  environment : Environment
  /-- The home directory that the accounts of the machine give, for when no variable does. -/
  accountHome : Option Path := none
  /-- The working directory, as a path and as a place. -/
  workingDir : Path
  workingPlace : Place
  disk : Disk

namespace Surroundings

/-- The home directory. -/
def home (s : Surroundings) : Option Path :=
  match (s.environment "HOME").filter fun h => !h.isEmpty with
  | some h => some ⟨h⟩
  | none => s.accountHome

def leads (s : Surroundings) (p : Path) : Bool :=
  s.disk.leads s.workingPlace p

/-- The cargo binary. -/
def cargo (s : Surroundings) : Path :=
  cargoBinary s.leads (s.environment "CARGO_BIN") ((s.environment "CARGO_HOME").map Path.mk) s.home

/-- The settings file. -/
def settingsPath (s : Surroundings) : Path :=
  FileSettings.pathIn (FileSettings.directory (s.environment "XDG_CONFIG_HOME") s.home)

/-- The settings of the file, if there is one. -/
def fileSettings (s : Surroundings) : Except SettingsFault (Option FileSettings) :=
  match FileSettings.load s.disk s.workingPlace s.settingsPath with
  | .ok f => .ok f
  | .error f => .error (.file f)

/-- What `run` runs with here. -/
def forRun (s : Surroundings) (options : RunOptions) : Except SettingsFault RunParameters :=
  match s.fileSettings with
  | .error f => .error f
  | .ok file => Settings.forRun options s.environment.nonEmpty file s.workingDir s.cargo

/-- The agent that `flow` talks to here. -/
def forFlow (s : Surroundings) (remote : RemoteOptions) : Except SettingsFault AgentTarget :=
  Settings.forFlow remote s.environment.nonEmpty

/-- The agent that `probe` talks to here. -/
def forProbe (s : Surroundings) (remote : RemoteOptions) :
    Except SettingsFault AgentTarget :=
  match s.fileSettings with
  | .error f => .error f
  | .ok file => Settings.forProbe remote s.environment.nonEmpty file

end Surroundings

end Shakedown
