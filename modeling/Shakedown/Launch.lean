/-
  Shakedown.Launch

  How to launch an agent: the program, where it listens, the admin token,
  where it keeps its data, and what becomes of its output.  All of it reaches
  the agent through its command line and its environment.
-/
import Shakedown.Bind
import Shakedown.Output.Lines
import Shakedown.Path
import Shakedown.Text.Blank

namespace Shakedown

/-- A program with its arguments and the directory it runs in; without one it
runs where the harness does. -/
structure LaunchCommand where
  program : Path
  args : List String := []
  workingDir : Option Path := none
deriving DecidableEq, Repr

namespace LaunchCommand

/-- The command that builds and runs the agent of a workspace. -/
def ofWorkspace (cargo root : Path) : LaunchCommand :=
  ⟨cargo, ["run", "--quiet", "--bin", "agent"], some root⟩

/-- Program and arguments with blanks between them. -/
def text (c : LaunchCommand) : String :=
  String.intercalate " " (c.program.text :: c.args)

end LaunchCommand

/-- How to launch an agent. -/
structure Launch where
  command : LaunchCommand
  bind : Bind
  adminToken : String
  storagePath : Path
  workloadRoot : Path
  output : OutputHandling
deriving DecidableEq, Repr

/-- The admin token when nothing else is said. -/
def standardAdminToken : String := "smoke-admin"

/-- Where the agent stores its data when nothing else is said. -/
def standardStoragePath (root : Path) : Path :=
  root / "orbit-data" / "smoke-agent.db"

/-- Where the agent keeps its containers when nothing else is said. -/
def standardWorkloadRoot (root : Path) : Path :=
  root / "sandboxes" / "smoke"

namespace Launch

/-- The launch of a command with nothing else said. -/
def ofCommand (command : LaunchCommand) (root : Path) : Launch where
  command
  bind := .default
  adminToken := standardAdminToken
  storagePath := standardStoragePath root
  workloadRoot := standardWorkloadRoot root
  output := .forward

/-- The base of the agent's URLs. -/
def baseUrl (l : Launch) : String := l.bind.baseUrl

/-- What is added to the agent's environment, in order. -/
def environment (l : Launch) : List (String × String) :=
  [("ORBIT_AUTH_ENABLED", "1"), ("ORBIT_ADMIN_TOKEN", l.adminToken),
    ("ORBIT_API_BIND", l.bind.text), ("ORBIT_DB_PATH", l.storagePath.text),
    ("ORBIT_CONTAINERS_ROOT", l.workloadRoot.text)]

/-! ## Debug text -/

/-- A list of quoted texts in brackets. -/
def listText (xs : List String) : String :=
  "[" ++ String.intercalate ", " (xs.map Text.quoted) ++ "]"

/-- The debug text of a command. -/
def commandDebugText (c : LaunchCommand) : String :=
  let dir := match c.workingDir with
    | some d => "Some(" ++ Text.quoted d.text ++ ")"
    | none => "None"
  "AgentCommand \x7b program: " ++ Text.quoted c.program.text ++ ", args: " ++ listText c.args ++
    ", working_dir: " ++ dir ++ " \x7d"

def bindDebugText (b : Bind) : String :=
  "BindAddr \x7b host: " ++ Text.quoted b.host ++ ", port: " ++ Text.Decimal.text b.port.toNat ++
    " \x7d"

/-- The word for an output mode. -/
def outputText : OutputHandling → String
  | .forward => "Forward"
  | .capture => "Capture"

/-- The debug text of a launch, which does not show the admin token. -/
def debugText (l : Launch) : String :=
  "LaunchConfig \x7b command: " ++ commandDebugText l.command ++ ", bind: " ++
    bindDebugText l.bind ++ ", admin_token: \"<redacted>\", storage_path: " ++
    Text.quoted l.storagePath.text ++ ", workload_root: " ++ Text.quoted l.workloadRoot.text ++
    ", output: " ++ outputText l.output ++ " \x7d"

end Launch

/-! ## The cargo binary -/

/-- Whether a candidate program is worth a try: a relative one is looked for when
it is started, an absolute one has to exist. -/
def usableProgram (leads : Path → Bool) (p : Path) : Bool :=
  !p.isAbsolute || leads p

/-- The candidates for the cargo binary in order of preference: the one asked for
unless that is blank, and the one below cargo's own directory. -/
def cargoCandidates (binary : Option String) (cargoHome home : Option Path) : List Path :=
  ((binary.filter fun s => !Text.blank s).map Path.mk).toList ++
    ((cargoHome.orElse fun _ => home.map (· / ".cargo")).map (· / "bin" / "cargo")).toList

/-- The cargo binary: the first usable candidate, or whatever `cargo` is. -/
def cargoBinary (leads : Path → Bool) (binary : Option String) (cargoHome home : Option Path) :
    Path :=
  ((cargoCandidates binary cargoHome home).find? (usableProgram leads)).getD "cargo"

end Shakedown
