/-
  Shakedown.Main

  The command line.  It looks at the environment, the working directory and
  the few files that settings depend on, and hands them to the program.  It
  opens no connections and starts no processes: to the program, nothing can
  be reached from here.
-/
import Shakedown.Program.Basic
import Shakedown.Program.Usage

namespace Shakedown.Console

/-- The variables that the program looks at. -/
def variableNames : List String :=
  ["HOME", "XDG_CONFIG_HOME", "CARGO_BIN", "CARGO_HOME", "ORBIT_SMOKE_ADMIN", "ORBIT_SMOKE_BIND",
    "ORBIT_SMOKE_DB", "ORBIT_SMOKE_CONTAINERS", "ORBIT_ADMIN_TOKEN", "ORBIT_BASE_URL"]

def readEnvironment : IO Environment := do
  let values ← variableNames.mapM fun name => return (name, ← IO.getEnv name)
  return fun name => (values.find? fun v => v.1 == name).bind (·.2)

/-- Where an absolute path leads. -/
def placeOf (cwd : String) (p : Path) : Place :=
  Path.names ((⟨cwd⟩ : Path).join p)

/-- Puts what a path leads to on a disk, if it leads anywhere. -/
def look (cwd : String) (d : Disk) (p : Path) : IO Disk := do
  let there := (← IO.currentDir) / p.text
  if ← there.isDir then
    return d.withDirectory (placeOf cwd p)
  try
    return d.withFile (placeOf cwd p) (← IO.FS.readBinFile there).toList
  catch _ =>
    return d

/-- Looks at where the program was started. -/
def readSurroundings : IO Surroundings := do
  let environment ← readEnvironment
  let cwd := (← IO.currentDir).toString
  let here : Surroundings :=
    { environment
      workingDir := ⟨cwd⟩
      workingPlace := Path.names ⟨cwd⟩
      disk := ({} : Disk).withDirectory (Path.names ⟨cwd⟩) }
  let binary := (environment "CARGO_BIN").map Path.mk
  let candidates := cargoCandidates (environment "CARGO_BIN") ((environment "CARGO_HOME").map Path.mk)
    here.home
  let disk ← (here.settingsPath :: binary.toList ++ candidates).foldlM (look cwd) here.disk
  return { here with disk }

/-- The program as it is started here. -/
def world (here : Surroundings) : World Unit where
  surroundings := here
  machine :=
    { disk := here.disk
      workingPlace := here.workingPlace
      program := fun _ => none
      nextPid := 1 }
  network := Network.down
  state := ()
  clock := fun _ => .epoch
  suffix := "00000000"

end Shakedown.Console

/-- Carries out a command line. -/
def main (args : List String) : IO UInt32 := do
  let here ← Shakedown.Console.readSurroundings
  let printed := match (Shakedown.Console.world here).execute args with
    | .error e => Shakedown.Program.ofUsageError e
    | .ok none => { code := 1 }
    | .ok (some p) => p
  (← IO.getStdout).putStr printed.stdout
  (← IO.getStderr).putStr printed.stderr
  return UInt32.ofNat printed.code
