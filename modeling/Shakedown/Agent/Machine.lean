/-
  Shakedown.Agent.Machine

  Launching an agent on a machine.  The directories it needs are made first;
  then its program is started, in its own process group, in its working
  directory and with its own variables added to the environment.
-/
import Shakedown.Agent.Process
import Shakedown.Disk
import Shakedown.Output.Capture
import Shakedown.Launch
import Shakedown.Run.Failure

namespace Shakedown

/-- What a program is started with. -/
structure ProgramStart where
  args : List String
  /-- The variables added to its environment. -/
  environment : List (String × String)
  workingPlace : Place

namespace ProgramStart

/-- The most bytes that one argument, or one variable with its name, may have. -/
def maxBytes : Nat := 131071

/-- Whether a variable is short enough for a program to be started with it. -/
def variableFits (v : String × String) : Bool :=
  (v.1 ++ "=" ++ v.2).utf8ByteSize ≤ maxBytes

/-- Whether arguments and variables are short enough for a program to be started with them. -/
def fits (s : ProgramStart) : Bool :=
  (s.args.all fun a => a.utf8ByteSize ≤ maxBytes) && s.environment.all variableFits

end ProgramStart

/-- What a started program does: how it ends, and what it writes until then. -/
structure ProgramRun where
  life : AgentLife
  output : List OutputChunk

/-- A machine to launch agents on. -/
structure Machine where
  disk : Disk
  /-- Where the harness runs. -/
  workingPlace : Place
  /-- The places where programs named without a slash are looked for. -/
  programPlaces : List Place := []
  /-- What the file at a place does when it is started, if it can be. -/
  program : Place → Option (ProgramStart → ProgramRun)
  /-- The number that the next process gets. -/
  nextPid : Pid

structure LaunchedAgent where
  process : AgentProcess
  output : List OutputChunk

namespace Machine

/-! ## Directories -/

/-- The directories that a launch needs: where containers are kept, and where the
storage file goes. -/
def directoriesOf (l : Launch) : List Path :=
  (l.workloadRoot :: l.storagePath.parent?.toList).filter fun p => !p.text.isEmpty

/-- Makes directories in order, up to the first that cannot be made. -/
def makeAll (cwd : Place) (d : Disk) : List Path → Disk × Except RunFailure Unit
  | [] => (d, .ok ())
  | p :: rest => match d.ensureDirectory cwd p with
    | .ok d => makeAll cwd d rest
    | .error e =>
      (d, .error (.configuration ("failed to create " ++ p.text ++ ": " ++ e.message)))

/-! ## Starting a program -/

/-- Whether what a program is started with holds a NUL. -/
def holdsNul (l : Launch) : Bool :=
  hasNul l.command.program.text || l.command.args.any hasNul ||
    l.command.workingDir.any (fun d => hasNul d.text) || l.environment.any fun v => hasNul v.2

/-- The place where a program runs. -/
def startPlace (m : Machine) (disk : Disk) (dir : Option Path) : Except OsError Place :=
  match dir with
  | none => .ok m.workingPlace
  | some d => match disk.locate m.workingPlace d with
    | .error e => .error e
    | .ok place => match disk.at? place with
      | some .directory => .ok place
      | _ => .error .notDirectory

/-- Starts the program at a place. -/
def startAt (m : Machine) (disk : Disk) (start : ProgramStart) (place : Place) :
    Except OsError ProgramRun :=
  match disk.at? place with
  | none => .error .notFound
  | some .directory => .error .permissionDenied
  | some (.file _) =>
    -- What it is started with is looked at before what it is.
    if !start.fits then .error .argumentTooLong
    else match m.program place with
      | some run => .ok (run start)
      | none => .error .execFormat

/-- Starts the program that a path names, seen from the place where it is to run.  A
name without a slash is looked for among the machine's programs. -/
def startProgram (m : Machine) (disk : Disk) (start : ProgramStart) (p : Path) :
    Except OsError ProgramRun :=
  if p.text.isEmpty then .error .notFound
  -- With a slash it is a path, followed from where the program is to run.
  else if p.text.toList.contains '/' then
    match disk.locate start.workingPlace p with
    | .error e => .error e
    | .ok place => m.startAt disk start place
  else
    match (m.programPlaces.map (· ++ [p.text])).find? fun place => (disk.at? place).isSome with
    | none => .error .notFound
    | some place => m.startAt disk start place

def start (m : Machine) (disk : Disk) (l : Launch) : Except OsError ProgramRun :=
  if holdsNul l then .error .nulInData
  else match m.startPlace disk l.command.workingDir with
    | .error e => .error e
    | .ok place =>
      m.startProgram disk ⟨l.command.args, l.environment, place⟩ l.command.program

/-- Launches an agent at a time.  The disk keeps the directories that were made
even if the launch fails. -/
def launch (m : Machine) (l : Launch) (now : Nat) : Machine × Except RunFailure LaunchedAgent :=
  let (disk, made) := makeAll m.workingPlace m.disk (directoriesOf l)
  match made with
  | .error f => ({ m with disk }, .error f)
  | .ok () => match m.start disk l with
    -- No number is used up by a program that does not start.
    | .error e => ({ m with disk }, .error (.notLaunched l.command.text e.message))
    | .ok run =>
      ({ m with disk, nextPid := m.nextPid + 1 },
        .ok ⟨{ pid := m.nextPid, life := run.life, launched := now }, run.output⟩)

end Machine

end Shakedown
