/-
  Shakedown.Settings.File

  The settings file: three sections, each with settings that may be missing.
  Settings and sections that are not known are ignored; a section may also be
  an array of its settings in order.
-/
import Shakedown.Disk
import Shakedown.Text.Utf8
import Shakedown.Toml.Reader

namespace Shakedown

structure AgentSettings where
  /-- The directory the agent is built and run from. -/
  root : Option Path := none
  adminToken : Option String := none
  bind : Option String := none
  storagePath : Option Path := none
  workloadRoot : Option Path := none
  /-- The program to run as the agent, with its arguments. -/
  command : Option (List String) := none
  cleanupGraceSeconds : Option Nat := none
deriving DecidableEq, Repr, Inhabited

structure ProbeSettings where
  attempts : Option Nat := none
  intervalMillis : Option Nat := none
  attemptTimeoutMillis : Option Nat := none
deriving DecidableEq, Repr, Inhabited

structure TokenSettings where
  name : Option String := none
  scopes : Option (List String) := none
  ttlSeconds : Option Nat := none
deriving DecidableEq, Repr, Inhabited

structure FileSettings where
  agent : AgentSettings := {}
  probe : ProbeSettings := {}
  token : TokenSettings := {}
deriving DecidableEq, Repr, Inhabited

/-- Why a settings file cannot be used. -/
inductive FileFault where
  /-- It cannot be read as text. -/
  | unreadable (path : Path) (reason : String)
  /-- It is not what a settings file holds. -/
  | malformed (path : Path) (reason : String)
deriving DecidableEq, Repr

namespace FileFault

/-- The text of a fault. -/
def message : FileFault → String
  | .unreadable path _ => "failed to read config file at " ++ path.text
  | .malformed path _ => "failed to parse config file at " ++ path.text

/-- Why it came to a fault. -/
def reason : FileFault → String
  | .unreadable _ r => r
  | .malformed _ r => r

end FileFault

namespace FileSettings

/-! ## From TOML -/

/-- The values of named fields of a section.  A section given as an array names
them in order; a date has none of them. -/
def fields? (names : List String) : Toml → Option (List (Option Toml))
  -- Names that nobody asks for are left alone.
  | .table members =>
    some (names.map fun name => (members.find? fun m => m.1 == name).map (·.2))
  | .array items => some ((List.range names.length).map fun i => items[i]?)
  | .datetime => some (names.map fun _ => none)
  | _ => none

/-- A setting that may be missing. -/
def setting (decode : Toml → Option α) : Option Toml → Option (Option α)
  | none => some none
  | some t => (decode t).map some

/-- A setting that is a path. -/
def path? (t : Toml) : Option Path :=
  t.string?.map Path.mk

/-- A number of 32 bits. -/
def small? : Toml → Option Nat := Toml.natUpTo? (Nat.pow 2 32 - 1)

/-- A number of 64 bits. -/
def large? : Toml → Option Nat := Toml.natUpTo? (Nat.pow 2 64 - 1)

def agentOf? (t : Toml) : Option AgentSettings := do
  match ← fields? ["root", "admin_token", "bind", "storage_path", "workload_root", "command",
      "cleanup_grace_secs"] t with
  | [root, adminToken, bind, storagePath, workloadRoot, command, grace] =>
    return {
      root := ← setting path? root
      adminToken := ← setting Toml.string? adminToken
      bind := ← setting Toml.string? bind
      storagePath := ← setting path? storagePath
      workloadRoot := ← setting path? workloadRoot
      command := ← setting (Toml.list? Toml.string?) command
      cleanupGraceSeconds := ← setting large? grace }
  | _ => none

def probeOf? (t : Toml) : Option ProbeSettings := do
  match ← fields? ["attempts", "interval_ms", "attempt_timeout_ms"] t with
  | [attempts, interval, timeout] =>
    return {
      attempts := ← setting small? attempts
      intervalMillis := ← setting large? interval
      attemptTimeoutMillis := ← setting large? timeout }
  | _ => none

def tokenOf? (t : Toml) : Option TokenSettings := do
  match ← fields? ["name", "scopes", "ttl_secs"] t with
  | [name, scopes, ttl] =>
    return {
      name := ← setting Toml.string? name
      scopes := ← setting (Toml.list? Toml.string?) scopes
      ttlSeconds := ← setting large? ttl }
  | _ => none

/-- The settings of a table. -/
def ofToml? (t : Toml) : Option FileSettings := do
  match ← fields? ["agent", "probe", "token"] t with
  | [agent, probe, token] =>
    return {
      agent := (← setting agentOf? agent).getD {}
      probe := (← setting probeOf? probe).getD {}
      token := (← setting tokenOf? token).getD {} }
  | _ => none

/-! ## From a disk -/

def ofText (path : Path) (cs : List Char) : Except FileFault FileSettings :=
  match Toml.read cs with
  | .error f => .error (.malformed path (f.text cs))
  | .ok t => match ofToml? t with
    | some s => .ok s
    | none => .error (.malformed path "invalid type")

/-- The settings of the file at a path; none if nothing is there. -/
def load (d : Disk) (cwd : Place) (path : Path) : Except FileFault (Option FileSettings) :=
  if !d.leads cwd path then .ok none
  else match d.content cwd path with
    | .error e => .error (.unreadable path e.message)
    | .ok bytes => match Text.Utf8.decode? bytes with
      | none => .error (.unreadable path "stream did not contain valid UTF-8")
      | some s => (ofText path s.toList).map some

/-! ## Where it is -/

/-- The directory of the settings file: below the one for settings if that is
named, and below the home directory otherwise. -/
def directory (xdgConfigHome : Option String) (home : Option Path) : Path :=
  match xdgConfigHome.filter fun s => !s.isEmpty with
  | some xdg => (⟨xdg⟩ : Path) / "orbit-smoke"
  | none => home.getD "." / ".config" / "orbit-smoke"

/-- The settings file of a directory. -/
def pathIn (directory : Path) : Path :=
  directory / "config.toml"

end FileSettings

end Shakedown
