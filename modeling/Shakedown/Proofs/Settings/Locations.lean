/-
  Shakedown.Proofs.Settings.Locations

  Where the harness and the agent look for one and the same path.  The
  harness makes the directories of a launch from its own working directory;
  the agent is told the same paths and follows them from the root it is run
  in.  The two agree exactly if the path is absolute or the root is the
  working directory under another name, so a relative root sets them apart.
-/
import Shakedown.Proofs.Except
import Shakedown.Proofs.Path
import Shakedown.Settings.Resolve

namespace Shakedown

/-! ## Two views of one path -/

namespace Launch

/-- Where an agent is run that a harness launches from a directory. -/
def runsIn (l : Launch) (cwd : Path) : Path :=
  match l.command.workingDir with
  | some dir => cwd.join dir
  | none => cwd

/-- The location that the agent takes a path for. -/
def readAs (l : Launch) (cwd p : Path) : Path :=
  (l.runsIn cwd).join p

/-- What the agent is told by a variable of its environment. -/
def told? (l : Launch) (name : String) : Option String :=
  (l.environment.find? fun v => v.1 == name).map (·.2)

/-- The location that the harness takes a path for. -/
def preparedAs (cwd p : Path) : Path :=
  cwd.join p

end Launch

namespace Settings

variable {options : RunOptions} {env : Environment} {file : Option FileSettings}
  {cwd cargo : Path} {c : RunParameters}

/-- The directory the agent is run from. -/
def rootOf (options : RunOptions) (file : Option FileSettings) (cwd : Path) : Path :=
  (firstOf [options.root, (file.getD {}).agent.root]).getD cwd

/-- Whatever the agent's command is, it is run in the root. -/
theorem workingDir_of_commandOf {settings : FileSettings} {root : Path} {command : LaunchCommand}
    (h : commandOf options settings cargo root = .ok command) :
    command.workingDir = some root := by
  rw [commandOf] at h
  split at h
  · rw [← Except.ok.inj h]
  · split at h
    · exact nomatch h
    · rw [← Except.ok.inj h]
    · rw [← Except.ok.inj h]
      rfl

/-- A run that is resolved starts the agent in the root. -/
theorem workingDir_of_forRun (h : forRun options env file cwd cargo = .ok c) :
    c.launch.command.workingDir = some (rootOf options file cwd) := by
  unfold forRun at h
  -- The steps before the result, in order: the command, the admin token, the address, the ttl.
  obtain ⟨command, hcommand, h⟩ := exists_of_bind_ok h
  dsimp only at h
  split at h
  · exact nomatch h
  · obtain ⟨bind, -, h⟩ := exists_of_bind_ok h
    obtain ⟨ttl, -, h⟩ := exists_of_bind_ok h
    rw [← Except.ok.inj h]
    exact workingDir_of_commandOf hcommand

/-! ## When the views agree -/

theorem runsIn_of_forRun (h : forRun options env file cwd cargo = .ok c) :
    c.launch.runsIn cwd = cwd.join (rootOf options file cwd) := by
  rw [Launch.runsIn, workingDir_of_forRun h]

/-- For a run that is resolved in an absolute directory, the agent is told both
paths, and takes either for the location that the harness prepares exactly if the
path is absolute or the root is the working directory itself. -/
theorem readAs_eq_preparedAs_iff (h : forRun options env file cwd cargo = .ok c)
    (hcwd : cwd.isAbsolute = true) :
    c.launch.told? "ORBIT_DB_PATH" = some c.launch.storagePath.text ∧
      c.launch.told? "ORBIT_CONTAINERS_ROOT" = some c.launch.workloadRoot.text ∧
      ∀ p ∈ [c.launch.storagePath, c.launch.workloadRoot],
        (c.launch.readAs cwd p).parts = (Launch.preparedAs cwd p).parts ↔
          p.isAbsolute = true ∨ (cwd.join (rootOf options file cwd)).parts = cwd.parts := by
  refine ⟨rfl, rfl, ?_⟩
  intro p _
  -- Both locations are the same path seen from an absolute directory.
  rw [Launch.readAs, Launch.preparedAs, runsIn_of_forRun h]
  exact Path.parts_join_eq_iff (Path.isAbsolute_join hcwd _) hcwd p

/-- A run with nothing but defaults is resolved, and its paths are absolute. -/
theorem readAs_eq_preparedAs_of_defaults :
    ∃ c, forRun {} (fun _ => none) none ⟨"/work"⟩ ⟨"cargo"⟩ = .ok c ∧
      Path.isAbsolute ⟨"/work"⟩ = true ∧
      ∀ p ∈ [c.launch.storagePath, c.launch.workloadRoot],
        (c.launch.readAs ⟨"/work"⟩ p).parts = (Launch.preparedAs ⟨"/work"⟩ p).parts := by
  have habsolute : (match forRun {} (fun _ => none) none ⟨"/work"⟩ ⟨"cargo"⟩ with
      | .ok c => [c.launch.storagePath, c.launch.workloadRoot].all Path.isAbsolute
      | .error _ => false) = true := by decide +kernel
  cases hrun : forRun {} (fun _ => none) none ⟨"/work"⟩ ⟨"cargo"⟩ with
  | error fault =>
    rw [hrun] at habsolute
    exact nomatch habsolute
  | ok c =>
    rw [hrun] at habsolute
    have hcwd : Path.isAbsolute ⟨"/work"⟩ = true := by decide +kernel
    refine ⟨c, rfl, hcwd, ?_⟩
    intro p hp
    obtain ⟨-, -, hiff⟩ := readAs_eq_preparedAs_iff hrun hcwd
    exact (hiff p hp).mpr (Or.inl (List.all_eq_true.mp habsolute p hp))

/-- With a relative root the agent looks for both paths where nothing is prepared. -/
theorem readAs_ne_preparedAs_of_relative_root :
    ∃ c, forRun { root := some ⟨"sub"⟩ } (fun _ => none) none ⟨"/work"⟩ ⟨"cargo"⟩ = .ok c ∧
      Path.isAbsolute ⟨"/work"⟩ = true ∧
      ∀ p ∈ [c.launch.storagePath, c.launch.workloadRoot],
        (c.launch.readAs ⟨"/work"⟩ p).parts ≠ (Launch.preparedAs ⟨"/work"⟩ p).parts := by
  have hapart :
      (match forRun { root := some ⟨"sub"⟩ } (fun _ => none) none ⟨"/work"⟩ ⟨"cargo"⟩ with
      | .ok c => [c.launch.storagePath, c.launch.workloadRoot].all fun p =>
          (c.launch.readAs ⟨"/work"⟩ p).parts != (Launch.preparedAs ⟨"/work"⟩ p).parts
      | .error _ => false) = true := by decide +kernel
  cases hrun : forRun { root := some ⟨"sub"⟩ } (fun _ => none) none ⟨"/work"⟩ ⟨"cargo"⟩ with
  | error fault =>
    rw [hrun] at hapart
    exact nomatch hapart
  | ok c =>
    rw [hrun] at hapart
    refine ⟨c, rfl, by decide +kernel, ?_⟩
    intro p hp
    exact bne_iff_ne.mp (List.all_eq_true.mp hapart p hp)

end Settings

end Shakedown
