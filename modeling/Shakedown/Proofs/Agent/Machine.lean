/-
  Shakedown.Proofs.Agent.Machine

  Launching either gives an agent or fails for one of two reasons, and the
  failure tells by its stage which it is.
-/
import Shakedown.Agent.Machine

namespace Shakedown

namespace Machine

variable {m : Machine} {l : Launch}

/-- The directories that a launch needs cannot all be made. -/
def LacksDirectories (m : Machine) (l : Launch) (f : RunFailure) : Prop :=
  ∃ disk, makeAll m.workingPlace m.disk (directoriesOf l) = (disk, .error f)

/-- The directories are there, but the program cannot be started. -/
def CannotStart (m : Machine) (l : Launch) (e : OsError) : Prop :=
  ∃ disk, makeAll m.workingPlace m.disk (directoriesOf l) = (disk, .ok ()) ∧
    m.start disk l = .error e

theorem launch_of_lacksDirectories {f : RunFailure} (h : m.LacksDirectories l f) (now : Nat) :
    (m.launch l now).2 = .error f := by
  obtain ⟨disk, hmade⟩ := h
  rw [launch, hmade]

theorem launch_of_cannotStart {e : OsError} (h : m.CannotStart l e) (now : Nat) :
    (m.launch l now).2 = .error (.notLaunched l.command.text e.message) := by
  obtain ⟨disk, hmade, hstart⟩ := h
  rw [launch, hmade]
  dsimp only
  rw [hstart]

/-- An agent is launched, or the directories cannot be made, or the program cannot
be started. -/
theorem launch_cases (m : Machine) (l : Launch) (now : Nat) :
    (∃ agent, (m.launch l now).2 = .ok agent) ∨
      (∃ f, m.LacksDirectories l f) ∨ ∃ e, m.CannotStart l e := by
  rcases hmade : makeAll m.workingPlace m.disk (directoriesOf l) with ⟨disk, f | _⟩
  · exact Or.inr (Or.inl ⟨f, disk, hmade⟩)
  · cases hstart : m.start disk l with
    | error e => exact Or.inr (Or.inr ⟨e, disk, hmade, hstart⟩)
    | ok run =>
      refine Or.inl ⟨⟨{ pid := m.nextPid, life := run.life, launched := now }, run.output⟩, ?_⟩
      rw [launch, hmade]
      dsimp only
      rw [hstart]

/-- Directories that cannot be made are a matter of the configuration. -/
theorem stage_of_makeAll {cwd : Place} {ps : List Path} {d disk : Disk} {f : RunFailure}
    (h : makeAll cwd d ps = (disk, .error f)) : f.stage = .configure := by
  -- The first directory that cannot be made ends the making.
  induction ps generalizing d with
  | nil => exact nomatch (Prod.mk.inj h).2
  | cons p rest ih =>
    rw [makeAll] at h
    cases hp : d.ensureDirectory cwd p with
    | ok d' =>
      rw [hp] at h
      exact ih h
    | error e =>
      rw [hp] at h
      obtain ⟨-, hf⟩ := Prod.mk.inj h
      rw [← Except.error.inj hf]
      rfl

/-- A launch that fails does so in a stage of its own. -/
theorem stage_of_launch_error {now : Nat} {after : Machine} {f : RunFailure}
    (h : m.launch l now = (after, .error f)) : f.stage = .configure ∨ f.stage = .launch := by
  have hf : (m.launch l now).2 = .error f := congrArg Prod.snd h
  rcases m.launch_cases l now with ⟨agent, hok⟩ | ⟨f', hlacks⟩ | ⟨e, hcannot⟩
  · exact nomatch hf.symm.trans hok
  · obtain rfl := Except.error.inj (hf.symm.trans (launch_of_lacksDirectories hlacks now))
    obtain ⟨disk, hmade⟩ := hlacks
    exact Or.inl (stage_of_makeAll hmade)
  · rw [Except.error.inj (hf.symm.trans (launch_of_cannotStart hcannot now))]
    exact Or.inr rfl

end Machine

end Shakedown
