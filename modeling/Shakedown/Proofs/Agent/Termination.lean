/-
  Shakedown.Proofs.Agent.Termination

  Stopping an agent and reporting on it, told by what can be seen of its
  exit: before it is asked to stop, within the grace after that, and within
  another grace after it was stopped.  The report is what everybody sees who
  ever looks, and the cleanup is over after two graces whatever the agent
  does.
-/
import Shakedown.Proofs.Agent.Observation
import Shakedown.Proofs.Agent.SharedCleanup

namespace Shakedown.AgentProcess

variable {p : AgentProcess} {now grace : Nat} {x : ProcessExit}

/-! ## Stopping -/

/-- An agent whose exit is seen is not sent anything. -/
theorem terminate_of_seenAt (h : p.seenAt now = some x) (grace : Nat) :
    p.terminate now grace = ⟨p, false, now⟩ := by
  rw [seenAt_eq_exitBy] at h
  exact terminate_of_gone h grace

/-- One that runs is asked to stop, and left alone if its exit is seen within the grace; whoever
stops it goes on once that is seen. -/
theorem terminate_of_asked_seenAt (hruns : p.seenAt now = none)
    (hseen : (p.asked now).seenAt (now + grace) = some x) :
    (p.terminate now grace).process = p.asked now ∧ (p.terminate now grace).forced = false ∧
      (p.asked now).Awaited now (p.terminate now grace).time x := by
  rw [seenAt_eq_exitBy] at hruns
  obtain ⟨time, hexit, hin⟩ := exit?_of_seenAt hseen
  have hle : now ≤ time := le_of_asked_exit hruns hexit
  have hawaited := awaited_of_exit hexit now
  rw [Nat.max_eq_right hle] at hawaited
  rw [terminate_of_stopped hruns hexit hin]
  exact ⟨rfl, rfl, hawaited⟩

/-- It is killed when the grace is over and no exit was seen. -/
theorem terminate_of_asked_unseen (hruns : p.seenAt now = none)
    (hunseen : (p.asked now).seenAt (now + grace) = none) :
    p.terminate now grace = ⟨p.killed now grace, true, now + grace⟩ := by
  rw [seenAt_eq_exitBy] at hruns
  exact terminate_of_late hruns (late_of_seenAt hunseen)

/-! ## Reporting -/

/-- The report tells whether the agent had to be killed, and the exit that is seen within the
grace after the agent was stopped. -/
theorem cleanup_report (p : AgentProcess) (now grace : Nat) :
    let stop := p.terminate now grace
    (p.cleanup now grace).report =
      ⟨stop.process.seenAt (stop.time + grace), stop.forced⟩ := by
  intro stop
  rcases inTime_or_late stop.process.exit? (stop.time + grace) with ⟨time, x, hexit, hin⟩ | hlate
  · rw [cleanup_of_inTime rfl hexit hin, seenAt_of_le hexit hin]
  · rw [cleanup_of_late rfl hlate, seenAt_eq_exitBy, exitBy_of_late hlate]

/-- The cleanup is over when that exit is seen, or when the grace is over without it. -/
theorem cleanup_over (p : AgentProcess) (now grace : Nat) :
    let stop := p.terminate now grace
    let cleaned := p.cleanup now grace
    (∀ x, cleaned.report.exit = some x → stop.process.Awaited stop.time cleaned.time x) ∧
      (cleaned.report.exit = none → cleaned.time = stop.time + grace) := by
  intro stop cleaned
  rcases inTime_or_late stop.process.exit? (stop.time + grace) with ⟨time, x, hexit, hin⟩ | hlate
  · have hcleaned : cleaned = ⟨stop.process, ⟨some x, stop.forced⟩, Nat.max stop.time time⟩ :=
      cleanup_of_inTime rfl hexit hin
    rw [hcleaned]
    refine ⟨fun y hy => ?_, nofun⟩
    obtain rfl := Option.some.inj hy
    exact awaited_of_exit hexit stop.time
  · have hcleaned : cleaned = ⟨stop.process, ⟨none, stop.forced⟩, stop.time + grace⟩ :=
      cleanup_of_late rfl hlate
    rw [hcleaned]
    exact ⟨nofun, fun _ => rfl⟩

/-- What is reported is what is seen for good, whatever the agent is sent later. -/
theorem seen_of_report {more : List (Nat × AgentSignal)}
    (hreport : (p.cleanup now grace).report.exit = some x)
    (hmore : ∀ sent ∈ more, (p.cleanup now grace).time ≤ sent.1) :
    ∃ time, time ≤ (p.cleanup now grace).time ∧
      ((p.cleanup now grace).process.sendAll more).exit? = some (time, x) := by
  rw [cleanup_exit] at hreport
  rw [← seenAt_eq_exitBy] at hreport
  obtain ⟨time, hexit, hle⟩ := exit?_of_seenAt hreport
  exact ⟨time, hle, exit?_sendAll hexit fun sent hsent => Nat.le_trans hle (hmore sent hsent)⟩

/-- How an agent is stopped, and what is reported of it, whatever it does by itself and on being
asked to stop or killed.  An agent whose exit is seen is sent nothing.  Any other is asked
to stop, once and at the start; it is left alone if its exit is seen within the grace, and
is killed at the very end of the grace otherwise, and only then had to be killed.  The
cleanup reports this and the exit that is seen within a grace after the agent was stopped;
it is over when that is seen or the grace is over, which makes two graces at most.  An exit
that is seen is seen from then on, whatever else the agent is sent after the cleanup, and a
reported exit is what everybody sees who ever looks at the agent or waits for its exit. -/
theorem stopping_and_report (p : AgentProcess) (now grace : Nat) :
    let stop := p.terminate now grace
    let asked := p.sendAll [(now, .term)]
    let killed := p.sendAll [(now, .term), (now + grace, .kill)]
    let cleaned := p.cleanup now grace
    (∀ x, p.seenAt now = some x → stop = ⟨p, false, now⟩) ∧
    (p.seenAt now = none →
      (∀ x, asked.seenAt (now + grace) = some x →
        stop.process = asked ∧ stop.forced = false ∧ asked.Awaited now stop.time x) ∧
      (asked.seenAt (now + grace) = none → stop = ⟨killed, true, now + grace⟩)) ∧
    cleaned.process = stop.process ∧
    cleaned.report = ⟨stop.process.seenAt (stop.time + grace), stop.forced⟩ ∧
    (∀ x, cleaned.report.exit = some x → stop.process.Awaited stop.time cleaned.time x) ∧
    (cleaned.report.exit = none → cleaned.time = stop.time + grace) ∧
    now ≤ cleaned.time ∧ cleaned.time ≤ now + 2 * grace ∧
    ∀ more, (∀ sent ∈ more, cleaned.time ≤ sent.1) →
      let agent := cleaned.process.sendAll more
      (∀ t u x, agent.seenAt t = some x → t ≤ u → agent.seenAt u = some x) ∧
      ∀ x, cleaned.report.exit = some x →
        (∀ t y, agent.seenAt t = some y → y = x) ∧
        ∀ t, ∃ u, u ≤ max t cleaned.time ∧ agent.Awaited t u x := by
  intro stop asked killed cleaned
  have hkilled : p.killed now grace = killed :=
    congrArg (AgentProcess.mk p.pid p.life p.launched) (List.append_assoc p.signals _ _)
  obtain ⟨hseen, hunseen⟩ := cleanup_over p now grace
  obtain ⟨hstart, hend⟩ := cleanup_time_bounds p now grace
  refine ⟨fun x hx => terminate_of_seenAt hx grace, fun hruns => ⟨?_, ?_⟩,
    (cleanup_process p now grace).1, cleanup_report p now grace, hseen, hunseen, hstart, hend,
    fun more hmore => ?_⟩
  · intro x hx
    exact terminate_of_asked_seenAt hruns hx
  · intro hnone
    rw [← hkilled]
    exact terminate_of_asked_unseen hruns hnone
  · refine ⟨fun t u x hx hle => seenAt_later hx hle, fun x hreport => ?_⟩
    obtain ⟨time, hle, hexit⟩ := seen_of_report hreport hmore
    refine ⟨fun t y hy => seenAt_unique hy (seenAt_of_le hexit (Nat.le_refl time)), fun t => ?_⟩
    have hover : max t time ≤ max t cleaned.time :=
      Nat.max_le.mpr ⟨Nat.le_max_left _ _, Nat.le_trans hle (Nat.le_max_right _ _)⟩
    exact ⟨max t time, hover, awaited_of_exit hexit t⟩

end Shakedown.AgentProcess
