/-
  Shakedown.Proofs.Agent.Cleanup

  The courses that a cleanup can take.  The agent is gone already, or it stops
  when it is asked to, or it has to be killed and is then reaped or given up.
  All that a cleanup reports, and every signal it sends, follows from that.
-/
import Shakedown.Agent.Cleanup

namespace Shakedown

namespace AgentProcess

variable {p : AgentProcess} {now grace : Nat}

/-- The agent once it was asked to stop at a time. -/
def asked (p : AgentProcess) (now : Nat) : AgentProcess :=
  p.send now .term

/-- The agent once it was also killed, when the grace was over. -/
def killed (p : AgentProcess) (now grace : Nat) : AgentProcess :=
  (p.asked now).send (now + grace) .kill

/-- How a cleanup goes, and what it comes to. -/
inductive Course (p : AgentProcess) (now grace : Nat) : Cleaned → Prop where
  /-- The agent has exited before. -/
  | gone {time : Nat} {x : ProcessExit} (hexit : p.exit? = some (time, x)) (hpast : time ≤ now) :
      Course p now grace ⟨p, ⟨some x, false⟩, now⟩
  /-- It exits when asked to stop, within the grace. -/
  | stopped {time : Nat} {x : ProcessExit} (hruns : p.exitBy now = none)
      (hexit : (p.asked now).exit? = some (time, x)) (hintime : time ≤ now + grace) :
      Course p now grace ⟨p.asked now, ⟨some x, false⟩, time⟩
  /-- It has to be killed, and exits within another grace. -/
  | reaped {time : Nat} {x : ProcessExit} (hruns : p.exitBy now = none)
      (hlate : ∀ time x, (p.asked now).exit? = some (time, x) → now + grace < time)
      (hexit : (p.killed now grace).exit? = some (time, x))
      (hintime : time ≤ now + grace + grace) :
      Course p now grace ⟨p.killed now grace, ⟨some x, true⟩, Nat.max (now + grace) time⟩
  /-- It has to be killed, and no exit is seen for another grace. -/
  | givenUp (hruns : p.exitBy now = none)
      (hlate : ∀ time x, (p.asked now).exit? = some (time, x) → now + grace < time)
      (hunseen : ∀ time x, (p.killed now grace).exit? = some (time, x) →
        now + grace + grace < time) :
      Course p now grace ⟨p.killed now grace, ⟨none, true⟩, now + grace + grace⟩

/-! ## Exits that are there in time -/

theorem filter_of_le {e : Option (Nat × ProcessExit)} {time limit : Nat} {x : ProcessExit}
    (he : e = some (time, x)) (h : time ≤ limit) :
    e.filter (fun e => e.1 ≤ limit) = some (time, x) := by
  rw [he]
  exact Option.filter_some_pos (decide_eq_true h)

theorem filter_of_late {e : Option (Nat × ProcessExit)} {limit : Nat}
    (h : ∀ time x, e = some (time, x) → limit < time) :
    e.filter (fun e => e.1 ≤ limit) = none := by
  rcases e with _ | ⟨time, x⟩
  · rfl
  · have hlate : ¬time ≤ limit := Nat.not_le.mpr (h time x rfl)
    exact Option.filter_some_neg (by simpa using hlate)

/-- An exit is there by a time, or it is late. -/
theorem inTime_or_late (e : Option (Nat × ProcessExit)) (limit : Nat) :
    (∃ time x, e = some (time, x) ∧ time ≤ limit) ∨
      ∀ time x, e = some (time, x) → limit < time := by
  rcases e with _ | ⟨time, x⟩
  · exact Or.inr nofun
  · by_cases h : time ≤ limit
    · exact Or.inl ⟨time, x, rfl, h⟩
    · refine Or.inr ?_
      rintro time' x' heq
      obtain ⟨rfl, rfl⟩ := Prod.mk.inj (Option.some.inj heq)
      exact Nat.not_le.mp h

theorem exitBy_of_le {time : Nat} {x : ProcessExit} (hexit : p.exit? = some (time, x))
    (h : time ≤ now) : p.exitBy now = some x := by
  rw [exitBy, filter_of_le hexit h]
  rfl

theorem exitBy_of_late (h : ∀ time x, p.exit? = some (time, x) → now < time) :
    p.exitBy now = none := by
  rw [exitBy, filter_of_late h]
  rfl

/-! ## The course of a cleanup -/

/-- An agent that has exited is left alone. -/
theorem terminate_of_gone {x : ProcessExit} (h : p.exitBy now = some x) (grace : Nat) :
    p.terminate now grace = ⟨p, false, now⟩ := by
  rw [terminate, h]
  rfl

theorem terminate_of_stopped {time : Nat} {x : ProcessExit} (hruns : p.exitBy now = none)
    (hexit : (p.asked now).exit? = some (time, x)) (hintime : time ≤ now + grace) :
    p.terminate now grace = ⟨p.asked now, false, time⟩ := by
  have hfilter := filter_of_le hexit hintime
  rw [asked] at hfilter
  rw [terminate, hruns]
  dsimp only [Option.isSome_none]
  rw [if_neg Bool.false_ne_true, hfilter]
  rfl

theorem terminate_of_late (hruns : p.exitBy now = none)
    (hlate : ∀ time x, (p.asked now).exit? = some (time, x) → now + grace < time) :
    p.terminate now grace = ⟨p.killed now grace, true, now + grace⟩ := by
  have hfilter := filter_of_late hlate
  rw [asked] at hfilter
  rw [terminate, hruns]
  dsimp only [Option.isSome_none]
  rw [if_neg Bool.false_ne_true, hfilter]
  rfl

theorem cleanup_of_inTime {t : Termination} (ht : p.terminate now grace = t) {time : Nat}
    {x : ProcessExit} (hexit : t.process.exit? = some (time, x)) (h : time ≤ t.time + grace) :
    p.cleanup now grace = ⟨t.process, ⟨some x, t.forced⟩, Nat.max t.time time⟩ := by
  subst ht
  rw [cleanup, filter_of_le hexit h]

theorem cleanup_of_late {t : Termination} (ht : p.terminate now grace = t)
    (h : ∀ time x, t.process.exit? = some (time, x) → t.time + grace < time) :
    p.cleanup now grace = ⟨t.process, ⟨none, t.forced⟩, t.time + grace⟩ := by
  subst ht
  rw [cleanup, filter_of_late h]

/-- Every cleanup takes one of the courses. -/
theorem cleanup_course (p : AgentProcess) (now grace : Nat) :
    Course p now grace (p.cleanup now grace) := by
  -- The exit has come before the cleanup, or in one of its two waits, or in neither.
  rcases inTime_or_late p.exit? now with ⟨time, x, hexit, hpast⟩ | hahead
  · have ht := terminate_of_gone (exitBy_of_le hexit hpast) grace
    rw [cleanup_of_inTime ht hexit (Nat.le_trans hpast (Nat.le_add_right now grace)),
      show Nat.max now time = now from Nat.max_eq_left hpast]
    exact .gone hexit hpast
  · have hruns := exitBy_of_late hahead
    rcases inTime_or_late (p.asked now).exit? (now + grace) with ⟨time, x, hexit, hintime⟩ | hlate
    · have ht := terminate_of_stopped hruns hexit hintime
      rw [cleanup_of_inTime ht hexit (Nat.le_add_right time grace),
        show Nat.max time time = time from Nat.max_self time]
      exact .stopped hruns hexit hintime
    · have ht := terminate_of_late hruns hlate
      rcases inTime_or_late (p.killed now grace).exit? (now + grace + grace) with
        ⟨time, x, hexit, hintime⟩ | hunseen
      · rw [cleanup_of_inTime ht hexit hintime]
        exact .reaped hruns hlate hexit hintime
      · rw [cleanup_of_late ht hunseen]
        exact .givenUp hruns hlate hunseen

/-! ## What a cleanup tells -/

/-- The exit that a cleanup reports is the one that has come by its end. -/
theorem cleanup_exit (p : AgentProcess) (now grace : Nat) :
    (p.cleanup now grace).report.exit =
      (p.cleanup now grace).process.exitBy (p.cleanup now grace).time := by
  have hcourse := cleanup_course p now grace
  generalize p.cleanup now grace = c at hcourse
  cases hcourse with
  | gone hexit hpast => exact (exitBy_of_le hexit hpast).symm
  | stopped hruns hexit hintime => exact (exitBy_of_le hexit (Nat.le_refl _)).symm
  | reaped hruns hlate hexit hintime => exact (exitBy_of_le hexit (Nat.le_max_right _ _)).symm
  | givenUp hruns hlate hunseen => exact (exitBy_of_late hunseen).symm

end AgentProcess

end Shakedown
