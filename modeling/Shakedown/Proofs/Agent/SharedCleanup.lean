/-
  Shakedown.Proofs.Agent.SharedCleanup

  One cleanup for all its callers.  A shared cleanup only moves forward, and
  how far it has come by a time does not depend on when it was looked at
  before: so callers after the first neither restart nor delay it, and where
  it stands is told by the time of the first call alone, as one of the courses
  that a cleanup by itself can take.
-/
import Shakedown.Proofs.Agent.Cleanup

namespace Shakedown

namespace AgentProcess

variable {p : AgentProcess} {now grace : Nat}

/-! ## Times of a cleanup -/

/-- The earlier of two exits is one of them. -/
theorem eq_or_eq_of_earlier {a b : Option (Nat × ProcessExit)} {e : Nat × ProcessExit}
    (h : earlier a b = some e) : a = some e ∨ b = some e := by
  rcases a with _ | a
  · exact Or.inr h
  · rcases b with _ | b
    · exact Or.inl h
    · rw [earlier] at h
      split at h
      · exact Or.inr h
      · exact Or.inl h

/-- A process that runs when it is asked to stop exits no earlier than that. -/
theorem le_of_asked_exit (hruns : p.exitBy now = none) {time : Nat} {x : ProcessExit}
    (hexit : (p.asked now).exit? = some (time, x)) : now ≤ time := by
  have hasked : (p.asked now).exit? = earlier p.exit? (p.exitOn (now, .term)) := by
    rw [exit?, asked, send, List.foldl_append]
    rfl
  rw [hasked] at hexit
  rcases eq_or_eq_of_earlier hexit with hown | hreaction
  · refine Nat.le_of_not_lt fun hlt => ?_
    rw [exitBy_of_le hown (Nat.le_of_lt hlt)] at hruns
    cases hruns
  · obtain ⟨d, -, heq⟩ := Option.map_eq_some_iff.mp hreaction
    obtain ⟨rfl, -⟩ := Prod.mk.inj heq
    exact Nat.le_add_right now d.1

/-- A cleanup takes no more than two graces. -/
theorem cleanup_time_bounds (p : AgentProcess) (now grace : Nat) :
    now ≤ (p.cleanup now grace).time ∧ (p.cleanup now grace).time ≤ now + 2 * grace := by
  have hcourse := cleanup_course p now grace
  generalize p.cleanup now grace = c at hcourse
  cases hcourse with
  | gone hexit hpast => exact ⟨Nat.le_refl _, Nat.le_add_right _ _⟩
  | stopped hruns hexit hintime =>
    have hle := le_of_asked_exit hruns hexit
    dsimp only
    omega
  | reaped hruns hlate hexit hintime =>
    dsimp only
    rw [show ∀ a b, Nat.max a b = max a b from fun _ _ => rfl]
    omega
  | givenUp hruns hlate hunseen =>
    dsimp only
    omega

/-- A cleanup stops the agent and looks on. -/
theorem cleanup_process (p : AgentProcess) (now grace : Nat) :
    (p.cleanup now grace).process = (p.terminate now grace).process ∧
      (p.cleanup now grace).report.forced = (p.terminate now grace).forced := by
  rw [cleanup]
  split <;> exact ⟨rfl, rfl⟩

/-- What stopping an agent sends it: nothing if it has exited; else a request to stop, and
after the grace a kill if it had to be killed. -/
def stopSignals (p : AgentProcess) (now grace : Nat) : List (Nat × AgentSignal) :=
  if (p.exitBy now).isSome then []
  else (now, .term) ::
    if (p.terminate now grace).forced then [(now + grace, .kill)] else []

/-- Stopping an agent sends nothing before it begins. -/
theorem le_of_mem_stopSignals {sent : Nat × AgentSignal} (h : sent ∈ p.stopSignals now grace) :
    now ≤ sent.1 := by
  rw [stopSignals] at h
  split at h
  · exact nomatch h
  · rcases List.mem_cons.mp h with rfl | h
    · exact Nat.le_refl now
    · split at h
      · obtain rfl := List.mem_singleton.mp h
        exact Nat.le_add_right now grace
      · exact nomatch h

end AgentProcess

/-- How far a cleanup is in a phase. -/
def CleanupPhase.place : CleanupPhase → Nat
  | .idle => 0
  | .asked _ => 1
  | .reaping _ _ => 2
  | .finished _ _ => 3

namespace SharedCleanup

open AgentProcess

variable {c : SharedCleanup} {u v now : Nat}

/-! ## One step -/

section Step

variable {p : AgentProcess} {grace since time : Nat} {forced : Bool} {x : ProcessExit}

theorem not_inTime_of_lt (hexit : p.exit? = some (time, x)) (h : ¬time ≤ now) (deadline : Nat) :
    p.exit?.filter (fun e => e.1 ≤ Nat.min now deadline) = none := by
  refine filter_of_late fun time' x' hexit' => ?_
  obtain ⟨rfl, rfl⟩ := Prod.mk.inj (Option.some.inj (hexit.symm.trans hexit'))
  exact Nat.lt_of_le_of_lt (Nat.min_le_left _ _) (Nat.not_le.mp h)

theorem not_inTime_of_late {deadline : Nat}
    (hlate : ∀ time x, p.exit? = some (time, x) → deadline < time) :
    p.exit?.filter (fun e => e.1 ≤ Nat.min now deadline) = none :=
  filter_of_late fun time x hexit =>
    Nat.lt_of_le_of_lt (Nat.min_le_right _ _) (hlate time x hexit)

/-- An agent that exits within the grace after it was asked to is reaped then. -/
theorem step_asked_of_exit (hexit : p.exit? = some (time, x)) (hin : time ≤ since + grace) :
    (SharedCleanup.mk p grace (.asked since)).step now =
      if time ≤ now then ⟨p, grace, .reaping (Nat.max since time) false⟩
      else ⟨p, grace, .asked since⟩ := by
  by_cases h : time ≤ now
  · simp only [step, filter_of_le hexit (Nat.le_min.mpr ⟨h, hin⟩), if_pos h]
  · have hopen : ¬since + grace ≤ now := fun hover => h (Nat.le_trans hin hover)
    simp only [step, not_inTime_of_lt hexit h, if_neg hopen, if_neg h]

/-- One that does not is killed when the grace is over. -/
theorem step_asked_of_late (hlate : ∀ time x, p.exit? = some (time, x) → since + grace < time) :
    (SharedCleanup.mk p grace (.asked since)).step now =
      if since + grace ≤ now then
        ⟨p.send (since + grace) .kill, grace, .reaping (since + grace) true⟩
      else ⟨p, grace, .asked since⟩ := by
  simp only [step, not_inTime_of_late hlate]

/-- A reaped agent that exits within the grace is reported with its exit. -/
theorem step_reaping_of_exit (hexit : p.exit? = some (time, x)) (hin : time ≤ since + grace) :
    (SharedCleanup.mk p grace (.reaping since forced)).step now =
      if time ≤ now then ⟨p, grace, .finished (Nat.max since time) ⟨some x, forced⟩⟩
      else ⟨p, grace, .reaping since forced⟩ := by
  by_cases h : time ≤ now
  · simp only [step, filter_of_le hexit (Nat.le_min.mpr ⟨h, hin⟩), if_pos h]
  · have hopen : ¬since + grace ≤ now := fun hover => h (Nat.le_trans hin hover)
    simp only [step, not_inTime_of_lt hexit h, if_neg hopen, if_neg h]

/-- One that does not is given up. -/
theorem step_reaping_of_late (hlate : ∀ time x, p.exit? = some (time, x) → since + grace < time) :
    (SharedCleanup.mk p grace (.reaping since forced)).step now =
      if since + grace ≤ now then ⟨p, grace, .finished (since + grace) ⟨none, forced⟩⟩
      else ⟨p, grace, .reaping since forced⟩ := by
  simp only [step, not_inTime_of_late hlate]

end Step

theorem step_of_idle (h : c.phase = .idle) (now : Nat) : c.step now = c := by
  rw [step, h]

theorem step_of_finished {time : Nat} {report : CleanupFindings}
    (h : c.phase = .finished time report) (now : Nat) : c.step now = c := by
  rw [step, h]

/-- A cleanup that can take a step takes it at some time, always the same one, and gets
further by it. -/
theorem step_moves (c : SharedCleanup) :
    (∀ now, c.step now = c) ∨
      ∃ due next, (∀ now, c.step now = if due ≤ now then next else c) ∧
        0 < c.phase.place ∧ c.phase.place < next.phase.place := by
  obtain ⟨p, grace, phase⟩ := c
  cases phase with
  | idle => exact Or.inl (step_of_idle rfl)
  | finished time report => exact Or.inl (step_of_finished rfl)
  | asked since =>
    refine Or.inr ?_
    rcases inTime_or_late p.exit? (since + grace) with ⟨time, x, hexit, hin⟩ | hlate
    · exact ⟨_, _, fun now => step_asked_of_exit hexit hin, Nat.one_pos, Nat.lt_succ_self 1⟩
    · exact ⟨_, _, fun now => step_asked_of_late hlate, Nat.one_pos, Nat.lt_succ_self 1⟩
  | reaping since forced =>
    refine Or.inr ?_
    rcases inTime_or_late p.exit? (since + grace) with ⟨time, x, hexit, hin⟩ | hlate
    · exact ⟨_, _, fun now => step_reaping_of_exit hexit hin, Nat.two_pos, Nat.lt_succ_self 2⟩
    · exact ⟨_, _, fun now => step_reaping_of_late hlate, Nat.two_pos, Nat.lt_succ_self 2⟩

/-- A step that can be taken by a time can be taken by a later one, and is the same then. -/
theorem step_eq_or (c : SharedCleanup) (h : u ≤ v) : c.step u = c ∨ c.step u = c.step v := by
  rcases step_moves c with hstill | ⟨due, next, hmoves, -⟩
  · exact Or.inl (hstill u)
  · by_cases hdue : due ≤ u
    · exact Or.inr (by rw [hmoves, hmoves, if_pos hdue, if_pos (Nat.le_trans hdue h)])
    · exact Or.inl (by rw [hmoves, if_neg hdue])

/-- A step leads further, if it leads anywhere. -/
theorem step_place (c : SharedCleanup) (now : Nat) :
    c.step now = c ∨ 0 < c.phase.place ∧ c.phase.place < (c.step now).phase.place := by
  rcases step_moves c with hstill | ⟨due, next, hmoves, hstarted, hfurther⟩
  · exact Or.inl (hstill now)
  · rw [hmoves]
    split
    · exact Or.inr ⟨hstarted, hfurther⟩
    · exact Or.inl rfl

/-- Two steps are all that a cleanup takes by a time. -/
theorem step_advance (c : SharedCleanup) (v : Nat) : (c.advance v).step v = c.advance v := by
  rw [advance]
  rcases step_place c v with hstill | ⟨hstarted, hfirst⟩
  · rw [hstill, hstill, hstill]
  · rcases step_place (c.step v) v with hstill | ⟨-, hsecond⟩
    · rw [hstill, hstill]
    -- After two steps from a cleanup that was started, there is nowhere left to go.
    · cases hphase : ((c.step v).step v).phase with
      | finished time report => exact step_of_finished hphase v
      | idle =>
        rw [hphase, CleanupPhase.place] at hsecond
        omega
      | asked since =>
        rw [hphase, CleanupPhase.place] at hsecond
        omega
      | reaping since forced =>
        rw [hphase, CleanupPhase.place] at hsecond
        omega

/-! ## Looking on -/

/-- How far a cleanup has come by a time does not depend on when it was looked at before. -/
theorem advance_advance (c : SharedCleanup) (h : u ≤ v) :
    (c.advance u).advance v = c.advance v := by
  -- Each of the two steps by `u` was none, or is the one that would be taken by `v`.
  rcases c.step_eq_or h with hfirst | hfirst
  · have hstill : c.advance u = c := by rw [advance, hfirst, hfirst]
    rw [hstill]
  · rcases (c.step u).step_eq_or h with hsecond | hsecond
    · have hone : c.advance u = c.step v := by rw [advance, hsecond, hfirst]
      rw [hone]
      exact step_advance c v
    · have htwo : c.advance u = c.advance v := by rw [advance, hsecond, hfirst]; rfl
      rw [htwo]
      exact (congrArg (step · v) (step_advance c v)).trans (step_advance c v)

/-- Once somebody has asked for it, a cleanup goes on. -/
theorem step_started (h : 0 < c.phase.place) (now : Nat) : 0 < (c.step now).phase.place := by
  rcases step_place c now with hstill | ⟨-, hfurther⟩
  · rwa [hstill]
  · exact Nat.lt_trans h hfurther

theorem advance_started (h : 0 < c.phase.place) (now : Nat) : 0 < (c.advance now).phase.place :=
  step_started (step_started h now) now

theorem advance_of_idle (h : c.phase = .idle) (now : Nat) : c.advance now = c := by
  rw [advance, step_of_idle h, step_of_idle h]

/-! ## Calls -/

/-- The cleanup that the first caller starts. -/
def start (c : SharedCleanup) (now : Nat) : SharedCleanup :=
  if (c.process.exitBy now).isSome then { c with phase := .reaping now false }
  else { c with process := c.process.asked now, phase := .asked now }

theorem start_started (c : SharedCleanup) (now : Nat) : 0 < (c.start now).phase.place := by
  rw [start]
  split
  · exact Nat.two_pos
  · exact Nat.one_pos

theorem call_of_idle (h : c.phase = .idle) (now : Nat) :
    c.call now = (c.start now).advance now := by
  rw [call, advance_of_idle h, h, start]
  dsimp only
  split <;> rfl

/-- A later caller only looks on. -/
theorem call_of_started (h : 0 < c.phase.place) (now : Nat) : c.call now = c.advance now := by
  have hgoing := advance_started h now
  rw [call]
  split
  · rename_i hidle
    rw [hidle] at hgoing
    exact absurd hgoing (Nat.lt_irrefl 0)
  · rfl

theorem step_grace (c : SharedCleanup) (now : Nat) : (c.step now).grace = c.grace := by
  rw [step]
  split
  · rfl
  · rfl
  · dsimp only
    split
    · rfl
    · split <;> rfl
  · dsimp only
    split
    · rfl
    · split <;> rfl

theorem advance_grace (c : SharedCleanup) (now : Nat) : (c.advance now).grace = c.grace := by
  rw [advance, step_grace, step_grace]

theorem call_grace (c : SharedCleanup) (now : Nat) : (c.call now).grace = c.grace := by
  rw [call]
  split
  · split <;> rw [advance_grace]
  · rw [advance_grace]

/-- A cleanup after callers have asked for it, each at a time. -/
def afterCalls (c : SharedCleanup) (calls : List Nat) : SharedCleanup :=
  calls.foldl call c

theorem afterCalls_grace (c : SharedCleanup) (calls : List Nat) :
    (c.afterCalls calls).grace = c.grace := by
  induction calls generalizing c with
  | nil => rfl
  | cons t rest ih =>
    rw [afterCalls, List.foldl_cons, ← afterCalls, ih, call_grace]

/-- Callers of a cleanup that goes on already leave no trace of themselves. -/
theorem advance_afterCalls (h : 0 < c.phase.place) {calls : List Nat} (hby : ∀ t ∈ calls, t ≤ v) :
    (c.afterCalls calls).advance v = c.advance v := by
  induction calls generalizing c with
  | nil => rfl
  | cons t rest ih =>
    rw [afterCalls, List.foldl_cons, call_of_started h]
    have hrest : ∀ t ∈ rest, t ≤ v := fun t' ht' => hby t' (List.mem_cons_of_mem t ht')
    rw [← afterCalls, ih (advance_started h t) hrest, advance_advance c (hby t List.mem_cons_self)]

/-- So a cleanup that anybody has asked for is the one that the first caller started. -/
theorem advance_afterCalls_cons (h : c.phase = .idle) {first : Nat} {later : List Nat}
    (hfirst : first ≤ v) (hlater : ∀ t ∈ later, t ≤ v) :
    (c.afterCalls (first :: later)).advance v = (c.start first).advance v := by
  rw [afterCalls, List.foldl_cons, call_of_idle h, ← afterCalls,
    advance_afterCalls (advance_started (start_started c first) first) hlater,
    advance_advance _ hfirst]

/-! ## The course of a shared cleanup -/

/-- Where a cleanup stands at a time that was first asked for at another: the agent was
asked to stop, or killed, or the cleanup is over, just as in a cleanup by itself. -/
def courseAt (p : AgentProcess) (grace first now : Nat) : SharedCleanup :=
  let cleaned := p.cleanup first grace
  if cleaned.time ≤ now then ⟨cleaned.process, grace, .finished cleaned.time cleaned.report⟩
  else if cleaned.report.forced = true ∧ first + grace ≤ now then
    ⟨p.killed first grace, grace, .reaping (first + grace) true⟩
  else ⟨p.asked first, grace, .asked first⟩

variable {p : AgentProcess} {grace first : Nat}

/-- Started at a time, a cleanup takes the course that a cleanup by itself takes. -/
theorem advance_start (p : AgentProcess) (grace : Nat) (h : first ≤ now) :
    ((SharedCleanup.mk p grace .idle).start first).advance now = courseAt p grace first now := by
  have hcourse := cleanup_course p first grace
  rw [courseAt]
  generalize p.cleanup first grace = cleaned at hcourse
  cases hcourse with
  | @gone time x hexit hpast =>
    have hstart : (SharedCleanup.mk p grace .idle).start first =
        ⟨p, grace, .reaping first false⟩ := by
      rw [start, exitBy_of_le hexit hpast]
      rfl
    have hmax : Nat.max first time = first := Nat.max_eq_left hpast
    rw [hstart, advance, step_reaping_of_exit hexit (Nat.le_trans hpast (Nat.le_add_right _ _)),
      if_pos (Nat.le_trans hpast h), hmax, step_of_finished rfl]
    exact (if_pos h).symm
  | @stopped time x hruns hexit hintime =>
    have hstart : (SharedCleanup.mk p grace .idle).start first =
        ⟨p.asked first, grace, .asked first⟩ := by
      rw [start, hruns]
      rfl
    have hmax : Nat.max first time = time := Nat.max_eq_right (le_of_asked_exit hruns hexit)
    have hself : Nat.max time time = time := Nat.max_self time
    rw [hstart, advance, step_asked_of_exit hexit hintime, hmax]
    dsimp only
    by_cases hover : time ≤ now
    · rw [if_pos hover, step_reaping_of_exit hexit (Nat.le_add_right _ _), if_pos hover, hself,
        if_pos hover]
    · rw [if_neg hover, step_asked_of_exit hexit hintime, if_neg hover, if_neg hover,
        if_neg fun hforced => Bool.false_ne_true hforced.1]
  | @reaped time x hruns hlate hexit hintime =>
    have hstart : (SharedCleanup.mk p grace .idle).start first =
        ⟨p.asked first, grace, .asked first⟩ := by
      rw [start, hruns]
      rfl
    have hover : Nat.max (first + grace) time ≤ now ↔ first + grace ≤ now ∧ time ≤ now :=
      Nat.max_le
    rw [hstart, advance, step_asked_of_late hlate]
    dsimp only
    by_cases hgrace : first + grace ≤ now
    · rw [if_pos hgrace, ← killed, step_reaping_of_exit hexit hintime]
      by_cases htime : time ≤ now
      · rw [if_pos htime, if_pos (hover.mpr ⟨hgrace, htime⟩)]
      · rw [if_neg htime, if_neg fun h => htime (hover.mp h).2, if_pos ⟨rfl, hgrace⟩]
    · rw [if_neg hgrace, step_asked_of_late hlate, if_neg hgrace,
        if_neg fun h => hgrace (hover.mp h).1, if_neg fun h => hgrace h.2]
  | givenUp hruns hlate hunseen =>
    have hstart : (SharedCleanup.mk p grace .idle).start first =
        ⟨p.asked first, grace, .asked first⟩ := by
      rw [start, hruns]
      rfl
    rw [hstart, advance, step_asked_of_late hlate]
    dsimp only
    by_cases hgrace : first + grace ≤ now
    · rw [if_pos hgrace, ← killed, step_reaping_of_late hunseen]
      by_cases htime : first + grace + grace ≤ now
      · rw [if_pos htime, if_pos htime]
      · rw [if_neg htime, if_neg htime, if_pos ⟨rfl, hgrace⟩]
    · have hopen : ¬first + grace + grace ≤ now := fun h =>
        hgrace (Nat.le_trans (Nat.le_add_right _ _) h)
      rw [if_neg hgrace, step_asked_of_late hlate, if_neg hgrace, if_neg hopen,
        if_neg fun h => hgrace h.2]

/-- What was done to the agent by a time: nothing if it had exited; else it was asked to
stop, and killed if it had to be and the grace is over. -/
theorem courseAt_process (p : AgentProcess) (grace : Nat) (h : first ≤ now) :
    (courseAt p grace first now).process =
      if (p.exitBy first).isSome then p
      else if (p.terminate first grace).forced = true ∧ first + grace ≤ now then
        p.killed first grace
      else p.asked first := by
  have hcourse := cleanup_course p first grace
  rw [courseAt, ← (cleanup_process p first grace).2]
  generalize p.cleanup first grace = cleaned at hcourse
  -- A cleanup that is over after a kill is over after the grace.
  have hforced : ∀ {time : Nat} {report : CleanupFindings}, report.forced = true →
      first + grace ≤ time →
      (if time ≤ now then (⟨p.killed first grace, grace, .finished time report⟩ : SharedCleanup)
        else if report.forced = true ∧ first + grace ≤ now then
          ⟨p.killed first grace, grace, .reaping (first + grace) true⟩
        else ⟨p.asked first, grace, .asked first⟩).process =
      if report.forced = true ∧ first + grace ≤ now then p.killed first grace
      else p.asked first := by
    intro time report hreport htime
    by_cases hover : time ≤ now
    · rw [if_pos hover, if_pos ⟨hreport, Nat.le_trans htime hover⟩]
    · rw [if_neg hover]
      split <;> rfl
  cases hcourse with
  | gone hexit hpast =>
    dsimp only
    rw [exitBy_of_le hexit hpast, if_pos h]
    rfl
  | stopped hruns hexit hintime =>
    rw [hruns]
    simp only [Bool.false_eq_true, false_and, if_false, Option.isSome_none]
    split <;> rfl
  | reaped hruns hlate hexit hintime =>
    rw [hruns, Option.isSome_none, if_neg Bool.false_ne_true]
    exact hforced rfl (Nat.le_max_left _ _)
  | givenUp hruns hlate hunseen =>
    rw [hruns, Option.isSome_none, if_neg Bool.false_ne_true]
    exact hforced rfl (Nat.le_add_right _ _)

/-- By any time a cleanup has sent what stopping the agent sends by then. -/
theorem courseAt_signals (p : AgentProcess) (grace : Nat) (h : first ≤ now) :
    (courseAt p grace first now).process.signals =
      p.signals ++ (p.stopSignals first grace).filter fun sent => sent.1 ≤ now := by
  rw [courseAt_process p grace h, stopSignals]
  cases hruns : (p.exitBy first).isSome with
  | true => exact (List.append_nil _).symm
  | false =>
    rw [if_neg Bool.false_ne_true, if_neg Bool.false_ne_true]
    by_cases hforced : (p.terminate first grace).forced = true
    · by_cases hgrace : first + grace ≤ now
      · simp [hforced, hgrace, h, killed, asked, send]
      · simp [hgrace, hforced, h, asked, send]
    · simp [hforced, h, asked, send]

/-! ## One cleanup for all callers -/

/-- Where a cleanup stands at a time, when callers ask for it at theirs. -/
def standing (c : SharedCleanup) (calls : List Nat) (now : Nat) : SharedCleanup :=
  (c.afterCalls (calls.filter (· ≤ now))).advance now

variable {calls later : List Nat}

/-- Until the first call nothing happens. -/
theorem standing_of_none (p : AgentProcess) (grace : Nat) (h : ∀ t ∈ calls, now < t) :
    (SharedCleanup.mk p grace .idle).standing calls now = ⟨p, grace, .idle⟩ := by
  have hnobody : calls.filter (· ≤ now) = [] :=
    List.filter_eq_nil_iff.mpr fun t ht => by simpa using h t ht
  rw [standing, hnobody]
  exact advance_of_idle rfl now

/-- From then on it takes its course. -/
theorem standing_of_le (p : AgentProcess) (grace : Nat) (h : first ≤ now) :
    (SharedCleanup.mk p grace .idle).standing (first :: later) now =
      courseAt p grace first now := by
  have hfilter : (first :: later).filter (· ≤ now) = first :: later.filter (· ≤ now) :=
    List.filter_cons_of_pos (decide_eq_true h)
  rw [standing, hfilter, advance_afterCalls_cons rfl h, advance_start p grace h]
  intro t ht
  exact of_decide_eq_true (List.mem_filter.mp ht).2

/-- Once it is over, a cleanup has stopped the agent and holds the report. -/
theorem courseAt_of_over (p : AgentProcess) (grace : Nat)
    (h : (p.cleanup first grace).time ≤ now) :
    courseAt p grace first now =
      ⟨(p.cleanup first grace).process, grace,
        .finished (p.cleanup first grace).time (p.cleanup first grace).report⟩ :=
  if_pos h

/-- Until then there is no report. -/
theorem courseAt_of_open (p : AgentProcess) (grace : Nat)
    (h : ¬(p.cleanup first grace).time ≤ now) :
    (courseAt p grace first now).isDone = false ∧
      (courseAt p grace first now).report? = none := by
  rw [courseAt, if_neg h]
  split <;> exact ⟨rfl, rfl⟩

/-- Every caller is answered, with the report of the one cleanup: at once if that is over,
and otherwise when it is. -/
theorem await_afterCalls (p : AgentProcess) (grace : Nat) {before after : List Nat} {t : Nat}
    (hordered : (first :: later).Pairwise (· ≤ ·)) (heq : first :: later = before ++ t :: after) :
    (((SharedCleanup.mk p grace .idle).afterCalls before).await t).2 =
      some (Nat.max t (p.cleanup first grace).time, (p.cleanup first grace).report) := by
  have hcall : ((SharedCleanup.mk p grace .idle).afterCalls before).call t =
      (SharedCleanup.mk p grace .idle).afterCalls (before ++ [t]) := by
    rw [afterCalls, afterCalls, List.foldl_append]
    rfl
  have hprefix : before ++ [t] <+: first :: later := ⟨after, by rw [heq, List.append_assoc]; rfl⟩
  have hby : ∀ t' ∈ before ++ [t], t' ≤ t := by
    have hsorted := (hordered.sublist hprefix.sublist)
    rw [List.pairwise_append] at hsorted
    intro t' ht'
    rcases List.mem_append.mp ht' with ht' | ht'
    · exact hsorted.2.2 t' ht' t (List.mem_singleton.mpr rfl)
    · exact Nat.le_of_eq (List.mem_singleton.mp ht')
  obtain ⟨rest, hrest⟩ : ∃ rest, before ++ [t] = first :: rest := by
    cases before with
    | nil => exact ⟨[], by rw [(List.cons.inj heq).1]; rfl⟩
    | cons b bs => exact ⟨bs ++ [t], by rw [(List.cons.inj heq).1]; rfl⟩
  rw [hrest] at hby
  have hfirst : first ≤ t + 2 * grace :=
    Nat.le_trans (hby first List.mem_cons_self) (Nat.le_add_right _ _)
  have hover : (p.cleanup first grace).time ≤ t + 2 * grace :=
    Nat.le_trans (cleanup_time_bounds p first grace).2
      (Nat.add_le_add_right (hby first List.mem_cons_self) _)
  have hlater : ∀ t' ∈ rest, t' ≤ t + 2 * grace := fun t' ht' =>
    Nat.le_trans (hby t' (List.mem_cons_of_mem first ht')) (Nat.le_add_right _ _)
  rw [await, hcall, hrest, afterCalls_grace, advance_afterCalls_cons rfl hfirst hlater,
    advance_start p grace hfirst, courseAt_of_over p grace hover]

/-- All callers share one cleanup, whatever the agent does and whenever they come: while it
goes on, and once it is over.  It starts with the first call and stops the agent once:
by any time it has sent what stopping the agent at the first call sends by then, which
is a request at most once and a kill at most once, after the request.  Every caller is
answered, no later than two graces after it started or at once if that is past, and all
with one report; the cleanup is over, and its report there, from the time on at which
the first caller is answered, and not before. -/
theorem callers_share_one_cleanup (p : AgentProcess) (grace : Nat)
    (hordered : (first :: later).Pairwise (· ≤ ·)) :
    (∀ before t after, first :: later = before ++ t :: after →
      (((SharedCleanup.mk p grace .idle).afterCalls before).await t).2 =
        some (Nat.max t (p.cleanup first grace).time, (p.cleanup first grace).report)) ∧
    first ≤ (p.cleanup first grace).time ∧ (p.cleanup first grace).time ≤ first + 2 * grace ∧
    ∀ now,
      let c := (SharedCleanup.mk p grace .idle).standing (first :: later) now
      (c.isDone = true ↔ (p.cleanup first grace).time ≤ now) ∧
      c.report? =
        (if (p.cleanup first grace).time ≤ now then some (p.cleanup first grace).report
        else none) ∧
      c.process.signals =
        p.signals ++ (p.stopSignals first grace).filter (fun sent => sent.1 ≤ now) ∧
      ((p.cleanup first grace).time ≤ now → c.process = (p.terminate first grace).process) := by
  obtain ⟨hstart, hend⟩ := cleanup_time_bounds p first grace
  refine ⟨fun before t after heq => await_afterCalls p grace hordered heq, hstart, hend,
    fun now => ?_⟩
  by_cases hcalled : first ≤ now
  · rw [standing_of_le p grace hcalled]
    by_cases hover : (p.cleanup first grace).time ≤ now
    · refine ⟨?_, ?_, courseAt_signals p grace hcalled, fun _ => ?_⟩
      · rw [courseAt_of_over p grace hover]
        exact iff_of_true rfl hover
      · rw [courseAt_of_over p grace hover, if_pos hover]
        rfl
      · rw [courseAt_of_over p grace hover]
        exact (cleanup_process p first grace).1
    · obtain ⟨hopen, hnone⟩ := courseAt_of_open p grace hover
      refine ⟨iff_of_false (fun hdone => ?_) hover, ?_, courseAt_signals p grace hcalled,
        fun h => absurd h hover⟩
      · rw [hopen] at hdone
        exact Bool.false_ne_true hdone
      · rw [hnone, if_neg hover]
  -- Nobody has asked for the cleanup yet.
  · have hbefore : now < first := Nat.not_le.mp hcalled
    have hnobody : ∀ t ∈ first :: later, now < t := by
      intro t ht
      rcases List.mem_cons.mp ht with rfl | ht
      · exact hbefore
      · exact Nat.lt_of_lt_of_le hbefore (List.rel_of_pairwise_cons hordered ht)
    have hopen : ¬(p.cleanup first grace).time ≤ now := fun h =>
      hcalled (Nat.le_trans hstart h)
    have hunsent : (p.stopSignals first grace).filter (fun sent => sent.1 ≤ now) = [] :=
      List.filter_eq_nil_iff.mpr fun sent hsent => by
        simpa using Nat.lt_of_lt_of_le hbefore (le_of_mem_stopSignals hsent)
    rw [standing_of_none p grace hnobody, hunsent, if_neg hopen, List.append_nil]
    exact ⟨iff_of_false Bool.false_ne_true hopen, rfl, rfl, fun h => absurd h hopen⟩

/-- An agent that takes no notice of being asked to stop, and is gone five units of time
after a kill. -/
def stubbornAgent : AgentProcess where
  pid := 1
  life := ⟨none, none, some (5, .ofSignal 9)⟩
  launched := 0

/-- Four callers of the cleanup of such an agent, with a grace of ten: two come at once, one
while the agent is reaped and one when all is over. -/
theorem callers_share_one_cleanup_of_stubbornAgent :
    [3, 3, 14, 40].Pairwise (· ≤ ·) ∧
    (((SharedCleanup.mk stubbornAgent 10 .idle).afterCalls [3, 3]).await 14).2 =
      some (18, ⟨some (.ofSignal 9), true⟩) ∧
    (((SharedCleanup.mk stubbornAgent 10 .idle).afterCalls [3, 3, 14]).await 40).2 =
      some (40, ⟨some (.ofSignal 9), true⟩) ∧
    ((SharedCleanup.mk stubbornAgent 10 .idle).standing [3, 3, 14, 40] 17).isDone = false ∧
    ((SharedCleanup.mk stubbornAgent 10 .idle).standing [3, 3, 14, 40] 40).process.signals =
      [(3, .term), (13, .kill)] := by
  have hordered : [3, 3, 14, 40].Pairwise (· ≤ ·) := by decide
  obtain ⟨hawait, -, -, hstands⟩ := callers_share_one_cleanup stubbornAgent 10 hordered
  refine ⟨hordered, hawait [3, 3] 14 [40] rfl, hawait [3, 3, 14] 40 [] rfl, ?_, ?_⟩
  · exact Bool.eq_false_iff.mpr fun hdone => absurd ((hstands 17).1.mp hdone) (by decide)
  · exact (hstands 40).2.2.1

end SharedCleanup

end Shakedown
