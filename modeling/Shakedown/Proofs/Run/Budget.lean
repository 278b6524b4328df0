/-
  Shakedown.Proofs.Run.Budget

  How long a run goes on at most before it cleans up.  Each stage is a plan
  whose length its parameters bound: so many health checks with a pause
  between any two, one order of a token, the steps of the scenario, one
  revocation.  An agent that exits early only shortens the wait for it.
-/
import Shakedown.Proofs.Plan.Budget
import Shakedown.Proofs.Plan.Timing
import Shakedown.Proofs.Run.Verdict

namespace Shakedown

variable {σ : Type} {limit : Nat}

/-- Of calls with a pause between any two, the first is followed by a pause and the others. -/
theorem succ_rounds (more call pause : Nat) :
    (more + 1) * (call + pause) + call = call + (pause + (more * (call + pause) + call)) := by
  rw [Nat.succ_mul]
  omega

/-! ## The wait for readiness -/

/-- What the health checks of a schedule take at most.  Nothing follows the last one. -/
def ProbeSchedule.longest (schedule : ProbeSchedule) : Nat :=
  (schedule.attempts - 1) *
      (schedule.attemptTimeout.nanoseconds + schedule.interval.nanoseconds) +
    schedule.attemptTimeout.nanoseconds

namespace Probe

theorem within_checks (limit : Nat) (adminToken : String) (schedule : ProbeSchedule)
    (more attempt : Nat) (reasons : List String) :
    (checks adminToken schedule more attempt reasons).Within limit
      (more * (schedule.attemptTimeout.nanoseconds + schedule.interval.nanoseconds) +
        schedule.attemptTimeout.nanoseconds) := by
  induction more generalizing attempt reasons with
  | zero =>
    rw [Nat.zero_mul, Nat.zero_add, checks]
    apply Plan.within_askWithin (n := 0)
    intro r
    split <;> exact Plan.within_done limit _ 0
  | succ more ih =>
    -- A check that fails leaves the pause and the checks after it.
    rw [succ_rounds, checks]
    apply Plan.within_askWithin
    intro r
    split
    · exact Plan.within_done limit _ _
    · exact Plan.within_pause _ (ih _ _)

theorem within_plan (limit : Nat) (adminToken : String) (schedule : ProbeSchedule) :
    (plan adminToken schedule).Within limit schedule.longest :=
  within_checks limit adminToken schedule (schedule.attempts - 1) 1 []

end Probe

namespace Readiness

/-- A race is over when the probe would be, if not before. -/
theorem endsBy_race {now time : Nat} {probe : Trace ProbeVerdict} (h : probe.EndsBy time)
    (hstart : now ≤ time) (exit : Option (Nat × ProcessExit)) :
    (race now exit probe).EndsBy time := by
  obtain ⟨endsAt, verdict, hend, hle⟩ := h
  rcases alive_or_exited exit endsAt with halive | ⟨exitsAt, x, rfl, hexit⟩
  · rw [race_of_ended hend halive, Trace.EndsBy, Trace.map_ending, hend]
    exact ⟨endsAt, ofVerdict verdict, rfl, hle⟩
  · have hlate : ∀ later verdict', probe.ending = some (later, verdict') → exitsAt ≤ later := by
      intro later verdict' hend'
      obtain ⟨rfl, -⟩ := Prod.mk.inj (Option.some.inj (hend.symm.trans hend'))
      exact hexit
    rw [race_of_exited hlate]
    exact ⟨_, _, rfl, Nat.max_le.mpr ⟨hstart, Nat.le_trans hexit hle⟩⟩

end Readiness

/-! ## The stages after it -/

theorem Token.within_issue (limit : Nat) (adminToken : String) (request : TokenParameters)
    (now : Moment) : (issue adminToken request now).Within limit limit := by
  rw [issue]
  split
  · trivial
  · refine Plan.within_ask (n := 0) fun r => ?_
    cases r <;> trivial

/-- What the looks at the list of tasks take at most. -/
def ScenarioParameters.longestLooks (config : ScenarioParameters) (limit : Nat) : Nat :=
  (config.taskListAttempts - 1) * (limit + config.taskListInterval.nanoseconds) + limit

namespace Scenario

theorem within_looks (limit : Nat) (adminToken : String) (interval more : Nat) :
    (looks adminToken interval more).Within limit (more * (limit + interval) + limit) := by
  induction more with
  | zero =>
    rw [Nat.zero_mul, Nat.zero_add, looks]
    exact Plan.within_ask (n := 0) fun r => Plan.within_done limit r 0
  | succ more ih =>
    rw [succ_rounds, looks]
    apply Plan.within_ask
    intro r
    -- Only an empty list is looked at again.
    rcases r with f | _ | ⟨task, tasks⟩
    · exact Plan.within_done limit _ _
    · exact Plan.within_pause interval ih
    · exact Plan.within_done limit _ _

theorem within_checkRefusal (limit : Nat) (token : ScopedToken) (o : ScenarioFindings) :
    (checkRefusal token o).Within limit limit := by
  rw [checkRefusal]
  split
  · trivial
  · refine Plan.within_ask (n := 0) fun r => ?_
    cases r <;> trivial

theorem within_afterCreation (limit : Nat) (adminToken : String) (token : ScopedToken)
    (config : ScenarioParameters) (taskId : String) (o : ScenarioFindings) :
    (afterCreation adminToken token config taskId o).Within limit
      (config.longestLooks limit + limit) := by
  refine (within_looks limit adminToken _ _).bind fun r => ?_
  rcases r with f | _ | ⟨task, tasks⟩
  · trivial
  · trivial
  · exact within_checkRefusal limit token _

/-- A creation, the looks, and the listing that is to be refused. -/
theorem within_plan (limit : Nat) (adminToken : String) (token : ScopedToken)
    (config : ScenarioParameters) (now : Moment) :
    (plan adminToken token config now).Within limit
      (limit + (config.longestLooks limit + limit)) := by
  refine Plan.within_ask fun r => ?_
  cases r with
  | error f => exact Plan.within_done limit _ _
  | ok accepted =>
    dsimp only
    split
    · exact Plan.within_done limit _ _
    · exact within_afterCreation limit adminToken token config _ _

end Scenario

namespace Run

theorem within_revoke (limit : Nat) (config : RunParameters) (token : ScopedToken) :
    (revoke config token).Within limit limit := by
  have hrevoke : (Token.revoke config.launch.adminToken token).Within limit limit := by
    rw [Token.revoke]
    split
    · trivial
    · refine Plan.within_ask (n := 0) fun r => ?_
      cases r <;> trivial
  rw [revoke]
  split
  · refine hrevoke.bind (m := 0) fun r => ?_
    cases r <;> trivial
  · trivial

theorem within_exercise (limit : Nat) (config : RunParameters) (readyAfter : Nat)
    (token : ScopedToken) (now : Moment) :
    (exercise config readyAfter token now).Within limit
      (limit + (config.scenario.longestLooks limit + limit) + limit) := by
  refine (Scenario.within_plan limit _ token config.scenario now).bind fun o => ?_
  exact (within_revoke limit config token).bind (m := 0) fun _ => Plan.within_done limit _ 0

/-! ## All the stages -/

/-- What the stages of a run take at most, if each of its calls is over within `limit`. -/
def longest (config : RunParameters) (limit : Nat) : Nat :=
  config.probe.longest + (limit +
    (limit + (config.scenario.longestLooks limit + limit) + limit))

/-- A stage that has failed is over at once. -/
theorem endsBy_failed {α : Type} {now time : Nat} (h : now ≤ time) (f : RunFailure) :
    (failed now f : Trace (Except RunFailure α)).EndsBy time :=
  ⟨now, .error f, rfl, h⟩

/-- Against an API that answers every call by a limit the stages of a run come to an end, in
the time that they may take. -/
theorem endsBy_pipeline {api : Api σ} (hapi : api.Prompt limit) (config : RunParameters)
    (exit : Option (Nat × ProcessExit)) (clock : Nat → Moment) (now : Nat) (s : σ) :
    (pipeline api config exit clock now s).EndsBy (now + longest config limit) := by
  have hprobe := (Probe.within_plan limit config.launch.adminToken config.probe).endsBy hapi now s
  have hready := Readiness.endsBy_race hprobe (Nat.le_add_right now _) exit
  refine hready.andThen fun readyAt r _ hreadyAt => ?_
  cases r with
  | error f => exact endsBy_failed (by unfold longest; omega) f
  | ok k =>
    have hissue := (Token.within_issue limit config.launch.adminToken config.token
      (clock readyAt)).endsBy hapi readyAt (api.after s (Readiness.await api
        config.launch.adminToken config.probe exit now s).calls)
    refine hissue.andThen fun issuedAt r _ hissuedAt => ?_
    cases r with
    | error fault => exact endsBy_failed (by unfold longest; omega) _
    | ok token =>
      have hexercise := (within_exercise limit config k token (clock issuedAt)).endsBy hapi issuedAt
      refine (hexercise _).mono ?_
      unfold longest
      omega

variable {api : Api σ} {config : RunParameters} {machine : Machine} {agent : LaunchedAgent}
  {clock : Nat → Moment} {s : σ} {k : Nat} {token : ScopedToken} {p q last : Standing σ}
  {x : Except RunFailure RunFindings}

/-- So they come to something, in that time. -/
theorem exists_stagesOutcome (hapi : api.Prompt limit) (config : RunParameters)
    (agent : LaunchedAgent) (clock : Nat → Moment) (s : σ) :
    ∃ x last, stagesOutcome api config agent clock s = some (x, last) ∧
      last.now ≤ longest config limit := by
  obtain ⟨now, x, hend, hle⟩ := endsBy_pipeline hapi config agent.process.exit? clock 0 s
  rw [Nat.zero_add] at hle
  exact ⟨x, _, Trace.outcome?_of_ending hend, hle⟩

/-! ## Calls that the stages wait for -/

/-- The order of a token is over before the stages are, -/
theorem le_of_issue {y : Except IssueFault ScopedToken}
    (hready : Readies api config machine s agent k p)
    (hissue : (Token.issue config.launch.adminToken config.token (clock p.now)).outcome? api p =
      some (y, q))
    (h : stagesOutcome api config agent clock s = some (x, last)) : q.now ≤ last.now := by
  rw [stagesOutcome_eq_issue hready, hissue, Option.bind_some] at h
  cases y with
  | error fault =>
    obtain ⟨-, rfl⟩ := Prod.mk.inj (Option.some.inj h)
    exact Nat.le_refl q.now
  | ok token => exact Plan.le_of_outcome? h

/-- and the agent is ready before that. -/
theorem le_of_readies (hready : Readies api config machine s agent k p)
    (h : stagesOutcome api config agent clock s = some (x, last)) : p.now ≤ last.now := by
  have hstages := h
  rw [stagesOutcome_eq_issue hready] at hstages
  obtain ⟨⟨y, q⟩, hissue, -⟩ := Option.bind_eq_some_iff.mp hstages
  exact Nat.le_trans (Plan.le_of_outcome? hissue) (le_of_issue hready hissue h)

theorem le_of_supplies (hsupplied : Supplies api config machine clock s agent k token p)
    (h : stagesOutcome api config agent clock s = some (x, last)) : p.now ≤ last.now := by
  rw [stagesOutcome_of_supplies hsupplied] at h
  exact Plan.le_of_outcome? h

/-- The order is answered before the stages are over. -/
theorem le_of_order {expiresAt : Moment} {r : Except ApiFault TokenGrant}
    (hready : Readies api config machine s agent k p)
    (hexpiry : (clock p.now).add? config.token.ttl = some expiresAt)
    (hr : api.Answers p (Token.orderCall config.launch.adminToken config.token expiresAt) r q)
    (h : stagesOutcome api config agent clock s = some (x, last)) : q.now ≤ last.now :=
  le_of_issue hready (Token.runs_issue_of_answers hexpiry hr).2 h

/-- So is the creation of the scenario, -/
theorem le_of_creation {r : Except ApiFault AgentTask}
    (hsupplied : Supplies api config machine clock s agent k token p)
    (hr : api.Answers p (Scenario.creation token config.scenario (clock p.now)) r q)
    (h : stagesOutcome api config agent clock s = some (x, last)) : q.now ≤ last.now := by
  rw [stagesOutcome_of_supplies hsupplied] at h
  exact Plan.le_of_answers hr h

/-- and its last call, if it is made. -/
theorem le_of_listing {r : Except ApiFault (List Container)} {taskId : String}
    {tasks : List AgentTask} {p₁ p₂ : Standing σ}
    (hsupplied : Supplies api config machine clock s agent k token p)
    (haccepts : Scenario.Accepts api token config.scenario (clock p.now) p taskId p₁)
    (hsees : Scenario.SeesTasks api config.launch.adminToken config.scenario p₁ tasks p₂)
    (hscope : token.holds Scope.readContainers = false)
    (hr : api.Answers p₂ (Scenario.listing token) r q)
    (h : stagesOutcome api config agent clock s = some (x, last)) : q.now ≤ last.now := by
  rw [stagesOutcome_of_supplies hsupplied, exercise, Plan.outcome?_bind,
    Scenario.outcome?_plan_of_seesTasks haccepts hsees, Scenario.checkRefusal,
    if_neg (Bool.eq_false_iff.mp hscope)] at h
  obtain ⟨y, hlisted, hrest⟩ := Option.bind_eq_some_iff.mp h
  exact Nat.le_trans (Plan.le_of_answers hr hlisted) (Plan.le_of_outcome? hrest)

end Run

end Shakedown
