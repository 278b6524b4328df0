/-
  Shakedown.Proofs.Run.Verdict

  The verdict of a run that nobody cancels.  A run has four conditions to
  meet, one after the other: the agent is launched, it is found ready before
  it exits, it issues a token, and the scenario passes.  The run reports
  exactly if all are met, and otherwise fails with what the first one that is
  not met tells; it never ends exactly if a call without a limit is never
  answered.
-/
import Shakedown.Program.Text
import Shakedown.Proofs.Agent.Machine
import Shakedown.Proofs.Readiness
import Shakedown.Proofs.Run.Execution
import Shakedown.Proofs.Scenario.Outcome
import Shakedown.Proofs.Token.Issue

namespace Shakedown

variable {σ : Type}

namespace Run

variable {api : Api σ} {config : RunParameters} {machine : Machine} {agent : LaunchedAgent}
  {clock : Nat → Moment} {s : σ} {k : Nat} {token : ScopedToken}

/-! ## The revocation -/

/-- The revocation that may follow the scenario comes to this.  The token counts
as revoked only if the agent was asked to revoke it and did. -/
inductive Revokes (api : Api σ) (config : RunParameters) (token : ScopedToken)
    (p : Standing σ) : Bool → Standing σ → Prop where
  | notWanted (hwanted : config.revokeToken = false) : Revokes api config token p false p
  | unknown (hwanted : config.revokeToken = true) (hid : token.id = none) :
      Revokes api config token p false p
  | refused {id : Uuid} {f : ApiFault} {q : Standing σ} (hwanted : config.revokeToken = true)
      (hid : token.id = some id)
      (h : api.Answers p ⟨config.launch.adminToken, .revokeToken id⟩ (.error f) q) :
      Revokes api config token p false q
  | revoked {id : Uuid} {q : Standing σ} (hwanted : config.revokeToken = true)
      (hid : token.id = some id)
      (h : api.Answers p ⟨config.launch.adminToken, .revokeToken id⟩ (.ok ()) q) :
      Revokes api config token p true q

/-- The revocation is never answered. -/
def RevocationStalls (api : Api σ) (config : RunParameters) (token : ScopedToken)
    (p : Standing σ) : Prop :=
  config.revokeToken = true ∧ ∃ id, token.id = some id ∧
    api.Ignores p ⟨config.launch.adminToken, .revokeToken id⟩

theorem revoke_of_not_wanted (h : config.revokeToken = false) :
    revoke config token = .done false := by
  rw [revoke, h]
  exact if_neg Bool.false_ne_true

theorem revoke_of_unknown (hwanted : config.revokeToken = true) (hid : token.id = none) :
    revoke config token = .done false := by
  rw [revoke, if_pos hwanted, Token.revoke, hid]
  rfl

/-- A revocation that is wanted and can be asked for is one call. -/
theorem revoke_of_known {id : Uuid} (hwanted : config.revokeToken = true)
    (hid : token.id = some id) :
    revoke config token = .ask ⟨config.launch.adminToken, .revokeToken id⟩ fun r =>
      .done (match r with
        | .ok () => true
        | .error _ => false) := by
  rw [revoke, if_pos hwanted, Token.revoke, hid]
  refine congrArg (Plan.ask _) (funext fun r => ?_)
  cases r <;> rfl

theorem outcome?_revoke_of_revokes {p q : Standing σ} {revoked : Bool}
    (h : Revokes api config token p revoked q) :
    (revoke config token).outcome? api p = some (revoked, q) := by
  cases h with
  | notWanted hwanted => rw [revoke_of_not_wanted hwanted, Plan.outcome?_done]
  | unknown hwanted hid => rw [revoke_of_unknown hwanted hid, Plan.outcome?_done]
  | refused hwanted hid h =>
    rw [revoke_of_known hwanted hid, Plan.outcome?_ask_of_answers h, Plan.outcome?_done]
  | revoked hwanted hid h =>
    rw [revoke_of_known hwanted hid, Plan.outcome?_ask_of_answers h, Plan.outcome?_done]

theorem outcome?_revoke_of_revocationStalls {p : Standing σ}
    (h : RevocationStalls api config token p) : (revoke config token).outcome? api p = none := by
  obtain ⟨hwanted, id, hid, hnone⟩ := h
  rw [revoke_of_known hwanted hid, Plan.outcome?_ask_of_ignores hnone]

theorem revokes_or_revocationStalls (api : Api σ) (config : RunParameters) (token : ScopedToken)
    (p : Standing σ) :
    (∃ revoked q, Revokes api config token p revoked q) ∨
      RevocationStalls api config token p := by
  cases hwanted : config.revokeToken with
  | false => exact Or.inl ⟨false, p, .notWanted hwanted⟩
  | true =>
    cases hid : token.id with
    | none => exact Or.inl ⟨false, p, .unknown hwanted hid⟩
    | some id =>
      rcases api.answers_or_ignores p ⟨config.launch.adminToken, .revokeToken id⟩ with
        ⟨r, q, hr⟩ | hnone
      · rcases r with f | ⟨⟩
        · exact Or.inl ⟨false, q, .refused hwanted hid hr⟩
        · exact Or.inl ⟨true, q, .revoked hwanted hid hr⟩
      · exact Or.inr ⟨hwanted, id, hid, hnone⟩

/-! ## The conditions of a run -/

/-- The agent is launched, and at `p` it is found ready by the `k`-th check. -/
def Readies (api : Api σ) (config : RunParameters) (machine : Machine) (s : σ)
    (agent : LaunchedAgent) (k : Nat) (p : Standing σ) : Prop :=
  (machine.launch config.launch 0).2 = .ok agent ∧
    Readiness.Reached api config.launch.adminToken config.probe agent.process.exit? k ⟨0, s⟩ p

/-- The agent is found ready, and at `q` it has issued a token. -/
def Supplies (api : Api σ) (config : RunParameters) (machine : Machine) (clock : Nat → Moment)
    (s : σ) (agent : LaunchedAgent) (k : Nat) (token : ScopedToken) (q : Standing σ) : Prop :=
  ∃ p, Readies api config machine s agent k p ∧
    Token.Issues api config.launch.adminToken config.token (clock p.now) p token q

/-- Every condition is met: a token is issued, and at `r` the scenario has passed. -/
def Meets (api : Api σ) (config : RunParameters) (machine : Machine) (clock : Nat → Moment)
    (s : σ) (agent : LaunchedAgent) (k : Nat) (token : ScopedToken) (o : ScenarioFindings)
    (r : Standing σ) : Prop :=
  ∃ p, Supplies api config machine clock s agent k token p ∧
    Scenario.Passes api config.launch.adminToken token config.scenario (clock p.now) p o r

/-- Every condition is met, the revocation is over, and this is what the run
reports: by which check the agent was ready, the token and whether it was revoked,
what the scenario found, and what the cleanup observed. -/
def Passes (api : Api σ) (config : RunParameters) (machine : Machine) (clock : Nat → Moment)
    (s : σ) (report : RunSummary) : Prop :=
  ∃ agent k token o r revoked q, Meets api config machine clock s agent k token o r ∧
    Revokes api config token r revoked q ∧
    report = ⟨⟨k, token, revoked, o⟩,
      (agent.process.cleanup q.now config.cleanupGrace.nanoseconds).report⟩

/-- The first condition that is not met, by the stage it belongs to, and the
failure that tells so. -/
inductive FailsFirst (api : Api σ) (config : RunParameters) (machine : Machine)
    (clock : Nat → Moment) (s : σ) : RunStage → RunFailure → Prop where
  | directories {f : RunFailure} (h : machine.LacksDirectories config.launch f) :
      FailsFirst api config machine clock s .configure f
  | program {e : OsError} (h : machine.CannotStart config.launch e) :
      FailsFirst api config machine clock s .launch
        (.notLaunched config.launch.command.text e.message)
  | readiness {agent : LaunchedAgent} {f : RunFailure}
      (hlaunched : (machine.launch config.launch 0).2 = .ok agent)
      (h : Readiness.Fails api config.launch.adminToken config.probe agent.process.exit?
        ⟨0, s⟩ f) :
      FailsFirst api config machine clock s .readiness f
  | issuance {agent : LaunchedAgent} {k : Nat} {p q : Standing σ} {fault : IssueFault}
      (hready : Readies api config machine s agent k p)
      (h : Token.IssueFails api config.launch.adminToken config.token (clock p.now) p fault q) :
      FailsFirst api config machine clock s .issuance (.noToken fault)
  | scenario {agent : LaunchedAgent} {k : Nat} {token : ScopedToken} {p r q : Standing σ}
      {cause : ScenarioCause} {revoked : Bool}
      (hsupplied : Supplies api config machine clock s agent k token p)
      (h : Scenario.Fails api config.launch.adminToken token config.scenario (clock p.now) p
        cause r)
      (hrevokes : Revokes api config token r revoked q) :
      FailsFirst api config machine clock s .scenario (.scenarioFailed cause)

/-- A call without a limit that the run makes is never answered: the order of the
token, a call of the scenario, or the revocation after it. -/
inductive NeverEnds (api : Api σ) (config : RunParameters) (machine : Machine)
    (clock : Nat → Moment) (s : σ) : Prop where
  | issuance {agent : LaunchedAgent} {k : Nat} {p : Standing σ}
      (hready : Readies api config machine s agent k p)
      (h : Token.IssueStalls api config.launch.adminToken config.token (clock p.now) p)
  | scenario {agent : LaunchedAgent} {k : Nat} {token : ScopedToken} {p : Standing σ}
      (hsupplied : Supplies api config machine clock s agent k token p)
      (h : Scenario.Stalls api config.launch.adminToken token config.scenario (clock p.now) p)
  | revocation {agent : LaunchedAgent} {k : Nat} {token : ScopedToken} {p r : Standing σ}
      (hsupplied : Supplies api config machine clock s agent k token p)
      (hover : (∃ o, Scenario.Passes api config.launch.adminToken token config.scenario
          (clock p.now) p o r) ∨
        ∃ cause, Scenario.Fails api config.launch.adminToken token config.scenario
          (clock p.now) p cause r)
      (h : RevocationStalls api config token r)

/-- The failure of a condition belongs to the stage of the condition. -/
theorem FailsFirst.stage_eq {stage : RunStage} {f : RunFailure}
    (h : FailsFirst api config machine clock s stage f) : f.stage = stage := by
  cases h with
  | directories h =>
    obtain ⟨disk, hmade⟩ := h
    exact Machine.stage_of_makeAll hmade
  | program h => rfl
  | readiness hlaunched h => cases h <;> rfl
  | issuance hready h => rfl
  | scenario hsupplied h hrevokes => rfl

/-- A run that nobody cancels does not tell of an interruption. -/
theorem FailsFirst.ne_interrupted {stage : RunStage} {f : RunFailure}
    (h : FailsFirst api config machine clock s stage f) : f ≠ .interrupted := by
  rintro rfl
  have hstage := h.stage_eq
  cases h with
  | directories h => exact nomatch hstage
  | readiness hlaunched h => exact nomatch hstage

/-! ## What the stages come to -/

/-- The pipeline as an outcome at standings. -/
def stagesOutcome (api : Api σ) (config : RunParameters) (agent : LaunchedAgent)
    (clock : Nat → Moment) (s : σ) : Option (Except RunFailure RunFindings × Standing σ) :=
  (pipeline api config agent.process.exit? clock 0 s).outcome? api s

theorem stagesOutcome_of_fails {f : RunFailure}
    (h : Readiness.Fails api config.launch.adminToken config.probe agent.process.exit? ⟨0, s⟩ f) :
    ∃ q, stagesOutcome api config agent clock s = some (.error f, q) := by
  obtain ⟨q, hawait⟩ := Readiness.outcome?_await_of_fails h
  refine ⟨q, ?_⟩
  rw [stagesOutcome, pipeline, Trace.outcome?_andThen, hawait]
  rfl

/-- From readiness on, the stages go on where the probe got to. -/
theorem stagesOutcome_of_readies {p : Standing σ}
    (h : Readies api config machine s agent k p) :
    stagesOutcome api config agent clock s =
      (afterReady api config clock k p.now p.state).outcome? api p.state := by
  have hawait := Readiness.outcome?_await_of_reached h.2
  have hstate : api.after s (Readiness.await api config.launch.adminToken config.probe
      agent.process.exit? 0 s).calls = p.state := (Trace.ending_of_outcome? hawait).2
  rw [stagesOutcome, pipeline, Trace.outcome?_andThen, hawait, Option.bind_some]
  dsimp only
  rw [hstate]

/-- After readiness comes the order of the token, and with the token the scenario
and the revocation. -/
theorem stagesOutcome_eq_issue {p : Standing σ} (h : Readies api config machine s agent k p) :
    stagesOutcome api config agent clock s =
      ((Token.issue config.launch.adminToken config.token (clock p.now)).outcome? api p).bind
        fun x => match x.1 with
          | .error fault => some (.error (.noToken fault), x.2)
          | .ok token => (exercise config k token (clock x.2.now)).outcome? api x.2 := by
  rw [stagesOutcome_of_readies h, afterReady, Trace.outcome?_andThen]
  cases hissue :
      (Token.issue config.launch.adminToken config.token (clock p.now)).outcome? api p with
  | none =>
    rw [Plan.outcome?] at hissue
    rw [hissue]
    rfl
  | some x =>
    rw [Plan.outcome?] at hissue
    have hstate := (Trace.ending_of_outcome? hissue).2
    rw [hissue, Option.bind_some, Option.bind_some]
    cases hx : x.1 with
    | error fault => rfl
    | ok token =>
      dsimp only
      rw [hstate, Plan.outcome?]

/-- An order that fails ends the stages. -/
theorem stagesOutcome_of_issueFails {p q : Standing σ} {fault : IssueFault}
    (hready : Readies api config machine s agent k p)
    (h : Token.IssueFails api config.launch.adminToken config.token (clock p.now) p fault q) :
    stagesOutcome api config agent clock s = some (.error (.noToken fault), q) := by
  rw [stagesOutcome_eq_issue hready, Token.outcome?_issue_of_issueFails h]
  rfl

theorem stagesOutcome_of_issueStalls {p : Standing σ}
    (hready : Readies api config machine s agent k p)
    (h : Token.IssueStalls api config.launch.adminToken config.token (clock p.now) p) :
    stagesOutcome api config agent clock s = none := by
  rw [stagesOutcome_eq_issue hready, Token.outcome?_issue_of_issueStalls h]
  rfl

theorem stagesOutcome_of_supplies {q : Standing σ}
    (h : Supplies api config machine clock s agent k token q) :
    stagesOutcome api config agent clock s =
      (exercise config k token (clock q.now)).outcome? api q := by
  obtain ⟨p, hready, hissues⟩ := h
  rw [stagesOutcome_eq_issue hready, Token.outcome?_issue_of_issues hissues]
  rfl

theorem settle_of_none {findings : RunFindings} (h : findings.scenario.cause = none) :
    settle findings = .ok findings := by
  rw [settle, h]

theorem settle_of_some {findings : RunFindings} {cause : ScenarioCause}
    (h : findings.scenario.cause = some cause) :
    settle findings = .error (.scenarioFailed cause) := by
  rw [settle, h]

/-- The revocation follows the scenario whatever that came to. -/
theorem outcome?_exercise {now : Moment} {p r q : Standing σ} {o : ScenarioFindings}
    {revoked : Bool}
    (hplan : (Scenario.plan config.launch.adminToken token config.scenario now).outcome? api p =
      some (o, r))
    (hrevokes : Revokes api config token r revoked q) :
    (exercise config k token now).outcome? api p =
      some (settle ⟨k, token, revoked, o⟩, q) := by
  rw [exercise, Plan.outcome?_bind, hplan, Option.bind_some, Plan.outcome?_bind,
    outcome?_revoke_of_revokes hrevokes, Option.bind_some, Plan.outcome?_done]

theorem outcome?_exercise_of_revocationStalls {now : Moment} {p r : Standing σ}
    {o : ScenarioFindings}
    (hplan : (Scenario.plan config.launch.adminToken token config.scenario now).outcome? api p =
      some (o, r))
    (h : RevocationStalls api config token r) :
    (exercise config k token now).outcome? api p = none := by
  rw [exercise, Plan.outcome?_bind, hplan, Option.bind_some, Plan.outcome?_bind,
    outcome?_revoke_of_revocationStalls h, Option.bind_none]

/-- An agent is found ready at one time only, -/
theorem Readies.unique {k' : Nat} {p p' : Standing σ} (h : Readies api config machine s agent k p)
    (h' : Readies api config machine s agent k' p') : p = p' := by
  have heq := (Probe.outcome?_of_readyAfter h.2.1).symm.trans (Probe.outcome?_of_readyAfter h'.2.1)
  exact (Prod.mk.inj (Option.some.inj heq)).2

/-- and so its token is issued at one. -/
theorem Supplies.unique {k' : Nat} {token' : ScopedToken} {q q' : Standing σ}
    (h : Supplies api config machine clock s agent k token q)
    (h' : Supplies api config machine clock s agent k' token' q') : q = q' := by
  obtain ⟨p, hready, hissues⟩ := h
  obtain ⟨p', hready', hissues'⟩ := h'
  obtain rfl := hready.unique hready'
  have heq := (Token.outcome?_issue_of_issues hissues).symm.trans
    (Token.outcome?_issue_of_issues hissues')
  exact (Prod.mk.inj (Option.some.inj heq)).2

/-! ## What a run comes to -/

/-- A run without an agent fails as the launch did. -/
theorem result_of_launch_error {f : RunFailure}
    (h : (machine.launch config.launch 0).2 = .error f) :
    (execute api config machine clock none s).result = some (.error f) :=
  congrArg Execution.result (execute_whole_of_launch_error api clock s (Prod.ext rfl h))

/-- A run with an agent comes to what its stages come to, and cleans up then. -/
theorem result_of_launched (h : (machine.launch config.launch 0).2 = .ok agent) :
    (execute api config machine clock none s).result =
      (stagesOutcome api config agent clock s).map fun x =>
        reported config agent (x.2.now, x.1) := by
  rw [execute_whole_of_launched api clock s (Prod.ext rfl h), supervise_result, stagesOutcome,
    Trace.outcome?, Option.map_map]
  rfl

theorem result_of_passes {report : RunSummary} (h : Passes api config machine clock s report) :
    (execute api config machine clock none s).result = some (.ok report) := by
  obtain ⟨agent, k, token, o, r, revoked, q, hmeets, hrevokes, rfl⟩ := h
  obtain ⟨p, ⟨p₀, hready, hissues⟩, hpasses⟩ := hmeets
  have hcause : o.cause = none := by
    obtain ⟨taskId, p₁, tasks, p₂, -, -, -, rfl⟩ := hpasses
    rfl
  have hplan := Scenario.outcome?_plan_of_passes hpasses
  rw [result_of_launched hready.1, stagesOutcome_of_supplies ⟨p₀, hready, hissues⟩,
    outcome?_exercise hplan hrevokes, settle_of_none hcause]
  rfl

theorem result_of_failsFirst {stage : RunStage} {f : RunFailure}
    (h : FailsFirst api config machine clock s stage f) :
    (execute api config machine clock none s).result = some (.error f) := by
  cases h with
  | directories h => exact result_of_launch_error (Machine.launch_of_lacksDirectories h 0)
  | program h => exact result_of_launch_error (Machine.launch_of_cannotStart h 0)
  | readiness hlaunched h =>
    obtain ⟨q, hq⟩ := stagesOutcome_of_fails h
    rw [result_of_launched hlaunched, hq]
    rfl
  | issuance hready h =>
    rw [result_of_launched hready.1, stagesOutcome_of_issueFails hready h]
    rfl
  | scenario hsupplied h hrevokes =>
    obtain ⟨p₀, hready, hissues⟩ := hsupplied
    obtain ⟨o, hplan, hcause⟩ := Scenario.outcome?_plan_of_fails h
    rw [result_of_launched hready.1, stagesOutcome_of_supplies ⟨p₀, hready, hissues⟩,
      outcome?_exercise hplan hrevokes, settle_of_some hcause]
    rfl

theorem result_of_neverEnds (h : NeverEnds api config machine clock s) :
    (execute api config machine clock none s).result = none := by
  cases h with
  | issuance hready h =>
    rw [result_of_launched hready.1, stagesOutcome_of_issueStalls hready h]
    rfl
  | scenario hsupplied h =>
    obtain ⟨p₀, hready, hissues⟩ := hsupplied
    rw [result_of_launched hready.1, stagesOutcome_of_supplies ⟨p₀, hready, hissues⟩, exercise,
      Plan.outcome?_bind, Scenario.outcome?_plan_of_stalls h]
    rfl
  | revocation hsupplied hover h =>
    obtain ⟨p₀, hready, hissues⟩ := hsupplied
    rw [result_of_launched hready.1, stagesOutcome_of_supplies ⟨p₀, hready, hissues⟩]
    rcases hover with ⟨o, hpasses⟩ | ⟨cause, hfails⟩
    · rw [outcome?_exercise_of_revocationStalls (Scenario.outcome?_plan_of_passes hpasses) h]
      rfl
    · obtain ⟨o, hplan, -⟩ := Scenario.outcome?_plan_of_fails hfails
      rw [outcome?_exercise_of_revocationStalls hplan h]
      rfl

/-- A run meets every condition, or fails one first, or never ends. -/
theorem passes_or_failsFirst_or_neverEnds (api : Api σ) (config : RunParameters)
    (machine : Machine) (clock : Nat → Moment) (s : σ) :
    (∃ report, Passes api config machine clock s report) ∨
      (∃ stage f, FailsFirst api config machine clock s stage f) ∨
      NeverEnds api config machine clock s := by
  -- Condition by condition; past the last one the revocation may still hang.
  rcases machine.launch_cases config.launch 0 with ⟨agent, hlaunched⟩ | ⟨f, h⟩ | ⟨e, h⟩
  · rcases Readiness.reached_or_fails api config.launch.adminToken config.probe
      agent.process.exit? ⟨0, s⟩ with ⟨k, p, hreached⟩ | ⟨f, h⟩
    · have hready : Readies api config machine s agent k p := ⟨hlaunched, hreached⟩
      rcases Token.issues_or_issueFails_or_issueStalls api config.launch.adminToken config.token
        (clock p.now) p with ⟨token, q, hissues⟩ | ⟨fault, q, h⟩ | h
      · have hsupplied : Supplies api config machine clock s agent k token q :=
          ⟨p, hready, hissues⟩
        rcases Scenario.passes_or_fails_or_stalls api config.launch.adminToken token
          config.scenario (clock q.now) q with ⟨o, r, hpasses⟩ | ⟨cause, r, hfails⟩ | h
        · rcases revokes_or_revocationStalls api config token r with
            ⟨revoked, last, hrevokes⟩ | hstalls
          · exact Or.inl ⟨_, agent, k, token, o, r, revoked, last, ⟨q, hsupplied, hpasses⟩,
              hrevokes, rfl⟩
          · exact Or.inr (Or.inr (.revocation hsupplied (Or.inl ⟨o, hpasses⟩) hstalls))
        · rcases revokes_or_revocationStalls api config token r with
            ⟨revoked, last, hrevokes⟩ | hstalls
          · exact Or.inr (Or.inl ⟨_, _, .scenario hsupplied hfails hrevokes⟩)
          · exact Or.inr (Or.inr (.revocation hsupplied (Or.inr ⟨cause, hfails⟩) hstalls))
        · exact Or.inr (Or.inr (.scenario hsupplied h))
      · exact Or.inr (Or.inl ⟨_, _, .issuance hready h⟩)
      · exact Or.inr (Or.inr (.issuance hready h))
    · exact Or.inr (Or.inl ⟨_, _, .readiness hlaunched h⟩)
  · exact Or.inr (Or.inl ⟨_, _, .directories h⟩)
  · exact Or.inr (Or.inl ⟨_, _, .program h⟩)

/-- What a run comes to, and what that says about its conditions. -/
inductive ComesTo (api : Api σ) (config : RunParameters) (machine : Machine)
    (clock : Nat → Moment) (s : σ) : Option (Except RunFailure RunSummary) → Prop where
  | passes {report : RunSummary} (h : Passes api config machine clock s report) :
      ComesTo api config machine clock s (some (.ok report))
  | fails {f : RunFailure} (h : FailsFirst api config machine clock s f.stage f) :
      ComesTo api config machine clock s (some (.error f))
  | never (h : NeverEnds api config machine clock s) : ComesTo api config machine clock s none

theorem comesTo_result (api : Api σ) (config : RunParameters) (machine : Machine)
    (clock : Nat → Moment) (s : σ) :
    ComesTo api config machine clock s (execute api config machine clock none s).result := by
  rcases passes_or_failsFirst_or_neverEnds api config machine clock s with
    ⟨report, h⟩ | ⟨stage, f, h⟩ | h
  · rw [result_of_passes h]
    exact .passes h
  · rw [result_of_failsFirst h]
    have hstage := h.stage_eq
    subst hstage
    exact .fails h
  · rw [result_of_neverEnds h]
    exact .never h

/-- A run that ends has passed exactly if every condition is met. -/
theorem isOk_iff_meets {r : Except RunFailure RunSummary}
    (hr : (execute api config machine clock none s).result = some r) :
    (∃ report, r = .ok report) ↔
      ∃ agent k token o p, Meets api config machine clock s agent k token o p := by
  constructor
  · rintro ⟨report, rfl⟩
    have hcomes := comesTo_result api config machine clock s
    rw [hr] at hcomes
    cases hcomes with
    | passes h =>
      obtain ⟨agent, k, token, o, p, -, -, hmeets, -, -⟩ := h
      exact ⟨agent, k, token, o, p, hmeets⟩
  · rintro ⟨agent, k, token, o, p, hmeets⟩
    -- The conditions say nothing about the revocation, but a run that ends has seen it end.
    rcases revokes_or_revocationStalls api config token p with ⟨revoked, q, hrevokes⟩ | hstalls
    · have hpasses : Passes api config machine clock s _ :=
        ⟨agent, k, token, o, p, revoked, q, hmeets, hrevokes, rfl⟩
      exact ⟨_, Option.some.inj (hr.symm.trans (result_of_passes hpasses))⟩
    · obtain ⟨start, hsupplied, hpasses⟩ := hmeets
      have hnone := result_of_neverEnds
        (NeverEnds.revocation hsupplied (Or.inl ⟨o, hpasses⟩) hstalls)
      exact nomatch hr.symm.trans hnone

theorem code_of_ne_interrupted {f : RunFailure} (h : f ≠ .interrupted) :
    (Program.ofRun (.error f)).code = 1 := by
  cases f with
  | interrupted => exact absurd rfl h
  | configuration m => rfl
  | notLaunched command reason => rfl
  | notReady attempts reason => rfl
  | exitedEarly exit => rfl
  | noToken fault => rfl
  | scenarioFailed cause => rfl

/-- The verdict of a run that nobody cancels, against any API and with any agent.
It reports, and just this, if all its conditions are met and the revocation is
over; it fails with the failure of the first condition that is not met, in the
stage of that condition; and it goes on for ever if a call without a limit is
never answered.  If it ends, then it has passed exactly if the conditions are
met, and the program exits with 0 then and with 1 otherwise. -/
theorem execute_verdict (api : Api σ) (config : RunParameters) (machine : Machine)
    (clock : Nat → Moment) (s : σ) :
    (∀ report, (execute api config machine clock none s).result = some (.ok report) ↔
      Passes api config machine clock s report) ∧
    (∀ f, (execute api config machine clock none s).result = some (.error f) ↔
      FailsFirst api config machine clock s f.stage f) ∧
    ((execute api config machine clock none s).result = none ↔
      NeverEnds api config machine clock s) ∧
    ∀ r, (execute api config machine clock none s).result = some r →
      ((∃ report, r = .ok report) ↔
        ∃ agent k token o p, Meets api config machine clock s agent k token o p) ∧
      (Program.ofRun r).code = if r.isOk then 0 else 1 := by
  have hcomes := comesTo_result api config machine clock s
  -- Only the ways from the result back to the conditions are left to show.
  refine ⟨fun report => ⟨fun hr => ?_, result_of_passes⟩,
    fun f => ⟨fun hr => ?_, result_of_failsFirst⟩,
    ⟨fun hr => ?_, result_of_neverEnds⟩, fun r hr => ⟨isOk_iff_meets hr, ?_⟩⟩
  · rw [hr] at hcomes
    cases hcomes with
    | passes h => exact h
  · rw [hr] at hcomes
    cases hcomes with
    | fails h => exact h
  · rw [hr] at hcomes
    cases hcomes with
    | never h => exact h
  · rw [hr] at hcomes
    cases hcomes with
    | passes h => rfl
    | fails h => exact code_of_ne_interrupted h.ne_interrupted

end Run

end Shakedown
