/-
  Shakedown.Proofs.Run.Revocation

  The revocation at the end of a run.  Everything that a run does until its
  scenario has come to a verdict is `untilVerdict`, which revokes nothing; what
  follows it is at most one call, the revocation, and the result.  So the
  revocation is the last call, whatever the verdict was, and what it is
  answered changes nothing but what the run says of the revocation, and the
  time at which the cleanup begins.
-/
import Shakedown.Proofs.Plan.Calls
import Shakedown.Proofs.Run.CallOrder
import Shakedown.Proofs.Run.Cleanup

namespace Shakedown

variable {σ α β : Type}

/-! ## Calls of the stages -/

/-- Whether a call revokes a token. -/
def Call.isRevocation (c : Call) : Bool :=
  c.request.kind == .revokeToken

/-- A call that revokes nothing. -/
def Call.Spares (c : Call) : Prop :=
  c.isRevocation = false

theorem Probe.makesOnly_checks {P : Call → Prop} {adminToken : String}
    (h : P (check adminToken)) (schedule : ProbeSchedule) (more attempt : Nat)
    (reasons : List String) : (checks adminToken schedule more attempt reasons).MakesOnly P := by
  induction more generalizing attempt reasons with
  | zero =>
    rw [checks]
    refine ⟨h, fun r => ?_⟩
    dsimp only
    split <;> exact trivial
  | succ more ih =>
    rw [checks]
    refine ⟨h, fun r => ?_⟩
    dsimp only
    split
    · exact trivial
    · exact ih _ _

theorem Token.makesOnly_issue {P : Call → Prop} {adminToken : String}
    (h : ∀ order, P ⟨adminToken, .issueToken order⟩) (request : TokenParameters) (now : Moment) :
    (issue adminToken request now).MakesOnly P := by
  rw [issue]
  split
  · exact trivial
  · refine ⟨h _, fun r => ?_⟩
    cases r <;> exact trivial

namespace Scenario

variable {P : Call → Prop} {adminToken : String} {token : ScopedToken}

theorem makesOnly_looks (h : P (look adminToken)) (interval more : Nat) :
    (looks adminToken interval more).MakesOnly P := by
  induction more with
  | zero => exact ⟨h, fun _ => trivial⟩
  | succ more ih =>
    refine ⟨h, fun r => ?_⟩
    rcases r with f | _ | ⟨task, tasks⟩
    · exact trivial
    · exact ih
    · exact trivial

theorem makesOnly_checkRefusal (h : P ⟨token.secret, .listContainers⟩) (o : ScenarioFindings) :
    (checkRefusal token o).MakesOnly P := by
  rw [checkRefusal]
  split
  · exact trivial
  · refine ⟨h, fun r => ?_⟩
    cases r <;> exact trivial

/-- A scenario creates a container, looks at the tasks and lists the containers. -/
theorem makesOnly_plan (hcreate : ∀ order, P ⟨token.secret, .createContainer order⟩)
    (hlook : P (look adminToken)) (hlist : P ⟨token.secret, .listContainers⟩)
    (config : ScenarioParameters) (now : Moment) :
    (plan adminToken token config now).MakesOnly P := by
  refine ⟨hcreate _, fun r => ?_⟩
  cases r with
  | error f => exact trivial
  | ok accepted =>
    dsimp only
    split
    · exact trivial
    · refine (makesOnly_looks hlook _ _).bind fun seen => ?_
      rcases seen with f | _ | ⟨task, tasks⟩
      · exact trivial
      · exact trivial
      · exact makesOnly_checkRefusal hlist _

end Scenario

namespace Run

variable {api other : Api σ} {config : RunParameters} {machine : Machine} {agent : LaunchedAgent}
  {exit : Option (Nat × ProcessExit)} {clock : Nat → Moment} {s : σ} {k : Nat}
  {token : ScopedToken}

/-! ## A run until its scenario is over -/

/-- What a run has when its scenario is over. -/
structure Verdict where
  readyAfter : Nat
  token : ScopedToken
  scenario : ScenarioFindings

/-- The stages of a run without the revocation. -/
def untilVerdict (api : Api σ) (config : RunParameters) (exit : Option (Nat × ProcessExit))
    (clock : Nat → Moment) (now : Nat) (s : σ) : Trace (Except RunFailure Verdict) :=
  let ready := Readiness.await api config.launch.adminToken config.probe exit now s
  ready.andThen fun now result => match result with
    | .error f => failed now f
    | .ok readyAfter =>
      let s := api.after s ready.calls
      let issued := (Token.issue config.launch.adminToken config.token (clock now)).trace api now s
      issued.andThen fun now result => match result with
        | .error fault => failed now (.noToken fault)
        | .ok token =>
          ((Scenario.plan config.launch.adminToken token config.scenario (clock now)).trace api now
            (api.after s issued.calls)).map fun o => .ok ⟨readyAfter, token, o⟩

/-- What is left to do then: the revocation, and what the run comes to. -/
def conclude (config : RunParameters) (v : Verdict) : Plan (Except RunFailure RunFindings) :=
  (revoke config v.token).bind fun revoked =>
    .done (settle ⟨v.readyAfter, v.token, revoked, v.scenario⟩)

/-- The stages of a run are those until its verdict, and what is left to do then. -/
theorem pipeline_eq_andThen (api : Api σ) (config : RunParameters)
    (exit : Option (Nat × ProcessExit)) (clock : Nat → Moment) (now : Nat) (s : σ) :
    pipeline api config exit clock now s =
      (untilVerdict api config exit clock now s).andThen fun later result => match result with
        | .error f => failed later f
        | .ok v => (conclude config v).trace api later
            (api.after s (untilVerdict api config exit clock now s).calls) := by
  -- Stage by stage: where one ends without the next, both sides end in the same way.
  rw [pipeline, untilVerdict]
  dsimp only
  generalize Readiness.await api config.launch.adminToken config.probe exit now s = ready
  rcases hready : ready.ending with _ | ⟨now₁, f | k⟩
  · rw [Trace.andThen_of_none hready, Trace.andThen_of_none hready]
    rfl
  · rw [Trace.andThen_of_some hready, Trace.andThen_of_some hready, Trace.prepend_andThen]
    rfl
  · rw [Trace.andThen_of_some hready, Trace.andThen_of_some hready, Trace.prepend_andThen]
    dsimp only [afterReady]
    refine congrArg (Trace.prepend ready.events) ?_
    generalize (Token.issue config.launch.adminToken config.token (clock now₁)).trace api now₁
      (api.after s ready.calls) = issued
    rcases hissued : issued.ending with _ | ⟨now₂, f | token⟩
    · rw [Trace.andThen_of_none hissued, Trace.andThen_of_none hissued]
      rfl
    · rw [Trace.andThen_of_some hissued, Trace.andThen_of_some hissued, Trace.prepend_andThen]
      rfl
    · rw [Trace.andThen_of_some hissued, Trace.andThen_of_some hissued, Trace.prepend_andThen]
      dsimp only [exercise]
      refine congrArg (Trace.prepend issued.events) ?_
      rw [Plan.trace_bind, Trace.map_andThen]
      simp only [Trace.prepend_calls, Trace.map_calls, Api.after_append, conclude]
      rfl

theorem pipeline_of_verdict {later : Nat} {v : Verdict}
    (h : (untilVerdict api config exit clock 0 s).ending = some (later, .ok v)) :
    pipeline api config exit clock 0 s =
      ((conclude config v).trace api later
        (api.after s (untilVerdict api config exit clock 0 s).calls)).prepend
          (untilVerdict api config exit clock 0 s).events := by
  rw [pipeline_eq_andThen, Trace.andThen_of_some h]

/-- Stages that come to no verdict are those until it. -/
theorem pipeline_of_no_verdict
    (h : ∀ later v, (untilVerdict api config exit clock 0 s).ending ≠ some (later, .ok v)) :
    ∃ ending, pipeline api config exit clock 0 s =
      ⟨(untilVerdict api config exit clock 0 s).events, ending⟩ := by
  rw [pipeline_eq_andThen]
  rcases hend : (untilVerdict api config exit clock 0 s).ending with _ | ⟨later, f | v⟩
  · exact ⟨none, Trace.andThen_of_none hend _⟩
  · refine ⟨some (later, .error f), ?_⟩
    rw [Trace.andThen_of_some hend]
    dsimp only [failed, Trace.prepend]
    rw [List.append_nil]
  · exact absurd hend (h later v)

/-! ## No revocation until then -/

theorem makesOnly_spares_plan (adminToken : String) (token : ScopedToken)
    (config : ScenarioParameters) (now : Moment) :
    (Scenario.plan adminToken token config now).MakesOnly Call.Spares :=
  Scenario.makesOnly_plan (P := Call.Spares) (fun _ => rfl) rfl rfl config now

theorem makesOnly_spares_issue (adminToken : String) (request : TokenParameters) (now : Moment) :
    (Token.issue adminToken request now).MakesOnly Call.Spares :=
  Token.makesOnly_issue (fun _ => rfl) request now

theorem makesOnly_spares_probe (adminToken : String) (schedule : ProbeSchedule) :
    (Probe.plan adminToken schedule).MakesOnly Call.Spares :=
  Probe.makesOnly_checks (P := Call.Spares) rfl schedule _ 1 []

theorem await_spares (api : Api σ) (adminToken : String) (schedule : ProbeSchedule)
    (exit : Option (Nat × ProcessExit)) (now : Nat) (s : σ) :
    ∀ c ∈ (Readiness.await api adminToken schedule exit now s).calls, c.call.Spares :=
  fun c hc => (makesOnly_spares_probe adminToken schedule).calls api now s c
    ((race_calls now exit _).subset hc)

/-- Until its scenario is over, a run revokes nothing. -/
theorem untilVerdict_spares (api : Api σ) (config : RunParameters)
    (exit : Option (Nat × ProcessExit)) (clock : Nat → Moment) (now : Nat) (s : σ) :
    ∀ c ∈ (untilVerdict api config exit clock now s).calls, c.call.Spares := by
  refine Trace.forall_calls_andThen (await_spares api _ _ exit now s) fun now₁ r => ?_
  rcases r with f | k
  · exact nofun
  · refine Trace.forall_calls_andThen
      ((makesOnly_spares_issue _ _ _).calls api now₁ _) fun now₂ r => ?_
    rcases r with fault | token
    · exact nofun
    · exact (makesOnly_spares_plan _ token _ _).calls api now₂ _

/-- So APIs that differ only in how they answer revocations are all the same to it. -/
theorem untilVerdict_congr (h : api.AgreesOn Call.Spares other) (config : RunParameters)
    (exit : Option (Nat × ProcessExit)) (clock : Nat → Moment) (now : Nat) (s : σ) :
    untilVerdict api config exit clock now s = untilVerdict other config exit clock now s := by
  have hready : Readiness.await api config.launch.adminToken config.probe exit now s =
      Readiness.await other config.launch.adminToken config.probe exit now s := by
    rw [Readiness.await, Readiness.await, h.trace (makesOnly_spares_probe _ _)]
  rw [untilVerdict, untilVerdict, hready]
  dsimp only
  refine congrArg (Trace.andThen _) (funext fun now₁ => funext fun r => ?_)
  rcases r with f | k
  · rfl
  · dsimp only
    rw [h.after (await_spares other _ _ exit now s), h.trace (makesOnly_spares_issue _ _ _)]
    refine congrArg (Trace.andThen _) (funext fun now₂ => funext fun r => ?_)
    rcases r with fault | token
    · rfl
    · dsimp only
      rw [h.after ((makesOnly_spares_issue _ _ _).calls other now₁ _),
        h.trace (makesOnly_spares_plan _ token _ _)]

/-! ## The revocation -/

/-- The revocation that follows the scenario: one call with the admin credential, if it is to
be made and the token has an identifier. -/
def revocation? (config : RunParameters) (token : ScopedToken) : Option Call :=
  if config.revokeToken then
    token.id.map fun id => ⟨config.launch.adminToken, .revokeToken id⟩
  else none

theorem revocation?_of_known {id : Uuid} (hwanted : config.revokeToken = true)
    (hid : token.id = some id) :
    revocation? config token = some ⟨config.launch.adminToken, .revokeToken id⟩ := by
  rw [revocation?, if_pos hwanted, hid]
  rfl

theorem revocation_cases (config : RunParameters) (token : ScopedToken) :
    revocation? config token = none ∧ revoke config token = .done false ∨
      ∃ id, config.revokeToken = true ∧ token.id = some id := by
  cases hwanted : config.revokeToken with
  | false =>
    refine Or.inl ⟨?_, revoke_of_not_wanted hwanted⟩
    rw [revocation?, hwanted]
    exact if_neg Bool.false_ne_true
  | true =>
    cases hid : token.id with
    | none =>
      refine Or.inl ⟨?_, revoke_of_unknown hwanted hid⟩
      rw [revocation?, if_pos hwanted, hid]
      rfl
    | some id => exact Or.inr ⟨id, rfl, rfl⟩

theorem conclude_of_none {v : Verdict} (h : revoke config v.token = .done false) :
    conclude config v = .done (settle ⟨v.readyAfter, v.token, false, v.scenario⟩) := by
  rw [conclude, h]
  rfl

theorem conclude_of_known {v : Verdict} {id : Uuid} (hwanted : config.revokeToken = true)
    (hid : v.token.id = some id) :
    conclude config v = .ask ⟨config.launch.adminToken, .revokeToken id⟩ fun r =>
      .done (settle ⟨v.readyAfter, v.token, r.isOk, v.scenario⟩) := by
  rw [conclude, revoke_of_known hwanted hid]
  refine congrArg (Plan.ask _) (funext fun r => ?_)
  cases r <;> rfl

/-- The revocation is the only call that is left. -/
theorem conclude_calls (v : Verdict) (api : Api σ) (now : Nat) (s : σ) :
    ((conclude config v).trace api now s).calls =
      ((revocation? config v.token).map (TimedCall.mk now)).toList := by
  rcases revocation_cases config v.token with ⟨hnone, hdone⟩ | ⟨id, hwanted, hid⟩
  · rw [conclude_of_none hdone, Plan.trace_done, hnone]
    rfl
  · rw [conclude_of_known hwanted hid, revocation?_of_known hwanted hid]
    cases hd : (api.answer s now ⟨config.launch.adminToken, .revokeToken id⟩).1.delay with
    | none =>
      rw [Plan.trace_ask_of_none hd]
      rfl
    | some d =>
      rw [Plan.trace_ask_of_some hd, Trace.prepend_calls, callsOf_ask, Plan.trace_done]
      rfl

/-- A token counts as revoked exactly if the agent was asked to revoke it and did. -/
theorem Revokes.eq_true_iff {p q : Standing σ} {revoked : Bool}
    (h : Revokes api config token p revoked q) :
    revoked = true ↔ ∃ id, config.revokeToken = true ∧ token.id = some id ∧
      api.Answers p ⟨config.launch.adminToken, .revokeToken id⟩ (.ok ()) q := by
  cases h with
  | notWanted hwanted =>
    exact iff_of_false Bool.false_ne_true fun ⟨id, h, _⟩ => nomatch hwanted.symm.trans h
  | unknown hwanted hid =>
    exact iff_of_false Bool.false_ne_true fun ⟨id, _, h, _⟩ => nomatch hid.symm.trans h
  | @refused id f _ hwanted hid hanswers =>
    refine iff_of_false Bool.false_ne_true ?_
    rintro ⟨id', -, hid', hok⟩
    obtain rfl := Option.some.inj (hid.symm.trans hid')
    exact nomatch (hanswers.unique hok).1
  | revoked hwanted hid hanswers => exact iff_of_true rfl ⟨_, hwanted, hid, hanswers⟩

/-- A revocation comes to one thing, -/
theorem Revokes.unique {p q q' : Standing σ} {revoked revoked' : Bool}
    (h : Revokes api config token p revoked q) (h' : Revokes api config token p revoked' q') :
    revoked = revoked' ∧ q = q' :=
  Prod.mk.inj (Option.some.inj
    ((outcome?_revoke_of_revokes h).symm.trans (outcome?_revoke_of_revokes h')))

/-- or is never over. -/
theorem Revokes.not_stalls {p q : Standing σ} {revoked : Bool}
    (h : Revokes api config token p revoked q) : ¬RevocationStalls api config token p :=
  fun hstalls => nomatch
    (outcome?_revoke_of_revokes h).symm.trans (outcome?_revoke_of_revocationStalls hstalls)

/-! ## What the verdict rests on -/

/-- With a token issued, the scenario with it gives the verdict. -/
theorem outcome?_untilVerdict_of_supplies {q : Standing σ}
    (h : Supplies api config machine clock s agent k token q) :
    (untilVerdict api config agent.process.exit? clock 0 s).outcome? api s =
      ((Scenario.plan config.launch.adminToken token config.scenario (clock q.now)).outcome?
        api q).map fun x => (.ok ⟨k, token, x.1⟩, x.2) := by
  obtain ⟨p, hready, hissues⟩ := h
  have hawait := Readiness.outcome?_await_of_reached hready.2
  have hissue := Token.outcome?_issue_of_issues hissues
  have hreadyState := (Trace.ending_of_outcome? hawait).2
  have hissuedState := (Trace.ending_of_outcome? hissue).2
  rw [Plan.outcome?] at hissue
  rw [untilVerdict, Trace.outcome?_andThen, hawait, Option.bind_some]
  dsimp only
  rw [hreadyState, Trace.outcome?_andThen, hissue, Option.bind_some]
  dsimp only
  rw [hissuedState, Trace.outcome?_map]
  rfl

/-- Without one there is no verdict. -/
theorem exists_supplies_of_verdict (hlaunched : (machine.launch config.launch 0).2 = .ok agent)
    {v : Verdict} {r : Standing σ}
    (h : (untilVerdict api config agent.process.exit? clock 0 s).outcome? api s =
      some (.ok v, r)) :
    ∃ k token p, Supplies api config machine clock s agent k token p := by
  rw [untilVerdict, Trace.outcome?_andThen] at h
  rcases Readiness.reached_or_fails api config.launch.adminToken config.probe
    agent.process.exit? ⟨0, s⟩ with ⟨k, p, hreached⟩ | ⟨f, hfails⟩
  · have hawait := Readiness.outcome?_await_of_reached hreached
    have hstate := (Trace.ending_of_outcome? hawait).2
    rw [hawait, Option.bind_some] at h
    dsimp only at h
    rw [hstate, Trace.outcome?_andThen] at h
    rcases Token.issues_or_issueFails_or_issueStalls api config.launch.adminToken config.token
      (clock p.now) p with ⟨token, q, hissues⟩ | ⟨fault, q, hfails⟩ | hstalls
    · exact ⟨k, token, q, p, ⟨hlaunched, hreached⟩, hissues⟩
    · have hissue := Token.outcome?_issue_of_issueFails hfails
      rw [Plan.outcome?] at hissue
      rw [hissue] at h
      cases h
    · have hissue := Token.outcome?_issue_of_issueStalls hstalls
      rw [Plan.outcome?] at hissue
      rw [hissue] at h
      cases h
  · obtain ⟨q, hawait⟩ := Readiness.outcome?_await_of_fails hfails
    rw [hawait] at h
    cases h

/-- A run has a verdict exactly when its agent has issued a token and the scenario with it
is over. -/
theorem untilVerdict_outcome?_iff (hlaunched : (machine.launch config.launch 0).2 = .ok agent)
    {v : Verdict} {r : Standing σ} :
    (untilVerdict api config agent.process.exit? clock 0 s).outcome? api s = some (.ok v, r) ↔
      ∃ p, Supplies api config machine clock s agent v.readyAfter v.token p ∧
        (Scenario.plan config.launch.adminToken v.token config.scenario
          (clock p.now)).outcome? api p = some (v.scenario, r) := by
  constructor
  · intro h
    obtain ⟨k, token, p, hsupplies⟩ := exists_supplies_of_verdict hlaunched h
    rw [outcome?_untilVerdict_of_supplies hsupplies] at h
    obtain ⟨⟨o, r'⟩, hplan, heq⟩ := Option.map_eq_some_iff.mp h
    obtain ⟨hv, rfl⟩ := Prod.mk.inj heq
    obtain rfl := Except.ok.inj hv
    exact ⟨p, hsupplies, hplan⟩
  · rintro ⟨p, hsupplies, hplan⟩
    rw [outcome?_untilVerdict_of_supplies hsupplies, hplan]
    rfl

/-- A run comes to the verdict `v` at `r`: its agent has issued the token, and the scenario
with it is over. -/
def ReachesVerdict (api : Api σ) (config : RunParameters) (machine : Machine)
    (clock : Nat → Moment) (s : σ) (agent : LaunchedAgent) (v : Verdict) (r : Standing σ) : Prop :=
  ∃ p, Supplies api config machine clock s agent v.readyAfter v.token p ∧
    (Scenario.plan config.launch.adminToken v.token config.scenario
      (clock p.now)).outcome? api p = some (v.scenario, r)

theorem ReachesVerdict.launched {v : Verdict} {r : Standing σ}
    (h : ReachesVerdict api config machine clock s agent v r) :
    (machine.launch config.launch 0).2 = .ok agent := by
  obtain ⟨-, ⟨-, ⟨hlaunched, -⟩, -⟩, -⟩ := h
  exact hlaunched

/-! ## What a run comes to -/

/-- The outcome of the stages is that until the verdict, and of what is left to do then. -/
theorem stagesOutcome_eq_conclude (api : Api σ) (config : RunParameters) (agent : LaunchedAgent)
    (clock : Nat → Moment) (s : σ) :
    stagesOutcome api config agent clock s =
      ((untilVerdict api config agent.process.exit? clock 0 s).outcome? api s).bind
        fun x => match x.1 with
          | .error f => some (.error f, x.2)
          | .ok v => (conclude config v).outcome? api x.2 := by
  rw [stagesOutcome, pipeline_eq_andThen, Trace.outcome?_andThen]
  cases h : (untilVerdict api config agent.process.exit? clock 0 s).outcome? api s with
  | none => rfl
  | some x =>
    obtain ⟨-, hstate⟩ := Trace.ending_of_outcome? h
    rw [Option.bind_some, Option.bind_some]
    cases hx : x.1 with
    | error f => rfl
    | ok v =>
      dsimp only
      rw [hstate, Plan.outcome?]

theorem calls_of_launched (hlaunched : (machine.launch config.launch 0).2 = .ok agent) :
    (execute api config machine clock none s).calls =
      (pipeline api config agent.process.exit? clock 0 s).calls := by
  rw [execute_whole_of_launched api clock s (Prod.ext rfl hlaunched), supervise_calls]
  rfl

/-- With a verdict, a run makes the revocation after all its other calls. -/
theorem calls_of_reachesVerdict {v : Verdict} {r : Standing σ}
    (h : ReachesVerdict api config machine clock s agent v r) :
    (execute api config machine clock none s).calls =
      (untilVerdict api config agent.process.exit? clock 0 s).calls ++
        ((revocation? config v.token).map (TimedCall.mk r.now)).toList := by
  have hlaunched := h.launched
  have houtcome := (untilVerdict_outcome?_iff hlaunched).mpr h
  obtain ⟨hend, -⟩ := Trace.ending_of_outcome? houtcome
  rw [calls_of_launched hlaunched, pipeline_of_verdict hend, Trace.prepend_calls, conclude_calls]
  rfl

/-- A run revokes nothing unless it comes to a verdict. -/
theorem spares_of_no_verdict
    (h : ¬∃ agent v r, ReachesVerdict api config machine clock s agent v r) :
    ∀ c ∈ (execute api config machine clock none s).calls, c.call.Spares := by
  cases hlaunch : (machine.launch config.launch 0).2 with
  | error f =>
    rw [execute_whole_of_launch_error api clock s (Prod.ext rfl hlaunch)]
    exact nofun
  | ok agent =>
    have hno : ∀ later v, (untilVerdict api config agent.process.exit? clock 0 s).ending ≠
        some (later, .ok v) := fun later v hend =>
      h ⟨agent, v, _, (untilVerdict_outcome?_iff hlaunch).mp (Trace.outcome?_of_ending hend)⟩
    obtain ⟨ending, heq⟩ := pipeline_of_no_verdict hno
    rw [calls_of_launched hlaunch, heq]
    exact untilVerdict_spares api config agent.process.exit? clock 0 s

/-- With a verdict, a run comes to what the scenario did once the revocation is over,
whatever that was answered. -/
theorem result_of_reachesVerdict {v : Verdict} {r : Standing σ}
    (h : ReachesVerdict api config machine clock s agent v r) :
    (∃ revoked q, Revokes api config v.token r revoked q ∧
        (execute api config machine clock none s).result =
          some (reported config agent
            (q.now, settle ⟨v.readyAfter, v.token, revoked, v.scenario⟩))) ∨
      RevocationStalls api config v.token r ∧
        (execute api config machine clock none s).result = none := by
  have hlaunched := h.launched
  obtain ⟨p, hsupplies, hplan⟩ := h
  rw [result_of_launched hlaunched, stagesOutcome_of_supplies hsupplies]
  rcases revokes_or_revocationStalls api config v.token r with ⟨revoked, q, hrevokes⟩ | hstalls
  · refine Or.inl ⟨revoked, q, hrevokes, ?_⟩
    rw [outcome?_exercise hplan hrevokes]
    rfl
  · refine Or.inr ⟨hstalls, ?_⟩
    rw [outcome?_exercise_of_revocationStalls hplan hstalls]
    rfl

/-- A run that passed has come to a verdict. -/
theorem exists_reachesVerdict_of_ok {report : RunSummary}
    (h : (execute api config machine clock none s).result = some (.ok report)) :
    ∃ agent v r, ReachesVerdict api config machine clock s agent v r := by
  obtain ⟨agent, k, token, o, r, p, hsupplies, hpasses⟩ := (isOk_iff_meets h).mp ⟨report, rfl⟩
  exact ⟨agent, ⟨k, token, o⟩, r, p, hsupplies, Scenario.outcome?_plan_of_passes hpasses⟩

/-! ## Runs that differ in the revocation -/

end Run

namespace RunSummary

/-- A report with another revocation and another cleanup. -/
def retold (report : RunSummary) (revoked : Bool) (cleanup : CleanupFindings) : RunSummary :=
  ⟨{ report.findings with tokenRevoked := revoked }, cleanup⟩

end RunSummary

/-- Two APIs take equally long for each answer. -/
def Api.KeepsPaceWith (api other : Api σ) : Prop :=
  ∀ s now c, (api.answer s now c).1.delay = (other.answer s now c).1.delay

namespace Run

/-- The report of the same verdict after another revocation. -/
theorem reported_settle (config : RunParameters) (agent : LaunchedAgent) (v : Verdict)
    (now now' : Nat) (revoked revoked' : Bool) :
    reported config agent (now', settle ⟨v.readyAfter, v.token, revoked', v.scenario⟩) =
      (reported config agent (now, settle ⟨v.readyAfter, v.token, revoked, v.scenario⟩)).map
        fun report => report.retold revoked' (cleanedUp config agent now').report := by
  cases hcause : v.scenario.cause with
  | none =>
    rw [settle_of_none hcause, settle_of_none hcause]
    rfl
  | some cause =>
    rw [settle_of_some hcause, settle_of_some hcause]
    rfl

theorem reported_settle_of_now_eq (config : RunParameters) (agent : LaunchedAgent) (v : Verdict)
    (now : Nat) (revoked revoked' : Bool) :
    reported config agent (now, settle ⟨v.readyAfter, v.token, revoked', v.scenario⟩) =
      (reported config agent (now, settle ⟨v.readyAfter, v.token, revoked, v.scenario⟩)).map
        fun report => report.retold revoked' report.cleanup := by
  cases hcause : v.scenario.cause with
  | none =>
    rw [settle_of_none hcause, settle_of_none hcause]
    rfl
  | some cause =>
    rw [settle_of_some hcause, settle_of_some hcause]
    rfl

theorem outcome?_untilVerdict_congr (h : api.AgreesOn Call.Spares other) (config : RunParameters)
    (exit : Option (Nat × ProcessExit)) (clock : Nat → Moment) (s : σ) :
    (untilVerdict other config exit clock 0 s).outcome? other s =
      (untilVerdict api config exit clock 0 s).outcome? api s := by
  rw [← untilVerdict_congr h, Trace.outcome?, Trace.outcome?,
    h.after (untilVerdict_spares api config exit clock 0 s)]

/-- Up to the verdict the revocation has not been asked for. -/
theorem reachesVerdict_congr (h : api.AgreesOn Call.Spares other) {v : Verdict} {r : Standing σ} :
    ReachesVerdict other config machine clock s agent v r ↔
      ReachesVerdict api config machine clock s agent v r := by
  constructor
  · intro hv
    rw [ReachesVerdict, ← untilVerdict_outcome?_iff hv.launched,
      ← outcome?_untilVerdict_congr h, untilVerdict_outcome?_iff hv.launched]
    exact hv
  · intro hv
    rw [ReachesVerdict, ← untilVerdict_outcome?_iff hv.launched,
      outcome?_untilVerdict_congr h, untilVerdict_outcome?_iff hv.launched]
    exact hv

/-- So runs that come to no verdict come to the same. -/
theorem result_congr_of_no_verdict (h : api.AgreesOn Call.Spares other)
    (hno : ¬∃ agent v r, ReachesVerdict api config machine clock s agent v r) :
    (execute other config machine clock none s).result =
      (execute api config machine clock none s).result := by
  cases hlaunch : (machine.launch config.launch 0).2 with
  | error f => rw [result_of_launch_error hlaunch, result_of_launch_error hlaunch]
  | ok agent =>
    rw [result_of_launched hlaunch, result_of_launched hlaunch, stagesOutcome_eq_conclude,
      stagesOutcome_eq_conclude, outcome?_untilVerdict_congr h]
    rcases hend : (untilVerdict api config agent.process.exit? clock 0 s).outcome? api s with
      _ | ⟨f | v, r⟩
    · rfl
    · rfl
    · exact absurd ⟨agent, v, r, (untilVerdict_outcome?_iff hlaunch).mp hend⟩ hno

/-- Runs whose APIs differ only in how they answer revocations make the same calls. -/
theorem calls_congr (h : api.AgreesOn Call.Spares other) (config : RunParameters)
    (machine : Machine) (clock : Nat → Moment) (s : σ) :
    (execute other config machine clock none s).calls =
      (execute api config machine clock none s).calls := by
  by_cases hv : ∃ agent v r, ReachesVerdict api config machine clock s agent v r
  · obtain ⟨agent, v, r, hv⟩ := hv
    rw [calls_of_reachesVerdict hv, calls_of_reachesVerdict ((reachesVerdict_congr h).mpr hv),
      ← untilVerdict_congr h]
  · cases hlaunch : (machine.launch config.launch 0).2 with
    | error f =>
      rw [execute_whole_of_launch_error api clock s (Prod.ext rfl hlaunch),
        execute_whole_of_launch_error other clock s (Prod.ext rfl hlaunch)]
    | ok agent =>
      rw [calls_of_launched hlaunch, calls_of_launched hlaunch, pipeline_eq_andThen,
        pipeline_eq_andThen, ← untilVerdict_congr h]
      rcases hend : (untilVerdict api config agent.process.exit? clock 0 s).ending with
        _ | ⟨later, f | v⟩
      · rw [Trace.andThen_of_none hend, Trace.andThen_of_none hend]
      · rw [Trace.andThen_of_some hend, Trace.andThen_of_some hend]
      · exact absurd ⟨agent, v, _,
          (untilVerdict_outcome?_iff hlaunch).mp (Trace.outcome?_of_ending hend)⟩ hv

/-- A revocation that is over for one API is over for one that keeps pace with it, at the
same time. -/
theorem Revokes.of_keepsPace (hpace : api.KeepsPaceWith other) {p q : Standing σ} {revoked : Bool}
    (h : Revokes api config token p revoked q) :
    ∃ revoked' q', Revokes other config token p revoked' q' ∧ q'.now = q.now := by
  have hanswered : ∀ {id : Uuid} {a : Except ApiFault Unit}, config.revokeToken = true →
      token.id = some id → api.Answers p ⟨config.launch.adminToken, .revokeToken id⟩ a q →
        ∃ revoked' q', Revokes other config token p revoked' q' ∧ q'.now = q.now := by
    rintro id a hwanted hid ⟨d, hd, -, rfl⟩
    rw [hpace] at hd
    rcases hr : (other.answer p.state p.now ⟨config.launch.adminToken, .revokeToken id⟩).1.result
      with f | ⟨⟩
    · exact ⟨false, _, .refused hwanted hid ⟨d, hd, hr, rfl⟩, rfl⟩
    · exact ⟨true, _, .revoked hwanted hid ⟨d, hd, hr, rfl⟩, rfl⟩
  cases h with
  | notWanted hwanted => exact ⟨false, p, .notWanted hwanted, rfl⟩
  | unknown hwanted hid => exact ⟨false, p, .unknown hwanted hid, rfl⟩
  | refused hwanted hid h => exact hanswered hwanted hid h
  | revoked hwanted hid h => exact hanswered hwanted hid h

/-- A run that comes to no verdict reports nothing that could be told otherwise. -/
theorem map_retold_of_no_verdict (f : RunSummary → RunSummary)
    (hno : ¬∃ agent v r, ReachesVerdict api config machine clock s agent v r)
    {x : Except RunFailure RunSummary}
    (hx : (execute api config machine clock none s).result = some x) : x.map f = x := by
  cases x with
  | error _ => rfl
  | ok report => exact absurd (exists_reachesVerdict_of_ok hx) hno

/-- Whatever the revocations are answered, runs that end come to the same, up to what their
reports say of the revocation and of the cleanup. -/
theorem result_congr_of_ending (h : api.AgreesOn Call.Spares other)
    {x y : Except RunFailure RunSummary}
    (hx : (execute api config machine clock none s).result = some x)
    (hy : (execute other config machine clock none s).result = some y) :
    ∃ revoked cleanup, y = x.map fun report => report.retold revoked cleanup := by
  by_cases hv : ∃ agent v r, ReachesVerdict api config machine clock s agent v r
  · obtain ⟨agent, v, r, hv⟩ := hv
    rcases result_of_reachesVerdict hv with ⟨revoked, q, -, hresult⟩ | ⟨-, hnone⟩
    · rcases result_of_reachesVerdict ((reachesVerdict_congr h).mpr hv) with
        ⟨revoked', q', -, hresult'⟩ | ⟨-, hnone⟩
      · obtain rfl := Option.some.inj (hx.symm.trans hresult)
        obtain rfl := Option.some.inj (hy.symm.trans hresult')
        exact ⟨_, _, reported_settle config agent v q.now q'.now revoked revoked'⟩
      · exact nomatch hy.symm.trans hnone
    · exact nomatch hx.symm.trans hnone
  · have heq := result_congr_of_no_verdict h hv
    rw [hx, hy] at heq
    obtain rfl := Option.some.inj heq
    exact ⟨false, ⟨none, false⟩, (map_retold_of_no_verdict _ hv hx).symm⟩

/-- If the answers take equally long too, runs come to the same but for what their reports
say of the revocation. -/
theorem result_congr_of_keepsPace (h : api.AgreesOn Call.Spares other)
    (hpace : api.KeepsPaceWith other) (config : RunParameters) (machine : Machine)
    (clock : Nat → Moment) (s : σ) :
    ∃ revoked, (execute other config machine clock none s).result =
      (execute api config machine clock none s).result.map fun x =>
        x.map fun report => report.retold revoked report.cleanup := by
  by_cases hv : ∃ agent v r, ReachesVerdict api config machine clock s agent v r
  · obtain ⟨agent, v, r, hv⟩ := hv
    have hv' := (reachesVerdict_congr h).mpr hv
    rcases result_of_reachesVerdict hv with ⟨revoked, q, hrevokes, hresult⟩ | ⟨hstalls, hnone⟩
    · obtain ⟨revoked', q', hrevokes', hnow⟩ := hrevokes.of_keepsPace hpace
      refine ⟨revoked', ?_⟩
      rcases result_of_reachesVerdict hv' with ⟨_, _, hother, hresult'⟩ | ⟨hstalls, -⟩
      · obtain ⟨rfl, rfl⟩ := hother.unique hrevokes'
        rw [hresult, hresult', hnow, reported_settle_of_now_eq config agent v q.now revoked]
        rfl
      · exact absurd hstalls hrevokes'.not_stalls
    · refine ⟨false, ?_⟩
      rcases result_of_reachesVerdict hv' with ⟨_, _, hother, -⟩ | ⟨-, hnone'⟩
      · have hback : other.KeepsPaceWith api := fun s now c => (hpace s now c).symm
        obtain ⟨_, _, hrevokes, -⟩ := hother.of_keepsPace hback
        exact absurd hstalls hrevokes.not_stalls
      · rw [hnone, hnone']
        rfl
  · refine ⟨false, ?_⟩
    rw [result_congr_of_no_verdict h hv]
    cases hx : (execute api config machine clock none s).result with
    | none => rfl
    | some x => rw [Option.map_some, map_retold_of_no_verdict _ hv hx]

/-- The revocation is complete and best effort.  A run that comes to a verdict, whatever it
is, revokes its token last of all: with the admin credential and once, if revoking is
wanted and the token has an identifier, and not at all otherwise.  What the revocation
is answered never changes what the run comes to; it tells whether the token was revoked,
and the time at which the cleanup begins.  A run that comes to no verdict revokes
nothing.  So runs whose APIs differ only in how they answer the revocation make the same
calls, and where both end they come to the same, up to what their reports say of the
revocation and of the cleanup; the cleanup too is the same if the answers take equally
long. -/
theorem execute_revocation (api : Api σ) (config : RunParameters) (machine : Machine)
    (clock : Nat → Moment) (s : σ) :
    (∀ agent v r, ReachesVerdict api config machine clock s agent v r →
      (∃ before, (execute api config machine clock none s).calls =
          before ++ ((revocation? config v.token).map (TimedCall.mk r.now)).toList ∧
        ∀ c ∈ before, c.call.isRevocation = false) ∧
      ((∃ revoked q, Revokes api config v.token r revoked q ∧
          (revoked = true ↔ ∃ id, config.revokeToken = true ∧ v.token.id = some id ∧
            api.Answers r ⟨config.launch.adminToken, .revokeToken id⟩ (.ok ()) q) ∧
          (execute api config machine clock none s).result =
            some ((settle ⟨v.readyAfter, v.token, revoked, v.scenario⟩).map fun findings =>
              ⟨findings, (cleanedUp config agent q.now).report⟩)) ∨
        RevocationStalls api config v.token r ∧
          (execute api config machine clock none s).result = none)) ∧
    ((¬∃ agent v r, ReachesVerdict api config machine clock s agent v r) →
      ∀ c ∈ (execute api config machine clock none s).calls, c.call.isRevocation = false) ∧
    ∀ other : Api σ, api.AgreesOn Call.Spares other →
      (execute other config machine clock none s).calls =
        (execute api config machine clock none s).calls ∧
      (∀ x y, (execute api config machine clock none s).result = some x →
        (execute other config machine clock none s).result = some y →
        ∃ revoked cleanup, y = x.map fun report => report.retold revoked cleanup) ∧
      (api.KeepsPaceWith other → ∃ revoked,
        (execute other config machine clock none s).result =
          (execute api config machine clock none s).result.map fun x =>
            x.map fun report => report.retold revoked report.cleanup) := by
  refine ⟨fun agent v r hv => ⟨⟨_, calls_of_reachesVerdict hv,
      untilVerdict_spares api config agent.process.exit? clock 0 s⟩, ?_⟩,
    spares_of_no_verdict, fun other h => ⟨calls_congr h config machine clock s,
      fun x y => result_congr_of_ending h,
      fun hpace => result_congr_of_keepsPace h hpace config machine clock s⟩⟩
  rcases result_of_reachesVerdict hv with ⟨revoked, q, hrevokes, hresult⟩ | hstalls
  · exact Or.inl ⟨revoked, q, hrevokes, hrevokes.eq_true_iff, hresult⟩
  · exact Or.inr hstalls

/-! ## An agent that exits while the revocation goes on -/

/-- The cleanup that a run which passed reports. -/
def cleanup? : Option (Except RunFailure RunSummary) → Option CleanupFindings
  | some (.ok report) => some report.cleanup
  | _ => none

/-- An API that grants and accepts everything but the listing of containers, at once, and
answers a revocation after a while. -/
def obligingApi (length : Nat) : Api Unit where
  answer _ _ c := (⟨some (if c.isRevocation then length else 0), reply c.request⟩, ())
where
  /-- What a request is answered. -/
  reply : (r : Request) → Except ApiFault r.Reply
  | .health => .ok none
  | .systemInfo => .ok {}
  | .issueToken order =>
    .ok { token := "scoped-secret", id := some (Uuid.ofNat 1), scopes := order.scopes }
  | .revokeToken _ => .ok ()
  | .createContainer _ => .ok { id := "t1" }
  | .listContainers => .error (.status 403 "insufficient scope")
  | .listTasks _ => .ok [{ id := "t1" }]

/-- A machine with one program, which exits a second after its start, or at once when it is
asked to stop. -/
def shortLivedMachine : Machine where
  disk := ⟨[(["agent"], .file [])]⟩
  workingPlace := []
  program _ := some fun _ =>
    ⟨⟨some (1000000000, .ofCode 3), some (0, .ofSignal 15), some (0, .ofSignal 9)⟩, []⟩
  nextPid := 1

/-- A run of that program. -/
def shortLivedRun : RunParameters where
  launch := .ofCommand ⟨⟨"/agent"⟩, [], none⟩ ⟨"/work"⟩

/-- Telling the revocation otherwise leaves the cleanup as it is. -/
theorem cleanup?_retold (revoked : Bool) (x : Option (Except RunFailure RunSummary)) :
    cleanup? (x.map fun x => x.map fun report => report.retold revoked report.cleanup) =
      cleanup? x := by
  rcases x with _ | f | report <;> rfl

/-- The agent of a run stops when it is asked to if the revocation is answered at once,
and exits before that if the revocation takes two seconds: the reports differ in more than
what they say of the revocation. -/
theorem slow_revocation_changes_report :
    (obligingApi 0).AgreesOn Call.Spares (obligingApi 2000000000) ∧
    cleanup? (execute (obligingApi 0) shortLivedRun shortLivedMachine
      (fun _ => ⟨0, 0⟩) none ()).result = some ⟨some (.ofSignal 15), false⟩ ∧
    cleanup? (execute (obligingApi 2000000000) shortLivedRun shortLivedMachine
      (fun _ => ⟨0, 0⟩) none ()).result = some ⟨some (.ofCode 3), false⟩ ∧
    ¬∃ revoked, (execute (obligingApi 2000000000) shortLivedRun shortLivedMachine
        (fun _ => ⟨0, 0⟩) none ()).result =
      (execute (obligingApi 0) shortLivedRun shortLivedMachine (fun _ => ⟨0, 0⟩) none ()).result.map
        fun x => x.map fun report => report.retold revoked report.cleanup := by
  have hprompt : cleanup? (execute (obligingApi 0) shortLivedRun shortLivedMachine
      (fun _ => ⟨0, 0⟩) none ()).result = some ⟨some (.ofSignal 15), false⟩ := by decide +kernel
  have hslow : cleanup? (execute (obligingApi 2000000000) shortLivedRun shortLivedMachine
      (fun _ => ⟨0, 0⟩) none ()).result = some ⟨some (.ofCode 3), false⟩ := by decide +kernel
  refine ⟨fun s now c hc => ?_, hprompt, hslow, ?_⟩
  · rw [Call.Spares] at hc
    simp only [obligingApi, hc]
    rfl
  · rintro ⟨revoked, heq⟩
    have hsame := congrArg cleanup? heq
    rw [cleanup?_retold, hprompt, hslow] at hsame
    exact absurd hsame (by decide)

end Run

end Shakedown
