/-
  Shakedown.Proofs.Stub.Run

  A whole run against a stub agent.  If the run gets to the stub at its
  address, knows its admin token, is answered in time, and the token lives as
  long as it is used, then what the run comes to follows from the options of
  the stub and the parameters of the run: the first failure in a fixed list
  that applies, or a report.
-/
import Shakedown.Proofs.Stub.Exercise

namespace Shakedown

open StubHost

namespace Run

/-! ## What a run is to come to -/

/-- What a run against a stub fails with, if it fails: the first of these that applies.  The
scenario starts at `start`, if the run gets that far. -/
def stubFailure? (o : StubProfile) (config : RunParameters) (start : Moment) :
    Option RunFailure :=
  if config.probe.bound ≤ o.healthFailures then
    some (.notReady config.probe.bound startingReason)
  else if config.launch.bind.user?.isSome = true then
    some (.notReady config.probe.bound (namelessReasons o))
  else if Stub.bodyLimit < config.token.orderSize then
    some (.noToken (.rejected 413 tooLargeReason))
  else match objection? config.token.name config.token.scopes with
  | some reason => some (.noToken (.rejected 400 (keptReason reason)))
  | none => (stubCause? o config start).map .scenarioFailed

variable {host : StubHost} {lags : Lags} {config : RunParameters} {machine : Machine}
  {agent : LaunchedAgent} {expiresAt e : Moment} {start last : Standing StubStore}

/-! ## The whole run -/

theorem Equipped.failsFirst {cause : ScenarioCause}
    (h : Equipped host lags config machine agent expiresAt e start last)
    (hfails : ScenarioFails host lags config e start cause) :
    FailsFirst (host.metBy lags config) config machine host.clock {} .scenario
      (.scenarioFailed cause) := by
  obtain ⟨r, hfails⟩ := hfails
  obtain ⟨revoked, q, hrevokes⟩ := exists_revokes host lags config (suppliedToken host config e) r
  exact .scenario h.supplies hfails hrevokes

/-- The moment at which the scenario of a run starts, if it does. -/
def StartsAt (host : StubHost) (lags : Lags) (config : RunParameters) (machine : Machine)
    (agent : LaunchedAgent) (start : Moment) : Prop :=
  ∀ k token q, Supplies (host.metBy lags config) config machine host.clock {} agent k token q →
    start = host.clock q.now

/-- There is one such moment at most. -/
theorem exists_startsAt (host : StubHost) (lags : Lags) (config : RunParameters)
    (machine : Machine) (agent : LaunchedAgent) :
    ∃ start, StartsAt host lags config machine agent start := by
  by_cases hsupplied : ∃ k token q, Supplies (host.metBy lags config) config machine host.clock {}
      agent k token q
  · obtain ⟨k, token, q, h⟩ := hsupplied
    exact ⟨host.clock q.now, fun k' token' q' h' => by rw [h.unique h']⟩
  · exact ⟨.epoch, fun k token q h => absurd ⟨k, token, q, h⟩ hsupplied⟩

/-- The failure that the options tell is the first condition of the run that is not met. -/
theorem failsFirst_of_stubFailure (h : Rehearses host lags config machine agent)
    {now : Moment} (hnow : StartsAt host lags config machine agent now) {f : RunFailure}
    (hf : stubFailure? host.options config now = some f) :
    ∃ stage, FailsFirst (host.metBy lags config) config machine host.clock {} stage f := by
  rw [stubFailure?] at hf
  -- The list goes through the stages of a run in their order.
  split_ifs at hf with hstarting huser hlarge
  · obtain rfl := Option.some.inj hf
    exact ⟨_, h.failsFirst_of_starting hstarting⟩
  · obtain rfl := Option.some.inj hf
    exact ⟨_, h.failsFirst_of_user (Nat.not_le.mp hstarting) huser⟩
  · have hplain := h.plain_of_anonymous (Bool.eq_false_iff.mpr huser)
    obtain rfl := Option.some.inj hf
    exact ⟨_, h.failsFirst_of_large_order hplain (Nat.not_le.mp hstarting) hlarge⟩
  · have hplain := h.plain_of_anonymous (Bool.eq_false_iff.mpr huser)
    have hstarted := Nat.not_le.mp hstarting
    have hsize := Nat.not_lt.mp hlarge
    cases hobjection : objection? config.token.name config.token.scopes with
    | some reason =>
      rw [hobjection] at hf
      obtain rfl := Option.some.inj hf
      exact ⟨_, h.failsFirst_of_objection hplain hstarted hsize hobjection⟩
    | none =>
      rw [hobjection] at hf
      obtain ⟨cause, hcause, rfl⟩ := Option.map_eq_some_iff.mp hf
      obtain ⟨expiresAt, e, start, last, he⟩ :=
        h.exists_equipped hplain hstarted hsize hobjection
      rw [hnow _ _ _ he.supplies] at hcause
      exact ⟨_, he.failsFirst (he.fails_of_stubCause hcause)⟩

/-- A run that is told no failure has a token in the end. -/
theorem exists_equipped_of_no_failure (h : Rehearses host lags config machine agent)
    {now : Moment} (hnow : StartsAt host lags config machine agent now)
    (hf : stubFailure? host.options config now = none) :
    ∃ expiresAt e start last, Equipped host lags config machine agent expiresAt e start last ∧
      stubCause? host.options config (host.clock start.now) = none := by
  rw [stubFailure?] at hf
  split_ifs at hf with hstarting huser hlarge
  have hplain := h.plain_of_anonymous (Bool.eq_false_iff.mpr huser)
  cases hobjection : objection? config.token.name config.token.scopes with
  | some reason =>
    rw [hobjection] at hf
    exact nomatch hf
  | none =>
    rw [hobjection] at hf
    obtain ⟨expiresAt, e, start, last, he⟩ := h.exists_equipped hplain (Nat.not_le.mp hstarting)
      (Nat.not_lt.mp hlarge) hobjection
    have hcause := Option.map_eq_none_iff.mp hf
    rw [hnow _ _ _ he.supplies] at hcause
    exact ⟨expiresAt, e, start, last, he, hcause⟩

/-- The API at the end of a run remembers what the stages left behind. -/
theorem after_calls_of_stagesOutcome {σ : Type} {api : Api σ} {clock : Nat → Moment} {s : σ}
    {r : Except RunFailure RunFindings} {q : Standing σ}
    (hlaunched : (machine.launch config.launch 0).2 = .ok agent)
    (h : stagesOutcome api config agent clock s = some (r, q)) :
    api.after s (execute api config machine clock none s).calls = q.state := by
  rw [execute_whole_of_launched api clock s (Prod.ext rfl hlaunched), supervise_calls]
  exact (Trace.ending_of_outcome? h).2

/-- A run that no option spoils reports, and has left one container behind. -/
theorem Equipped.reports (h : Equipped host lags config machine agent expiresAt e start last)
    (hcause : stubCause? host.options config (host.clock start.now) = none) :
    ∃ report id, (execute (host.metBy lags config) config machine host.clock none {}).result =
        some (.ok report) ∧
      report.findings.readyAfter = host.options.healthFailures + 1 ∧
      report.findings.scenario.createdTaskListed = true ∧
      ((host.metBy lags config).after {}
        (execute (host.metBy lags config) config machine host.clock none {}).calls).containers =
        [⟨id, report.findings.scenario.resourceName, "creating", config.scenario.platform⟩] ∧
      report.findings.tokenRevoked = config.revokeToken := by
  rw [stubCause?] at hcause
  split_ifs at hcause with hlarge hforbidden homit hdrop hignored
  obtain ⟨o, r, hpasses, hname, hlisted, htokens, hcontainers⟩ := h.passes (Nat.not_lt.mp hlarge)
    (Bool.not_eq_false _ ▸ hforbidden) (Bool.eq_false_iff.mpr homit) (Bool.eq_false_iff.mpr hdrop)
    hignored
  obtain ⟨q, hrevokes, hkept⟩ := h.revokes htokens
  obtain ⟨id, hcreated⟩ := host.creating_containers (suppliedStore host config expiresAt e)
    (containerOrder config.scenario (host.clock start.now))
  have hresult := result_of_passes
    ⟨agent, _, _, o, r, _, q, ⟨_, h.supplies, hpasses⟩, hrevokes, rfl⟩
  have hstages := (stagesOutcome_of_supplies h.supplies).trans
    (outcome?_exercise (Scenario.outcome?_plan_of_passes hpasses) hrevokes)
  -- Nothing after the creation touches the containers.
  refine ⟨_, id, hresult, rfl, hlisted, ?_, rfl⟩
  rw [after_calls_of_stagesOutcome h.launched hstages, hkept, hcontainers]
  refine hcreated.trans ?_
  rw [hname]
  rfl

/-- The result of a run against a stub follows from the options of the stub and the
parameters of the run.  It is the first failure that applies: the stub starts too
slowly; its address tells a user, whose name the stub finds in the place of the token;
the order of the token is too large, or the stub objects to it; and of the scenario,
the order of the container is too large, the stub forbids the creation, leaves out the
identifier of the task, does not record the task, or ignores that the token lacks the
scope for listing containers.  Otherwise the run reports: the stub was ready with the
first check it did not fail, the task of the creation was listed, the token was revoked
if it was to be, and the stub is left with one container, of the name that is reported.
That name, and so the size of its order, is made from the moment at which the scenario
starts. -/
theorem execute_against_stub (h : Rehearses host lags config machine agent) :
    let api := (HttpClient.ofBase config.launch.baseUrl config.requestTimeout).api
      (host.networkAfter lags)
    let x := execute api config machine host.clock none {}
    ∃ start, (∀ k token q, Supplies api config machine host.clock {} agent k token q →
        start = host.clock q.now) ∧
      match stubFailure? host.options config start with
      | some f => x.result = some (.error f)
      | none => ∃ report id, x.result = some (.ok report) ∧
          report.findings.readyAfter = host.options.healthFailures + 1 ∧
          report.findings.scenario.createdTaskListed = true ∧
          (api.after {} x.calls).containers =
            [⟨id, report.findings.scenario.resourceName, "creating", config.scenario.platform⟩] ∧
          report.findings.tokenRevoked = config.revokeToken := by
  have hmet : (HttpClient.ofBase config.launch.baseUrl config.requestTimeout).api
      (host.networkAfter lags) = host.metBy lags config := rfl
  rw [hmet]
  dsimp only
  obtain ⟨now, hnow⟩ := exists_startsAt host lags config machine agent
  refine ⟨now, hnow, ?_⟩
  cases hf : stubFailure? host.options config now with
  | some f =>
    obtain ⟨stage, hfails⟩ := failsFirst_of_stubFailure h hnow hf
    exact result_of_failsFirst hfails
  | none =>
    obtain ⟨expiresAt, e, start, last, he, hcause⟩ := exists_equipped_of_no_failure h hnow hf
    exact he.reports hcause

/-! ## A run that meets a stub -/

/-- A clock that starts with the epoch. -/
def steadyClock (time : Nat) : Moment :=
  ⟨time / 1000000000, time % 1000000000⟩

/-- The first day of the epoch lies in 1970. -/
theorem year_of_first_day {m : Moment} (h : 0 ≤ m.seconds) (h' : m.seconds < 86400) :
    m.year = 1970 := by
  have hday : m.seconds / 86400 = 0 := by omega
  rw [Moment.year, hday]
  decide +kernel

/-- An hour later is 3600 seconds later. -/
theorem add?_hour {seconds : Int} {nanos : Nat} (h : nanos < 1000000000)
    (hlast : seconds + 3600 ≤ Moment.maxSeconds) :
    (⟨seconds, nanos⟩ : Moment).add? (.ofSeconds 3600) = some ⟨seconds + 3600, nanos⟩ := by
  have hleap : Moment.isLeap ⟨seconds, nanos⟩ = false := decide_eq_false (Nat.not_le.mpr h)
  have hseconds : (Duration.ofSeconds 3600).seconds = 3600 := by decide
  have hsubsecond : (Duration.ofSeconds 3600).subsecond = 0 := by decide
  have hcarry : nanos / 1000000000 = 0 := Nat.div_eq_of_lt h
  have hrest : nanos % 1000000000 = nanos := Nat.mod_eq_of_lt h
  have hend : seconds + ((3600 : Nat) : Int) + ((0 : Nat) : Int) = seconds + 3600 := by omega
  rw [Moment.add?, if_neg (by decide), hleap, hseconds, hsubsecond]
  dsimp only
  rw [Bool.false_and, Bool.false_and, if_neg Bool.false_ne_true, if_neg Bool.false_ne_true,
    Nat.add_zero, hcarry, hrest, hend, if_pos hlast]

/-- A token for an hour lasts if the stages are over within one. -/
theorem tokenLasts_of_steady {p : Standing StubStore} {k : Nat}
    (hready : Readies (host.metBy lags config) config machine {} agent k p)
    (hclock : host.clock = steadyClock) (hhour : config.token.ttl = .ofSeconds 3600)
    (hlong : longest config config.requestTimeout.nanoseconds < 3600 * 1000000000) :
    TokenLasts host lags config agent p := by
  obtain ⟨x, q, hends, hq⟩ := exists_stagesOutcome (Rehearses.prompt_metBy host lags config)
    config agent host.clock {}
  have hearly : p.now ≤ q.now := le_of_readies hready hends
  have hnanos : p.now % 1000000000 < 1000000000 := Nat.mod_lt _ (by decide)
  have hlimit : ((p.now / 1000000000 : Nat) : Int) + 3600 ≤ Moment.maxSeconds := by
    unfold Moment.maxSeconds
    omega
  have hadd := add?_hour hnanos hlimit
  have hyear := year_of_first_day (m := ⟨(p.now / 1000000000 : Nat) + 3600, p.now % 1000000000⟩)
    (by dsimp only; omega) (by dsimp only; omega)
  refine ⟨_, by rw [hclock, hhour]; exact hadd, ?_, ?_, ?_⟩
  · rw [hyear]
    decide
  · rw [hyear]
    decide
  · intro last r hlast time _ htime
    obtain ⟨rfl, -⟩ := Prod.mk.inj
      (Option.some.inj ((Trace.ending_of_outcome? hends).1.symm.trans hlast))
    have hbefore : ((time / 1000000000 : Nat) : Int) < (p.now / 1000000000 : Nat) + 3600 := by
      omega
    rw [hclock, Moment.shown_of_proper (Or.inl hnanos)]
    exact Bool.or_eq_true_iff.mpr (Or.inl (decide_eq_true hbefore))

def defaultRun : RunParameters where
  launch := .ofCommand ⟨⟨"/agent"⟩, [], none⟩ ⟨"/work"⟩

/-- An agent that runs until it is killed. -/
def idleAgent : LaunchedAgent where
  process := { pid := 1, life := ⟨none, none, some (0, .ofSignal 9)⟩, launched := 0 }
  output := []

/-- A machine with no other program than that agent. -/
def plainMachine : Machine where
  disk := ⟨[(["agent"], .file [])]⟩
  workingPlace := []
  program _ := some fun _ => ⟨idleAgent.process.life, idleAgent.output⟩
  nextPid := 1

/-- Whether a machine launches that agent. -/
def launchesIdle (l : Launch) : Bool :=
  match (plainMachine.launch l 0).2 with
  | .ok agent => agent.process == idleAgent.process && agent.output.isEmpty
  | .error _ => false

theorem launch_plainMachine {l : Launch} (h : launchesIdle l = true) :
    (plainMachine.launch l 0).2 = .ok idleAgent := by
  rw [launchesIdle] at h
  cases hlaunch : (plainMachine.launch l 0).2 with
  | error f =>
    rw [hlaunch] at h
    exact nomatch h
  | ok agent =>
    rw [hlaunch, Bool.and_eq_true, beq_iff_eq, List.isEmpty_iff] at h
    obtain ⟨process, output⟩ := agent
    obtain ⟨rfl, rfl⟩ := h
    rfl

theorem presentable_standard : Presentable standardAdminToken :=
  .of_solid (by decide) (List.all_iff_forall_prop.mp (by decide))

/-- A run meets a stub whose clock starts with the epoch and that is answered in time, if its
agent is that one and its token is for an hour. -/
theorem rehearses_of_steady {longestLag : Nat} (hreaches : config.launch.bind.Reaches)
    (hlaunch : launchesIdle config.launch = true)
    (hadmin : config.launch.adminToken = standardAdminToken)
    (hknown : host.options.adminToken = standardAdminToken) (hclock : host.clock = steadyClock)
    (hdrawn : Stub.secretOf (host.fresh 1) ≠ standardAdminToken)
    (hlags : ∀ s now r, (lags s now r).total ≤ longestLag)
    (hprompt : longestLag + host.options.createDelay.nanoseconds ≤
      config.requestTimeout.nanoseconds)
    (hchecks : longestLag + host.options.createDelay.nanoseconds ≤
      config.probe.attemptTimeout.nanoseconds)
    (hhour : config.token.ttl = .ofSeconds 3600)
    (hlong : longest config config.requestTimeout.nanoseconds < 3600 * 1000000000) :
    Rehearses host lags config plainMachine idleAgent where
  reaches := hreaches
  admin := hadmin.trans hknown.symm
  presentable := hknown ▸ presentable_standard
  prompt s now r := Nat.le_trans (answeredAfter_le hlags _ s now r) hprompt
  promptChecks s now r _ := Nat.le_trans (answeredAfter_le hlags _ s now r) hchecks
  launched := launch_plainMachine hlaunch
  alive _ _ _ _ _ h := nomatch h
  lasts _ _ hready := tokenLasts_of_steady hready hclock hhour hlong
  drawn := hknown ▸ hdrawn

/-- A stub that fails two health checks and takes a second for a creation. -/
def lateStub : StubHost where
  options := { healthFailures := 2, createDelay := .ofSeconds 1 }
  fresh := Uuid.ofNat
  clock := steadyClock

/-- Requests and answers that take some milliseconds. -/
def shortLags : Lags := fun _ _ _ => ⟨2000000, 1000000, 3000000⟩

theorem total_shortLags (s : StubStore) (now : Nat) (r : IncomingRequest) :
    (shortLags s now r).total ≤ 6000000 := by
  unfold shortLags Lag.total
  decide

theorem launchesIdle_defaultRun : launchesIdle defaultRun.launch = true := by decide +kernel

theorem rehearses_lateStub : Rehearses lateStub shortLags defaultRun plainMachine idleAgent :=
  rehearses_of_steady ⟨_, Bind.names_loopback 7845⟩ launchesIdle_defaultRun rfl rfl rfl
    (by decide +kernel) total_shortLags (by decide) (by decide) rfl (by decide)

/-- Nothing spoils this run, whenever its scenario starts. -/
theorem stubFailure?_lateStub {start : Moment}
    (h : StartsAt lateStub shortLags defaultRun plainMachine idleAgent start) :
    stubFailure? lateStub.options defaultRun start = none := by
  obtain ⟨expiresAt, e, begins, last, he⟩ := rehearses_lateStub.exists_equipped
    (Bind.plain_loopback 7845) (by decide) (by decide +kernel) (by decide +kernel)
  have hbegins : begins.now < 10000 * 1000000000 :=
    Nat.lt_of_le_of_lt he.start_le (by decide)
  have hstart : start = steadyClock begins.now := h _ _ _ he.supplies
  -- Within 10000 seconds a count of milliseconds has seven digits at most.
  obtain ⟨n, hmillis, hsmall⟩ : ∃ n : Nat, start.millis = n ∧ n < 10 ^ (6 + 1) := by
    refine ⟨begins.now / 1000000000 * 1000 + begins.now % 1000000000 / 1000000, ?_, by omega⟩
    rw [hstart, Moment.millis, steadyClock]
    dsimp only
    omega
  have hdigits : (Text.Decimal.signedText start.millis).toList.length ≤ 7 := by
    have htext : Text.Decimal.signedText n = Text.Decimal.text n := rfl
    rw [hmillis, htext, Text.Decimal.text, String.toList_ofList]
    exact length_digits_le hsmall
  have hfixed : defaultRun.scenario.orderSize ≤ 100 := by decide +kernel
  have hfits : ¬Stub.bodyLimit < (creationRequest defaultRun start).size := by
    have hsize : (creationRequest defaultRun start).size = _ :=
      defaultRun.scenario.size_creation start
    rw [hsize, Stub.bodyLimit]
    omega
  have hcause : stubCause? lateStub.options defaultRun start = none := by
    rw [stubCause?, if_neg hfits]
    decide +kernel
  rw [stubFailure?, if_neg (by decide), if_neg (by decide +kernel), if_neg (by decide +kernel)]
  have hobjection : objection? defaultRun.token.name defaultRun.token.scopes = none := by
    decide +kernel
  rw [hobjection, hcause]
  rfl

theorem execute_against_lateStub :
    Rehearses lateStub shortLags defaultRun plainMachine idleAgent ∧
      let api := (HttpClient.ofBase defaultRun.launch.baseUrl defaultRun.requestTimeout).api
        (lateStub.networkAfter shortLags)
      let x := execute api defaultRun plainMachine lateStub.clock none {}
      ∃ report id, x.result = some (.ok report) ∧ report.findings.readyAfter = 3 ∧
        report.findings.scenario.createdTaskListed = true ∧
        (api.after {} x.calls).containers =
          [⟨id, report.findings.scenario.resourceName, "creating", "windows-x64"⟩] ∧
        report.findings.tokenRevoked = true := by
  obtain ⟨start, hstart, hrun⟩ := execute_against_stub rehearses_lateStub
  rw [stubFailure?_lateStub hstart] at hrun
  exact ⟨rehearses_lateStub, hrun⟩

/-! ## Runs that fail though no option spoils them -/

/-- No option of a stub spoils a run: the stub starts in time, objects to nothing that is ordered,
lets the token create a container, tells and records its task, and does not ignore that the token
lacks the scope for listing containers. -/
structure Unspoilt (o : StubProfile) (config : RunParameters) : Prop where
  started : o.healthFailures < config.probe.bound
  ordered : objection? config.token.name config.token.scopes = none
  allows : allowed o config.token.scopes Scope.createContainers = true
  identified : o.omitTaskId = false
  recorded : o.dropTasks = false
  enforced : ¬(o.ignoreScopes = true ∧ Scope.readContainers ∉ config.token.scopes)

/-- A stub with nothing wrong about it. -/
def soundStub : StubHost where
  options := {}
  fresh := Uuid.ofNat
  clock := steadyClock

/-- What a run of that agent against that stub comes to, if nothing is held up. -/
def soundResult (config : RunParameters) : Option (Except RunFailure RunSummary) :=
  (execute ((HttpClient.ofBase config.launch.baseUrl config.requestTimeout).api
    (soundStub.networkAfter .none)) config plainMachine soundStub.clock none {}).result

/-- Nothing is held up for any time. -/
theorem total_none (s : StubStore) (now : Nat) (r : IncomingRequest) :
    (Lags.none s now r).total ≤ 0 :=
  Nat.le_refl 0

/-- A run that finds its agent at an address with a user. -/
def userRun : RunParameters where
  launch := { defaultRun.launch with bind := ⟨"user@127.0.0.1", 7845⟩ }

theorem reaches_userRun : userRun.launch.bind.Reaches := by
  have hread : ((Net.Url.read? userRun.launch.bind.baseUrl).any fun u => u.hasHost) = true := by
    decide +kernel
  have hbare : userRun.launch.bind.Bare := List.all_iff_forall_prop.mp (by decide +kernel)
  cases hu : Net.Url.read? userRun.launch.bind.baseUrl with
  | none =>
    rw [hu] at hread
    exact nomatch hread
  | some u =>
    rw [hu] at hread
    exact ⟨u, hbare, hu, hread⟩

theorem rehearses_userRun : Rehearses soundStub .none userRun plainMachine idleAgent :=
  rehearses_of_steady reaches_userRun (by decide +kernel) rfl rfl rfl (by decide +kernel)
    total_none (by decide) (by decide) rfl (by decide)

theorem unspoilt_userRun : Unspoilt soundStub.options userRun where
  started := by decide
  ordered := by decide +kernel
  allows := by decide +kernel
  identified := rfl
  recorded := rfl
  enforced h := nomatch h.1

/-- The client tells the user where the stub looks for the token. -/
theorem soundResult_userRun :
    soundResult userRun = some (.error (.notReady 240 "HTTP 401: missing bearer token")) := by
  have hfails := rehearses_userRun.failsFirst_of_user (by decide) (by decide +kernel)
  have hreasons : namelessReasons soundStub.options = "HTTP 401: missing bearer token" := by
    decide +kernel
  rw [hreasons] at hfails
  exact result_of_failsFirst hfails

/-- A name of so many ones. -/
def onesName (n : Nat) : String :=
  String.ofList (List.replicate n '1')

theorem size_onesName (n : Nat) : (Json.literal (onesName n)).utf8ByteSize = n + 2 := by
  have hchars : (onesName n).toList = List.replicate n '1' := String.toList_ofList
  have hplain : ∀ c ∈ (onesName n).toList, IsStampChar c := by
    rw [hchars]
    intro c hc
    rw [List.eq_of_mem_replicate hc]
    exact Or.inl (by decide)
  rw [size_literal hplain, hchars, List.length_replicate]

theorem blank_onesName (n : Nat) : Text.blank (onesName (n + 1)) = false := by
  rw [Text.blank, onesName, String.toList_ofList, List.replicate_succ, List.all_cons]
  rfl

/-- A run that orders a token with such a name. -/
def onesRun (n : Nat) : RunParameters where
  launch := defaultRun.launch
  token := { name := onesName n }

theorem rehearses_onesRun (n : Nat) :
    Rehearses soundStub .none (onesRun n) plainMachine idleAgent := by
  -- Nothing of this depends on the name.
  have hprompt : 0 + soundStub.options.createDelay.nanoseconds ≤
      defaultRun.requestTimeout.nanoseconds := by decide
  have hchecks : 0 + soundStub.options.createDelay.nanoseconds ≤
      defaultRun.probe.attemptTimeout.nanoseconds := by decide
  have hlong : longest defaultRun defaultRun.requestTimeout.nanoseconds <
      3600 * 1000000000 := by decide
  exact rehearses_of_steady ⟨_, Bind.names_loopback 7845⟩ launchesIdle_defaultRun rfl rfl rfl
    (by decide +kernel) total_none hprompt hchecks rfl hlong

theorem started_onesRun (n : Nat) :
    soundStub.options.healthFailures < (onesRun n).probe.bound :=
  (by decide : soundStub.options.healthFailures < defaultRun.probe.bound)

theorem unspoilt_onesRun (n : Nat) : Unspoilt soundStub.options (onesRun (n + 1)) where
  started := started_onesRun (n + 1)
  ordered := by
    have hblank : Text.blank (onesRun (n + 1)).token.name = false := blank_onesName n
    rw [objection?, hblank]
    rfl
  allows := (by decide +kernel : allowed {} defaultRun.token.scopes Scope.createContainers = true)
  identified := rfl
  recorded := rfl
  enforced h := nomatch h.1

/-- If its name is long enough, the stub does not read the order. -/
theorem soundResult_onesRun {n : Nat} (h : Stub.bodyLimit ≤ n) :
    soundResult (onesRun n) = some (.error (.noToken (.rejected 413 tooLargeReason))) := by
  have hlarge : Stub.bodyLimit < (onesRun n).token.orderSize := by
    have hname : (Json.literal (onesName n)).utf8ByteSize < (onesRun n).token.orderSize :=
      Token.size_name_lt (onesRun n).token
    rw [size_onesName] at hname
    omega
  exact result_of_failsFirst ((rehearses_onesRun n).failsFirst_of_large_order
    (Bind.plain_loopback 7845) (started_onesRun n) hlarge)

/-- Against a stub with nothing wrong about it a run may fail though no option spoils it: with a
user in the address, and with a name so long that the order of the token is larger than a body may
be. -/
theorem unspoilt_runs_fail :
    (Rehearses soundStub .none userRun plainMachine idleAgent ∧
      Unspoilt soundStub.options userRun ∧
      soundResult userRun = some (.error (.notReady 240 "HTTP 401: missing bearer token"))) ∧
    (Rehearses soundStub .none (onesRun 2097152) plainMachine idleAgent ∧
      Unspoilt soundStub.options (onesRun 2097152) ∧
      soundResult (onesRun 2097152) = some (.error (.noToken (.rejected 413
        "Failed to buffer the request body: length limit exceeded")))) := by
  have hreason : tooLargeReason =
      "Failed to buffer the request body: length limit exceeded" := by decide +kernel
  have hlong : soundResult (onesRun 2097152) = _ := soundResult_onesRun (Nat.le_refl 2097152)
  rw [hreason] at hlong
  exact ⟨⟨rehearses_userRun, unspoilt_userRun, soundResult_userRun⟩,
    ⟨rehearses_onesRun 2097152, unspoilt_onesRun 2097151, hlong⟩⟩

end Run

end Shakedown
