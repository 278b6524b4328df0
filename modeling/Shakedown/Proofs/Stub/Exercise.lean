/-
  Shakedown.Proofs.Stub.Exercise

  What a run does with the token that a stub has issued to it.  The token is
  valid whenever a call with it arrives, so the scenario goes as the options
  of the stub and the scopes of the token make it go, and the revocation after
  it finds the token.  Each call begins where the one before it has left the
  stub.
-/
import Shakedown.Proofs.Stub.Rehearsal

namespace Shakedown

open StubHost

namespace Run

/-! ## What a scenario is to come to -/

/-- Whether a stub lets a token with some scopes do what a scope stands for. -/
def allowed (o : StubProfile) (scopes : List String) (scope : String) : Bool :=
  o.ignoreScopes || scopes.contains scope

/-- The order of the container that a run creates, if its scenario starts at a moment. -/
def creationRequest (config : RunParameters) (start : Moment) : Request :=
  .createContainer (containerOrder config.scenario start)

/-- Why the scenario fails against a stub, if it starts at a moment and fails: the first of
these that applies. -/
def stubCause? (o : StubProfile) (config : RunParameters) (start : Moment) :
    Option ScenarioCause :=
  if Stub.bodyLimit < (creationRequest config start).size then
    some (.unexpectedStatus .createContainer 413 tooLargeReason)
  else if allowed o config.token.scopes Scope.createContainers = false then
    some (.unexpectedStatus .createContainer 403 "insufficient scope")
  else if o.omitTaskId = true then some .missingIdentifier
  else if o.dropTasks = true then some .noTasksListed
  else if o.ignoreScopes = true ∧ Scope.readContainers ∉ config.token.scopes then
    some (.scopeNotEnforced .listContainers Scope.readContainers)
  else none

variable {host : StubHost} {lags : Lags} {config : RunParameters} {machine : Machine}
  {agent : LaunchedAgent} {expiresAt e : Moment} {start last : Standing StubStore}

/-! ## The scenario -/

section Scenario

theorem holds_suppliedToken (host : StubHost) (config : RunParameters) (e : Moment)
    (scope : String) :
    (suppliedToken host config e).holds scope = config.token.scopes.contains scope :=
  Scopes.contains_ofList config.token.scopes scope

/-- The token is valid as long as the stages go on, for a stub that has kept its tokens. -/
theorem Equipped.caller (h : Equipped host lags config machine agent expiresAt e start last)
    {s : StubStore} (htokens : s.tokens = start.state.tokens) {time : Nat}
    (hlow : start.now ≤ time) (hhigh : time ≤ last.now) :
    Stub.caller host.options s (host.clock time) (some (suppliedToken host config e).secret) =
      .ok (.holder (heldToken host config e)) := by
  refine Stub.caller_holder h.drawn ?_ (h.valid time hlow hhigh)
  rw [Stub.Finds, htokens, h.state]
  exact host.finds_issuing (readyStore host.options) config.token expiresAt e

/-- The call that creates the container of a run. -/
def creationCall (host : StubHost) (config : RunParameters) (e : Moment)
    (start : Standing StubStore) : Call :=
  Scenario.creation (suppliedToken host config e) config.scenario (host.clock start.now)

/-- When the creation arrives, the token is valid. -/
theorem Equipped.caller_creation
    (h : Equipped host lags config machine agent expiresAt e start last) :
    Stub.caller host.options start.state
      (host.clock (arrival config.launch.bind lags start (creationCall host config e start)))
      (some (suppliedToken host config e).secret) = .ok (.holder (heldToken host config e)) := by
  obtain ⟨x, hends⟩ := h.ends
  obtain ⟨r, q, hanswers, harrives⟩ := h.exists_answers start
    (c := creationCall host config e start) (Stub.presentable_secretOf _).fitsHeader trivial
  have hlast : q.now ≤ last.now := le_of_creation h.supplies hanswers hends
  exact h.caller rfl (le_arrival _ _ start _) (Nat.le_trans harrives hlast)

/-- The task that the creation of a run is answered with. -/
def createdTask (host : StubHost) (config : RunParameters) (expiresAt e : Moment) : AgentTask :=
  host.taskOf (suppliedStore host config expiresAt e)

/-- What the stub remembers when the container has been created. -/
def createdStore (host : StubHost) (config : RunParameters) (expiresAt e : Moment)
    (now : Moment) : StubStore :=
  host.creating (suppliedStore host config expiresAt e) (containerOrder config.scenario now)

theorem createdStore_tokens (now : Moment) :
    (createdStore host config expiresAt e now).tokens =
      (suppliedStore host config expiresAt e).tokens :=
  creating_tokens host _ _

theorem createdStore_tasks (now : Moment) :
    (createdStore host config expiresAt e now).tasks =
      if host.options.dropTasks then [] else [createdTask host config expiresAt e] :=
  creating_tasks host _ _

/-- A creation that is allowed is answered with its task. -/
theorem Equipped.answers_creation
    (h : Equipped host lags config machine agent expiresAt e start last)
    (hfits : Stub.Fits (creationRequest config (host.clock start.now)))
    (hallowed : allowed host.options config.token.scopes Scope.createContainers = true) :
    ∃ p, (host.metBy lags config).Answers start (creationCall host config e start)
        (.ok (createdTask host config expiresAt e)) p ∧
      start.now ≤ p.now ∧
      p.state = createdStore host config expiresAt e (host.clock start.now) := by
  have hsecret : Presentable (suppliedToken host config e).secret := Stub.presentable_secretOf _
  have hallows : Stub.allows host.options Scope.createContainers
      (.holder (heldToken host config e)) = true := hallowed
  have haccept : (Stub.accept host.options start.state
      (host.clock (arrival config.launch.bind lags start (creationCall host config e start)))
      (some (creationCall host config e start).credential)
      (creationCall host config e start).request).2 = .ok (.createContainer _) :=
    (Stub.accept_of_caller rfl h.caller_creation).trans (if_pos hallows)
  -- The stub answers in time, and it answers this call when its delay is over.
  have hintime : (lagOf config.launch.bind lags start (creationCall host config e start)).total +
      host.options.createDelay.nanoseconds ≤ config.requestTimeout.nanoseconds := by
    have hprompt := h.prompt_call start (creationCall host config e start)
    rw [receive_spelledOut (c := creationCall host config e start) trivial hfits,
      bearer?_of_plain (c := creationCall host config e start) h.plain hsecret,
      serve_of_admitted haccept] at hprompt
    exact hprompt
  obtain ⟨time, hearly, -, hanswers⟩ :=
    replies_creation h.plain hsecret h.caller_creation hallowed hfits hintime
  rw [h.state] at hanswers
  have hlater : start.now ≤ time :=
    Nat.le_trans (le_arrival _ _ start _) (Nat.le_trans (Nat.le_add_right _ _) hearly)
  exact ⟨_, hanswers, hlater, rfl⟩

/-- The creation is accepted by a stub that names its task. -/
theorem Equipped.accepts (h : Equipped host lags config machine agent expiresAt e start last)
    (hfits : Stub.Fits (creationRequest config (host.clock start.now)))
    (hallowed : allowed host.options config.token.scopes Scope.createContainers = true)
    (homit : host.options.omitTaskId = false) :
    ∃ taskId p, (createdTask host config expiresAt e).identifier? = some taskId ∧
      Scenario.Accepts (host.metBy lags config) (suppliedToken host config e) config.scenario
        (host.clock start.now) start taskId p ∧
      start.now ≤ p.now ∧
      p.state = createdStore host config expiresAt e (host.clock start.now) := by
  have hid : (createdTask host config expiresAt e).identifier? = _ := identifier?_taskOf host _
  rw [homit, if_neg Bool.false_ne_true] at hid
  obtain ⟨p, hanswers, hlater, hstate⟩ := h.answers_creation hfits hallowed
  exact ⟨_, p, hid, ⟨_, hanswers, hid⟩, hlater, hstate⟩

/-- The first look finds the task that a stub has recorded. -/
theorem Equipped.sees (h : Equipped host lags config machine agent expiresAt e start last)
    (hdrop : host.options.dropTasks = false) {now : Moment} {p : Standing StubStore}
    (hp : p.state = createdStore host config expiresAt e now) :
    ∃ q, Scenario.SeesTasks (host.metBy lags config) config.launch.adminToken config.scenario p
        [createdTask host config expiresAt e] q ∧
      p.now ≤ q.now ∧ q.state = p.state.counting (.listTasks {}) := by
  have htasks : p.state.tasks = [createdTask host config expiresAt e] := by
    rw [hp, createdStore_tasks, hdrop, if_neg Bool.false_ne_true]
  obtain ⟨time, hearly, -, hlook⟩ := host.replies_look (p := p) h.plain h.presentable
    (h.lag_le p _)
  have hsees := seesTasks_of_look config.scenario (by rw [htasks]; exact List.cons_ne_nil _ _)
    hlook
  rw [htasks, List.reverse_singleton, ← h.admin] at hsees
  have hlater : p.now ≤ time := Nat.le_trans (le_arrival _ _ p _) hearly
  exact ⟨_, hsees, hlater, rfl⟩

/-- A scenario gets to its last step if the creation is accepted and its task recorded. -/
theorem Equipped.reaches_listing
    (h : Equipped host lags config machine agent expiresAt e start last)
    (hfits : Stub.Fits (creationRequest config (host.clock start.now)))
    (hallowed : allowed host.options config.token.scopes Scope.createContainers = true)
    (homit : host.options.omitTaskId = false) (hdrop : host.options.dropTasks = false) :
    ∃ taskId p q, (createdTask host config expiresAt e).identifier? = some taskId ∧
      Scenario.Accepts (host.metBy lags config) (suppliedToken host config e) config.scenario
        (host.clock start.now) start taskId p ∧
      Scenario.SeesTasks (host.metBy lags config) config.launch.adminToken config.scenario p
        [createdTask host config expiresAt e] q ∧
      start.now ≤ q.now ∧ q.state.tokens = start.state.tokens ∧
      q.state.containers =
        (createdStore host config expiresAt e (host.clock start.now)).containers := by
  obtain ⟨taskId, p, hid, haccepts, hlater, hp⟩ := h.accepts hfits hallowed homit
  obtain ⟨q, hsees, hlater', hq⟩ := h.sees hdrop hp
  rw [hp] at hq
  -- The look is counted; the creation has added a container and a task, and no token.
  have htokens : q.state.tokens = start.state.tokens := by
    rw [hq, h.state]
    exact createdStore_tokens (host.clock start.now)
  have hcontainers : q.state.containers =
      (createdStore host config expiresAt e (host.clock start.now)).containers := by
    rw [hq]
    rfl
  exact ⟨taskId, p, q, hid, haccepts, hsees, Nat.le_trans hlater hlater', htokens, hcontainers⟩

/-- When the listing arrives that is made then, the token is still valid. -/
theorem Equipped.caller_listing
    (h : Equipped host lags config machine agent expiresAt e start last) {taskId : String}
    {tasks : List AgentTask} {p q : Standing StubStore}
    (haccepts : Scenario.Accepts (host.metBy lags config) (suppliedToken host config e)
      config.scenario (host.clock start.now) start taskId p)
    (hsees : Scenario.SeesTasks (host.metBy lags config) config.launch.adminToken config.scenario
      p tasks q)
    (hscope : (suppliedToken host config e).holds Scope.readContainers = false)
    (hlater : start.now ≤ q.now) (htokens : q.state.tokens = start.state.tokens) :
    Stub.caller host.options q.state
      (host.clock (arrival config.launch.bind lags q
        (Scenario.listing (suppliedToken host config e))))
      (some (suppliedToken host config e).secret) = .ok (.holder (heldToken host config e)) := by
  obtain ⟨x, hends⟩ := h.ends
  obtain ⟨r, q', hanswers, harrives⟩ := h.exists_answers q
    (c := Scenario.listing (suppliedToken host config e))
    (Stub.presentable_secretOf _).fitsHeader trivial
  have hlast : q'.now ≤ last.now :=
    le_of_listing h.supplies haccepts hsees hscope hanswers hends
  have harrival : start.now ≤ arrival config.launch.bind lags q
      (Scenario.listing (suppliedToken host config e)) :=
    Nat.le_trans hlater (le_arrival _ _ q _)
  exact h.caller htokens harrival (Nat.le_trans harrives hlast)

/-- The scenario of a run that has a token fails for a cause. -/
def ScenarioFails (host : StubHost) (lags : Lags) (config : RunParameters) (e : Moment)
    (start : Standing StubStore) (cause : ScenarioCause) : Prop :=
  ∃ q, Scenario.Fails (host.metBy lags config) config.launch.adminToken
    (suppliedToken host config e) config.scenario (host.clock start.now) start cause q

theorem Equipped.fails_of_large (h : Equipped host lags config machine agent expiresAt e start last)
    (hlarge : ¬Stub.Fits (creationRequest config (host.clock start.now))) :
    ScenarioFails host lags config e start
      (.unexpectedStatus .createContainer 413 tooLargeReason) := by
  obtain ⟨time, -, -, hanswers⟩ := host.replies_of_tooLarge (p := start)
    (c := creationCall host config e start) h.reaches (Stub.presentable_secretOf _).fitsHeader
    trivial hlarge (h.lag_le start _)
  rw [resultOf_tooLarge] at hanswers
  exact ⟨_, .notCreated hanswers⟩

theorem Equipped.fails_of_forbidden
    (h : Equipped host lags config machine agent expiresAt e start last)
    (hfits : Stub.Fits (creationRequest config (host.clock start.now)))
    (hforbidden : allowed host.options config.token.scopes Scope.createContainers = false) :
    ScenarioFails host lags config e start
      (.unexpectedStatus .createContainer 403 "insufficient scope") := by
  obtain ⟨time, -, -, hanswers⟩ := replies_creation_of_forbidden h.plain
    (Stub.presentable_secretOf _) h.caller_creation hforbidden hfits (h.lag_le start _)
  exact ⟨_, .notCreated hanswers⟩

theorem Equipped.fails_of_omitted
    (h : Equipped host lags config machine agent expiresAt e start last)
    (hfits : Stub.Fits (creationRequest config (host.clock start.now)))
    (hallowed : allowed host.options config.token.scopes Scope.createContainers = true)
    (homit : host.options.omitTaskId = true) :
    ScenarioFails host lags config e start .missingIdentifier := by
  obtain ⟨p, hanswers, -, -⟩ := h.answers_creation hfits hallowed
  have hid : (createdTask host config expiresAt e).identifier? = none :=
    (identifier?_taskOf host _).trans (if_pos homit)
  exact ⟨p, .missingIdentifier hanswers hid⟩

theorem Equipped.fails_of_dropped
    (h : Equipped host lags config machine agent expiresAt e start last)
    (hfits : Stub.Fits (creationRequest config (host.clock start.now)))
    (hallowed : allowed host.options config.token.scopes Scope.createContainers = true)
    (homit : host.options.omitTaskId = false) (hdrop : host.options.dropTasks = true) :
    ScenarioFails host lags config e start .noTasksListed := by
  obtain ⟨taskId, p, -, haccepts, -, hp⟩ := h.accepts hfits hallowed homit
  have htasks : p.state.tasks = [] := by
    rw [hp, createdStore_tasks, if_pos hdrop]
  obtain ⟨q, hnone⟩ := seesNone_of_no_tasks host h.plain h.presentable
    (h.looksInTime host.options.adminToken) config.scenario htasks
  rw [← h.admin] at hnone
  exact ⟨q, .noTasksListed haccepts hnone⟩

theorem Equipped.fails_of_ignored
    (h : Equipped host lags config machine agent expiresAt e start last)
    (hfits : Stub.Fits (creationRequest config (host.clock start.now)))
    (homit : host.options.omitTaskId = false) (hdrop : host.options.dropTasks = false)
    (hignores : host.options.ignoreScopes = true)
    (hlacks : Scope.readContainers ∉ config.token.scopes) :
    ScenarioFails host lags config e start
      (.scopeNotEnforced .listContainers Scope.readContainers) := by
  have hallowed : ∀ scope, allowed host.options config.token.scopes scope = true := by
    intro scope
    rw [allowed, hignores, Bool.true_or]
  have hscope : (suppliedToken host config e).holds Scope.readContainers = false := by
    rw [holds_suppliedToken, List.contains_eq_mem, decide_eq_false_iff_not]
    exact hlacks
  obtain ⟨taskId, p, q, -, haccepts, hsees, hlater, htokens, -⟩ :=
    h.reaches_listing hfits (hallowed _) homit hdrop
  obtain ⟨time, -, -, hlisted⟩ := replies_listing h.plain (Stub.presentable_secretOf _)
    (h.caller_listing haccepts hsees hscope hlater htokens) (hallowed Scope.readContainers)
    (h.lag_le q _)
  exact ⟨_, .scopeNotEnforced haccepts hsees hscope hlisted⟩

/-- A scenario that no option spoils passes.  It leaves the tokens and the containers of
the stub as the creation has left them. -/
theorem Equipped.passes (h : Equipped host lags config machine agent expiresAt e start last)
    (hfits : Stub.Fits (creationRequest config (host.clock start.now)))
    (hallowed : allowed host.options config.token.scopes Scope.createContainers = true)
    (homit : host.options.omitTaskId = false) (hdrop : host.options.dropTasks = false)
    (hkept : ¬(host.options.ignoreScopes = true ∧ Scope.readContainers ∉ config.token.scopes)) :
    ∃ o q, Scenario.Passes (host.metBy lags config) config.launch.adminToken
        (suppliedToken host config e) config.scenario (host.clock start.now) start o q ∧
      o.resourceName = config.scenario.resourceName (host.clock start.now) ∧
      o.createdTaskListed = true ∧ q.state.tokens = start.state.tokens ∧
      q.state.containers =
        (createdStore host config expiresAt e (host.clock start.now)).containers := by
  obtain ⟨taskId, p, q, hid, haccepts, hsees, hlater, htokens, hcontainers⟩ :=
    h.reaches_listing hfits hallowed homit hdrop
  have hlisted : (Scenario.found config.scenario (host.clock start.now) taskId
      [createdTask host config expiresAt e]).createdTaskListed = true := by
    rw [Scenario.found, List.any_cons, hid, beq_self_eq_true]
    rfl
  -- With the scope the listing is not made, and without it it has to be refused.
  cases hread : config.token.scopes.contains Scope.readContainers with
  | true =>
    have hscope := (holds_suppliedToken host config e _).trans hread
    exact ⟨_, q, ⟨taskId, p, _, q, haccepts, hsees, Or.inl ⟨hscope, rfl⟩, rfl⟩, rfl, hlisted,
      htokens, hcontainers⟩
  | false =>
    have hscope := (holds_suppliedToken host config e _).trans hread
    have hlacks : Scope.readContainers ∉ config.token.scopes := by
      rw [List.contains_eq_mem, decide_eq_false_iff_not] at hread
      exact hread
    have hforbidden : Stub.allows host.options Scope.readContainers
        (.holder (heldToken host config e)) = false :=
      Bool.or_eq_false_iff.mpr
        ⟨Bool.eq_false_iff.mpr fun hignores => hkept ⟨hignores, hlacks⟩, hread⟩
    obtain ⟨time, -, -, hrefused⟩ := replies_listing_of_forbidden h.plain
      (Stub.presentable_secretOf _) (h.caller_listing haccepts hsees hscope hlater htokens)
      hforbidden (h.lag_le q _)
    exact ⟨_, _, ⟨taskId, p, _, q, haccepts, hsees, Or.inr ⟨hscope, _, hrefused, rfl⟩, rfl⟩, rfl,
      hlisted, htokens, hcontainers⟩

/-- The cause that the options tell is the one that the scenario fails for. -/
theorem Equipped.fails_of_stubCause
    (h : Equipped host lags config machine agent expiresAt e start last) {cause : ScenarioCause}
    (hcause : stubCause? host.options config (host.clock start.now) = some cause) :
    ScenarioFails host lags config e start cause := by
  rw [stubCause?] at hcause
  split_ifs at hcause with hlarge hforbidden homit hdrop hignored
  · obtain rfl := Option.some.inj hcause
    exact h.fails_of_large (Nat.not_le.mpr hlarge)
  · obtain rfl := Option.some.inj hcause
    exact h.fails_of_forbidden (Nat.not_lt.mp hlarge) hforbidden
  · obtain rfl := Option.some.inj hcause
    exact h.fails_of_omitted (Nat.not_lt.mp hlarge) (Bool.not_eq_false _ ▸ hforbidden) homit
  · obtain rfl := Option.some.inj hcause
    exact h.fails_of_dropped (Nat.not_lt.mp hlarge) (Bool.not_eq_false _ ▸ hforbidden)
      (Bool.eq_false_iff.mpr homit) hdrop
  · obtain rfl := Option.some.inj hcause
    exact h.fails_of_ignored (Nat.not_lt.mp hlarge) (Bool.eq_false_iff.mpr homit)
      (Bool.eq_false_iff.mpr hdrop) hignored.1 hignored.2

end Scenario

/-! ## The revocation -/

/-- Some end the revocation always comes to. -/
theorem exists_revokes (host : StubHost) (lags : Lags) (config : RunParameters)
    (token : ScopedToken) (p : Standing StubStore) :
    ∃ revoked q, Revokes (host.metBy lags config) config token p revoked q := by
  refine (revokes_or_revocationStalls _ config token p).resolve_right ?_
  rintro ⟨-, id, -, hnone⟩
  rw [StubHost.metBy, StubHost.seenFrom] at hnone
  exact HttpClient.not_ignores _ _ p _ hnone

/-- A token that the stub still holds is revoked if it is to be. -/
theorem Equipped.revokes (h : Equipped host lags config machine agent expiresAt e start last)
    {p : Standing StubStore} (htokens : p.state.tokens = start.state.tokens) :
    ∃ q, Revokes (host.metBy lags config) config (suppliedToken host config e) p
        config.revokeToken q ∧
      q.state.containers = p.state.containers := by
  cases hwanted : config.revokeToken with
  | false => exact ⟨p, .notWanted hwanted, rfl⟩
  | true =>
    have hheld : heldToken host config e ∈ p.state.tokens := by
      rw [htokens, h.state]
      exact (host.finds_issuing (readyStore host.options) config.token expiresAt e).mem.1
    have hknown : ∃ t ∈ p.state.tokens, t.id = host.fresh 0 := ⟨_, hheld, rfl⟩
    obtain ⟨time, -, -, hrevoked⟩ :=
      replies_revocation h.plain h.presentable hknown (h.lag_le p _)
    rw [← h.admin] at hrevoked
    exact ⟨_, .revoked hwanted rfl hrevoked, revoke_containers _ _⟩

end Run

end Shakedown
