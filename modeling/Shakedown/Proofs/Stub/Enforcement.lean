/-
  Shakedown.Proofs.Stub.Enforcement

  Whether the scenario finds out an agent that lets every valid token do
  everything.  Its last step takes any refusal, 401 as well as 403, for the
  scope being kept, so all depends on whether the token is still valid then:
  a scenario that passes has seen it expire between the creation and the
  listing of containers, and one that sees it expire there passes.
-/
import Shakedown.Proofs.Http.Answers
import Shakedown.Proofs.Stub.Stages

namespace Shakedown

open StubHost

variable {host : StubHost} {port : UInt16} {timeout : Duration} {p q : Standing StubStore}
  {token : ScopedToken} {adminToken : String} {config : ScenarioParameters} {now : Moment}

/-! ## The tokens that a stub issues -/

theorem Token.scopes_of_ofGrant {request : TokenParameters} {expiresAt : Moment} {g : TokenGrant}
    (hscopes : g.scopes = request.scopes) (h : ofGrant request expiresAt g = .ok token) :
    token.secret = g.token ∧ token.scopes = Scopes.ofList request.scopes := by
  rw [ofGrant, hscopes, ite_self] at h
  split at h
  · cases h
  · obtain rfl := Except.ok.inj h
    exact ⟨rfl, rfl⟩

/-- A token that a stub issued has one of the stub's secrets and holds the scopes that
were ordered. -/
theorem Token.Issues.of_stub {issuer : String} {request : TokenParameters} {start : Moment}
    (h : Issues (host.atPort port timeout) issuer request start p token q) :
    (∃ u, token.secret = Stub.secretOf u) ∧
      ∀ scope, token.holds scope = request.scopes.contains scope := by
  obtain ⟨expiresAt, grant, -, hanswers, -, htoken⟩ := h
  obtain ⟨who, work, hwork, hresult⟩ :=
    admitted_of_answers_ok (c := orderCall issuer request expiresAt) trivial hanswers
  have hwork : Stub.workOf host.options (host.clock p.now) who
      (.issueToken (order request expiresAt)) = .ok work := hwork
  -- Only the admin can have ordered it, and a filled order grants just what it asks for.
  obtain ⟨e, rfl⟩ : ∃ e, work = .issueToken (order request expiresAt) e := by
    cases Stub.permits_of_workOf hwork with
    | issueToken hadmin hknown hexpiry => exact ⟨_, rfl⟩
  obtain rfl : host.granting p.state request expiresAt = grant :=
    Except.ok.inj ((host.resultOf_granting p.state issuer request expiresAt).symm.trans hresult)
  obtain ⟨hsecret, hscopes⟩ := scopes_of_ofGrant rfl htoken
  refine ⟨⟨_, hsecret⟩, fun scope => ?_⟩
  rw [ScopedToken.holds, hscopes, Scopes.contains_ofList]

/-! ## What a creation and a refused listing tell of a token -/

namespace Scenario

/-- A creation that is accepted shows that the token is valid. -/
theorem valid_of_answers_creation (hc : Presentable token.secret) {task : AgentTask}
    (h : (host.atPort port timeout).Answers p (creation token config now) (.ok task) q) :
    token.secret = host.options.adminToken ∨
      ∃ t, Stub.Finds p.state token.secret t ∧ (host.clock p.now).before t.expiresAt = true := by
  rcases Stub.caller_cases host.options p.state (host.clock p.now) token.secret with
    hadmin | ⟨hother, hvalid | hexpired⟩
  · exact Or.inl hadmin
  · exact Or.inr hvalid
  · -- A document that is too large is refused as well.
    by_cases hfits : Stub.Fits (creation token config now).request
    · have hrefused : (host.atPort port timeout).Answers p (creation token config now)
          (.error _) _ :=
        Replies.answers_atPort (replies_of_nobody (c := creation token config now)
          (Bind.plain_loopback port) hc trivial hfits rfl (Stub.caller_nobody hother hexpired) rfl
          (Nat.zero_le _))
      exact nomatch (h.unique hrefused).1
    · have hrefused : (host.atPort port timeout).Answers p (creation token config now) _ _ :=
        Replies.answers_atPort (host.replies_of_tooLarge (c := creation token config now)
          (Bind.plain_loopback port).reaches hc.fitsHeader trivial hfits (Nat.zero_le _))
      rw [resultOf_tooLarge] at hrefused
      exact nomatch (h.unique hrefused).1

/-- A token that is not valid is refused the listing. -/
theorem answers_listing_of_expired (port : UInt16) (timeout : Duration)
    (hc : Presentable token.secret) (hother : token.secret ≠ host.options.adminToken)
    (hexpired : ∀ t, Stub.Finds p.state token.secret t →
      (host.clock p.now).before t.expiresAt = false) :
    (host.atPort port timeout).Answers p (listing token) (.error (.status 401 "invalid token"))
      ⟨p.now, p.state.counting .listContainers⟩ := by
  have hkept : keptReason "invalid token" = "invalid token" :=
    keptReason_of_short (by decide)
  rw [← hkept]
  exact Replies.answers_atPort (replies_of_nobody (c := listing token) (Bind.plain_loopback port)
    hc trivial (Stub.fits_of_none rfl) rfl (Stub.caller_nobody hother hexpired) rfl
    (Nat.zero_le _))

/-- A stub that ignores scopes refuses a listing only if the token is not valid. -/
theorem expired_of_answers_listing (hscopes : host.options.ignoreScopes = true)
    (hc : Presentable token.secret) {f : ApiFault}
    (h : (host.atPort port timeout).Answers p (listing token) (.error f) q) :
    token.secret ≠ host.options.adminToken ∧ q.now = p.now ∧
      ∀ t, Stub.Finds p.state token.secret t → (host.clock p.now).before t.expiresAt = false := by
  -- The admin and the holder of a valid token are told the containers.
  rcases Stub.caller_cases host.options p.state (host.clock p.now) token.secret with
    hadmin | ⟨hother, ⟨t, hfinds, hvalid⟩ | hexpired⟩
  · have hcaller := Stub.caller_admin host.options p.state (host.clock p.now)
    rw [← hadmin] at hcaller
    have hlisted : (host.atPort port timeout).Answers p (listing token)
        (.ok p.state.containers) _ :=
      Replies.answers_atPort (replies_listing (Bind.plain_loopback port) hc hcaller rfl
        (Nat.zero_le _))
    exact nomatch (h.unique hlisted).1
  · have hallows : Stub.allows host.options Scope.readContainers (.holder t) = true :=
      Bool.or_eq_true_iff.mpr (Or.inl hscopes)
    have hlisted : (host.atPort port timeout).Answers p (listing token)
        (.ok p.state.containers) _ :=
      Replies.answers_atPort (replies_listing (Bind.plain_loopback port) hc
        (Stub.caller_holder hother hfinds hvalid) hallows (Nat.zero_le _))
    exact nomatch (h.unique hlisted).1
  · obtain ⟨-, rfl⟩ := h.unique (answers_listing_of_expired port timeout hc hother hexpired)
    exact ⟨hother, rfl, hexpired⟩

theorem EmptyLooks.tokens {n : Nat}
    (h : EmptyLooks (host.atPort port timeout) adminToken config n p q) :
    q.state.tokens = p.state.tokens := by
  induction h with
  | zero p => rfl
  | succ h _ ih =>
    have hlook := tokens_of_answers (c := look adminToken) rfl trivial h
    exact ih.trans hlook

theorem SeesTasks.tokens {tasks : List AgentTask}
    (h : SeesTasks (host.atPort port timeout) adminToken config p tasks q) :
    q.state.tokens = p.state.tokens := by
  obtain ⟨r, ⟨n, -, hlooks⟩, hlook, -⟩ := h
  exact (tokens_of_answers (c := look adminToken) rfl trivial hlook).trans hlooks.tokens

/-! ## The scenario -/

/-- A token of the stub that expires between two times: it is valid at the first one and
not at the second. -/
def ExpiresBetween (host : StubHost) (s : StubStore) (secret : String) (first last : Nat) : Prop :=
  ∃ t, Stub.Finds s secret t ∧ (host.clock first).before t.expiresAt = true ∧
    (host.clock last).before t.expiresAt = false

/-- A scenario without the scope for listing containers that passes has seen its token
expire. -/
theorem expiresBetween_of_passes (hscopes : host.options.ignoreScopes = true)
    (hc : Presentable token.secret) (hlacks : token.holds Scope.readContainers = false)
    {o : ScenarioFindings}
    (h : Passes (host.atPort port timeout) adminToken token config now p o q) :
    ExpiresBetween host p.state token.secret p.now q.now := by
  obtain ⟨taskId, p₁, tasks, p₂, ⟨task, hcreated, -⟩, hsees, hkeeps, -⟩ := h
  obtain ⟨f, hlisted, -⟩ : ∃ f, (host.atPort port timeout).Answers p₂ (listing token) (.error f) q ∧
      f.isRefusal = true := by
    rcases hkeeps with ⟨hholds, -⟩ | ⟨-, hrefused⟩
    · exact absurd (hlacks.symm.trans hholds) Bool.false_ne_true
    · exact hrefused
  obtain ⟨hother, htime, hexpired⟩ := expired_of_answers_listing hscopes hc hlisted
  obtain ⟨t, hfinds, hvalid⟩ := (valid_of_answers_creation hc hcreated).resolve_left hother
  -- No step of the scenario issues a token or revokes one.
  have htokens : p₂.state.tokens = p.state.tokens :=
    hsees.tokens.trans (tokens_of_answers (c := creation token config now) trivial trivial
      hcreated)
  have hfinds' : Stub.Finds p₂.state token.secret t := by
    rw [Stub.Finds, htokens]
    exact hfinds
  refine ⟨t, hfinds, hvalid, ?_⟩
  rw [htime]
  exact hexpired t hfinds'

/-- One whose token expires while its container is created passes, against a stub that
records the task under its identifier. -/
theorem passes_of_expired (hadmin : Presentable host.options.adminToken)
    (hc : Presentable token.secret) (hother : token.secret ≠ host.options.adminToken)
    {t : GrantedToken} (hfinds : Stub.Finds p.state token.secret t)
    (hvalid : (host.clock p.now).before t.expiresAt = true)
    (hallows : Stub.allows host.options Scope.createContainers (.holder t) = true)
    (homit : host.options.omitTaskId = false) (hdrop : host.options.dropTasks = false)
    (hintime : host.options.createDelay.nanoseconds ≤ timeout.nanoseconds)
    (hexpired : (host.clock (p.now + host.options.createDelay.nanoseconds)).before t.expiresAt =
      false)
    (hlacks : token.holds Scope.readContainers = false) (config : ScenarioParameters)
    (now : Moment) (hfits : Stub.Fits (.createContainer (containerOrder config now))) :
    ∃ o q, Passes (host.atPort port timeout) host.options.adminToken token config now p o q := by
  have hdelay : 0 + host.options.createDelay.nanoseconds ≤ timeout.nanoseconds := by omega
  have hanswers : (host.atPort port timeout).Answers p (creation token config now)
      (.ok (host.taskOf p.state)) _ :=
    Replies.answers_atPort (replies_creation (Bind.plain_loopback port) hc
      (Stub.caller_holder hother hfinds hvalid) hallows hfits hdelay)
  have hcreated : Accepts (host.atPort port timeout) token config now p
      (host.fresh p.state.drawn).text _ :=
    ⟨_, hanswers, by rw [identifier?_taskOf, homit, if_neg Bool.false_ne_true]⟩
  have htasks : (host.creating p.state (containerOrder config now)).tasks ≠ [] := by
    rw [creating_tasks, hdrop, if_neg Bool.false_ne_true]
    exact List.concat_ne_nil _ _
  have hfinds' : Stub.Finds (host.creating p.state (containerOrder config now))
      token.secret t := by
    rw [Stub.Finds, creating_tokens]
    exact hfinds
  have hrefused := answers_listing_of_expired port timeout
    (p := ⟨p.now + host.options.createDelay.nanoseconds,
      (host.creating p.state (containerOrder config now)).counting (.listTasks {})⟩)
    hc hother fun t' ht' => by
      obtain rfl := Option.some.inj (hfinds'.symm.trans ht')
      exact hexpired
  have hlook : (host.atPort port timeout).Answers
      ⟨p.now + host.options.createDelay.nanoseconds,
        host.creating p.state (containerOrder config now)⟩
      (look host.options.adminToken) (.ok _) _ :=
    Replies.answers_atPort (host.replies_look (Bind.plain_loopback port) hadmin (Nat.zero_le _))
  exact ⟨_, _, _, _, _, _, hcreated, seesTasks_of_look config htasks hlook,
    Or.inr ⟨hlacks, _, hrefused, rfl⟩, rfl⟩

theorem not_stalls (h : Stalls (host.atPort port timeout) adminToken token config now p) :
    False := by
  rw [StubHost.atPort] at h
  cases h with
  | creation h => exact HttpClient.not_ignores _ _ p (creation token config now) h
  | look haccepts h =>
    obtain ⟨r, -, hnone⟩ := h
    exact HttpClient.not_ignores _ _ r (look adminToken) hnone
  | listing haccepts hsees hscope h => exact HttpClient.not_ignores _ _ _ (listing token) h

/-- Against a stub that lets every valid token do everything, a scenario with a token
that the stub issued without the scope for listing containers comes to an end, whatever
has become of the stub since and whoever looks at the tasks.  It passes only if the token
has expired in the meantime: the stub still took it for valid when the container was
created, and no longer when the containers were listed. -/
theorem passed_only_if_expired (hscopes : host.options.ignoreScopes = true) {issuer : String}
    {request : TokenParameters} {start : Moment} {p₀ p₁ : Standing StubStore}
    (hissued : Token.Issues (host.atPort port timeout) issuer request start p₀ token p₁)
    (hlacks : Scope.readContainers ∉ request.scopes) (adminToken : String)
    (config : ScenarioParameters) (now : Moment) (p : Standing StubStore) :
    ∃ o q, (plan adminToken token config now).outcome? (host.atPort port timeout) p = some (o, q) ∧
      (o.passed = true → ExpiresBetween host p.state token.secret p.now q.now) := by
  obtain ⟨⟨u, hsecret⟩, hholds⟩ := hissued.of_stub
  have hc : Presentable token.secret := hsecret ▸ Stub.presentable_secretOf u
  have hlacks' : token.holds Scope.readContainers = false := by
    rw [hholds, List.contains_eq_mem, decide_eq_false_iff_not]
    exact hlacks
  rcases passes_or_fails_or_stalls (host.atPort port timeout) adminToken token config now p with
    ⟨o, q, h⟩ | ⟨cause, q, h⟩ | h
  · exact ⟨o, q, outcome?_plan_of_passes h, fun _ => expiresBetween_of_passes hscopes hc hlacks' h⟩
  · obtain ⟨o, houtcome, hcause⟩ := outcome?_plan_of_fails h
    refine ⟨o, q, houtcome, fun hpassed => ?_⟩
    rw [ScenarioFindings.passed, hcause] at hpassed
    exact absurd hpassed Bool.false_ne_true
  · exact (not_stalls h).elim

/-! ## A token that expires in time -/

/-- A stub that ignores scopes and takes two seconds for a creation. -/
def slowStub : StubHost where
  options := { createDelay := .ofSeconds 2, ignoreScopes := true }
  fresh := Uuid.ofNat
  clock t := ⟨t / 1000000000, t % 1000000000⟩

/-- A token for one second, without the scope for listing containers. -/
def briefRequest : TokenParameters := { ttl := .ofSeconds 1 }

def briefToken : ScopedToken := slowStub.issued {} briefRequest ⟨1, 0⟩

/-- The stub when it has issued the token. -/
def slowStart : Standing StubStore := ⟨0, slowStub.issuing {} briefRequest ⟨1, 0⟩ ⟨1, 0⟩⟩

theorem presentable_standardAdminToken : Presentable standardAdminToken :=
  .of_solid (by decide) (List.all_iff_forall_prop.mp (by decide))

theorem read?_firstSecond :
    Time.Rfc3339.read? (Moment.timestamp ⟨1, 0⟩) = some ⟨1, 0⟩ :=
  Moment.read?_timestamp (Or.inl (by decide)) (by decide +kernel) (by decide +kernel)

theorem slowStub_issues :
    Token.Issues (slowStub.atPort 7845 (.ofSeconds 30)) standardAdminToken briefRequest
      (slowStub.clock 0) ⟨0, {}⟩ briefToken slowStart :=
  issues_of_answers (p := ⟨0, {}⟩) (by decide +kernel) read?_firstSecond
    (Replies.answers_atPort (replies_order (Bind.plain_loopback 7845)
      presentable_standardAdminToken (by decide +kernel) read?_firstSecond (by decide +kernel)
      (by decide +kernel) (Nat.zero_le _)))

theorem slowStub_passed_only_if_expired :
    slowStub.options.ignoreScopes = true ∧ Scope.readContainers ∉ briefRequest.scopes ∧
      ∃ o q, (plan standardAdminToken briefToken {} (slowStub.clock 0)).outcome?
          (slowStub.atPort 7845 (.ofSeconds 30)) slowStart = some (o, q) ∧
        (o.passed = true →
          ExpiresBetween slowStub slowStart.state briefToken.secret slowStart.now q.now) :=
  ⟨rfl, by decide, passed_only_if_expired rfl slowStub_issues (by decide) standardAdminToken {} _
    slowStart⟩

/-- The scenario passes with a token that expires while the container is created,
although the stub lets every valid token do everything. -/
theorem slowStub_passes :
    slowStub.options.ignoreScopes = true ∧ Scope.readContainers ∉ briefRequest.scopes ∧
      Token.Issues (slowStub.atPort 7845 (.ofSeconds 30)) standardAdminToken briefRequest
        (slowStub.clock 0) ⟨0, {}⟩ briefToken slowStart ∧
      ∃ o q, (plan standardAdminToken briefToken {} (slowStub.clock 0)).outcome?
          (slowStub.atPort 7845 (.ofSeconds 30)) slowStart = some (o, q) ∧ o.passed = true := by
  have hfinds : Stub.Finds slowStart.state briefToken.secret
      (slowStub.recorded {} briefRequest ⟨1, 0⟩) :=
    slowStub.finds_issuing {} briefRequest ⟨1, 0⟩ ⟨1, 0⟩
  obtain ⟨o, q, h⟩ : ∃ o q, Passes (slowStub.atPort 7845 (.ofSeconds 30)) standardAdminToken
      briefToken {} (slowStub.clock 0) slowStart o q :=
    passes_of_expired presentable_standardAdminToken (Stub.presentable_secretOf _)
      (by decide +kernel) hfinds (by decide +kernel) (by decide +kernel) rfl rfl (by decide +kernel)
      (by decide +kernel) (by decide +kernel) {} (slowStub.clock 0) (by decide +kernel)
  have hpassed : o.passed = true := by
    obtain ⟨taskId, p₁, tasks, p₂, -, -, -, rfl⟩ := h
    rfl
  exact ⟨rfl, by decide, slowStub_issues, o, q, outcome?_plan_of_passes h, hpassed⟩

end Scenario

end Shakedown
