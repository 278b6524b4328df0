/-
  Shakedown.Proofs.Stub.Stages

  The stages of a run, each against a stub agent: the health checks while it
  starts and after, the order of a token, the steps of the scenario, and the
  revocation.  Each stage is told by what the stub remembers when it begins.
-/
import Shakedown.Proofs.Run.Verdict
import Shakedown.Proofs.Stub.Answers
import Shakedown.Proofs.Time.Rfc3339
import Shakedown.Proofs.Token.Scopes

namespace Shakedown

open Text

/-- A store after so many more health checks. -/
def StubStore.checked (s : StubStore) (n : Nat) : StubStore :=
  { s with calls := { s.calls with health := s.calls.health + n } }

theorem StubStore.checked_checked (s : StubStore) (m n : Nat) :
    (s.checked m).checked n = s.checked (m + n) := by
  simp only [checked, Nat.add_assoc]

namespace StubHost

variable {host : StubHost} {b : Bind} {lags : Lags} {timeout : Duration} {p : Standing StubStore}
  {credential : String}

/-! ## Health checks -/

/-- Why a health check fails while a stub is starting. -/
def startingReason : String :=
  (ApiFault.status 503 "starting").message

/-- Why one fails that presents no token. -/
def namelessReason : String :=
  (ApiFault.status 401 "missing bearer token").message

/-- A check that the stub refuses, and whose answer is there in time, has failed. -/
theorem unhealthy_of_refused (hb : b.Reaches)
    (hcredential : HttpClient.fitsHeader credential = true) {bearer : Option String}
    (hbearer : Stub.bearer? (b.user?.getD (.bearer credential)).text = bearer) {status : Nat}
    {reason : String} (hshort : Utf8.size reason.toList ≤ HttpClient.keptBody)
    (hstatus : HttpClient.isSuccess status = false)
    (h : (Stub.accept host.options p.state (host.clock (arrival b lags p (Probe.check credential)))
      bearer .health).2 = .error (.refusal status reason)) (schedule : ProbeSchedule)
    (hcall : (lagOf b lags p (Probe.check credential)).total ≤ timeout.nanoseconds)
    (hcheck : (lagOf b lags p (Probe.check credential)).total ≤
      schedule.attemptTimeout.nanoseconds) :
    ∃ q, Probe.Unhealthy (host.seenFrom b lags timeout) credential schedule p
        (ApiFault.status status reason).message q ∧ q.state = p.state.checked 1 := by
  have hreplies := replies_of_refused (c := Probe.check credential) hb hcredential trivial
    (Stub.fits_of_none rfl) hbearer h hcall
  rw [resultOf_refusal hstatus, keptReason_of_short hshort] at hreplies
  obtain ⟨time, -, hlate, hanswers⟩ := hreplies
  exact ⟨_, .fault hanswers (Nat.le_trans hlate (Nat.add_le_add_left hcheck _)), rfl⟩

/-- A stub that is starting fails a check, whoever makes it. -/
theorem unhealthy_of_starting (hb : b.Reaches)
    (hcredential : HttpClient.fitsHeader credential = true) (schedule : ProbeSchedule)
    (h : p.state.calls.health < host.options.healthFailures)
    (hcall : (lagOf b lags p (Probe.check credential)).total ≤ timeout.nanoseconds)
    (hcheck : (lagOf b lags p (Probe.check credential)).total ≤
      schedule.attemptTimeout.nanoseconds) :
    ∃ q, Probe.Unhealthy (host.seenFrom b lags timeout) credential schedule p startingReason q ∧
      q.state = p.state.checked 1 := by
  have hstarting : Stub.isStarting host.options (Stub.countCall p.state.calls .health) .health =
      true := decide_eq_true h
  exact unhealthy_of_refused hb hcredential rfl (by decide) rfl
    (Stub.accept_starting hstarting _) schedule hcall hcheck

/-- One that has started fails it if the base tells a user in the place of the caller. -/
theorem unhealthy_of_user (hb : b.Reaches) {user : Credential} (huser : b.user? = some user)
    (hcredential : HttpClient.fitsHeader credential = true) (schedule : ProbeSchedule)
    (h : host.options.healthFailures ≤ p.state.calls.health)
    (hcall : (lagOf b lags p (Probe.check credential)).total ≤ timeout.nanoseconds)
    (hcheck : (lagOf b lags p (Probe.check credential)).total ≤
      schedule.attemptTimeout.nanoseconds) :
    ∃ q, Probe.Unhealthy (host.seenFrom b lags timeout) credential schedule p namelessReason q ∧
      q.state = p.state.checked 1 := by
  have hstarted : Stub.isStarting host.options (Stub.countCall p.state.calls .health) .health =
      false := decide_eq_false (Nat.not_le.mpr (Nat.lt_succ_of_le h))
  have hbearer : Stub.bearer? (b.user?.getD (.bearer credential)).text = none := by
    rw [huser]
    exact bearer?_of_user huser
  exact unhealthy_of_refused hb hcredential hbearer (by decide) rfl
    (Stub.accept_nobody hstarted rfl) schedule hcall hcheck

/-- One that has started passes every check of the admin, whatever it says of itself. -/
theorem healthy_of_started (hb : b.Plain) (hadmin : Presentable host.options.adminToken)
    (schedule : ProbeSchedule) (h : host.options.healthFailures ≤ p.state.calls.health)
    (hcall : (lagOf b lags p (Probe.check host.options.adminToken)).total ≤ timeout.nanoseconds)
    (hcheck : (lagOf b lags p (Probe.check host.options.adminToken)).total ≤
      schedule.attemptTimeout.nanoseconds) :
    ∃ q, Probe.Healthy (host.seenFrom b lags timeout) host.options.adminToken schedule p q ∧
      q.state = p.state.checked 1 := by
  have hstarted : Stub.isStarting host.options (Stub.countCall p.state.calls .health) .health =
      false := decide_eq_false (Nat.not_le.mpr (Nat.lt_succ_of_le h))
  obtain ⟨reply, hperform, hstatus⟩ : ∃ reply, Stub.perform host.options host.fresh
      (p.state.counting .health) .report = (p.state.checked 1, reply) ∧
      HttpClient.isSuccess reply.status = true := by
    refine ⟨_, rfl, ?_⟩
    split <;> rfl
  obtain ⟨report, hreport⟩ := resultOf_health hstatus host.options.adminToken
  have hreplies := replies_of_allowed (c := Probe.check host.options.adminToken) hb hadmin trivial
    (Stub.fits_of_none rfl) hstarted (Stub.caller_admin _ _ _) rfl rfl hperform hcall
  obtain ⟨time, -, hlate, hanswers⟩ := hreplies
  exact ⟨_, ⟨report, hreport ▸ hanswers, Nat.le_trans hlate (Nat.add_le_add_left hcheck _)⟩, rfl⟩

/-- Checks that fail for one reason as long as so many more have been made. -/
theorem failedChecks_replicate {schedule : ProbeSchedule} {reason : String} {n : Nat}
    (h : ∀ q : Standing StubStore, p.state.calls.health ≤ q.state.calls.health →
      q.state.calls.health < p.state.calls.health + n →
      ∃ r, Probe.Unhealthy (host.seenFrom b lags timeout) credential schedule q reason r ∧
        r.state = q.state.checked 1) :
    ∃ r, Probe.FailedChecks (host.seenFrom b lags timeout) credential schedule
        (List.replicate n reason) p r ∧ r.state = p.state.checked n := by
  -- Each check is counted, so the next one meets a stub that has one less to fail.
  induction n generalizing p with
  | zero => exact ⟨p, .nil p, rfl⟩
  | succ n ih =>
    obtain ⟨q, hunhealthy, hq⟩ := h p (Nat.le_refl _) (by omega)
    have hcount : q.state.calls.health = p.state.calls.health + 1 := by
      rw [hq]
      rfl
    obtain ⟨r, hrest, hr⟩ := ih (p := q.later schedule.interval.nanoseconds) (by
      intro q' hlow hhigh
      simp only [Standing.later, hcount] at hlow hhigh
      exact h q' (by omega) (by omega))
    refine ⟨r, .cons hunhealthy hrest, ?_⟩
    rw [hr, Standing.later, hq, StubStore.checked_checked, Nat.add_comm]

/-- A stub answers the health checks of a caller in the time that the caller gives them. -/
def ChecksInTime (b : Bind) (lags : Lags) (timeout : Duration) (credential : String)
    (schedule : ProbeSchedule) : Prop :=
  ∀ p, (lagOf b lags p (Probe.check credential)).total ≤ timeout.nanoseconds ∧
    (lagOf b lags p (Probe.check credential)).total ≤ schedule.attemptTimeout.nanoseconds

theorem failedChecks_of_starting (host : StubHost) (hb : b.Reaches)
    (hcredential : HttpClient.fitsHeader credential = true) {schedule : ProbeSchedule}
    (hintime : ChecksInTime b lags timeout credential schedule) (n : Nat)
    (h : p.state.calls.health + n ≤ host.options.healthFailures) :
    ∃ r, Probe.FailedChecks (host.seenFrom b lags timeout) credential schedule
        (List.replicate n startingReason) p r ∧ r.state = p.state.checked n := by
  refine failedChecks_replicate fun q _ hq => ?_
  exact unhealthy_of_starting hb hcredential schedule (by omega) (hintime q).1 (hintime q).2

theorem failedChecks_of_user (hb : b.Reaches) {user : Credential} (huser : b.user? = some user)
    (hcredential : HttpClient.fitsHeader credential = true) {schedule : ProbeSchedule}
    (hintime : ChecksInTime b lags timeout credential schedule) (n : Nat)
    (h : host.options.healthFailures ≤ p.state.calls.health) :
    ∃ r, Probe.FailedChecks (host.seenFrom b lags timeout) credential schedule
        (List.replicate n namelessReason) p r ∧ r.state = p.state.checked n := by
  refine failedChecks_replicate fun q hq _ => ?_
  exact unhealthy_of_user hb huser hcredential schedule (by omega) (hintime q).1 (hintime q).2

/-- A stub that starts within the bound on the checks is found ready by the check after
the last that fails. -/
theorem readyAfter_of_started (hb : b.Plain) (hadmin : Presentable host.options.adminToken)
    {schedule : ProbeSchedule}
    (hintime : ChecksInTime b lags timeout host.options.adminToken schedule)
    (h : host.options.healthFailures < schedule.bound) :
    ∃ q, Probe.ReadyAfter (host.seenFrom b lags timeout) host.options.adminToken schedule
        (host.options.healthFailures + 1) ⟨0, {}⟩ q ∧
      q.state = StubStore.checked {} (host.options.healthFailures + 1) := by
  obtain ⟨r, hfailed, hr⟩ := host.failedChecks_of_starting (p := ⟨0, {}⟩) hb.reaches
    hadmin.fitsHeader hintime host.options.healthFailures (Nat.le_of_eq (Nat.zero_add _))
  have hcount : host.options.healthFailures ≤ r.state.calls.health := by
    rw [hr]
    exact Nat.le_of_eq (Nat.zero_add _).symm
  obtain ⟨q, hhealthy, hq⟩ :=
    healthy_of_started hb hadmin schedule hcount (hintime r).1 (hintime r).2
  refine ⟨q, ⟨_, r, hfailed, hhealthy, ?_, h⟩, ?_⟩
  · rw [List.length_replicate]
  · rw [hq, hr, StubStore.checked_checked]

/-- One that takes longer fails them all. -/
theorem neverReady_of_starting (host : StubHost) (hb : b.Reaches)
    (hcredential : HttpClient.fitsHeader credential = true) {schedule : ProbeSchedule}
    (hintime : ChecksInTime b lags timeout credential schedule)
    (h : schedule.bound ≤ host.options.healthFailures) :
    ∃ q, Probe.NeverReady (host.seenFrom b lags timeout) credential schedule
      (List.replicate schedule.bound startingReason) ⟨0, {}⟩ q := by
  obtain ⟨r, hfailed, -⟩ := host.failedChecks_of_starting (p := ⟨0, {}⟩) hb hcredential
    hintime schedule.bound (by simpa using h)
  exact hfailed.neverReady List.length_replicate

/-- One whose base tells a user fails the rest of them too. -/
theorem neverReady_of_user (host : StubHost) (hb : b.Reaches) {user : Credential}
    (huser : b.user? = some user) (hcredential : HttpClient.fitsHeader credential = true)
    {schedule : ProbeSchedule}
    (hintime : ChecksInTime b lags timeout credential schedule)
    (h : host.options.healthFailures < schedule.bound) :
    ∃ q, Probe.NeverReady (host.seenFrom b lags timeout) credential schedule
      (List.replicate host.options.healthFailures startingReason ++
        List.replicate (schedule.bound - host.options.healthFailures) namelessReason)
      ⟨0, {}⟩ q := by
  obtain ⟨r, hstarting, hr⟩ := host.failedChecks_of_starting (p := ⟨0, {}⟩) hb
    hcredential hintime host.options.healthFailures (Nat.le_of_eq (Nat.zero_add _))
  have hcount : host.options.healthFailures ≤ r.state.calls.health := by
    rw [hr]
    exact Nat.le_of_eq (Nat.zero_add _).symm
  obtain ⟨q, hnameless, -⟩ := failedChecks_of_user hb huser hcredential hintime
    (schedule.bound - host.options.healthFailures) hcount
  refine (hstarting.append hnameless).neverReady ?_
  rw [List.length_append, List.length_replicate, List.length_replicate]
  omega

/-- Of reasons that are all the same only one is new. -/
theorem foldl_addReason_replicate (reasons : List String) (n : Nat) (reason : String) :
    (List.replicate (n + 1) reason).foldl Probe.addReason reasons =
      Probe.addReason reasons reason := by
  induction n with
  | zero => rfl
  | succ n ih =>
    have hseen : (Probe.addReason reasons reason).contains reason = true := by
      rw [Probe.addReason]
      split
      · assumption
      · simp
    rw [List.replicate_succ', List.foldl_append, ih]
    exact if_pos hseen

theorem distinct_replicate (n : Nat) (reason : String) :
    Probe.distinct (List.replicate (n + 1) reason) = [reason] :=
  foldl_addReason_replicate [] n reason

/-- The reasons why a stub is not ready whose base tells a user. -/
theorem distinct_of_user (m n : Nat) :
    Probe.distinct (List.replicate m startingReason ++ List.replicate (n + 1) namelessReason) =
      if m = 0 then [namelessReason] else [startingReason, namelessReason] := by
  have hother : Probe.addReason [startingReason] namelessReason =
      [startingReason, namelessReason] := by decide +kernel
  rw [Probe.distinct, List.foldl_append, foldl_addReason_replicate]
  cases m with
  | zero => rfl
  | succ m =>
    rw [foldl_addReason_replicate]
    exact hother

/-! ## The order of a token -/

/-- What a stub objects to in an order of a token, if it does. -/
def objection? (name : String) (scopes : List String) : Option String :=
  if blank name then some "name is required"
  else (scopes.find? fun s => !stubScopes.contains s).map fun s => "unknown scope " ++ s

theorem checkOrder_of_objection (order : TokenOrder) {reason : String}
    (h : objection? order.name order.scopes = some reason) (now : Moment) :
    Stub.checkOrder now order = .error (.refusal 400 reason) := by
  rw [objection?] at h
  rw [Stub.checkOrder]
  split at h
  · rename_i hblank
    rw [if_pos hblank, Option.some.inj h]
  · rename_i hblank
    obtain ⟨scope, hscope, rfl⟩ := Option.map_eq_some_iff.mp h
    rw [if_neg hblank, hscope]

/-- An order without objections whose expiry is read as a moment in the future is filled. -/
theorem checkOrder_of_no_objection (order : TokenOrder) {now e : Moment}
    (h : objection? order.name order.scopes = none)
    (hread : Time.Rfc3339.read? order.expiresAt = some e) (hfuture : now.before e = true) :
    Stub.checkOrder now order = .ok (.issueToken order e) := by
  rw [objection?] at h
  rw [Stub.checkOrder]
  split at h
  · cases h
  · rename_i hblank
    rw [if_neg hblank, Option.map_eq_none_iff.mp h]
    dsimp only
    rw [hread]
    exact if_pos hfuture

/-- The token that a stub issues whose expiry it reads as `e`. -/
def issued (s : StubStore) (request : TokenParameters) (e : Moment) : ScopedToken where
  secret := Stub.secretOf (host.fresh (s.drawn + 1))
  id := some (host.fresh s.drawn)
  name := request.name
  scopes := Scopes.ofList request.scopes
  expiresAt := e

/-- A store that has issued it. -/
def issuing (s : StubStore) (request : TokenParameters) (expiresAt e : Moment) : StubStore :=
  let order := Token.order request expiresAt
  (Stub.issue host.fresh (s.counting (.issueToken order)) order e).1

/-- What the store then holds of it. -/
def recorded (s : StubStore) (request : TokenParameters) (e : Moment) : GrantedToken :=
  ⟨Stub.secretOf (host.fresh (s.drawn + 1)), host.fresh s.drawn, request.scopes, e⟩

theorem finds_issuing (s : StubStore) (request : TokenParameters) (expiresAt e : Moment) :
    Stub.Finds (host.issuing s request expiresAt e) (host.issued s request e).secret
      (host.recorded s request e) := by
  -- An older token with the same secret would be found first, so it is dropped.
  have hothers : (s.tokens.filter fun t => t.secret != (host.issued s request e).secret).find?
      (fun t => t.secret == (host.issued s request e).secret) = none := by
    refine List.find?_eq_none.mpr fun t ht => ?_
    have hother := (List.mem_filter.mp ht).2
    simpa using hother
  have htokens : (host.issuing s request expiresAt e).tokens =
      (s.tokens.filter fun t => t.secret != (host.issued s request e).secret) ++
        [host.recorded s request e] := rfl
  rw [Stub.Finds, htokens, List.find?_append, hothers, Option.none_or]
  exact List.find?_cons_of_pos (beq_self_eq_true _)

theorem blank_secretOf (u : Uuid) : blank (Stub.secretOf u) = false := by
  have hchars : (Stub.secretOf u).toList = 'o' :: ("rbit_".toList ++ u.simple) := by
    rw [Stub.secretOf, String.toList_append, String.toList_ofList (l := u.simple)]
    rfl
  rw [blank, hchars]
  rfl

/-- What it answers the order with. -/
def granting (s : StubStore) (request : TokenParameters) (expiresAt : Moment) : TokenGrant where
  token := Stub.secretOf (host.fresh (s.drawn + 1))
  id := some (host.fresh s.drawn)
  name := some request.name
  scopes := request.scopes
  expiresAt := some expiresAt.timestamp

/-- A grant that says all that was ordered makes the token that was ordered. -/
theorem ofGrant_of_said {request : TokenParameters} {expiresAt e : Moment} {g : TokenGrant}
    {timestamp : String} (hblank : blank g.token = false) (hname : g.name = some request.name)
    (hscopes : g.scopes = request.scopes) (hexpiry : g.expiresAt = some timestamp)
    (hread : Time.Rfc3339.read? timestamp = some e) :
    Token.ofGrant request expiresAt g =
      .ok ⟨g.token, g.id, request.name, Scopes.ofList request.scopes, e⟩ := by
  rw [Token.ofGrant, hblank, if_neg Bool.false_ne_true, hname, hscopes, hexpiry, Option.bind_some,
    hread, ite_self]
  rfl

theorem ofGrant_granting (s : StubStore) (request : TokenParameters) {expiresAt e : Moment}
    (hread : Time.Rfc3339.read? expiresAt.timestamp = some e) :
    Token.ofGrant request expiresAt (host.granting s request expiresAt) =
      .ok (host.issued s request e) :=
  ofGrant_of_said (blank_secretOf (host.fresh (s.drawn + 1))) rfl rfl rfl hread

/-- The client reads the grant as it was written. -/
theorem resultOf_granting (s : StubStore) (adminToken : String) (request : TokenParameters)
    (expiresAt : Moment) :
    resultOf ⟨201, .document (host.granting s request expiresAt).toJson⟩
      (Token.orderCall adminToken request expiresAt) = .ok (host.granting s request expiresAt) :=
  resultOf_document (c := Token.orderCall adminToken request expiresAt) rfl
    (TokenGrant.plain_toJson _) (TokenGrant.ofJson?_toJson _)

/-! ## What the order is answered with -/

theorem workOf_order (o : StubProfile) (now : Moment) (order : TokenOrder) :
    Stub.workOf o now .admin (.issueToken order) = Stub.checkOrder now order := rfl

section Order

variable {request : TokenParameters} {expiresAt e : Moment}

/-- An order of the admin's is filled if there is no objection to it and its expiry is still
to come when it arrives. -/
theorem replies_order (hb : b.Plain) (hadmin : Presentable host.options.adminToken)
    (h : objection? request.name request.scopes = none)
    (hread : Time.Rfc3339.read? expiresAt.timestamp = some e)
    (hfuture : (host.clock (arrival b lags p
      (Token.orderCall host.options.adminToken request expiresAt))).before e = true)
    (hfits : Stub.Fits (.issueToken (Token.order request expiresAt)))
    (hintime : (lagOf b lags p (Token.orderCall host.options.adminToken request expiresAt)).total ≤
      timeout.nanoseconds) :
    host.Replies b lags timeout p (Token.orderCall host.options.adminToken request expiresAt) 0
      (.ok (host.granting p.state request expiresAt))
      (host.issuing p.state request expiresAt e) := by
  have hwork : Stub.workOf host.options (host.clock (arrival b lags p
      (Token.orderCall host.options.adminToken request expiresAt))) .admin
      (.issueToken (Token.order request expiresAt)) =
      .ok (.issueToken (Token.order request expiresAt) e) :=
    (workOf_order _ _ _).trans
      (checkOrder_of_no_objection (Token.order request expiresAt) h hread hfuture)
  rw [← host.resultOf_granting p.state]
  exact replies_of_allowed (c := Token.orderCall host.options.adminToken request expiresAt) hb
    hadmin trivial hfits rfl (Stub.caller_admin _ _ _) hwork rfl rfl hintime

/-- The token of an order that was filled. -/
theorem issues_of_answers {api : Api StubStore} {q : Standing StubStore}
    (hexpiry : (host.clock p.now).add? request.ttl = some expiresAt)
    (hread : Time.Rfc3339.read? expiresAt.timestamp = some e)
    (h : api.Answers p (Token.orderCall host.options.adminToken request expiresAt)
      (.ok (host.granting p.state request expiresAt)) q) :
    Token.Issues api host.options.adminToken request (host.clock p.now) p
      (host.issued p.state request e) q := by
  have hblank : blank (host.granting p.state request expiresAt).token = false :=
    blank_secretOf (host.fresh (p.state.drawn + 1))
  exact ⟨expiresAt, host.granting p.state request expiresAt, hexpiry, h, hblank,
    host.ofGrant_granting p.state request hread⟩

/-- An order that the stub objects to is rejected. -/
theorem issueFails_of_objection (hb : b.Plain) (hadmin : Presentable host.options.adminToken)
    {reason : String} (h : objection? request.name request.scopes = some reason)
    (hexpiry : (host.clock p.now).add? request.ttl = some expiresAt)
    (hfits : Stub.Fits (.issueToken (Token.order request expiresAt)))
    (hintime : (lagOf b lags p (Token.orderCall host.options.adminToken request expiresAt)).total ≤
      timeout.nanoseconds) :
    ∃ q, Token.IssueFails (host.seenFrom b lags timeout) host.options.adminToken request
      (host.clock p.now) p (.rejected 400 (keptReason reason)) q := by
  have hwork : Stub.workOf host.options (host.clock (arrival b lags p
      (Token.orderCall host.options.adminToken request expiresAt))) .admin
      (.issueToken (Token.order request expiresAt)) = .error (.refusal 400 reason) :=
    (workOf_order _ _ _).trans (checkOrder_of_objection (Token.order request expiresAt) h _)
  obtain ⟨time, -, -, hanswers⟩ : host.Replies b lags timeout p
      (Token.orderCall host.options.adminToken request expiresAt) 0
      (.error (.status 400 (keptReason reason))) _ :=
    replies_of_forbidden (c := Token.orderCall host.options.adminToken request expiresAt) hb hadmin
      trivial hfits rfl (Stub.caller_admin _ _ _) hwork rfl hintime
  exact ⟨_, .refused hexpiry hanswers⟩

/-- So is one that is too large. -/
theorem issueFails_of_tooLarge (host : StubHost) (hb : b.Reaches)
    (hcredential : HttpClient.fitsHeader credential = true)
    (hexpiry : (host.clock p.now).add? request.ttl = some expiresAt)
    (hlarge : ¬Stub.Fits (.issueToken (Token.order request expiresAt)))
    (hintime : (lagOf b lags p (Token.orderCall credential request expiresAt)).total ≤
      timeout.nanoseconds) :
    ∃ q, Token.IssueFails (host.seenFrom b lags timeout) credential request (host.clock p.now) p
      (.rejected 413 tooLargeReason) q := by
  obtain ⟨time, -, -, hanswers⟩ := host.replies_of_tooLarge
    (c := Token.orderCall credential request expiresAt) hb hcredential trivial hlarge hintime
  rw [resultOf_tooLarge] at hanswers
  exact ⟨_, .refused hexpiry hanswers⟩

end Order

/-! ## The steps of the scenario -/

section Scenario

variable {token : ScopedToken} {config : ScenarioParameters} {now : Moment} {who : StubCaller}

/-- The order of the container that a scenario creates at a moment. -/
def containerOrder (config : ScenarioParameters) (now : Moment) : ContainerOrder :=
  { name := config.resourceName now, platform := config.platform }

/-- The task that a stub answers a creation with. -/
def taskOf (host : StubHost) (s : StubStore) : AgentTask where
  id := if host.options.omitTaskId then "" else (host.fresh s.drawn).text
  status := .queued
  kind := "container.create"

/-- A store that has created a container. -/
def creating (host : StubHost) (s : StubStore) (order : ContainerOrder) : StubStore :=
  (Stub.create host.options host.fresh (s.counting (.createContainer order)) order).1

theorem create_eq (host : StubHost) (s : StubStore) (order : ContainerOrder) :
    ∃ id drawn, Stub.create host.options host.fresh s order =
      ({ s with
          containers := s.containers ++ [⟨id, order.name, "creating", order.platform⟩]
          tasks := if host.options.dropTasks then s.tasks else s.tasks ++ [host.taskOf s]
          drawn },
        .ok (host.taskOf s).toJson) := by
  obtain ⟨id, drawn, -, heq⟩ := Stub.create_eq host.options host.fresh s order
  exact ⟨id, drawn, heq⟩

theorem creating_tokens (host : StubHost) (s : StubStore) (order : ContainerOrder) :
    (host.creating s order).tokens = s.tokens := by
  obtain ⟨id, drawn, heq⟩ := host.create_eq (s.counting (.createContainer order)) order
  rw [creating, heq]
  rfl

theorem creating_tasks (host : StubHost) (s : StubStore) (order : ContainerOrder) :
    (host.creating s order).tasks =
      if host.options.dropTasks then s.tasks else s.tasks ++ [host.taskOf s] := by
  obtain ⟨id, drawn, heq⟩ := host.create_eq (s.counting (.createContainer order)) order
  rw [creating, heq]
  rfl

theorem creating_containers (host : StubHost) (s : StubStore) (order : ContainerOrder) :
    ∃ id, (host.creating s order).containers =
      s.containers ++ [⟨id, order.name, "creating", order.platform⟩] := by
  obtain ⟨id, drawn, heq⟩ := host.create_eq (s.counting (.createContainer order)) order
  rw [creating, heq]
  exact ⟨id, rfl⟩

/-- A creation by somebody who may create containers is accepted when its time is over. -/
theorem replies_creation (hb : b.Plain) (hc : Presentable token.secret)
    (hcaller : Stub.caller host.options p.state
      (host.clock (arrival b lags p (Scenario.creation token config now))) (some token.secret) =
      .ok who)
    (hallows : Stub.allows host.options Scope.createContainers who = true)
    (hfits : Stub.Fits (.createContainer (containerOrder config now)))
    (hintime : (lagOf b lags p (Scenario.creation token config now)).total +
      host.options.createDelay.nanoseconds ≤ timeout.nanoseconds) :
    host.Replies b lags timeout p (Scenario.creation token config now)
      host.options.createDelay.nanoseconds (.ok (host.taskOf p.state))
      (host.creating p.state (containerOrder config now)) := by
  have hreply : (Stub.create host.options host.fresh (p.state.counting
      (.createContainer (containerOrder config now))) (containerOrder config now)).2 =
      .ok (host.taskOf p.state).toJson := by
    obtain ⟨id, drawn, heq⟩ := host.create_eq
      (p.state.counting (.createContainer (containerOrder config now))) (containerOrder config now)
    rw [heq]
    rfl
  have hresult : resultOf (.ok (host.taskOf p.state).toJson) (Scenario.creation token config now) =
      .ok (host.taskOf p.state) :=
    resultOf_document (c := Scenario.creation token config now) rfl (AgentTask.plain_toJson _)
      (AgentTask.ofJson?_toJson _)
  rw [← hresult]
  exact replies_of_allowed (c := Scenario.creation token config now) hb hc trivial hfits rfl hcaller
    (if_pos hallows) rfl (Prod.ext rfl hreply) hintime

/-- What a caller without the scope for it is told. -/
theorem keptReason_scope : keptReason "insufficient scope" = "insufficient scope" :=
  keptReason_of_short (by decide)

theorem replies_creation_of_forbidden (hb : b.Plain) (hc : Presentable token.secret)
    (hcaller : Stub.caller host.options p.state
      (host.clock (arrival b lags p (Scenario.creation token config now))) (some token.secret) =
      .ok who)
    (hforbids : Stub.allows host.options Scope.createContainers who = false)
    (hfits : Stub.Fits (.createContainer (containerOrder config now)))
    (hintime : (lagOf b lags p (Scenario.creation token config now)).total ≤
      timeout.nanoseconds) :
    host.Replies b lags timeout p (Scenario.creation token config now) 0
      (.error (.status 403 "insufficient scope"))
      (p.state.counting (.createContainer (containerOrder config now))) := by
  rw [← keptReason_scope]
  exact replies_of_forbidden (c := Scenario.creation token config now) hb hc trivial hfits rfl
    hcaller (if_neg (Bool.eq_false_iff.mp hforbids)) rfl hintime

/-- The task of a creation has an identifier unless it was left out. -/
theorem identifier?_taskOf (host : StubHost) (s : StubStore) :
    (host.taskOf s).identifier? =
      if host.options.omitTaskId then none else some (host.fresh s.drawn).text := by
  cases homit : host.options.omitTaskId with
  | true =>
    rw [AgentTask.identifier?, taskOf, homit, if_pos rfl, if_pos rfl]
    rfl
  | false =>
    have hsolid : ∀ c ∈ (host.fresh s.drawn).text.toList, isBlank c = false := fun c hc =>
      isBlank_of_solid (Uuid.solid_of_isPlain (Uuid.isPlain_of_mem_text hc))
    have hne : (host.fresh s.drawn).text.toList.isEmpty = false := by
      rw [List.isEmpty_eq_false_iff, Uuid.text, String.toList_ofList]
      exact List.ne_nil_of_length_eq_add_one (Uuid.length_hyphenate (Uuid.length_simple _))
    rw [AgentTask.identifier?, taskOf, homit]
    dsimp only
    rw [if_neg Bool.false_ne_true, trim_of_no_blank hsolid, hne, String.ofList_toList]

theorem select_all (tasks : List AgentTask) : Stub.select {} tasks = tasks.reverse := by
  have hpasses : tasks.reverse.filter (Stub.passes {}) = tasks.reverse :=
    List.filter_eq_self.mpr fun _ _ => rfl
  rw [Stub.select, hpasses, Stub.limitOf]
  exact List.take_of_length_le (Nat.le_of_eq List.length_reverse)

/-- The admin is told all the tasks there are, latest first. -/
theorem replies_look (host : StubHost) (hb : b.Plain) (hadmin : Presentable host.options.adminToken)
    (hintime : (lagOf b lags p (Scenario.look host.options.adminToken)).total ≤
      timeout.nanoseconds) :
    host.Replies b lags timeout p (Scenario.look host.options.adminToken) 0
      (.ok p.state.tasks.reverse) (p.state.counting (.listTasks {})) := by
  have hreply : Stub.perform host.options host.fresh (p.state.counting (.listTasks {}))
      (.listTasks {}) = (p.state.counting (.listTasks {}),
        .ok (Json.list AgentTask.toJson p.state.tasks.reverse)) := by
    rw [← select_all]
    rfl
  have hresult : resultOf (.ok (Json.list AgentTask.toJson p.state.tasks.reverse))
      (Scenario.look host.options.adminToken) = .ok p.state.tasks.reverse :=
    resultOf_document (c := Scenario.look host.options.adminToken) rfl
      (Json.Plain.list AgentTask.plain_toJson _) (Json.list?_list AgentTask.ofJson?_toJson _)
  rw [← hresult]
  exact replies_of_allowed (c := Scenario.look host.options.adminToken) hb hadmin rfl
    (Stub.fits_of_none rfl) rfl (Stub.caller_admin _ _ _) rfl rfl hreply hintime

/-- Somebody who may list containers is told them. -/
theorem replies_listing (hb : b.Plain) (hc : Presentable token.secret)
    (hcaller : Stub.caller host.options p.state
      (host.clock (arrival b lags p (Scenario.listing token))) (some token.secret) = .ok who)
    (hallows : Stub.allows host.options Scope.readContainers who = true)
    (hintime : (lagOf b lags p (Scenario.listing token)).total ≤ timeout.nanoseconds) :
    host.Replies b lags timeout p (Scenario.listing token) 0 (.ok p.state.containers)
      (p.state.counting .listContainers) := by
  have hresult : resultOf (.ok (Json.list Container.toJson p.state.containers))
      (Scenario.listing token) = .ok p.state.containers :=
    resultOf_document (c := Scenario.listing token) rfl
      (Json.Plain.list Container.plain_toJson _) (Json.list?_list Container.ofJson?_toJson _)
  rw [← hresult]
  exact replies_of_allowed (c := Scenario.listing token) hb hc trivial (Stub.fits_of_none rfl) rfl
    hcaller (if_pos hallows) rfl rfl hintime

theorem replies_listing_of_forbidden (hb : b.Plain) (hc : Presentable token.secret)
    (hcaller : Stub.caller host.options p.state
      (host.clock (arrival b lags p (Scenario.listing token))) (some token.secret) = .ok who)
    (hforbids : Stub.allows host.options Scope.readContainers who = false)
    (hintime : (lagOf b lags p (Scenario.listing token)).total ≤ timeout.nanoseconds) :
    host.Replies b lags timeout p (Scenario.listing token) 0
      (.error (.status 403 "insufficient scope")) (p.state.counting .listContainers) := by
  rw [← keptReason_scope]
  exact replies_of_forbidden (c := Scenario.listing token) hb hc trivial (Stub.fits_of_none rfl) rfl
    hcaller (if_neg (Bool.eq_false_iff.mp hforbids)) rfl hintime

/-- The stub answers every look of the admin's in time. -/
def LooksInTime (b : Bind) (lags : Lags) (timeout : Duration) (adminToken : String) : Prop :=
  ∀ p, (lagOf b lags p (Scenario.look adminToken)).total ≤ timeout.nanoseconds

/-- Looks find nothing as long as no task is recorded. -/
theorem emptyLooks_of_no_tasks (hb : b.Plain) (hadmin : Presentable host.options.adminToken)
    (hintime : LooksInTime b lags timeout host.options.adminToken) (config : ScenarioParameters)
    (n : Nat) (p : Standing StubStore) (h : p.state.tasks = []) :
    ∃ r, Scenario.EmptyLooks (host.seenFrom b lags timeout) host.options.adminToken config n p r ∧
      r.state.tasks = [] := by
  -- A look adds no task, so the next one finds none either.
  induction n generalizing p with
  | zero => exact ⟨p, .zero p, h⟩
  | succ n ih =>
    obtain ⟨time, -, -, hlook⟩ := host.replies_look hb hadmin (hintime p)
    rw [h] at hlook
    obtain ⟨r, hrest, hr⟩ := ih (Standing.later ⟨time, p.state.counting (.listTasks {})⟩
      config.taskListInterval.nanoseconds) h
    exact ⟨r, .succ hlook hrest, hr⟩

theorem seesNone_of_no_tasks (host : StubHost) (hb : b.Plain)
    (hadmin : Presentable host.options.adminToken)
    (hintime : LooksInTime b lags timeout host.options.adminToken) (config : ScenarioParameters)
    (h : p.state.tasks = []) :
    ∃ q, Scenario.SeesNone (host.seenFrom b lags timeout) host.options.adminToken config p q := by
  obtain ⟨r, hlooks, hr⟩ :=
    emptyLooks_of_no_tasks hb hadmin hintime config (config.bound - 1) p h
  obtain ⟨time, -, -, hlook⟩ := host.replies_look hb hadmin (hintime r)
  rw [hr] at hlook
  exact ⟨_, config.bound - 1, r, Nat.sub_add_cancel (by rw [config.bound_eq]; omega), hlooks, hlook⟩

/-- The first look finds the tasks that are recorded. -/
theorem seesTasks_of_look {api : Api StubStore} {adminToken : String} {q : Standing StubStore}
    (config : ScenarioParameters) (h : p.state.tasks ≠ [])
    (hlook : api.Answers p (Scenario.look adminToken) (.ok p.state.tasks.reverse) q) :
    Scenario.SeesTasks api adminToken config p p.state.tasks.reverse q :=
  ⟨p, ⟨0, by rw [config.bound_eq]; omega, .zero p⟩, hlook,
    fun hnil => h (List.reverse_eq_nil_iff.mp hnil)⟩

end Scenario

/-! ## The revocation -/

/-- The admin revokes a token that was issued. -/
theorem replies_revocation (hb : b.Plain) (hadmin : Presentable host.options.adminToken) {id : Uuid}
    (h : ∃ t ∈ p.state.tokens, t.id = id)
    (hintime : (lagOf b lags p ⟨host.options.adminToken, .revokeToken id⟩).total ≤
      timeout.nanoseconds) :
    host.Replies b lags timeout p ⟨host.options.adminToken, .revokeToken id⟩ 0 (.ok ())
      (Stub.revoke (p.state.counting (.revokeToken id)) id).1 := by
  have hany : (p.state.tokens.any fun t => t.id == id) = true := by
    obtain ⟨t, ht, hid⟩ := h
    exact List.any_eq_true.mpr ⟨t, ht, beq_iff_eq.mpr hid⟩
  have hreply : (Stub.revoke (p.state.counting (.revokeToken id)) id).2 = ⟨204, .nothing⟩ :=
    congrArg Prod.snd (if_pos hany)
  have hresult : resultOf ⟨204, .nothing⟩ ⟨host.options.adminToken, .revokeToken id⟩ = .ok () := rfl
  rw [← hresult]
  exact replies_of_allowed (c := ⟨host.options.adminToken, .revokeToken id⟩) hb hadmin trivial
    (Stub.fits_of_none rfl) rfl (Stub.caller_admin _ _ _) rfl rfl (Prod.ext rfl hreply) hintime

theorem revoke_containers (s : StubStore) (id : Uuid) :
    (Stub.revoke s id).1.containers = s.containers := by
  rw [Stub.revoke]
  split <;> rfl

end StubHost

end Shakedown
