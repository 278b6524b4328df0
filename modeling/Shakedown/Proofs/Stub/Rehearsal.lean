/-
  Shakedown.Proofs.Stub.Rehearsal

  A run that meets a stub in place of an agent: what has to hold for it, and
  how far it gets.  Requests and answers may take time, as long as everything
  is there within the limits of the run; the token has to live until the
  stages are over.  A stub that starts too slowly, or whose address tells a
  user, is never found ready; one that is ready may still refuse the order of
  the token, and otherwise the run has a token that is valid as long as it is
  used.
-/
import Shakedown.Proofs.Http.Answers
import Shakedown.Proofs.Run.Budget
import Shakedown.Proofs.Stub.Sizes
import Shakedown.Proofs.Stub.Stages
import Shakedown.Proofs.Time.Timestamp

namespace Shakedown

open Text

namespace StubHost

/-- The stub as a run meets it. -/
def metBy (host : StubHost) (lags : Lags) (config : RunParameters) : Api StubStore :=
  host.seenFrom config.launch.bind lags config.requestTimeout

/-- How long after it was made a request is answered in whole, if its caller waits for it. -/
def answeredAfter (host : StubHost) (lags : Lags) (timeout : Duration) (s : StubStore)
    (now : Nat) (r : IncomingRequest) : Nat :=
  let lag := lags s now r
  lag.total +
    (host.receive s (now + lag.request) (timeout.nanoseconds - lag.request) r).2.2

end StubHost

open StubHost

/-- A stub takes no longer for an answer than its lags and the delay of its creations. -/
theorem StubHost.answeredAfter_le {host : StubHost} {lags : Lags} {longest : Nat}
    (hlags : ∀ s now r, (lags s now r).total ≤ longest) (timeout : Duration) (s : StubStore)
    (now : Nat) (r : IncomingRequest) :
    host.answeredAfter lags timeout s now r ≤
      longest + host.options.createDelay.nanoseconds :=
  Nat.add_le_add (hlags s now r) (host.receive_delay_le s _ _ r)

namespace Run

variable {host : StubHost} {lags : Lags} {config : RunParameters} {machine : Machine}
  {agent : LaunchedAgent}

/-! ## What a run needs of a stub -/

/-- A token ordered at `p` expires at a moment that has a timestamp, and as the stub reads it,
to the millisecond, not before the stages of the run are over. -/
def TokenLasts (host : StubHost) (lags : Lags) (config : RunParameters) (agent : LaunchedAgent)
    (p : Standing StubStore) : Prop :=
  ∃ expiresAt, (host.clock p.now).add? config.token.ttl = some expiresAt ∧
    0 ≤ expiresAt.year ∧ expiresAt.year ≤ 9999 ∧
    ∀ last r, (pipeline (host.metBy lags config) config agent.process.exit? host.clock 0
        {}).ending = some (last, r) →
      ∀ time, p.now ≤ time → time ≤ last →
        (host.clock time).before expiresAt.shown.cut = true

/-- A run that meets a stub in place of an agent. -/
structure Rehearses (host : StubHost) (lags : Lags) (config : RunParameters) (machine : Machine)
    (agent : LaunchedAgent) : Prop where
  /-- The address of the agent is one that a client gets to the stub at. -/
  reaches : config.launch.bind.Reaches
  admin : config.launch.adminToken = host.options.adminToken
  presentable : Presentable host.options.adminToken
  /-- Every request is answered within the time that a call may take, -/
  prompt : ∀ s now r, host.answeredAfter lags config.requestTimeout s now r ≤
    config.requestTimeout.nanoseconds
  /-- and one for the system information within the time that a check may take. -/
  promptChecks : ∀ s now r, r.path = "/system/info" →
    host.answeredAfter lags config.requestTimeout s now r ≤
      config.probe.attemptTimeout.nanoseconds
  launched : (machine.launch config.launch 0).2 = .ok agent
  /-- The process that was launched lives until the probe is over. -/
  alive : ∀ verdict q, Probe.ComesTo (host.metBy lags config) config.launch.adminToken
    config.probe ⟨0, {}⟩ verdict q →
    ∀ time x, agent.process.exit? = some (time, x) → q.now < time
  lasts : ∀ k p, Readies (host.metBy lags config) config machine {} agent k p →
    TokenLasts host lags config agent p
  /-- The secret that the stub draws is not the admin's token by chance. -/
  drawn : Stub.secretOf (host.fresh 1) ≠ host.options.adminToken

namespace Rehearses

theorem fitsHeader (h : Rehearses host lags config machine agent) :
    HttpClient.fitsHeader config.launch.adminToken = true := by
  rw [h.admin]
  exact h.presentable.fitsHeader

/-- Every call is answered in time. -/
theorem prompt_call (h : Rehearses host lags config machine agent) (p : Standing StubStore)
    (c : Call) : (lagOf config.launch.bind lags p c).total +
      (host.receive p.state (arrival config.launch.bind lags p c)
        (config.requestTimeout.nanoseconds - (lagOf config.launch.bind lags p c).request)
        (Stub.spelledOut config.launch.bind.user? c)).2.2 ≤ config.requestTimeout.nanoseconds :=
  h.prompt p.state p.now (Stub.spelledOut config.launch.bind.user? c)

/-- So what holds it up is over in time, too. -/
theorem lag_le (h : Rehearses host lags config machine agent) (p : Standing StubStore)
    (c : Call) : (lagOf config.launch.bind lags p c).total ≤ config.requestTimeout.nanoseconds :=
  Nat.le_trans (Nat.le_add_right _ _) (h.prompt_call p c)

theorem checksInTime (h : Rehearses host lags config machine agent) :
    ChecksInTime config.launch.bind lags config.requestTimeout config.launch.adminToken
      config.probe := by
  intro p
  refine ⟨h.lag_le p _, ?_⟩
  have hcheck := h.promptChecks p.state p.now
    (Stub.spelledOut config.launch.bind.user? (Probe.check config.launch.adminToken)) rfl
  exact Nat.le_trans (Nat.le_add_right _ _) hcheck

theorem looksInTime (h : Rehearses host lags config machine agent) (adminToken : String) :
    LooksInTime config.launch.bind lags config.requestTimeout adminToken :=
  fun p => h.lag_le p _

/-- No call is answered before its request has arrived. -/
theorem exists_answers (h : Rehearses host lags config machine agent) (p : Standing StubStore)
    {c : Call} (hcredential : HttpClient.fitsHeader c.credential = true)
    (hsimple : c.request.Simple) :
    ∃ r q, (host.metBy lags config).Answers p c r q ∧
      arrival config.launch.bind lags p c ≤ q.now := by
  obtain ⟨time, hearly, -, hanswers⟩ := replies_of_receive (p := p) h.reaches hcredential hsimple
    rfl (h.prompt_call p c)
  exact ⟨_, _, hanswers, Nat.le_trans (Nat.le_add_right _ _) hearly⟩

/-- A run waits for no call longer than it may take. -/
theorem prompt_metBy (host : StubHost) (lags : Lags) (config : RunParameters) :
    (host.metBy lags config).Prompt config.requestTimeout.nanoseconds := by
  intro s now c
  rw [StubHost.metBy, StubHost.seenFrom]
  exact HttpClient.exists_delay _ _ s now c

end Rehearses

/-! ## Readiness -/

/-- The store of a stub that has just been found healthy. -/
def readyStore (o : StubProfile) : StubStore :=
  StubStore.checked {} (o.healthFailures + 1)

/-- What a run says of a stub whose address tells a user. -/
def namelessReasons (o : StubProfile) : String :=
  if o.healthFailures = 0 then namelessReason else startingReason ++ "; " ++ namelessReason

namespace Rehearses

theorem failsFirst_of_neverReady (h : Rehearses host lags config machine agent)
    {reasons : List String} {q : Standing StubStore}
    (hnever : Probe.NeverReady (host.metBy lags config) config.launch.adminToken config.probe
      reasons ⟨0, {}⟩ q) :
    FailsFirst (host.metBy lags config) config machine host.clock {} .readiness
      (.notReady config.probe.bound (Probe.joinReasons (Probe.distinct reasons))) := by
  have hlength : reasons.length = config.probe.bound := by
    obtain ⟨-, -, -, -, -, -, hlength⟩ := hnever
    exact hlength
  rw [← hlength]
  exact .readiness h.launched (.notReady hnever (h.alive _ q (.failed hnever)))

/-- A stub that starts too slowly is not ready. -/
theorem failsFirst_of_starting (h : Rehearses host lags config machine agent)
    (hstarting : config.probe.bound ≤ host.options.healthFailures) :
    FailsFirst (host.metBy lags config) config machine host.clock {} .readiness
      (.notReady config.probe.bound startingReason) := by
  obtain ⟨q, hnever⟩ := neverReady_of_starting host h.reaches h.fitsHeader h.checksInTime
    hstarting
  have hfails := h.failsFirst_of_neverReady hnever
  rw [config.probe.bound_eq, distinct_replicate] at hfails
  rw [config.probe.bound_eq]
  exact hfails

/-- One whose address tells a user is not ready either, since it looks for a token where the
user is told. -/
theorem failsFirst_of_user (h : Rehearses host lags config machine agent)
    (hstarted : host.options.healthFailures < config.probe.bound)
    (huser : config.launch.bind.user?.isSome = true) :
    FailsFirst (host.metBy lags config) config machine host.clock {} .readiness
      (.notReady config.probe.bound (namelessReasons host.options)) := by
  obtain ⟨user, huser⟩ := Option.isSome_iff_exists.mp huser
  obtain ⟨q, hnever⟩ := neverReady_of_user host h.reaches huser h.fitsHeader h.checksInTime
    hstarted
  have hfails := h.failsFirst_of_neverReady hnever
  have hlater : config.probe.bound - host.options.healthFailures =
      (config.probe.bound - host.options.healthFailures - 1) + 1 := by omega
  have hreasons : Probe.joinReasons (Probe.distinct
      (List.replicate host.options.healthFailures startingReason ++
        List.replicate (config.probe.bound - host.options.healthFailures) namelessReason)) =
      namelessReasons host.options := by
    rw [hlater, distinct_of_user, namelessReasons]
    split <;> rfl
  rw [hreasons] at hfails
  exact hfails

theorem plain_of_anonymous (h : Rehearses host lags config machine agent)
    (huser : config.launch.bind.user?.isSome = false) : config.launch.bind.Plain where
  reaches := h.reaches
  anonymous := Option.isNone_iff_eq_none.mp (by rw [← Option.not_isSome, huser]; rfl)

/-- Any other is ready with the first check that it does not fail. -/
theorem exists_readies (h : Rehearses host lags config machine agent)
    (hplain : config.launch.bind.Plain)
    (hstarted : host.options.healthFailures < config.probe.bound) :
    ∃ p, Readies (host.metBy lags config) config machine {} agent
        (host.options.healthFailures + 1) p ∧ p.state = readyStore host.options := by
  have hintime := h.checksInTime
  rw [h.admin] at hintime
  obtain ⟨p, hready, hstate⟩ := readyAfter_of_started hplain h.presentable hintime hstarted
  rw [← h.admin] at hready
  exact ⟨p, ⟨h.launched, hready, h.alive _ p (.ready hready)⟩, hstate⟩

end Rehearses

/-! ## The token -/

namespace Rehearses

/-- An order that is too large is rejected. -/
theorem failsFirst_of_large_order (h : Rehearses host lags config machine agent)
    (hplain : config.launch.bind.Plain)
    (hstarted : host.options.healthFailures < config.probe.bound)
    (hlarge : Stub.bodyLimit < config.token.orderSize) :
    FailsFirst (host.metBy lags config) config machine host.clock {} .issuance
      (.noToken (.rejected 413 tooLargeReason)) := by
  obtain ⟨p, hready, -⟩ := h.exists_readies hplain hstarted
  obtain ⟨expiresAt, hexpiry, hyear, hyear', -⟩ := h.lasts _ p hready
  have hunfit : ¬Stub.Fits (.issueToken (Token.order config.token expiresAt)) := by
    rw [Stub.fits_iff, Token.size_order config.token hyear hyear']
    exact Nat.not_le.mpr hlarge
  obtain ⟨q, hfails⟩ := issueFails_of_tooLarge host h.reaches h.fitsHeader hexpiry hunfit
    (h.lag_le p _)
  exact .issuance hready hfails

/-- So is one that the stub objects to. -/
theorem failsFirst_of_objection (h : Rehearses host lags config machine agent)
    (hplain : config.launch.bind.Plain)
    (hstarted : host.options.healthFailures < config.probe.bound)
    (hsize : config.token.orderSize ≤ Stub.bodyLimit) {reason : String}
    (hobjection : objection? config.token.name config.token.scopes = some reason) :
    FailsFirst (host.metBy lags config) config machine host.clock {} .issuance
      (.noToken (.rejected 400 (keptReason reason))) := by
  obtain ⟨p, hready, -⟩ := h.exists_readies hplain hstarted
  obtain ⟨expiresAt, hexpiry, hyear, hyear', -⟩ := h.lasts _ p hready
  have hfits : Stub.Fits (.issueToken (Token.order config.token expiresAt)) := by
    rw [Stub.fits_iff, Token.size_order config.token hyear hyear']
    exact hsize
  obtain ⟨q, hfails⟩ := issueFails_of_objection hplain h.presentable hobjection hexpiry hfits
    (h.lag_le p _)
  rw [← h.admin] at hfails
  exact .issuance hready hfails

end Rehearses

/-- The token that a run is issued whose expiry the stub reads as `e`. -/
def suppliedToken (host : StubHost) (config : RunParameters) (e : Moment) : ScopedToken :=
  host.issued (readyStore host.options) config.token e

/-- What the stub holds of it. -/
def heldToken (host : StubHost) (config : RunParameters) (e : Moment) : GrantedToken :=
  host.recorded (readyStore host.options) config.token e

/-- What the stub remembers when it has issued it. -/
def suppliedStore (host : StubHost) (config : RunParameters) (expiresAt e : Moment) :
    StubStore :=
  host.issuing (readyStore host.options) config.token expiresAt e

/-- A run that meets a stub and has a token at `start`, which is valid until the stages are
over at `last`. -/
structure Equipped (host : StubHost) (lags : Lags) (config : RunParameters) (machine : Machine)
    (agent : LaunchedAgent) (expiresAt e : Moment) (start last : Standing StubStore) : Prop
    extends Rehearses host lags config machine agent where
  plain : config.launch.bind.Plain
  supplies : Supplies (host.metBy lags config) config machine host.clock {} agent
    (host.options.healthFailures + 1) (suppliedToken host config e) start
  state : start.state = suppliedStore host config expiresAt e
  ends : ∃ x, stagesOutcome (host.metBy lags config) config agent host.clock {} = some (x, last)
  valid : ∀ time, start.now ≤ time → time ≤ last.now → (host.clock time).before e = true

/-- A run whose order is without objections has a token. -/
theorem Rehearses.exists_equipped (h : Rehearses host lags config machine agent)
    (hplain : config.launch.bind.Plain)
    (hstarted : host.options.healthFailures < config.probe.bound)
    (hsize : config.token.orderSize ≤ Stub.bodyLimit)
    (hobjection : objection? config.token.name config.token.scopes = none) :
    ∃ expiresAt e start last, Equipped host lags config machine agent expiresAt e start last := by
  obtain ⟨⟨now, s⟩, hready, hstate⟩ := h.exists_readies hplain hstarted
  obtain rfl : s = readyStore host.options := hstate
  obtain ⟨expiresAt, hexpiry, hyear, hyear', hlasts⟩ := h.lasts _ _ hready
  obtain ⟨x, last, hends, -⟩ := exists_stagesOutcome (Rehearses.prompt_metBy host lags config)
    config agent host.clock {}
  have hvalid : ∀ time, now ≤ time → time ≤ last.now →
      (host.clock time).before expiresAt.shown.cut = true :=
    hlasts last.now x (Trace.ending_of_outcome? hends).1
  -- The order is answered, and so it has arrived, before the stages are over.
  obtain ⟨r, q, hanswers, harrives⟩ := h.exists_answers ⟨now, readyStore host.options⟩
    (c := Token.orderCall config.launch.adminToken config.token expiresAt) h.fitsHeader trivial
  have hfuture : (host.clock (arrival config.launch.bind lags ⟨now, readyStore host.options⟩
      (Token.orderCall config.launch.adminToken config.token expiresAt))).before
      expiresAt.shown.cut = true :=
    hvalid _ (le_arrival _ _ ⟨now, readyStore host.options⟩ _)
      (Nat.le_trans harrives (le_of_order hready hexpiry hanswers hends))
  have hread := Moment.read?_timestamp_shown (Moment.nanos_add? hexpiry) ⟨hyear, hyear'⟩
  have hfits : Stub.Fits (.issueToken (Token.order config.token expiresAt)) := by
    rw [Stub.fits_iff, Token.size_order config.token hyear hyear']
    exact hsize
  rw [h.admin] at hfuture
  obtain ⟨time, hearly, -, hgranted⟩ := replies_order hplain h.presentable hobjection hread hfuture
    hfits (h.lag_le _ _)
  have hissues := issues_of_answers hexpiry hread hgranted
  rw [← h.admin] at hissues
  have hstart : now ≤ time := Nat.le_trans (le_arrival _ _ ⟨now, _⟩ _) hearly
  exact ⟨expiresAt, expiresAt.shown.cut, _, last,
    { toRehearses := h
      plain := hplain
      supplies := ⟨_, hready, hissues⟩
      state := rfl
      ends := ⟨x, hends⟩
      valid := fun time' hlow hhigh => hvalid time' (Nat.le_trans hstart hlow) hhigh }⟩

/-- The scenario starts within the time that the stages may take. -/
theorem Equipped.start_le {expiresAt e : Moment} {start last : Standing StubStore}
    (h : Equipped host lags config machine agent expiresAt e start last) :
    start.now ≤ longest config config.requestTimeout.nanoseconds := by
  obtain ⟨x, hends⟩ := h.ends
  obtain ⟨x', last', hends', hlast⟩ := exists_stagesOutcome
    (Rehearses.prompt_metBy host lags config) config agent host.clock {}
  obtain ⟨-, rfl⟩ := Prod.mk.inj (Option.some.inj (hends.symm.trans hends'))
  exact Nat.le_trans (le_of_supplies h.supplies hends) hlast

end Run

end Shakedown
