/-
  Shakedown.Proofs.Run.CallOrder

  The order of the calls of a run and the credential of each.  What a call
  may rest on is told by the log in front of it: how far the run is, which
  token it was issued, and what the calls before were answered.  Every stage
  keeps that rule, so a whole run does, and what a cancellation leaves of it.
-/
import Shakedown.Proofs.Agent.Machine
import Shakedown.Proofs.Plan.Log
import Shakedown.Proofs.Readiness
import Shakedown.Proofs.Run.Interruption
import Shakedown.Proofs.Scenario.Outcome
import Shakedown.Proofs.Token.Issue

namespace Shakedown

variable {σ : Type}

/-! ## Words of calls -/

/-- What a call is about, whatever it carries. -/
inductive CallKind where
  | health
  | systemInfo
  | issueToken
  | revokeToken
  | createContainer
  | listContainers
  | listTasks
deriving DecidableEq, Repr

/-- What a request is about. -/
def Request.kind : Request → CallKind
  | .health => .health
  | .systemInfo => .systemInfo
  | .issueToken _ => .issueToken
  | .revokeToken _ => .revokeToken
  | .createContainer _ => .createContainer
  | .listContainers => .listContainers
  | .listTasks _ => .listTasks

/-- What each of some calls is about. -/
def kinds (calls : List TimedCall) : List CallKind :=
  calls.map fun c => c.call.request.kind

/-- One more call adds what it is about. -/
theorem kinds_snoc (log : List TimedCall) (c : TimedCall) :
    kinds (log ++ [c]) = kinds log ++ [c.call.request.kind] :=
  List.map_append

/-- So many health checks. -/
def checksWord (k : Nat) : List CallKind :=
  List.replicate k .health

/-- Health checks, the order of a token, the creation of a container and looks at
the list of tasks; then perhaps the listing of containers, and perhaps the
revocation of the token. -/
def callWord (k m : Nat) (lists revokes : Bool) : List CallKind :=
  checksWord k ++ [.issueToken, .createContainer] ++ List.replicate m .listTasks ++
    (if lists then [.listContainers] else []) ++ if revokes then [.revokeToken] else []

theorem checksWord_succ (k : Nat) : checksWord (k + 1) = checksWord k ++ [.health] :=
  List.replicate_succ'

theorem callWord_look (k m : Nat) :
    callWord k (m + 1) false false = callWord k m false false ++ [.listTasks] := by
  simp only [callWord, List.replicate_succ', Bool.false_eq_true, if_false, List.append_nil,
    List.append_assoc]

theorem callWord_listing (k m : Nat) :
    callWord k m true false = callWord k m false false ++ [.listContainers] := by
  simp only [callWord, Bool.false_eq_true, if_false, if_true, List.append_nil]

theorem callWord_revocation (k m : Nat) (lists : Bool) :
    callWord k m lists true = callWord k m lists false ++ [.revokeToken] := by
  simp only [callWord, Bool.false_eq_true, if_false, if_true, List.append_nil]

theorem callWord_zero (k : Nat) :
    callWord k 0 false false = checksWord k ++ [.issueToken] ++ [.createContainer] := by
  simp only [callWord, Bool.false_eq_true, if_false, List.append_nil, List.replicate_zero,
    List.append_assoc, List.cons_append, List.nil_append]

theorem count_createContainer_callWord (k m : Nat) (lists revokes : Bool) :
    (callWord k m lists revokes).count .createContainer = 1 := by
  have hchecks : (checksWord k).count .createContainer = 0 := by
    rw [checksWord, List.count_replicate]
    rfl
  have hlooks : (List.replicate m CallKind.listTasks).count .createContainer = 0 := by
    rw [List.count_replicate]
    rfl
  simp only [callWord, List.count_append, hchecks, hlooks]
  cases lists <;> cases revokes <;> rfl

/-! ## What the calls of a run rest on -/

/-- By a time, a token was issued in the run that a log is of: its order was
granted, and this is the token of the grant. -/
def Issued (api : Api σ) (s : σ) (config : RunParameters) (log : List TimedCall) (now : Nat)
    (token : ScopedToken) : Prop :=
  ∃ expiresAt grant,
    api.Told s log now (Token.orderCall config.launch.adminToken config.token expiresAt)
      (.ok grant) ∧
    Token.ofGrant config.token expiresAt grant = .ok token

/-- By a time, a creation was accepted with an identifier. -/
def Accepted (api : Api σ) (s : σ) (log : List TimedCall) (now : Nat) : Prop :=
  ∃ credential order accepted,
    api.Told s log now ⟨credential, .createContainer order⟩ (.ok accepted) ∧
    AgentTask.identifier? accepted ≠ none

/-- By a time, a look at the list of tasks found some. -/
def Seen (api : Api σ) (s : σ) (log : List TimedCall) (now : Nat) : Prop :=
  ∃ credential filter tasks,
    api.Told s log now ⟨credential, .listTasks filter⟩ (.ok tasks) ∧ tasks ≠ ([] : List AgentTask)

/-- A call that a run may make after a log: where in the order it stands, which
credential it carries, and what must have been answered before it starts. -/
inductive Permitted (api : Api σ) (s : σ) (config : RunParameters) (log : List TimedCall) :
    TimedCall → Prop where
  | health {k t : Nat} (horder : kinds log = checksWord k) (hk : k < config.probe.bound) :
      Permitted api s config log ⟨t, config.launch.adminToken, .health⟩
  | issueToken {k t : Nat} {order : TokenOrder} (horder : kinds log = checksWord k)
      (hk : k ≤ config.probe.bound) :
      Permitted api s config log ⟨t, config.launch.adminToken, .issueToken order⟩
  | createContainer {k t : Nat} {order : ContainerOrder} {token : ScopedToken}
      (horder : kinds log = checksWord k ++ [.issueToken]) (hk : k ≤ config.probe.bound)
      (hissued : Issued api s config log t token) :
      Permitted api s config log ⟨t, token.secret, .createContainer order⟩
  | listTasks {k m t : Nat} {filter : TaskFilter}
      (horder : kinds log = callWord k m false false) (hk : k ≤ config.probe.bound)
      (hm : m < config.scenario.bound) (haccepted : Accepted api s log t) :
      Permitted api s config log ⟨t, config.launch.adminToken, .listTasks filter⟩
  | listContainers {k m t : Nat} {token : ScopedToken}
      (horder : kinds log = callWord k m false false) (hk : k ≤ config.probe.bound)
      (hm : m ≤ config.scenario.bound) (hissued : Issued api s config log t token)
      (hscope : token.holds Scope.readContainers = false) (hseen : Seen api s log t) :
      Permitted api s config log ⟨t, token.secret, .listContainers⟩
  | revokeToken {k m t : Nat} {lists : Bool} {id : Uuid} {token : ScopedToken}
      (horder : kinds log = callWord k m lists false) (hk : k ≤ config.probe.bound)
      (hm : m ≤ config.scenario.bound) (hissued : Issued api s config log t token)
      (hid : token.id = some id) :
      Permitted api s config log ⟨t, config.launch.adminToken, .revokeToken id⟩

/-- Calls that are the first ones of a word in the order. -/
def InOrder (config : RunParameters) (calls : List TimedCall) : Prop :=
  ∃ k m lists revokes, k ≤ config.probe.bound ∧ m ≤ config.scenario.bound ∧
    kinds calls <+: callWord k m lists revokes

variable {api : Api σ} {s : σ} {config : RunParameters} {log : List TimedCall} {now : Nat}
  {token : ScopedToken}

theorem Issued.mono {later : Nat} (h : Issued api s config log now token)
    (more : List TimedCall) (hle : now ≤ later) :
    Issued api s config (log ++ more) later token := by
  obtain ⟨expiresAt, grant, htold, htoken⟩ := h
  exact ⟨expiresAt, grant, htold.mono more hle, htoken⟩

theorem Accepted.mono {later : Nat} (h : Accepted api s log now) (more : List TimedCall)
    (hle : now ≤ later) : Accepted api s (log ++ more) later := by
  obtain ⟨credential, order, accepted, htold, hid⟩ := h
  exact ⟨credential, order, accepted, htold.mono more hle, hid⟩

theorem checksWord_prefix (k m : Nat) (lists revokes : Bool) :
    checksWord k <+: callWord k m lists revokes := by
  simp only [callWord, List.append_assoc]
  exact List.prefix_append _ _

/-- A call that may be made leaves the calls in order. -/
theorem Permitted.inOrder {c : TimedCall} (h : Permitted api s config log c) :
    InOrder config (log ++ [c]) := by
  have hzero : 0 ≤ config.scenario.bound := Nat.zero_le _
  unfold InOrder
  rw [kinds_snoc]
  cases h with
  | @health k t horder hk =>
    refine ⟨k + 1, 0, false, false, hk, hzero, ?_⟩
    rw [horder, show Request.kind .health = .health from rfl, ← checksWord_succ]
    exact checksWord_prefix (k + 1) 0 false false
  | @issueToken k t order horder hk =>
    refine ⟨k, 0, false, false, hk, hzero, ?_⟩
    rw [horder, callWord_zero]
    exact List.prefix_append _ _
  | @createContainer k t order token horder hk hissued =>
    refine ⟨k, 0, false, false, hk, hzero, ?_⟩
    rw [horder, callWord_zero]
    exact List.prefix_rfl
  | @listTasks k m t filter horder hk hm haccepted =>
    refine ⟨k, m + 1, false, false, hk, hm, ?_⟩
    rw [horder, callWord_look]
    exact List.prefix_rfl
  | @listContainers k m t token horder hk hm hissued hscope hseen =>
    refine ⟨k, m, true, false, hk, hm, ?_⟩
    rw [horder, callWord_listing]
    exact List.prefix_rfl
  | @revokeToken k m t lists id token horder hk hm hissued hid =>
    refine ⟨k, m, lists, true, hk, hm, ?_⟩
    rw [horder, callWord_revocation]
    exact List.prefix_rfl

/-- Calls that may each be made are in order. -/
theorem inOrder_of_lawful {calls : List TimedCall}
    (h : Lawful (Permitted api s config) [] calls) : InOrder config calls := by
  -- The last call tells where in the word the calls have got to.
  rcases List.eq_nil_or_concat calls with rfl | ⟨before, c, rfl⟩
  · exact ⟨0, 0, false, false, Nat.zero_le _, Nat.zero_le _, List.nil_prefix⟩
  · rw [List.concat_eq_append] at h ⊢
    have hc := h.allowed
    rw [List.nil_append] at hc
    exact hc.inOrder

/-! ## Readiness -/

/-- The rule of the probe: one more health check. -/
def PermittedCheck (config : RunParameters) (log : List TimedCall) (c : TimedCall) : Prop :=
  ∃ k t, kinds log = checksWord k ∧ k < config.probe.bound ∧
    c = ⟨t, Probe.check config.launch.adminToken⟩

theorem PermittedCheck.permitted {c : TimedCall} (h : PermittedCheck config log c) :
    Permitted api s config log c := by
  obtain ⟨k, t, horder, hk, rfl⟩ := h
  exact .health horder hk

/-- Calls that keep the rule of the probe are checks, no more than may be made. -/
theorem kinds_of_checks {calls : List TimedCall} (h : Lawful (PermittedCheck config) log calls)
    {k : Nat} (horder : kinds log = checksWord k) (hk : k ≤ config.probe.bound) :
    ∃ n, n ≤ config.probe.bound ∧ kinds (log ++ calls) = checksWord n := by
  induction calls generalizing log k with
  | nil =>
    rw [List.append_nil]
    exact ⟨k, hk, horder⟩
  | cons c rest ih =>
    obtain ⟨k', t, horder', hk', rfl⟩ := h.1
    have hnext : kinds (log ++ [⟨t, Probe.check config.launch.adminToken⟩]) =
        checksWord (k' + 1) := by
      rw [kinds_snoc, horder', checksWord_succ]
      rfl
    have hrest := ih h.2 hnext hk'
    rw [List.append_assoc, List.singleton_append] at hrest
    exact hrest

/-- Checks that may still be made keep the rule. -/
theorem keeps_checks {more k : Nat} (horder : kinds log = checksWord k)
    (hmore : k + more < config.probe.bound) (attempt : Nat) (reasons : List String) :
    (Probe.checks config.launch.adminToken config.probe more attempt reasons).Keeps api s
      (PermittedCheck config) (fun _ _ _ => True) log now := by
  -- Every check made leaves one less, so the bound is kept by `k + more`.
  have hcheck : ∀ {log : List TimedCall} {k : Nat} (t : Nat), kinds log = checksWord k →
      kinds (log ++ [⟨t, Probe.check config.launch.adminToken⟩]) = checksWord (k + 1) := by
    intro log k t horder
    rw [kinds_snoc, horder, checksWord_succ]
    rfl
  induction more generalizing log k now attempt reasons with
  | zero =>
    have hcall : PermittedCheck config log ⟨now, Probe.check config.launch.adminToken⟩ :=
      ⟨k, now, horder, hmore, rfl⟩
    rw [Probe.checks]
    refine Plan.keeps_askWithin hcall ?_
    intro r later
    cases Probe.failure? config.probe.attemptTimeout r with
    | none => exact Plan.keeps_done trivial
    | some reason => exact Plan.keeps_done trivial
  | succ more ih =>
    have hcall : PermittedCheck config log ⟨now, Probe.check config.launch.adminToken⟩ :=
      ⟨k, now, horder, by omega, rfl⟩
    rw [Probe.checks]
    refine Plan.keeps_askWithin hcall ?_
    intro r later
    cases Probe.failure? config.probe.attemptTimeout r with
    | none => exact Plan.keeps_done trivial
    | some reason => exact Plan.keeps_pause (ih (hcheck now horder) (by omega) _ _)

/-- The race against the exit makes no calls but those of the probe. -/
theorem race_calls (start : Nat) (exit : Option (Nat × ProcessExit)) (probe : Trace ProbeVerdict) :
    (Readiness.race start exit probe).calls <+: probe.calls := by
  cases exit with
  | none => exact List.prefix_rfl
  | some e =>
    rw [Readiness.race]
    split
    · exact List.prefix_rfl
    · exact Trace.callsOf_eventsBefore_prefix e.1 probe.events

theorem stage_of_race {start later : Nat} {exit : Option (Nat × ProcessExit)}
    {probe : Trace ProbeVerdict} {f : RunFailure}
    (h : (Readiness.race start exit probe).ending = some (later, .error f)) :
    f.stage = .readiness := by
  have hverdict : ∀ {ending : Option (Nat × ProbeVerdict)},
      (ending.map fun e => (e.1, Readiness.ofVerdict e.2)) = some (later, .error f) →
      f.stage = .readiness := by
    intro ending hend
    obtain ⟨⟨t, verdict⟩, -, heq⟩ := Option.map_eq_some_iff.mp hend
    cases verdict with
    | ready attempts => exact nomatch (Prod.mk.inj heq).2
    | failed attempts reason =>
      rw [← Except.error.inj (Prod.mk.inj heq).2]
      rfl
  cases exit with
  | none => exact hverdict h
  | some e =>
    rw [Readiness.race] at h
    split at h
    · exact hverdict h
    · rw [← Except.error.inj (Prod.mk.inj (Option.some.inj h)).2]
      rfl

/-- The wait for readiness makes health checks only, and fails in its own stage. -/
theorem keeps_await (exit : Option (Nat × ProcessExit)) :
    (Readiness.await api config.launch.adminToken config.probe exit 0 s).Keeps
      (Permitted api s config)
      (fun r log _ => (∃ k, k ≤ config.probe.bound ∧ kinds log = checksWord k) ∧
        ∀ f, r = .error f → f.stage = .readiness) [] := by
  have hmore : 0 + (config.probe.attempts - 1) < config.probe.bound := by
    have hbound := config.probe.bound_eq
    omega
  have hprobe : (Probe.plan config.launch.adminToken config.probe).Keeps api s
      (PermittedCheck config) (fun _ _ _ => True) [] 0 := keeps_checks rfl hmore 1 []
  have hchecks : Lawful (PermittedCheck config) []
      (Readiness.await api config.launch.adminToken config.probe exit 0 s).calls :=
    hprobe.calls.of_prefix (race_calls 0 exit _)
  constructor
  · exact hchecks.mono fun log c h => h.permitted
  · intro later r hend
    refine ⟨kinds_of_checks hchecks rfl (Nat.zero_le _), ?_⟩
    rintro f rfl
    exact stage_of_race hend

/-! ## Issuance -/

/-- Issuance follows the checks with the order of the token, if it gets so far. -/
theorem keeps_issue (api : Api σ) (s : σ) (moment : Moment) {k : Nat}
    (horder : kinds log = checksWord k) (hk : k ≤ config.probe.bound) :
    (Token.issue config.launch.adminToken config.token moment).Keeps api s
      (Permitted api s config)
      (fun r log now => .createContainer ∉ kinds log ∧ ∀ token, r = .ok token →
        kinds log = checksWord k ++ [.issueToken] ∧ Issued api s config log now token)
      log now := by
  have hchecks : CallKind.createContainer ∉ checksWord k := by
    intro hmem
    cases List.eq_of_mem_replicate hmem
  cases hexpiry : moment.add? config.token.ttl with
  | none =>
    rw [Token.issue_of_no_expiry hexpiry]
    refine Plan.keeps_done ⟨?_, ?_⟩
    · rw [horder]
      exact hchecks
    · intro token htoken
      cases htoken
  | some expiresAt =>
    rw [Token.issue_of_expiry hexpiry]
    refine Plan.keeps_ask (.issueToken horder hk) ?_
    intro r q hanswers
    have hkinds : kinds (log ++
        [⟨now, Token.orderCall config.launch.adminToken config.token expiresAt⟩]) =
        checksWord k ++ [.issueToken] := by
      rw [kinds_snoc, horder]
      rfl
    refine Plan.keeps_done ⟨?_, ?_⟩
    · rw [hkinds]
      intro hmem
      rcases List.mem_append.mp hmem with hmem | hmem
      · exact hchecks hmem
      · cases List.mem_singleton.mp hmem
    · intro token htoken
      refine ⟨hkinds, ?_⟩
      cases r with
      | error f => cases htoken
      | ok grant => exact ⟨expiresAt, grant, hanswers.told, htoken⟩

/-! ## The scenario -/

/-- Where a run stands that has had a creation accepted and looked at the tasks
some times. -/
structure AfterLooks (api : Api σ) (s : σ) (config : RunParameters) (token : ScopedToken)
    (k m : Nat) (log : List TimedCall) (now : Nat) : Prop where
  order : kinds log = callWord k m false false
  checks : k ≤ config.probe.bound
  looks : m ≤ config.scenario.bound
  issued : Issued api s config log now token

/-- What the scenario leaves behind: the calls it made, in order, and the token. -/
def AfterScenario (api : Api σ) (s : σ) (config : RunParameters) (token : ScopedToken)
    (log : List TimedCall) (now : Nat) : Prop :=
  Issued api s config log now token ∧
    ∃ k m lists, k ≤ config.probe.bound ∧ m ≤ config.scenario.bound ∧
      kinds log = callWord k m lists false

namespace AfterLooks

variable {k m : Nat}

theorem scenario (h : AfterLooks api s config token k m log now) :
    AfterScenario api s config token log now :=
  ⟨h.issued, k, m, false, h.checks, h.looks, h.order⟩

theorem later (h : AfterLooks api s config token k m log now) (length : Nat) :
    AfterLooks api s config token k m log (now + length) := by
  have hissued := h.issued.mono [] (Nat.le_add_right now length)
  rw [List.append_nil] at hissued
  exact ⟨h.order, h.checks, h.looks, hissued⟩

/-- One more look. -/
theorem look (h : AfterLooks api s config token k m log now) (hm : m < config.scenario.bound)
    {r : Except ApiFault (List AgentTask)} {q : Standing σ}
    (hanswers : api.Answers ⟨now, api.after s log⟩ (Scenario.look config.launch.adminToken) r q) :
    AfterLooks api s config token k (m + 1)
      (log ++ [⟨now, Scenario.look config.launch.adminToken⟩]) q.now where
  order := by
    rw [kinds_snoc, h.order, callWord_look]
    rfl
  checks := h.checks
  looks := hm
  issued := h.issued.mono _ hanswers.le

end AfterLooks

theorem seen_of_answers {q : Standing σ} {tasks : List AgentTask}
    (h : api.Answers ⟨now, api.after s log⟩ (Scenario.look config.launch.adminToken) (.ok tasks) q)
    (hne : tasks ≠ []) :
    Seen api s (log ++ [⟨now, Scenario.look config.launch.adminToken⟩]) q.now :=
  ⟨config.launch.adminToken, {}, tasks, h.told, hne⟩

/-- The looks that may still be made are made, and tasks found are tasks seen. -/
theorem keeps_looks {k m more interval : Nat}
    (h : AfterLooks api s config token k m log now) (haccepted : Accepted api s log now)
    (hmore : m + more < config.scenario.bound) :
    (Scenario.looks config.launch.adminToken interval more).Keeps api s
      (Permitted api s config)
      (fun r log now => (∃ m, AfterLooks api s config token k m log now) ∧
        ∀ tasks, r = .ok tasks → tasks ≠ [] → Seen api s log now) log now := by
  -- On the looks left, with `m` made: `m + more` stays below the bound.
  induction more generalizing m log now with
  | zero =>
    refine Plan.keeps_ask (.listTasks h.order h.checks hmore haccepted) ?_
    intro r q hanswers
    refine Plan.keeps_done ⟨⟨m + 1, h.look hmore hanswers⟩, ?_⟩
    rintro tasks rfl hne
    exact seen_of_answers hanswers hne
  | succ more ih =>
    have hm : m < config.scenario.bound := by omega
    rw [Scenario.looks]
    refine Plan.keeps_ask (.listTasks h.order h.checks hm haccepted) ?_
    intro r q hanswers
    have hlooked := h.look hm hanswers
    rcases r with f | _ | ⟨task, tasks⟩
    · refine Plan.keeps_done ⟨⟨m + 1, hlooked⟩, ?_⟩
      intro tasks heq
      cases heq
    · have hlater : now ≤ q.now + interval := Nat.le_trans hanswers.le (Nat.le_add_right _ _)
      exact Plan.keeps_pause (ih (hlooked.later interval) (haccepted.mono _ hlater) (by omega))
    · refine Plan.keeps_done ⟨⟨m + 1, hlooked⟩, ?_⟩
      rintro tasks' heq hne
      obtain rfl := Except.ok.inj heq
      exact seen_of_answers hanswers hne

/-- Containers are listed only with the token, without its scope for that, and
once tasks were seen. -/
theorem keeps_checkRefusal {k m : Nat} {o : ScenarioFindings}
    (h : AfterLooks api s config token k m log now) (hseen : Seen api s log now) :
    (Scenario.checkRefusal token o).Keeps api s (Permitted api s config)
      (fun _ log now => AfterScenario api s config token log now) log now := by
  cases hscope : token.holds Scope.readContainers with
  | true =>
    rw [Scenario.checkRefusal_of_holds hscope]
    exact Plan.keeps_done h.scenario
  | false =>
    rw [Scenario.checkRefusal, if_neg (Bool.eq_false_iff.mp hscope)]
    refine Plan.keeps_ask (.listContainers h.order h.checks h.looks h.issued hscope hseen) ?_
    intro r q hanswers
    have hdone : AfterScenario api s config token (log ++ [⟨now, token.secret, .listContainers⟩])
        q.now := by
      refine ⟨h.issued.mono _ hanswers.le, k, m, true, h.checks, h.looks, ?_⟩
      rw [kinds_snoc, h.order, callWord_listing]
      rfl
    cases r with
    | ok containers => exact Plan.keeps_done hdone
    | error f => exact Plan.keeps_done hdone

theorem keeps_afterCreation {k : Nat} {taskId : String} {o : ScenarioFindings}
    (h : AfterLooks api s config token k 0 log now) (haccepted : Accepted api s log now) :
    (Scenario.afterCreation config.launch.adminToken token config.scenario taskId o).Keeps api s
      (Permitted api s config)
      (fun _ log now => AfterScenario api s config token log now) log now := by
  have hmore : 0 + (config.scenario.taskListAttempts - 1) < config.scenario.bound := by
    have hbound := config.scenario.bound_eq
    omega
  refine Plan.keeps_bind (keeps_looks h haccepted hmore) ?_
  rintro r log' later ⟨⟨m, hlooks⟩, hseen⟩
  rcases r with f | _ | ⟨task, tasks⟩
  · exact Plan.keeps_done hlooks.scenario
  · exact Plan.keeps_done hlooks.scenario
  · exact keeps_checkRefusal hlooks (hseen _ rfl (List.cons_ne_nil task tasks))

/-- The scenario creates one container with the issued token, and goes on only if
that was accepted with an identifier. -/
theorem keeps_scenario {k : Nat} {moment : Moment}
    (horder : kinds log = checksWord k ++ [.issueToken]) (hk : k ≤ config.probe.bound)
    (hissued : Issued api s config log now token) :
    (Scenario.plan config.launch.adminToken token config.scenario moment).Keeps api s
      (Permitted api s config)
      (fun _ log now => AfterScenario api s config token log now) log now := by
  refine Plan.keeps_ask (.createContainer horder hk hissued) ?_
  intro r q hanswers
  have hcreated : AfterLooks api s config token k 0
      (log ++ [⟨now, Scenario.creation token config.scenario moment⟩]) q.now := by
    refine ⟨?_, hk, Nat.zero_le _, hissued.mono _ hanswers.le⟩
    rw [kinds_snoc, horder, callWord_zero]
    rfl
  cases r with
  | error f => exact Plan.keeps_done hcreated.scenario
  | ok accepted =>
    dsimp only
    cases hid : AgentTask.identifier? accepted with
    | none => exact Plan.keeps_done hcreated.scenario
    | some taskId =>
      refine keeps_afterCreation hcreated ⟨_, _, accepted, hanswers.told, ?_⟩
      rw [hid]
      exact Option.some_ne_none taskId

/-! ## The whole run -/

/-- The revocation is at most one call more. -/
theorem keeps_revoke (h : AfterScenario api s config token log now) :
    (Run.revoke config token).Keeps api s (Permitted api s config)
      (fun _ log _ => ∃ k m lists revokes, kinds log = callWord k m lists revokes) log now := by
  obtain ⟨hissued, k, m, lists, hk, hm, horder⟩ := h
  cases hwanted : config.revokeToken with
  | false =>
    rw [Run.revoke, hwanted, if_neg Bool.false_ne_true]
    exact Plan.keeps_done ⟨k, m, lists, false, horder⟩
  | true =>
    rw [Run.revoke, if_pos hwanted, Token.revoke]
    cases hid : token.id with
    | none => exact Plan.keeps_done ⟨k, m, lists, false, horder⟩
    | some id =>
      refine Plan.keeps_ask (.revokeToken horder hk hm hissued hid) ?_
      intro r q hanswers
      have hrevoked : kinds (log ++ [⟨now, config.launch.adminToken, .revokeToken id⟩]) =
          callWord k m lists true := by
        rw [kinds_snoc, horder, callWord_revocation]
        rfl
      cases r with
      | error f => exact Plan.keeps_done ⟨k, m, lists, true, hrevoked⟩
      | ok u => exact Plan.keeps_done ⟨k, m, lists, true, hrevoked⟩

/-- What a run that failed in a stage has called. -/
def LogOfStage (log : List TimedCall) : RunStage → Prop
  | .configure => log = []
  | .launch => log = []
  | .readiness => ∀ kind ∈ kinds log, kind = .health
  | .issuance => .createContainer ∉ kinds log
  | .scenario => (kinds log).count .createContainer = 1
  | .interrupted => True

/-- What the stages come to is in keeping with the calls they made. -/
def LogTells (r : Except RunFailure RunFindings) (log : List TimedCall) (_now : Nat) : Prop :=
  ∀ f, r = .error f → LogOfStage log f.stage

theorem keeps_exercise (readyAfter : Nat) (moment : Moment) {k : Nat}
    (horder : kinds log = checksWord k ++ [.issueToken]) (hk : k ≤ config.probe.bound)
    (hissued : Issued api s config log now token) :
    (Run.exercise config readyAfter token moment).Keeps api s (Permitted api s config) LogTells
      log now := by
  refine Plan.keeps_bind (keeps_scenario horder hk hissued) ?_
  intro o log₁ now₁ hscenario
  refine Plan.keeps_bind (keeps_revoke hscenario) ?_
  rintro revoked log₂ now₂ ⟨k', m, lists, revokes, hcalls⟩
  refine Plan.keeps_done ?_
  intro f hf
  rw [Run.settle] at hf
  split at hf
  · exact nomatch hf
  · obtain rfl := Except.error.inj hf
    show (kinds log₂).count .createContainer = 1
    rw [hcalls, count_createContainer_callWord]

/-- The stages of a run make only calls they may make. -/
theorem keeps_pipeline (api : Api σ) (config : RunParameters) (s : σ)
    (exit : Option (Nat × ProcessExit)) (clock : Nat → Moment) :
    (Run.pipeline api config exit clock 0 s).Keeps (Permitted api s config) LogTells [] := by
  -- Stage by stage, each starting with the log that the one before left.
  refine Trace.Keeps.andThen (keeps_await exit) ?_
  rintro now r ⟨⟨k, hk, horder⟩, hstage⟩
  rw [List.nil_append] at horder ⊢
  cases r with
  | error f =>
    refine Trace.keeps_ended ?_
    intro f' hf
    obtain rfl := Except.error.inj hf
    rw [hstage f rfl, LogOfStage, horder]
    intro kind hkind
    exact List.eq_of_mem_replicate hkind
  | ok readyAfter =>
    refine Trace.Keeps.andThen (keeps_issue api s (clock now) horder hk) ?_
    rintro later r ⟨hcreates, htoken⟩
    cases r with
    | error fault =>
      refine Trace.keeps_ended ?_
      intro f hf
      obtain rfl := Except.error.inj hf
      exact hcreates
    | ok token =>
      obtain ⟨hordered, hissued⟩ := htoken token rfl
      have hrest := keeps_exercise readyAfter (clock later) hordered hk hissued
      rw [Plan.Keeps, Api.after_append] at hrest
      exact hrest

namespace Run

/-- A run that nobody cancels makes only calls it may make, and its failure is in
keeping with them. -/
theorem execute_lawful (api : Api σ) (config : RunParameters) (machine : Machine)
    (clock : Nat → Moment) (s : σ) :
    Lawful (Permitted api s config) [] (execute api config machine clock none s).calls ∧
      ∀ f, (execute api config machine clock none s).result = some (.error f) →
        LogOfStage (execute api config machine clock none s).calls f.stage := by
  rcases hlaunch : machine.launch config.launch 0 with ⟨after, f | agent⟩
  · rw [execute_whole_of_launch_error api clock s hlaunch]
    -- Nothing was called, and a launch fails in stages that say so.
    refine ⟨trivial, ?_⟩
    intro f' hf
    obtain rfl := Except.error.inj (Option.some.inj hf)
    rcases Machine.stage_of_launch_error hlaunch with hstage | hstage
    · rw [hstage]
      rfl
    · rw [hstage]
      rfl
  · have hkeeps := keeps_pipeline api config s agent.process.exit? clock
    rw [execute_whole_of_launched api clock s hlaunch, supervise_calls, supervise_result]
    refine ⟨hkeeps.calls, ?_⟩
    intro f hf
    obtain ⟨⟨later, r⟩, hend, hreported⟩ := Option.map_eq_some_iff.mp hf
    cases r with
    | ok findings => exact nomatch hreported
    | error f' =>
      obtain rfl := Except.error.inj hreported
      exact hkeeps.ending later _ hend f' rfl

/-- The calls of a run, against any API, with any agent and wherever it is
cancelled.  They are the first calls of health checks, the order of a token, the
creation of a container, looks at the tasks, the listing of containers and the
revocation, in that order and within the bounds on checks and looks.  Each of them
carries the credential it should, and rests on what was answered before.  And a
failure is in keeping with the calls made before it. -/
theorem execute_calls (api : Api σ) (config : RunParameters) (machine : Machine)
    (clock : Nat → Moment) (cancellation : Option Cancellation) (s : σ) :
    (∃ k m lists revokes, k ≤ max config.probe.attempts 1 ∧
      m ≤ max config.scenario.taskListAttempts 1 ∧
      kinds (execute api config machine clock cancellation s).calls <+:
        callWord k m lists revokes) ∧
    (∀ before c after,
      (execute api config machine clock cancellation s).calls = before ++ c :: after →
      Permitted api s config before c) ∧
    ∀ f, (execute api config machine clock cancellation s).result = some (.error f) →
      LogOfStage (execute api config machine clock cancellation s).calls f.stage := by
  obtain ⟨hwhole, hstages⟩ := execute_lawful api config machine clock s
  have hlawful : Lawful (Permitted api s config) []
      (execute api config machine clock cancellation s).calls := by
    rcases execute_eq_or api config machine clock s cancellation with h | ⟨-, hpre⟩
    · rw [h]
      exact hwhole
    · exact hwhole.of_prefix hpre
  refine ⟨inOrder_of_lawful hlawful, ?_, ?_⟩
  · intro before c after hcalls
    rw [hcalls] at hlawful
    exact hlawful.allowed
  · intro f hf
    rcases execute_eq_or api config machine clock s cancellation with h | ⟨hresult, -⟩
    · rw [h] at hf ⊢
      exact hstages f hf
    · -- An interrupted run says nothing about its calls.
      obtain rfl := Except.error.inj (Option.some.inj (hf.symm.trans hresult))
      exact trivial

end Run

end Shakedown
