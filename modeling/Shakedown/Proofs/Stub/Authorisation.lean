/-
  Shakedown.Proofs.Stub.Authorisation

  Who gets anything from a stub agent, over whole histories.  A token is only
  good for something because the admin was granted it and has not revoked it,
  so nothing that holders of tokens do gives anybody more than the admin gave.
-/
import Shakedown.Proofs.Stub.Ledger

namespace Shakedown

open StubEvent

variable {o : StubProfile} {fresh : Nat → Uuid} {events before : List StubEvent} {number : Nat}
  {now : Moment} {bearer : Option String} {request : Request} {work : StubWork} {id : Uuid}
  {order : TokenOrder} {secret : String} {reply : StubReply}

/-! ## What requests need -/

/-- The scope that a request needs. -/
def Request.scope? : Request → Option String
  | .createContainer _ => some Scope.createContainers
  | .listContainers => some Scope.readContainers
  | .listTasks _ => some Scope.readTasks
  | _ => none

namespace Stub

theorem allows_holder {scope : String} {t : GrantedToken}
    (h : allows o scope (.holder t) = true) : o.ignoreScopes = true ∨ scope ∈ t.scopes := by
  rw [allows, Bool.or_eq_true, List.contains_iff_mem] at h
  exact h

/-- The holder of a token neither issues nor revokes any, and has the scope that is needed. -/
theorem Permits.of_holder {t : GrantedToken} (h : Permits o now (.holder t) request work) :
    request.KeepsTokens ∧ (o.ignoreScopes = true ∨
      ∀ scope, request.scope? = some scope → scope ∈ t.scopes) := by
  have hneeds : ∀ {needed : String}, allows o needed (.holder t) = true →
      o.ignoreScopes = true ∨ ∀ scope, some needed = some scope → scope ∈ t.scopes := by
    intro needed hallows
    refine (allows_holder hallows).imp_right fun hmem scope hscope => ?_
    obtain rfl := Option.some.inj hscope
    exact hmem
  cases h with
  | health => exact ⟨trivial, Or.inr nofun⟩
  | systemInfo => exact ⟨trivial, Or.inr nofun⟩
  | issueToken hadmin _ _ => exact nomatch hadmin
  | revokeToken hadmin => exact nomatch hadmin
  | createContainer hallows => exact ⟨trivial, hneeds hallows⟩
  | listContainers hallows => exact ⟨trivial, hneeds hallows⟩
  | listTasks hallows => exact ⟨trivial, hneeds hallows⟩

/-- Only who presents the admin token is the admin. -/
theorem caller_ok_admin {s : StubStore} (h : caller o s now bearer = .ok .admin) :
    bearer = some o.adminToken := by
  rcases caller_ok h with ⟨-, hadmin⟩ | ⟨token, t, -, -, hholder, -⟩
  · exact hadmin
  · exact nomatch hholder

end Stub

namespace StubServer

/-! ## What was granted and revoked -/

/-- The admin ordered a token and was granted it, with an identifier and a secret. -/
def Granted (o : StubProfile) (fresh : Nat → Uuid) (events : List StubEvent) (order : TokenOrder)
    (id : Uuid) (secret : String) : Prop :=
  ∃ number reply grant, Asks events number (some o.adminToken) (.issueToken order) ∧
    (number, reply) ∈ answers o fresh events ∧ reply.grant? = some grant ∧
    grant.id = some id ∧ grant.token = secret

/-- A request to revoke a token was answered with 204. -/
def Revoked (o : StubProfile) (fresh : Nat → Uuid) (events : List StubEvent) (id : Uuid) : Prop :=
  ∃ number bearer reply, Asks events number bearer (.revokeToken id) ∧
    (number, reply) ∈ answers o fresh events ∧ reply.status = 204

theorem Granted.later (h : Granted o fresh before order id secret)
    (hlater : before <+: events) : Granted o fresh events order id secret := by
  obtain ⟨number, reply, grant, hasks, hanswer, hgrant⟩ := h
  exact ⟨number, reply, grant, hasks.later hlater, (answers_grow hlater).subset hanswer,
    hgrant⟩

/-- A token is issued for an order of the admin. -/
theorem Admitted.issue {expiresAt : Moment}
    (h : Admitted o fresh events number request (.issueToken order expiresAt)) :
    Asks events number (some o.adminToken) (.issueToken order) ∧
      Time.Rfc3339.read? order.expiresAt = some expiresAt := by
  obtain ⟨before, now, bearer, who, hreaches, hcaller, hpermits⟩ := h.permits
  cases hpermits with
  | issueToken hadmin hknown hexpiry =>
    subst hadmin
    obtain rfl := Stub.caller_ok_admin hcaller
    exact ⟨hreaches.asks_later, hexpiry⟩

theorem Finishes.store_after (h : Finishes o fresh events before number work) :
    (after o fresh (before ++ [.finish number])).store =
      (Stub.perform o fresh (after o fresh before).store work).1 := by
  rw [after_snoc, step_finished h.admitted]

theorem revoked_subset (h : before <+: events) :
    (after o fresh before).store.revoked ⊆ (after o fresh events).store.revoked :=
  store_later (R := fun s s' => s.revoked ⊆ s'.revoked) (fun _ => List.Subset.refl _)
    List.Subset.trans (fun _ _ => List.Subset.refl _)
    (fun s work => (Stub.performs o fresh s work).revoked_subset) h

/-- What was said to be revoked is. -/
theorem Revoked.mem (h : Revoked o fresh events id) :
    id ∈ (after o fresh events).store.revoked := by
  obtain ⟨number, bearer, reply, hasks, hanswer, hstatus⟩ := h
  obtain ⟨before, work, hfinishes, rfl⟩ :=
    finishes_of_success hanswer (StubReply.isSuccess_iff.mpr (by omega))
  obtain ⟨request, hadmitted⟩ := admitted_of_stageOf hfinishes.admitted
  obtain ⟨earlier, now, bearer', who, hreaches, -, hpermits⟩ := hadmitted.permits
  obtain ⟨-, rfl⟩ := hasks.unique (hreaches.asks_later.later hfinishes.earlier)
  obtain ⟨id', hwork, hmem⟩ := (Stub.performs o fresh _ work).revoke_of_status hstatus
  cases hpermits with
  | revokeToken hadmin =>
    obtain rfl := StubWork.revokeToken.inj hwork
    rw [← hfinishes.store_after] at hmem
    exact revoked_subset hfinishes.next hmem

/-! ## Where live tokens come from -/

/-- What the admin was granted was drawn for it. -/
theorem Granted.minted (h : Granted o fresh events order id secret) :
    Minted fresh (after o fresh events).store.drawn id secret := by
  obtain ⟨number, reply, grant, -, hanswer, hgrant, hid, rfl⟩ := h
  have hstatus := StubReply.status_of_grant? hgrant
  obtain ⟨before, work, hfinishes, rfl⟩ :=
    finishes_of_success hanswer (StubReply.isSuccess_iff.mpr (by omega))
  obtain ⟨order', expiresAt, rfl⟩ := (Stub.performs o fresh _ work).issue_of_status hstatus
  have hdrawn : (after o fresh (before ++ [.finish number])).store.drawn ≤
      (after o fresh events).store.drawn := drawn_le_later hfinishes.next
  rw [hfinishes.store_after] at hdrawn
  rw [Stub.perform, Stub.grant?_issue] at hgrant
  obtain rfl := Option.some.inj hgrant
  obtain rfl := Option.some.inj hid
  exact ⟨(after o fresh before).store.drawn, hdrawn, rfl, rfl⟩

/-- Every live token is what the admin was granted for an order, and lasts as long and can do
as much as that order says. -/
theorem granted_of_live (o : StubProfile) (fresh : Nat → Uuid) (events : List StubEvent)
    {t : GrantedToken} (h : t ∈ (after o fresh events).store.tokens) :
    ∃ order, Granted o fresh events order t.id t.secret ∧ t.scopes = order.scopes ∧
      Time.Rfc3339.read? order.expiresAt = some t.expiresAt := by
  induction events using List.reverseRecOn with
  | nil => exact nomatch h
  | append_singleton events e ih =>
    have hold : t ∈ (after o fresh events).store.tokens →
        ∃ order, Granted o fresh (events ++ [e]) order t.id t.secret ∧ t.scopes = order.scopes ∧
          Time.Rfc3339.read? order.expiresAt = some t.expiresAt := fun ht => by
      obtain ⟨order, hgranted, hrest⟩ := ih ht
      exact ⟨order, hgranted.later (List.prefix_append _ _), hrest⟩
    rcases store_snoc o fresh events e with hs | ⟨request, hs⟩ | ⟨number, work, rfl, hstage, hs⟩
    · exact hold (hs ▸ h)
    · rw [hs] at h
      exact hold h
    · rw [hs] at h
      rcases (Stub.performs o fresh _ work).mem_tokens h with ht | ⟨order, expiresAt, rfl, rfl⟩
      · exact hold ht
      · -- The token has just been issued, and its request is answered with it.
        obtain ⟨request, hadmitted⟩ := admitted_of_stageOf hstage
        obtain ⟨hasks, hexpiry⟩ := hadmitted.issue
        refine ⟨order, ⟨number, _, _, hasks.mono _, ?_, Stub.grant?_issue fresh _ order expiresAt,
          rfl, rfl⟩, rfl, hexpiry⟩
        rw [answers_snoc, step_finished hstage]
        exact List.mem_append_right _ (List.mem_singleton_self _)

/-! ## What a token is good for -/

/-- A secret entitles to something at a moment of a history: it is that of a token which the
admin was granted and which is not revoked, has not expired, and was ordered with the scope
that is needed. -/
structure Entitles (o : StubProfile) (fresh : Nat → Uuid) (before : List StubEvent)
    (now : Moment) (secret : String) (request : Request) (order : TokenOrder) (id : Uuid)
    (expiresAt : Moment) : Prop where
  granted : Granted o fresh before order id secret
  live : ¬Revoked o fresh before id
  expiry : Time.Rfc3339.read? order.expiresAt = some expiresAt
  valid : now.before expiresAt = true
  inScope : o.ignoreScopes = true ∨ ∀ scope, request.scope? = some scope → scope ∈ order.scopes
  keeps : request.KeepsTokens

/-- Who is authorised is the admin or is entitled by a token. -/
theorem entitled_of_caller (hdistinct : DistinctDraws fresh (after o fresh before).store.drawn)
    {who : StubCaller} (hcaller : Stub.caller o (after o fresh before).store now bearer = .ok who)
    (hpermits : Stub.Permits o now who request work) :
    bearer = some o.adminToken ∨ ∃ secret order id expiresAt, bearer = some secret ∧
      Entitles o fresh before now secret request order id expiresAt := by
  rcases Stub.caller_ok hcaller with ⟨-, hadmin⟩ | ⟨secret, t, rfl, -, rfl, hfinds, hvalid⟩
  · exact Or.inl hadmin
  · obtain ⟨hlive, rfl⟩ := hfinds.mem
    obtain ⟨order, hgranted, hscopes, hexpiry⟩ := granted_of_live o fresh before hlive
    obtain ⟨hkeeps, hscoped⟩ := hpermits.of_holder
    rw [hscopes] at hscoped
    refine Or.inr ⟨t.secret, order, t.id, t.expiresAt, rfl, hgranted, fun hrevoked => ?_, hexpiry,
      hvalid, hscoped, hkeeps⟩
    exact (keeps_ledger o fresh before hdistinct).not_revoked hlive hrevoked.mem

/-- A request is answered with success only if it was authorised for the admin or for somebody
whom a token entitles. -/
theorem entitled_of_success (hdistinct : DistinctDraws fresh (after o fresh events).store.drawn)
    (hanswer : (number, reply) ∈ answers o fresh events) (hsuccess : reply.isSuccess = true) :
    ∃ before now bearer request, Asks before number bearer request ∧
      Reaches o fresh events before number now bearer request ∧
      (bearer = some o.adminToken ∨ ∃ secret order id expiresAt, bearer = some secret ∧
        Entitles o fresh before now secret request order id expiresAt) := by
  obtain ⟨done, work, hfinishes, -⟩ := finishes_of_success hanswer hsuccess
  obtain ⟨request, hadmitted⟩ := admitted_of_stageOf hfinishes.admitted
  obtain ⟨before, now, bearer, who, hreaches, hcaller, hpermits⟩ := hadmitted.permits
  have hreaches := hreaches.later hfinishes.earlier
  exact ⟨before, now, bearer, request, hreaches.asks, hreaches,
    entitled_of_caller (hdistinct.of_le (drawn_le_later hreaches.earlier)) hcaller hpermits⟩

/-- As long as nothing is done for the admin, tokens stay as they are. -/
theorem sameTokens_append {rest : List StubEvent} (h : ∀ number, .finish number ∈ rest →
      ∀ r, Arrives (before ++ rest) number r → r.presented ≠ some o.adminToken) :
    (after o fresh (before ++ rest)).store.SameTokens (after o fresh before).store := by
  induction rest using List.reverseRecOn with
  | nil =>
    rw [List.append_nil]
    exact ⟨rfl, rfl, rfl⟩
  | append_singleton rest e ih =>
    rw [← List.append_assoc] at h ⊢
    have hsame := ih fun number hnumber r harrives =>
      h number (List.mem_append_left _ hnumber) r (harrives.mono [e])
    refine StubStore.SameTokens.trans ?_ hsame
    rcases store_snoc o fresh (before ++ rest) e with
      hs | ⟨request, hs⟩ | ⟨number, work, rfl, hstage, hs⟩
    · rw [hs]
      exact ⟨rfl, rfl, rfl⟩
    · rw [hs]
      exact ⟨rfl, rfl, rfl⟩
    · obtain ⟨request, hadmitted⟩ := admitted_of_stageOf hstage
      obtain ⟨earlier, now, bearer, who, hreaches, hcaller, hpermits⟩ := hadmitted.permits
      -- Whoever it is done for is not the admin, so it is nothing that concerns tokens.
      have hkeeps : request.KeepsTokens := by
        obtain ⟨r, harrives, -, rfl⟩ := hreaches.asks_later
        have hother := h number (List.mem_append_right _ (List.mem_singleton_self _)) r
          (harrives.mono _)
        cases who with
        | admin => exact absurd (Stub.caller_ok_admin hcaller) hother
        | holder t => exact hpermits.of_holder.1
      rw [hs]
      exact (Stub.performs o fresh _ work).sameTokens hpermits hkeeps

/-- Nobody is found by the secret of a token that was revoked. -/
theorem caller_of_revoked (hdistinct : DistinctDraws fresh (after o fresh before).store.drawn)
    (hother : secret ≠ o.adminToken) (hgranted : Granted o fresh before order id secret)
    (hrevoked : Revoked o fresh before id) (now : Moment) :
    Stub.caller o (after o fresh before).store now (some secret) =
      .error (.refusal 401 "invalid token") := by
  refine Stub.caller_nobody hother fun t hfinds => ?_
  obtain ⟨hlive, rfl⟩ := hfinds.mem
  -- A live token with this secret would have this identifier.
  have hkeeps := keeps_ledger o fresh before hdistinct
  obtain rfl := (hkeeps.minted t hlive).unique hdistinct hgranted.minted
  exact absurd hrevoked.mem (hkeeps.not_revoked hlive)

/-- A token that was revoked is refused from then on. -/
theorem refused_of_revoked (hdistinct : DistinctDraws fresh (after o fresh events).store.drawn)
    (hreaches : Reaches o fresh events before number now (some secret) request)
    (hother : secret ≠ o.adminToken) (hgranted : Granted o fresh before order id secret)
    (hrevoked : Revoked o fresh before id) :
    (number, reply) ∈ answers o fresh events ↔ reply = .refusal 401 "invalid token" := by
  have hcaller := caller_of_revoked (hdistinct.of_le (drawn_le_later hreaches.earlier)) hother
    hgranted hrevoked now
  have hauthorise : Stub.authorise o (after o fresh before).store now (some secret) request =
      .error (.refusal 401 "invalid token") := by
    rw [Stub.authorise, hcaller]
    rfl
  have hanswer : (number, StubReply.refusal 401 "invalid token") ∈ answers o fresh events := by
    refine (answers_grow hreaches.next).subset ?_
    rw [answers_snoc, step_refused hreaches.counted hauthorise]
    exact List.mem_append_right _ (List.mem_singleton_self _)
  exact ⟨fun h => answer_unique h hanswer, fun h => h ▸ hanswer⟩

/-- All that a stub agent ever does for anybody stems from its admin.  Every success was
authorised for the admin, or for somebody with a token that the admin had been granted and had
not revoked, that had not expired and was ordered with the scope that was needed; orders and
revocations of tokens succeed for the admin alone.  As long as nothing is done for the admin,
no token comes, goes or changes.  And who presents a token that was revoked is told that it is
invalid. -/
theorem authority_stems_from_admin (o : StubProfile) (fresh : Nat → Uuid)
    (events : List StubEvent)
    (hdistinct : DistinctDraws fresh (after o fresh events).store.drawn) :
    (∀ number reply, (number, reply) ∈ answers o fresh events → reply.isSuccess = true →
      ∃ before now bearer request, Asks before number bearer request ∧
        Reaches o fresh events before number now bearer request ∧
        (bearer = some o.adminToken ∨ ∃ secret order id expiresAt, bearer = some secret ∧
          Entitles o fresh before now secret request order id expiresAt)) ∧
    (∀ before rest, events = before ++ rest →
      (∀ number, .finish number ∈ rest →
        ∀ r, Arrives events number r → r.presented ≠ some o.adminToken) →
      (after o fresh events).store.SameTokens (after o fresh before).store) ∧
    (∀ before number now secret request order id,
      Reaches o fresh events before number now (some secret) request → secret ≠ o.adminToken →
      Granted o fresh before order id secret → Revoked o fresh before id →
      ∀ reply, (number, reply) ∈ answers o fresh events ↔
        reply = .refusal 401 "invalid token") := by
  refine ⟨fun number reply hanswer hsuccess => entitled_of_success hdistinct hanswer hsuccess,
    fun before rest hevents h => ?_,
    fun before number now secret request order id hreaches hother hgranted hrevoked reply =>
      refused_of_revoked hdistinct hreaches hother hgranted hrevoked⟩
  subst hevents
  exact sameTokens_append h

/-! ## A token that is revoked while it is used -/

/-- An order for a token that lists tasks. -/
def listerOrder : TokenOrder := ⟨"lister", ["tasks:read"], "2026-01-01T00:00:00Z"⟩

def listerSecret : String := "orbit_00000000000000000000000000000001"

def ordering : IncomingRequest where
  method := "POST"
  path := "/security/tokens"
  authorization := some "Bearer smoke-admin"
  contentType := some "application/json"
  body := Text.Utf8.encode listerOrder.toJson.text

def listing : IncomingRequest where
  method := "GET"
  path := "/tasks"
  authorization := some ("Bearer " ++ listerSecret)

def revoking : IncomingRequest where
  method := "DELETE"
  path := "/security/tokens/00000000-0000-0000-0000-000000000000"
  authorization := some "Bearer smoke-admin"

/-- The token is granted, used, and revoked before what it was used for is done; then it is
used again. -/
def listerHistory : List StubEvent :=
  [.arrive ordering, .authorise 0 ⟨0, 0⟩, .finish 0,
    .arrive listing, .authorise 1 ⟨1, 0⟩, .arrive revoking, .authorise 2 ⟨1, 0⟩, .finish 2,
    .finish 1, .arrive listing, .authorise 3 ⟨2, 0⟩]

/-- What has happened before the token is looked at for the last time. -/
def listerHistoryBefore : List StubEvent := listerHistory.dropLast

theorem distinct_listerHistory :
    DistinctDraws Uuid.ofNat (after {} Uuid.ofNat listerHistory).store.drawn :=
  distinctDraws_ofNat (by decide +kernel)

theorem runs_listerHistoryBefore :
    (answers {} Uuid.ofNat listerHistoryBefore).map (fun a =>
        (a.1, a.2.status, a.2.grant?.map fun grant => (grant.id, grant.token))) =
      [(0, 201, some (some (.ofNat 0), listerSecret)), (2, 204, none), (1, 200, none)] ∧
    (after {} Uuid.ofNat listerHistoryBefore).stageOf? 3 =
      some (.counted (some listerSecret) (.listTasks {})) := by
  decide +kernel

theorem exists_answer {status : Nat} {grant : Option (Option Uuid × String)}
    (h : (number, status, grant) ∈
      [(0, 201, some (some (Uuid.ofNat 0), listerSecret)), (2, 204, none), (1, 200, none)]) :
    ∃ reply, (number, reply) ∈ answers {} Uuid.ofNat listerHistoryBefore ∧
      reply.status = status ∧ reply.grant?.map (fun grant => (grant.id, grant.token)) = grant := by
  rw [← runs_listerHistoryBefore.1] at h
  obtain ⟨⟨number, reply⟩, hanswer, heq⟩ := List.mem_map.mp h
  simp only [Prod.mk.injEq] at heq
  obtain ⟨rfl, hstatus, hgrant⟩ := heq
  exact ⟨reply, hanswer, hstatus, hgrant⟩

theorem asks_of_read {r : IncomingRequest} (harrives : Arrives events number r)
    (hread : (Stub.read r).toOption = some request) : Asks events number r.presented request := by
  refine ⟨r, harrives, ?_, rfl⟩
  cases h : Stub.read r with
  | error reply =>
    rw [h] at hread
    cases hread
  | ok request' =>
    rw [h] at hread
    exact congrArg Except.ok (Option.some.inj hread)

theorem granted_listerHistoryBefore :
    Granted {} Uuid.ofNat listerHistoryBefore listerOrder (.ofNat 0) listerSecret := by
  obtain ⟨reply, hanswer, -, hgrant⟩ := exists_answer List.mem_cons_self
  obtain ⟨grant, hgrant, heq⟩ := Option.map_eq_some_iff.mp hgrant
  obtain ⟨hid, hsecret⟩ := Prod.mk.inj heq
  exact ⟨0, reply, grant, asks_of_read (r := ordering) rfl (by decide +kernel), hanswer, hgrant,
    hid, hsecret⟩

theorem revoked_listerHistoryBefore :
    Revoked {} Uuid.ofNat listerHistoryBefore (.ofNat 0) := by
  obtain ⟨reply, hanswer, hstatus, -⟩ :=
    exists_answer (List.mem_cons_of_mem _ List.mem_cons_self)
  exact ⟨2, _, reply, asks_of_read (r := revoking) rfl (by decide +kernel), hanswer, hstatus⟩

/-- What was authorised before the revocation is answered after it; what is authorised after it
is refused. -/
theorem authority_in_listerHistory :
    DistinctDraws Uuid.ofNat (after {} Uuid.ofNat listerHistory).store.drawn ∧
      (∃ before now bearer request, Asks before 1 bearer request ∧
        Reaches {} Uuid.ofNat listerHistory before 1 now bearer request ∧
        (bearer = some standardAdminToken ∨ ∃ secret order id expiresAt, bearer = some secret ∧
          Entitles {} Uuid.ofNat before now secret request order id expiresAt)) ∧
      (3, .refusal 401 "invalid token") ∈ answers {} Uuid.ofNat listerHistory := by
  obtain ⟨hsuccess, -, hrefused⟩ :=
    authority_stems_from_admin {} Uuid.ofNat listerHistory distinct_listerHistory
  have hnext : listerHistoryBefore ++ [.authorise 3 ⟨2, 0⟩] <+: listerHistory := ⟨[], rfl⟩
  have hreaches : Reaches {} Uuid.ofNat listerHistory listerHistoryBefore 3 ⟨2, 0⟩
      (some listerSecret) (.listTasks {}) := ⟨hnext, runs_listerHistoryBefore.2⟩
  obtain ⟨reply, hanswer, hstatus, -⟩ : ∃ reply,
      (1, reply) ∈ answers {} Uuid.ofNat listerHistoryBefore ∧ reply.status = 200 ∧
        reply.grant?.map (fun grant => (grant.id, grant.token)) = none :=
    exists_answer (List.mem_cons_of_mem _ (List.mem_cons_of_mem _ List.mem_cons_self))
  refine ⟨distinct_listerHistory, hsuccess 1 reply ((answers_grow hreaches.earlier).subset hanswer)
    (StubReply.isSuccess_iff.mpr (by omega)), ?_⟩
  exact (hrefused _ _ _ _ _ _ _ hreaches (by decide) granted_listerHistoryBefore
    revoked_listerHistoryBefore _).mpr rfl

end StubServer

end Shakedown
