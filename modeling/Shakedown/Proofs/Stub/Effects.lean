/-
  Shakedown.Proofs.Stub.Effects

  What a stub agent does for whom.  Whatever it admits is something that the
  caller may do; the store that the work leaves and the status of the answer
  are told for each kind of work.  Only the admin's work touches the tokens,
  and no refusal looks like a success.
-/
import Shakedown.Proofs.Stub.Admission
import Shakedown.Proofs.Wire
import Shakedown.Stub.Routes

namespace Shakedown

variable {o : StubProfile} {s : StubStore} {fresh : Nat → Uuid} {now : Moment}
  {request : Request} {work : StubWork}

/-! ## What callers may do -/

/-- A request that neither issues a token nor revokes one. -/
def Request.KeepsTokens : Request → Prop
  | .issueToken _ => False
  | .revokeToken _ => False
  | _ => True

namespace Stub

/-- A caller may have something done for a request. -/
inductive Permits (o : StubProfile) (now : Moment) (who : StubCaller) :
    Request → StubWork → Prop where
  | health : Permits o now who .health .report
  | systemInfo : Permits o now who .systemInfo .report
  | issueToken {order : TokenOrder} {expiresAt : Moment} (hadmin : who = .admin)
      (hknown : ∀ scope ∈ order.scopes, scope ∈ stubScopes)
      (hexpiry : Time.Rfc3339.read? order.expiresAt = some expiresAt) :
      Permits o now who (.issueToken order) (.issueToken order expiresAt)
  | revokeToken {id : Uuid} (hadmin : who = .admin) :
      Permits o now who (.revokeToken id) (.revokeToken id)
  | createContainer {order : ContainerOrder}
      (hallows : allows o Scope.createContainers who = true) :
      Permits o now who (.createContainer order) (.createContainer order)
  | listContainers (hallows : allows o Scope.readContainers who = true) :
      Permits o now who .listContainers .listContainers
  | listTasks {filter : TaskFilter} (hallows : allows o Scope.readTasks who = true) :
      Permits o now who (.listTasks filter) (.listTasks filter)

theorem holding_ok {scope : String} {admitted work : StubWork} {who : StubCaller}
    (h : holding o scope admitted who = .ok work) :
    allows o scope who = true ∧ work = admitted := by
  rw [holding] at h
  split at h
  · rename_i hallows
    exact ⟨hallows, (Except.ok.inj h).symm⟩
  · cases h

theorem checkOrder_ok {order : TokenOrder} (h : checkOrder now order = .ok work) :
    (∀ scope ∈ order.scopes, scope ∈ stubScopes) ∧
      ∃ expiresAt, Time.Rfc3339.read? order.expiresAt = some expiresAt ∧
        work = .issueToken order expiresAt := by
  rw [checkOrder] at h
  split at h
  · cases h
  · cases hunknown : order.scopes.find? fun scope => !stubScopes.contains scope with
    | some unknown =>
      rw [hunknown] at h
      cases h
    | none =>
      rw [hunknown] at h
      refine ⟨fun scope hscope => ?_, ?_⟩
      · simpa using List.find?_eq_none.mp hunknown scope hscope
      · cases hexpiry : Time.Rfc3339.read? order.expiresAt with
        | none =>
          rw [hexpiry] at h
          cases h
        | some expiresAt =>
          rw [hexpiry] at h
          dsimp only at h
          split at h
          · exact ⟨expiresAt, rfl, (Except.ok.inj h).symm⟩
          · cases h

/-- What is to be done for a caller is what the caller may have done. -/
theorem permits_of_workOf {who : StubCaller} (h : workOf o now who request = .ok work) :
    Permits o now who request work := by
  cases request with
  | health =>
    obtain rfl := Except.ok.inj h
    exact .health
  | systemInfo =>
    obtain rfl := Except.ok.inj h
    exact .systemInfo
  | issueToken order =>
    cases who with
    | admin =>
      obtain ⟨hknown, expiresAt, hexpiry, rfl⟩ := checkOrder_ok h
      exact .issueToken rfl hknown hexpiry
    | holder t => exact nomatch h
  | revokeToken id =>
    cases who with
    | admin =>
      obtain rfl := Except.ok.inj h
      exact .revokeToken rfl
    | holder t => exact nomatch h
  | createContainer order =>
    obtain ⟨hallows, rfl⟩ := holding_ok h
    exact .createContainer hallows
  | listContainers =>
    obtain ⟨hallows, rfl⟩ := holding_ok h
    exact .listContainers hallows
  | listTasks filter =>
    obtain ⟨hallows, rfl⟩ := holding_ok h
    exact .listTasks hallows

/-- A request is admitted for a caller who may have its work done. -/
theorem permits_of_authorise {bearer : Option String}
    (h : authorise o s now bearer request = .ok work) :
    ∃ who, caller o s now bearer = .ok who ∧ Permits o now who request work := by
  obtain ⟨who, hcaller, hwork⟩ := authorise_ok h
  exact ⟨who, hcaller, permits_of_workOf hwork⟩

/-! ## What answers say -/

theorem Refuses.not_success {reply : StubReply} (h : Refuses reply) : reply.isSuccess = false := by
  obtain ⟨status, reason, rfl, hstatus⟩ := h
  exact hstatus

/-- A document is refused for its content type or its size, or it cannot be read. -/
theorem readDocument_error {α : Type} {r : IncomingRequest} {decode : Json → Option α}
    {reply : StubReply} (h : readDocument r decode = .error reply) :
    reply = tooLarge ∨
      ∃ status, reply = rejected status ∧ (status = 415 ∨ status = 400 ∨ status = 422) := by
  rw [readDocument] at h
  split at h
  · exact Or.inr ⟨415, (Except.error.inj h).symm, Or.inl rfl⟩
  · split at h
    · exact Or.inl (Except.error.inj h).symm
    · split at h
      · exact Or.inr ⟨400, (Except.error.inj h).symm, Or.inr (Or.inl rfl)⟩
      · split at h
        · cases h
        · exact Or.inr ⟨422, (Except.error.inj h).symm, Or.inr (Or.inr rfl)⟩

/-- A request that cannot be read is answered with no success. -/
theorem read_error {r : IncomingRequest} {reply : StubReply} (h : read r = .error reply) :
    reply.isSuccess = false := by
  have hdocument : ∀ {α : Type} {decode : Json → Option α} {f : α → Request},
      (readDocument r decode).map f = .error reply → reply.isSuccess = false := by
    intro α decode f h
    cases hread : readDocument r decode with
    | ok a =>
      rw [hread] at h
      cases h
    | error reply' =>
      rw [hread] at h
      obtain rfl := Except.error.inj h
      obtain rfl | ⟨status, rfl, rfl | rfl | rfl⟩ := readDocument_error hread <;> rfl
  rw [read] at h
  split at h
  · obtain rfl := Except.error.inj h
    rfl
  · split at h
    · obtain rfl := Except.error.inj h
      rfl
    · rename_i endpoint _
      cases endpoint with
      | systemInfo => cases h
      | issueToken => exact hdocument h
      | revokeToken id =>
        rw [readRequest] at h
        split at h
        · cases h
        · obtain rfl := Except.error.inj h
          rfl
      | listContainers => cases h
      | createContainer => exact hdocument h
      | listTasks =>
        rw [readRequest] at h
        split at h
        · cases h
        · obtain rfl := Except.error.inj h
          rfl

end Stub

/-- The token that an answer grants: it is created (201), and the document says so. -/
def StubReply.grant? (reply : StubReply) : Option TokenGrant :=
  if reply.status = 201 then
    match reply.content with
    | .document j => TokenGrant.ofJson? j
    | _ => none
  else none

namespace StubReply

theorem grant?_of_status {reply : StubReply} (h : reply.status ≠ 201) : reply.grant? = none :=
  if_neg h

theorem isSuccess_iff {reply : StubReply} :
    reply.isSuccess = true ↔ 200 ≤ reply.status ∧ reply.status ≤ 299 := by
  rw [isSuccess, Bool.and_eq_true, decide_eq_true_eq, decide_eq_true_eq]

theorem grant?_of_not_success {reply : StubReply} (h : reply.isSuccess = false) :
    reply.grant? = none :=
  grant?_of_status fun hstatus => nomatch h.symm.trans (isSuccess_iff.mpr (by omega))

theorem status_of_grant? {reply : StubReply} {grant : TokenGrant} (h : reply.grant? = some grant) :
    reply.status = 201 :=
  Decidable.byContradiction fun hstatus => nomatch h.symm.trans (grant?_of_status hstatus)

end StubReply

/-- Two stores hold the same tokens, and the same orders and revocations of tokens. -/
structure StubStore.SameTokens (s s' : StubStore) : Prop where
  tokens : s.tokens = s'.tokens
  revoked : s.revoked = s'.revoked
  issued : s.issued = s'.issued

theorem StubStore.SameTokens.trans {s s' s'' : StubStore} (h : s.SameTokens s')
    (h' : s'.SameTokens s'') : s.SameTokens s'' :=
  ⟨h.tokens.trans h'.tokens, h.revoked.trans h'.revoked, h.issued.trans h'.issued⟩

namespace Stub

/-! ## What work leaves behind -/

/-- The token that an order is granted. -/
def granting (fresh : Nat → Uuid) (s : StubStore) (order : TokenOrder) (expiresAt : Moment) :
    GrantedToken :=
  ⟨secretOf (fresh (s.drawn + 1)), fresh s.drawn, order.scopes, expiresAt⟩

theorem grant?_issue (fresh : Nat → Uuid) (s : StubStore) (order : TokenOrder)
    (expiresAt : Moment) :
    (issue fresh s order expiresAt).2.grant? =
      some ⟨secretOf (fresh (s.drawn + 1)), some (fresh s.drawn), some order.name, order.scopes,
        some order.expiresAt⟩ :=
  TokenGrant.ofJson?_toJson _

/-- The task that a creation is answered with. -/
def taskOf (o : StubProfile) (fresh : Nat → Uuid) (s : StubStore) : AgentTask where
  id := if o.omitTaskId then "" else (fresh s.drawn).text
  status := .queued
  kind := "container.create"

theorem create_eq (o : StubProfile) (fresh : Nat → Uuid) (s : StubStore)
    (order : ContainerOrder) :
    ∃ id drawn, s.drawn ≤ drawn ∧ create o fresh s order =
      ({ s with
          containers := s.containers ++ [⟨id, order.name, "creating", order.platform⟩]
          tasks := if o.dropTasks then s.tasks else s.tasks ++ [taskOf o fresh s]
          drawn },
        .ok (taskOf o fresh s).toJson) := by
  cases homit : o.omitTaskId with
  | true =>
    simp only [create, taskOf, homit]
    exact ⟨_, s.drawn + 1, Nat.le_succ _, rfl⟩
  | false =>
    simp only [create, taskOf, homit]
    exact ⟨_, s.drawn + 1 + 1, Nat.le_add_right s.drawn 2, rfl⟩

/-- What work does to a store, and how it is answered. -/
inductive Does (o : StubProfile) (fresh : Nat → Uuid) (s : StubStore) :
    StubWork → StubStore → StubReply → Prop where
  | reports {reply : StubReply} (hstatus : reply.status = 200) : Does o fresh s .report s reply
  | issues {order : TokenOrder} {expiresAt : Moment} :
      Does o fresh s (.issueToken order expiresAt) (issue fresh s order expiresAt).1
        (issue fresh s order expiresAt).2
  /-- A live token is revoked; -/
  | revokes {id : Uuid} (hlive : ∃ t ∈ s.tokens, t.id = id) :
      Does o fresh s (.revokeToken id)
        { s with tokens := s.tokens.filter (fun t => t.id != id), revoked := s.revoked ++ [id] }
        ⟨204, .nothing⟩
  /-- if there is none, nothing is. -/
  | missing {id : Uuid} (hnone : ∀ t ∈ s.tokens, t.id ≠ id) :
      Does o fresh s (.revokeToken id) s ⟨404, .nothing⟩
  /-- A creation records a container, and its task unless tasks are dropped. -/
  | creates {order : ContainerOrder} {id : String} {drawn : Nat} (hdrawn : s.drawn ≤ drawn) :
      Does o fresh s (.createContainer order)
        { s with
          containers := s.containers ++ [⟨id, order.name, "creating", order.platform⟩]
          tasks := if o.dropTasks then s.tasks else s.tasks ++ [taskOf o fresh s]
          drawn }
        (.ok (taskOf o fresh s).toJson)
  | listsContainers {j : Json} : Does o fresh s .listContainers s (.ok j)
  | listsTasks {filter : TaskFilter} {j : Json} : Does o fresh s (.listTasks filter) s (.ok j)

theorem performs (o : StubProfile) (fresh : Nat → Uuid) (s : StubStore) (work : StubWork) :
    Does o fresh s work (perform o fresh s work).1 (perform o fresh s work).2 := by
  cases work with
  | report =>
    refine .reports ?_
    rw [perform]
    split <;> rfl
  | issueToken order expiresAt => exact .issues
  | revokeToken id =>
    rw [perform, revoke]
    split
    · rename_i hfound
      obtain ⟨t, ht, hid⟩ := List.any_eq_true.mp hfound
      exact .revokes ⟨t, ht, beq_iff_eq.mp hid⟩
    · rename_i hmissing
      refine .missing fun t ht hid => hmissing (List.any_eq_true.mpr ⟨t, ht, beq_iff_eq.mpr hid⟩)
  | createContainer order =>
    obtain ⟨id, drawn, hdrawn, heq⟩ := create_eq o fresh s order
    rw [perform, heq]
    exact .creates hdrawn
  | listContainers => exact .listsContainers
  | listTasks filter => exact .listsTasks

namespace Does

variable {s' : StubStore} {reply : StubReply}

theorem drawn_le (h : Does o fresh s work s' reply) : s.drawn ≤ s'.drawn := by
  cases h with
  | issues => exact Nat.le_add_right _ 2
  | creates hdrawn => exact hdrawn
  | _ => exact Nat.le_refl _

/-- A revocation is never taken back. -/
theorem revoked_subset (h : Does o fresh s work s' reply) : s.revoked ⊆ s'.revoked := by
  cases h with
  | revokes hlive => exact List.subset_append_left _ _
  | _ => exact List.Subset.refl _

/-- A token is an old one or has just been issued. -/
theorem mem_tokens (h : Does o fresh s work s' reply) {t : GrantedToken} (ht : t ∈ s'.tokens) :
    t ∈ s.tokens ∨ ∃ order expiresAt, work = .issueToken order expiresAt ∧
      t = granting fresh s order expiresAt := by
  cases h with
  | @issues order expiresAt =>
    rcases List.mem_append.mp ht with ht | ht
    · exact Or.inl (List.mem_of_mem_filter ht)
    · exact Or.inr ⟨order, expiresAt, rfl, List.mem_singleton.mp ht⟩
  | revokes hlive => exact Or.inl (List.mem_of_mem_filter ht)
  | _ => exact Or.inl ht

/-- Only an issued token is answered with 201. -/
theorem issue_of_status (h : Does o fresh s work s' reply) (hstatus : reply.status = 201) :
    ∃ order expiresAt, work = .issueToken order expiresAt := by
  cases h with
  | reports hok => exact nomatch hok.symm.trans hstatus
  | @issues order expiresAt => exact ⟨order, expiresAt, rfl⟩
  | _ => exact nomatch hstatus

/-- Only a revocation is answered with 204. -/
theorem revoke_of_status (h : Does o fresh s work s' reply) (hstatus : reply.status = 204) :
    ∃ id, work = .revokeToken id ∧ id ∈ s'.revoked := by
  cases h with
  | reports hok => exact nomatch hok.symm.trans hstatus
  | @revokes id hlive =>
    exact ⟨id, rfl, List.mem_append_right _ (List.mem_singleton_self id)⟩
  | _ => exact nomatch hstatus

/-- Work for a request that keeps the tokens leaves all that concerns them alone. -/
theorem sameTokens (h : Does o fresh s work s' reply) {who : StubCaller}
    (hpermits : Permits o now who request work) (hkeeps : request.KeepsTokens) :
    s'.SameTokens s := by
  cases hpermits with
  | issueToken hadmin hknown hexpiry => exact hkeeps.elim
  | revokeToken hadmin => exact hkeeps.elim
  | _ =>
    cases h
    exact ⟨rfl, rfl, rfl⟩

/-- Work that does not succeed changes nothing. -/
theorem eq_of_not_success (h : Does o fresh s work s' reply) (hfails : reply.isSuccess = false) :
    s' = s := by
  cases h with
  | reports hstatus =>
    exact nomatch hfails.symm.trans (StubReply.isSuccess_iff.mpr (by omega))
  | missing hnone => rfl
  | listsContainers => rfl
  | listsTasks => rfl
  | _ => exact nomatch hfails

end Does

end Stub

end Shakedown
