/-
  Shakedown.Proofs.Stub.Admission

  Whom a stub agent takes a caller for, and what it admits.  A token stands
  for the admin, for the holder of a token that was issued and has not
  expired, or for nobody; what is admitted is what some caller may do, and
  every refusal says why.
-/
import Shakedown.Http.Client
import Shakedown.Stub.Handling

namespace Shakedown

/-! ## Callers -/

namespace Stub

variable {o : StubProfile} {s : StubStore} {now : Moment} {token : String}

theorem caller_admin (o : StubProfile) (s : StubStore) (now : Moment) :
    caller o s now (some o.adminToken) = .ok .admin :=
  if_pos rfl

/-- A store finds a token by its secret. -/
def Finds (s : StubStore) (token : String) (t : GrantedToken) : Prop :=
  (s.tokens.find? fun t => t.secret == token) = some t

theorem Finds.mem {t : GrantedToken} (h : Finds s token t) : t ∈ s.tokens ∧ t.secret = token :=
  ⟨List.mem_of_find?_eq_some h,
    beq_iff_eq.mp (List.find?_some (p := fun t : GrantedToken => t.secret == token) h)⟩

theorem caller_holder {t : GrantedToken} (hother : token ≠ o.adminToken) (hfinds : Finds s token t)
    (hvalid : now.before t.expiresAt = true) :
    caller o s now (some token) = .ok (.holder t) := by
  rw [caller, if_neg hother, hfinds]
  exact if_pos hvalid

/-- A token that stands for nobody is none that was issued, or it has expired. -/
theorem caller_nobody (hother : token ≠ o.adminToken)
    (hexpired : ∀ t, Finds s token t → now.before t.expiresAt = false) :
    caller o s now (some token) = .error (.refusal 401 "invalid token") := by
  rw [caller, if_neg hother]
  cases hfind : s.tokens.find? fun t => t.secret == token with
  | none => rfl
  | some t => exact if_neg (Bool.eq_false_iff.mp (hexpired t hfind))

/-- Whom a token stands for. -/
theorem caller_cases (o : StubProfile) (s : StubStore) (now : Moment) (token : String) :
    token = o.adminToken ∨
      token ≠ o.adminToken ∧ ((∃ t, Finds s token t ∧ now.before t.expiresAt = true) ∨
        ∀ t, Finds s token t → now.before t.expiresAt = false) := by
  by_cases hadmin : token = o.adminToken
  · exact Or.inl hadmin
  · refine Or.inr ⟨hadmin, ?_⟩
    cases hfind : s.tokens.find? fun t => t.secret == token with
    | none => exact Or.inr fun t ht => nomatch hfind.symm.trans ht
    | some t =>
      cases hvalid : now.before t.expiresAt with
      | true => exact Or.inl ⟨t, hfind, hvalid⟩
      | false =>
        refine Or.inr fun t' ht' => ?_
        obtain rfl := Option.some.inj (hfind.symm.trans ht')
        exact hvalid

/-- A caller is the admin, who presents the admin token, or the holder of a token that is
found in the store and has not expired. -/
theorem caller_ok {bearer : Option String} {who : StubCaller}
    (h : caller o s now bearer = .ok who) :
    who = .admin ∧ bearer = some o.adminToken ∨
      ∃ token t, bearer = some token ∧ token ≠ o.adminToken ∧ who = .holder t ∧
        Finds s token t ∧ now.before t.expiresAt = true := by
  cases bearer with
  | none => exact nomatch h
  | some token =>
    rcases caller_cases o s now token with rfl | ⟨hother, ⟨t, hfinds, hvalid⟩ | hexpired⟩
    · exact Or.inl ⟨(Except.ok.inj ((caller_admin o s now).symm.trans h)).symm, rfl⟩
    · refine Or.inr ⟨token, t, rfl, hother, ?_, hfinds, hvalid⟩
      exact (Except.ok.inj ((caller_holder hother hfinds hvalid).symm.trans h)).symm
    · exact nomatch (caller_nobody hother hexpired).symm.trans h

end Stub

/-! ## Admission -/

/-- A store that has counted a request. -/
def StubStore.counting (s : StubStore) (r : Request) : StubStore :=
  { s with calls := Stub.countCall s.calls r }

namespace Stub

variable {o : StubProfile} {s : StubStore} {now : Moment} {token : String} {r : Request}

theorem accept_starting (h : isStarting o (countCall s.calls r) r = true)
    (bearer : Option String) : (accept o s now bearer r).2 = .error (.refusal 503 "starting") :=
  if_pos h

theorem accept_nobody {reply : StubReply} (hstarted : isStarting o (countCall s.calls r) r = false)
    {bearer : Option String} (h : caller o s now bearer = .error reply) :
    (accept o s now bearer r).2 = .error reply := by
  rw [accept, hstarted]
  dsimp only
  rw [authorise, h]
  rfl

theorem accept_of_caller {c : StubCaller} (hstarted : isStarting o (countCall s.calls r) r = false)
    (h : caller o s now (some token) = .ok c) :
    (accept o s now (some token) r).2 = workOf o now c r := by
  rw [accept, hstarted]
  dsimp only
  rw [authorise, h]
  rfl

theorem authorise_ok {bearer : Option String} {work : StubWork}
    (h : authorise o s now bearer r = .ok work) :
    ∃ who, caller o s now bearer = .ok who ∧ workOf o now who r = .ok work := by
  rw [authorise] at h
  cases hcaller : caller o s now bearer with
  | error reply =>
    rw [hcaller] at h
    exact nomatch h
  | ok who =>
    rw [hcaller] at h
    exact ⟨who, rfl, h⟩

/-- What is admitted is what some caller may do. -/
theorem accept_admits {bearer : Option String} {work : StubWork}
    (h : (accept o s now bearer r).2 = .ok work) :
    ∃ who, caller o s now bearer = .ok who ∧ workOf o now who r = .ok work := by
  rw [accept] at h
  dsimp only at h
  -- A stub that is starting admits nobody.
  split at h
  · exact nomatch h
  · exact authorise_ok h

/-- An answer that tells of no success, and why. -/
def Refuses (reply : StubReply) : Prop :=
  ∃ status reason, reply = .refusal status reason ∧ HttpClient.isSuccess status = false

theorem caller_refuses {bearer : Option String} {reply : StubReply}
    (h : caller o s now bearer = .error reply) : Refuses reply := by
  cases bearer with
  | none => exact ⟨401, _, (Except.error.inj h).symm, rfl⟩
  | some token =>
    rcases caller_cases o s now token with rfl | ⟨hother, ⟨t, hfinds, hvalid⟩ | hexpired⟩
    · exact nomatch (caller_admin o s now).symm.trans h
    · exact nomatch (caller_holder hother hfinds hvalid).symm.trans h
    · exact ⟨401, _, Except.error.inj (h.symm.trans (caller_nobody hother hexpired)), rfl⟩

theorem checkOrder_refuses {order : TokenOrder} {reply : StubReply}
    (h : checkOrder now order = .error reply) : Refuses reply := by
  rw [checkOrder] at h
  split at h
  · exact ⟨400, _, (Except.error.inj h).symm, rfl⟩
  · split at h
    · exact ⟨400, _, (Except.error.inj h).symm, rfl⟩
    · split at h
      · exact ⟨400, _, (Except.error.inj h).symm, rfl⟩
      · split at h
        · exact nomatch h
        · exact ⟨400, _, (Except.error.inj h).symm, rfl⟩

theorem holding_refuses {scope : String} {work : StubWork} {who : StubCaller} {reply : StubReply}
    (h : holding o scope work who = .error reply) : Refuses reply := by
  rw [holding] at h
  split at h
  · exact nomatch h
  · exact ⟨403, _, (Except.error.inj h).symm, rfl⟩

theorem workOf_refuses {who : StubCaller} {reply : StubReply}
    (h : workOf o now who r = .error reply) : Refuses reply := by
  -- What only the admin may do is refused to all others in the same way.
  have hadmin : ∀ work : Except StubReply StubWork, (work = .error reply → Refuses reply) →
      adminOnly work who = .error reply → Refuses reply := by
    intro work hwork h
    cases who with
    | admin => exact hwork h
    | holder t => exact ⟨403, _, (Except.error.inj h).symm, rfl⟩
  cases r with
  | health => exact nomatch h
  | systemInfo => exact nomatch h
  | issueToken order => exact hadmin _ checkOrder_refuses h
  | revokeToken id => exact hadmin (.ok (.revokeToken id)) nofun h
  | createContainer order => exact holding_refuses h
  | listContainers => exact holding_refuses h
  | listTasks filter => exact holding_refuses h

theorem authorise_refuses {bearer : Option String} {reply : StubReply}
    (h : authorise o s now bearer r = .error reply) : Refuses reply := by
  rw [authorise] at h
  cases hcaller : caller o s now bearer with
  | error reply' =>
    rw [hcaller] at h
    obtain rfl := Except.error.inj h
    exact caller_refuses hcaller
  | ok who =>
    rw [hcaller] at h
    exact workOf_refuses h

/-- A request that is not admitted is told so with a status that is no success. -/
theorem accept_refuses {bearer : Option String} {reply : StubReply}
    (h : (accept o s now bearer r).2 = .error reply) : Refuses reply := by
  rw [accept] at h
  dsimp only at h
  split at h
  · exact ⟨503, _, (Except.error.inj h).symm, rfl⟩
  · exact authorise_refuses h

end Stub

end Shakedown
