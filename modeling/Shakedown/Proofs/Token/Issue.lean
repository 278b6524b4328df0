/-
  Shakedown.Proofs.Token.Issue

  What ordering a token comes to: the token, a fault, or nothing at all if
  the order is never answered.
-/
import Shakedown.Proofs.Plan.Runs
import Shakedown.Token.Issue

namespace Shakedown.Token

variable {σ : Type} {api : Api σ} {adminToken : String} {request : TokenParameters} {now : Moment}

/-- The call that orders a token to expire at a moment. -/
def orderCall (adminToken : String) (request : TokenParameters) (expiresAt : Moment) : Call :=
  ⟨adminToken, .issueToken (order request expiresAt)⟩

/-- A token ordered at `p`, when it is `now`, is issued at `q`: its expiry has a
timestamp, and the order is granted with a text that is not blank. -/
def Issues (api : Api σ) (adminToken : String) (request : TokenParameters) (now : Moment)
    (p : Standing σ) (token : ScopedToken) (q : Standing σ) : Prop :=
  ∃ expiresAt grant, now.add? request.ttl = some expiresAt ∧
    api.Answers p (orderCall adminToken request expiresAt) (.ok grant) q ∧
    Text.blank grant.token = false ∧ ofGrant request expiresAt grant = .ok token

/-- A token ordered at `p` is not issued, and why. -/
inductive IssueFails (api : Api σ) (adminToken : String) (request : TokenParameters)
    (now : Moment) (p : Standing σ) : IssueFault → Standing σ → Prop where
  | invalidTtl (hexpiry : now.add? request.ttl = none) :
      IssueFails api adminToken request now p (.invalidTtl request.ttl) p
  | refused {expiresAt : Moment} {f : ApiFault} {q : Standing σ}
      (hexpiry : now.add? request.ttl = some expiresAt)
      (h : api.Answers p (orderCall adminToken request expiresAt) (.error f) q) :
      IssueFails api adminToken request now p (.ofApi f) q
  | missingToken {expiresAt : Moment} {grant : TokenGrant} {q : Standing σ}
      (hexpiry : now.add? request.ttl = some expiresAt)
      (h : api.Answers p (orderCall adminToken request expiresAt) (.ok grant) q)
      (hblank : Text.blank grant.token = true) :
      IssueFails api adminToken request now p .missingToken q

/-- The order made at `p` is never answered. -/
def IssueStalls (api : Api σ) (adminToken : String) (request : TokenParameters) (now : Moment)
    (p : Standing σ) : Prop :=
  ∃ expiresAt, now.add? request.ttl = some expiresAt ∧
    api.Ignores p (orderCall adminToken request expiresAt)

/-- What the answer to an order comes to. -/
def ofReply (request : TokenParameters) (expiresAt : Moment) :
    Except ApiFault TokenGrant → Except IssueFault ScopedToken
  | .error f => .error (.ofApi f)
  | .ok grant => ofGrant request expiresAt grant

/-- An order with an expiry is one call and what its answer comes to. -/
theorem issue_of_expiry {expiresAt : Moment} (h : now.add? request.ttl = some expiresAt) :
    issue adminToken request now =
      .ask (orderCall adminToken request expiresAt) fun r =>
        .done (ofReply request expiresAt r) := by
  rw [issue, expiry, h]
  refine congrArg (Plan.ask _) (funext fun r => ?_)
  cases r <;> rfl

/-- An order without one is no call. -/
theorem issue_of_no_expiry (h : now.add? request.ttl = none) :
    issue adminToken request now = .done (.error (.invalidTtl request.ttl)) := by
  rw [issue, expiry, h]

theorem runs_issue_of_no_expiry (h : now.add? request.ttl = none) (api : Api σ)
    (adminToken : String) (p : Standing σ) :
    (issue adminToken request now).Runs api p []
      (some (.error (.invalidTtl request.ttl), p)) := by
  rw [issue_of_no_expiry h]
  exact .done api _ p

/-- An order that is answered comes to what its answer comes to. -/
theorem runs_issue_of_answers {expiresAt : Moment} {p q : Standing σ}
    {r : Except ApiFault TokenGrant} (h : now.add? request.ttl = some expiresAt)
    (hr : api.Answers p (orderCall adminToken request expiresAt) r q) :
    (issue adminToken request now).Runs api p
      [⟨p.now, orderCall adminToken request expiresAt⟩]
      (some (ofReply request expiresAt r, q)) := by
  rw [issue_of_expiry h]
  exact .ask hr (.done api _ q)

theorem runs_issue_of_ignores {expiresAt : Moment} {p : Standing σ}
    (h : now.add? request.ttl = some expiresAt)
    (hnone : api.Ignores p (orderCall adminToken request expiresAt)) :
    (issue adminToken request now).Runs api p
      [⟨p.now, orderCall adminToken request expiresAt⟩] none := by
  rw [issue_of_expiry h]
  exact .ask_of_ignores hnone _

theorem ofGrant_of_blank {expiresAt : Moment} {grant : TokenGrant}
    (h : Text.blank grant.token = true) :
    ofGrant request expiresAt grant = .error .missingToken :=
  if_pos h

/-- Every grant that is not blank makes a token, whose secret is its text. -/
theorem exists_ofGrant (request : TokenParameters) (expiresAt : Moment) {grant : TokenGrant}
    (h : Text.blank grant.token = false) :
    ∃ token, ofGrant request expiresAt grant = .ok token ∧ token.secret = grant.token := by
  refine ⟨_, if_neg ?_, rfl⟩
  rw [h]
  exact Bool.false_ne_true

theorem outcome?_issue_of_issues {token : ScopedToken} {p q : Standing σ}
    (h : Issues api adminToken request now p token q) :
    (issue adminToken request now).outcome? api p = some (.ok token, q) := by
  obtain ⟨expiresAt, grant, hexpiry, hgrant, -, htoken⟩ := h
  rw [← htoken]
  exact (runs_issue_of_answers hexpiry hgrant).2

theorem outcome?_issue_of_issueFails {f : IssueFault} {p q : Standing σ}
    (h : IssueFails api adminToken request now p f q) :
    (issue adminToken request now).outcome? api p = some (.error f, q) := by
  cases h with
  | invalidTtl hexpiry => exact (runs_issue_of_no_expiry hexpiry api adminToken p).2
  | refused hexpiry hfault => exact (runs_issue_of_answers hexpiry hfault).2
  | @missingToken expiresAt grant _ hexpiry hgrant hblank =>
    rw [← ofGrant_of_blank hblank]
    exact (runs_issue_of_answers hexpiry hgrant).2

theorem outcome?_issue_of_issueStalls {p : Standing σ}
    (h : IssueStalls api adminToken request now p) :
    (issue adminToken request now).outcome? api p = none := by
  obtain ⟨expiresAt, hexpiry, hnone⟩ := h
  exact (runs_issue_of_ignores hexpiry hnone).2

/-- An order is granted or refused, or it is never answered. -/
theorem issues_or_issueFails_or_issueStalls (api : Api σ) (adminToken : String)
    (request : TokenParameters) (now : Moment) (p : Standing σ) :
    (∃ token q, Issues api adminToken request now p token q) ∨
      (∃ f q, IssueFails api adminToken request now p f q) ∨
      IssueStalls api adminToken request now p := by
  cases hexpiry : now.add? request.ttl with
  | none => exact Or.inr (Or.inl ⟨_, p, .invalidTtl hexpiry⟩)
  | some expiresAt =>
    rcases api.answers_or_ignores p (orderCall adminToken request expiresAt) with
      ⟨r, q, hr⟩ | hnone
    · cases r with
      | error f => exact Or.inr (Or.inl ⟨_, q, .refused hexpiry hr⟩)
      | ok grant =>
        cases hblank : Text.blank grant.token with
        | true => exact Or.inr (Or.inl ⟨_, q, .missingToken hexpiry hr hblank⟩)
        | false =>
          obtain ⟨token, htoken, -⟩ := exists_ofGrant request expiresAt hblank
          exact Or.inl ⟨token, q, expiresAt, grant, hexpiry, hr, hblank, htoken⟩
    · exact Or.inr (Or.inr ⟨expiresAt, hexpiry, hnone⟩)

end Shakedown.Token
