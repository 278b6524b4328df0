/-
  Shakedown.Token.Issue

  Ordering a scoped token from a running agent, and revoking it.  The expiry
  is computed here, from a clock reading and the time to live, and ordered as
  an absolute timestamp; what each scope permits is the agent's business, so
  scope names pass through untouched.
-/
import Shakedown.Plan
import Shakedown.Text.Blank
import Shakedown.Time.Rfc3339
import Shakedown.Token.Basic

namespace Shakedown

/-- What token to ask for.  Scopes are ordered in the order given. -/
structure TokenParameters where
  name : String := "smoke-cli"
  scopes : List String := [Scope.createContainers, Scope.readTasks]
  ttl : Duration := .ofSeconds 3600
deriving DecidableEq, Repr, Inhabited

/-- Why no token was issued. -/
inductive IssueFault where
  /-- The agent answered the order with another status than success. -/
  | rejected (code : Nat) (body : String)
  /-- The order failed in any other way. -/
  | transport (message : String)
  /-- The agent granted a blank token. -/
  | missingToken
  /-- The expiry of such a token has no timestamp. -/
  | invalidTtl (ttl : Duration)
deriving DecidableEq, Repr

namespace IssueFault

/-- The text of a fault. -/
def message : IssueFault → String
  | .rejected code body =>
    "agent rejected token request (HTTP " ++ Text.Decimal.text code ++ "): " ++ body
  | .transport m => "token request failed: " ++ m
  | .missingToken => "agent response did not include a token"
  | .invalidTtl ttl =>
    "token ttl " ++ ttl.text ++ " cannot be represented as an expiry timestamp"

/-- A failed call of the agent as a reason why no token was issued. -/
def ofApi : ApiFault → IssueFault
  | .status code body => .rejected code body
  | f => .transport f.message

end IssueFault

namespace Token

/-! ## Issuing -/

/-- The expiry of a token issued now. -/
def expiry (now : Moment) (ttl : Duration) : Except IssueFault Moment :=
  match now.add? ttl with
  | some at_ => .ok at_
  | none => .error (.invalidTtl ttl)

def order (request : TokenParameters) (expiresAt : Moment) : TokenOrder :=
  ⟨request.name, request.scopes, expiresAt.timestamp⟩

/-- The token of a grant.  What the grant does not say is taken from the request;
an expiry that is no timestamp counts as not said. -/
def ofGrant (request : TokenParameters) (expiresAt : Moment) (g : TokenGrant) :
    Except IssueFault ScopedToken :=
  if Text.blank g.token then .error .missingToken
  else .ok {
    secret := g.token
    id := g.id
    name := g.name.getD request.name
    scopes := Scopes.ofList (if g.scopes.isEmpty then request.scopes else g.scopes)
    expiresAt := (g.expiresAt.bind Time.Rfc3339.read?).getD expiresAt }

/-- Orders a token with the admin credential. -/
def issue (adminToken : String) (request : TokenParameters) (now : Moment) :
    Plan (Except IssueFault ScopedToken) :=
  match expiry now request.ttl with
  | .error f => .done (.error f)
  | .ok expiresAt =>
    .ask ⟨adminToken, .issueToken (order request expiresAt)⟩ fun
      | .error f => .done (.error (.ofApi f))
      | .ok grant => .done (ofGrant request expiresAt grant)

/-! ## Revoking -/

/-- Revokes a token with the admin credential.  Says whether there was anything
to revoke: a token the agent gave no identifier for is left alone. -/
def revoke (adminToken : String) (t : ScopedToken) : Plan (Except ApiFault Bool) :=
  match t.id with
  | none => .done (.ok false)
  | some id =>
    .ask ⟨adminToken, .revokeToken id⟩ fun
      | .error f => .done (.error f)
      | .ok () => .done (.ok true)

end Token

end Shakedown
