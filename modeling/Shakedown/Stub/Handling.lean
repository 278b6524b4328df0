/-
  Shakedown.Stub.Handling

  How a stub agent handles a request, in two steps.  Admission counts the
  call, looks at who is calling and what is asked, and either refuses or
  says what is to be done.  Doing it comes later, all at once; other
  requests may be handled in between.
-/
import Shakedown.Stub.Basic
import Shakedown.Time.Rfc3339

namespace Shakedown

/-- Who makes a request. -/
inductive StubCaller where
  | admin
  | holder (token : GrantedToken)
deriving DecidableEq, Repr

/-- What an admitted request is to do. -/
inductive StubWork where
  | report
  | issueToken (order : TokenOrder) (expiresAt : Moment)
  | revokeToken (id : Uuid)
  | createContainer (order : ContainerOrder)
  | listContainers
  | listTasks (filter : TaskFilter)
deriving DecidableEq, Repr

namespace Stub

/-! ## Callers -/

/-- The token that the value of an `Authorization` header presents: what follows
`Bearer `, without blanks around it.  A value outside visible ASCII presents none. -/
def bearer? (header : String) : Option String :=
  let isVisible (c : Char) : Bool := c = '\t' || (32 ≤ c.toNat && c.toNat < 127)
  if "Bearer ".toList.isPrefixOf header.toList && header.toList.all isVisible then
    let token := Text.trim (header.toList.drop 7)
    if token.isEmpty then none else some (String.ofList token)
  else none

/-- The caller that a token stands for: the admin, or the holder of a token that was
issued, is not revoked and has not expired. -/
def caller (o : StubProfile) (s : StubStore) (now : Moment) (bearer : Option String) :
    Except StubReply StubCaller :=
  match bearer with
  | none => .error (.refusal 401 "missing bearer token")
  | some token =>
    -- The admin's token never expires, and is the admin's even if it was issued too.
    if token = o.adminToken then .ok .admin
    else match s.tokens.find? fun t => t.secret == token with
      | some t => if now.before t.expiresAt then .ok (.holder t)
        else .error (.refusal 401 "invalid token")
      | none => .error (.refusal 401 "invalid token")

/-- Whether a caller may do what a scope stands for. -/
def allows (o : StubProfile) (scope : String) : StubCaller → Bool
  | .admin => true
  | .holder t => o.ignoreScopes || t.scopes.contains scope

/-- What the admin alone may do. -/
def adminOnly (work : Except StubReply StubWork) : StubCaller → Except StubReply StubWork
  | .admin => work
  | .holder _ => .error (.refusal 403 "admin only")

/-- What a caller may do who has a scope. -/
def holding (o : StubProfile) (scope : String) (work : StubWork) (c : StubCaller) :
    Except StubReply StubWork :=
  if allows o scope c then .ok work else .error (.refusal 403 "insufficient scope")

/-! ## Admission -/

/-- What is to be done about an order for a token: its name is not blank, its scopes are
known, and its expiry is a timestamp in the future. -/
def checkOrder (now : Moment) (order : TokenOrder) : Except StubReply StubWork :=
  if Text.blank order.name then .error (.refusal 400 "name is required")
  else match order.scopes.find? fun s => !stubScopes.contains s with
    | some unknown => .error (.refusal 400 ("unknown scope " ++ unknown))
    | none => match Time.Rfc3339.read? order.expiresAt with
      | none => .error (.refusal 400 "expires_at must be RFC 3339")
      | some expiresAt =>
        if now.before expiresAt then .ok (.issueToken order expiresAt)
        else .error (.refusal 400 "expires_at must be in the future")

def countCall (calls : StubCalls) : Request → StubCalls
  | .health => { calls with health := calls.health + 1 }
  | .systemInfo => { calls with health := calls.health + 1 }
  | .issueToken _ => { calls with issue := calls.issue + 1 }
  | .revokeToken _ => calls
  | .createContainer _ => { calls with create := calls.create + 1 }
  | .listContainers => { calls with listContainers := calls.listContainers + 1 }
  | .listTasks _ => { calls with listTasks := calls.listTasks + 1 }

/-- Whether a stub that was asked for its system information so often is still starting. -/
def isStarting (o : StubProfile) (calls : StubCalls) : Request → Bool
  | .health => calls.health ≤ o.healthFailures
  | .systemInfo => calls.health ≤ o.healthFailures
  | _ => false

/-- What a caller's request is to do. -/
def workOf (o : StubProfile) (now : Moment) (c : StubCaller) : Request → Except StubReply StubWork
  | .health => .ok .report
  | .systemInfo => .ok .report
  | .issueToken order => adminOnly (checkOrder now order) c
  | .revokeToken id => adminOnly (.ok (.revokeToken id)) c
  | .createContainer order => holding o Scope.createContainers (.createContainer order) c
  | .listContainers => holding o Scope.readContainers .listContainers c
  | .listTasks filter => holding o Scope.readTasks (.listTasks filter) c

/-- What a request that presents a token is to do, if its caller may have it done. -/
def authorise (o : StubProfile) (s : StubStore) (now : Moment) (bearer : Option String)
    (r : Request) : Except StubReply StubWork :=
  (caller o s now bearer).bind fun c => workOf o now c r

/-- Admits a request that arrives at a moment, or refuses it. -/
def accept (o : StubProfile) (s : StubStore) (now : Moment) (bearer : Option String)
    (r : Request) : StubStore × Except StubReply StubWork :=
  let calls := countCall s.calls r
  let work :=
    -- A stub that is starting looks at nobody's token.
    if isStarting o calls r then .error (.refusal 503 "starting")
    else authorise o s now bearer r
  ({ s with calls }, work)

/-! ## Doing what was admitted -/

/-- What a stub says about itself. -/
def systemReport : SystemReport where
  version := "0.0.0-stub"
  build := "stub"
  uptimeSeconds := 1
  driverStatus := "not-configured"

/-- The secret of a token. -/
def secretOf (u : Uuid) : String :=
  "orbit_" ++ String.ofList u.simple

/-- Issues a token.  It takes two fresh identifiers, for the token and for its secret. -/
def issue (fresh : Nat → Uuid) (s : StubStore) (order : TokenOrder) (expiresAt : Moment) :
    StubStore × StubReply :=
  let id := fresh s.drawn
  let secret := secretOf (fresh (s.drawn + 1))
  let grant : TokenGrant :=
    ⟨secret, some id, some order.name, order.scopes, some order.expiresAt⟩
  ({ s with
      tokens := s.tokens.filter (fun t => t.secret != secret) ++ [⟨secret, id, order.scopes, expiresAt⟩]
      issued := s.issued ++ [order]
      drawn := s.drawn + 2 },
    ⟨201, .document grant.toJson⟩)

/-- Revokes a token, if it is there. -/
def revoke (s : StubStore) (id : Uuid) : StubStore × StubReply :=
  if s.tokens.any fun t => t.id == id then
    ({ s with tokens := s.tokens.filter (fun t => t.id != id), revoked := s.revoked ++ [id] },
      ⟨204, .nothing⟩)
  else (s, ⟨404, .nothing⟩)

/-- Records a container and the task of its creation. -/
def create (o : StubProfile) (fresh : Nat → Uuid) (s : StubStore) (order : ContainerOrder) :
    StubStore × StubReply :=
  let (taskId, drawn) := if o.omitTaskId then ("", s.drawn) else ((fresh s.drawn).text, s.drawn + 1)
  let task : AgentTask := { id := taskId, status := .queued, kind := "container.create" }
  let container : Container := ⟨(fresh drawn).text, order.name, "creating", order.platform⟩
  ({ s with
      containers := s.containers ++ [container]
      tasks := if o.dropTasks then s.tasks else s.tasks ++ [task]
      drawn := drawn + 1 },
    .ok task.toJson)

/-- Whether a task passes the status of a filter, whatever the case of its letters. -/
def passes (filter : TaskFilter) (t : AgentTask) : Bool :=
  match filter.status with
  | some status => t.status.text == String.ofList (status.toList.map Char.toLower)
  | none => true

/-- How many tasks a filter lets through at most: what it asks for, between 1 and 500. -/
def limitOf (filter : TaskFilter) (count : Nat) : Nat :=
  match filter.limit with
  | some n => Nat.min (Nat.max n.toNat 1) 500
  | none => count

/-- The tasks that a filter selects, latest first. -/
def select (filter : TaskFilter) (tasks : List AgentTask) : List AgentTask :=
  (tasks.reverse.filter (passes filter)).take (limitOf filter tasks.length)

/-- Does what was admitted. -/
def perform (o : StubProfile) (fresh : Nat → Uuid) (s : StubStore) :
    StubWork → StubStore × StubReply
  | .report => (s, if o.plainHealth then ⟨200, .text "ok"⟩ else .ok systemReport.toJson)
  | .issueToken order expiresAt => issue fresh s order expiresAt
  | .revokeToken id => revoke s id
  | .createContainer order => create o fresh s order
  | .listContainers => (s, .ok (Json.list Container.toJson s.containers))
  | .listTasks filter => (s, .ok (Json.list AgentTask.toJson (select filter s.tasks)))

/-- How long a stub takes from admission to doing the work. -/
def delayOf (o : StubProfile) : StubWork → Nat
  | .createContainer _ => o.createDelay.nanoseconds
  | _ => 0

end Stub

end Shakedown
