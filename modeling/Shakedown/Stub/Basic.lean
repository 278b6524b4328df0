/-
  Shakedown.Stub.Basic

  A stub agent: it speaks the agent's API but launches nothing.  It keeps the
  tokens it issued, the containers it was asked for and a task for each, and
  counts its calls.  Options make it slow, broken or forgetful.
-/
import Shakedown.Api.Request
import Shakedown.Launch
import Shakedown.Time.Moment
import Shakedown.Token.Basic

namespace Shakedown

/-- How a stub agent behaves. -/
structure StubProfile where
  adminToken : String := standardAdminToken
  /-- So many requests for the system information are answered with 503 first. -/
  healthFailures : Nat := 0
  /-- The system information is answered with the plain text `ok`. -/
  plainHealth : Bool := false
  /-- How long an accepted creation takes to be answered. -/
  createDelay : Duration := .zero
  /-- Creations are answered with a task that has no identifier. -/
  omitTaskId : Bool := false
  /-- Creations record no task. -/
  dropTasks : Bool := false
  /-- Every valid token may do everything. -/
  ignoreScopes : Bool := false
deriving DecidableEq, Repr, Inhabited

def stubScopes : List String :=
  [Scope.readContainers, Scope.createContainers, Scope.readTasks]

/-- A token that a stub issued. -/
structure GrantedToken where
  secret : String
  id : Uuid
  scopes : List String
  expiresAt : Moment
deriving DecidableEq, Repr

/-- How often each endpoint was called. -/
structure StubCalls where
  health : Nat := 0
  issue : Nat := 0
  create : Nat := 0
  listTasks : Nat := 0
  listContainers : Nat := 0
deriving DecidableEq, Repr, Inhabited

/-- What a stub remembers.  `drawn` counts the fresh identifiers it has used up. -/
structure StubStore where
  calls : StubCalls := {}
  tokens : List GrantedToken := []
  containers : List Container := []
  tasks : List AgentTask := []
  revoked : List Uuid := []
  issued : List TokenOrder := []
  drawn : Nat := 0
deriving DecidableEq, Repr, Inhabited

/-- What an answer of a stub holds besides its status.  The wording of a rejection,
which comes before any handling, is left open. -/
inductive StubContent where
  | nothing
  | text (s : String)
  | document (j : Json)
  | rejection

/-- An answer of a stub. -/
structure StubReply where
  status : Nat
  content : StubContent

namespace StubReply

def refusal (status : Nat) (reason : String) : StubReply :=
  ⟨status, .text reason⟩

/-- A success with its document. -/
def ok (j : Json) : StubReply :=
  ⟨200, .document j⟩

/-- Whether the status tells success. -/
def isSuccess (r : StubReply) : Bool :=
  200 ≤ r.status && r.status ≤ 299

end StubReply

end Shakedown
