/-
  Shakedown.Token.Basic

  A token issued by the agent.  Its secret is the bearer value of the calls
  made with it; everywhere else it is known by its fingerprint, which tells
  nothing about the secret.
-/
import Shakedown.Sha256
import Shakedown.Text.Quoted
import Shakedown.Text.Utf8
import Shakedown.Time.Moment
import Shakedown.Token.Scopes
import Shakedown.Uuid

namespace Shakedown

/-- A scoped token.  The identifier is what the agent knows it by; without one
it cannot be revoked. -/
structure ScopedToken where
  secret : String
  id : Option Uuid
  name : String
  scopes : Scopes
  expiresAt : Moment
deriving DecidableEq, Repr

/-- The first twelve hexadecimal digits of the SHA-256 digest of a secret. -/
def fingerprint (secret : String) : String :=
  String.ofList ((Text.Hex.ofBytes (Sha256.digest (Text.Utf8.encode secret))).take 12)

namespace ScopedToken

def fingerprint (t : ScopedToken) : String :=
  Shakedown.fingerprint t.secret

def holds (t : ScopedToken) (scope : String) : Bool :=
  t.scopes.contains scope

/-- The debug text of a token, which shows the fingerprint in place of the secret. -/
def debugText (t : ScopedToken) : String :=
  let id := match t.id with
    | some u => "Some(" ++ u.text ++ ")"
    | none => "None"
  "IssuedToken \x7b fingerprint: " ++ Text.quoted t.fingerprint ++ ", id: " ++ id ++
    ", name: " ++ Text.quoted t.name ++ ", scopes: \x7b" ++
    String.intercalate ", " (t.scopes.names.map Text.quoted) ++ "\x7d, expires_at: " ++
    t.expiresAt.exactText ++ " \x7d"

end ScopedToken

/-! ## Scopes of the agent -/

namespace Scope

/-- The scope that listing containers takes. -/
def readContainers : String := "containers:read"

/-- The scope that creating containers takes. -/
def createContainers : String := "containers:write"

/-- The scope that listing tasks takes. -/
def readTasks : String := "tasks:read"

end Scope

end Shakedown
