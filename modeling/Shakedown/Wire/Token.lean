/-
  Shakedown.Wire.Token

  The two documents of token issuance: what the harness orders, and what the
  agent grants.  An order has all its fields; in a grant every field falls
  back to nothing.
-/
import Shakedown.Json.Record
import Shakedown.Uuid

namespace Shakedown

open Json

/-- An order for a scoped token.  The expiry is an absolute timestamp. -/
structure TokenOrder where
  name : String
  scopes : List String
  expiresAt : String
deriving DecidableEq, Repr

structure TokenGrant where
  token : String := ""
  id : Option Uuid := none
  name : Option String := none
  scopes : List String := []
  expiresAt : Option String := none
deriving DecidableEq, Repr, Inhabited

namespace TokenOrder

/-- The field names in the order of an array. -/
def names : List String := ["name", "scopes", "expires_at"]

def toJson (o : TokenOrder) : Json :=
  .object [("name", o.name), ("scopes", list .string o.scopes), ("expires_at", o.expiresAt)]

def ofJson? (j : Json) : Option TokenOrder := do
  match ← j.fields? names with
  | [name, scopes, expiresAt] =>
    return {
      name := ← required string? name
      scopes := ← required (list? string?) scopes
      expiresAt := ← required string? expiresAt }
  | _ => none

end TokenOrder

def Uuid.toJson (u : Uuid) : Json := .string u.text

/-- An identifier in any of its written forms. -/
def Uuid.ofJson? (j : Json) : Option Uuid :=
  j.string?.bind Uuid.ofText?

namespace TokenGrant

/-- The field names in the order of an array. -/
def names : List String := ["token", "id", "name", "scopes", "expires_at"]

def toJson (g : TokenGrant) : Json :=
  .object [("token", g.token), ("id", option Uuid.toJson g.id), ("name", option .string g.name),
    ("scopes", list .string g.scopes), ("expires_at", option .string g.expiresAt)]

def ofJson? (j : Json) : Option TokenGrant := do
  match ← j.fields? names with
  | [token, id, name, scopes, expiresAt] =>
    return {
      token := ← withDefault "" string? token
      id := ← withDefault none (nullable? Uuid.ofJson?) id
      name := ← withDefault none (nullable? string?) name
      scopes := ← withDefault [] (list? string?) scopes
      expiresAt := ← withDefault none (nullable? string?) expiresAt }
  | _ => none

end TokenGrant

end Shakedown
