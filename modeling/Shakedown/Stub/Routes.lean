/-
  Shakedown.Stub.Routes

  How a stub agent reads a request that comes over HTTP.  Path and method
  choose the endpoint; path, query and body are then read before the request
  is handled, and one that cannot be read is rejected without being counted.
-/
import Shakedown.Http.Exchange
import Shakedown.Json.Reader
import Shakedown.Json.Writer
import Shakedown.Net.Form
import Shakedown.Stub.Basic

namespace Shakedown

open Net

/-- A request as it comes in.  Path and query are still percent-encoded. -/
structure IncomingRequest where
  method : String
  path : String
  query : String := ""
  authorization : Option String := none
  contentType : Option String := none
  body : List UInt8 := []
deriving DecidableEq, Repr

namespace Stub

/-! ## What can be asked for -/

/-- A path that a stub knows. -/
inductive Route where
  | systemInfo
  | tokens
  /-- One token, by its identifier. -/
  | token (id : List Char)
  | containers
  | tasks
deriving DecidableEq, Repr

def routeOf? (path : String) : Option Route :=
  if path = "/system/info" then some .systemInfo
  else if path = "/security/tokens" then some .tokens
  else if path = "/containers" then some .containers
  else if path = "/tasks" then some .tasks
  else
    let start := "/security/tokens/".toList
    let id := path.toList.drop start.length
    if start.isPrefixOf path.toList && !id.isEmpty && !id.contains '/' then some (.token id)
    else none

/-- What is asked for, before it has been read. -/
inductive Endpoint where
  | systemInfo
  | issueToken
  | revokeToken (id : List Char)
  | listContainers
  | createContainer
  | listTasks
deriving DecidableEq, Repr

/-- The endpoint of a method on a route.  `HEAD` asks for what `GET` does. -/
def endpointOf? (method : String) : Route → Option Endpoint
  | .systemInfo => if method = "GET" || method = "HEAD" then some .systemInfo else none
  | .tokens => if method = "POST" then some .issueToken else none
  | .token id => if method = "DELETE" then some (.revokeToken id) else none
  | .containers =>
    if method = "GET" || method = "HEAD" then some .listContainers
    else if method = "POST" then some .createContainer
    else none
  | .tasks => if method = "GET" || method = "HEAD" then some .listTasks else none

/-! ## Reading it -/

/-- A request that cannot be read. -/
def rejected (status : Nat) : StubReply := ⟨status, .rejection⟩

/-- Whether a content type is JSON's, or one built on it. -/
def isJsonType (contentType : String) : Bool :=
  let name := (Text.trim (contentType.toList.takeWhile (· ≠ ';'))).map Char.toLower
  name == "application/json".toList ||
    ("application/".toList.isPrefixOf name && "+json".toList.isSuffixOf name)

/-- How many bytes of a body are read at most. -/
def bodyLimit : Nat := 2097152

/-- What a request is told whose body is larger. -/
def tooLarge : StubReply :=
  .refusal 413 "Failed to buffer the request body: length limit exceeded"

/-- The document of a request: its content type has to be right, it must not be too large,
it has to be JSON, and it has to have the right shape. -/
def readDocument (r : IncomingRequest) (decode : Json → Option α) : Except StubReply α :=
  if !r.contentType.any isJsonType then .error (rejected 415)
  else if bodyLimit < r.body.length then .error tooLarge
  else match Json.readBytes? r.body with
    | none => .error (rejected 400)
    | some j => match decode j with
      | some a => .ok a
      | none => .error (rejected 422)

/-- The only value of a name in a query: none if it is missing, and a failure if it
stands twice. -/
def single? (pairs : List (String × String)) (name : String) : Option (Option String) :=
  match pairs.filter fun p => p.1 == name with
  | [] => some none
  | [p] => some (some p.2)
  | _ => none

/-- Reads the filter of a task listing from a query. -/
def filterOf? (query : String) : Option TaskFilter := do
  let pairs := Form.read query.toList
  let limit ← single? pairs "limit"
  let status ← single? pairs "status"
  match limit with
  | none => return { status }
  | some s =>
    let n ← Text.Decimal.readUpTo? (Nat.pow 2 32 - 1) s.toList
    return { limit := some (UInt32.ofNat n), status }

/-- Reads the identifier in a path. -/
def idOf? (id : List Char) : Option Uuid :=
  (Text.Utf8.decode? (Percent.decode id)).bind Uuid.ofText?

def readRequest (r : IncomingRequest) : Endpoint → Except StubReply Request
  | .systemInfo => .ok .systemInfo
  | .issueToken => (readDocument r TokenOrder.ofJson?).map .issueToken
  | .revokeToken id => match idOf? id with
    | some id => .ok (.revokeToken id)
    | none => .error (rejected 400)
  | .listContainers => .ok .listContainers
  | .createContainer => (readDocument r ContainerOrder.ofJson?).map .createContainer
  | .listTasks => match filterOf? r.query with
    | some filter => .ok (.listTasks filter)
    | none => .error (rejected 400)

def read (r : IncomingRequest) : Except StubReply Request :=
  match routeOf? r.path with
  | none => .error ⟨404, .nothing⟩
  | some route => match endpointOf? r.method route with
    | none => .error ⟨405, .nothing⟩
    | some endpoint => readRequest r endpoint

/-- The bytes of an answer's body. -/
def bodyOf (reply : StubReply) : List UInt8 :=
  match reply.content with
  | .nothing => []
  | .text s => Text.Utf8.encode s
  | .document j => Text.Utf8.encode j.text
  | .rejection => Text.Utf8.encode "rejected"

end Stub

end Shakedown
