/-
  Shakedown.Http.Client

  The agent's API over HTTP: how each call becomes a request, and what each
  outcome of a request means for the call.  A time limit covers the whole of
  it, from the connection to the end of the body.
-/
import Shakedown.Api.Behaviour
import Shakedown.Http.Exchange
import Shakedown.Json.Reader
import Shakedown.Net.Form

namespace Shakedown

open Net

/-! ## Endpoints -/

namespace Request

def method : Request → HttpMethod
  | .issueToken _ => .post
  | .createContainer _ => .post
  | .revokeToken _ => .delete
  | _ => .get

/-- The path of a request below the base of the agent's URLs. -/
def path : Request → String
  | .health => "/system/info"
  | .systemInfo => "/system/info"
  | .issueToken _ => "/security/tokens"
  | .revokeToken id => "/security/tokens/" ++ id.text
  | .createContainer _ => "/containers"
  | .listContainers => "/containers"
  | .listTasks _ => "/tasks"

def queryPairs : Request → List (String × String)
  | .listTasks filter =>
    (match filter.limit with
      | some n => [("limit", Text.Decimal.text n.toNat)]
      | none => []) ++
    (match filter.status with
      | some s => [("status", s)]
      | none => [])
  | _ => []

/-- Whether the body of a successful answer is waited for. -/
def readsBody : Request → Bool
  | .revokeToken _ => false
  | _ => true

end Request

/-- A client of the agent's API. -/
structure HttpClient where
  baseUrl : String
  timeout : Duration
deriving DecidableEq, Repr

namespace HttpClient

/-- The client for a base URL, slashes at its end dropped. -/
def ofBase (base : String) (timeout : Duration) : HttpClient :=
  ⟨String.ofList ((base.toList.reverse.dropWhile (· = '/')).reverse), timeout⟩

/-! ## Requests -/

/-- Whether a token can stand in a header: it holds no controls other than tabs. -/
def fitsHeader (token : String) : Bool :=
  token.toList.all fun c => c = '\t' || (32 ≤ c.toNat && c.toNat ≠ 127)

/-- The credential that user name and password of a URL make, if they spell text. -/
def credentialOf? (u : Url) : Option Credential := do
  let username ← Text.Utf8.decode? (Percent.decode u.username)
  let password :=
    if u.password.isEmpty then none else Text.Utf8.decode? (Percent.decode u.password)
  if username.isEmpty && password.isNone then none
  return .basic username password

/-- A URL without the user name and password that its credential carries. -/
def withoutCredential (u : Url) : Url :=
  if (credentialOf? u).isSome then { u with username := [], password := [] } else u

/-- A URL with names and values added to its query.  One that then is empty is dropped. -/
def addQuery (u : Url) (pairs : List (String × String)) : Url :=
  let query := Form.append (u.query.getD []) pairs
  { u with query := if query.isEmpty then none else some query }

/-- A request that cannot be made. -/
def unbuilt : ApiFault := .transport "builder error"

def notWeb (u : Url) : ApiFault :=
  .transport ("builder error for url (" ++ u.text ++ ")")

/-- The URL that a request starts from: what it says about the host has to be right. -/
def startUrl (client : HttpClient) (r : Request) : Except ApiFault Url :=
  match Url.read? (client.baseUrl ++ r.path) with
  | none => .error unbuilt
  | some u => if u.hasHost then .ok u else .error (notWeb u)

/-- The URL that a request goes to.  Only listings of tasks have a query of their own. -/
def finalUrl (u : Url) (r : Request) : Url :=
  match r with
  | .listTasks _ => addQuery (withoutCredential u) r.queryPairs
  | _ => withoutCredential u

def request (client : HttpClient) (c : Call) : Except ApiFault HttpRequest :=
  match client.startUrl c.request with
  | .error f => .error f
  | .ok u =>
    let url := finalUrl u c.request
    -- Of two things that are wrong, the credential is told.
    if !fitsHeader c.credential then .error unbuilt
    else if !url.isWeb then .error (notWeb url)
    else .ok {
      method := c.request.method
      url
      credentials := (credentialOf? u).toList ++ [.bearer c.credential]
      document := c.request.document? }

/-! ## Answers -/

/-- What is reported of a body that could not be read or does not say what it should. -/
def unreadable : String := "error decoding response body"

/-- How much is kept of the body of a refusal, in bytes. -/
def keptBody : Nat := 512

/-- What is kept of the body of a refusal. -/
def refusalBody (bytes : Option (List UInt8)) : String :=
  let text := match bytes with
    | some bs => Text.Utf8.decodeLossy bs
    | none => ("<failed to read response body: " ++ unreadable ++ ">").toList
  String.ofList (Text.Utf8.cut keptBody text)

/-- The document that a body holds. -/
def documentOf? (bytes : List UInt8) : Option Json :=
  Json.readBytes? bytes

/-- What a successful answer holds, given its body. -/
def success (bytes : Option (List UInt8)) : (c : Call) → c.Result
  | ⟨_, .revokeToken _⟩ => .ok ()
  -- An agent that answers so is healthy, whatever its report looks like.
  | ⟨_, .health⟩ => .ok ((bytes.bind documentOf?).bind SystemReport.ofJson?)
  | ⟨_, r⟩ => match (bytes.bind documentOf?).bind (Request.decode? · r) with
    | some a => .ok a
    | none => .error (.malformed unreadable)

def isSuccess (status : Nat) : Bool :=
  200 ≤ status && status ≤ 299

/-- What an answer with a status means for a call, given its body. -/
def resultOf (status : Nat) (bytes : Option (List UInt8)) (c : Call) : c.Result :=
  if isSuccess status then success bytes c else .error (.status status (refusalBody bytes))

/-- What becomes of a call whose request came to an exchange. -/
def conclude (client : HttpClient) (c : Call) (url : Url) (x : Exchange) : Answer c :=
  let limit := client.timeout.nanoseconds
  let late : Answer c := ⟨some limit, .error (.timeout client.timeout)⟩
  match x with
  | .silent => late
  | .unreachable time =>
    if time ≤ limit then
      ⟨some time, .error (.transport ("error sending request for url (" ++ url.text ++ ")"))⟩
    else late
  | .answered time status body =>
    if time ≤ limit then
      -- The head is enough where the body is not waited for.
      if isSuccess status && !c.request.readsBody then ⟨some time, resultOf status none c⟩
      else ⟨some (Nat.max time (body.time limit)), resultOf status (body.bytesBy limit) c⟩
    else late

/-- The agent's API over a network. -/
def api (client : HttpClient) (net : Network σ) : Api σ where
  answer s now c :=
    match client.request c with
    | .error f => (⟨some 0, .error f⟩, s)
    | .ok r =>
      let (x, s) := net.exchange s now client.timeout.nanoseconds r
      (client.conclude c r.url x, s)

end HttpClient

end Shakedown
