/-
  Shakedown.Http.Exchange

  A request over HTTP and what can become of it.  The other side may be out of
  reach, break off, keep silent, or answer; and the body of an answer may
  arrive whole, break off, or never be finished.
-/
import Shakedown.Json.Basic
import Shakedown.Net.Url
import Shakedown.Text.Base64

namespace Shakedown

/-- What an `Authorization` header says. -/
inductive Credential where
  | basic (username : String) (password : Option String)
  | bearer (token : String)
deriving DecidableEq, Repr

namespace Credential

/-- The value of the header. -/
def text : Credential → String
  | .basic username password =>
    let pair := username ++ ":" ++ password.getD ""
    "Basic " ++ String.ofList (Text.Base64.encode (Text.Utf8.encode pair))
  | .bearer token => "Bearer " ++ token

end Credential

/-- The method of a request. -/
inductive HttpMethod where
  | get
  | post
  | delete
deriving DecidableEq, Repr

namespace HttpMethod

def text : HttpMethod → String
  | get => "GET"
  | post => "POST"
  | delete => "DELETE"

end HttpMethod

/-- A request.  The credentials are those of its `Authorization` headers in order; a
document is sent as JSON. -/
structure HttpRequest where
  method : HttpMethod
  url : Net.Url
  credentials : List Credential
  document : Option Json := none

/-- How the body of an answer arrives.  Times count from the start of the request. -/
inductive BodyArrival where
  | whole (time : Nat) (bytes : List UInt8)
  | brokenOff (time : Nat)
  | unfinished
deriving DecidableEq, Repr

namespace BodyArrival

/-- When the body is there, or known not to come, if its reader waits until a limit. -/
def time (limit : Nat) : BodyArrival → Nat
  | .whole t _ => Nat.min t limit
  | .brokenOff t => Nat.min t limit
  | .unfinished => limit

def bytesBy (limit : Nat) : BodyArrival → Option (List UInt8)
  | .whole t bytes => if t ≤ limit then some bytes else none
  | _ => none

end BodyArrival

/-- What becomes of a request.  Times count from its start. -/
inductive Exchange where
  /-- There is no connection, or it is closed before an answer. -/
  | unreachable (time : Nat)
  /-- No answer comes. -/
  | silent
  | answered (time : Nat) (status : Nat) (body : BodyArrival)
deriving DecidableEq, Repr

/-- The other side of all requests, with states `σ`.  `patience` is how long the one who
asks keeps the connection open. -/
structure Network (σ : Type) where
  exchange : σ → (now patience : Nat) → HttpRequest → Exchange × σ

namespace Network

/-- A network on which nothing can be reached. -/
def down : Network σ where
  exchange s _ _ _ := (.unreachable 0, s)

end Network

end Shakedown
