/-
  Shakedown.Stub.Agent

  A stub agent at the other end of a client's calls: as a network that HTTP
  requests go to, and as the API that the client then sees.  One request is
  handled at a time.
-/
import Shakedown.Http.Client
import Shakedown.Stub.Handling
import Shakedown.Stub.Routes

namespace Shakedown

/-- A stub agent: its options, the fresh identifiers it uses one after the other, and
its clock. -/
structure StubHost where
  options : StubProfile
  fresh : Nat → Uuid
  clock : Nat → Moment

/-- What holds up a request on its way to a stub and its answer on the way back. -/
structure Lag where
  /-- Until the request arrives. -/
  request : Nat := 0
  /-- From the end of its handling until the head of the answer is there. -/
  head : Nat := 0
  /-- Until the body follows. -/
  body : Nat := 0

/-- What holds up each request, by what the stub remembers when it is made and the time at
which that is. -/
def Lags : Type :=
  StubStore → Nat → IncomingRequest → Lag

/-- Nothing is held up. -/
def Lags.none : Lags := fun _ _ _ => {}

namespace StubHost

/-- What a request comes to that arrives at a time: the stub afterwards, the answer, and
how long it takes.  Nothing is done for a caller who gives up first. -/
def serve (a : StubHost) (s : StubStore) (now patience : Nat) (bearer : Option String)
    (r : Request) : StubStore × StubReply × Nat :=
  match Stub.accept a.options s (a.clock now) bearer r with
  | (s, .error reply) => (s, reply, 0)
  | (s, .ok work) =>
    let delay := Stub.delayOf a.options work
    let (done, reply) := Stub.perform a.options a.fresh s work
    (if delay ≤ patience then done else s, reply, delay)

/-- What a request as it comes in comes to. -/
def receive (a : StubHost) (s : StubStore) (now patience : Nat) (r : IncomingRequest) :
    StubStore × StubReply × Nat :=
  match Stub.read r with
  | .error reply => (s, reply, 0)
  | .ok request => a.serve s now patience (r.authorization.bind Stub.bearer?) request

/-- A client's request as it comes in. -/
def incoming (r : HttpRequest) : IncomingRequest where
  method := r.method.text
  path := String.ofList r.url.pathChars
  query := String.ofList (r.url.query.getD [])
  authorization := r.credentials.head?.map Credential.text
  contentType := r.document.map fun _ => "application/json"
  body := match r.document with
    | some j => Text.Utf8.encode j.text
    | none => []

/-- The stub as all that a client's requests can reach, with what each of them is held up
by on its way and back.  One that its caller has given up by then does not arrive. -/
def networkAfter (a : StubHost) (lags : Lags) : Network StubStore where
  exchange s now patience r :=
    let lag := lags s now (incoming r)
    if patience < lag.request then (.silent, s)
    else
      let (s, reply, delay) :=
        a.receive s (now + lag.request) (patience - lag.request) (incoming r)
      let head := lag.request + delay + lag.head
      (.answered head reply.status (.whole (head + lag.body) (Stub.bodyOf reply)), s)

/-- The stub as all that a client's requests can reach at once. -/
def network (a : StubHost) : Network StubStore :=
  a.networkAfter .none

/-- What a client makes of an answer. -/
def resultOf (reply : StubReply) (c : Call) : c.Result :=
  HttpClient.resultOf reply.status (some (Stub.bodyOf reply)) c

/-- The stub as its callers see it who wait as long as it takes. -/
def api (a : StubHost) : Api StubStore where
  answer s now c :=
    let delay := a.options.createDelay.nanoseconds
    let (s, reply, delay) := a.serve s now delay (Stub.bearer? ("Bearer " ++ c.credential)) c.request
    (⟨some delay, resultOf reply c⟩, s)

end StubHost

end Shakedown
