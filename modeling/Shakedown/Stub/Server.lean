/-
  Shakedown.Stub.Server

  A stub agent that handles any number of requests at a time.  Requests are
  known by the order in which they arrive.  Each is counted when it arrives;
  the token that it presents is looked at later, and what it was admitted for
  is done later still.
-/
import Shakedown.Stub.Handling
import Shakedown.Stub.Routes

namespace Shakedown

/-- The token that a request presents. -/
def IncomingRequest.presented (r : IncomingRequest) : Option String :=
  r.authorization.bind Stub.bearer?

/-- How far a request has come that is not answered yet. -/
inductive StubStage where
  /-- It was counted; nobody has looked at its token. -/
  | counted (bearer : Option String) (request : Request)
  /-- It was admitted for some work. -/
  | admitted (work : StubWork)
deriving DecidableEq

/-- A stub agent with the requests that have arrived and are not answered yet. -/
structure StubServer where
  store : StubStore := {}
  arrived : Nat := 0
  waiting : List (Nat × StubStage) := []

/-- Something that happens to a stub agent. -/
inductive StubEvent where
  | arrive (r : IncomingRequest)
  /-- The token of a request is looked at, at a moment. -/
  | authorise (number : Nat) (now : Moment)
  /-- What a request was admitted for is done. -/
  | finish (number : Nat)
  /-- A caller gives up before that. -/
  | abandon (number : Nat)
deriving DecidableEq

namespace StubServer

/-- How far a request has come, if it waits for its answer. -/
def stageOf? (server : StubServer) (number : Nat) : Option StubStage :=
  (server.waiting.find? fun w => w.1 == number).map Prod.snd

/-- A request waits no longer. -/
def without (server : StubServer) (number : Nat) : StubServer :=
  { server with waiting := server.waiting.filter fun w => w.1 != number }

/-- A request has come so far, and waits. -/
def waitingAt (server : StubServer) (number : Nat) (stage : StubStage) : StubServer :=
  { server with waiting := server.waiting ++ [(number, stage)] }

/-- A request arrives: it is read and counted. -/
def arrive (o : StubProfile) (server : StubServer) (r : IncomingRequest) :
    StubServer × Option (Nat × StubReply) :=
  let number := server.arrived
  let server := { server with arrived := number + 1 }
  match Stub.read r with
  -- A request that cannot be read is not even counted.
  | .error reply => (server, some (number, reply))
  | .ok request =>
    let calls := Stub.countCall server.store.calls request
    let server := { server with store := { server.store with calls } }
    if Stub.isStarting o calls request then (server, some (number, .refusal 503 "starting"))
    else (server.waitingAt number (.counted r.presented request), none)

/-- What happens at an event, and the answer it gives, if it gives one. -/
def step (o : StubProfile) (fresh : Nat → Uuid) (server : StubServer) :
    StubEvent → StubServer × Option (Nat × StubReply)
  | .arrive r => server.arrive o r
  | .authorise number now =>
    match server.stageOf? number with
    | some (.counted bearer request) =>
      match Stub.authorise o server.store now bearer request with
      | .error reply => (server.without number, some (number, reply))
      | .ok work => ((server.without number).waitingAt number (.admitted work), none)
    | _ => (server, none)
  | .finish number =>
    match server.stageOf? number with
    | some (.admitted work) =>
      let (store, reply) := Stub.perform o fresh server.store work
      ({ server.without number with store }, some (number, reply))
    | _ => (server, none)
  | .abandon number => (server.without number, none)

/-- What happens at events in order, with the answers in the order they are given. -/
def run (o : StubProfile) (fresh : Nat → Uuid) (server : StubServer) :
    List StubEvent → StubServer × List (Nat × StubReply)
  | [] => (server, [])
  | e :: rest =>
    let (server, answer) := step o fresh server e
    let (server, answers) := run o fresh server rest
    (server, answer.toList ++ answers)

end StubServer

end Shakedown
