/-
  Shakedown.Rehearsal.Api

  An API whose answers are written down beforehand, to rehearse a run
  without an agent.  Each endpoint has a list of replies; its n-th call takes
  the n-th of them, and the last one repeats.
-/
import Shakedown.Plan

namespace Shakedown.Rehearsal

/-- What replies are written down for.  Health is asked of the system information. -/
inductive Endpoint where
  | systemInfo
  | issueToken
  | revokeToken
  | createContainer
  | listContainers
  | listTasks
deriving DecidableEq, Repr

namespace Endpoint

def ofRequest : Request → Endpoint
  | .health => systemInfo
  | .systemInfo => systemInfo
  | .issueToken _ => issueToken
  | .revokeToken _ => revokeToken
  | .createContainer _ => createContainer
  | .listContainers => listContainers
  | .listTasks _ => listTasks

/-- The name of an endpoint. -/
def text : Endpoint → String
  | systemInfo => "system_info"
  | issueToken => "issue_token"
  | revokeToken => "revoke_token"
  | createContainer => "create_container"
  | listContainers => "list_containers"
  | listTasks => "list_tasks"

def all : List Endpoint :=
  [systemInfo, issueToken, revokeToken, createContainer, listContainers, listTasks]

end Endpoint

/-- A reply: whether it interrupts the run, how long it takes (`none`: it never
comes), and the document or the fault it comes with. -/
structure Reply where
  interrupts : Bool := false
  delay : Option Duration := some .zero
  content : Except ApiFault Json

/-- The reply of an endpoint that none is written down for. -/
def Reply.unscripted : Reply :=
  { content := .error (.transport "unscripted") }

/-- The replies of every endpoint. -/
structure Script where
  replies : Endpoint → List Reply

namespace Script

/-- How often each endpoint has been called. -/
abbrev Progress := Endpoint → Nat

def start : Progress := fun _ => 0

/-- The reply to the call of an endpoint after `n` earlier ones. -/
def reply (s : Script) (e : Endpoint) (n : Nat) : Reply :=
  match (s.replies e)[n]? with
  | some r => r
  | none => ((s.replies e).getLast?).getD .unscripted

/-- What the document or fault of a reply comes to. -/
def result (content : Except ApiFault Json) (r : Request) : Except ApiFault r.Reply :=
  match content with
  | .error f => .error f
  | .ok j => match r.decode? j with
    | some a => .ok a
    | none => .error (.malformed "scripted body")

/-- The result of a call.  Health follows from the system information. -/
def answerOf (content : Except ApiFault Json) : (c : Call) → c.Result
  | ⟨_, .health⟩ => healthOf (result content .systemInfo)
  | ⟨_, r⟩ => result content r

/-- The API that answers as written down. -/
def api (s : Script) : Api Progress where
  answer p _ c :=
    let e := Endpoint.ofRequest c.request
    let r := s.reply e (p e)
    (⟨r.delay.map (·.nanoseconds), answerOf r.content c⟩,
      fun x => if x = e then p x + 1 else p x)

/-- How many events have begun when the first reply that interrupts the run is
asked for, if one is. -/
def interruptedAfter? (s : Script) (p : Progress) : List Event → Option Nat
  | [] => none
  | .wait _ _ :: rest => (s.interruptedAfter? p rest).map (· + 1)
  | .call _ c :: rest =>
    let e := Endpoint.ofRequest c.request
    if (s.reply e (p e)).interrupts then some 1
    else (s.interruptedAfter? (fun x => if x = e then p x + 1 else p x) rest).map (· + 1)

end Script

end Shakedown.Rehearsal
