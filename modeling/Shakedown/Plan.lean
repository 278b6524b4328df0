/-
  Shakedown.Plan

  What the harness does against an API, as data: calls, calls with a time
  limit, pauses, and an end.  A plan says nothing about time; run against an
  API it leaves a trace of the calls made and the waits between them.

  A wait is where a plan gives way to whatever else goes on.  A pause always
  gives way, however short; an answer that is there at once does not.
-/
import Shakedown.Api.Behaviour

namespace Shakedown

/-- Calls and pauses that end in an `α`. -/
inductive Plan (α : Type) where
  /-- Nothing is left to do. -/
  | done (a : α)
  /-- Makes a call and goes on with what it came to. -/
  | ask (c : Call) (next : c.Result → Plan α)
  /-- Makes a call and goes on with what it came to, or with nothing if no answer
  has come by the limit.  An answer at the very limit counts. -/
  | askWithin (limit : Nat) (c : Call) (next : Option c.Result → Plan α)
  /-- Waits and goes on. -/
  | pause (length : Nat) (next : Plan α)

namespace Plan

/-- Goes on with another plan. -/
def bind : Plan α → (α → Plan β) → Plan β
  | .done a, f => f a
  | .ask c next, f => .ask c fun r => (next r).bind f
  | .askWithin limit c next, f => .askWithin limit c fun r => (next r).bind f
  | .pause length next, f => .pause length (next.bind f)

instance : Monad Plan where
  pure := .done
  bind := bind

def call (c : Call) : Plan c.Result :=
  .ask c .done

end Plan

/-! ## Traces -/

/-- Something that happens while a plan runs: a call starts, or a wait begins,
with its length, `none` if it never ends. -/
inductive Event where
  | call (time : Nat) (c : Call)
  | wait (time : Nat) (length : Option Nat)

namespace Event

/-- When it begins. -/
def time : Event → Nat
  | .call t _ => t
  | .wait t _ => t

def call? : Event → Option TimedCall
  | .call t c => some ⟨t, c⟩
  | .wait _ _ => none

def isWait : Event → Bool
  | .wait _ _ => true
  | .call _ _ => false

end Event

/-- What happens while a plan runs, in order, and when and with what it ends;
nothing if it never does. -/
structure Trace (α : Type) where
  events : List Event
  ending : Option (Nat × α)

namespace Trace

def calls (t : Trace α) : List TimedCall :=
  t.events.filterMap Event.call?

/-- A trace with another value at its end. -/
def map (f : α → β) (t : Trace α) : Trace β :=
  ⟨t.events, t.ending.map fun e => (e.1, f e.2)⟩

def prepend (events : List Event) (t : Trace α) : Trace α :=
  ⟨events ++ t.events, t.ending⟩

/-- A trace followed by what goes on from its end. -/
def andThen (t : Trace α) (next : (now : Nat) → α → Trace β) : Trace β :=
  match t.ending with
  | none => ⟨t.events, none⟩
  | some (now, a) => (next now a).prepend t.events

/-- The events that begin before a time, a wait among them shortened to it. -/
def eventsBefore (deadline : Nat) : List Event → List Event
  | [] => []
  | .call t c :: rest =>
    if t < deadline then .call t c :: eventsBefore deadline rest else []
  | .wait t length :: rest =>
    if t < deadline then
      -- A wait that lasts until the deadline or longer is the last event, cut to end there.
      match length with
      | some l =>
        if t + l < deadline then .wait t length :: eventsBefore deadline rest
        else [.wait t (some (deadline - t))]
      | none => [.wait t (some (deadline - t))]
    else []

end Trace

namespace Plan

/-- The wait for an answer: none if the answer is there at once. -/
def waitEvents (now length : Nat) : List Event :=
  if length = 0 then [] else [.wait now (some length)]

/-- What happens when a plan starts at a time against an API in a state. -/
def trace (api : Api σ) : Plan α → (now : Nat) → σ → Trace α
  | .done a, now, _ => ⟨[], some (now, a)⟩
  | .pause length next, now, s =>
    (next.trace api (now + length) s).prepend [.wait now (some length)]
  | .ask c next, now, s =>
    let (answer, s) := api.answer s now c
    match answer.delay with
    -- Nothing limits this call, so without an answer the plan waits for ever.
    | none => ⟨[.call now c, .wait now none], none⟩
    | some d =>
      ((next answer.result).trace api (now + d) s).prepend (.call now c :: waitEvents now d)
  | .askWithin limit c next, now, s =>
    let (answer, s) := api.answer s now c
    -- The API has been asked whether or not its answer comes in time.
    let (taken, result) := match answer.delay with
      | some d => if d ≤ limit then (d, some answer.result) else (limit, none)
      | none => (limit, none)
    ((next result).trace api (now + taken) s).prepend (.call now c :: waitEvents now taken)

end Plan

end Shakedown
