/-
  Shakedown.Run.Interruption

  Interrupting what a trace tells.  An interruption is noticed where the run
  gives way: at the wait it falls into, or at the next wait after the call it
  falls into.  A run that gives way no more is not interrupted.
-/
import Shakedown.Plan

namespace Shakedown

/-- When an interruption comes: so many events of the run have begun, and if the
last of them is a wait, it has lasted so long.  With no events it comes before
any of them. -/
structure Interruption where
  events : Nat
  into : Nat := 0
deriving DecidableEq, Repr

namespace Interruption

/-- The events up to the first wait, and the time at which it begins. -/
def atNextWait? : List Event → Option (List Event × Nat)
  | [] => none
  | .wait time _ :: _ => some ([.wait time (some 0)], time)
  | .call time c :: rest => (atNextWait? rest).map fun (es, t) => (.call time c :: es, t)

/-- How long a wait lasts that is cut short. -/
def shortened (into : Nat) : Option Nat → Nat
  | none => into
  | some length => Nat.min into length

/-- The events until an interruption is noticed that comes when `before` more
events and the one after them have begun, and the time at which it is noticed;
nothing if it never is. -/
def noticed? (into : Nat) : (before : Nat) → List Event → Option (List Event × Nat)
  | _, [] => none
  | 0, .wait time length :: _ =>
    let d := shortened into length
    some ([.wait time (some d)], time + d)
  | 0, .call time c :: rest => (atNextWait? rest).map fun (es, t) => (.call time c :: es, t)
  | n + 1, e :: rest => (noticed? into n rest).map fun (es, t) => (e :: es, t)

/-- The events until an interruption is noticed in a trace that starts at a time,
and when that is. -/
def cut? (i : Interruption) (start : Nat) (events : List Event) : Option (List Event × Nat) :=
  match i.events with
  | 0 => some ([], start)
  | n + 1 => noticed? i.into n events

/-- A trace that an interruption may cut short, which then ends with `a`. -/
def apply (i : Option Interruption) (start : Nat) (a : α) (t : Trace α) : Trace α :=
  match i.bind fun i => i.cut? start t.events with
  | none => t
  | some (events, time) => ⟨events, some (time, a)⟩

end Interruption

end Shakedown
