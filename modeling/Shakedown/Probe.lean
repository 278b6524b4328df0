/-
  Shakedown.Probe

  Asking a starting agent again and again whether it is healthy, at a fixed
  interval and with a bound on the number of checks.
-/
import Shakedown.Plan

namespace Shakedown

/-- The schedule of a readiness probe.  No attempts are taken as one. -/
structure ProbeSchedule where
  /-- How many checks are made at most. -/
  attempts : Nat := 240
  /-- The pause between a failed check and the next one. -/
  interval : Duration := .ofMillis 500
  /-- How long one check may take. -/
  attemptTimeout : Duration := .ofSeconds 5
deriving DecidableEq, Repr, Inhabited

/-- What a probe comes to: ready at the given check, or that many failed checks
and the distinct reasons they gave. -/
inductive ProbeVerdict where
  | ready (attempts : Nat)
  | failed (attempts : Nat) (reason : String)
deriving DecidableEq, Repr

namespace ProbeVerdict

def isReady : ProbeVerdict → Bool
  | .ready _ => true
  | .failed _ _ => false

end ProbeVerdict

namespace Probe

/-- The call that checks the agent's health. -/
def check (adminToken : String) : Call :=
  ⟨adminToken, .health⟩

/-- Why a check failed, if it did. -/
def failure? (limit : Duration) :
    Option (Except ApiFault (Option SystemReport)) → Option String
  | some (.ok _) => none
  | some (.error f) => some f.message
  | none => some ("no response within " ++ limit.text)

/-- The reasons so far and one more, unless it is among them. -/
def addReason (reasons : List String) (reason : String) : List String :=
  if reasons.contains reason then reasons else reasons ++ [reason]

/-- Texts with `; ` between them. -/
def joinReasons (reasons : List String) : String :=
  String.intercalate "; " reasons

/-- The checks from number `attempt` on, with `more` to come after it. -/
def checks (adminToken : String) (schedule : ProbeSchedule) :
    (more : Nat) → (attempt : Nat) → (reasons : List String) → Plan ProbeVerdict
  | more, attempt, reasons =>
    .askWithin schedule.attemptTimeout.nanoseconds (check adminToken) fun result =>
      match failure? schedule.attemptTimeout result with
      | none => .done (.ready attempt)
      | some reason =>
        let reasons := addReason reasons reason
        match more with
        | 0 => .done (.failed attempt (joinReasons reasons))
        | more + 1 =>
          .pause schedule.interval.nanoseconds (checks adminToken schedule more (attempt + 1) reasons)

/-- The readiness probe.  It pauses between checks only, so it never waits
after the last one. -/
def plan (adminToken : String) (schedule : ProbeSchedule) : Plan ProbeVerdict :=
  checks adminToken schedule (schedule.attempts - 1) 1 []

end Probe

end Shakedown
