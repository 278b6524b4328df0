/-
  Shakedown.Wire.System

  What the agent says about itself when it is asked for its system
  information.  Every field falls back to empty or zero.
-/
import Shakedown.Json.Record

namespace Shakedown

/-- The agent's system information. -/
structure SystemReport where
  version : String := ""
  build : String := ""
  uptimeSeconds : UInt64 := 0
  driverStatus : String := ""
deriving DecidableEq, Repr, Inhabited

namespace SystemReport

open Json

/-- The field names in the order of an array. -/
def names : List String := ["version", "build", "uptime_seconds", "driver_status"]

def toJson (s : SystemReport) : Json :=
  .object [("version", s.version), ("build", s.build),
    ("uptime_seconds", nat s.uptimeSeconds.toNat), ("driver_status", s.driverStatus)]

def ofJson? (j : Json) : Option SystemReport := do
  match ← j.fields? names with
  | [version, build, uptime, driver] =>
    return {
      version := ← withDefault "" string? version
      build := ← withDefault "" string? build
      uptimeSeconds := UInt64.ofNat (← withDefault 0 (natUpTo? (Nat.pow 2 64 - 1)) uptime)
      driverStatus := ← withDefault "" string? driver }
  | _ => none

end SystemReport

end Shakedown
