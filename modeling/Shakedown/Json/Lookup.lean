/-
  Shakedown.Json.Lookup

  Looking up the members of a document by name.  A member that is `null` is
  as good as missing, and so is one of another kind than asked for.
-/
import Shakedown.Json.Basic
import Shakedown.Time.Duration

namespace Shakedown.Json

/-- A member. -/
def field (j : Json) (name : String) : Option Json :=
  match j.get? name with
  | some .null => none
  | r => r

/-- A member that is a text. -/
def textOf (j : Json) (name : String) : Option String :=
  (field j name).bind string?

/-- A member that is an integer. -/
def intOf (j : Json) (name : String) : Option Int :=
  (field j name).bind integer?

/-- A member that is a natural number; a negative one is taken as zero. -/
def natOf (j : Json) (name : String) : Option Nat :=
  (intOf j name).map Int.toNat

/-- A member that says yes or no. -/
def flagOf (j : Json) (name : String) : Option Bool :=
  (field j name).bind bool?

/-- Whether a member says yes. -/
def isSet (j : Json) (name : String) : Bool :=
  (flagOf j name).getD false

/-- The items of a member that is a list. -/
def listOf (j : Json) (name : String) : List Json :=
  ((field j name).bind array?).getD []

/-- The texts of a member that is a list. -/
def textsOf (j : Json) (name : String) : Option (List String) :=
  ((field j name).bind array?).map fun items => items.filterMap string?

/-- The members of a member that is an object. -/
def membersOf (j : Json) (name : String) : List (String × Json) :=
  ((field j name).bind object?).getD []

/-- A member that is a document of its own, an empty one if it is missing. -/
def part (j : Json) (name : String) : Json :=
  (field j name).getD (.object [])

/-- A document of seconds and nanoseconds as a duration. -/
def duration (j : Json) : Duration :=
  .ofParts ((natOf j "secs").getD 0) ((natOf j "nanos").getD 0)

/-- A member in milliseconds. -/
def millisOf (j : Json) (name : String) : Option Duration :=
  (natOf j name).map .ofMillis

end Shakedown.Json
