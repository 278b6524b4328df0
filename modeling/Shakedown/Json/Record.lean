/-
  Shakedown.Json.Record

  Records in JSON.  A record is an object of named members or an array of its
  fields in order.  In an object a known name stands at most once and unknown
  names are passed over; an array holds no more items than the record has
  fields.
-/
import Shakedown.Json.Basic

namespace Shakedown.Json

def valuesOf (name : String) (members : List (String × Json)) : List Json :=
  (members.filter fun m => m.1 == name).map (·.2)

/-- The value of the member with a given name: none if it is missing, and a
failure if it stands twice. -/
def member? (members : List (String × Json)) (name : String) : Option (Option Json) :=
  match valuesOf name members with
  | [] => some none
  | [j] => some (some j)
  | _ => none

/-- The fields of a record by their names, in the order of `names`. -/
def fields? (names : List String) : Json → Option (List (Option Json))
  | .object members => names.mapM (member? members)
  | .array items =>
    if items.length ≤ names.length then
      some (items.map some ++ List.replicate (names.length - items.length) none)
    else none
  | _ => none

/-- A field that falls back to `default` when it is missing. -/
def withDefault (default : α) (decode : Json → Option α) : Option Json → Option α
  | none => some default
  | some j => decode j

/-- A field that has to be there. -/
def required (decode : Json → Option α) : Option Json → Option α
  | none => none
  | some j => decode j

end Shakedown.Json
