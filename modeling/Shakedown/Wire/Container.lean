/-
  Shakedown.Wire.Container

  The order for a container, and the container as the agent lists it.  The
  description of an order may be missing and is then not written; a listed
  container's fields all fall back to empty.
-/
import Shakedown.Json.Record

namespace Shakedown

open Json

structure ContainerOrder where
  name : String
  platform : String
  description : Option String := none
deriving DecidableEq, Repr

/-- A container as the agent lists it. -/
structure Container where
  id : String := ""
  name : String := ""
  status : String := ""
  platform : String := ""
deriving DecidableEq, Repr, Inhabited

namespace ContainerOrder

/-- The field names in the order of an array. -/
def names : List String := ["name", "platform", "description"]

def toJson (o : ContainerOrder) : Json :=
  .object ([("name", Json.string o.name), ("platform", Json.string o.platform)] ++
    match o.description with
    | some d => [("description", Json.string d)]
    | none => [])

def ofJson? (j : Json) : Option ContainerOrder := do
  match ← j.fields? names with
  | [name, platform, description] =>
    return {
      name := ← required string? name
      platform := ← required string? platform
      description := ← withDefault none (nullable? string?) description }
  | _ => none

end ContainerOrder

namespace Container

/-- The field names in the order of an array. -/
def names : List String := ["id", "name", "status", "platform"]

def toJson (c : Container) : Json :=
  .object [("id", c.id), ("name", c.name), ("status", c.status), ("platform", c.platform)]

def ofJson? (j : Json) : Option Container := do
  match ← j.fields? names with
  | [id, name, status, platform] =>
    return {
      id := ← withDefault "" string? id
      name := ← withDefault "" string? name
      status := ← withDefault "" string? status
      platform := ← withDefault "" string? platform }
  | _ => none

end Container

end Shakedown
