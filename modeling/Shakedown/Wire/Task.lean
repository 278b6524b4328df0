/-
  Shakedown.Wire.Task

  Tasks, their status, and the query that lists them.  A status that is not
  known reads as `unknown`; every field of a task falls back to a default; a
  query writes only what it asks for.
-/
import Shakedown.Json.Record
import Shakedown.Text.Blank

namespace Shakedown

open Json

inductive TaskState where
  | queued
  | running
  | succeeded
  | failed
  | cancelled
  | unknown
deriving DecidableEq, Repr, Inhabited

structure AgentTask where
  id : String := ""
  status : TaskState := .unknown
  kind : String := ""
  progress : UInt8 := 0
  message : Option String := none
deriving DecidableEq, Repr, Inhabited

/-- What a task listing is limited to. -/
structure TaskFilter where
  limit : Option UInt32 := none
  status : Option String := none
deriving DecidableEq, Repr, Inhabited

namespace TaskState

/-- The word for a status. -/
def text : TaskState → String
  | queued => "queued"
  | running => "running"
  | succeeded => "succeeded"
  | failed => "failed"
  | cancelled => "cancelled"
  | unknown => "unknown"

/-- The status that a word names; `unknown` for a word that names none. -/
def ofText (s : String) : TaskState :=
  if s = "queued" then queued
  else if s = "running" then running
  else if s = "succeeded" then succeeded
  else if s = "failed" then failed
  else if s = "cancelled" then cancelled
  else unknown

/-- Every status is the one its word names. -/
@[simp] theorem ofText_text (s : TaskState) : ofText s.text = s := by
  cases s <;> rfl

def toJson (s : TaskState) : Json := .string s.text

/-- A status is its word, or an object whose only member is that word with `null`. -/
def ofJson? : Json → Option TaskState
  | .string s => some (ofText s)
  | .object [(name, .null)] => some (ofText name)
  | _ => none

end TaskState

namespace AgentTask

/-- The task's identifier, blanks around it dropped, unless nothing is left. -/
def identifier? (t : AgentTask) : Option String :=
  let id := Text.trim t.id.toList
  if id.isEmpty then none else some (String.ofList id)

/-- The field names in the order of an array. -/
def names : List String := ["id", "status", "type", "progress", "message"]

def toJson (t : AgentTask) : Json :=
  .object [("id", t.id), ("status", t.status.toJson), ("type", t.kind),
    ("progress", nat t.progress.toNat), ("message", option .string t.message)]

def ofJson? (j : Json) : Option AgentTask := do
  match ← j.fields? names with
  | [id, status, kind, progress, message] =>
    return {
      id := ← withDefault "" string? id
      status := ← withDefault .unknown TaskState.ofJson? status
      kind := ← withDefault "" string? kind
      progress := UInt8.ofNat (← withDefault 0 (natUpTo? 255) progress)
      message := ← withDefault none (nullable? string?) message }
  | _ => none

end AgentTask

namespace TaskFilter

/-- The field names in the order of an array. -/
def names : List String := ["limit", "status"]

def toJson (q : TaskFilter) : Json :=
  .object ((match q.limit with
    | some n => [("limit", nat n.toNat)]
    | none => []) ++
    match q.status with
    | some s => [("status", Json.string s)]
    | none => [])

/-- Whether a query is complete: an array has both fields, while an object may
lack either. -/
def complete : Json → Bool
  | .array items => items.length == names.length
  | _ => true

def ofJson? (j : Json) : Option TaskFilter := do
  if !complete j then none
  match ← j.fields? names with
  | [limit, status] =>
    return {
      limit := (← withDefault none (nullable? (natUpTo? (Nat.pow 2 32 - 1))) limit).map UInt32.ofNat
      status := ← withDefault none (nullable? string?) status }
  | _ => none

end TaskFilter

end Shakedown
