/-
  Shakedown.Json.Basic

  JSON values.  An object keeps its members in the order they were written,
  repeated names included, and a number keeps whether it was written as an
  integer; both matter to the records decoded from it.
-/

namespace Shakedown

/-- A JSON value.  `decimal` is a number with a fraction, an exponent or the
value `-0`, as it was written.  `garbled` is a string literal that spells no
text, as its escapes name half of a surrogate pair or its bytes are no UTF-8,
or an object with such a name. -/
inductive Json where
  | null
  | bool (b : Bool)
  | integer (i : Int)
  | decimal (literal : String)
  | string (s : String)
  | garbled
  | array (items : List Json)
  | object (members : List (String × Json))
deriving Inhabited, Repr

namespace Json

instance : Coe String Json := ⟨Json.string⟩

/-- A natural number as a JSON integer. -/
def nat (n : Nat) : Json := .integer n

/-- A value that may be missing, with `null` for a missing one. -/
def option (encode : α → Json) : Option α → Json
  | some a => encode a
  | none => .null

def list (encode : α → Json) (xs : List α) : Json :=
  .array (xs.map encode)

/-! ## Looking into a value -/

def string? : Json → Option String
  | .string s => some s
  | _ => none

def bool? : Json → Option Bool
  | .bool b => some b
  | _ => none

def integer? : Json → Option Int
  | .integer i => some i
  | _ => none

/-- An integer literal from zero up to `max`. -/
def natUpTo? (max : Nat) : Json → Option Nat
  | .integer (.ofNat n) => if n ≤ max then some n else none
  | _ => none

def array? : Json → Option (List Json)
  | .array items => some items
  | _ => none

def object? : Json → Option (List (String × Json))
  | .object members => some members
  | _ => none

/-- Reads `null` as a missing value and anything else with `decode`. -/
def nullable? (decode : Json → Option α) : Json → Option (Option α)
  | .null => some none
  | j => (decode j).map some

/-- Reads an array whose items all decode. -/
def list? (decode : Json → Option α) (j : Json) : Option (List α) := do
  (← j.array?).mapM decode

/-- The value of the last member of an object with the given name. -/
def get? (j : Json) (name : String) : Option Json := do
  let members ← j.object?
  (members.reverse.find? fun m => m.1 == name).map (·.2)

end Json

end Shakedown
