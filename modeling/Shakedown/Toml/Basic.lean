/-
  Shakedown.Toml.Basic

  TOML values and what can be wrong with a TOML text.  Numbers with a
  fraction, dates and times are only known as such: nothing here reads them.
-/
import Shakedown.Text.Decimal

namespace Shakedown

/-- A TOML value. -/
inductive Toml where
  | string (s : String)
  | integer (i : Int)
  | float
  | boolean (b : Bool)
  | datetime
  | array (items : List Toml)
  | table (members : List (String × Toml))
deriving Inhabited, Repr

namespace Toml

/-- What is wrong with a text, and how many characters are left from there on. -/
structure Fault where
  left : Nat
  message : String
deriving DecidableEq, Repr

/-- A fault at the start of a text. -/
def faultAt (cs : List Char) (message : String) : Fault :=
  ⟨cs.length, message⟩

/-! ## Looking into a value -/

def string? : Toml → Option String
  | .string s => some s
  | _ => none

/-- An integer from zero up to `max`. -/
def natUpTo? (max : Nat) : Toml → Option Nat
  | .integer (.ofNat n) => if n ≤ max then some n else none
  | _ => none

/-- An array whose items all decode. -/
def list? (decode : Toml → Option α) : Toml → Option (List α)
  | .array items => items.mapM decode
  | _ => none

/-! ## The text of a fault -/

/-- Line and column of an offset, counted from zero.  The end of a text is one
column after its last character. -/
def position (cs : List Char) (offset : Nat) : Nat × Nat :=
  let safe := Nat.min offset (cs.length - 1)
  let before := cs.take safe
  let line := before.count '\n'
  let column := (before.reverse.takeWhile (· ≠ '\n')).length
  (line, column + (offset - safe))

/-- The text of a fault: where it is, the line with a mark below, and what is wrong. -/
def Fault.text (f : Fault) (source : List Char) : String :=
  let (line, column) := position source (source.length - f.left)
  let number := Text.Decimal.text (line + 1)
  let gutter := String.ofList (List.replicate (number.length + 1) ' ')
  let content := String.ofList (((source.splitOn '\n')[line]?).getD [])
  "TOML parse error at line " ++ number ++ ", column " ++ Text.Decimal.text (column + 1) ++ "\n" ++
    gutter ++ "|\n" ++ number ++ " | " ++ content ++ "\n" ++ gutter ++ "|" ++
    String.ofList (List.replicate (column + 1) ' ') ++ "^\n" ++ f.message ++ "\n"

end Toml

end Shakedown
