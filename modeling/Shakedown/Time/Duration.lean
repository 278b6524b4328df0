/-
  Shakedown.Time.Duration

  Spans of time in whole nanoseconds, and the text they have in messages:
  the largest of the units s, ms, µs and ns that fits at least once, with
  the exact fraction and no trailing zeros.
-/
import Shakedown.Text.Decimal

namespace Shakedown

/-- A span of time. -/
structure Duration where
  nanoseconds : Nat
deriving DecidableEq, Repr, Inhabited

namespace Duration

def zero : Duration := ⟨0⟩

def ofSeconds (n : Nat) : Duration := ⟨n * 1000000000⟩

def ofMillis (n : Nat) : Duration := ⟨n * 1000000⟩

/-- Whole seconds and the nanoseconds past them. -/
def ofParts (seconds nanos : Nat) : Duration := ⟨seconds * 1000000000 + nanos⟩

/-- Whole milliseconds, the rest dropped. -/
def millis (d : Duration) : Nat := d.nanoseconds / 1000000

def seconds (d : Duration) : Nat := d.nanoseconds / 1000000000

/-- The nanoseconds past the last whole second. -/
def subsecond (d : Duration) : Nat := d.nanoseconds % 1000000000

instance : LE Duration := ⟨fun a b => a.nanoseconds ≤ b.nanoseconds⟩

instance (a b : Duration) : Decidable (a ≤ b) :=
  inferInstanceAs (Decidable (a.nanoseconds ≤ b.nanoseconds))

/-! ## Text -/

/-- The digits after the point of `part / Nat.pow 10 places`, without trailing zeros. -/
def fraction (places part : Nat) : List Char :=
  ((Text.Decimal.padded places part).reverse.dropWhile (· = '0')).reverse

/-- A count of units of `Nat.pow 10 places` nanoseconds, with its fraction. -/
def inUnit (places n : Nat) (unit : String) : String :=
  let whole := Text.Decimal.text (n / Nat.pow 10 places)
  match fraction places (n % Nat.pow 10 places) with
  | [] => whole ++ unit
  | cs => whole ++ "." ++ String.ofList cs ++ unit

/-- The text of a span in messages. -/
def text (d : Duration) : String :=
  let n := d.nanoseconds
  if 1000000000 ≤ n then inUnit 9 n "s"
  else if 1000000 ≤ n then inUnit 6 n "ms"
  else if 1000 ≤ n then inUnit 3 n "µs"
  else inUnit 0 n "ns"

end Duration

end Shakedown
