/-
  Shakedown.Agent.Exit

  How a process ended, and the text of it in messages.
-/
import Shakedown.Text.Decimal

namespace Shakedown

/-- How a process ended: with an exit code, or by a signal.  Both are missing
when its status could not be collected. -/
structure ProcessExit where
  code : Option Int
  signal : Option Int
deriving DecidableEq, Repr, Inhabited

namespace ProcessExit

/-- The end of a process that exited of its own accord. -/
def ofCode (code : Int) : ProcessExit := ⟨some code, none⟩

/-- The end of a process that a signal killed. -/
def ofSignal (signal : Int) : ProcessExit := ⟨none, some signal⟩

/-- An end of which nothing is known. -/
def unknown : ProcessExit := ⟨none, none⟩

/-- Reads a wait status.  Its low seven bits are zero after an exit, whose code
is in the next eight, all set for a process that merely stopped, and the
signal's number otherwise. -/
def ofWaitStatus (status : Int) : ProcessExit :=
  let low := status % 128
  if low = 0 then ofCode (status / 256 % 256)
  else if low = 127 then unknown
  else ofSignal low

/-- Whether the process ended with code zero. -/
def success (e : ProcessExit) : Bool :=
  e.code == some 0

/-- The text of an end.  A code is told before a signal. -/
def text : ProcessExit → String
  | ⟨some code, _⟩ => "exit code " ++ Text.Decimal.signedText code
  | ⟨none, some signal⟩ => "signal " ++ Text.Decimal.signedText signal
  | ⟨none, none⟩ => "unknown exit status"

end ProcessExit

end Shakedown
