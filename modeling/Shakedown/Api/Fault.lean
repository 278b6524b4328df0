/-
  Shakedown.Api.Fault

  How a call of the agent's API can fail.
-/
import Shakedown.Time.Duration

namespace Shakedown

/-- Why a call of the agent's API gave no value: the agent answered with
another status, no answer came over the connection, none came in time, or the
answer's body is not the document expected. -/
inductive ApiFault where
  | status (code : Nat) (body : String)
  | transport (message : String)
  | timeout (after : Duration)
  | malformed (message : String)
deriving DecidableEq, Repr

namespace ApiFault

/-- The text of a fault. -/
def message : ApiFault → String
  | .status code body => "HTTP " ++ Text.Decimal.text code ++ ": " ++ body
  | .transport m => "transport error: " ++ m
  | .timeout d => "request timed out after " ++ d.text
  | .malformed m => "malformed response body: " ++ m

/-- The status of the answer, if the agent answered with another one than asked for. -/
def status? : ApiFault → Option Nat
  | .status code _ => some code
  | _ => none

/-- Whether the agent refused the credential (401) or its scope (403). -/
def isRefusal (f : ApiFault) : Bool :=
  f.status? == some 401 || f.status? == some 403

end ApiFault

end Shakedown
