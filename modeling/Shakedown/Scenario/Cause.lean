/-
  Shakedown.Scenario.Cause

  Why a scenario fails.  Each cause names the operation it is about, and the
  texts of any two causes differ.
-/
import Shakedown.Api.Request
import Shakedown.Token.Basic

namespace Shakedown

/-- An operation of the agent that the scenario exercises. -/
inductive ScenarioCall where
  | createContainer
  | listTasks
  | listContainers
deriving DecidableEq, Repr

/-- Method and path of an operation. -/
def ScenarioCall.text : ScenarioCall → String
  | .createContainer => "POST /containers"
  | .listTasks => "GET /tasks"
  | .listContainers => "GET /containers"

/-- Why a scenario failed. -/
inductive ScenarioCause where
  /-- The creation was accepted without an identifier. -/
  | missingIdentifier
  /-- No task was listed after the creation. -/
  | noTasksListed
  /-- An operation was answered with another status than success. -/
  | unexpectedStatus (operation : ScenarioCall) (code : Nat) (body : String)
  /-- An operation failed before an answer came. -/
  | transport (operation : ScenarioCall) (message : String)
  /-- An operation succeeded with a body that is not the document expected. -/
  | malformedResponse (operation : ScenarioCall) (message : String)
  /-- An operation succeeded with a token that lacks the scope for it. -/
  | scopeNotEnforced (operation : ScenarioCall) (scope : String)
deriving DecidableEq, Repr

namespace ScenarioCause

/-- The text of a cause. -/
def message : ScenarioCause → String
  | .missingIdentifier => "no identifier returned by " ++ ScenarioCall.createContainer.text
  | .noTasksListed => "no tasks listed by " ++ ScenarioCall.listTasks.text ++ " after container creation"
  | .unexpectedStatus op code body =>
    "unexpected HTTP " ++ Text.Decimal.text code ++ " from " ++ op.text ++ ": " ++ body
  | .transport op m => op.text ++ " failed before a response: " ++ m
  | .malformedResponse op m => op.text ++ " answered 2xx with a malformed body: " ++ m
  | .scopeNotEnforced op scope => op.text ++ " succeeded with a token lacking `" ++ scope ++ "`"

/-- A failed call as the cause of a scenario's failure. -/
def ofApi (op : ScenarioCall) : ApiFault → ScenarioCause
  | .status code body => .unexpectedStatus op code body
  | .malformed m => .malformedResponse op m
  | f => .transport op f.message

end ScenarioCause

end Shakedown
