/-
  Shakedown.Scenario.Basic

  The scenario a healthy agent has to pass.  In this order: a container is
  created with the scoped token; the acceptance carries a task identifier; the
  admin sees at least one task; and listing containers with the scoped token
  is refused, unless the token holds the scope for it.  The first step that
  fails ends the scenario.
-/
import Shakedown.Plan
import Shakedown.Scenario.Cause

namespace Shakedown

/-- What a scenario can be told. -/
structure ScenarioParameters where
  /-- Names of created resources start with this. -/
  resourcePrefix : String := "smoke"
  platform : String := "windows-x64"
  /-- How often the task list is looked at before giving up; none is taken as once. -/
  taskListAttempts : Nat := 1
  taskListInterval : Duration := .ofMillis 500
deriving DecidableEq, Repr, Inhabited

/-- The name of a resource created at a moment: the given start and the moment
in milliseconds since the epoch. -/
def ScenarioParameters.resourceName (config : ScenarioParameters) (now : Moment) : String :=
  config.resourcePrefix ++ "-" ++ Text.Decimal.signedText now.millis

/-- What a scenario observed.  `cause` is why it failed, if it did. -/
structure ScenarioFindings where
  resourceName : String
  /-- The identifier the creation was accepted with. -/
  resourceId : Option String := none
  /-- The tasks the agent listed, in its order. -/
  tasks : List AgentTask := []
  /-- Whether the creation's own task is among them. -/
  createdTaskListed : Bool := false
  cause : Option ScenarioCause := none
deriving DecidableEq, Repr

namespace ScenarioFindings

def passed (o : ScenarioFindings) : Bool :=
  o.cause.isNone

/-- The outcome, failed for a reason. -/
def failWith (o : ScenarioFindings) (cause : ScenarioCause) : ScenarioFindings :=
  { o with cause := some cause }

end ScenarioFindings

namespace Scenario

/-- The call that looks at the task list. -/
def look (adminToken : String) : Call :=
  ⟨adminToken, .listTasks {}⟩

/-- Looks at the task list until it is not empty, with `more` looks left after
this one and a pause between two looks. -/
def looks (adminToken : String) (interval : Nat) :
    (more : Nat) → Plan (Except ApiFault (List AgentTask))
  | 0 => .ask (look adminToken) .done
  | more + 1 =>
    .ask (look adminToken) fun
      | .error f => .done (.error f)
      | .ok (task :: tasks) => .done (.ok (task :: tasks))
      | .ok [] => .pause interval (looks adminToken interval more)

/-- The tasks that a bounded number of looks at the list finds. -/
def awaitTasks (adminToken : String) (config : ScenarioParameters) :
    Plan (Except ApiFault (List AgentTask)) :=
  looks adminToken config.taskListInterval.nanoseconds (config.taskListAttempts - 1)

/-- The last step: listing containers is refused to a token without the scope. -/
def checkRefusal (token : ScopedToken) (o : ScenarioFindings) : Plan ScenarioFindings :=
  if token.holds Scope.readContainers then .done o
  else .ask ⟨token.secret, .listContainers⟩ fun
    -- An answer means that the scope is not looked at; only a refusal shows that it is.
    | .ok _ => .done (o.failWith (.scopeNotEnforced .listContainers Scope.readContainers))
    | .error f =>
      .done (if f.isRefusal then o else o.failWith (.ofApi .listContainers f))

/-- The steps after an acceptance with the identifier `taskId`. -/
def afterCreation (adminToken : String) (token : ScopedToken) (config : ScenarioParameters)
    (taskId : String) (o : ScenarioFindings) : Plan ScenarioFindings :=
  (awaitTasks adminToken config).bind fun
    | .error f => .done (o.failWith (.ofApi .listTasks f))
    | .ok [] => .done (o.failWith .noTasksListed)
    | .ok (task :: tasks) =>
      checkRefusal token { o with
        tasks := task :: tasks
        createdTaskListed := (task :: tasks).any fun t => t.identifier? == some taskId }

/-- The scenario, with the admin credential and a scoped token, started at a moment. -/
def plan (adminToken : String) (token : ScopedToken) (config : ScenarioParameters) (now : Moment) :
    Plan ScenarioFindings :=
  let name := config.resourceName now
  let o : ScenarioFindings := { resourceName := name }
  .ask ⟨token.secret, .createContainer { name, platform := config.platform }⟩ fun
    | .error f => .done (o.failWith (.ofApi .createContainer f))
    | .ok accepted =>
      match accepted.identifier? with
      | none => .done (o.failWith .missingIdentifier)
      | some taskId =>
        afterCreation adminToken token config taskId { o with resourceId := some taskId }

end Scenario

end Shakedown
