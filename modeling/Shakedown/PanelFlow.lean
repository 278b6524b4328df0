/-
  Shakedown.PanelFlow

  What an operator's panel does with an agent that is already running: read
  the system information, list the containers, create one, give the agent a
  while, and show the latest tasks.  All with one credential, and no further
  than the first call that fails.
-/
import Shakedown.Plan

namespace Shakedown

/-- What the flow can be told. -/
structure PanelFlowParameters where
  /-- Names of created containers start with this. -/
  namePrefix : String := "panel-flow"
  platform : String := "windows-x64"
  /-- The pause between creating a container and listing tasks. -/
  settle : Duration := .ofSeconds 2
  /-- How many tasks are asked for. -/
  taskLimit : UInt32 := 10
deriving DecidableEq, Repr, Inhabited

/-- What the panel shows. -/
structure PanelReport where
  system : SystemReport
  /-- The containers there were before the flow created one. -/
  existingContainers : Nat
  resourceName : String
  createdTaskId : Option String
  recentTasks : List AgentTask
deriving DecidableEq, Repr

namespace PanelFlow

/-- The flow, with a suffix that makes the created container's name its own. -/
def plan (adminToken : String) (config : PanelFlowParameters) (suffix : String) :
    Plan (Except ApiFault PanelReport) :=
  .ask ⟨adminToken, .systemInfo⟩ fun
  | .error f => .done (.error f)
  | .ok system =>
    .ask ⟨adminToken, .listContainers⟩ fun
    | .error f => .done (.error f)
    | .ok containers =>
      let name := config.namePrefix ++ "-" ++ suffix
      .ask ⟨adminToken, .createContainer { name, platform := config.platform }⟩ fun
      | .error f => .done (.error f)
      | .ok created =>
        .pause config.settle.nanoseconds <|
          .ask ⟨adminToken, .listTasks { limit := some config.taskLimit }⟩ fun
          | .error f => .done (.error f)
          | .ok tasks => .done (.ok {
              system
              existingContainers := containers.length
              resourceName := name
              createdTaskId := created.identifier?
              recentTasks := tasks })

end PanelFlow

end Shakedown
