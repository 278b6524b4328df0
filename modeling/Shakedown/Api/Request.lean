/-
  Shakedown.Api.Request

  The calls of the agent's API, what each carries and what it answers.  Every
  call names the credential it is made with.
-/
import Shakedown.Api.Fault
import Shakedown.Wire.Container
import Shakedown.Wire.System
import Shakedown.Wire.Task
import Shakedown.Wire.Token

namespace Shakedown

/-- What is asked of the agent. -/
inductive Request where
  /-- Is the agent healthy?  Any 2xx answer says yes, whatever its body. -/
  | health
  | systemInfo
  | issueToken (order : TokenOrder)
  | revokeToken (id : Uuid)
  | createContainer (order : ContainerOrder)
  | listContainers
  | listTasks (filter : TaskFilter)
deriving DecidableEq

namespace Request

/-- What a successful answer holds. -/
abbrev Reply : Request → Type
  | .health => Option SystemReport
  | .systemInfo => SystemReport
  | .issueToken _ => TokenGrant
  | .revokeToken _ => Unit
  | .createContainer _ => AgentTask
  | .listContainers => List Container
  | .listTasks _ => List AgentTask

def document? : Request → Option Json
  | .issueToken order => some order.toJson
  | .createContainer order => some order.toJson
  | _ => none

/-- Reads the document of a successful answer.  A revocation answers with anything. -/
def decode? (j : Json) : (r : Request) → Option r.Reply
  | .health => (SystemReport.ofJson? j).map some
  | .systemInfo => SystemReport.ofJson? j
  | .issueToken _ => TokenGrant.ofJson? j
  | .revokeToken _ => some ()
  | .createContainer _ => AgentTask.ofJson? j
  | .listContainers => Json.list? Container.ofJson? j
  | .listTasks _ => Json.list? AgentTask.ofJson? j

end Request

/-- A request made with a credential. -/
structure Call where
  credential : String
  request : Request
deriving DecidableEq

/-- What a call comes to. -/
abbrev Call.Result (c : Call) : Type := Except ApiFault c.request.Reply

/-- Health as it follows from the system information: a body that is no system
information is as good as one that is. -/
def healthOf : Except ApiFault SystemReport → Except ApiFault (Option SystemReport)
  | .ok report => .ok (some report)
  | .error (.malformed _) => .ok none
  | .error f => .error f

end Shakedown
