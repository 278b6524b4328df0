/-
  Shakedown.Proofs.Run.Execution

  The cases of a run: cancelled beforehand, without an agent, or with one.
  With an agent, all that can be observed of a run follows from the trace of
  its stages.
-/
import Shakedown.Proofs.Plan.Course
import Shakedown.Run.Basic

namespace Shakedown

variable {σ : Type} {api : Api σ} {config : RunParameters} {machine after : Machine}
  {agent : LaunchedAgent} {clock : Nat → Moment} {s : σ}

/-- The call or wait that a step is. -/
def RunStep.event? : RunStep → Option Event
  | .event e => some e
  | _ => none

namespace Execution

/-- The calls and waits of the stages of a run. -/
def stageEvents (x : Execution) : List Event :=
  x.steps.filterMap RunStep.event?

/-- The calls of a run are those of its stages. -/
theorem calls_eq_callsOf (x : Execution) : x.calls = callsOf x.stageEvents := by
  unfold calls callsOf stageEvents
  rw [List.filterMap_filterMap]
  congr 1
  funext step
  cases step <;> rfl

end Execution

namespace Run

/-- A run whose agent cannot be launched takes no step. -/
theorem execute_of_launch_error (api : Api σ) (clock : Nat → Moment) (s : σ) {f : RunFailure}
    (h : machine.launch config.launch 0 = (after, .error f)) (i : Option Interruption) :
    execute api config machine clock (i.map .during) s =
      ⟨[], some (.error f), after, none⟩ := by
  cases i with
  | none => simp only [execute, Option.map_none, h]
  | some i => simp only [execute, Option.map_some, h]

/-- A run with an agent, which an interruption may cut short. -/
theorem execute_of_launched (api : Api σ) (clock : Nat → Moment) (s : σ)
    (h : machine.launch config.launch 0 = (after, .ok agent)) (i : Option Interruption) :
    execute api config machine clock (i.map .during) s =
      supervise api config after agent clock i s := by
  cases i with
  | none => simp only [execute, Option.map_none, h]
  | some i => simp only [execute, Option.map_some, h]

theorem execute_whole_of_launch_error (api : Api σ) (clock : Nat → Moment) (s : σ)
    {f : RunFailure} (h : machine.launch config.launch 0 = (after, .error f)) :
    execute api config machine clock none s = ⟨[], some (.error f), after, none⟩ :=
  execute_of_launch_error api clock s h none

theorem execute_whole_of_launched (api : Api σ) (clock : Nat → Moment) (s : σ)
    (h : machine.launch config.launch 0 = (after, .ok agent)) :
    execute api config machine clock none s = supervise api config after agent clock none s :=
  execute_of_launched api clock s h none

/-- What a run reports of its stages, once cleanup is over. -/
def reported (config : RunParameters) (agent : LaunchedAgent)
    (e : Nat × Except RunFailure RunFindings) : Except RunFailure RunSummary :=
  e.2.map fun findings =>
    ⟨findings, (agent.process.cleanup e.1 config.cleanupGrace.nanoseconds).report⟩

theorem supervise_result (i : Option Interruption) :
    (supervise api config machine agent clock i s).result =
      (stages api config agent clock i s).ending.map (reported config agent) := by
  cases h : (stages api config agent clock i s).ending with
  | none => simp only [supervise, h, Option.map_none]
  | some e =>
    simp only [supervise, h, Option.map_some]
    rfl

theorem filterMap_event? (events : List Event) :
    (events.map RunStep.event).filterMap RunStep.event? = events := by
  rw [List.filterMap_map]
  exact List.filterMap_some

theorem supervise_stageEvents (i : Option Interruption) :
    (supervise api config machine agent clock i s).stageEvents =
      (stages api config agent clock i s).events := by
  cases h : (stages api config agent clock i s).ending with
  | none =>
    simp only [Execution.stageEvents, supervise, h]
    exact filterMap_event? _
  | some e =>
    simp only [Execution.stageEvents, supervise, h, List.filterMap_append]
    exact (List.append_nil _).trans (filterMap_event? _)

theorem supervise_calls (i : Option Interruption) :
    (supervise api config machine agent clock i s).calls =
      (stages api config agent clock i s).calls := by
  rw [Execution.calls_eq_callsOf, supervise_stageEvents]
  rfl

end Run

end Shakedown
