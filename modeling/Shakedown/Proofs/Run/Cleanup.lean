/-
  Shakedown.Proofs.Run.Cleanup

  Cleaning up at the end of a run.  Whatever the stages come to, a run with an
  agent takes its steps in one order: it launches the agent, arms the kill
  switch, goes through the stages, cleans up and disarms.  So the switch holds
  the agent from arming until the cleanup is over, and what the cleanup
  observes is added to what the run came to without changing it.
-/
import Mathlib.Data.List.Induction
import Shakedown.Proofs.Agent.Cleanup
import Shakedown.Proofs.Run.Interruption
import Shakedown.Proofs.Run.Verdict

namespace Shakedown

variable {σ : Type}

/-! ## The steps of a run -/

namespace RunStep

/-- Where in a run a step comes. -/
def place : RunStep → Nat
  | .launched _ => 0
  | .armed _ => 1
  | .event _ => 2
  | .cleanedUp _ => 3
  | .disarmed => 4

def launched? : RunStep → Option Pid
  | .launched pid => some pid
  | _ => none

def armed? : RunStep → Option Pid
  | .armed pid => some pid
  | _ => none

/-- What a cleanup reports. -/
def report? : RunStep → Option CleanupFindings
  | .cleanedUp report => some report
  | _ => none

end RunStep

namespace Execution

/-- The processes that a run launched. -/
def launches (x : Execution) : List Pid :=
  x.steps.filterMap RunStep.launched?

/-- The process groups that a run armed its kill switch with. -/
def armings (x : Execution) : List Pid :=
  x.steps.filterMap RunStep.armed?

/-- What the cleanups of a run reported. -/
def cleanups (x : Execution) : List CleanupFindings :=
  x.steps.filterMap RunStep.report?

end Execution

/-! ## What the kill switch holds -/

namespace Execution

variable {pid : Pid}

/-- What a step leaves in the kill switch. -/
theorem armedAfter_snoc (held : Option Pid) (steps : List RunStep) (step : RunStep) :
    armedAfter held (steps ++ [step]) = armedAfter (armedAfter held steps) [step] := by
  induction steps generalizing held with
  | nil => rfl
  | cons first rest ih =>
    cases first with
    | launched pid => exact ih held
    | armed pid => exact ih (some pid)
    | event e => exact ih held
    | cleanedUp report => exact ih held
    | disarmed => exact ih none

/-- A step that neither arms nor disarms leaves the switch as it is. -/
theorem holds_snoc {steps : List RunStep} {step : RunStep} {held : Pid}
    (hidle : ∀ now, armedAfter now [step] = now) (harmed : step ≠ .armed pid)
    (hdisarmed : step ≠ .disarmed)
    (h : armedAfter none steps = some held ↔
      held = pid ∧ .armed pid ∈ steps ∧ .disarmed ∉ steps) :
    armedAfter none (steps ++ [step]) = some held ↔
      held = pid ∧ .armed pid ∈ steps ++ [step] ∧ .disarmed ∉ steps ++ [step] := by
  rw [armedAfter_snoc, hidle, h]
  simp only [List.mem_append, List.mem_singleton, harmed.symm, hdisarmed.symm, or_false]

/-- A switch that is armed with one process only, and not again once it was
disarmed, holds that process from arming to disarming, and nothing else ever. -/
theorem armedAfter_iff {steps : List RunStep}
    (horder : steps.Pairwise fun a b => a.place ≤ b.place)
    (honly : ∀ other, RunStep.armed other ∈ steps → other = pid) (held : Pid) :
    armedAfter none steps = some held ↔
      held = pid ∧ .armed pid ∈ steps ∧ .disarmed ∉ steps := by
  -- By the last step: only arming and disarming change what the switch holds.
  induction steps using List.reverseRecOn with
  | nil => exact iff_of_false nofun fun h => nomatch h.2.1
  | append_singleton steps step ih =>
    obtain ⟨horder, -, hlast⟩ := List.pairwise_append.mp horder
    have ih := ih horder fun other h => honly other (List.mem_append_left _ h)
    cases step with
    | launched other => exact holds_snoc (fun _ => rfl) nofun nofun ih
    | event e => exact holds_snoc (fun _ => rfl) nofun nofun ih
    | cleanedUp report => exact holds_snoc (fun _ => rfl) nofun nofun ih
    | armed other =>
      obtain rfl := honly other (List.mem_append_right _ List.mem_cons_self)
      have hfirst : RunStep.disarmed ∉ steps := fun h =>
        absurd (hlast _ h _ List.mem_cons_self) (by decide : ¬4 ≤ 1)
      rw [armedAfter_snoc, armedAfter]
      constructor
      · intro h
        refine ⟨(Option.some.inj h).symm, List.mem_append_right _ List.mem_cons_self, ?_⟩
        simpa only [List.mem_append, List.mem_singleton, reduceCtorEq, or_false] using hfirst
      · rintro ⟨rfl, -, -⟩
        rfl
    | disarmed =>
      rw [armedAfter_snoc, armedAfter]
      exact iff_of_false nofun fun h =>
        h.2.2 (List.mem_append_right _ List.mem_cons_self)

end Execution

/-! ## The steps of a run with an agent -/

namespace Run

variable {api : Api σ} {config : RunParameters} {machine : Machine} {agent : LaunchedAgent}
  {clock : Nat → Moment} {s : σ} {pid : Pid}

/-- A run with an agent launches that agent only, arms its kill switch with it, once,
then goes through the stages, then cleans up, then disarms; so at any moment
the switch holds that agent if it has been armed and not disarmed yet, and holds
nothing otherwise. -/
structure Guards (pid : Pid) (x : Execution) : Prop where
  launches : x.launches = [pid]
  armings : x.armings = [pid]
  ordered : x.steps.Pairwise fun a b => a.place ≤ b.place
  holds : ∀ before, before <+: x.steps → ∀ held, Execution.armedAfter none before = some held ↔
    held = pid ∧ .armed pid ∈ before ∧ .disarmed ∉ before

/-- The cleanup of a run that was decided at a time. -/
def cleanedUp (config : RunParameters) (agent : LaunchedAgent) (now : Nat) :
    AgentProcess.Cleaned :=
  agent.process.cleanup now config.cleanupGrace.nanoseconds

/-- A run with an agent that was decided at a time has cleaned up once, from that time
on, and comes to what was decided.  Its switch is empty. -/
structure EndsWith (config : RunParameters) (agent : LaunchedAgent) (now : Nat)
    (decided : Except RunFailure RunFindings) (x : Execution) : Prop where
  cleanups : x.cleanups = [(cleanedUp config agent now).report]
  result : x.result =
    some (decided.map fun findings => ⟨findings, (cleanedUp config agent now).report⟩)
  process : x.agent = some { agent with process := (cleanedUp config agent now).process }
  disarmed : ∀ held, Execution.armedAfter held x.steps = none

/-- What decides a run with an agent, and when: its stages, or an interruption that is
noticed while they go on. -/
inductive Decides (api : Api σ) (config : RunParameters) (agent : LaunchedAgent)
    (clock : Nat → Moment) (s : σ) :
    Option Interruption → Nat → Except RunFailure RunFindings → Prop where
  | stages {i : Option Interruption} {now : Nat} {r : Except RunFailure RunFindings}
      (huncut : ∀ j, i = some j →
        j.cut? 0 (pipeline api config agent.process.exit? clock 0 s).events = none)
      (h : (pipeline api config agent.process.exit? clock 0 s).ending = some (now, r)) :
      Decides api config agent clock s i now r
  | interruption {i : Interruption} {es : List Event} {now : Nat}
      (h : i.cut? 0 (pipeline api config agent.process.exit? clock 0 s).events =
        some (es, now)) :
      Decides api config agent clock s (some i) now (.error .interrupted)

/-! ## Runs with an agent -/

/-- What follows the stages of a run: the cleanup that makes a report, if they end. -/
def closing : Option CleanupFindings → List RunStep
  | none => []
  | some report => [.cleanedUp report, .disarmed]

/-- The steps of a run with an agent. -/
def stepsWith (pid : Pid) (events : List Event) (report : Option CleanupFindings) :
    List RunStep :=
  .launched pid :: .armed pid :: (events.map RunStep.event ++ closing report)

theorem supervise_steps (api : Api σ) (config : RunParameters) (machine : Machine)
    (agent : LaunchedAgent) (clock : Nat → Moment) (s : σ) (i : Option Interruption) :
    (supervise api config machine agent clock i s).steps =
      stepsWith agent.process.pid (stages api config agent clock i s).events
        ((stages api config agent clock i s).ending.map fun e =>
          (cleanedUp config agent e.1).report) := by
  cases h : (stages api config agent clock i s).ending with
  | none =>
    simp only [supervise, h, Option.map_none]
    rw [stepsWith, closing, List.append_nil]
  | some e =>
    simp only [supervise, h, Option.map_some]
    rfl

/-- A kind of step that stages do not take is taken before or after them. -/
theorem filterMap_stepsWith {β : Type} {kind : RunStep → Option β}
    (hevent : ∀ e, kind (.event e) = none) (events : List Event)
    (report : Option CleanupFindings) :
    (stepsWith pid events report).filterMap kind =
      [RunStep.launched pid, .armed pid].filterMap kind ++ (closing report).filterMap kind := by
  have hnone : (events.map RunStep.event).filterMap kind = [] := by
    rw [List.filterMap_map, List.filterMap_eq_nil_iff]
    exact fun e _ => hevent e
  rw [stepsWith, ← List.cons_append, ← List.cons_append, List.filterMap_append]
  rw [show RunStep.launched pid :: RunStep.armed pid :: events.map RunStep.event =
    [RunStep.launched pid, .armed pid] ++ events.map RunStep.event from rfl,
    List.filterMap_append, hnone, List.append_nil]

theorem pairwise_stepsWith (events : List Event) (report : Option CleanupFindings) :
    (stepsWith pid events report).Pairwise fun a b => a.place ≤ b.place := by
  have hplace : ∀ step ∈ events.map RunStep.event, step.place = 2 := by
    intro step h
    obtain ⟨e, -, rfl⟩ := List.mem_map.mp h
    rfl
  have hclosing : ∀ step ∈ closing report, 2 ≤ step.place := by
    cases report with
    | none => exact nofun
    | some r => simp [closing, RunStep.place]
  have hevents : (events.map RunStep.event).Pairwise fun a b => a.place ≤ b.place :=
    List.pairwise_of_forall_mem_list fun a ha b hb =>
      Nat.le_of_eq ((hplace a ha).trans (hplace b hb).symm)
  have hend : (closing report).Pairwise fun a b => a.place ≤ b.place := by
    cases report with
    | none => exact List.Pairwise.nil
    | some r => simp [closing, RunStep.place]
  have hrest : (events.map RunStep.event ++ closing report).Pairwise
      fun a b => a.place ≤ b.place :=
    List.pairwise_append.mpr ⟨hevents, hend, fun a ha b hb => by
      rw [hplace a ha]
      exact hclosing b hb⟩
  have hlate : ∀ step ∈ events.map RunStep.event ++ closing report, 2 ≤ step.place := by
    intro step h
    rcases List.mem_append.mp h with h | h
    · exact Nat.le_of_eq (hplace step h).symm
    · exact hclosing step h
  rw [stepsWith, List.pairwise_cons, List.pairwise_cons]
  refine ⟨fun step _ => Nat.zero_le _, fun step h => ?_, hrest⟩
  exact Nat.le_trans (by decide : 1 ≤ 2) (hlate step h)

/-- Whatever the stages come to, a run with an agent guards that agent. -/
theorem guards_of_stepsWith {x : Execution} {events : List Event}
    {report : Option CleanupFindings} (h : x.steps = stepsWith pid events report) :
    Guards pid x := by
  have hcloses : ∀ {β : Type} {kind : RunStep → Option β},
      (∀ r, kind (.cleanedUp r) = none) → kind .disarmed = none →
        (closing report).filterMap kind = [] := by
    intro β kind hcleaned hdisarmed
    cases report with
    | none => rfl
    | some r => simp only [closing, List.filterMap_cons, hcleaned, hdisarmed, List.filterMap_nil]
  have harmings : x.armings = [pid] := by
    rw [Execution.armings, h, filterMap_stepsWith (fun _ => rfl), hcloses (fun _ => rfl) rfl]
    rfl
  have hordered : x.steps.Pairwise fun a b => a.place ≤ b.place := by
    rw [h]
    exact pairwise_stepsWith events report
  refine ⟨?_, harmings, hordered, fun before hbefore held => ?_⟩
  · rw [Execution.launches, h, filterMap_stepsWith (fun _ => rfl), hcloses (fun _ => rfl) rfl]
    rfl
  -- A part of the steps is in order too, and arms with nothing else.
  · refine Execution.armedAfter_iff (hordered.sublist hbefore.sublist) (fun other hother => ?_) held
    have hmem : other ∈ x.armings :=
      List.mem_filterMap.mpr ⟨_, hbefore.subset hother, rfl⟩
    rw [harmings] at hmem
    exact List.mem_singleton.mp hmem

theorem cleanups_of_stepsWith {x : Execution} {events : List Event}
    {report : Option CleanupFindings} (h : x.steps = stepsWith pid events report) :
    x.cleanups = report.toList := by
  rw [Execution.cleanups, h, filterMap_stepsWith (fun _ => rfl)]
  cases report <;> rfl

/-- A run that has cleaned up has disarmed the switch, whatever that held before. -/
theorem disarmed_of_stepsWith {x : Execution} {events : List Event} {report : CleanupFindings}
    (h : x.steps = stepsWith pid events (some report)) (held : Option Pid) :
    Execution.armedAfter held x.steps = none := by
  have hsplit : x.steps =
      (RunStep.launched pid :: .armed pid :: (events.map RunStep.event ++ [.cleanedUp report])) ++
        [.disarmed] := by
    rw [h, stepsWith, closing]
    simp only [List.cons_append, List.append_assoc, List.nil_append]
  rw [hsplit, Execution.armedAfter_snoc]
  rfl

/-- Stages that end were decided. -/
theorem decides_of_ending {i : Option Interruption} {now : Nat}
    {decided : Except RunFailure RunFindings}
    (h : (stages api config agent clock i s).ending = some (now, decided)) :
    Decides api config agent clock s i now decided := by
  cases i with
  | none => exact .stages nofun h
  | some i =>
    -- An interruption that finds no pause to be noticed at leaves the stages alone.
    cases hcut : i.cut? 0 (pipeline api config agent.process.exit? clock 0 s).events with
    | none =>
      have hstages : stages api config agent clock (some i) s =
          pipeline api config agent.process.exit? clock 0 s := by
        rw [stages, Interruption.apply, Option.bind_some, hcut]
      rw [hstages] at h
      refine .stages ?_ h
      rintro j hj
      obtain rfl := Option.some.inj hj
      exact hcut
    | some e =>
      have hstages : stages api config agent clock (some i) s =
          ⟨e.1, some (e.2, .error .interrupted)⟩ := Interruption.apply_of_cut? hcut
      rw [hstages] at h
      obtain ⟨rfl, rfl⟩ := Prod.mk.inj (Option.some.inj h)
      exact .interruption hcut

theorem supervise_endsWith {i : Option Interruption} {now : Nat}
    {decided : Except RunFailure RunFindings}
    (h : (stages api config agent clock i s).ending = some (now, decided)) :
    EndsWith config agent now decided (supervise api config machine agent clock i s) := by
  have hsteps := supervise_steps api config machine agent clock s i
  rw [h, Option.map_some] at hsteps
  refine ⟨cleanups_of_stepsWith hsteps, ?_, ?_, disarmed_of_stepsWith hsteps⟩
  · rw [supervise_result, h]
    rfl
  · simp only [supervise, h]
    rfl

/-- A run that goes on for ever does so without its interruption. -/
theorem neverEnds_of_result {c : Option Cancellation}
    (h : (execute api config machine clock c s).result = none) :
    NeverEnds api config machine clock s := by
  rcases execute_eq_or api config machine clock s c with heq | ⟨hresult, -⟩
  · have hcomes := comesTo_result api config machine clock s
    rw [← heq, h] at hcomes
    cases hcomes with
    | never h => exact h
  · exact nomatch h.symm.trans hresult

/-- Cleanup on every path, whatever the API, the agent and the cancellation do.  Once an
agent is launched, the switch holds it from arming until the cleanup is over, and the
run cleans up exactly once, after its last call and from the time at which it was
decided; what the cleanup observes is added to what was decided and changes nothing
of it.  Only a run that waits for ever for an answer is never decided, and does not
clean up.  A run without an agent takes no step at all, so its switch is never armed. -/
theorem cleanup_on_every_path (api : Api σ) (config : RunParameters) (machine : Machine)
    (clock : Nat → Moment) (s : σ) :
    (∀ agent, (machine.launch config.launch 0).2 = .ok agent → ∀ i : Option Interruption,
      Guards agent.process.pid (execute api config machine clock (i.map .during) s) ∧
      ((∃ now decided, Decides api config agent clock s i now decided ∧
          EndsWith config agent now decided
            (execute api config machine clock (i.map .during) s)) ∨
        (execute api config machine clock (i.map .during) s).result = none ∧
          (execute api config machine clock (i.map .during) s).cleanups = [] ∧
          NeverEnds api config machine clock s)) ∧
    (∀ f, (machine.launch config.launch 0).2 = .error f → ∀ i : Option Interruption,
      (execute api config machine clock (i.map .during) s).steps = [] ∧
      (execute api config machine clock (i.map .during) s).result = some (.error f) ∧
      (execute api config machine clock (i.map .during) s).agent = none) ∧
    (execute api config machine clock (some .beforehand) s).steps = [] ∧
    (execute api config machine clock (some .beforehand) s).result = some (.error .interrupted) ∧
    (execute api config machine clock (some .beforehand) s).agent = none := by
  refine ⟨fun agent hlaunch i => ?_, fun f hlaunch i => ?_, rfl, rfl, rfl⟩
  · have hrun := execute_of_launched api clock s (Prod.ext rfl hlaunch) i
    have hsteps := supervise_steps api config (machine.launch config.launch 0).1 agent clock s i
    rw [← hrun] at hsteps
    refine ⟨guards_of_stepsWith hsteps, ?_⟩
    cases hending : (stages api config agent clock i s).ending with
    | none =>
      have hresult : (execute api config machine clock (i.map .during) s).result = none := by
        rw [hrun, supervise_result, hending]
        rfl
      rw [hending] at hsteps
      exact Or.inr ⟨hresult, cleanups_of_stepsWith hsteps, neverEnds_of_result hresult⟩
    | some e =>
      refine Or.inl ⟨e.1, e.2, decides_of_ending hending, ?_⟩
      rw [hrun]
      exact supervise_endsWith hending
  · rw [execute_of_launch_error api clock s (Prod.ext rfl hlaunch) i]
    exact ⟨rfl, rfl, rfl⟩

end Run

end Shakedown
