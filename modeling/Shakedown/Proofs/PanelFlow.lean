/-
  Shakedown.Proofs.PanelFlow

  The course of the panel flow, told without its plan: four calls in a fixed
  order, each made only if the ones before it succeeded, the last one only
  after a while.  The flow runs exactly as its course, so that the point at
  which it stops decides which calls were made, when, and what it comes to.
-/
import Shakedown.PanelFlow
import Shakedown.Proofs.Plan.Runs
import Shakedown.Proofs.Scenario.Course

namespace Shakedown.PanelFlow

variable {σ : Type} {api : Api σ} {token : String} {config : PanelFlowParameters}
  {suffix : String} {p q : Standing σ} {calls : List TimedCall}
  {outcome : Option (Except ApiFault PanelReport × Standing σ)}

/-! ## The calls -/

/-- Reads the system information. -/
def informing (token : String) : Call :=
  ⟨token, .systemInfo⟩

/-- Lists the containers there are. -/
def listing (token : String) : Call :=
  ⟨token, .listContainers⟩

/-- The name of the container that the flow creates. -/
def resourceName (config : PanelFlowParameters) (suffix : String) : String :=
  config.namePrefix ++ "-" ++ suffix

/-- Creates a container. -/
def creation (token : String) (config : PanelFlowParameters) (suffix : String) : Call :=
  ⟨token, .createContainer
    { name := resourceName config suffix, platform := config.platform, description := none }⟩

/-- Lists the latest tasks, whatever their status. -/
def recounting (token : String) (config : PanelFlowParameters) : Call :=
  ⟨token, .listTasks { limit := some config.taskLimit, status := none }⟩

/-! ## Courses -/

/-- The flow stops with a call made at `p`: the call fails, and its fault is what the flow comes
to, or it is never answered. -/
inductive Stops (api : Api σ) (p : Standing σ) (c : Call) :
    Option (Except ApiFault PanelReport × Standing σ) → Prop where
  | failed {f : ApiFault} {q : Standing σ} (h : api.Answers p c (.error f) q) :
      Stops api p c (some (.error f, q))
  | ignored (h : api.Ignores p c) : Stops api p c none

/-- Both reads of a flow started at `p` succeed, one at `p₁` and the other at `p₂`. -/
structure Reads (api : Api σ) (token : String) (p : Standing σ) (system : SystemReport)
    (p₁ : Standing σ) (containers : List Container) (p₂ : Standing σ) : Prop where
  informed : api.Answers p (informing token) (.ok system) p₁
  listed : api.Answers p₁ (listing token) (.ok containers) p₂

/-- What the panel shows once all four calls have succeeded. -/
def shown (config : PanelFlowParameters) (suffix : String) (system : SystemReport)
    (containers : List Container) (created : AgentTask) (tasks : List AgentTask) :
    PanelReport where
  system := system
  existingContainers := containers.length
  resourceName := resourceName config suffix
  createdTaskId := if Text.blank created.id then none else some (Text.trimmed created.id)
  recentTasks := tasks

/-- The course of a flow started at `p`: the calls up to and including the first that fails or
waits for ever, and what the flow comes to, and where, unless it waits for ever. -/
inductive Course (api : Api σ) (token : String) (config : PanelFlowParameters)
    (suffix : String) (p : Standing σ) :
    List TimedCall → Option (Except ApiFault PanelReport × Standing σ) → Prop where
  | uninformed {outcome : Option (Except ApiFault PanelReport × Standing σ)}
      (h : Stops api p (informing token) outcome) :
      Course api token config suffix p [⟨p.now, informing token⟩] outcome
  | unlisted {system : SystemReport} {p₁ : Standing σ}
      {outcome : Option (Except ApiFault PanelReport × Standing σ)}
      (hinformed : api.Answers p (informing token) (.ok system) p₁)
      (h : Stops api p₁ (listing token) outcome) :
      Course api token config suffix p [⟨p.now, informing token⟩, ⟨p₁.now, listing token⟩] outcome
  | notCreated {system : SystemReport} {containers : List Container} {p₁ p₂ : Standing σ}
      {outcome : Option (Except ApiFault PanelReport × Standing σ)}
      (hread : Reads api token p system p₁ containers p₂)
      (h : Stops api p₂ (creation token config suffix) outcome) :
      Course api token config suffix p
        [⟨p.now, informing token⟩, ⟨p₁.now, listing token⟩,
          ⟨p₂.now, creation token config suffix⟩] outcome
  | notRecounted {system : SystemReport} {containers : List Container} {created : AgentTask}
      {p₁ p₂ p₃ : Standing σ} {outcome : Option (Except ApiFault PanelReport × Standing σ)}
      (hread : Reads api token p system p₁ containers p₂)
      (hcreated : api.Answers p₂ (creation token config suffix) (.ok created) p₃)
      (h : Stops api (p₃.later config.settle.nanoseconds) (recounting token config) outcome) :
      Course api token config suffix p
        [⟨p.now, informing token⟩, ⟨p₁.now, listing token⟩,
          ⟨p₂.now, creation token config suffix⟩,
          ⟨p₃.now + config.settle.nanoseconds, recounting token config⟩] outcome
  | complete {system : SystemReport} {containers : List Container} {created : AgentTask}
      {tasks : List AgentTask} {p₁ p₂ p₃ q : Standing σ}
      (hread : Reads api token p system p₁ containers p₂)
      (hcreated : api.Answers p₂ (creation token config suffix) (.ok created) p₃)
      (hrecounted : api.Answers (p₃.later config.settle.nanoseconds) (recounting token config)
        (.ok tasks) q) :
      Course api token config suffix p
        [⟨p.now, informing token⟩, ⟨p₁.now, listing token⟩,
          ⟨p₂.now, creation token config suffix⟩,
          ⟨p₃.now + config.settle.nanoseconds, recounting token config⟩]
        (some (.ok (shown config suffix system containers created tasks), q))

/-! ## The flow runs as its course -/

/-- What a flow makes of the identifier of the task it has started. -/
theorem identifier?_eq (created : AgentTask) : created.identifier? =
    if Text.blank created.id then none else some (Text.trimmed created.id) := by
  split
  · rename_i h
    exact AgentTask.identifier?_of_blank h
  · rename_i h
    exact AgentTask.identifier?_of_not_blank (Bool.eq_false_iff.mpr h)

/-- A call is answered with what it asks for, or the flow stops with it. -/
theorem succeeds_or_stops (api : Api σ) (p : Standing σ) (c : Call) :
    (∃ a q, api.Answers p c (.ok a) q) ∨ ∃ outcome, Stops api p c outcome := by
  rcases api.answers_or_ignores p c with ⟨r, q, h⟩ | hnone
  · cases r with
    | error f => exact Or.inr ⟨_, .failed h⟩
    | ok a => exact Or.inl ⟨a, q, h⟩
  · exact Or.inr ⟨_, .ignored hnone⟩

/-- A plan that makes a call and ends with its fault if it fails runs as long as the call. -/
theorem Stops.runs {c : Call} {next : c.Result → Plan (Except ApiFault PanelReport)}
    (h : Stops api p c outcome) (hnext : ∀ f, next (.error f) = .done (.error f)) :
    (Plan.ask c next).Runs api p [⟨p.now, c⟩] outcome := by
  cases h with
  | failed h =>
    refine .ask h ?_
    rw [hnext]
    exact .done api _ _
  | ignored h => exact .ask_of_ignores h next

theorem Course.runs (h : Course api token config suffix p calls outcome) :
    (plan token config suffix).Runs api p calls outcome := by
  cases h with
  | uninformed h => exact h.runs fun _ => rfl
  | unlisted hinformed h => exact .ask hinformed (h.runs fun _ => rfl)
  | notCreated hread h => exact .ask hread.informed (.ask hread.listed (h.runs fun _ => rfl))
  | notRecounted hread hcreated h =>
    exact .ask hread.informed (.ask hread.listed (.ask hcreated (.pause (h.runs fun _ => rfl))))
  | complete hread hcreated hrecounted =>
    refine .ask hread.informed (.ask hread.listed (.ask hcreated (.pause (.ask hrecounted ?_))))
    rw [shown, ← identifier?_eq]
    exact .done api _ _

/-- A flow has a course. -/
theorem exists_course (api : Api σ) (token : String) (config : PanelFlowParameters)
    (suffix : String) (p : Standing σ) :
    ∃ calls outcome, Course api token config suffix p calls outcome := by
  rcases succeeds_or_stops api p (informing token) with ⟨system, p₁, hinformed⟩ | ⟨_, h⟩
  · rcases succeeds_or_stops api p₁ (listing token) with ⟨containers, p₂, hlisted⟩ | ⟨_, h⟩
    · have hread : Reads api token p system p₁ containers p₂ := ⟨hinformed, hlisted⟩
      rcases succeeds_or_stops api p₂ (creation token config suffix) with
        ⟨created, p₃, hcreated⟩ | ⟨_, h⟩
      · rcases succeeds_or_stops api (p₃.later config.settle.nanoseconds)
          (recounting token config) with ⟨tasks, q, hrecounted⟩ | ⟨_, h⟩
        · exact ⟨_, _, .complete hread hcreated hrecounted⟩
        · exact ⟨_, _, .notRecounted hread hcreated h⟩
      · exact ⟨_, _, .notCreated hread h⟩
    · exact ⟨_, _, .unlisted hinformed h⟩
  · exact ⟨_, _, .uninformed h⟩

/-- A flow runs exactly as its course. -/
theorem runs_iff : (plan token config suffix).Runs api p calls outcome ↔
    Course api token config suffix p calls outcome := by
  refine ⟨fun h => ?_, Course.runs⟩
  obtain ⟨_, _, hcourse⟩ := exists_course api token config suffix p
  obtain ⟨rfl, rfl⟩ := h.unique hcourse.runs
  exact hcourse

/-! ## What a course tells -/

/-- The calls of a flow, in their order. -/
def callsInOrder (token : String) (config : PanelFlowParameters) (suffix : String) : List Call :=
  [informing token, listing token, creation token config suffix, recounting token config]

theorem Course.calls_prefix (h : Course api token config suffix p calls outcome) :
    calls.map (·.call) <+: callsInOrder token config suffix := by
  cases h with
  | uninformed _ => exact ⟨_, rfl⟩
  | unlisted _ _ => exact ⟨_, rfl⟩
  | notCreated _ _ => exact ⟨_, rfl⟩
  | notRecounted _ _ _ => exact List.prefix_rfl
  | complete _ _ _ => exact List.prefix_rfl

/-- Nothing is created unless both reads succeed. -/
theorem Course.reads_of_creation {t : Nat} (h : Course api token config suffix p calls outcome)
    (ht : ⟨t, creation token config suffix⟩ ∈ calls) :
    ∃ system p₁ containers p₂, Reads api token p system p₁ containers p₂ ∧ t = p₂.now := by
  cases h with
  | uninformed _ => simp [informing, creation] at ht
  | unlisted _ _ => simp [informing, listing, creation] at ht
  | notCreated hread _ =>
    exact ⟨_, _, _, _, hread, by simpa [informing, listing, creation] using ht⟩
  | notRecounted hread _ _ =>
    exact ⟨_, _, _, _, hread, by simpa [informing, listing, creation, recounting] using ht⟩
  | complete hread _ _ =>
    exact ⟨_, _, _, _, hread, by simpa [informing, listing, creation, recounting] using ht⟩

/-- Tasks are listed a while after the creation was answered. -/
theorem Course.creates_of_recounting {t : Nat}
    (h : Course api token config suffix p calls outcome)
    (ht : ⟨t, recounting token config⟩ ∈ calls) :
    ∃ system p₁ containers p₂ created p₃, Reads api token p system p₁ containers p₂ ∧
      api.Answers p₂ (creation token config suffix) (.ok created) p₃ ∧
      t = p₃.now + config.settle.nanoseconds := by
  cases h with
  | uninformed _ => simp [informing, recounting] at ht
  | unlisted _ _ => simp [informing, listing, recounting] at ht
  | notCreated _ _ => simp [informing, listing, creation, recounting] at ht
  | notRecounted hread hcreated _ =>
    exact ⟨_, _, _, _, _, _, hread, hcreated,
      by simpa [informing, listing, creation, recounting] using ht⟩
  | complete hread hcreated _ =>
    exact ⟨_, _, _, _, _, _, hread, hcreated,
      by simpa [informing, listing, creation, recounting] using ht⟩

/-- A flow that fails has made the call that failed last, and comes to the fault of that call. -/
theorem Course.failed_last {f : ApiFault}
    (h : Course api token config suffix p calls (some (.error f, q))) :
    ∃ r c, calls.getLast? = some ⟨r.now, c⟩ ∧ api.Answers r c (.error f) q := by
  cases h with
  | uninformed h =>
    cases h with
    | failed h => exact ⟨_, _, rfl, h⟩
  | unlisted _ h =>
    cases h with
    | failed h => exact ⟨_, _, rfl, h⟩
  | notCreated _ h =>
    cases h with
    | failed h => exact ⟨_, _, rfl, h⟩
  | notRecounted _ _ h =>
    cases h with
    | failed h => exact ⟨_, _, rfl, h⟩

/-- A flow shows something exactly if all four calls succeed, namely what they were answered. -/
theorem Course.shown_iff {report : PanelReport}
    (h : Course api token config suffix p calls outcome) :
    outcome = some (.ok report, q) ↔ ∃ system p₁ containers p₂ created p₃ tasks,
      Reads api token p system p₁ containers p₂ ∧
      api.Answers p₂ (creation token config suffix) (.ok created) p₃ ∧
      api.Answers (p₃.later config.settle.nanoseconds) (recounting token config) (.ok tasks) q ∧
      report = shown config suffix system containers created tasks := by
  constructor
  · rintro rfl
    cases h with
    | uninformed h => exact nomatch h
    | unlisted _ h => exact nomatch h
    | notCreated _ h => exact nomatch h
    | notRecounted _ _ h => exact nomatch h
    | complete hread hcreated hrecounted =>
      exact ⟨_, _, _, _, _, _, _, hread, hcreated, hrecounted, rfl⟩
  · rintro ⟨system, p₁, containers, p₂, created, p₃, tasks, hread, hcreated, hrecounted, rfl⟩
    -- A flow has one course, and it is this one.
    have hcomplete := Course.complete hread hcreated hrecounted
    exact (h.runs.unique hcomplete.runs).2

/-- A panel flow against any API makes the four calls in their order, with the credential it was
given, up to and including the first that fails, and comes to the fault of that one.  So nothing
is created unless both reads succeed, and tasks are listed no earlier than the pause after the
creation was answered.  It shows something exactly if all four calls succeed: the system
information, how many containers were listed before the creation, the name that was sent, the
trimmed identifier of the creation unless it is blank, and the tasks as they were listed. -/
theorem panel_flow_course (api : Api σ) (token : String) (config : PanelFlowParameters)
    (suffix : String) (p : Standing σ) :
    (∀ calls outcome, (plan token config suffix).Runs api p calls outcome ↔
      Course api token config suffix p calls outcome) ∧
    ∀ calls outcome, (plan token config suffix).Runs api p calls outcome →
      calls.map (·.call) <+: callsInOrder token config suffix ∧
      (∀ t, ⟨t, creation token config suffix⟩ ∈ calls →
        ∃ system p₁ containers p₂, Reads api token p system p₁ containers p₂ ∧ t = p₂.now) ∧
      (∀ t, ⟨t, recounting token config⟩ ∈ calls →
        ∃ system p₁ containers p₂ created p₃, Reads api token p system p₁ containers p₂ ∧
          api.Answers p₂ (creation token config suffix) (.ok created) p₃ ∧
          t = p₃.now + config.settle.nanoseconds) ∧
      (∀ f q, outcome = some (.error f, q) →
        ∃ r c, calls.getLast? = some ⟨r.now, c⟩ ∧ api.Answers r c (.error f) q) ∧
      ∀ report q, outcome = some (.ok report, q) ↔
        ∃ system p₁ containers p₂ created p₃ tasks,
          Reads api token p system p₁ containers p₂ ∧
          api.Answers p₂ (creation token config suffix) (.ok created) p₃ ∧
          api.Answers (p₃.later config.settle.nanoseconds) (recounting token config)
            (.ok tasks) q ∧
          report = shown config suffix system containers created tasks := by
  refine ⟨fun _ _ => runs_iff, fun calls outcome h => ?_⟩
  have hcourse := runs_iff.mp h
  refine ⟨hcourse.calls_prefix, fun _ => hcourse.reads_of_creation,
    fun _ => hcourse.creates_of_recounting, ?_, fun _ _ => hcourse.shown_iff⟩
  rintro f q rfl
  exact hcourse.failed_last

end Shakedown.PanelFlow
