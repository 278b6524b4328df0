/-
  Shakedown.Proofs.Scenario.Outcome

  What the scenario comes to: it passes, it fails for a cause, or it waits
  for ever for an answer that never comes.  Each is told step by step by the
  answers of the API, with the list of tasks found by a bounded number of
  looks.
-/
import Shakedown.Proofs.Scenario.Looks

namespace Shakedown

variable {σ : Type} {api : Api σ} {adminToken : String} {token : ScopedToken}
  {config : ScenarioParameters} {now : Moment}

namespace Scenario

/-! ## Looking at the list of tasks -/

/-- One of the looks that may be made from `p` on, none before it having found
tasks or failed, is made at `r`. -/
def LookDue (api : Api σ) (adminToken : String) (config : ScenarioParameters)
    (p r : Standing σ) : Prop :=
  ∃ n, n < config.bound ∧ EmptyLooks api adminToken config n p r

/-- The looks from `p` on find these tasks, some at last. -/
def SeesTasks (api : Api σ) (adminToken : String) (config : ScenarioParameters)
    (p : Standing σ) (tasks : List AgentTask) (q : Standing σ) : Prop :=
  ∃ r, LookDue api adminToken config p r ∧ api.Answers r (look adminToken) (.ok tasks) q ∧
    tasks ≠ []

/-- A look fails before any has found a task. -/
def LookFails (api : Api σ) (adminToken : String) (config : ScenarioParameters)
    (p : Standing σ) (f : ApiFault) (q : Standing σ) : Prop :=
  ∃ r, LookDue api adminToken config p r ∧ api.Answers r (look adminToken) (.error f) q

/-- None of the looks finds a task. -/
def SeesNone (api : Api σ) (adminToken : String) (config : ScenarioParameters)
    (p q : Standing σ) : Prop :=
  ∃ n r, n + 1 = config.bound ∧ EmptyLooks api adminToken config n p r ∧
    api.Answers r (look adminToken) (.ok []) q

/-- A look is never answered. -/
def LookStalls (api : Api σ) (adminToken : String) (config : ScenarioParameters)
    (p : Standing σ) : Prop :=
  ∃ r, LookDue api adminToken config p r ∧ api.Ignores r (look adminToken)

theorem outcome?_awaitTasks_of_seesTasks {p q : Standing σ} {tasks : List AgentTask}
    (h : SeesTasks api adminToken config p tasks q) :
    (awaitTasks adminToken config).outcome? api p = some (.ok tasks, q) := by
  obtain ⟨r, ⟨n, hlt, hlooks⟩, hr, hne⟩ := h
  obtain ⟨hempty, rfl⟩ := hlooks.emptyBefore
  have hsome : Except.ok (ε := ApiFault) tasks ≠ .ok [] := fun heq => hne (Except.ok.inj heq)
  exact (LooksEnd.decided hlt hempty hr hsome).runs.2

theorem outcome?_awaitTasks_of_lookFails {p q : Standing σ} {f : ApiFault}
    (h : LookFails api adminToken config p f q) :
    (awaitTasks adminToken config).outcome? api p = some (.error f, q) := by
  obtain ⟨r, ⟨n, hlt, hlooks⟩, hr⟩ := h
  obtain ⟨hempty, rfl⟩ := hlooks.emptyBefore
  exact (LooksEnd.decided hlt hempty hr nofun).runs.2

theorem outcome?_awaitTasks_of_seesNone {p q : Standing σ}
    (h : SeesNone api adminToken config p q) :
    (awaitTasks adminToken config).outcome? api p = some (.ok [], q) := by
  obtain ⟨n, r, hlast, hlooks, hr⟩ := h
  obtain ⟨hempty, rfl⟩ := hlooks.emptyBefore
  exact (LooksEnd.exhausted hlast hempty hr).runs.2

theorem outcome?_awaitTasks_of_lookStalls {p : Standing σ}
    (h : LookStalls api adminToken config p) :
    (awaitTasks adminToken config).outcome? api p = none := by
  obtain ⟨r, ⟨n, hlt, hlooks⟩, hnone⟩ := h
  obtain ⟨hempty, rfl⟩ := hlooks.emptyBefore
  exact (LooksEnd.ignored hlt hempty hnone).runs.2

/-- The looks find tasks, fail, find none, or are not answered. -/
theorem looks_cases (api : Api σ) (adminToken : String) (config : ScenarioParameters)
    (p : Standing σ) :
    (∃ tasks q, SeesTasks api adminToken config p tasks q) ∨
      (∃ f q, LookFails api adminToken config p f q) ∨
      (∃ q, SeesNone api adminToken config p q) ∨ LookStalls api adminToken config p := by
  obtain ⟨n, r, hle, hn, hend⟩ :=
    exists_emptyLooks api adminToken config (config.taskListAttempts - 1) p
  have hbound := config.bound_eq
  have hdue : LookDue api adminToken config p r := ⟨n, by omega, hn⟩
  rcases hend with hnone | ⟨a, q, ha, hlast⟩
  · exact Or.inr (Or.inr (Or.inr ⟨r, hdue, hnone⟩))
  · rcases a with f | _ | ⟨task, tasks⟩
    · exact Or.inr (Or.inl ⟨f, q, r, hdue, ha⟩)
    · have hn' : n = config.taskListAttempts - 1 := hlast rfl
      exact Or.inr (Or.inr (Or.inl ⟨q, n, r, by omega, hn, ha⟩))
    · exact Or.inl ⟨task :: tasks, q, r, hdue, ha, nofun⟩

/-! ## The steps around it -/

/-- The call that creates a container with the scoped token, at a moment. -/
def creation (token : ScopedToken) (config : ScenarioParameters) (now : Moment) : Call :=
  ⟨token.secret, .createContainer { name := config.resourceName now, platform := config.platform }⟩

/-- The call that lists containers with the scoped token. -/
def listing (token : ScopedToken) : Call :=
  ⟨token.secret, .listContainers⟩

/-- The creation started at `p` is accepted with an identifier. -/
def Accepts (api : Api σ) (token : ScopedToken) (config : ScenarioParameters) (now : Moment)
    (p : Standing σ) (taskId : String) (q : Standing σ) : Prop :=
  ∃ accepted, api.Answers p (creation token config now) (.ok accepted) q ∧
    accepted.identifier? = some taskId

/-- Listing containers is refused (401 or 403), or the token holds the scope for
it and it is not tried. -/
def Keeps (api : Api σ) (token : ScopedToken) (p q : Standing σ) : Prop :=
  token.holds Scope.readContainers = true ∧ q = p ∨
    token.holds Scope.readContainers = false ∧
      ∃ f, api.Answers p (listing token) (.error f) q ∧ f.isRefusal = true

/-- What a scenario finds that sees these tasks after an acceptance. -/
def found (config : ScenarioParameters) (now : Moment) (taskId : String)
    (tasks : List AgentTask) : ScenarioFindings where
  resourceName := config.resourceName now
  resourceId := some taskId
  tasks := tasks
  createdTaskListed := tasks.any fun t => t.identifier? == some taskId

/-- Every step of a scenario started at `p` goes as it should: the creation is
accepted with an identifier, some tasks are seen, and the scope is kept. -/
def Passes (api : Api σ) (adminToken : String) (token : ScopedToken)
    (config : ScenarioParameters) (now : Moment) (p : Standing σ) (o : ScenarioFindings)
    (q : Standing σ) : Prop :=
  ∃ taskId p₁ tasks p₂, Accepts api token config now p taskId p₁ ∧
    SeesTasks api adminToken config p₁ tasks p₂ ∧ Keeps api token p₂ q ∧
    o = found config now taskId tasks

/-- The first step of a scenario that does not go as it should, and the cause it
is told by. -/
inductive Fails (api : Api σ) (adminToken : String) (token : ScopedToken)
    (config : ScenarioParameters) (now : Moment) (p : Standing σ) :
    ScenarioCause → Standing σ → Prop where
  | notCreated {f : ApiFault} {q : Standing σ}
      (h : api.Answers p (creation token config now) (.error f) q) :
      Fails api adminToken token config now p (.ofApi .createContainer f) q
  | missingIdentifier {accepted : AgentTask} {q : Standing σ}
      (h : api.Answers p (creation token config now) (.ok accepted) q)
      (hid : accepted.identifier? = none) :
      Fails api adminToken token config now p .missingIdentifier q
  | notListed {taskId : String} {p₁ q : Standing σ} {f : ApiFault}
      (haccepts : Accepts api token config now p taskId p₁)
      (h : LookFails api adminToken config p₁ f q) :
      Fails api adminToken token config now p (.ofApi .listTasks f) q
  | noTasksListed {taskId : String} {p₁ q : Standing σ}
      (haccepts : Accepts api token config now p taskId p₁)
      (h : SeesNone api adminToken config p₁ q) :
      Fails api adminToken token config now p .noTasksListed q
  | scopeNotEnforced {taskId : String} {p₁ p₂ q : Standing σ} {tasks : List AgentTask}
      {containers : List Container}
      (haccepts : Accepts api token config now p taskId p₁)
      (hsees : SeesTasks api adminToken config p₁ tasks p₂)
      (hscope : token.holds Scope.readContainers = false)
      (h : api.Answers p₂ (listing token) (.ok containers) q) :
      Fails api adminToken token config now p
        (.scopeNotEnforced .listContainers Scope.readContainers) q
  | notRefused {taskId : String} {p₁ p₂ q : Standing σ} {tasks : List AgentTask} {f : ApiFault}
      (haccepts : Accepts api token config now p taskId p₁)
      (hsees : SeesTasks api adminToken config p₁ tasks p₂)
      (hscope : token.holds Scope.readContainers = false)
      (h : api.Answers p₂ (listing token) (.error f) q) (hf : f.isRefusal = false) :
      Fails api adminToken token config now p (.ofApi .listContainers f) q

/-- A step of a scenario that all went well before waits for an answer for ever. -/
inductive Stalls (api : Api σ) (adminToken : String) (token : ScopedToken)
    (config : ScenarioParameters) (now : Moment) (p : Standing σ) : Prop where
  | creation (h : api.Ignores p (creation token config now))
  | look {taskId : String} {p₁ : Standing σ}
      (haccepts : Accepts api token config now p taskId p₁)
      (h : LookStalls api adminToken config p₁)
  | listing {taskId : String} {p₁ p₂ : Standing σ} {tasks : List AgentTask}
      (haccepts : Accepts api token config now p taskId p₁)
      (hsees : SeesTasks api adminToken config p₁ tasks p₂)
      (hscope : token.holds Scope.readContainers = false)
      (h : api.Ignores p₂ (listing token))

/-! ## Outcomes of the scenario -/

theorem outcome?_plan_of_accepts {p q : Standing σ} {taskId : String}
    (h : Accepts api token config now p taskId q) :
    (plan adminToken token config now).outcome? api p =
      (afterCreation adminToken token config taskId
        (found config now taskId [])).outcome? api q := by
  obtain ⟨accepted, haccepted, hid⟩ := h
  refine (Plan.outcome?_ask_of_answers haccepted _).trans ?_
  dsimp only
  rw [hid]
  rfl

theorem outcome?_afterCreation_of_seesTasks {p q : Standing σ} {tasks : List AgentTask}
    (h : SeesTasks api adminToken config p tasks q) (taskId : String) :
    (afterCreation adminToken token config taskId (found config now taskId [])).outcome? api p =
      (checkRefusal token (found config now taskId tasks)).outcome? api q := by
  have hne : tasks ≠ [] := by
    obtain ⟨-, -, -, hne⟩ := h
    exact hne
  -- The scenario goes on by whether there is a first task.
  obtain ⟨task, rest, rfl⟩ := List.exists_cons_of_ne_nil hne
  rw [afterCreation, Plan.outcome?_bind, outcome?_awaitTasks_of_seesTasks h]
  rfl

/-- The scenario up to its last step. -/
theorem outcome?_plan_of_seesTasks {p p₁ p₂ : Standing σ} {taskId : String}
    {tasks : List AgentTask} (haccepts : Accepts api token config now p taskId p₁)
    (hsees : SeesTasks api adminToken config p₁ tasks p₂) :
    (plan adminToken token config now).outcome? api p =
      (checkRefusal token (found config now taskId tasks)).outcome? api p₂ := by
  rw [outcome?_plan_of_accepts haccepts, outcome?_afterCreation_of_seesTasks hsees]

theorem checkRefusal_of_holds {o : ScenarioFindings}
    (h : token.holds Scope.readContainers = true) : checkRefusal token o = .done o :=
  if_pos h

theorem outcome?_plan_of_passes {p q : Standing σ} {o : ScenarioFindings}
    (h : Passes api adminToken token config now p o q) :
    (plan adminToken token config now).outcome? api p = some (o, q) := by
  obtain ⟨taskId, p₁, tasks, p₂, haccepts, hsees, hkeeps, rfl⟩ := h
  rw [outcome?_plan_of_seesTasks haccepts hsees]
  rcases hkeeps with ⟨hscope, rfl⟩ | ⟨hscope, f, hf, hrefusal⟩
  · rw [checkRefusal_of_holds hscope, Plan.outcome?_done]
  · rw [checkRefusal, if_neg (Bool.eq_false_iff.mp hscope)]
    refine (Plan.outcome?_ask_of_answers hf _).trans ?_
    dsimp only
    rw [if_pos hrefusal, Plan.outcome?_done]

theorem outcome?_plan_of_fails {p q : Standing σ} {cause : ScenarioCause}
    (h : Fails api adminToken token config now p cause q) :
    ∃ o, (plan adminToken token config now).outcome? api p = some (o, q) ∧
      o.cause = some cause := by
  cases h with
  | notCreated h =>
    exact ⟨_, (Plan.outcome?_ask_of_answers h _).trans (Plan.outcome?_done api _ q), rfl⟩
  | missingIdentifier h hid =>
    refine ⟨ScenarioFindings.failWith { resourceName := config.resourceName now } _,
      (Plan.outcome?_ask_of_answers h _).trans ?_, rfl⟩
    dsimp only
    rw [hid, Plan.outcome?_done]
  | @notListed taskId _ _ f haccepts h =>
    refine ⟨(found config now taskId []).failWith _,
      (outcome?_plan_of_accepts haccepts).trans ?_, rfl⟩
    rw [afterCreation, Plan.outcome?_bind, outcome?_awaitTasks_of_lookFails h]
    exact Plan.outcome?_done api _ q
  | @noTasksListed taskId _ _ haccepts h =>
    refine ⟨(found config now taskId []).failWith _,
      (outcome?_plan_of_accepts haccepts).trans ?_, rfl⟩
    rw [afterCreation, Plan.outcome?_bind, outcome?_awaitTasks_of_seesNone h]
    exact Plan.outcome?_done api _ q
  | @scopeNotEnforced taskId _ _ _ tasks _ haccepts hsees hscope h =>
    refine ⟨(found config now taskId tasks).failWith _,
      (outcome?_plan_of_seesTasks haccepts hsees).trans ?_, rfl⟩
    rw [checkRefusal, if_neg (Bool.eq_false_iff.mp hscope)]
    exact (Plan.outcome?_ask_of_answers h _).trans (Plan.outcome?_done api _ q)
  | @notRefused taskId _ _ _ tasks _ haccepts hsees hscope h hf =>
    refine ⟨(found config now taskId tasks).failWith _,
      (outcome?_plan_of_seesTasks haccepts hsees).trans ?_, rfl⟩
    rw [checkRefusal, if_neg (Bool.eq_false_iff.mp hscope)]
    refine (Plan.outcome?_ask_of_answers h _).trans ?_
    dsimp only
    rw [if_neg (Bool.eq_false_iff.mp hf), Plan.outcome?_done]

theorem outcome?_plan_of_stalls {p : Standing σ}
    (h : Stalls api adminToken token config now p) :
    (plan adminToken token config now).outcome? api p = none := by
  cases h with
  | creation h => exact Plan.outcome?_ask_of_ignores h _
  | look haccepts h =>
    rw [outcome?_plan_of_accepts haccepts, afterCreation, Plan.outcome?_bind,
      outcome?_awaitTasks_of_lookStalls h]
    rfl
  | listing haccepts hsees hscope h =>
    rw [outcome?_plan_of_seesTasks haccepts hsees, checkRefusal,
      if_neg (Bool.eq_false_iff.mp hscope)]
    exact Plan.outcome?_ask_of_ignores h _

/-- After an acceptance that shows tasks, the scope is kept, or it is not, or the
listing is never answered. -/
theorem keeps_cases (api : Api σ) (token : ScopedToken) (p : Standing σ) :
    (∃ q, Keeps api token p q) ∨
      token.holds Scope.readContainers = false ∧
        ((∃ containers q, api.Answers p (listing token) (.ok containers) q) ∨
          (∃ f q, api.Answers p (listing token) (.error f) q ∧ f.isRefusal = false) ∨
          api.Ignores p (listing token)) := by
  cases hscope : token.holds Scope.readContainers with
  | true => exact Or.inl ⟨p, Or.inl ⟨hscope, rfl⟩⟩
  | false =>
    rcases api.answers_or_ignores p (listing token) with ⟨r, q, hr⟩ | hnone
    · cases r with
      | ok containers => exact Or.inr ⟨rfl, Or.inl ⟨containers, q, hr⟩⟩
      | error f =>
        cases hf : f.isRefusal with
        | true => exact Or.inl ⟨q, Or.inr ⟨hscope, f, hr, hf⟩⟩
        | false => exact Or.inr ⟨rfl, Or.inr (Or.inl ⟨f, q, hr, hf⟩)⟩
    · exact Or.inr ⟨rfl, Or.inr (Or.inr hnone)⟩

/-- A creation is accepted with an identifier, or it is not, or it is never answered. -/
theorem accepts_cases (api : Api σ) (token : ScopedToken) (config : ScenarioParameters)
    (now : Moment) (p : Standing σ) :
    (∃ taskId q, Accepts api token config now p taskId q) ∨
      (∃ f q, api.Answers p (creation token config now) (.error f) q) ∨
      (∃ accepted q, api.Answers p (creation token config now) (.ok accepted) q ∧
        accepted.identifier? = none) ∨
      api.Ignores p (creation token config now) := by
  rcases api.answers_or_ignores p (creation token config now) with ⟨r, q, hr⟩ | hnone
  · cases r with
    | error f => exact Or.inr (Or.inl ⟨f, q, hr⟩)
    | ok accepted =>
      cases hid : AgentTask.identifier? accepted with
      | none => exact Or.inr (Or.inr (Or.inl ⟨accepted, q, hr, hid⟩))
      | some taskId => exact Or.inl ⟨taskId, q, accepted, hr, hid⟩
  · exact Or.inr (Or.inr (Or.inr hnone))

/-- A scenario passes, fails for a cause, or waits for ever. -/
theorem passes_or_fails_or_stalls (api : Api σ) (adminToken : String) (token : ScopedToken)
    (config : ScenarioParameters) (now : Moment) (p : Standing σ) :
    (∃ o q, Passes api adminToken token config now p o q) ∨
      (∃ cause q, Fails api adminToken token config now p cause q) ∨
      Stalls api adminToken token config now p := by
  rcases accepts_cases api token config now p with
    ⟨taskId, p₁, haccepts⟩ | ⟨f, q, h⟩ | ⟨accepted, q, h, hid⟩ | h
  · rcases looks_cases api adminToken config p₁ with
      ⟨tasks, p₂, hsees⟩ | ⟨f, q, h⟩ | ⟨q, h⟩ | h
    · rcases keeps_cases api token p₂ with
        ⟨q, hkeeps⟩ | ⟨hscope, ⟨containers, q, h⟩ | ⟨f, q, h, hf⟩ | h⟩
      · exact Or.inl ⟨_, q, taskId, p₁, tasks, p₂, haccepts, hsees, hkeeps, rfl⟩
      · exact Or.inr (Or.inl ⟨_, q, .scopeNotEnforced haccepts hsees hscope h⟩)
      · exact Or.inr (Or.inl ⟨_, q, .notRefused haccepts hsees hscope h hf⟩)
      · exact Or.inr (Or.inr (.listing haccepts hsees hscope h))
    · exact Or.inr (Or.inl ⟨_, q, .notListed haccepts h⟩)
    · exact Or.inr (Or.inl ⟨_, q, .noTasksListed haccepts h⟩)
    · exact Or.inr (Or.inr (.look haccepts h))
  · exact Or.inr (Or.inl ⟨_, q, .notCreated h⟩)
  · exact Or.inr (Or.inl ⟨_, q, .missingIdentifier h hid⟩)
  · exact Or.inr (Or.inr (.creation h))

end Scenario

end Shakedown
