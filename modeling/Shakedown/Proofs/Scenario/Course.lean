/-
  Shakedown.Proofs.Scenario.Course

  The course of a scenario, told without its plan.  Each of its three steps
  is a relation of its own: which calls the step makes, and whether it passes,
  fails for a cause or waits for ever.  A course is the calls of these steps
  up to and including the first that fails, with what was observed until
  then.  A scenario runs exactly as its course, and what it reports in the
  end is what the steps that passed have found.
-/
import Shakedown.Proofs.Scenario.Outcome
import Shakedown.Proofs.Text.Blank

namespace Shakedown

/-! ## Identifiers -/

namespace AgentTask

theorem identifier?_of_blank {t : AgentTask} (h : Text.blank t.id = true) :
    t.identifier? = none := by
  have hnil : Text.trim t.id.toList = [] :=
    (Text.trim_eq_nil_iff _).mpr (List.all_eq_true.mp h)
  rw [identifier?, hnil]
  rfl

theorem identifier?_of_not_blank {t : AgentTask} (h : Text.blank t.id = false) :
    t.identifier? = some (Text.trimmed t.id) := by
  have hne : Text.trim t.id.toList ≠ [] := by
    intro hnil
    have hblank : Text.blank t.id = true :=
      List.all_eq_true.mpr ((Text.trim_eq_nil_iff _).mp hnil)
    rw [h] at hblank
    exact nomatch hblank
  have hopen : (Text.trim t.id.toList).isEmpty = false := by simpa using hne
  rw [identifier?, hopen]
  rfl

/-- A task has an identifier exactly if the trimmed one is it, and is not empty. -/
theorem identifier?_eq_some_iff {t : AgentTask} {id : String} (hid : id ≠ "") :
    t.identifier? = some id ↔ Text.trimmed t.id = id := by
  by_cases hblank : Text.blank t.id = true
  · have hempty : Text.trimmed t.id = "" := (Text.trimmed_eq_empty_iff _).mpr hblank
    rw [identifier?_of_blank hblank, hempty]
    exact iff_of_false nofun (Ne.symm hid)
  · rw [identifier?_of_not_blank (Bool.eq_false_iff.mpr hblank), Option.some_inj]

end AgentTask

namespace Scenario

variable {σ : Type} {api : Api σ} {adminToken : String} {token : ScopedToken}
  {config : ScenarioParameters} {now : Moment} {p q : Standing σ} {calls : List TimedCall}

/-! ## Causes -/

/-- A fault of an operation and the cause it is told by. -/
inductive Blames (op : ScenarioCall) : ApiFault → ScenarioCause → Prop where
  | status (code : Nat) (body : String) :
      Blames op (.status code body) (.unexpectedStatus op code body)
  | malformed (m : String) : Blames op (.malformed m) (.malformedResponse op m)
  | transport (m : String) :
      Blames op (.transport m) (.transport op ("transport error: " ++ m))
  | timeout (d : Duration) :
      Blames op (.timeout d) (.transport op ("request timed out after " ++ d.text))

theorem blames_iff {op : ScenarioCall} {f : ApiFault} {cause : ScenarioCause} :
    Blames op f cause ↔ cause = .ofApi op f := by
  constructor
  · intro h
    cases h <;> rfl
  · rintro rfl
    cases f with
    | status code body => exact .status code body
    | transport m => exact .transport m
    | timeout d => exact .timeout d
    | malformed m => exact .malformed m

theorem isRefusal_iff {f : ApiFault} :
    f.isRefusal = true ↔ f.status? = some 401 ∨ f.status? = some 403 := by
  simp [ApiFault.isRefusal]

/-! ## The steps -/

/-- What the creation started at `p` comes to: the trimmed identifier it was accepted with, or
the cause it failed for; or it is never answered. -/
inductive CreationStep (api : Api σ) (token : ScopedToken) (config : ScenarioParameters)
    (now : Moment) (p : Standing σ) :
    Option (Except ScenarioCause String × Standing σ) → Prop where
  | accepted {accepted : AgentTask} {q : Standing σ}
      (h : api.Answers p (creation token config now) (.ok accepted) q)
      (hid : Text.blank accepted.id = false) :
      CreationStep api token config now p (some (.ok (Text.trimmed accepted.id), q))
  | unidentified {accepted : AgentTask} {q : Standing σ}
      (h : api.Answers p (creation token config now) (.ok accepted) q)
      (hid : Text.blank accepted.id = true) :
      CreationStep api token config now p (some (.error .missingIdentifier, q))
  | failed {f : ApiFault} {cause : ScenarioCause} {q : Standing σ}
      (h : api.Answers p (creation token config now) (.error f) q)
      (hcause : Blames .createContainer f cause) :
      CreationStep api token config now p (some (.error cause, q))
  | ignored (h : api.Ignores p (creation token config now)) :
      CreationStep api token config now p none

/-- What the looks at the list of tasks come to, and how many are made from `p` on. -/
inductive TaskStep (api : Api σ) (adminToken : String) (config : ScenarioParameters)
    (p : Standing σ) :
    Nat → Option (Except ScenarioCause (List AgentTask) × Standing σ) → Prop where
  | listed {n : Nat} {tasks : List AgentTask} {q : Standing σ}
      (h : LooksEnd api adminToken config p n (some (.ok tasks, q))) (hne : tasks ≠ []) :
      TaskStep api adminToken config p n (some (.ok tasks, q))
  | empty {n : Nat} {q : Standing σ}
      (h : LooksEnd api adminToken config p n (some (.ok [], q))) :
      TaskStep api adminToken config p n (some (.error .noTasksListed, q))
  | failed {n : Nat} {f : ApiFault} {cause : ScenarioCause} {q : Standing σ}
      (h : LooksEnd api adminToken config p n (some (.error f, q)))
      (hcause : Blames .listTasks f cause) :
      TaskStep api adminToken config p n (some (.error cause, q))
  | ignored {n : Nat} (h : LooksEnd api adminToken config p n none) :
      TaskStep api adminToken config p n none

/-- What listing containers at `p` comes to, and the calls made for it.  It is not tried with a
token that holds the scope for it, and passes if it is refused. -/
inductive RefusalStep (api : Api σ) (token : ScopedToken) (p : Standing σ) :
    List TimedCall → Option (Except ScenarioCause Unit × Standing σ) → Prop where
  | notTried (hscope : token.holds "containers:read" = true) :
      RefusalStep api token p [] (some (.ok (), p))
  | refused {f : ApiFault} {q : Standing σ} (hscope : token.holds "containers:read" = false)
      (h : api.Answers p (listing token) (.error f) q)
      (hcode : f.status? = some 401 ∨ f.status? = some 403) :
      RefusalStep api token p [⟨p.now, listing token⟩] (some (.ok (), q))
  | granted {containers : List Container} {q : Standing σ}
      (hscope : token.holds "containers:read" = false)
      (h : api.Answers p (listing token) (.ok containers) q) :
      RefusalStep api token p [⟨p.now, listing token⟩]
        (some (.error (.scopeNotEnforced .listContainers "containers:read"), q))
  | failed {f : ApiFault} {cause : ScenarioCause} {q : Standing σ}
      (hscope : token.holds "containers:read" = false)
      (h : api.Answers p (listing token) (.error f) q)
      (hcode : ¬(f.status? = some 401 ∨ f.status? = some 403))
      (hcause : Blames .listContainers f cause) :
      RefusalStep api token p [⟨p.now, listing token⟩] (some (.error cause, q))
  | ignored (hscope : token.holds "containers:read" = false)
      (h : api.Ignores p (listing token)) :
      RefusalStep api token p [⟨p.now, listing token⟩] none

/-! ## Courses -/

/-- What is observed once tasks are listed after an acceptance with the identifier `id`. -/
def observed (config : ScenarioParameters) (now : Moment) (id : String)
    (tasks : List AgentTask) : ScenarioFindings where
  resourceName := config.resourceName now
  resourceId := some id
  tasks := tasks
  createdTaskListed := decide (∃ task ∈ tasks, Text.trimmed task.id = id)

/-- The course of a scenario started at `p`: the calls of its steps up to and including the
first that fails or waits for ever, and what it finds, and where, unless it waits for ever. -/
inductive Course (api : Api σ) (adminToken : String) (token : ScopedToken)
    (config : ScenarioParameters) (now : Moment) (p : Standing σ) :
    List TimedCall → Option (ScenarioFindings × Standing σ) → Prop where
  | notCreated {cause : ScenarioCause} {q : Standing σ}
      (h : CreationStep api token config now p (some (.error cause, q))) :
      Course api adminToken token config now p [⟨p.now, creation token config now⟩]
        (some ({ resourceName := config.resourceName now, cause := some cause }, q))
  | creationIgnored (h : CreationStep api token config now p none) :
      Course api adminToken token config now p [⟨p.now, creation token config now⟩] none
  | notListed {id : String} {p₁ q : Standing σ} {n : Nat} {cause : ScenarioCause}
      (hcreated : CreationStep api token config now p (some (.ok id, p₁)))
      (h : TaskStep api adminToken config p₁ n (some (.error cause, q))) :
      Course api adminToken token config now p
        (⟨p.now, creation token config now⟩ :: looksMade api adminToken config p₁ n)
        (some ({ resourceName := config.resourceName now
                 resourceId := some id
                 cause := some cause }, q))
  | lookIgnored {id : String} {p₁ : Standing σ} {n : Nat}
      (hcreated : CreationStep api token config now p (some (.ok id, p₁)))
      (h : TaskStep api adminToken config p₁ n none) :
      Course api adminToken token config now p
        (⟨p.now, creation token config now⟩ :: looksMade api adminToken config p₁ n) none
  | notRefused {id : String} {p₁ p₂ q : Standing σ} {n : Nat} {tasks : List AgentTask}
      {last : List TimedCall} {cause : ScenarioCause}
      (hcreated : CreationStep api token config now p (some (.ok id, p₁)))
      (hlisted : TaskStep api adminToken config p₁ n (some (.ok tasks, p₂)))
      (h : RefusalStep api token p₂ last (some (.error cause, q))) :
      Course api adminToken token config now p
        (⟨p.now, creation token config now⟩ :: (looksMade api adminToken config p₁ n ++ last))
        (some ({ observed config now id tasks with cause := some cause }, q))
  | listingIgnored {id : String} {p₁ p₂ : Standing σ} {n : Nat} {tasks : List AgentTask}
      {last : List TimedCall}
      (hcreated : CreationStep api token config now p (some (.ok id, p₁)))
      (hlisted : TaskStep api adminToken config p₁ n (some (.ok tasks, p₂)))
      (h : RefusalStep api token p₂ last none) :
      Course api adminToken token config now p
        (⟨p.now, creation token config now⟩ :: (looksMade api adminToken config p₁ n ++ last))
        none
  | passed {id : String} {p₁ p₂ q : Standing σ} {n : Nat} {tasks : List AgentTask}
      {last : List TimedCall}
      (hcreated : CreationStep api token config now p (some (.ok id, p₁)))
      (hlisted : TaskStep api adminToken config p₁ n (some (.ok tasks, p₂)))
      (h : RefusalStep api token p₂ last (some (.ok (), q))) :
      Course api adminToken token config now p
        (⟨p.now, creation token config now⟩ :: (looksMade api adminToken config p₁ n ++ last))
        (some (observed config now id tasks, q))

/-! ## Every step ends in one of its ways -/

theorem exists_creationStep (api : Api σ) (token : ScopedToken) (config : ScenarioParameters)
    (now : Moment) (p : Standing σ) :
    ∃ outcome, CreationStep api token config now p outcome := by
  rcases api.answers_or_ignores p (creation token config now) with ⟨r, q, h⟩ | hnone
  · cases r with
    | error f => exact ⟨_, .failed h (blames_iff.mpr rfl)⟩
    | ok accepted =>
      by_cases hid : Text.blank (AgentTask.id accepted) = true
      · exact ⟨_, .unidentified h hid⟩
      · exact ⟨_, .accepted h (Bool.eq_false_iff.mpr hid)⟩
  · exact ⟨_, .ignored hnone⟩

theorem exists_taskStep (api : Api σ) (adminToken : String) (config : ScenarioParameters)
    (p : Standing σ) : ∃ n outcome, TaskStep api adminToken config p n outcome := by
  obtain ⟨n, outcome, h⟩ := exists_looksEnd api adminToken config p
  rcases outcome with _ | ⟨f | _ | ⟨task, tasks⟩, q⟩
  · exact ⟨_, _, .ignored h⟩
  · exact ⟨_, _, .failed h (blames_iff.mpr rfl)⟩
  · exact ⟨_, _, .empty h⟩
  · exact ⟨_, _, .listed h (List.cons_ne_nil task tasks)⟩

theorem exists_refusalStep (api : Api σ) (token : ScopedToken) (p : Standing σ) :
    ∃ last outcome, RefusalStep api token p last outcome := by
  by_cases hscope : token.holds "containers:read" = true
  · exact ⟨_, _, .notTried hscope⟩
  have hlacks := Bool.eq_false_iff.mpr hscope
  rcases api.answers_or_ignores p (listing token) with ⟨r, q, h⟩ | hnone
  · cases r with
    | ok containers => exact ⟨_, _, .granted hlacks h⟩
    | error f =>
      by_cases hcode : f.status? = some 401 ∨ f.status? = some 403
      · exact ⟨_, _, .refused hlacks h hcode⟩
      · exact ⟨_, _, .failed hlacks h hcode (blames_iff.mpr rfl)⟩
  · exact ⟨_, _, .ignored hlacks hnone⟩

/-! ## The steps as the scenario runs them -/

/-- The identifier of an accepted creation is not empty. -/
theorem CreationStep.ne_empty {id : String}
    (h : CreationStep api token config now p (some (.ok id, q))) : id ≠ "" := by
  cases h with
  | @accepted accepted _ h hid =>
    intro hempty
    have hblank := (Text.trimmed_eq_empty_iff _).mp hempty
    rw [hid] at hblank
    exact nomatch hblank

/-- An accepted creation is followed by the looks at the list of tasks. -/
theorem CreationStep.runs_of_accepted {id : String}
    {outcome : Option (ScenarioFindings × Standing σ)}
    (h : CreationStep api token config now p (some (.ok id, q)))
    (hrest : (afterCreation adminToken token config id
      { resourceName := config.resourceName now, resourceId := some id }).Runs api q calls
      outcome) :
    (plan adminToken token config now).Runs api p (⟨p.now, creation token config now⟩ :: calls)
      outcome := by
  cases h with
  | @accepted accepted _ h hid =>
    refine .ask h ?_
    dsimp only
    rw [AgentTask.identifier?_of_not_blank hid]
    exact hrest

theorem CreationStep.runs_of_failed {cause : ScenarioCause}
    (h : CreationStep api token config now p (some (.error cause, q))) :
    (plan adminToken token config now).Runs api p [⟨p.now, creation token config now⟩]
      (some ({ resourceName := config.resourceName now, cause := some cause }, q)) := by
  cases h with
  | unidentified h hid =>
    refine .ask h ?_
    dsimp only
    rw [AgentTask.identifier?_of_blank hid]
    exact .done api _ q
  | failed h hcause =>
    rw [blames_iff.mp hcause]
    exact .ask h (.done api _ q)

theorem CreationStep.runs_of_ignored (h : CreationStep api token config now p none) :
    (plan adminToken token config now).Runs api p [⟨p.now, creation token config now⟩] none := by
  cases h with
  | ignored h => exact .ask_of_ignores h _

/-- Whether the creation's own task is among some is a matter of trimmed identifiers. -/
theorem any_identifier?_eq {id : String} (hid : id ≠ "") (tasks : List AgentTask) :
    (tasks.any fun task => task.identifier? == some id) =
      decide (∃ task ∈ tasks, Text.trimmed task.id = id) := by
  rw [Bool.eq_iff_iff, List.any_eq_true, decide_eq_true_iff]
  refine exists_congr fun task => and_congr_right fun _ => ?_
  rw [beq_iff_eq, AgentTask.identifier?_eq_some_iff hid]

/-- Tasks that are listed are observed, and listing containers is next. -/
theorem TaskStep.runs_of_listed {id : String} {n : Nat} {tasks : List AgentTask}
    {outcome : Option (ScenarioFindings × Standing σ)} (hid : id ≠ "")
    (h : TaskStep api adminToken config p n (some (.ok tasks, q)))
    (hrest : (checkRefusal token (observed config now id tasks)).Runs api q calls outcome) :
    (afterCreation adminToken token config id
      { resourceName := config.resourceName now, resourceId := some id }).Runs api p
      (looksMade api adminToken config p n ++ calls) outcome := by
  cases h with
  | listed h hne =>
    refine h.runs.bind ?_
    obtain ⟨task, rest, rfl⟩ := List.exists_cons_of_ne_nil hne
    dsimp only
    rw [any_identifier?_eq hid]
    exact hrest

theorem TaskStep.runs_of_failed {id : String} {n : Nat} {cause : ScenarioCause}
    (h : TaskStep api adminToken config p n (some (.error cause, q))) (o : ScenarioFindings) :
    (afterCreation adminToken token config id o).Runs api p (looksMade api adminToken config p n)
      (some (o.failWith cause, q)) := by
  rw [← List.append_nil (looksMade api adminToken config p n)]
  cases h with
  | empty h => exact h.runs.bind (.done api _ q)
  | failed h hcause =>
    rw [blames_iff.mp hcause]
    exact h.runs.bind (.done api _ q)

theorem TaskStep.runs_of_ignored {id : String} {n : Nat}
    (h : TaskStep api adminToken config p n none) (o : ScenarioFindings) :
    (afterCreation adminToken token config id o).Runs api p (looksMade api adminToken config p n)
      none := by
  cases h with
  | ignored h => exact h.runs.bind_of_none _

/-- A token without the scope tries the listing. -/
theorem checkRefusal_of_lacks (hscope : token.holds "containers:read" = false)
    (o : ScenarioFindings) :
    checkRefusal token o = .ask (listing token) fun
      | .ok _ => .done (o.failWith (.scopeNotEnforced .listContainers "containers:read"))
      | .error f =>
        .done (if f.isRefusal then o else o.failWith (.ofApi .listContainers f)) := by
  have hlacks : ¬token.holds Scope.readContainers = true := Bool.eq_false_iff.mp hscope
  rw [checkRefusal, if_neg hlacks]
  rfl

theorem RefusalStep.runs_of_passed (h : RefusalStep api token p calls (some (.ok (), q)))
    (o : ScenarioFindings) : (checkRefusal token o).Runs api p calls (some (o, q)) := by
  cases h with
  | notTried hscope =>
    rw [checkRefusal_of_holds hscope]
    exact .done api o p
  | refused hscope h hcode =>
    rw [checkRefusal_of_lacks hscope]
    refine .ask h ?_
    dsimp only
    rw [if_pos (isRefusal_iff.mpr hcode)]
    exact .done api o q

theorem RefusalStep.runs_of_failed {cause : ScenarioCause}
    (h : RefusalStep api token p calls (some (.error cause, q))) (o : ScenarioFindings) :
    (checkRefusal token o).Runs api p calls (some (o.failWith cause, q)) := by
  cases h with
  | granted hscope h =>
    rw [checkRefusal_of_lacks hscope]
    exact .ask h (.done api _ q)
  | failed hscope h hcode hcause =>
    rw [checkRefusal_of_lacks hscope, blames_iff.mp hcause]
    refine .ask h ?_
    dsimp only
    rw [if_neg (mt isRefusal_iff.mp hcode)]
    exact .done api _ q

theorem RefusalStep.runs_of_ignored (h : RefusalStep api token p calls none)
    (o : ScenarioFindings) : (checkRefusal token o).Runs api p calls none := by
  cases h with
  | ignored hscope h =>
    rw [checkRefusal_of_lacks hscope]
    exact .ask_of_ignores h _

/-! ## The scenario runs as its course -/

theorem Course.runs {outcome : Option (ScenarioFindings × Standing σ)}
    (h : Course api adminToken token config now p calls outcome) :
    (plan adminToken token config now).Runs api p calls outcome := by
  cases h with
  | notCreated h => exact h.runs_of_failed
  | creationIgnored h => exact h.runs_of_ignored
  | notListed hcreated h => exact hcreated.runs_of_accepted (h.runs_of_failed _)
  | lookIgnored hcreated h => exact hcreated.runs_of_accepted (h.runs_of_ignored _)
  | notRefused hcreated hlisted h =>
    exact hcreated.runs_of_accepted
      (hlisted.runs_of_listed hcreated.ne_empty (h.runs_of_failed _))
  | listingIgnored hcreated hlisted h =>
    exact hcreated.runs_of_accepted
      (hlisted.runs_of_listed hcreated.ne_empty (h.runs_of_ignored _))
  | passed hcreated hlisted h =>
    exact hcreated.runs_of_accepted
      (hlisted.runs_of_listed hcreated.ne_empty (h.runs_of_passed _))

/-- Once tasks are listed, they and the identifier are reported however the listing of
containers goes. -/
theorem exists_course_of_listed {id : String} {p₁ p₂ : Standing σ} {n : Nat}
    {tasks : List AgentTask}
    (hcreated : CreationStep api token config now p (some (.ok id, p₁)))
    (hlisted : TaskStep api adminToken config p₁ n (some (.ok tasks, p₂))) :
    ∃ calls outcome, Course api adminToken token config now p calls outcome ∧
      ∀ o q, outcome = some (o, q) → o.resourceId = some id ∧ o.tasks = tasks := by
  obtain ⟨last, outcome, h⟩ := exists_refusalStep api token p₂
  rcases outcome with _ | ⟨cause | ⟨⟨⟩⟩, q⟩
  · exact ⟨_, _, .listingIgnored hcreated hlisted h, nofun⟩
  · refine ⟨_, _, .notRefused hcreated hlisted h, ?_⟩
    rintro _ _ ⟨⟩
    exact ⟨rfl, rfl⟩
  · refine ⟨_, _, .passed hcreated hlisted h, ?_⟩
    rintro _ _ ⟨⟩
    exact ⟨rfl, rfl⟩

/-- Once a creation is accepted, its identifier is reported however the scenario goes on. -/
theorem exists_course_of_created (api : Api σ) (adminToken : String) {id : String}
    {p₁ : Standing σ} (hcreated : CreationStep api token config now p (some (.ok id, p₁))) :
    ∃ calls outcome, Course api adminToken token config now p calls outcome ∧
      ∀ o q, outcome = some (o, q) → o.resourceId = some id := by
  obtain ⟨n, outcome, h⟩ := exists_taskStep api adminToken config p₁
  rcases outcome with _ | ⟨cause | tasks, q⟩
  · exact ⟨_, _, .lookIgnored hcreated h, nofun⟩
  · refine ⟨_, _, .notListed hcreated h, ?_⟩
    rintro _ _ ⟨⟩
    rfl
  · obtain ⟨calls, outcome, hcourse, hfound⟩ := exists_course_of_listed hcreated h
    exact ⟨calls, outcome, hcourse, fun o q ho => (hfound o q ho).1⟩

/-- A scenario has a course. -/
theorem exists_course (api : Api σ) (adminToken : String) (token : ScopedToken)
    (config : ScenarioParameters) (now : Moment) (p : Standing σ) :
    ∃ calls outcome, Course api adminToken token config now p calls outcome := by
  obtain ⟨outcome, h⟩ := exists_creationStep api token config now p
  rcases outcome with _ | ⟨cause | id, q⟩
  · exact ⟨_, _, .creationIgnored h⟩
  · exact ⟨_, _, .notCreated h⟩
  · obtain ⟨calls, outcome, hcourse, -⟩ := exists_course_of_created api adminToken h
    exact ⟨calls, outcome, hcourse⟩

/-- A scenario runs exactly as its course. -/
theorem runs_iff {outcome : Option (ScenarioFindings × Standing σ)} :
    (plan adminToken token config now).Runs api p calls outcome ↔
      Course api adminToken token config now p calls outcome := by
  refine ⟨fun h => ?_, Course.runs⟩
  obtain ⟨_, _, hcourse⟩ := exists_course api adminToken token config now p
  obtain ⟨rfl, rfl⟩ := h.unique hcourse.runs
  exact hcourse

/-! ## What a scenario reports -/

/-- The identifier is reported exactly if the creation was accepted with it. -/
theorem Course.resourceId_iff {o : ScenarioFindings}
    (h : Course api adminToken token config now p calls (some (o, q))) (id : String) :
    o.resourceId = some id ↔
      ∃ p₁, CreationStep api token config now p (some (.ok id, p₁)) := by
  constructor
  · intro hid
    cases h with
    | notCreated _ => exact nomatch hid
    | notListed hcreated _ =>
      obtain rfl := Option.some.inj hid
      exact ⟨_, hcreated⟩
    | notRefused hcreated _ _ =>
      obtain rfl := Option.some.inj hid
      exact ⟨_, hcreated⟩
    | passed hcreated _ _ =>
      obtain rfl := Option.some.inj hid
      exact ⟨_, hcreated⟩
  · rintro ⟨p₁, hcreated⟩
    obtain ⟨_, outcome, hcourse, hfound⟩ := exists_course_of_created api adminToken hcreated
    exact hfound o q (hcourse.runs.unique h.runs).2

/-- Tasks are reported exactly if they were listed. -/
theorem Course.tasks_iff {o : ScenarioFindings}
    (h : Course api adminToken token config now p calls (some (o, q))) (tasks : List AgentTask) :
    o.tasks = tasks ∧ tasks ≠ [] ↔
      ∃ id p₁ n p₂, CreationStep api token config now p (some (.ok id, p₁)) ∧
        TaskStep api adminToken config p₁ n (some (.ok tasks, p₂)) := by
  constructor
  · rintro ⟨rfl, hne⟩
    cases h with
    | notCreated _ => exact absurd rfl hne
    | notListed _ _ => exact absurd rfl hne
    | notRefused hcreated hlisted _ => exact ⟨_, _, _, _, hcreated, hlisted⟩
    | passed hcreated hlisted _ => exact ⟨_, _, _, _, hcreated, hlisted⟩
  · rintro ⟨id, p₁, n, p₂, hcreated, hlisted⟩
    obtain ⟨_, outcome, hcourse, hfound⟩ := exists_course_of_listed hcreated hlisted
    refine ⟨(hfound o q (hcourse.runs.unique h.runs).2).2, ?_⟩
    cases hlisted with
    | listed _ hne => exact hne

/-- The creation's own task is reported as listed exactly if one of the tasks reported has the
identifier reported. -/
theorem Course.createdTaskListed_iff {o : ScenarioFindings}
    (h : Course api adminToken token config now p calls (some (o, q))) :
    o.createdTaskListed = true ↔ ∃ task ∈ o.tasks, o.resourceId = some (Text.trimmed task.id) := by
  have hobserved : ∀ (id : String) (tasks : List AgentTask),
      decide (∃ task ∈ tasks, Text.trimmed task.id = id) = true ↔
        ∃ task ∈ tasks, some id = some (Text.trimmed task.id) := by
    intro id tasks
    rw [decide_eq_true_iff]
    exact exists_congr fun task => and_congr_right fun _ => eq_comm.trans Option.some_inj.symm
  cases h with
  | notCreated _ => simp
  | notListed _ _ => simp
  | notRefused _ _ _ => exact hobserved _ _
  | passed _ _ _ => exact hobserved _ _

/-- A scenario against any API makes exactly the calls of its steps up to and including the
first that fails, and ends with the cause of that one, or passed.  It reports an identifier
exactly if the creation was accepted with one that is not blank, namely this one, trimmed; it
reports tasks exactly if looking at the list found some, namely these; and the creation's own
task as listed exactly if one of them has the identifier of the creation. -/
theorem scenario_course (api : Api σ) (adminToken : String) (token : ScopedToken)
    (config : ScenarioParameters) (now : Moment) (p : Standing σ) :
    (∀ calls outcome, (plan adminToken token config now).Runs api p calls outcome ↔
      Course api adminToken token config now p calls outcome) ∧
    ∀ calls o q, (plan adminToken token config now).Runs api p calls (some (o, q)) →
      (∀ id, o.resourceId = some id ↔ ∃ accepted p₁,
        api.Answers p (creation token config now) (.ok accepted) p₁ ∧
          Text.blank accepted.id = false ∧ id = Text.trimmed accepted.id) ∧
      (∀ tasks, o.tasks = tasks ∧ tasks ≠ [] ↔
        ∃ id p₁ n p₂, CreationStep api token config now p (some (.ok id, p₁)) ∧
          TaskStep api adminToken config p₁ n (some (.ok tasks, p₂))) ∧
      (o.createdTaskListed = true ↔
        ∃ task ∈ o.tasks, o.resourceId = some (Text.trimmed task.id)) := by
  refine ⟨fun calls outcome => runs_iff, fun calls o q h => ?_⟩
  have hcourse := runs_iff.mp h
  refine ⟨fun id => ?_, hcourse.tasks_iff, hcourse.createdTaskListed_iff⟩
  rw [hcourse.resourceId_iff]
  constructor
  · rintro ⟨p₁, hcreated⟩
    cases hcreated with
    | accepted haccepted hid => exact ⟨_, p₁, haccepted, hid, rfl⟩
  · rintro ⟨accepted, p₁, haccepted, hid, rfl⟩
    exact ⟨p₁, .accepted haccepted hid⟩

end Scenario

end Shakedown
