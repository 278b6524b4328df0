/-
  Shakedown.Proofs.Scenario.Looks

  The looks at the list of tasks, one by one.  What a look is answered may
  depend on all that came before it, so the looks are numbered: `lookpoint`
  tells where look number `i` is made if none before it finds a task.  The
  looks then end with the first that finds tasks or fails, with the last that
  may be made, or with one that is never answered.
-/
import Shakedown.Proofs.Plan.Runs
import Shakedown.Scenario.Basic

namespace Shakedown

namespace ScenarioParameters

/-- How many looks at the list of tasks are made at most. -/
def bound (config : ScenarioParameters) : Nat :=
  max config.taskListAttempts 1

theorem bound_eq (config : ScenarioParameters) :
    config.bound = config.taskListAttempts - 1 + 1 := by
  unfold bound
  omega

end ScenarioParameters

namespace Scenario

variable {σ : Type} {api : Api σ} {adminToken : String} {config : ScenarioParameters}
  {p q : Standing σ}

/-! ## Looks that find nothing -/

/-- So many looks one after the other from `p` on find no tasks, and the next one
is due at the last standing. -/
inductive EmptyLooks (api : Api σ) (adminToken : String) (config : ScenarioParameters) :
    Nat → Standing σ → Standing σ → Prop where
  | zero (p : Standing σ) : EmptyLooks api adminToken config 0 p p
  | succ {n : Nat} {p q r : Standing σ} (h : api.Answers p (look adminToken) (.ok []) q)
      (hrest : EmptyLooks api adminToken config n
        (q.later config.taskListInterval.nanoseconds) r) :
      EmptyLooks api adminToken config (n + 1) p r

/-- Looks find nothing until one of them does, fails, is not answered, or was the
last. -/
theorem exists_emptyLooks (api : Api σ) (adminToken : String) (config : ScenarioParameters)
    (more : Nat) (p : Standing σ) :
    ∃ n r, n ≤ more ∧ EmptyLooks api adminToken config n p r ∧
      (api.Ignores r (look adminToken) ∨
        ∃ a q, api.Answers r (look adminToken) a q ∧ (a = .ok [] → n = more)) := by
  -- On the looks left: only one that finds nothing goes on to the next.
  induction more generalizing p with
  | zero =>
    refine ⟨0, p, Nat.le_refl 0, .zero p, ?_⟩
    rcases api.answers_or_ignores p (look adminToken) with ⟨a, q, ha⟩ | hnone
    · exact Or.inr ⟨a, q, ha, fun _ => rfl⟩
    · exact Or.inl hnone
  | succ more ih =>
    rcases api.answers_or_ignores p (look adminToken) with ⟨a, q, ha⟩ | hnone
    · rcases a with f | _ | ⟨task, tasks⟩
      · exact ⟨0, p, Nat.zero_le _, .zero p, Or.inr ⟨.error f, q, ha, nofun⟩⟩
      · obtain ⟨n, r, hle, hn, hend⟩ := ih (q.later config.taskListInterval.nanoseconds)
        refine ⟨n + 1, r, Nat.succ_le_succ hle, .succ ha hn, ?_⟩
        rcases hend with hnone | ⟨a, q, ha, hlast⟩
        · exact Or.inl hnone
        · exact Or.inr ⟨a, q, ha, fun heq => congrArg Nat.succ (hlast heq)⟩
      · exact ⟨0, p, Nat.zero_le _, .zero p, Or.inr ⟨.ok (task :: tasks), q, ha, nofun⟩⟩
    · exact ⟨0, p, Nat.zero_le _, .zero p, Or.inl hnone⟩

/-! ## The looks by their number -/

/-- Where look number `i`, counted from zero, is made if none before it finds a task: each
takes as long as its answer, and a pause follows it. -/
def lookpoint (api : Api σ) (adminToken : String) (config : ScenarioParameters)
    (p : Standing σ) : Nat → Standing σ
  | 0 => p
  | i + 1 =>
    let q := lookpoint api adminToken config p i
    let taken := (api.answer q.state q.now (look adminToken)).1.delay.getD 0
    (q.afterCall api (look adminToken) taken).later config.taskListInterval.nanoseconds

/-- The first looks, each at its time. -/
def looksMade (api : Api σ) (adminToken : String) (config : ScenarioParameters)
    (p : Standing σ) (n : Nat) : List TimedCall :=
  (List.range n).map fun i => ⟨(lookpoint api adminToken config p i).now, look adminToken⟩

/-- The first looks are all answered, and find no tasks. -/
def EmptyBefore (api : Api σ) (adminToken : String) (config : ScenarioParameters)
    (p : Standing σ) (n : Nat) : Prop :=
  ∀ i < n, ∃ q, api.Answers (lookpoint api adminToken config p i) (look adminToken) (.ok []) q

theorem looksMade_succ (n : Nat) :
    looksMade api adminToken config p (n + 1) = looksMade api adminToken config p n ++
      [⟨(lookpoint api adminToken config p n).now, look adminToken⟩] := by
  rw [looksMade, List.range_succ, List.map_append]
  rfl

/-- The next look is made a pause after the answer to the one before. -/
theorem lookpoint_succ_of_answers {i : Nat} {r : Except ApiFault (List AgentTask)}
    (h : api.Answers (lookpoint api adminToken config p i) (look adminToken) r q) :
    lookpoint api adminToken config p (i + 1) =
      q.later config.taskListInterval.nanoseconds := by
  obtain ⟨d, hd, -, rfl⟩ := h
  rw [lookpoint, hd]
  rfl

/-- Counted from the second look on, the looks are those that follow the first. -/
theorem lookpoint_succ_eq {r : Except ApiFault (List AgentTask)}
    (h : api.Answers p (look adminToken) r q) (i : Nat) :
    lookpoint api adminToken config p (i + 1) =
      lookpoint api adminToken config (q.later config.taskListInterval.nanoseconds) i := by
  induction i with
  | zero => exact lookpoint_succ_of_answers (i := 0) h
  | succ i ih =>
    rw [lookpoint, ih]
    rfl

/-- Looks that find nothing one after the other are the first looks. -/
theorem EmptyLooks.emptyBefore {n : Nat} {r : Standing σ}
    (h : EmptyLooks api adminToken config n p r) :
    EmptyBefore api adminToken config p n ∧ lookpoint api adminToken config p n = r := by
  induction h with
  | zero p => exact ⟨fun _ hi => absurd hi (Nat.not_lt_zero _), rfl⟩
  | @succ n p q r hfirst _ ih =>
    obtain ⟨hempty, hdue⟩ := ih
    refine ⟨?_, (lookpoint_succ_eq hfirst n).trans hdue⟩
    intro i hi
    cases i with
    | zero => exact ⟨q, hfirst⟩
    | succ i =>
      rw [lookpoint_succ_eq hfirst]
      exact hempty i (Nat.lt_of_succ_lt_succ hi)

/-! ## Where they end -/

/-- How the looks from `p` on end: how many are made, and what they come to, if the last is
answered. -/
inductive LooksEnd (api : Api σ) (adminToken : String) (config : ScenarioParameters)
    (p : Standing σ) : Nat → Option (Except ApiFault (List AgentTask) × Standing σ) → Prop where
  /-- A look that finds tasks or fails is the last. -/
  | decided {n : Nat} {r : Except ApiFault (List AgentTask)} {q : Standing σ}
      (hlt : n < config.bound) (hempty : EmptyBefore api adminToken config p n)
      (h : api.Answers (lookpoint api adminToken config p n) (look adminToken) r q)
      (hr : r ≠ .ok []) : LooksEnd api adminToken config p (n + 1) (some (r, q))
  /-- No more looks may be made. -/
  | exhausted {n : Nat} {q : Standing σ} (hlast : n + 1 = config.bound)
      (hempty : EmptyBefore api adminToken config p n)
      (h : api.Answers (lookpoint api adminToken config p n) (look adminToken) (.ok []) q) :
      LooksEnd api adminToken config p (n + 1) (some (.ok [], q))
  | ignored {n : Nat} (hlt : n < config.bound) (hempty : EmptyBefore api adminToken config p n)
      (h : api.Ignores (lookpoint api adminToken config p n) (look adminToken)) :
      LooksEnd api adminToken config p (n + 1) none

/-- Looks that find nothing are made one after the other, as long as some are left. -/
theorem runs_looks_of_emptyBefore {n more : Nat} {calls : List TimedCall}
    {outcome : Option (Except ApiFault (List AgentTask) × Standing σ)}
    (hempty : EmptyBefore api adminToken config p n)
    (hrest : (looks adminToken config.taskListInterval.nanoseconds more).Runs api
      (lookpoint api adminToken config p n) calls outcome) :
    (looks adminToken config.taskListInterval.nanoseconds (more + n)).Runs api p
      (looksMade api adminToken config p n ++ calls) outcome := by
  -- On the number of looks; the last of them goes to the front of what follows.
  induction n generalizing more calls with
  | zero => exact hrest
  | succ n ih =>
    obtain ⟨q, hn⟩ := hempty n (Nat.lt_succ_self n)
    rw [lookpoint_succ_of_answers hn] at hrest
    have hlast : (looks adminToken config.taskListInterval.nanoseconds (more + 1)).Runs api
        (lookpoint api adminToken config p n)
        (⟨(lookpoint api adminToken config p n).now, look adminToken⟩ :: calls) outcome :=
      .ask hn (.pause hrest)
    have hall := ih (fun i hi => hempty i (Nat.lt_succ_of_lt hi)) hlast
    rw [looksMade_succ, List.append_assoc, List.singleton_append]
    rwa [Nat.add_assoc, Nat.add_comm 1 n] at hall

/-- A look that finds tasks or fails is followed by no other. -/
theorem runs_looks_of_decided {r : Except ApiFault (List AgentTask)}
    (h : api.Answers p (look adminToken) r q) (hr : r ≠ .ok []) (interval more : Nat) :
    (looks adminToken interval more).Runs api p [⟨p.now, look adminToken⟩] (some (r, q)) := by
  cases more with
  | zero => exact .ask h (.done api r q)
  | succ more =>
    refine .ask h ?_
    rcases r with f | _ | ⟨task, tasks⟩
    · exact .done api _ q
    · exact absurd rfl hr
    · exact .done api _ q

theorem runs_looks_of_ignores (h : api.Ignores p (look adminToken)) (interval more : Nat) :
    (looks adminToken interval more).Runs api p [⟨p.now, look adminToken⟩] none := by
  cases more with
  | zero => exact .ask_of_ignores h _
  | succ more => exact .ask_of_ignores h _

/-- All looks that are made, from the first that does not lead to another. -/
theorem runs_awaitTasks_of_last {n more : Nat}
    {outcome : Option (Except ApiFault (List AgentTask) × Standing σ)}
    (hmore : config.taskListAttempts - 1 = more + n)
    (hempty : EmptyBefore api adminToken config p n)
    (hlast : (looks adminToken config.taskListInterval.nanoseconds more).Runs api
      (lookpoint api adminToken config p n)
      [⟨(lookpoint api adminToken config p n).now, look adminToken⟩] outcome) :
    (awaitTasks adminToken config).Runs api p (looksMade api adminToken config p (n + 1))
      outcome := by
  rw [awaitTasks, hmore, looksMade_succ]
  exact runs_looks_of_emptyBefore hempty hlast

/-- The looks are made, and come to something, as they end. -/
theorem LooksEnd.runs {n : Nat} {outcome : Option (Except ApiFault (List AgentTask) × Standing σ)}
    (h : LooksEnd api adminToken config p n outcome) :
    (awaitTasks adminToken config).Runs api p (looksMade api adminToken config p n) outcome := by
  have hbound := config.bound_eq
  cases h with
  | @decided n _ _ hlt hempty h hr =>
    have hmore : config.taskListAttempts - 1 = config.taskListAttempts - 1 - n + n := by omega
    exact runs_awaitTasks_of_last hmore hempty (runs_looks_of_decided h hr _ _)
  | @exhausted n _ hlast hempty h =>
    have hmore : config.taskListAttempts - 1 = 0 + n := by omega
    exact runs_awaitTasks_of_last hmore hempty (.ask h (.done api _ _))
  | @ignored n hlt hempty h =>
    have hmore : config.taskListAttempts - 1 = config.taskListAttempts - 1 - n + n := by omega
    exact runs_awaitTasks_of_last hmore hempty (runs_looks_of_ignores h _ _)

/-- The looks end. -/
theorem exists_looksEnd (api : Api σ) (adminToken : String) (config : ScenarioParameters)
    (p : Standing σ) : ∃ n outcome, LooksEnd api adminToken config p n outcome := by
  have hbound := config.bound_eq
  obtain ⟨n, r, hle, hlooks, hend⟩ :=
    exists_emptyLooks api adminToken config (config.taskListAttempts - 1) p
  obtain ⟨hempty, rfl⟩ := hlooks.emptyBefore
  have hlt : n < config.bound := by omega
  rcases hend with hnone | ⟨answer, q, h, hlast⟩
  · exact ⟨_, _, .ignored hlt hempty hnone⟩
  · by_cases hnothing : answer = .ok []
    · have hn : n = config.taskListAttempts - 1 := hlast hnothing
      rw [hnothing] at h
      exact ⟨_, _, .exhausted (by omega) hempty h⟩
    · exact ⟨_, _, .decided hlt hempty h hnothing⟩

end Scenario

end Shakedown
