/-
  Shakedown.Proofs.Scenario.Awaiting

  The wait for tasks in numbers: how many looks at their list are made, when
  each of them is, and when the last is over.

  The looks are told by what they are answered.  An answer that is a fault or
  holds tasks is conclusive: no other look follows it.  Any other is followed
  by a pause and another look, as long as one is left.  So what the wait comes
  to is a matter of the first of the answers that is conclusive.
-/
import Shakedown.Proofs.Plan.Timing
import Shakedown.Proofs.Scenario.Looks

namespace Shakedown.Scenario

open Finset (sum_range_succ)

variable {σ : Type} {api : Api σ} {adminToken : String} {config : ScenarioParameters}
  {p : Standing σ} {answer : Nat → Answer (look adminToken)} {taken : Nat → Nat} {n : Nat}

/-! ## Conclusive answers -/

/-- What a look comes to after which there is no other: it failed, or there are tasks. -/
inductive Conclusive : Except ApiFault (List AgentTask) → Prop where
  | failed (f : ApiFault) : Conclusive (.error f)
  | listed {tasks : List AgentTask} (hne : tasks ≠ []) : Conclusive (.ok tasks)

theorem conclusive_iff {r : Except ApiFault (List AgentTask)} : Conclusive r ↔ r ≠ .ok [] := by
  constructor
  · rintro (f | hne) heq
    · exact nomatch heq
    · exact hne (Except.ok.inj heq)
  · intro hne
    cases r with
    | error f => exact .failed f
    | ok tasks => exact .listed fun hnil => hne (congrArg Except.ok hnil)

/-! ## Looks and their answers -/

/-- The looks from `p` on are answered by this sequence: its entry number `i` is the answer to
look number `i`, made if none before it is conclusive.  An API has one such sequence. -/
def AnswersLooks (api : Api σ) (adminToken : String) (config : ScenarioParameters)
    (p : Standing σ) (answer : Nat → Answer (look adminToken)) : Prop :=
  ∀ i, (api.answer (lookpoint api adminToken config p i).state
    (lookpoint api adminToken config p i).now (look adminToken)).1 = answer i

/-- An API that answers looks at the list of tasks with the entries of a sequence in turn, and
nothing else. -/
def inTurn (answer : Nat → Answer (look adminToken)) : Api Nat where
  answer asked _
    | ⟨_, .listTasks _⟩ => (⟨(answer asked).delay, (answer asked).result⟩, asked + 1)
    | _ => (⟨none, .error (.transport "")⟩, asked)

/-- Its state counts the looks. -/
theorem lookpoint_inTurn_state (config : ScenarioParameters) (start i : Nat) :
    (lookpoint (inTurn answer) adminToken config ⟨start, 0⟩ i).state = i := by
  induction i with
  | zero => rfl
  | succ i ih => exact congrArg (· + 1) ih

/-- So there is an API for every sequence of answers. -/
theorem answersLooks_inTurn (answer : Nat → Answer (look adminToken))
    (config : ScenarioParameters) (start : Nat) :
    AnswersLooks (inTurn answer) adminToken config ⟨start, 0⟩ answer := by
  intro i
  rw [lookpoint_inTurn_state]
  rfl

namespace AnswersLooks

/-- A look that takes a while is answered when it is over. -/
theorem answers (h : AnswersLooks api adminToken config p answer) {i d : Nat}
    (hd : (answer i).delay = some d) :
    api.Answers (lookpoint api adminToken config p i) (look adminToken) (answer i).result
      ((lookpoint api adminToken config p i).afterCall api (look adminToken) d) := by
  rw [← h i] at hd ⊢
  exact ⟨d, hd, rfl, rfl⟩

theorem ignores (h : AnswersLooks api adminToken config p answer) {i : Nat}
    (hd : (answer i).delay = none) :
    api.Ignores (lookpoint api adminToken config p i) (look adminToken) := by
  rw [← h i] at hd
  exact hd

/-- A look that is not answered conclusively finds no tasks. -/
theorem answers_nothing (h : AnswersLooks api adminToken config p answer) {i d : Nat}
    (hd : (answer i).delay = some d) (hopen : ¬Conclusive (answer i).result) :
    api.Answers (lookpoint api adminToken config p i) (look adminToken) (.ok [])
      ((lookpoint api adminToken config p i).afterCall api (look adminToken) d) := by
  have hnothing : (answer i).result = .ok [] :=
    Classical.not_not.mp (mt conclusive_iff.mpr hopen)
  rw [← hnothing]
  exact h.answers hd

theorem emptyBefore (h : AnswersLooks api adminToken config p answer)
    (hempty : ∀ i < n, (answer i).delay = some (taken i) ∧ ¬Conclusive (answer i).result) :
    EmptyBefore api adminToken config p n :=
  fun i hi => ⟨_, h.answers_nothing (hempty i hi).1 (hempty i hi).2⟩

/-! ## Times -/

/-- The time at which a look is made: each look before it has taken its time, and a pause has
followed it. -/
theorem lookpoint_now (h : AnswersLooks api adminToken config p answer)
    (htaken : ∀ i < n, (answer i).delay = some (taken i)) :
    (lookpoint api adminToken config p n).now =
      p.now + ∑ i ∈ Finset.range n, (taken i + config.taskListInterval.nanoseconds) := by
  induction n with
  | zero => rfl
  | succ n ih =>
    have hlast := h.answers (htaken n (Nat.lt_succ_self n))
    rw [lookpoint_succ_of_answers hlast, sum_range_succ, ← Nat.add_assoc, ← Nat.add_assoc,
      ← ih fun i hi => htaken i (Nat.lt_succ_of_lt hi)]
    rfl

/-- The time at which a look is over. -/
theorem lookpoint_now_add (h : AnswersLooks api adminToken config p answer)
    (htaken : ∀ i < n + 1, (answer i).delay = some (taken i)) :
    (lookpoint api adminToken config p n).now + taken n =
      p.now + (∑ i ∈ Finset.range (n + 1), taken i +
        n * config.taskListInterval.nanoseconds) := by
  rw [h.lookpoint_now fun i hi => htaken i (Nat.lt_succ_of_lt hi), Nat.add_assoc,
    sum_spent_add_pause]

/-- The first looks, by the times that those before the last of them take. -/
theorem looksMade_eq (h : AnswersLooks api adminToken config p answer)
    (htaken : ∀ i < n, (answer i).delay = some (taken i)) :
    looksMade api adminToken config p (n + 1) = (List.range (n + 1)).map fun i =>
      ⟨p.now + ∑ j ∈ Finset.range i, (taken j + config.taskListInterval.nanoseconds),
        look adminToken⟩ := by
  refine List.map_congr_left fun i hi => ?_
  have hle : i ≤ n := Nat.le_of_lt_succ (List.mem_range.mp hi)
  rw [h.lookpoint_now fun j hj => htaken j (Nat.lt_of_lt_of_le hj hle)]

/-! ## The wait -/

/-- Looks that end with an answer to the last of them take their times and the pauses between
them. -/
theorem trace_of_answered (h : AnswersLooks api adminToken config p answer)
    (htaken : ∀ i < n + 1, (answer i).delay = some (taken i))
    {r : Except ApiFault (List AgentTask)}
    (hend : LooksEnd api adminToken config p (n + 1)
      (some (r, (lookpoint api adminToken config p n).afterCall api (look adminToken)
        (taken n)))) :
    let wait := (awaitTasks adminToken config).trace api p.now p.state
    wait.calls = looksMade api adminToken config p (n + 1) ∧
      wait.ending = some (p.now + (∑ i ∈ Finset.range (n + 1), taken i +
        n * config.taskListInterval.nanoseconds), r) := by
  obtain ⟨hcalls, houtcome⟩ := hend.runs
  obtain ⟨hending, -⟩ := Trace.ending_of_outcome? houtcome
  refine ⟨hcalls, ?_⟩
  rw [← h.lookpoint_now_add htaken]
  exact hending

end AnswersLooks

/-- The wait for tasks, told by what its looks are answered; every sequence of answers is that
of some API.  If one of the looks that are allowed is answered conclusively, the first such is
the last that is made: the wait has taken the time of the looks up to it and of the pauses
between them, and comes to the fault or the tasks of its answer.  If none is, all are made, with
a pause between any two, and the wait comes to no tasks.  Only a look that is never answered
keeps it from ending.  Every call is a look with the admin token and no filter. -/
theorem awaitTasks_course (adminToken : String) (config : ScenarioParameters)
    (answer : Nat → Answer (look adminToken)) :
    (∃ api : Api Nat, ∀ start, AnswersLooks api adminToken config ⟨start, 0⟩ answer) ∧
    ∀ (σ : Type) (api : Api σ) (p : Standing σ), AnswersLooks api adminToken config p answer →
      ∀ taken : Nat → Nat,
      let bound := max config.taskListAttempts 1
      let pause := config.taskListInterval.nanoseconds
      let empty n := ∀ i < n, (answer i).delay = some (taken i) ∧ ¬Conclusive (answer i).result
      let made n : List TimedCall := (List.range n).map fun i =>
        ⟨p.now + ∑ j ∈ Finset.range i, (taken j + pause),
          ⟨adminToken, .listTasks { limit := none, status := none }⟩⟩
      let wait := (awaitTasks adminToken config).trace api p.now p.state
      (∀ k < bound, empty k → (answer k).delay = some (taken k) → Conclusive (answer k).result →
        wait.calls = made (k + 1) ∧
        wait.ending = some (p.now + (∑ i ∈ Finset.range (k + 1), taken i + k * pause),
          (answer k).result)) ∧
      (empty bound →
        wait.calls = made bound ∧
        wait.ending = some (p.now + (∑ i ∈ Finset.range bound, taken i + (bound - 1) * pause),
          .ok [])) ∧
      (∀ k < bound, empty k → (answer k).delay = none →
        wait.calls = made (k + 1) ∧ wait.ending = none) := by
  refine ⟨⟨inTurn answer, answersLooks_inTurn answer config⟩, ?_⟩
  intro σ api p hanswer taken bound pause empty made wait
  have hmade : ∀ k, empty k → looksMade api adminToken config p (k + 1) = made (k + 1) :=
    fun k hempty => hanswer.looksMade_eq fun i hi => (hempty i hi).1
  refine ⟨?decided, ?exhausted, ?ignored⟩
  case decided =>
    intro k hk hempty hd hconclusive
    have htaken : ∀ i < k + 1, (answer i).delay = some (taken i) :=
      Nat.forall_lt_succ_right.mpr ⟨fun i hi => (hempty i hi).1, hd⟩
    obtain ⟨hcalls, hending⟩ := hanswer.trace_of_answered htaken
      (.decided hk (hanswer.emptyBefore hempty) (hanswer.answers hd)
        (conclusive_iff.mp hconclusive))
    exact ⟨hcalls.trans (hmade k hempty), hending⟩
  case exhausted =>
    intro hempty
    -- The last look is answered like those before it, but no other is left.
    obtain ⟨last, hlast⟩ : ∃ last, bound = last + 1 := ⟨_, config.bound_eq⟩
    rw [hlast] at hempty ⊢
    have hearlier : empty last := fun i hi => hempty i (Nat.lt_succ_of_lt hi)
    obtain ⟨hd, hopen⟩ := hempty last (Nat.lt_succ_self last)
    obtain ⟨hcalls, hending⟩ := hanswer.trace_of_answered (fun i hi => (hempty i hi).1)
      (.exhausted hlast.symm (hanswer.emptyBefore hearlier) (hanswer.answers_nothing hd hopen))
    exact ⟨hcalls.trans (hmade last hearlier), hending⟩
  case ignored =>
    intro k hk hempty hnone
    obtain ⟨hcalls, houtcome⟩ := LooksEnd.runs
      (.ignored hk (hanswer.emptyBefore hempty) (hanswer.ignores hnone))
    exact ⟨hcalls.trans (hmade k hempty), Trace.outcome?_eq_none_iff.mp houtcome⟩

/-- A fault is told although the look before it has found nothing. -/
example : ((awaitTasks "admin" { taskListAttempts := 3 }).trace
    (@inTurn "admin" fun
      | 0 => ⟨some 20, .ok []⟩
      | _ => ⟨some 30, .error (.transport "connection refused")⟩) 0 0).ending =
    some (500000050, .error (.transport "connection refused")) := by
  rfl

end Shakedown.Scenario
