/-
  Shakedown.Proofs.Agent.Observation

  What can be seen of an agent's exit, and when.  Whoever looks at a time
  knows only the signals that were sent by then; those that come later make
  no difference to it, and an exit once seen is seen by everybody from then
  on, whatever else the agent is sent.
-/
import Shakedown.Agent.Watch
import Shakedown.Proofs.Agent.Cleanup

namespace Shakedown

namespace AgentProcess

variable {p : AgentProcess} {t u time : Nat} {x y : ProcessExit}
  {more : List (Nat × AgentSignal)}

/-- The agent with more signals, sent by whomever. -/
def sendAll (p : AgentProcess) (more : List (Nat × AgentSignal)) : AgentProcess :=
  { p with signals := p.signals ++ more }

/-- The exit that is seen at a time, with no more than the signals sent by then. -/
def seenAt (p : AgentProcess) (t : Nat) : Option ProcessExit :=
  ({ p with signals := p.signals.filter fun sent => sent.1 ≤ t } : AgentProcess).exitBy t

/-- Whoever waits for the exit from `t` on is told of it at `u`: it is seen then, and not
before. -/
def Awaited (p : AgentProcess) (t u : Nat) (x : ProcessExit) : Prop :=
  t ≤ u ∧ p.seenAt u = some x ∧ ∀ v, t ≤ v → v < u → p.seenAt v = none

/-! ## The earlier of two exits -/

theorem earlier_none (e : Option (Nat × ProcessExit)) : earlier e none = e := by
  cases e <;> rfl

/-- An exit stands against any that is no earlier. -/
theorem earlier_of_le {b : Option (Nat × ProcessExit)} (h : ∀ e, b = some e → time ≤ e.1) :
    earlier (some (time, x)) b = some (time, x) := by
  cases b with
  | none => rfl
  | some e =>
    rw [earlier]
    exact if_neg (Nat.not_lt.mpr (h e rfl))

theorem filter_of_lt {limit : Nat} (h : limit < time) (x : ProcessExit) :
    (some (time, x)).filter (fun e => e.1 ≤ limit) = none :=
  Option.filter_some_neg (by simpa using h)

/-- Which of two exits comes first by a time is told by those of them that come by then. -/
theorem filter_earlier (a b : Option (Nat × ProcessExit)) (limit : Nat) :
    (earlier a b).filter (fun e => e.1 ≤ limit) =
      earlier (a.filter fun e => e.1 ≤ limit) (b.filter fun e => e.1 ≤ limit) := by
  rcases a with _ | ⟨time, x⟩
  · rfl
  rcases b with _ | ⟨time', x'⟩
  · rw [earlier_none, Option.filter_none, earlier_none]
  by_cases hfirst : time' < time
  · have hearlier : earlier (some (time, x)) (some (time', x')) = some (time', x') := if_pos hfirst
    rw [hearlier]
    by_cases hin : time ≤ limit
    · rw [filter_of_le rfl hin, filter_of_le rfl (Nat.le_trans (Nat.le_of_lt hfirst) hin), hearlier]
    · rw [filter_of_lt (Nat.not_le.mp hin)]
      rfl
  · have hle : time ≤ time' := Nat.not_lt.mp hfirst
    have hearlier : earlier (some (time, x)) (some (time', x')) = some (time, x) := if_neg hfirst
    rw [hearlier]
    by_cases hin : time ≤ limit
    · rw [filter_of_le rfl hin]
      refine (earlier_of_le fun e he => ?_).symm
      obtain ⟨hexit, -⟩ := Option.filter_eq_some_iff.mp he
      rw [← Option.some.inj hexit]
      exact hle
    -- If the first does not come by then, neither does the second.
    · have hout : limit < time := Nat.not_le.mp hin
      rw [filter_of_lt hout, filter_of_lt (Nat.lt_of_lt_of_le hout hle)]
      rfl

/-! ## Signals and what is seen -/

/-- A signal makes the agent exit no earlier than it is sent. -/
theorem le_of_exitOn {sent : Nat × AgentSignal} {e : Nat × ProcessExit}
    (h : p.exitOn sent = some e) : sent.1 ≤ e.1 := by
  obtain ⟨reaction, -, rfl⟩ := Option.map_eq_some_iff.mp h
  exact Nat.le_add_right sent.1 reaction.1

/-- The exit by a time is told by what each signal brings about by then. -/
theorem filter_foldl_earlier (p : AgentProcess) (limit : Nat) (signals : List (Nat × AgentSignal))
    (e : Option (Nat × ProcessExit)) :
    (signals.foldl (fun e s => earlier e (p.exitOn s)) e).filter (fun e => e.1 ≤ limit) =
      signals.foldl (fun e s => earlier e ((p.exitOn s).filter fun e => e.1 ≤ limit))
        (e.filter fun e => e.1 ≤ limit) := by
  induction signals generalizing e with
  | nil => rfl
  | cons s rest ih => rw [List.foldl_cons, List.foldl_cons, ih, filter_earlier]

/-- What is seen at a time is the exit that has come by then: signals sent later have no
part in it. -/
theorem seenAt_eq_exitBy (p : AgentProcess) (t : Nat) : p.seenAt t = p.exitBy t := by
  have hskip : ∀ (e : Option (Nat × ProcessExit)) (sent : Nat × AgentSignal),
      (if decide (sent.1 ≤ t) = true then
        earlier e ((p.exitOn sent).filter fun e => e.1 ≤ t) else e) =
      earlier e ((p.exitOn sent).filter fun e => e.1 ≤ t) := by
    intro e sent
    by_cases hsent : sent.1 ≤ t
    · rw [if_pos (decide_eq_true hsent)]
    · have hnone : (p.exitOn sent).filter (fun e => e.1 ≤ t) = none := by
        refine filter_of_late fun time x hexit => ?_
        have hle := le_of_exitOn hexit
        omega
      rw [if_neg (by simpa using hsent), hnone, earlier_none]
  have hfold : ((p.signals.filter fun sent => sent.1 ≤ t).foldl
        (fun e s => earlier e (p.exitOn s)) p.naturalExit?).filter (fun e => e.1 ≤ t) =
      (p.signals.foldl (fun e s => earlier e (p.exitOn s)) p.naturalExit?).filter
        fun e => e.1 ≤ t := by
    rw [filter_foldl_earlier, filter_foldl_earlier, List.foldl_filter]
    simp only [hskip]
  exact congrArg (Option.map Prod.snd) hfold

/-- Signals that are sent once the agent has exited change nothing about it. -/
theorem exit?_sendAll (hexit : p.exit? = some (time, x)) (hmore : ∀ sent ∈ more, time ≤ sent.1) :
    (p.sendAll more).exit? = some (time, x) := by
  have hfold : ∀ signals : List (Nat × AgentSignal), (∀ sent ∈ signals, time ≤ sent.1) →
      signals.foldl (fun e s => earlier e (p.exitOn s)) (some (time, x)) = some (time, x) := by
    intro signals hlater
    induction signals with
    | nil => rfl
    | cons sent rest ih =>
      -- None of them brings about an exit before this one.
      have hlate : ∀ e, p.exitOn sent = some e → time ≤ e.1 := fun e he =>
        Nat.le_trans (hlater sent List.mem_cons_self) (le_of_exitOn he)
      rw [List.foldl_cons, earlier_of_le hlate]
      exact ih fun sent' hsent' => hlater sent' (List.mem_cons_of_mem sent hsent')
  have happend : (p.sendAll more).exit? =
      more.foldl (fun e s => earlier e (p.exitOn s)) p.exit? := List.foldl_append
  rw [happend, hexit]
  exact hfold more hmore

/-! ## Waiting for the exit -/

theorem seenAt_of_le (hexit : p.exit? = some (time, x)) (h : time ≤ t) : p.seenAt t = some x := by
  rw [seenAt_eq_exitBy]
  exact exitBy_of_le hexit h

theorem exit?_of_seenAt (h : p.seenAt t = some x) : ∃ time, p.exit? = some (time, x) ∧ time ≤ t := by
  rw [seenAt_eq_exitBy] at h
  obtain ⟨⟨time, y⟩, hfilter, rfl⟩ := Option.map_eq_some_iff.mp h
  obtain ⟨hexit, htime⟩ := Option.filter_eq_some_iff.mp hfilter
  exact ⟨time, hexit, of_decide_eq_true htime⟩

theorem late_of_seenAt (h : p.seenAt t = none) : ∀ time x, p.exit? = some (time, x) → t < time := by
  intro time x hexit
  refine Nat.lt_of_not_le fun hle => ?_
  rw [seenAt_of_le hexit hle] at h
  exact nomatch h

/-- An exit that was seen is seen from then on. -/
theorem seenAt_later (h : p.seenAt t = some x) (hle : t ≤ u) : p.seenAt u = some x := by
  obtain ⟨time, hexit, htime⟩ := exit?_of_seenAt h
  exact seenAt_of_le hexit (Nat.le_trans htime hle)

/-- All who ever see an exit see the same. -/
theorem seenAt_unique (hx : p.seenAt t = some x) (hy : p.seenAt u = some y) : x = y := by
  obtain ⟨time, hexit, -⟩ := exit?_of_seenAt hx
  obtain ⟨time', hexit', -⟩ := exit?_of_seenAt hy
  obtain ⟨-, rfl⟩ := Prod.mk.inj (Option.some.inj (hexit.symm.trans hexit'))
  rfl

/-- Whoever waits for the exit is told of it when it comes, or at once if it has come. -/
theorem awaited_of_exit (hexit : p.exit? = some (time, x)) (t : Nat) :
    p.Awaited t (max t time) x := by
  refine ⟨Nat.le_max_left t time, seenAt_of_le hexit (Nat.le_max_right t time), ?_⟩
  intro v hstart hbefore
  rw [seenAt_eq_exitBy]
  refine exitBy_of_late fun time' x' hexit' => ?_
  obtain ⟨rfl, -⟩ := Prod.mk.inj (Option.some.inj (hexit.symm.trans hexit'))
  omega

end AgentProcess

/-- What a watch waits for is what anybody is told who waits for the exit. -/
theorem AgentWatch.awaited_awaitExit {w : AgentWatch} {time : Nat} {x : ProcessExit}
    (hexit : w.process.exit? = some (time, x)) :
    w.process.Awaited w.now w.awaitExit.now x ∧ w.awaitExit.exit? = some x := by
  have hnow : w.awaitExit.now = max w.now time := by
    rw [awaitExit, hexit]
  have hprocess : w.awaitExit.process = w.process := by
    rw [awaitExit, hexit]
    rfl
  rw [AgentWatch.exit?, hprocess, hnow]
  exact ⟨AgentProcess.awaited_of_exit hexit w.now,
    AgentProcess.exitBy_of_le hexit (Nat.le_max_right w.now time)⟩

end Shakedown
