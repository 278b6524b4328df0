/-
  Shakedown.Proofs.Plan.Timing

  When the events of a plan begin.  A plan does one thing at a time, so its
  events follow one another: each begins when what came before it is over.
  Of events in this order, those that are left by a deadline hold exactly
  the calls that start before it.

  A call that is repeated with a pause between any two takes the time of all
  of them, and one pause less than there are calls.
-/
import Mathlib.Algebra.BigOperators.Group.Finset.Basic
import Shakedown.Proofs.Plan.Course

namespace Shakedown

variable {σ α : Type}

/-! ## Events that follow one another -/

/-- Events follow one another from a time on: a call begins when the event before it is
over, a wait takes its length, and nothing comes after a wait that never ends. -/
def Follow : (now : Nat) → List Event → Prop
  | _, [] => True
  | now, .call t _ :: rest => t = now ∧ Follow now rest
  | now, .wait t (some length) :: rest => t = now ∧ Follow (now + length) rest
  | now, .wait t none :: rest => t = now ∧ rest = []

namespace Follow

variable {now : Nat} {events : List Event}

/-- No call starts before the first event. -/
theorem le_of_mem_callsOf (h : Follow now events) : ∀ c ∈ callsOf events, now ≤ c.time := by
  induction events generalizing now with
  | nil => exact nofun
  | cons e rest ih =>
    intro c hc
    cases e with
    | call t called =>
      rcases List.mem_cons.mp hc with rfl | hc
      · exact Nat.le_of_eq h.1.symm
      · exact ih h.2 c hc
    | wait t length =>
      rw [callsOf_wait] at hc
      cases length with
      | some length => exact Nat.le_trans (Nat.le_add_right now length) (ih h.2 c hc)
      | none =>
        rw [h.2] at hc
        exact nomatch hc

/-- So events that begin at a deadline or later hold no call before it. -/
theorem filter_callsOf_of_le (h : Follow now events) {deadline : Nat} (hle : deadline ≤ now) :
    (callsOf events).filter (fun c => c.time < deadline) = [] := by
  refine List.filter_eq_nil_iff.mpr fun c hc => ?_
  have hstart : deadline ≤ c.time := Nat.le_trans hle (h.le_of_mem_callsOf c hc)
  simpa using hstart

/-- The events before a deadline hold the calls that start before it, and no others. -/
theorem callsOf_eventsBefore (h : Follow now events) (deadline : Nat) :
    callsOf (Trace.eventsBefore deadline events) =
      (callsOf events).filter fun c => c.time < deadline := by
  -- On the events; where the cut falls, everything that follows is too late.
  induction events generalizing now with
  | nil => rfl
  | cons e rest ih =>
    cases e with
    | call t c =>
      obtain ⟨rfl, hrest⟩ := h
      rw [Trace.eventsBefore.eq_def]
      dsimp only
      by_cases hbefore : t < deadline
      · rw [if_pos hbefore, callsOf_call, callsOf_call, ih hrest, List.filter_cons,
          if_pos (decide_eq_true hbefore)]
      · have hall : Follow t (.call t c :: rest) := ⟨rfl, hrest⟩
        rw [if_neg hbefore, hall.filter_callsOf_of_le (Nat.not_lt.mp hbefore)]
        rfl
    | wait t length =>
      rw [Trace.eventsBefore.eq_def]
      dsimp only
      cases length with
      | some length =>
        obtain ⟨rfl, hrest⟩ := h
        dsimp only
        rw [callsOf_wait]
        by_cases hover : t + length < deadline
        · rw [if_pos (Nat.lt_of_le_of_lt (Nat.le_add_right t length) hover), if_pos hover,
            callsOf_wait, ih hrest]
        · rw [if_neg hover, hrest.filter_callsOf_of_le (Nat.not_lt.mp hover)]
          split <;> rfl
      | none =>
        obtain ⟨-, rfl⟩ := h
        split <;> rfl

end Follow

/-! ## Plans -/

namespace Plan

theorem follow_waitEvents {now length : Nat} {events : List Event}
    (h : Follow (now + length) events) : Follow now (waitEvents now length ++ events) := by
  unfold waitEvents
  split
  · rename_i hzero
    rwa [hzero, Nat.add_zero] at h
  · exact ⟨rfl, h⟩

/-- The events of a plan follow one another from its start on. -/
theorem follow_trace (api : Api σ) (plan : Plan α) (now : Nat) (s : σ) :
    Follow now (plan.trace api now s).events := by
  induction plan generalizing now s with
  | done a =>
    rw [trace_done]
    exact trivial
  | ask c next ih =>
    cases hd : (api.answer s now c).1.delay with
    | none =>
      rw [trace_ask_of_none hd]
      exact ⟨rfl, rfl, rfl⟩
    | some d =>
      rw [trace_ask_of_some hd]
      exact ⟨rfl, follow_waitEvents (ih _ _ _)⟩
  | askWithin limit c next ih =>
    rw [trace_askWithin]
    exact ⟨rfl, follow_waitEvents (ih _ _ _)⟩
  | pause length next ih =>
    rw [trace_pause]
    exact ⟨rfl, ih _ _⟩

/-- A plan that comes to an end does so no earlier than it starts, and has made all its
calls by then. -/
theorem le_of_ending {api : Api σ} {plan : Plan α} {now endsAt : Nat} {s : σ} {a : α}
    (h : (plan.trace api now s).ending = some (endsAt, a)) :
    now ≤ endsAt ∧ ∀ c ∈ (plan.trace api now s).calls, c.time ≤ endsAt := by
  -- On the plan: a call is made before what follows its answer comes to an end.
  have hcons : ∀ {start later : Nat} {c : Call} {calls : List TimedCall}, start ≤ later →
      (later ≤ endsAt ∧ ∀ c ∈ calls, c.time ≤ endsAt) →
      start ≤ endsAt ∧ ∀ c' ∈ ⟨start, c⟩ :: calls, c'.time ≤ endsAt := by
    intro start later c calls hle hrest
    have hstart : start ≤ endsAt := Nat.le_trans hle hrest.1
    exact ⟨hstart, List.forall_mem_cons.mpr ⟨hstart, hrest.2⟩⟩
  induction plan generalizing now s with
  | done a' =>
    rw [trace_done] at h ⊢
    obtain ⟨rfl, -⟩ := Prod.mk.inj (Option.some.inj h)
    exact ⟨Nat.le_refl now, nofun⟩
  | ask c next ih =>
    cases hd : (api.answer s now c).1.delay with
    | none =>
      rw [trace_ask_of_none hd] at h
      exact nomatch h
    | some d =>
      rw [trace_ask_of_some hd] at h ⊢
      rw [Trace.prepend_calls, callsOf_ask]
      exact hcons (Nat.le_add_right now d) (ih _ h)
  | askWithin limit c next ih =>
    rw [trace_askWithin] at h ⊢
    rw [Trace.prepend_calls, callsOf_ask]
    exact hcons (Nat.le_add_right now _) (ih _ h)
  | pause length next ih =>
    rw [trace_pause] at h ⊢
    obtain ⟨hle, hcalls⟩ := ih h
    exact ⟨Nat.le_trans (Nat.le_add_right now length) hle, hcalls⟩

/-- So it comes to something no earlier than it starts, -/
theorem le_of_outcome? {api : Api σ} {plan : Plan α} {p q : Standing σ} {a : α}
    (h : plan.outcome? api p = some (a, q)) : p.now ≤ q.now :=
  (le_of_ending (Trace.ending_of_outcome? h).1).1

/-- and no earlier than its first call is answered. -/
theorem le_of_answers {api : Api σ} {p q q' : Standing σ} {c : Call} {r : c.Result}
    {next : c.Result → Plan α} {a : α} (hr : api.Answers p c r q)
    (h : (Plan.ask c next).outcome? api p = some (a, q')) : q.now ≤ q'.now := by
  rw [outcome?_ask_of_answers hr] at h
  exact le_of_outcome? h

end Plan

/-! ## Repeated calls -/

/-- The first calls, each of them followed by a pause, and the one after them, which is not. -/
theorem sum_spent_add_pause (spent : Nat → Nat) (pause n : Nat) :
    ∑ i ∈ Finset.range n, (spent i + pause) + spent n =
      ∑ i ∈ Finset.range (n + 1), spent i + n * pause := by
  have hpauses : ∑ _i ∈ Finset.range n, pause = n * pause := by
    rw [Finset.sum_const_nat fun _ _ => rfl, Finset.card_range]
  rw [Finset.sum_add_distrib, hpauses, Finset.sum_range_succ]
  omega

end Shakedown
