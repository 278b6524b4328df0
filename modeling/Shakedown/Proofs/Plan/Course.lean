/-
  Shakedown.Proofs.Plan.Course

  Where plans get to.  A standing is a time and what an API remembers by
  then; a call made at a standing is answered with something, at a later
  standing, or is never answered.  A plan started at a standing comes to an
  outcome at a later one, unless some call it waits for is never answered.

  `outcome?` is read off the trace of a plan, and its equations below follow
  the constructors of plans, so that what a plan comes to can be told
  without looking at its events.
-/
import Shakedown.Proofs.Plan.Trace

namespace Shakedown

variable {σ α β : Type}

/-- A time, and what an API remembers by then. -/
structure Standing (σ : Type) where
  now : Nat
  state : σ

namespace Standing

/-- Some time later, with no call made in between. -/
def later (p : Standing σ) (length : Nat) : Standing σ :=
  ⟨p.now + length, p.state⟩

/-- Where a call leaves an API, some time after it was made. -/
def afterCall (p : Standing σ) (api : Api σ) (c : Call) (taken : Nat) : Standing σ :=
  ⟨p.now + taken, (api.answer p.state p.now c).2⟩

end Standing

/-! ## Calls and their answers -/

namespace Api

/-- A call made at `p` is answered with `r`, and the answer is there at `q`. -/
def Answers (api : Api σ) (p : Standing σ) (c : Call) (r : c.Result) (q : Standing σ) : Prop :=
  ∃ d, (api.answer p.state p.now c).1.delay = some d ∧
    (api.answer p.state p.now c).1.result = r ∧ q = p.afterCall api c d

/-- A call made at `p` is never answered. -/
def Ignores (api : Api σ) (p : Standing σ) (c : Call) : Prop :=
  (api.answer p.state p.now c).1.delay = none

/-- A call has one answer. -/
theorem Answers.unique {api : Api σ} {p q q' : Standing σ} {c : Call} {r r' : c.Result}
    (h : api.Answers p c r q) (h' : api.Answers p c r' q') : r = r' ∧ q = q' := by
  obtain ⟨d, hd, hr, rfl⟩ := h
  obtain ⟨d', hd', hr', rfl⟩ := h'
  have heq : d = d' := Option.some.inj (hd.symm.trans hd')
  exact ⟨hr.symm.trans hr', by rw [heq]⟩

/-- A call is answered, or it is not. -/
theorem answers_or_ignores (api : Api σ) (p : Standing σ) (c : Call) :
    (∃ r q, api.Answers p c r q) ∨ api.Ignores p c := by
  cases h : (api.answer p.state p.now c).1.delay with
  | none => exact Or.inr h
  | some d => exact Or.inl ⟨_, _, d, h, rfl, rfl⟩

/-- A call made at `p` with a limit comes to `r` at `q`: an answer that is there
by the limit, or nothing when the limit is over. -/
def AnswersWithin (api : Api σ) (p : Standing σ) (limit : Nat) (c : Call)
    (r : Option c.Result) (q : Standing σ) : Prop :=
  ((api.answer p.state p.now c).1.within limit).2 = r ∧
    q = p.afterCall api c ((api.answer p.state p.now c).1.within limit).1

theorem answersWithin_some_iff {api : Api σ} {p q : Standing σ} {limit : Nat} {c : Call}
    {r : c.Result} :
    api.AnswersWithin p limit c (some r) q ↔ api.Answers p c r q ∧ q.now ≤ p.now + limit := by
  unfold AnswersWithin Answers Answer.within
  cases h : (api.answer p.state p.now c).1.delay with
  | none =>
    constructor
    · rintro ⟨hr, -⟩
      exact nomatch hr
    · rintro ⟨⟨d, hd, -⟩, -⟩
      exact nomatch hd
  | some d =>
    dsimp only
    split
    · rename_i hle
      constructor
      · rintro ⟨hr, rfl⟩
        exact ⟨⟨d, rfl, Option.some.inj hr, rfl⟩, Nat.add_le_add_left hle _⟩
      · rintro ⟨⟨d', hd, hr, rfl⟩, -⟩
        obtain rfl := Option.some.inj hd
        exact ⟨congrArg some hr, rfl⟩
    · rename_i hgt
      constructor
      · rintro ⟨hr, -⟩
        exact nomatch hr
      · rintro ⟨⟨d', hd, -, rfl⟩, hle⟩
        obtain rfl := Option.some.inj hd
        exact absurd (Nat.le_of_add_le_add_left hle) hgt

/-- A call with a limit comes to nothing when every answer to it is late. -/
theorem answersWithin_none_iff {api : Api σ} {p q : Standing σ} {limit : Nat} {c : Call} :
    api.AnswersWithin p limit c none q ↔
      (∀ r q', api.Answers p c r q' → p.now + limit < q'.now) ∧ q = p.afterCall api c limit := by
  unfold AnswersWithin Answers Answer.within
  cases h : (api.answer p.state p.now c).1.delay with
  | none =>
    constructor
    · rintro ⟨-, rfl⟩
      exact ⟨fun r q' ⟨d, hd, _⟩ => (nomatch hd), rfl⟩
    · rintro ⟨-, rfl⟩
      exact ⟨rfl, rfl⟩
  | some d =>
    dsimp only
    split
    · rename_i hle
      constructor
      · rintro ⟨hr, -⟩
        exact nomatch hr
      · rintro ⟨hlate, -⟩
        have hlt := hlate _ _ ⟨d, rfl, rfl, rfl⟩
        exact absurd (Nat.lt_of_add_lt_add_left hlt) (Nat.not_lt.mpr hle)
    · rename_i hgt
      constructor
      · rintro ⟨-, rfl⟩
        refine ⟨?_, rfl⟩
        rintro r q' ⟨d', hd, -, rfl⟩
        obtain rfl := Option.some.inj hd
        exact Nat.add_lt_add_left (Nat.not_le.mp hgt) _
      · rintro ⟨-, rfl⟩
        exact ⟨rfl, rfl⟩

/-- A call with a limit always comes to something. -/
theorem answersWithin_exists (api : Api σ) (p : Standing σ) (limit : Nat) (c : Call) :
    ∃ r q, api.AnswersWithin p limit c r q :=
  ⟨_, _, rfl, rfl⟩

end Api

/-! ## Outcomes -/

namespace Trace

/-- What a trace that starts in a state ends with, and where. -/
def outcome? (api : Api σ) (s : σ) (t : Trace α) : Option (α × Standing σ) :=
  t.ending.map fun e => (e.2, ⟨e.1, api.after s t.calls⟩)

theorem outcome?_eq_none_iff {api : Api σ} {s : σ} {t : Trace α} :
    t.outcome? api s = none ↔ t.ending = none :=
  Option.map_eq_none_iff

theorem outcome?_of_ending {api : Api σ} {s : σ} {t : Trace α} {now : Nat} {a : α}
    (h : t.ending = some (now, a)) :
    t.outcome? api s = some (a, ⟨now, api.after s t.calls⟩) := by
  rw [outcome?, h]
  rfl

theorem ending_of_outcome? {api : Api σ} {s : σ} {t : Trace α} {a : α} {q : Standing σ}
    (h : t.outcome? api s = some (a, q)) :
    t.ending = some (q.now, a) ∧ api.after s t.calls = q.state := by
  obtain ⟨⟨now, b⟩, he, heq⟩ := Option.map_eq_some_iff.mp h
  obtain ⟨rfl, rfl⟩ := Prod.mk.inj heq
  exact ⟨he, rfl⟩

theorem outcome?_prepend (api : Api σ) (s : σ) (events : List Event) (t : Trace α) :
    (t.prepend events).outcome? api s = t.outcome? api (api.after s (callsOf events)) := by
  simp only [outcome?, prepend_ending, prepend_calls, Api.after_append]

theorem outcome?_map (api : Api σ) (s : σ) (f : α → β) (t : Trace α) :
    (t.map f).outcome? api s = (t.outcome? api s).map fun x => (f x.1, x.2) := by
  simp only [outcome?, map_ending, map_calls, Option.map_map]
  rfl

/-- What follows the end of a trace starts where the trace got to. -/
theorem outcome?_andThen (api : Api σ) (s : σ) (t : Trace α) (next : Nat → α → Trace β) :
    (t.andThen next).outcome? api s =
      (t.outcome? api s).bind fun x => (next x.2.now x.1).outcome? api x.2.state := by
  cases h : t.ending with
  | none =>
    rw [andThen_of_none h, outcome?_eq_none_iff.mpr h]
    rfl
  | some e =>
    obtain ⟨now, a⟩ := e
    rw [andThen_of_some h, outcome?_prepend, outcome?_of_ending h]
    rfl

end Trace

namespace Plan

/-- What a plan started at a standing comes to, and where. -/
def outcome? (api : Api σ) (plan : Plan α) (p : Standing σ) : Option (α × Standing σ) :=
  (plan.trace api p.now p.state).outcome? api p.state

@[simp] theorem outcome?_done (api : Api σ) (a : α) (p : Standing σ) :
    (Plan.done a).outcome? api p = some (a, p) := by
  rw [outcome?, trace_done]
  rfl

theorem outcome?_pause (api : Api σ) (length : Nat) (next : Plan α) (p : Standing σ) :
    (Plan.pause length next).outcome? api p = next.outcome? api (p.later length) := by
  rw [outcome?, trace_pause, Trace.outcome?_prepend]
  rfl

theorem outcome?_ask_of_answers {api : Api σ} {p q : Standing σ} {c : Call} {r : c.Result}
    (h : api.Answers p c r q) (next : c.Result → Plan α) :
    (Plan.ask c next).outcome? api p = (next r).outcome? api q := by
  obtain ⟨d, hd, rfl, rfl⟩ := h
  rw [outcome?, trace_ask_of_some hd, Trace.outcome?_prepend, callsOf_call, callsOf_waitEvents]
  rfl

theorem outcome?_ask_of_ignores {api : Api σ} {p : Standing σ} {c : Call}
    (h : api.Ignores p c) (next : c.Result → Plan α) :
    (Plan.ask c next).outcome? api p = none := by
  rw [outcome?, trace_ask_of_none h]
  rfl

/-- A plan that goes on with another starts the other where it got to itself. -/
theorem outcome?_bind (api : Api σ) (plan : Plan α) (f : α → Plan β) (p : Standing σ) :
    (plan.bind f).outcome? api p =
      (plan.outcome? api p).bind fun x => (f x.1).outcome? api x.2 := by
  rw [outcome?, trace_bind, Trace.outcome?_andThen]
  cases h : plan.outcome? api p with
  | none =>
    rw [outcome?] at h
    rw [h]
    rfl
  | some x =>
    obtain ⟨a, q⟩ := x
    obtain ⟨-, hstate⟩ := Trace.ending_of_outcome? h
    rw [outcome?] at h
    rw [h, Option.bind_some, Option.bind_some, hstate]
    rfl

end Plan

end Shakedown
