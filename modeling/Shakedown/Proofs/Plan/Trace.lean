/-
  Shakedown.Proofs.Plan.Trace

  The laws of traces: what putting events in front of a trace, following it
  with another and cutting it at a deadline do to its calls and its ending,
  and the equations of the trace of a plan.

  The main law is `trace_bind`: a plan that goes on with another leaves the
  trace of the first followed by that of the second, started at the time at
  which the first ended and with the calls of the first made.
-/
import Shakedown.Plan

namespace Shakedown

variable {σ α β γ : Type}

/-! ## Calls among events -/

/-- The calls of some events. -/
def callsOf (events : List Event) : List TimedCall :=
  events.filterMap Event.call?

@[simp] theorem callsOf_nil : callsOf [] = [] := rfl

@[simp] theorem callsOf_call (t : Nat) (c : Call) (events : List Event) :
    callsOf (.call t c :: events) = ⟨t, c⟩ :: callsOf events := rfl

@[simp] theorem callsOf_wait (t : Nat) (length : Option Nat) (events : List Event) :
    callsOf (.wait t length :: events) = callsOf events := rfl

@[simp] theorem callsOf_append (xs ys : List Event) :
    callsOf (xs ++ ys) = callsOf xs ++ callsOf ys :=
  List.filterMap_append

@[simp] theorem callsOf_waitEvents (now length : Nat) :
    callsOf (Plan.waitEvents now length) = [] := by
  unfold Plan.waitEvents
  split <;> rfl

/-- A call and the wait for its answer. -/
theorem callsOf_ask (now : Nat) (c : Call) (length : Nat) :
    callsOf (.call now c :: Plan.waitEvents now length) = [⟨now, c⟩] := by
  rw [callsOf_call, callsOf_waitEvents]

theorem callsOf_cons (e : Event) (events : List Event) :
    callsOf (e :: events) = e.call?.toList ++ callsOf events := by
  cases e <;> rfl

namespace Api

@[simp] theorem after_cons (api : Api σ) (s : σ) (c : TimedCall) (cs : List TimedCall) :
    api.after s (c :: cs) = api.after (api.answer s c.time c.call).2 cs := rfl

theorem after_snoc (api : Api σ) (s : σ) (cs : List TimedCall) (c : TimedCall) :
    api.after s (cs ++ [c]) = (api.answer (api.after s cs) c.time c.call).2 := by
  rw [after_append]
  rfl

end Api

/-! ## Traces -/

namespace Trace

@[simp] theorem calls_mk (events : List Event) (ending : Option (Nat × α)) :
    (Trace.mk events ending).calls = callsOf events := rfl

@[simp] theorem prepend_ending (events : List Event) (t : Trace α) :
    (t.prepend events).ending = t.ending := rfl

@[simp] theorem prepend_calls (events : List Event) (t : Trace α) :
    (t.prepend events).calls = callsOf events ++ t.calls :=
  callsOf_append events t.events

@[simp] theorem prepend_prepend (xs ys : List Event) (t : Trace α) :
    (t.prepend ys).prepend xs = t.prepend (xs ++ ys) := by
  simp only [prepend, List.append_assoc]

@[simp] theorem map_calls (f : α → β) (t : Trace α) : (t.map f).calls = t.calls := rfl

@[simp] theorem map_ending (f : α → β) (t : Trace α) :
    (t.map f).ending = t.ending.map fun e => (e.1, f e.2) := rfl

/-- A trace that never ends is followed by nothing. -/
theorem andThen_of_none {t : Trace α} (h : t.ending = none) (next : Nat → α → Trace β) :
    t.andThen next = ⟨t.events, none⟩ := by
  rw [andThen, h]

/-- A trace that ends is followed by what goes on from its end. -/
theorem andThen_of_some {t : Trace α} {now : Nat} {a : α} (h : t.ending = some (now, a))
    (next : Nat → α → Trace β) : t.andThen next = (next now a).prepend t.events := by
  rw [andThen, h]

theorem prepend_andThen (events : List Event) (t : Trace α) (next : Nat → α → Trace β) :
    (t.prepend events).andThen next = (t.andThen next).prepend events := by
  cases h : t.ending with
  | none =>
    rw [andThen_of_none h, andThen_of_none (t := t.prepend events) h]
    rfl
  | some e =>
    obtain ⟨now, a⟩ := e
    rw [andThen_of_some h, andThen_of_some (t := t.prepend events) h, prepend_prepend]
    rfl

/-- What holds of the calls of a trace and of what follows it holds of all. -/
theorem forall_calls_andThen {Q : TimedCall → Prop} {t : Trace α} {next : Nat → α → Trace β}
    (h : ∀ c ∈ t.calls, Q c) (hnext : ∀ now a, ∀ c ∈ (next now a).calls, Q c) :
    ∀ c ∈ (t.andThen next).calls, Q c := by
  cases hend : t.ending with
  | none =>
    rw [andThen_of_none hend]
    exact h
  | some e =>
    obtain ⟨now, a⟩ := e
    rw [andThen_of_some hend, prepend_calls]
    intro c hc
    rcases List.mem_append.mp hc with hc | hc
    · exact h c hc
    · exact hnext now a c hc

theorem map_andThen (f : α → β) (t : Trace α) (next : Nat → β → Trace γ) :
    (t.map f).andThen next = t.andThen fun now a => next now (f a) := by
  cases h : t.ending with
  | none =>
    rw [andThen_of_none h, andThen_of_none (t := t.map f) (by rw [map_ending, h]; rfl)]
    rfl
  | some e =>
    obtain ⟨now, a⟩ := e
    rw [andThen_of_some h, andThen_of_some (t := t.map f) (by rw [map_ending, h]; rfl)]
    rfl

/-! ## Cutting a trace at a deadline -/

/-- The calls before a deadline are the first calls of all. -/
theorem callsOf_eventsBefore_prefix (deadline : Nat) (events : List Event) :
    callsOf (eventsBefore deadline events) <+: callsOf events := by
  induction events with
  | nil => exact List.prefix_rfl
  | cons e rest ih =>
    cases e with
    -- A call that is too late ends the events, and so may a wait; neither adds a call.
    | call t c =>
      rw [eventsBefore.eq_def]
      dsimp only
      split
      · exact List.cons_prefix_cons.mpr ⟨rfl, ih⟩
      · exact List.nil_prefix
    | wait t length =>
      rw [eventsBefore.eq_def]
      dsimp only
      split
      · cases length with
        | none => exact List.nil_prefix
        | some l =>
          dsimp only
          split
          · exact ih
          · exact List.nil_prefix
      · exact List.nil_prefix

end Trace

/-! ## Traces of plans -/

/-- How long a call with a limit takes and what it comes to: an answer that is
there by the limit, or nothing once the limit is over. -/
def Answer.within {c : Call} (a : Answer c) (limit : Nat) : Nat × Option c.Result :=
  match a.delay with
  | some d => if d ≤ limit then (d, some a.result) else (limit, none)
  | none => (limit, none)

namespace Plan

@[simp] theorem trace_done (api : Api σ) (a : α) (now : Nat) (s : σ) :
    (Plan.done a).trace api now s = ⟨[], some (now, a)⟩ := by
  rw [Plan.trace]

theorem trace_pause (api : Api σ) (length : Nat) (next : Plan α) (now : Nat) (s : σ) :
    (Plan.pause length next).trace api now s =
      (next.trace api (now + length) s).prepend [.wait now (some length)] := by
  rw [Plan.trace]

/-- A call that is never answered is all that happens from then on. -/
theorem trace_ask_of_none {api : Api σ} {c : Call} {now : Nat} {s : σ}
    (h : (api.answer s now c).1.delay = none) (next : c.Result → Plan α) :
    (Plan.ask c next).trace api now s = ⟨[.call now c, .wait now none], none⟩ := by
  rw [Plan.trace]
  simp only [h]

theorem trace_ask_of_some {api : Api σ} {c : Call} {now : Nat} {s : σ} {d : Nat}
    (h : (api.answer s now c).1.delay = some d) (next : c.Result → Plan α) :
    (Plan.ask c next).trace api now s =
      ((next (api.answer s now c).1.result).trace api (now + d) (api.answer s now c).2).prepend
        (.call now c :: waitEvents now d) := by
  rw [Plan.trace]
  simp only [h]

theorem trace_askWithin (api : Api σ) (limit : Nat) (c : Call)
    (next : Option c.Result → Plan α) (now : Nat) (s : σ) :
    (Plan.askWithin limit c next).trace api now s =
      ((next ((api.answer s now c).1.within limit).2).trace api
        (now + ((api.answer s now c).1.within limit).1) (api.answer s now c).2).prepend
        (.call now c :: waitEvents now ((api.answer s now c).1.within limit).1) := by
  rw [Plan.trace]
  rfl

/-- Going on with another plan is following the trace with that of the other. -/
theorem trace_bind (api : Api σ) (p : Plan α) (f : α → Plan β) (now : Nat) (s : σ) :
    (p.bind f).trace api now s = (p.trace api now s).andThen fun later a =>
      (f a).trace api later (api.after s (p.trace api now s).calls) := by
  -- Each constructor puts its own events in front of the trace of what follows, and `andThen`
  -- leaves events in front alone.
  induction p generalizing now s with
  | done a =>
    rw [bind, trace_done, Trace.andThen_of_some rfl]
    rfl
  | ask c next ih =>
    rw [bind]
    cases h : (api.answer s now c).1.delay with
    | none =>
      rw [trace_ask_of_none h, trace_ask_of_none h]
      rfl
    | some d =>
      rw [trace_ask_of_some h, trace_ask_of_some h, ih, Trace.prepend_andThen]
      simp only [Trace.prepend_calls, callsOf_call, callsOf_waitEvents, List.cons_append,
        List.nil_append, Api.after_cons]
  | askWithin limit c next ih =>
    rw [bind, trace_askWithin, trace_askWithin, ih, Trace.prepend_andThen]
    simp only [Trace.prepend_calls, callsOf_call, callsOf_waitEvents, List.cons_append,
      List.nil_append, Api.after_cons]
  | pause length next ih =>
    rw [bind, trace_pause, trace_pause, ih, Trace.prepend_andThen]
    simp only [Trace.prepend_calls, callsOf_wait, callsOf_nil, List.nil_append]

end Plan

end Shakedown
