/-
  Shakedown.Proofs.Plan.Log

  What is true of every call when it starts.  A log is the calls made so far;
  a plan keeps a rule if every call it makes is allowed by the log at that
  time.  The rules below follow the constructors of plans, with the log and
  the time threaded through, so that a whole run is checked one step at a
  time.
-/
import Shakedown.Proofs.Plan.Course

namespace Shakedown

variable {σ α β : Type} {api : Api σ} {s₀ : σ} {log : List TimedCall}
  {P P' : List TimedCall → TimedCall → Prop}

/-! ## Logs and rules -/

/-- Each of some calls is allowed by the log in front of it. -/
def Lawful (P : List TimedCall → TimedCall → Prop) : (log calls : List TimedCall) → Prop
  | _, [] => True
  | log, c :: rest => P log c ∧ Lawful P (log ++ [c]) rest

theorem lawful_append {xs ys : List TimedCall} :
    Lawful P log (xs ++ ys) ↔ Lawful P log xs ∧ Lawful P (log ++ xs) ys := by
  induction xs generalizing log with
  | nil => simp only [List.nil_append, Lawful, List.append_nil, true_and]
  | cons c rest ih =>
    rw [List.cons_append, Lawful, Lawful, ih, and_assoc, List.append_assoc, List.singleton_append]

/-- The first calls of all are allowed if all are. -/
theorem Lawful.of_prefix {xs ys : List TimedCall} (h : Lawful P log ys) (hpre : xs <+: ys) :
    Lawful P log xs := by
  obtain ⟨rest, rfl⟩ := hpre
  exact (lawful_append.mp h).1

theorem Lawful.allowed {before rest : List TimedCall} {c : TimedCall}
    (h : Lawful P log (before ++ c :: rest)) : P (log ++ before) c :=
  (lawful_append.mp h).2.1

theorem Lawful.mono {calls : List TimedCall} (h : Lawful P log calls)
    (himp : ∀ before c, P before c → P' before c) : Lawful P' log calls := by
  induction calls generalizing log with
  | nil => exact trivial
  | cons c rest ih => exact ⟨himp log c h.1, ih h.2⟩

/-! ## What a log tells -/

/-- By a time, a call in a log was answered with `r`. -/
def Api.Told (api : Api σ) (s₀ : σ) (log : List TimedCall) (now : Nat) (c : Call)
    (r : c.Result) : Prop :=
  ∃ before t rest q, log = before ++ ⟨t, c⟩ :: rest ∧
    api.Answers ⟨t, api.after s₀ before⟩ c r q ∧ q.now ≤ now

theorem Api.Answers.told {c : Call} {r : c.Result} {now : Nat} {q : Standing σ}
    (h : api.Answers ⟨now, api.after s₀ log⟩ c r q) :
    api.Told s₀ (log ++ [⟨now, c⟩]) q.now c r :=
  ⟨log, now, [], q, rfl, h, Nat.le_refl _⟩

/-- What was told once stays told. -/
theorem Api.Told.mono {c : Call} {r : c.Result} {now later : Nat}
    (h : api.Told s₀ log now c r) (more : List TimedCall) (hle : now ≤ later) :
    api.Told s₀ (log ++ more) later c r := by
  obtain ⟨before, t, rest, q, rfl, hanswers, hq⟩ := h
  refine ⟨before, t, rest ++ more, q, ?_, hanswers, Nat.le_trans hq hle⟩
  rw [List.append_assoc, List.cons_append]

theorem Api.Answers.le {p q : Standing σ} {c : Call} {r : c.Result}
    (h : api.Answers p c r q) : p.now ≤ q.now := by
  obtain ⟨d, -, -, rfl⟩ := h
  exact Nat.le_add_right _ _

/-! ## Traces -/

/-- All calls of a trace are allowed, and at its end `Q` holds of what it ends
with, the log and the time. -/
structure Trace.Keeps (P : List TimedCall → TimedCall → Prop)
    (Q : α → List TimedCall → Nat → Prop) (log : List TimedCall) (t : Trace α) : Prop where
  calls : Lawful P log t.calls
  ending : ∀ now a, t.ending = some (now, a) → Q a (log ++ t.calls) now

namespace Trace

variable {Q : α → List TimedCall → Nat → Prop} {R : β → List TimedCall → Nat → Prop}

theorem Keeps.prepend {events : List Event} {t : Trace α}
    (hevents : Lawful P log (callsOf events)) (h : t.Keeps P Q (log ++ callsOf events)) :
    (t.prepend events).Keeps P Q log where
  calls := by
    rw [prepend_calls]
    exact lawful_append.mpr ⟨hevents, h.calls⟩
  ending now a hend := by
    rw [prepend_calls, ← List.append_assoc]
    exact h.ending now a hend

/-- What follows a trace starts with the log and the time that it ends with. -/
theorem Keeps.andThen {t : Trace α} {next : Nat → α → Trace β} (h : t.Keeps P Q log)
    (hnext : ∀ now a, Q a (log ++ t.calls) now → (next now a).Keeps P R (log ++ t.calls)) :
    (t.andThen next).Keeps P R log := by
  cases hend : t.ending with
  | none =>
    rw [andThen_of_none hend]
    exact ⟨h.calls, nofun⟩
  | some e =>
    obtain ⟨now, a⟩ := e
    rw [andThen_of_some hend]
    exact .prepend h.calls (hnext now a (h.ending now a hend))

/-- A trace that has ended makes no calls. -/
theorem keeps_ended {now : Nat} {a : α} (h : Q a log now) :
    (Trace.mk [] (some (now, a))).Keeps P Q log where
  calls := trivial
  ending now' a' hend := by
    obtain ⟨rfl, rfl⟩ := Prod.mk.inj (Option.some.inj hend)
    rw [calls_mk, callsOf_nil, List.append_nil]
    exact h

end Trace

/-! ## Plans -/

namespace Plan

variable {Q : α → List TimedCall → Nat → Prop} {R : β → List TimedCall → Nat → Prop} {now : Nat}

/-- Started with a log at a time, a plan makes only calls that are allowed and ends
with `Q`. -/
def Keeps (api : Api σ) (s₀ : σ) (P : List TimedCall → TimedCall → Prop)
    (Q : α → List TimedCall → Nat → Prop) (log : List TimedCall) (now : Nat)
    (plan : Plan α) : Prop :=
  (plan.trace api now (api.after s₀ log)).Keeps P Q log

theorem keeps_done {a : α} (h : Q a log now) : (Plan.done a).Keeps api s₀ P Q log now := by
  rw [Keeps, trace_done]
  exact Trace.keeps_ended h

theorem keeps_pause {length : Nat} {next : Plan α}
    (h : next.Keeps api s₀ P Q log (now + length)) :
    (Plan.pause length next).Keeps api s₀ P Q log now := by
  rw [Keeps, trace_pause]
  refine .prepend trivial ?_
  rw [callsOf_wait, callsOf_nil, List.append_nil]
  exact h

/-- A call is to be allowed, and what follows its answer has the call in its log. -/
theorem keeps_ask {c : Call} {next : c.Result → Plan α} (hc : P log ⟨now, c⟩)
    (h : ∀ r q, api.Answers ⟨now, api.after s₀ log⟩ c r q →
      (next r).Keeps api s₀ P Q (log ++ [⟨now, c⟩]) q.now) :
    (Plan.ask c next).Keeps api s₀ P Q log now := by
  rw [Keeps]
  -- The call is made whether or not it is ever answered.
  cases hd : (api.answer (api.after s₀ log) now c).1.delay with
  | none =>
    rw [trace_ask_of_none hd]
    exact ⟨⟨hc, trivial⟩, nofun⟩
  | some d =>
    -- The state after the longer log is the one that the call left.
    have hnext := h _ _ ⟨d, hd, rfl, rfl⟩
    rw [Keeps, Api.after_snoc] at hnext
    rw [trace_ask_of_some hd]
    refine .prepend ?_ ?_
    · rw [callsOf_ask]
      exact ⟨hc, trivial⟩
    · rw [callsOf_ask]
      exact hnext

theorem keeps_askWithin {limit : Nat} {c : Call} {next : Option c.Result → Plan α}
    (hc : P log ⟨now, c⟩)
    (h : ∀ r later, (next r).Keeps api s₀ P Q (log ++ [⟨now, c⟩]) later) :
    (Plan.askWithin limit c next).Keeps api s₀ P Q log now := by
  rw [Keeps, trace_askWithin]
  have hnext := h ((api.answer (api.after s₀ log) now c).1.within limit).2
    (now + ((api.answer (api.after s₀ log) now c).1.within limit).1)
  rw [Keeps, Api.after_snoc] at hnext
  refine .prepend ?_ ?_
  · rw [callsOf_ask]
    exact ⟨hc, trivial⟩
  · rw [callsOf_ask]
    exact hnext

theorem keeps_bind {plan : Plan α} {f : α → Plan β} (h : plan.Keeps api s₀ P Q log now)
    (hf : ∀ a log' later, Q a log' later → (f a).Keeps api s₀ P R log' later) :
    (plan.bind f).Keeps api s₀ P R log now := by
  rw [Keeps, trace_bind]
  refine Trace.Keeps.andThen h ?_
  intro later a hQ
  have hnext := hf a _ later hQ
  rw [Keeps, Api.after_append] at hnext
  exact hnext

end Plan

end Shakedown
