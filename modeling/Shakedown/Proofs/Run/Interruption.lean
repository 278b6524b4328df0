/-
  Shakedown.Proofs.Run.Interruption

  Cancelling a run only cuts it short.  The events of the cut run are the
  first ones of the whole run, up to the wait at which the interruption is
  noticed, so its calls are the first calls; and a run that waits once more
  after the interruption came does notice it.
-/
import Shakedown.Proofs.Run.Execution

namespace Shakedown

variable {σ α : Type}

namespace Interruption

/-! ## Where an interruption is noticed -/

/-- Up to the next wait, a run makes the calls it would make anyway. -/
theorem calls_of_atNextWait? {events es : List Event} {time : Nat}
    (h : atNextWait? events = some (es, time)) : callsOf es <+: callsOf events := by
  induction events generalizing es time with
  | nil => exact nomatch h
  | cons e rest ih =>
    cases e with
    | wait t length =>
      obtain ⟨rfl, -⟩ := Prod.mk.inj (Option.some.inj h)
      exact List.nil_prefix
    | call t c =>
      rw [atNextWait?] at h
      obtain ⟨⟨es', t'⟩, hrest, heq⟩ := Option.map_eq_some_iff.mp h
      obtain ⟨rfl, -⟩ := Prod.mk.inj heq
      exact List.cons_prefix_cons.mpr ⟨rfl, ih hrest⟩

/-- The next wait is noticed with the calls before it made, and no others. -/
theorem atNextWait?_of_wait (before after : List Event) {w : Event} (hw : w.isWait = true) :
    ∃ es time, atNextWait? (before ++ w :: after) = some (es, time) ∧
      callsOf es <+: callsOf before := by
  induction before with
  | nil =>
    cases w with
    | call t c => exact nomatch hw
    | wait t length => exact ⟨_, _, rfl, List.nil_prefix⟩
  | cons e rest ih =>
    cases e with
    | wait t length => exact ⟨_, _, rfl, List.nil_prefix⟩
    | call t c =>
      obtain ⟨es, time, hes, hpre⟩ := ih
      refine ⟨.call t c :: es, time, ?_, List.cons_prefix_cons.mpr ⟨rfl, hpre⟩⟩
      rw [List.cons_append, atNextWait?, hes]
      rfl

theorem calls_of_noticed? {into n : Nat} {events es : List Event} {time : Nat}
    (h : noticed? into n events = some (es, time)) : callsOf es <+: callsOf events := by
  induction events generalizing n es time with
  | nil => cases n <;> exact nomatch h
  | cons e rest ih =>
    cases n with
    | zero =>
      cases e with
      | wait t length =>
        obtain ⟨rfl, -⟩ := Prod.mk.inj (Option.some.inj h)
        exact List.nil_prefix
      | call t c => exact calls_of_atNextWait? h
    | succ n =>
      rw [noticed?] at h
      obtain ⟨⟨es', t'⟩, hrest, heq⟩ := Option.map_eq_some_iff.mp h
      obtain ⟨rfl, -⟩ := Prod.mk.inj heq
      rw [callsOf_cons, callsOf_cons]
      exact (List.prefix_append_right_inj _).mpr (ih hrest)

/-- An interruption that comes no later than the start of a wait's events is
noticed, at the latest, at that wait. -/
theorem noticed?_of_wait {into n : Nat} {before after : List Event} {w : Event}
    (hw : w.isWait = true) (hn : n ≤ before.length) :
    ∃ es time, noticed? into n (before ++ w :: after) = some (es, time) ∧
      callsOf es <+: callsOf before := by
  -- On the events before the wait: either the interruption comes among them, and they may hold
  -- an earlier wait, or it comes at the wait itself.
  induction before generalizing n with
  | nil =>
    obtain rfl : n = 0 := Nat.le_zero.mp hn
    cases w with
    | call t c => exact nomatch hw
    | wait t length => exact ⟨_, _, rfl, List.nil_prefix⟩
  | cons e rest ih =>
    cases n with
    | zero =>
      cases e with
      | wait t length => exact ⟨_, _, rfl, List.nil_prefix⟩
      | call t c => exact atNextWait?_of_wait (.call t c :: rest) after hw
    | succ n =>
      obtain ⟨es, time, hes, hpre⟩ := ih (Nat.le_of_succ_le_succ hn)
      refine ⟨e :: es, time, ?_, ?_⟩
      · rw [List.cons_append, noticed?, hes]
        rfl
      · rw [callsOf_cons, callsOf_cons]
        exact (List.prefix_append_right_inj _).mpr hpre

/-! ## Traces cut short -/

theorem calls_of_cut? {i : Interruption} {start : Nat} {events es : List Event} {time : Nat}
    (h : i.cut? start events = some (es, time)) : callsOf es <+: callsOf events := by
  rw [cut?] at h
  split at h
  · obtain ⟨rfl, -⟩ := Prod.mk.inj (Option.some.inj h)
    exact List.nil_prefix
  · exact calls_of_noticed? h

/-- An interruption is noticed at the first wait that ends after it came. -/
theorem cut?_of_wait {i : Interruption} (start : Nat) {before : List Event} {w : Event}
    (after : List Event) (hw : w.isWait = true) (hi : i.events ≤ before.length + 1) :
    ∃ es time, i.cut? start (before ++ w :: after) = some (es, time) ∧
      callsOf es <+: callsOf before := by
  rw [cut?]
  split
  · exact ⟨[], start, rfl, List.nil_prefix⟩
  · rename_i n hn
    exact noticed?_of_wait hw (by omega)

theorem apply_of_cut? {i : Interruption} {start : Nat} {a : α} {t : Trace α} {es : List Event}
    {time : Nat} (h : i.cut? start t.events = some (es, time)) :
    apply (some i) start a t = ⟨es, some (time, a)⟩ := by
  rw [apply, Option.bind_some, h]

/-- A trace is left as it is, or it is cut short and ends with the interruption. -/
theorem apply_eq_or (i : Option Interruption) (start : Nat) (a : α) (t : Trace α) :
    apply i start a t = t ∨ ∃ es time, apply i start a t = ⟨es, some (time, a)⟩ ∧
      callsOf es <+: t.calls := by
  cases i with
  | none => exact Or.inl rfl
  | some i =>
    cases h : i.cut? start t.events with
    | none =>
      refine Or.inl ?_
      rw [apply, Option.bind_some, h]
    | some e => exact Or.inr ⟨e.1, e.2, apply_of_cut? h, calls_of_cut? h⟩

end Interruption

/-! ## Runs cut short -/

namespace Run

variable {api : Api σ} {config : RunParameters} {machine : Machine} {agent : LaunchedAgent}
  {clock : Nat → Moment} {s : σ}

/-- The cut run is the whole run, or it was interrupted among its first calls. -/
theorem supervise_eq_or (i : Option Interruption) :
    supervise api config machine agent clock i s = supervise api config machine agent clock none s ∨
      (supervise api config machine agent clock i s).result = some (.error .interrupted) ∧
        (supervise api config machine agent clock i s).calls <+:
          (supervise api config machine agent clock none s).calls := by
  rcases Interruption.apply_eq_or i 0 (.error .interrupted)
    (pipeline api config agent.process.exit? clock 0 s) with h | ⟨es, time, h, hpre⟩
  · have hstages : stages api config agent clock i s = stages api config agent clock none s := h
    refine Or.inl ?_
    rw [supervise, supervise, hstages]
  · have hstages : stages api config agent clock i s = ⟨es, some (time, .error .interrupted)⟩ := h
    refine Or.inr ⟨?_, ?_⟩
    · rw [supervise_result, hstages]
      rfl
    · rw [supervise_calls, supervise_calls, hstages]
      exact hpre

/-- A run with a cancellation is the whole run, or it was interrupted among the
first calls of the whole run. -/
theorem execute_eq_or (api : Api σ) (config : RunParameters) (machine : Machine)
    (clock : Nat → Moment) (s : σ) (c : Option Cancellation) :
    execute api config machine clock c s = execute api config machine clock none s ∨
      (execute api config machine clock c s).result = some (.error .interrupted) ∧
        (execute api config machine clock c s).calls <+:
          (execute api config machine clock none s).calls := by
  have hduring : ∀ i : Option Interruption,
      execute api config machine clock (i.map .during) s =
          execute api config machine clock none s ∨
        (execute api config machine clock (i.map .during) s).result =
            some (.error .interrupted) ∧
          (execute api config machine clock (i.map .during) s).calls <+:
            (execute api config machine clock none s).calls := by
    intro i
    rcases hlaunch : machine.launch config.launch 0 with ⟨after, f | agent⟩
    · refine Or.inl ?_
      rw [execute_of_launch_error api clock s hlaunch,
        execute_whole_of_launch_error api clock s hlaunch]
    · rw [execute_of_launched api clock s hlaunch, execute_whole_of_launched api clock s hlaunch]
      exact supervise_eq_or i
  cases c with
  | none => exact Or.inl rfl
  | some c =>
    -- A run cancelled beforehand makes no call at all.
    cases c with
    | beforehand => exact Or.inr ⟨rfl, List.nil_prefix⟩
    | during i => exact hduring (some i)

/-- A run that waits once more after an interruption came is interrupted there. -/
theorem execute_during_of_wait {i : Interruption} {before after : List Event} {w : Event}
    (hevents : (execute api config machine clock none s).stageEvents = before ++ w :: after)
    (hw : w.isWait = true) (hi : i.events ≤ before.length + 1) :
    (execute api config machine clock (some (.during i)) s).result =
        some (.error .interrupted) ∧
      (execute api config machine clock (some (.during i)) s).calls <+: callsOf before := by
  rcases hlaunch : machine.launch config.launch 0 with ⟨m, f | agent⟩
  · rw [execute_whole_of_launch_error api clock s hlaunch] at hevents
    exact absurd hevents.symm (List.append_ne_nil_of_right_ne_nil _ (List.cons_ne_nil w after))
  · have hcut : execute api config machine clock (some (.during i)) s =
        supervise api config m agent clock (some i) s :=
      execute_of_launched api clock s hlaunch (some i)
    rw [execute_whole_of_launched api clock s hlaunch, supervise_stageEvents] at hevents
    obtain ⟨es, time, hnoticed, hpre⟩ := Interruption.cut?_of_wait 0 after hw hi
    have hstages : stages api config agent clock (some i) s =
        ⟨es, some (time, .error .interrupted)⟩ :=
      Interruption.apply_of_cut? ((congrArg (i.cut? 0) hevents).trans hnoticed)
    rw [hcut, supervise_result, supervise_calls, hstages]
    exact ⟨rfl, hpre⟩

/-- Cancelling a run only cuts it short, whatever the API and the agent do and
whenever the cancellation comes.  The calls made are the first calls of the run
that nobody cancels, and the run is interrupted or is just that run.  It is
interrupted whenever the stages wait at all once the interruption has come, even
if that wait is over at the same time, and no call starts after that wait.  A run
cancelled beforehand launches nothing, leaves the machine as it was, makes no
call and does not arm the kill switch. -/
theorem cancellation_only_cuts (api : Api σ) (config : RunParameters) (machine : Machine)
    (clock : Nat → Moment) (s : σ) :
    (∀ c, (execute api config machine clock (some c) s).calls <+:
        (execute api config machine clock none s).calls ∧
      ((execute api config machine clock (some c) s).result = some (.error .interrupted) ∨
        execute api config machine clock (some c) s = execute api config machine clock none s)) ∧
    (∀ i before w after,
      (execute api config machine clock none s).stageEvents = before ++ w :: after →
      w.isWait = true → i.events ≤ before.length + 1 →
      (execute api config machine clock (some (.during i)) s).result =
          some (.error .interrupted) ∧
        (execute api config machine clock (some (.during i)) s).calls <+: callsOf before) ∧
    (execute api config machine clock (some .beforehand) s).result = some (.error .interrupted) ∧
    (execute api config machine clock (some .beforehand) s).steps = [] ∧
    (execute api config machine clock (some .beforehand) s).calls = [] ∧
    (execute api config machine clock (some .beforehand) s).machine = machine ∧
    (execute api config machine clock (some .beforehand) s).agent = none ∧
    ∀ held, Execution.armedAfter held
      (execute api config machine clock (some .beforehand) s).steps = held := by
  refine ⟨fun c => ?_, fun i before w after hevents hw hi => ?_, rfl, rfl, rfl, rfl, rfl,
    fun held => rfl⟩
  · rcases execute_eq_or api config machine clock s (some c) with h | ⟨hresult, hcalls⟩
    · have hcalls := congrArg Execution.calls h
      exact ⟨hcalls ▸ List.prefix_rfl, Or.inr h⟩
    · exact ⟨hcalls, Or.inl hresult⟩
  · exact execute_during_of_wait hevents hw hi

end Run

end Shakedown
