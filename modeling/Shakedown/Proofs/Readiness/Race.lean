/-
  Shakedown.Proofs.Readiness.Race

  The wait for readiness, told by two times: when the agent's exit is
  observed, if it ever is, and when the probe by itself would be over.  The
  exit wins if it is not the later of the two, and the probe is then cut
  where it stands, in the midst of a check or a pause.
-/
import Shakedown.Proofs.Plan.Timing
import Shakedown.Proofs.Readiness

namespace Shakedown.Readiness

variable {σ : Type} {now : Nat} {exit : Option (Nat × ProcessExit)} {probe : Trace ProbeVerdict}

/-- An exit that is not later than the end of the probe cuts the probe off: only the checks
that start before it are made. -/
theorem race_of_exit_le {time endsAt : Nat} {x : ProcessExit} {verdict : ProbeVerdict}
    (hfollow : Follow now probe.events) (hend : probe.ending = some (endsAt, verdict))
    (h : time ≤ endsAt) :
    (race now (some (time, x)) probe).ending =
        some (max now time, .error (.exitedEarly x)) ∧
      (race now (some (time, x)) probe).calls = probe.calls.filter fun c => c.time < time := by
  have hlate : ∀ later verdict', probe.ending = some (later, verdict') → time ≤ later := by
    intro later verdict' hend'
    obtain ⟨rfl, -⟩ := Prod.mk.inj (Option.some.inj (hend.symm.trans hend'))
    exact h
  rw [race_of_exited hlate]
  exact ⟨rfl, hfollow.callsOf_eventsBefore time⟩

/-- The race against an exit, told by when the exit is observed, and when and with what the
probe by itself is over, which it always is.  An exit that is observed by then is what the
wait comes to, at once if it has come before the wait: of the checks that the probe would
make, those that start before the exit are made.  Otherwise the wait comes to what the
probe does, and when the probe does.  So no check starts once the exit was observed,
none at all if it was observed before the wait, and an agent whose exit was observed by
the end of the wait is never told of as one that is merely not ready. -/
theorem await_course (api : Api σ) (adminToken : String) (schedule : ProbeSchedule)
    (exit : Option (Nat × ProcessExit)) (p : Standing σ) :
    let probe := (Probe.plan adminToken schedule).trace api p.now p.state
    let waiting := await api adminToken schedule exit p.now p.state
    ∃ endsAt verdict, probe.ending = some (endsAt, verdict) ∧
      (∀ time x, exit = some (time, x) → time ≤ endsAt →
        waiting.ending = some (max p.now time, .error (.exitedEarly x)) ∧
        waiting.calls = probe.calls.filter fun c => c.time < time) ∧
      ((∀ time x, exit = some (time, x) → endsAt < time) →
        (∀ k, verdict = .ready k → waiting.ending = some (endsAt, .ok k)) ∧
        (∀ n reason, verdict = .failed n reason →
          waiting.ending = some (endsAt, .error (.notReady n reason))) ∧
        waiting.calls = probe.calls) ∧
      ∀ time x, exit = some (time, x) →
        (∀ c ∈ waiting.calls, c.time < time) ∧ (time ≤ p.now → waiting.calls = []) ∧
        ∀ later n reason, waiting.ending = some (later, .error (.notReady n reason)) →
          later < time := by
  intro probe waiting
  have hfollow : Follow p.now probe.events := Plan.follow_trace api _ p.now p.state
  obtain ⟨verdict, q, hverdict⟩ := Probe.exists_comesTo api adminToken schedule p
  obtain ⟨hend, -⟩ := Trace.ending_of_outcome? (Probe.comesTo_iff.mp hverdict)
  have hexited : ∀ time x, exit = some (time, x) → time ≤ q.now →
      waiting.ending = some (max p.now time, .error (.exitedEarly x)) ∧
        waiting.calls = probe.calls.filter fun c => c.time < time := by
    rintro time x rfl hle
    exact race_of_exit_le hfollow hend hle
  have halive : (∀ time x, exit = some (time, x) → q.now < time) →
      waiting.ending = some (q.now, ofVerdict verdict) ∧ waiting.calls = probe.calls := by
    intro hlater
    have hwaiting : waiting = probe.map ofVerdict := race_of_ended hend hlater
    rw [hwaiting, Trace.map_ending, hend]
    exact ⟨rfl, rfl⟩
  refine ⟨q.now, verdict, hend, hexited, fun hlater => ?_, fun time x hexit => ?_⟩
  · obtain ⟨hending, hcalls⟩ := halive hlater
    refine ⟨?_, ?_, hcalls⟩
    · rintro k rfl
      exact hending
    · rintro n reason rfl
      exact hending
  · rcases Nat.lt_or_ge q.now time with hbefore | hle
    -- A probe that is over before the exit has made all its checks by then.
    · have hlater : ∀ time' x', exit = some (time', x') → q.now < time' := by
        intro time' x' hexit'
        obtain ⟨rfl, -⟩ := Prod.mk.inj (Option.some.inj (hexit.symm.trans hexit'))
        exact hbefore
      obtain ⟨hending, hcalls⟩ := halive hlater
      obtain ⟨hstart, hmade⟩ := Plan.le_of_ending hend
      rw [hcalls, hending]
      refine ⟨fun c hc => Nat.lt_of_le_of_lt (hmade c hc) hbefore, fun hpast => ?_, ?_⟩
      · omega
      · intro later n reason heq
        obtain ⟨rfl, -⟩ := Prod.mk.inj (Option.some.inj heq)
        exact hbefore
    · obtain ⟨hending, hcalls⟩ := hexited time x hexit hle
      rw [hcalls, hending]
      refine ⟨fun c hc => ?_, fun hpast => hfollow.filter_callsOf_of_le hpast, ?_⟩
      · simpa using (List.mem_filter.mp hc).2
      · intro later n reason heq
        exact nomatch heq

end Shakedown.Readiness
