/-
  Shakedown.Proofs.Run.Signals

  Signals that come while a run goes on.  The first of them asks the run to
  stop and every later one ends the harness; an agent that runs then has been
  killed, by the signal through the kill switch or by the cleanup before it.

  The one gap is between launching the agent and arming the switch: a harness
  that ends there leaves its agent behind.  The main statement says that there is
  no other.
-/
import Mathlib.Data.List.Induction
import Shakedown.Proofs.Agent.Cleanup
import Shakedown.Run.Lifecycle

namespace Shakedown

/-- What the harness does about so many signals. -/
def responsesTo : Nat → List SignalResponse
  | 0 => []
  | n + 1 => .stop :: List.replicate n .forceExit

theorem responsesTo_succ (n : Nat) :
    responsesTo (n + 1) = responsesTo n ++ [if 0 < n then .forceExit else .stop] := by
  cases n with
  | zero => rfl
  | succ n =>
    rw [if_pos (Nat.succ_pos n), responsesTo, responsesTo, List.cons_append, List.replicate_succ']

namespace LifecycleEvent

def isSignal : LifecycleEvent → Bool
  | .next _ _ => false
  | .signal => true

end LifecycleEvent

/-- How many signals are handled among some events. -/
def signalCount (events : List LifecycleEvent) : Nat :=
  events.countP LifecycleEvent.isSignal

theorem signalCount_snoc_next (events : List LifecycleEvent) (pid : Option Pid)
    (exit : ExitSighting) : signalCount (events ++ [.next pid exit]) = signalCount events := by
  rw [signalCount, List.countP_append]
  rfl

theorem signalCount_snoc_signal (events : List LifecycleEvent) :
    signalCount (events ++ [.signal]) = signalCount events + 1 := by
  rw [signalCount, List.countP_append]
  rfl

namespace Lifecycle

variable {l : Lifecycle} {pid : Pid}

/-- The agent runs as far as the harness can tell, and nobody has killed it. -/
def Orphaned (l : Lifecycle) : Prop :=
  ∃ pid, l.spawned = some pid ∧ l.exitSeen = false ∧ pid ∉ l.killed

/-- The agent is seen to: its exit was observed, or its group was killed. -/
def Settled (l : Lifecycle) : Prop :=
  ∀ pid, l.spawned = some pid → l.exitSeen = true ∨ pid ∈ l.killed

theorem Settled.not_orphaned (h : Settled l) : ¬Orphaned l := by
  rintro ⟨pid, hspawned, hexit, hkilled⟩
  rcases h pid hspawned with hseen | hmem
  · exact Bool.false_ne_true (hexit.symm.trans hseen)
  · exact hkilled hmem

theorem run_snoc (events : List LifecycleEvent) (e : LifecycleEvent) :
    run (events ++ [e]) = (run events).step e :=
  List.foldl_append

/-! ## What a signal does -/

/-- The first signal asks the run to stop. -/
theorem handleSignal_of_first (h : l.interrupts.seen = false) :
    l.handleSignal =
      { l with
        interrupts := { l.interrupts with seen := true, cancelled := true }
        responses := l.responses ++ [.stop] } := by
  unfold handleSignal InterruptState.signal
  simp only [h, Bool.false_eq_true, if_false, Option.toList_none, List.append_nil]

/-- A later one kills the group that is held. -/
theorem handleSignal_of_seen (h : l.interrupts.seen = true) :
    l.handleSignal =
      { l with
        killed := l.killed ++ l.interrupts.armed.toList
        responses := l.responses ++ [.forceExit] } := by
  unfold handleSignal InterruptState.signal
  simp only [h, if_true]

/-- The run itself goes on as if there had been no signal. -/
theorem handleSignal_run (l : Lifecycle) :
    l.handleSignal.phase = l.phase ∧ l.handleSignal.spawned = l.spawned ∧
      l.handleSignal.exitSeen = l.exitSeen ∧
      l.handleSignal.interrupts.armed = l.interrupts.armed := by
  cases h : l.interrupts.seen with
  | false =>
    rw [handleSignal_of_first h]
    exact ⟨rfl, rfl, rfl, rfl⟩
  | true =>
    rw [handleSignal_of_seen h]
    exact ⟨rfl, rfl, rfl, rfl⟩

/-- What was killed stays killed. -/
theorem mem_killed_handleSignal {l : Lifecycle} (h : pid ∈ l.killed) :
    pid ∈ l.handleSignal.killed := by
  cases hseen : l.interrupts.seen with
  | false =>
    rw [handleSignal_of_first hseen]
    exact h
  | true =>
    rw [handleSignal_of_seen hseen]
    exact List.mem_append_left _ h

/-- Without a group that is held, a signal kills nobody. -/
theorem handleSignal_killed_of_unarmed (h : l.interrupts.armed = none) :
    l.handleSignal.killed = l.killed := by
  cases hseen : l.interrupts.seen with
  | false => rw [handleSignal_of_first hseen]
  | true =>
    rw [handleSignal_of_seen hseen, h]
    exact List.append_nil l.killed

/-- An agent that is seen to stays so when a signal comes. -/
theorem Settled.handleSignal (h : Settled l) : Settled l.handleSignal := by
  obtain ⟨-, hspawned, hexit, -⟩ := l.handleSignal_run
  intro pid hpid
  rw [hspawned] at hpid
  rw [hexit]
  exact (h pid hpid).imp id mem_killed_handleSignal

/-! ## What the steps of a run keep -/

/-- What is known of the agent at each point of a run: before its launch there is
none; then it is there and not held; then it is held, until the cleanup is over;
and from the cleanup on it is seen to. -/
inductive Tracks (l : Lifecycle) : Prop where
  | unlaunched (hphase : l.phase = .start ∨ l.phase = .checked) (hspawned : l.spawned = none)
      (harmed : l.interrupts.armed = none) (hexit : l.exitSeen = false) (hkilled : l.killed = [])
  | launched {pid : Pid} (hphase : l.phase = .launched) (hspawned : l.spawned = some pid)
      (harmed : l.interrupts.armed = none) (hexit : l.exitSeen = false) (hkilled : l.killed = [])
  | held {pid : Pid} (hphase : l.phase = .armed ∨ l.phase = .staged)
      (hspawned : l.spawned = some pid) (harmed : l.interrupts.armed = some pid)
  | cleaned {pid : Pid} (hphase : l.phase = .cleaned) (hspawned : l.spawned = some pid)
      (harmed : l.interrupts.armed = some pid) (hsettled : Settled l)
  | ended (hphase : l.phase = .ended) (hsettled : Settled l)

/-- Nothing is known of an agent before there is one. -/
theorem settled_of_unspawned (h : l.spawned = none) : Settled l := by
  intro pid hpid
  exact nomatch h.symm.trans hpid

theorem Tracks.handleSignal (h : Tracks l) : Tracks l.handleSignal := by
  obtain ⟨hphase', hspawned', hexit', harmed'⟩ := l.handleSignal_run
  cases h with
  | unlaunched hphase hspawned harmed hexit hkilled =>
    exact .unlaunched (hphase' ▸ hphase) (hspawned' ▸ hspawned) (harmed' ▸ harmed)
      (hexit' ▸ hexit) ((handleSignal_killed_of_unarmed harmed).trans hkilled)
  | launched hphase hspawned harmed hexit hkilled =>
    exact .launched (hphase' ▸ hphase) (hspawned' ▸ hspawned) (harmed' ▸ harmed)
      (hexit' ▸ hexit) ((handleSignal_killed_of_unarmed harmed).trans hkilled)
  | held hphase hspawned harmed =>
    exact .held (hphase' ▸ hphase) (hspawned' ▸ hspawned) (harmed' ▸ harmed)
  | cleaned hphase hspawned harmed hsettled =>
    exact .cleaned (hphase' ▸ hphase) (hspawned' ▸ hspawned) (harmed' ▸ harmed)
      hsettled.handleSignal
  | ended hphase hsettled => exact .ended (hphase' ▸ hphase) hsettled.handleSignal

/-- The cleanup sees to the agent, whatever that does. -/
theorem settled_cleanUp (l : Lifecycle) (exit : ExitSighting) : Settled (l.cleanUp exit) := by
  unfold cleanUp
  split
  · exact fun pid hpid => Or.inl rfl
  · intro pid hpid
    refine Or.inr (List.mem_append_right _ ?_)
    rw [show l.spawned = some pid from hpid]
    exact List.mem_singleton_self pid

theorem cleanUp_run (l : Lifecycle) (exit : ExitSighting) :
    (l.cleanUp exit).phase = .cleaned ∧ (l.cleanUp exit).spawned = l.spawned ∧
      (l.cleanUp exit).interrupts = l.interrupts := by
  unfold cleanUp
  split <;> exact ⟨rfl, rfl, rfl⟩

/-- What the cleanup of an agent sees of its exit. -/
def sightingOf (p : AgentProcess) (now grace : Nat) : ExitSighting :=
  if (p.cleanup now grace).report.exit.isNone then .missed
  else if (p.cleanup now grace).report.forced then .onceKilled
  else .inTime

/-- The cleanup of an agent, whatever it does, is such a step: it kills the agent
exactly if it reports so, and observes the exit that it reports. -/
theorem cleanUp_sightingOf {p : AgentProcess} {now : Nat} (grace : Nat)
    (hspawned : l.spawned = some p.pid) (hexit : l.exitSeen = (p.exitBy now).isSome) :
    (l.cleanUp (sightingOf p now grace)).exitSeen =
        (p.cleanup now grace).report.exit.isSome ∧
      (l.cleanUp (sightingOf p now grace)).killed =
        l.killed ++ if (p.cleanup now grace).report.forced then [p.pid] else [] := by
  have hcourse := p.cleanup_course now grace
  unfold sightingOf
  generalize p.cleanup now grace = c at hcourse
  cases hcourse with
  | gone hgone hpast =>
    rw [AgentProcess.exitBy_of_le hgone hpast] at hexit
    exact ⟨by simp [cleanUp, hexit], by simp [cleanUp, hexit]⟩
  | stopped hruns hstop hintime => exact ⟨by simp [cleanUp], by simp [cleanUp]⟩
  | reaped hruns hlate hreaped hintime =>
    rw [hruns] at hexit
    exact ⟨by simp [cleanUp, hexit], by simp [cleanUp, hexit, hspawned]⟩
  | givenUp hruns hlate hunseen =>
    rw [hruns] at hexit
    exact ⟨by simp [cleanUp, hexit], by simp [cleanUp, hexit, hspawned]⟩

theorem Tracks.advance (h : Tracks l) (pid : Option Pid) (exit : ExitSighting) :
    Tracks (l.advance pid exit) := by
  -- Each phase has one next step, so what is known of it says what follows.
  cases h with
  | unlaunched hphase hspawned harmed hexit hkilled =>
    rcases hphase with hphase | hphase
    · simp only [Lifecycle.advance, hphase]
      split
      · exact .ended rfl (settled_of_unspawned hspawned)
      · exact .unlaunched (Or.inr rfl) hspawned harmed hexit hkilled
    · simp only [Lifecycle.advance, hphase]
      cases pid with
      | none => exact .ended rfl (settled_of_unspawned hspawned)
      | some pid => exact .launched rfl rfl harmed hexit hkilled
  | launched hphase hspawned harmed hexit hkilled =>
    simp only [Lifecycle.advance, hphase, hspawned]
    exact .held (Or.inl rfl) rfl rfl
  | held hphase hspawned harmed =>
    rcases hphase with hphase | hphase
    · simp only [Lifecycle.advance, hphase]
      exact .held (Or.inr rfl) hspawned harmed
    · simp only [Lifecycle.advance, hphase]
      obtain ⟨hphase', hspawned', hinterrupts⟩ := l.cleanUp_run exit
      refine .cleaned hphase' (hspawned'.trans hspawned) ?_ (l.settled_cleanUp exit)
      rw [hinterrupts, harmed]
  | cleaned hphase hspawned harmed hsettled =>
    simp only [Lifecycle.advance, hphase]
    exact .ended rfl hsettled
  | ended hphase hsettled =>
    simp only [Lifecycle.advance, hphase]
    exact .ended hphase hsettled

theorem Tracks.step (h : Tracks l) (e : LifecycleEvent) : Tracks (l.step e) := by
  cases e with
  | next pid exit => exact h.advance pid exit
  | signal => exact h.handleSignal

/-- At every point of every run the agent is kept track of. -/
theorem tracks_run (events : List LifecycleEvent) : Tracks (run events) := by
  -- From the end: what happens last keeps what was known before it.
  induction events using List.reverseRecOn with
  | nil => exact .unlaunched (Or.inl rfl) rfl rfl rfl rfl
  | append_singleton events e ih =>
    rw [run_snoc]
    exact ih.step e

/-! ## The responses -/

/-- The run's own steps say nothing about signals. -/
theorem advance_signals (l : Lifecycle) (pid : Option Pid) (exit : ExitSighting) :
    (l.advance pid exit).responses = l.responses ∧
      (l.advance pid exit).interrupts.seen = l.interrupts.seen ∧
      (l.advance pid exit).interrupts.cancelled = l.interrupts.cancelled := by
  unfold Lifecycle.advance
  split
  · exact ⟨rfl, rfl, rfl⟩
  · cases pid <;> exact ⟨rfl, rfl, rfl⟩
  · split <;> exact ⟨rfl, rfl, rfl⟩
  · exact ⟨rfl, rfl, rfl⟩
  · unfold cleanUp
    split <;> exact ⟨rfl, rfl, rfl⟩
  · exact ⟨rfl, rfl, rfl⟩
  · exact ⟨rfl, rfl, rfl⟩

/-- The signals handled so far tell what was done about them, and whether the run
was asked to stop. -/
theorem run_signals (events : List LifecycleEvent) :
    (run events).responses = responsesTo (signalCount events) ∧
      (run events).interrupts.seen = decide (0 < signalCount events) ∧
      (run events).interrupts.cancelled = decide (0 < signalCount events) := by
  induction events using List.reverseRecOn with
  | nil => exact ⟨rfl, rfl, rfl⟩
  | append_singleton events e ih =>
    obtain ⟨hresponses, hseen, hcancelled⟩ := ih
    rw [run_snoc]
    cases e with
    | next pid exit =>
      obtain ⟨hresponses', hseen', hcancelled'⟩ := (run events).advance_signals pid exit
      rw [signalCount_snoc_next]
      exact ⟨hresponses'.trans hresponses, hseen'.trans hseen, hcancelled'.trans hcancelled⟩
    | signal =>
      rw [signalCount_snoc_signal, decide_eq_true (Nat.succ_pos (signalCount events)),
        responsesTo_succ, Lifecycle.step]
      -- Whether another signal came before this one.
      by_cases hpos : 0 < signalCount events
      · rw [decide_eq_true hpos] at hseen hcancelled
        rw [handleSignal_of_seen hseen, if_pos hpos, ← hresponses]
        exact ⟨rfl, hseen, hcancelled⟩
      · rw [decide_eq_false hpos] at hseen
        rw [handleSignal_of_first hseen, if_neg hpos, ← hresponses]
        exact ⟨rfl, rfl, rfl⟩

/-! ## Agents left behind -/

/-- A later signal leaves the agent behind exactly if it comes between the launch
and the arming of the switch. -/
theorem Tracks.orphaned_iff (h : Tracks l) (hseen : l.interrupts.seen = true) :
    Orphaned l.handleSignal ↔ l.phase = .launched := by
  obtain ⟨hphase', hspawned', hexit', -⟩ := l.handleSignal_run
  have hkilled' := congrArg Lifecycle.killed (handleSignal_of_seen hseen)
  dsimp only at hkilled'
  cases h with
  | unlaunched hphase hspawned harmed hexit hkilled =>
    have hnot := (settled_of_unspawned (hspawned'.trans hspawned)).not_orphaned
    refine iff_of_false hnot ?_
    rcases hphase with hphase | hphase <;> rw [hphase] <;> exact nofun
  | @launched pid hphase hspawned harmed hexit hkilled =>
    refine iff_of_true ⟨pid, hspawned'.trans hspawned, hexit'.trans hexit, ?_⟩ hphase
    -- The switch is still empty, so the signal kills nobody.
    rw [handleSignal_killed_of_unarmed harmed, hkilled]
    exact List.not_mem_nil
  | @held pid hphase hspawned harmed =>
    -- The signal itself kills the group that is held.
    have hsettled : Settled l.handleSignal := by
      intro pid' hpid
      rw [hspawned', hspawned] at hpid
      rw [hkilled', harmed, Option.some.inj hpid]
      exact Or.inr (List.mem_append_right _ (List.mem_singleton_self pid'))
    refine iff_of_false hsettled.not_orphaned ?_
    rcases hphase with hphase | hphase <;> rw [hphase] <;> exact nofun
  | cleaned hphase hspawned harmed hsettled =>
    refine iff_of_false hsettled.handleSignal.not_orphaned ?_
    rw [hphase]
    exact nofun
  | ended hphase hsettled =>
    refine iff_of_false hsettled.handleSignal.not_orphaned ?_
    rw [hphase]
    exact nofun

theorem seen_of_forceExit {events : List LifecycleEvent}
    (h : (run (events ++ [.signal])).responses.getLast? = some .forceExit) :
    (run events).interrupts.seen = true := by
  obtain ⟨hresponses, -, -⟩ := run_signals (events ++ [.signal])
  rw [hresponses, signalCount_snoc_signal, responsesTo_succ, List.getLast?_concat] at h
  rw [(run_signals events).2.1]
  by_cases hpos : 0 < signalCount events
  · exact decide_eq_true hpos
  · rw [if_neg hpos] at h
    exact nomatch h

/-- Signals that come at any points of a run, whatever the agent does.  The first
one asks the run to stop, and every later one ends the harness.  A harness that
ends so leaves behind an agent that was launched, was not seen to exit and was not
killed exactly if the signal came after the launch and before the switch was
armed. -/
theorem forceExit_orphans_iff (events : List LifecycleEvent) :
    (run events).responses = responsesTo (signalCount events) ∧
    (run events).interrupts.cancelled = decide (0 < signalCount events) ∧
    ((run (events ++ [.signal])).responses.getLast? = some .forceExit →
      (Orphaned (run (events ++ [.signal])) ↔ (run events).phase = .launched)) := by
  obtain ⟨hresponses, -, hcancelled⟩ := run_signals events
  refine ⟨hresponses, hcancelled, fun hlast => ?_⟩
  rw [run_snoc]
  exact (tracks_run events).orphaned_iff (seen_of_forceExit hlast)

/-- Two signals right after the launch leave the agent behind. -/
theorem forceExit_orphans_before_arming :
    let events : List LifecycleEvent :=
      [.next none .missed, .next (some 42) .missed, .signal, .signal]
    (run events).responses = [.stop, .forceExit] ∧ (run events).spawned = some 42 ∧
      (run events).exitSeen = false ∧ (run events).killed = [] ∧ Orphaned (run events) :=
  ⟨rfl, rfl, rfl, rfl, 42, rfl, rfl, List.not_mem_nil⟩

end Lifecycle

end Shakedown
