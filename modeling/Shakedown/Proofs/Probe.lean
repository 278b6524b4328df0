/-
  Shakedown.Proofs.Probe

  The readiness probe in numbers: how many checks it makes, when it makes
  them, when it ends, and what it tells of the checks that failed.

  What a check is answered may depend on all that came before it, so the
  checks of a probe are numbered: `checkpoint` tells where check number `i`
  is made if all before it fail, and `health` what it is answered there.  The
  verdict is then a matter of the first of these answers that is healthy.
-/
import Shakedown.Probe
import Shakedown.Proofs.Plan.Timing

namespace Shakedown

namespace ProbeSchedule

/-- How many checks a schedule allows. -/
def bound (schedule : ProbeSchedule) : Nat :=
  max schedule.attempts 1

theorem bound_eq (schedule : ProbeSchedule) :
    schedule.bound = schedule.attempts - 1 + 1 := by
  unfold bound
  omega

end ProbeSchedule

namespace Probe

open Finset (sum_range_succ)

variable {σ : Type} {api : Api σ} {adminToken : String} {schedule : ProbeSchedule}
  {p : Standing σ}

/-! ## Single answers -/

/-- What a check is answered, and how long that takes. -/
abbrev HealthAnswer (adminToken : String) : Type :=
  Answer (check adminToken)

/-- How long a check takes: until its answer is there, but no longer than its limit. -/
def spent (schedule : ProbeSchedule) (a : HealthAnswer adminToken) : Nat :=
  match a.delay with
  | some d => min d schedule.attemptTimeout.nanoseconds
  | none => schedule.attemptTimeout.nanoseconds

/-- Why a check failed: the fault it was answered with in time, or that no answer was
there in time; nothing if it found the agent healthy. -/
def complaint? (schedule : ProbeSchedule) (a : HealthAnswer adminToken) : Option String :=
  match a.delay with
  | none => some ("no response within " ++ schedule.attemptTimeout.text)
  | some d =>
    if schedule.attemptTimeout.nanoseconds < d then
      some ("no response within " ++ schedule.attemptTimeout.text)
    else match a.result with
      | .ok _ => none
      | .error f => some f.message

/-- An answer says that the agent is healthy, and is there after a time that a check may take. -/
def HealthyAfter (schedule : ProbeSchedule) (a : HealthAnswer adminToken) (delay : Nat) : Prop :=
  a.delay = some delay ∧ delay ≤ schedule.attemptTimeout.nanoseconds ∧
    ∃ report, a.result = .ok report

/-- A check has not failed exactly if it found the agent healthy. -/
theorem complaint?_eq_none_iff {a : HealthAnswer adminToken} :
    complaint? schedule a = none ↔ ∃ d, HealthyAfter schedule a d := by
  unfold complaint? HealthyAfter
  cases a.delay with
  | none =>
    refine iff_of_false nofun ?_
    rintro ⟨d, hd, -⟩
    exact nomatch hd
  | some d =>
    dsimp only
    split
    · rename_i hlate
      refine iff_of_false nofun ?_
      rintro ⟨d', hd, hle, -⟩
      obtain rfl := Option.some.inj hd
      exact absurd hle (Nat.not_le.mpr hlate)
    · rename_i hintime
      cases a.result with
      | ok report => exact iff_of_true rfl ⟨d, rfl, Nat.not_lt.mp hintime, report, rfl⟩
      | error f =>
        refine iff_of_false nofun ?_
        rintro ⟨-, -, -, report, hok⟩
        exact nomatch hok

/-- A check that finds the agent healthy takes as long as its answer. -/
theorem HealthyAfter.spent_eq {a : HealthAnswer adminToken} {d : Nat}
    (h : HealthyAfter schedule a d) : spent schedule a = d := by
  rw [spent, h.1]
  exact Nat.min_eq_left h.2.1

/-- What a check with a limit comes to is told by the time spent on it and by why it failed. -/
theorem within_eq (schedule : ProbeSchedule) (a : HealthAnswer adminToken) :
    (a.within schedule.attemptTimeout.nanoseconds).1 = spent schedule a ∧
      failure? schedule.attemptTimeout (a.within schedule.attemptTimeout.nanoseconds).2 =
        complaint? schedule a := by
  unfold Answer.within spent complaint?
  cases a.delay with
  | none => exact ⟨rfl, rfl⟩
  | some d =>
    dsimp only
    by_cases hintime : d ≤ schedule.attemptTimeout.nanoseconds
    · rw [if_pos hintime, if_neg (Nat.not_lt.mpr hintime), Nat.min_eq_left hintime]
      refine ⟨rfl, ?_⟩
      cases a.result <;> rfl
    · rw [if_neg hintime, if_pos (Nat.not_le.mp hintime),
        Nat.min_eq_right (Nat.le_of_not_le hintime)]
      exact ⟨rfl, rfl⟩

/-! ## The checks of a probe -/

/-- Where check number `i`, counted from zero, is made if all before it fail. -/
def checkpoint (api : Api σ) (adminToken : String) (schedule : ProbeSchedule) (p : Standing σ) :
    Nat → Standing σ
  | 0 => p
  | i + 1 =>
    let q := checkpoint api adminToken schedule p i
    let a := (api.answer q.state q.now (check adminToken)).1
    (q.afterCall api (check adminToken) (spent schedule a)).later schedule.interval.nanoseconds

/-- What check number `i` is answered if all before it fail. -/
def health (api : Api σ) (adminToken : String) (schedule : ProbeSchedule) (p : Standing σ)
    (i : Nat) : HealthAnswer adminToken :=
  let q := checkpoint api adminToken schedule p i
  (api.answer q.state q.now (check adminToken)).1

/-- The reasons of the first checks that failed, without repetitions. -/
def reasonsBefore (api : Api σ) (adminToken : String) (schedule : ProbeSchedule) (p : Standing σ)
    (n : Nat) : List String :=
  ((List.range n).filterMap fun i =>
    complaint? schedule (health api adminToken schedule p i)).eraseDups

/-- The checks after the first are those of a probe that starts with the second. -/
theorem checkpoint_shift (i : Nat) :
    checkpoint api adminToken schedule (checkpoint api adminToken schedule p 1) i =
      checkpoint api adminToken schedule p (i + 1) := by
  induction i with
  | zero => rfl
  | succ i ih =>
    rw [checkpoint, ih]
    rfl

/-- The time at which check number `i` is made: each check before it has taken its time, and
a pause has followed it. -/
theorem checkpoint_now (i : Nat) :
    (checkpoint api adminToken schedule p i).now =
      p.now + ∑ j ∈ Finset.range i, (spent schedule (health api adminToken schedule p j) +
        schedule.interval.nanoseconds) := by
  induction i with
  | zero => rfl
  | succ i ih =>
    rw [sum_range_succ, ← Nat.add_assoc, ← ih, ← Nat.add_assoc]
    rfl

/-- One more reason is added unless it is there already. -/
theorem eraseDups_snoc (reasons : List String) (reason : String) :
    (reasons ++ [reason]).eraseDups = addReason reasons.eraseDups reason := by
  rw [List.eraseDups_append, addReason]
  by_cases hmem : reason ∈ reasons
  · have hseen : reasons.eraseDups.contains reason = true :=
      List.contains_iff_mem.mpr (List.mem_eraseDups.mpr hmem)
    have hleft : [reason].removeAll reasons = [] := by
      rw [List.removeAll, List.filter_cons_of_neg (by simpa using hmem), List.filter_nil]
    rw [if_pos hseen, hleft, List.eraseDups_nil, List.append_nil]
  · have hseen : reasons.eraseDups.contains reason ≠ true := fun h =>
      hmem (List.mem_eraseDups.mp (List.contains_iff_mem.mp h))
    have hleft : [reason].removeAll reasons = [reason] := by
      rw [List.removeAll, List.filter_cons_of_pos (by simpa using hmem), List.filter_nil]
    rw [if_neg hseen, hleft]
    rfl

theorem reasonsBefore_succ {n : Nat} {reason : String}
    (h : complaint? schedule (health api adminToken schedule p n) = some reason) :
    reasonsBefore api adminToken schedule p (n + 1) =
      addReason (reasonsBefore api adminToken schedule p n) reason := by
  have hlast : [n].filterMap (fun i => complaint? schedule (health api adminToken schedule p i)) =
      [reason] := List.filterMap_cons_some h
  rw [reasonsBefore, List.range_succ, List.filterMap_append, hlast, eraseDups_snoc]
  rfl

/-- The first checks, each at its time. -/
def checksMade (api : Api σ) (adminToken : String) (schedule : ProbeSchedule) (p : Standing σ)
    (n : Nat) : List TimedCall :=
  (List.range n).map fun i =>
    ⟨(checkpoint api adminToken schedule p i).now, check adminToken⟩

theorem checksMade_succ (n : Nat) :
    checksMade api adminToken schedule p (n + 1) =
      checksMade api adminToken schedule p n ++
        [⟨(checkpoint api adminToken schedule p n).now, check adminToken⟩] := by
  rw [checksMade, List.range_succ, List.map_append]
  rfl

/-! ## One check after the other -/

/-- What follows a check, by why it failed, if it did. -/
def goOn (adminToken : String) (schedule : ProbeSchedule) (more attempt : Nat)
    (reasons : List String) : Option String → Plan ProbeVerdict
  | none => .done (.ready attempt)
  | some reason => match more with
    | 0 => .done (.failed attempt (joinReasons (addReason reasons reason)))
    | more + 1 =>
      .pause schedule.interval.nanoseconds
        (checks adminToken schedule more (attempt + 1) (addReason reasons reason))

theorem checks_eq (adminToken : String) (schedule : ProbeSchedule) (more attempt : Nat)
    (reasons : List String) :
    checks adminToken schedule more attempt reasons =
      .askWithin schedule.attemptTimeout.nanoseconds (check adminToken) fun r =>
        goOn adminToken schedule more attempt reasons (failure? schedule.attemptTimeout r) := by
  rw [checks]
  rfl

/-- What happens while check number `i` goes on. -/
def checkEvents (api : Api σ) (adminToken : String) (schedule : ProbeSchedule) (p : Standing σ)
    (i : Nat) : List Event :=
  let now := (checkpoint api adminToken schedule p i).now
  .call now (check adminToken) ::
    Plan.waitEvents now (spent schedule (health api adminToken schedule p i))

/-- Where check number `i` is over. -/
def checkedAt (api : Api σ) (adminToken : String) (schedule : ProbeSchedule) (p : Standing σ)
    (i : Nat) : Standing σ :=
  (checkpoint api adminToken schedule p i).afterCall api (check adminToken)
    (spent schedule (health api adminToken schedule p i))

/-- Check number `i` is made, and why it failed tells how to go on. -/
theorem trace_checks (api : Api σ) (adminToken : String) (schedule : ProbeSchedule)
    (p : Standing σ) (i more attempt : Nat) (reasons : List String) :
    (checks adminToken schedule more attempt reasons).trace api
        (checkpoint api adminToken schedule p i).now
        (checkpoint api adminToken schedule p i).state =
      ((goOn adminToken schedule more attempt reasons
        (complaint? schedule (health api adminToken schedule p i))).trace api
          (checkedAt api adminToken schedule p i).now
          (checkedAt api adminToken schedule p i).state).prepend
        (checkEvents api adminToken schedule p i) := by
  obtain ⟨htaken, hfailure⟩ := within_eq schedule (health api adminToken schedule p i)
  rw [checks_eq, Plan.trace_askWithin, checkedAt, checkEvents, ← hfailure, ← htaken]
  rfl

/-- Checks that fail are made one after the other, as long as some are left. -/
theorem trace_checks_of_unhealthy {n : Nat}
    (h : ∀ i < n, ¬∃ d, HealthyAfter schedule (health api adminToken schedule p i) d)
    (more : Nat) :
    ∃ events, callsOf events = checksMade api adminToken schedule p n ∧
      (checks adminToken schedule (more + n) 1 []).trace api p.now p.state =
        ((checks adminToken schedule more (n + 1)
          (reasonsBefore api adminToken schedule p n)).trace api
            (checkpoint api adminToken schedule p n).now
            (checkpoint api adminToken schedule p n).state).prepend events := by
  -- On the number of checks that failed; the last of them leaves one less.
  induction n generalizing more with
  | zero => exact ⟨[], rfl, rfl⟩
  | succ n ih =>
    obtain ⟨events, hcalls, htrace⟩ := ih (fun i hi => h i (Nat.lt_succ_of_lt hi)) (more + 1)
    have hfailed := mt complaint?_eq_none_iff.mp (h n (Nat.lt_succ_self n))
    obtain ⟨reason, hreason⟩ := Option.ne_none_iff_exists'.mp hfailed
    refine ⟨events ++ checkEvents api adminToken schedule p n ++
      [.wait (checkedAt api adminToken schedule p n).now (some schedule.interval.nanoseconds)],
      ?_, ?_⟩
    · rw [callsOf_append, callsOf_append, hcalls, checksMade_succ, checkEvents, callsOf_ask]
      exact List.append_nil _
    · rw [← Nat.add_assoc, Nat.add_right_comm, htrace, trace_checks, hreason, goOn,
        Plan.trace_pause, reasonsBefore_succ hreason, Trace.prepend_prepend, Trace.prepend_prepend]
      rfl

/-- What the checks up to number `i` leave the API with. -/
theorem after_checksMade (i : Nat) :
    api.after p.state (checksMade api adminToken schedule p (i + 1)) =
      (checkedAt api adminToken schedule p i).state := by
  induction i with
  | zero => rfl
  | succ i ih =>
    rw [checksMade_succ, Api.after_snoc, ih]
    rfl

/-! ## The probe -/

/-- A check that is not followed by another ends the probe, once those before it have failed. -/
theorem trace_plan_of_last {n more : Nat} {verdict : ProbeVerdict}
    (hmore : schedule.attempts - 1 = more + n)
    (hearlier : ∀ i < n, ¬∃ d, HealthyAfter schedule (health api adminToken schedule p i) d)
    (hlast : goOn adminToken schedule more (n + 1) (reasonsBefore api adminToken schedule p n)
      (complaint? schedule (health api adminToken schedule p n)) = .done verdict) :
    ((plan adminToken schedule).trace api p.now p.state).ending =
        some ((checkpoint api adminToken schedule p n).now +
          spent schedule (health api adminToken schedule p n), verdict) ∧
      ((plan adminToken schedule).trace api p.now p.state).calls =
        checksMade api adminToken schedule p (n + 1) := by
  obtain ⟨events, hcalls, htrace⟩ := trace_checks_of_unhealthy hearlier more
  rw [plan, hmore, htrace, trace_checks, hlast, Plan.trace_done, Trace.prepend_prepend]
  refine ⟨rfl, ?_⟩
  rw [Trace.prepend_calls, callsOf_append, hcalls, checkEvents, callsOf_ask, checksMade_succ]
  exact List.append_nil _

/-- So the probe comes to its verdict where that check is over. -/
theorem outcome?_plan_of_last {n more : Nat} {verdict : ProbeVerdict}
    (hmore : schedule.attempts - 1 = more + n)
    (hearlier : ∀ i < n, ¬∃ d, HealthyAfter schedule (health api adminToken schedule p i) d)
    (hlast : goOn adminToken schedule more (n + 1) (reasonsBefore api adminToken schedule p n)
      (complaint? schedule (health api adminToken schedule p n)) = .done verdict) :
    (plan adminToken schedule).outcome? api p =
      some (verdict, checkedAt api adminToken schedule p n) := by
  obtain ⟨hending, hcalls⟩ := trace_plan_of_last hmore hearlier hlast
  rw [Plan.outcome?, Trace.outcome?_of_ending hending, hcalls, after_checksMade]
  rfl

/-- A probe, told by what its checks are answered.  If one of those that the schedule allows
finds the agent healthy, the first to do so ends the probe: it makes no other checks, and
has taken the time of the failed checks and of the pauses after them, and as long as the
last answer took.  If none does, all are made, with a pause between any two, and their
distinct reasons are told in the order in which they came up.  Every call is a health
check with the admin token. -/
theorem plan_course (api : Api σ) (adminToken : String) (schedule : ProbeSchedule)
    (p : Standing σ) :
    let bound := max schedule.attempts 1
    let answer := health api adminToken schedule p
    let pause := schedule.interval.nanoseconds
    let begins i := p.now + ∑ j ∈ Finset.range i, (spent schedule (answer j) + pause)
    let probe := (plan adminToken schedule).trace api p.now p.state
    (∀ k d, k < bound → HealthyAfter schedule (answer k) d →
      (∀ i < k, ¬∃ d, HealthyAfter schedule (answer i) d) →
      probe.ending = some (begins k + d, .ready (k + 1)) ∧
      probe.calls = (List.range (k + 1)).map fun i => ⟨begins i, ⟨adminToken, .health⟩⟩) ∧
    ((∀ i < bound, ¬∃ d, HealthyAfter schedule (answer i) d) →
      probe.ending = some
        (p.now + (∑ i ∈ Finset.range bound, spent schedule (answer i) + (bound - 1) * pause),
          .failed bound (String.intercalate "; "
            ((List.range bound).filterMap fun i => complaint? schedule (answer i)).eraseDups)) ∧
      probe.calls = (List.range bound).map fun i => ⟨begins i, ⟨adminToken, .health⟩⟩) := by
  intro bound answer pause begins probe
  have hmade : ∀ n, checksMade api adminToken schedule p n =
      (List.range n).map fun i => ⟨begins i, ⟨adminToken, .health⟩⟩ := by
    intro n
    refine List.map_congr_left fun i _ => ?_
    rw [checkpoint_now]
    rfl
  have hbound : bound = schedule.attempts - 1 + 1 := schedule.bound_eq
  constructor
  · intro k d hk hhealthy hearlier
    have hgood : complaint? schedule (answer k) = none := complaint?_eq_none_iff.mpr ⟨d, hhealthy⟩
    have hmore : schedule.attempts - 1 = schedule.attempts - 1 - k + k := by omega
    obtain ⟨hending, hcalls⟩ := trace_plan_of_last hmore hearlier (by rw [hgood, goOn])
    rw [checkpoint_now, hhealthy.spent_eq] at hending
    exact ⟨hending, hcalls.trans (hmade (k + 1))⟩
  · intro hfailed
    obtain ⟨last, hlast⟩ : ∃ last, bound = last + 1 := ⟨_, hbound⟩
    rw [hlast] at hfailed ⊢
    have hbad := mt complaint?_eq_none_iff.mp (hfailed last (Nat.lt_succ_self last))
    obtain ⟨reason, hreason⟩ := Option.ne_none_iff_exists'.mp hbad
    have hmore : schedule.attempts - 1 = 0 + last := by omega
    obtain ⟨hending, hcalls⟩ := trace_plan_of_last hmore
      (fun i hi => hfailed i (Nat.lt_succ_of_lt hi)) (by rw [hreason, goOn])
    rw [checkpoint_now, Nat.add_assoc, sum_spent_add_pause, ← reasonsBefore_succ hreason]
      at hending
    exact ⟨hending, hcalls.trans (hmade (last + 1))⟩

end Probe

end Shakedown
