/-
  Shakedown.Proofs.Readiness

  What the readiness probe and its race against the agent's exit come to.

  From any standing a run of checks either reaches a healthy one within the
  bound on their number or fails that many times; both are told by the
  answers of the API alone.  Checks that fail one after the other are the
  first of the numbered checks of a probe, so what the probe comes to follows
  from its course.  The race takes the verdict of the probe exactly if it is
  there strictly before the exit.
-/
import Mathlib.Data.Nat.Find
import Shakedown.Proofs.Probe
import Shakedown.Readiness

namespace Shakedown

variable {σ : Type} {api : Api σ} {adminToken : String} {schedule : ProbeSchedule}

namespace Probe

/-! ## One check -/

/-- A check made at `p` is answered at `q` that the agent is healthy, within the
time a check may take. -/
def Healthy (api : Api σ) (adminToken : String) (schedule : ProbeSchedule)
    (p q : Standing σ) : Prop :=
  ∃ report, api.Answers p (check adminToken) (.ok report) q ∧
    q.now ≤ p.now + schedule.attemptTimeout.nanoseconds

/-- A check made at `p` has failed by `q`, and why: it was answered with a fault,
or not answered within the time a check may take. -/
inductive Unhealthy (api : Api σ) (adminToken : String) (schedule : ProbeSchedule)
    (p : Standing σ) : String → Standing σ → Prop where
  | fault {f : ApiFault} {q : Standing σ}
      (h : api.Answers p (check adminToken) (.error f) q)
      (hintime : q.now ≤ p.now + schedule.attemptTimeout.nanoseconds) :
      Unhealthy api adminToken schedule p f.message q
  | late
      (h : ∀ r q, api.Answers p (check adminToken) r q →
        p.now + schedule.attemptTimeout.nanoseconds < q.now) :
      Unhealthy api adminToken schedule p
        ("no response within " ++ schedule.attemptTimeout.text)
        (p.afterCall api (check adminToken) schedule.attemptTimeout.nanoseconds)

theorem Unhealthy.answersWithin {p q : Standing σ} {reason : String}
    (h : Unhealthy api adminToken schedule p reason q) :
    ∃ r, api.AnswersWithin p schedule.attemptTimeout.nanoseconds (check adminToken) r q ∧
      failure? schedule.attemptTimeout r = some reason := by
  cases h with
  | @fault f _ h hintime =>
    exact ⟨some (.error f), Api.answersWithin_some_iff.mpr ⟨h, hintime⟩, rfl⟩
  | late h => exact ⟨none, Api.answersWithin_none_iff.mpr ⟨h, rfl⟩, rfl⟩

/-- A check finds the agent healthy, or it fails. -/
theorem healthy_or_unhealthy (api : Api σ) (adminToken : String) (schedule : ProbeSchedule)
    (p : Standing σ) :
    (∃ q, Healthy api adminToken schedule p q) ∨
      ∃ reason q, Unhealthy api adminToken schedule p reason q := by
  obtain ⟨r, q, h⟩ := api.answersWithin_exists p schedule.attemptTimeout.nanoseconds
    (check adminToken)
  cases r with
  | none =>
    obtain ⟨hlate, -⟩ := Api.answersWithin_none_iff.mp h
    exact Or.inr ⟨_, _, .late hlate⟩
  | some r =>
    obtain ⟨hr, hintime⟩ := Api.answersWithin_some_iff.mp h
    cases r with
    | ok report => exact Or.inl ⟨q, report, hr, hintime⟩
    | error f => exact Or.inr ⟨_, _, .fault hr hintime⟩

/-- A check finds the agent healthy if it does not fail, and is over then. -/
theorem healthy_iff {p q : Standing σ} :
    Healthy api adminToken schedule p q ↔
      complaint? schedule (api.answer p.state p.now (check adminToken)).1 = none ∧
        q = p.afterCall api (check adminToken)
          (spent schedule (api.answer p.state p.now (check adminToken)).1) := by
  constructor
  · rintro ⟨report, ⟨d, hd, hr, rfl⟩, hintime⟩
    have hafter : HealthyAfter schedule (api.answer p.state p.now (check adminToken)).1 d :=
      ⟨hd, Nat.le_of_add_le_add_left hintime, report, hr⟩
    exact ⟨complaint?_eq_none_iff.mpr ⟨d, hafter⟩, by rw [hafter.spent_eq]⟩
  · rintro ⟨hgood, rfl⟩
    obtain ⟨d, hafter⟩ := complaint?_eq_none_iff.mp hgood
    rw [hafter.spent_eq]
    obtain ⟨hd, hle, report, hr⟩ := hafter
    exact ⟨report, ⟨d, hd, hr, rfl⟩, Nat.add_le_add_left hle _⟩

/-- A check fails for the reason that its answer gives, and is over then. -/
theorem unhealthy_iff {p q : Standing σ} {reason : String} :
    Unhealthy api adminToken schedule p reason q ↔
      complaint? schedule (api.answer p.state p.now (check adminToken)).1 = some reason ∧
        q = p.afterCall api (check adminToken)
          (spent schedule (api.answer p.state p.now (check adminToken)).1) := by
  have hforth : ∀ {reason q}, Unhealthy api adminToken schedule p reason q →
      complaint? schedule (api.answer p.state p.now (check adminToken)).1 = some reason ∧
        q = p.afterCall api (check adminToken)
          (spent schedule (api.answer p.state p.now (check adminToken)).1) := by
    intro reason q h
    obtain ⟨r, ⟨rfl, rfl⟩, hfailure⟩ := h.answersWithin
    obtain ⟨htime, hcomplaint⟩ := within_eq schedule (api.answer p.state p.now (check adminToken)).1
    exact ⟨hcomplaint.symm.trans hfailure, by rw [htime]⟩
  refine ⟨hforth, ?_⟩
  rintro ⟨hbad, rfl⟩
  -- Healthy it is not, and it fails in one way only.
  rcases healthy_or_unhealthy api adminToken schedule p with ⟨q, hq⟩ | ⟨reason', q, hq⟩
  · exact nomatch (healthy_iff.mp hq).1.symm.trans hbad
  · obtain ⟨hreason, rfl⟩ := hforth hq
    obtain rfl := Option.some.inj (hreason.symm.trans hbad)
    exact hq

/-! ## A run of checks -/

/-- Checks made one after the other from `p` on fail for the given reasons, and
the next one is due at the last standing. -/
inductive FailedChecks (api : Api σ) (adminToken : String) (schedule : ProbeSchedule) :
    List String → Standing σ → Standing σ → Prop where
  | nil (p : Standing σ) : FailedChecks api adminToken schedule [] p p
  | cons {reason : String} {reasons : List String} {p q r : Standing σ}
      (h : Unhealthy api adminToken schedule p reason q)
      (hrest : FailedChecks api adminToken schedule reasons
        (q.later schedule.interval.nanoseconds) r) :
      FailedChecks api adminToken schedule (reason :: reasons) p r

/-- Failed checks are the first checks of a probe, with the reasons why these fail. -/
theorem failedChecks_iff {reasons : List String} {p r : Standing σ} :
    FailedChecks api adminToken schedule reasons p r ↔
      r = checkpoint api adminToken schedule p reasons.length ∧
        (List.range reasons.length).map
            (fun i => complaint? schedule (health api adminToken schedule p i)) =
          reasons.map some := by
  induction reasons generalizing p with
  | nil =>
    constructor
    · intro h
      cases h
      exact ⟨rfl, rfl⟩
    · rintro ⟨rfl, -⟩
      exact .nil _
  | cons reason reasons ih =>
    -- The second check is the first one of the rest.
    have hrest : ∀ i, health api adminToken schedule (checkpoint api adminToken schedule p 1) i =
        health api adminToken schedule p (i + 1) := by
      intro i
      rw [health, checkpoint_shift, health]
    have hsplit : (List.range (reason :: reasons).length).map
          (fun i => complaint? schedule (health api adminToken schedule p i)) =
        complaint? schedule (health api adminToken schedule p 0) ::
          (List.range reasons.length).map (fun i => complaint? schedule
            (health api adminToken schedule (checkpoint api adminToken schedule p 1) i)) := by
      rw [List.length_cons, List.range_succ_eq_map, List.map_cons, List.map_map]
      simp only [Function.comp_def, hrest]
    rw [hsplit, List.map_cons, List.cons.injEq, List.length_cons, ← checkpoint_shift]
    constructor
    · rintro (_ | ⟨h, hrest⟩)
      obtain ⟨hreason, rfl⟩ := unhealthy_iff.mp h
      obtain ⟨hr, hreasons⟩ := ih.mp hrest
      exact ⟨hr, hreason, hreasons⟩
    · rintro ⟨hr, hreason, hreasons⟩
      exact .cons (unhealthy_iff.mpr ⟨hreason, rfl⟩) (ih.mpr ⟨hr, hreasons⟩)

/-- The last of some failed checks fails where those before it have got to. -/
theorem failedChecks_snoc_iff {reasons : List String} {last : String} {p r : Standing σ} :
    FailedChecks api adminToken schedule (reasons ++ [last]) p r ↔
      ∃ m q, FailedChecks api adminToken schedule reasons p m ∧
        Unhealthy api adminToken schedule m last q ∧
        r = q.later schedule.interval.nanoseconds := by
  have hparts : ∀ {xs ys : List (Option String)} {x y}, xs ++ [x] = ys ++ [y] ↔ xs = ys ∧ x = y :=
    fun {_ _ _ _} => by simp
  rw [failedChecks_iff, List.length_append, List.length_singleton, List.range_succ,
    List.map_append, List.map_append, List.map_singleton, List.map_singleton, hparts]
  constructor
  · rintro ⟨rfl, hreasons, hlast⟩
    exact ⟨_, _, failedChecks_iff.mpr ⟨rfl, hreasons⟩, unhealthy_iff.mpr ⟨hlast, rfl⟩, rfl⟩
  · rintro ⟨m, q, hfailed, hunhealthy, rfl⟩
    obtain ⟨rfl, hreasons⟩ := failedChecks_iff.mp hfailed
    obtain ⟨hlast, rfl⟩ := unhealthy_iff.mp hunhealthy
    exact ⟨rfl, hreasons, hlast⟩

/-- Why a check of a probe fails, if it does. -/
def reasonAt (api : Api σ) (adminToken : String) (schedule : ProbeSchedule) (p : Standing σ)
    (i : Nat) : String :=
  (complaint? schedule (health api adminToken schedule p i)).getD ""

/-- Checks of which none finds the agent healthy have failed. -/
theorem exists_failedChecks {p : Standing σ} {n : Nat}
    (h : ∀ i < n, ¬∃ d, HealthyAfter schedule (health api adminToken schedule p i) d) :
    ∃ reasons, reasons.length = n ∧ FailedChecks api adminToken schedule reasons p
      (checkpoint api adminToken schedule p n) := by
  have hlength : ((List.range n).map (reasonAt api adminToken schedule p)).length = n := by
    rw [List.length_map, List.length_range]
  refine ⟨(List.range n).map (reasonAt api adminToken schedule p), hlength,
    failedChecks_iff.mpr ?_⟩
  rw [hlength, List.map_map]
  refine ⟨rfl, List.map_congr_left fun i hi => ?_⟩
  have hfailed := mt complaint?_eq_none_iff.mp (h i (List.mem_range.mp hi))
  obtain ⟨reason, hreason⟩ := Option.ne_none_iff_exists'.mp hfailed
  rw [Function.comp_apply, reasonAt, hreason, Option.getD_some]

/-- Failed checks that follow failed checks have failed together. -/
theorem FailedChecks.append {xs ys : List String} {p q r : Standing σ}
    (h : FailedChecks api adminToken schedule xs p q)
    (h' : FailedChecks api adminToken schedule ys q r) :
    FailedChecks api adminToken schedule (xs ++ ys) p r := by
  induction h with
  | nil p => exact h'
  | cons h _ ih => exact .cons h (ih h')

/-- The checks from `p` on find the agent healthy at the `k`-th of them, and no
earlier, which the schedule still allows. -/
def ReadyAfter (api : Api σ) (adminToken : String) (schedule : ProbeSchedule) (k : Nat)
    (p q : Standing σ) : Prop :=
  ∃ reasons r, FailedChecks api adminToken schedule reasons p r ∧
    Healthy api adminToken schedule r q ∧ k = reasons.length + 1 ∧ k ≤ schedule.bound

/-- All the checks that the schedule allows fail, for the given reasons. -/
def NeverReady (api : Api σ) (adminToken : String) (schedule : ProbeSchedule)
    (reasons : List String) (p q : Standing σ) : Prop :=
  ∃ earlier last r, FailedChecks api adminToken schedule earlier p r ∧
    Unhealthy api adminToken schedule r last q ∧ reasons = earlier ++ [last] ∧
    reasons.length = schedule.bound

/-- As many failed checks as the schedule allows are all that there are. -/
theorem FailedChecks.neverReady {reasons : List String} {p r : Standing σ}
    (h : FailedChecks api adminToken schedule reasons p r)
    (hlength : reasons.length = schedule.bound) :
    ∃ q, NeverReady api adminToken schedule reasons p q := by
  rcases List.eq_nil_or_concat reasons with rfl | ⟨earlier, last, rfl⟩
  · rw [schedule.bound_eq] at hlength
    exact nomatch hlength
  · rw [List.concat_eq_append] at h hlength ⊢
    obtain ⟨m, q, hearlier, hlast, -⟩ := failedChecks_snoc_iff.mp h
    exact ⟨q, earlier, last, m, hearlier, hlast, rfl, hlength⟩

/-- The distinct reasons among some, in the order in which they first came up. -/
def distinct (reasons : List String) : List String :=
  reasons.foldl addReason []

theorem distinct_eq_eraseDups (reasons : List String) : distinct reasons = reasons.eraseDups := by
  induction reasons using List.reverseRecOn with
  | nil => rfl
  | append_singleton reasons reason ih =>
    rw [distinct, List.foldl_append, eraseDups_snoc, ← ih]
    rfl

/-- Failed checks have not found the agent healthy, -/
theorem FailedChecks.not_healthyAfter {reasons : List String} {p r : Standing σ}
    (h : FailedChecks api adminToken schedule reasons p r) :
    ∀ i < reasons.length, ¬∃ d, HealthyAfter schedule (health api adminToken schedule p i) d := by
  intro i hi
  obtain ⟨-, hreasons⟩ := failedChecks_iff.mp h
  have hmem : complaint? schedule (health api adminToken schedule p i) ∈ reasons.map some := by
    rw [← hreasons]
    exact List.mem_map_of_mem (List.mem_range.mpr hi)
  obtain ⟨reason, -, hreason⟩ := List.mem_map.mp hmem
  rw [← complaint?_eq_none_iff, ← hreason]
  exact nofun

/-- and their distinct reasons are those of the probe so far. -/
theorem FailedChecks.reasonsBefore_eq {reasons : List String} {p r : Standing σ}
    (h : FailedChecks api adminToken schedule reasons p r) :
    reasonsBefore api adminToken schedule p reasons.length = distinct reasons := by
  obtain ⟨-, hreasons⟩ := failedChecks_iff.mp h
  have hall : (List.range reasons.length).filterMap
      (fun i => complaint? schedule (health api adminToken schedule p i)) = reasons := by
    have hmap := congrArg (List.filterMap id) hreasons
    rw [List.filterMap_map, List.filterMap_map] at hmap
    simpa using hmap
  rw [reasonsBefore, hall, distinct_eq_eraseDups]

/-! ## The probe -/

/-- A probe started at `p` comes to a verdict at `q`. -/
inductive ComesTo (api : Api σ) (adminToken : String) (schedule : ProbeSchedule)
    (p : Standing σ) : ProbeVerdict → Standing σ → Prop where
  | ready {k : Nat} {q : Standing σ} (h : ReadyAfter api adminToken schedule k p q) :
      ComesTo api adminToken schedule p (.ready k) q
  | failed {reasons : List String} {q : Standing σ}
      (h : NeverReady api adminToken schedule reasons p q) :
      ComesTo api adminToken schedule p
        (.failed reasons.length (joinReasons (distinct reasons))) q

/-- A probe comes to a verdict: the agent is ready within the schedule, or it
never is. -/
theorem exists_comesTo (api : Api σ) (adminToken : String) (schedule : ProbeSchedule)
    (p : Standing σ) : ∃ verdict q, ComesTo api adminToken schedule p verdict q := by
  by_cases hready : ∃ k, k < schedule.bound ∧
      ∃ d, HealthyAfter schedule (health api adminToken schedule p k) d
  · -- The first check that finds the agent healthy decides.
    classical
    obtain ⟨hk, hhealthy⟩ := Nat.find_spec hready
    obtain ⟨reasons, hlength, hfailed⟩ := exists_failedChecks fun i hi hd =>
      Nat.find_min hready hi ⟨Nat.lt_trans hi hk, hd⟩
    have hq := healthy_iff.mpr ⟨complaint?_eq_none_iff.mpr hhealthy, rfl⟩
    exact ⟨_, _, .ready ⟨reasons, _, hfailed, hq, rfl, hlength.symm ▸ hk⟩⟩
  · obtain ⟨reasons, hlength, hfailed⟩ := exists_failedChecks fun i hi hd => hready ⟨i, hi, hd⟩
    obtain ⟨q, hnever⟩ := hfailed.neverReady hlength
    exact ⟨_, q, .failed hnever⟩

theorem outcome?_of_readyAfter {k : Nat} {p q : Standing σ}
    (h : ReadyAfter api adminToken schedule k p q) :
    (plan adminToken schedule).outcome? api p = some (.ready k, q) := by
  obtain ⟨failed, r, hfailed, hq, rfl, hle⟩ := h
  obtain ⟨rfl, -⟩ := failedChecks_iff.mp hfailed
  obtain ⟨hgood, rfl⟩ := healthy_iff.mp hq
  rw [schedule.bound_eq] at hle
  have hmore : schedule.attempts - 1 = (schedule.attempts - 1 - failed.length) + failed.length := by
    omega
  have hlast : complaint? schedule (health api adminToken schedule p failed.length) = none := hgood
  exact outcome?_plan_of_last hmore hfailed.not_healthyAfter (by rw [hlast, goOn])

theorem outcome?_of_neverReady {reasons : List String} {p q : Standing σ}
    (h : NeverReady api adminToken schedule reasons p q) :
    (plan adminToken schedule).outcome? api p =
      some (.failed reasons.length (joinReasons (distinct reasons)), q) := by
  obtain ⟨failed, last, r, hfailed, hq, rfl, hlength⟩ := h
  obtain ⟨rfl, -⟩ := failedChecks_iff.mp hfailed
  obtain ⟨hbad, rfl⟩ := unhealthy_iff.mp hq
  -- The last failure is the one after which no check is left.
  rw [List.length_append, List.length_singleton, schedule.bound_eq] at hlength
  have hmore : schedule.attempts - 1 = 0 + failed.length := by omega
  have hlast : complaint? schedule (health api adminToken schedule p failed.length) = some last :=
    hbad
  have hreasons : distinct (failed ++ [last]) = addReason (distinct failed) last := by
    rw [distinct, List.foldl_append]
    rfl
  rw [hreasons, List.length_append, List.length_singleton]
  refine outcome?_plan_of_last hmore hfailed.not_healthyAfter ?_
  rw [hlast, goOn, hfailed.reasonsBefore_eq]

/-- What a probe comes to is the outcome of its plan. -/
theorem comesTo_iff {p q : Standing σ} {verdict : ProbeVerdict} :
    ComesTo api adminToken schedule p verdict q ↔
      (plan adminToken schedule).outcome? api p = some (verdict, q) := by
  have hforth : ∀ {verdict q}, ComesTo api adminToken schedule p verdict q →
      (plan adminToken schedule).outcome? api p = some (verdict, q) := by
    intro verdict q h
    cases h with
    | ready h => exact outcome?_of_readyAfter h
    | failed h => exact outcome?_of_neverReady h
  refine ⟨hforth, ?_⟩
  -- Some verdict there is, and a plan has one outcome.
  intro h
  obtain ⟨verdict', q', h'⟩ := exists_comesTo api adminToken schedule p
  obtain ⟨rfl, rfl⟩ := Prod.mk.inj (Option.some.inj (h.symm.trans (hforth h')))
  exact h'

end Probe

/-! ## The race against the agent's exit -/

namespace Readiness

variable {exit : Option (Nat × ProcessExit)}

/-- At `q`, and still before its exit is observed, the agent is found ready by the
`k`-th check. -/
def Reached (api : Api σ) (adminToken : String) (schedule : ProbeSchedule)
    (exit : Option (Nat × ProcessExit)) (k : Nat) (p q : Standing σ) : Prop :=
  Probe.ReadyAfter api adminToken schedule k p q ∧
    ∀ time x, exit = some (time, x) → q.now < time

/-- The agent is not found ready, and why: it exits no later than the probe comes
to a verdict, or all the checks fail before it does. -/
inductive Fails (api : Api σ) (adminToken : String) (schedule : ProbeSchedule)
    (exit : Option (Nat × ProcessExit)) (p : Standing σ) : RunFailure → Prop where
  | exitedEarly {time : Nat} {x : ProcessExit} (hexit : exit = some (time, x))
      (hlate : ∀ verdict q,
        Probe.ComesTo api adminToken schedule p verdict q → time ≤ q.now) :
      Fails api adminToken schedule exit p (.exitedEarly x)
  | notReady {reasons : List String} {q : Standing σ}
      (h : Probe.NeverReady api adminToken schedule reasons p q)
      (halive : ∀ time x, exit = some (time, x) → q.now < time) :
      Fails api adminToken schedule exit p
        (.notReady reasons.length (Probe.joinReasons (Probe.distinct reasons)))

/-- The probe comes to its verdict in time, or the agent exits first. -/
theorem alive_or_exited (exit : Option (Nat × ProcessExit)) (later : Nat) :
    (∀ time x, exit = some (time, x) → later < time) ∨
      ∃ time x, exit = some (time, x) ∧ time ≤ later := by
  cases exit with
  | none => exact Or.inl fun time x h => nomatch h
  | some e =>
    by_cases h : later < e.1
    · refine Or.inl fun time x he => ?_
      obtain rfl := Option.some.inj he
      exact h
    · exact Or.inr ⟨e.1, e.2, rfl, Nat.not_lt.mp h⟩

/-- The wait for readiness is always over at some time. -/
theorem reached_or_fails (api : Api σ) (adminToken : String) (schedule : ProbeSchedule)
    (exit : Option (Nat × ProcessExit)) (p : Standing σ) :
    (∃ k q, Reached api adminToken schedule exit k p q) ∨
      ∃ f, Fails api adminToken schedule exit p f := by
  obtain ⟨verdict, q, hverdict⟩ := Probe.exists_comesTo api adminToken schedule p
  rcases alive_or_exited exit q.now with halive | ⟨time, x, hexit, hle⟩
  · cases hverdict with
    | @ready k _ h => exact Or.inl ⟨k, q, h, halive⟩
    | failed h => exact Or.inr ⟨_, .notReady h halive⟩
  · refine Or.inr ⟨_, .exitedEarly hexit ?_⟩
    -- The probe has one verdict, so it is late however it is described.
    intro verdict' q' h'
    have heq := (Probe.comesTo_iff.mp hverdict).symm.trans (Probe.comesTo_iff.mp h')
    obtain ⟨-, rfl⟩ := Prod.mk.inj (Option.some.inj heq)
    exact hle

/-- A probe that ends before the exit tells the verdict. -/
theorem race_of_ended {now later : Nat} {verdict : ProbeVerdict} {probe : Trace ProbeVerdict}
    (hend : probe.ending = some (later, verdict))
    (halive : ∀ time x, exit = some (time, x) → later < time) :
    race now exit probe = probe.map ofVerdict := by
  cases exit with
  | none => rfl
  | some e =>
    obtain ⟨time, x⟩ := e
    have hlt : later < time := halive time x rfl
    rw [race, if_pos]
    rw [hend]
    exact decide_eq_true hlt

/-- An exit that no end of the probe comes before is told itself. -/
theorem race_of_exited {now time : Nat} {x : ProcessExit} {probe : Trace ProbeVerdict}
    (h : ∀ later verdict, probe.ending = some (later, verdict) → time ≤ later) :
    race now (some (time, x)) probe =
      ⟨Trace.eventsBefore time probe.events,
        some (Nat.max now time, .error (.exitedEarly x))⟩ := by
  rw [race, if_neg]
  intro hany
  cases hend : probe.ending with
  | none =>
    rw [hend] at hany
    exact nomatch hany
  | some e =>
    rw [hend] at hany
    exact absurd (of_decide_eq_true hany) (Nat.not_lt.mpr (h e.1 e.2 hend))

theorem outcome?_await_of_ended {p q : Standing σ} {verdict : ProbeVerdict}
    (h : Probe.ComesTo api adminToken schedule p verdict q)
    (halive : ∀ time x, exit = some (time, x) → q.now < time) :
    (await api adminToken schedule exit p.now p.state).outcome? api p.state =
      some (ofVerdict verdict, q) := by
  have houtcome := Probe.comesTo_iff.mp h
  obtain ⟨hend, -⟩ := Trace.ending_of_outcome? houtcome
  rw [await, race_of_ended hend halive, Trace.outcome?_map]
  exact congrArg (Option.map _) houtcome

/-- An agent found ready is what the wait comes to. -/
theorem outcome?_await_of_reached {k : Nat} {p q : Standing σ}
    (h : Reached api adminToken schedule exit k p q) :
    (await api adminToken schedule exit p.now p.state).outcome? api p.state =
      some (.ok k, q) :=
  outcome?_await_of_ended (.ready h.1) h.2

/-- An agent not found ready fails the wait for the same reason. -/
theorem outcome?_await_of_fails {f : RunFailure} {p : Standing σ}
    (h : Fails api adminToken schedule exit p f) :
    ∃ q, (await api adminToken schedule exit p.now p.state).outcome? api p.state =
      some (.error f, q) := by
  cases h with
  | exitedEarly hexit hlate =>
    rw [await, hexit, race_of_exited]
    · exact ⟨_, rfl⟩
    · intro later verdict hend
      exact hlate verdict _ (Probe.comesTo_iff.mpr (Trace.outcome?_of_ending hend))
  | notReady h halive => exact ⟨_, outcome?_await_of_ended (.failed h) halive⟩

end Readiness

end Shakedown
