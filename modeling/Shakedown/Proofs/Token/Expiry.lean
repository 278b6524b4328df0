/-
  Shakedown.Proofs.Token.Expiry

  The expiry of an ordered token, as the agent that has to read it meets it.
  A time to live past the last moment is refused before anything is ordered.
  Every other one is ordered, and then the year of the expiry decides: one of
  four digits is written as RFC 3339 has it and reads back, any other one is
  neither.
-/
import Shakedown.Proofs.Time.Limits
import Shakedown.Proofs.Token.Issue

namespace Shakedown.Token

open Time

variable {σ : Type}

/-- An order is one call, whatever comes back and even if nothing does. -/
theorem calls_issue_of_expiry (api : Api σ) (p : Standing σ) (adminToken : String)
    {request : TokenParameters} {now expiresAt : Moment}
    (h : now.add? request.ttl = some expiresAt) :
    ((issue adminToken request now).trace api p.now p.state).calls =
      [⟨p.now, orderCall adminToken request expiresAt⟩] := by
  rcases api.answers_or_ignores p (orderCall adminToken request expiresAt) with ⟨_, _, hr⟩ | hnone
  · exact (runs_issue_of_answers h hr).1
  · exact (runs_issue_of_ignores h hnone).1

/-- A time to live that ends past the last moment is refused, and no call is made.  Any other
one is ordered, to end at the time to live from now, and the expiry of the order is a
timestamp of RFC 3339 that reads back, cut to whole milliseconds, exactly if its year has
four digits. -/
theorem issue_expiry_readable_iff (api : Api σ) (p : Standing σ) (adminToken : String)
    (request : TokenParameters) (now : Moment) :
    let issuing := (issue adminToken request now).trace api p.now p.state
    (now.add? request.ttl = none →
      issuing.calls = [] ∧ issuing.ending = some (p.now, .error (.invalidTtl request.ttl))) ∧
    (∀ e, now.add? request.ttl = some e →
      let text := e.timestamp
      issuing.calls = [⟨p.now, adminToken, .issueToken ⟨request.name, request.scopes, text⟩⟩] ∧
      (now.isLeap = false → e.total = now.total + request.ttl.nanoseconds) ∧
      e.shown.total = e.total ∧ (now.Proper → e.shown = e) ∧
      (0 ≤ e.year ∧ e.year ≤ 9999 →
        Rfc3339.IsUtc text.toList ∧ Rfc3339.read? text = some e.shown.cut) ∧
      (¬(0 ≤ e.year ∧ e.year ≤ 9999) →
        ¬Rfc3339.IsUtc text.toList ∧ Rfc3339.read? text = none)) := by
  intro issuing
  constructor
  · intro hnone
    have hissuing : issuing = ⟨[], some (p.now, .error (.invalidTtl request.ttl))⟩ := by
      show (issue adminToken request now).trace api p.now p.state = _
      rw [issue_of_no_expiry hnone, Plan.trace_done]
    rw [hissuing]
    exact ⟨rfl, rfl⟩
  · intro e he
    refine ⟨calls_issue_of_expiry api p adminToken he, fun hleap => Moment.total_add? hleap he,
      Moment.total_shown e, fun hproper => Moment.shown_of_proper (hproper.add? he), ?_, ?_⟩
    · intro hyear
      exact ⟨e.isUtc_timestamp_iff.mpr hyear,
        Moment.read?_timestamp_shown (Moment.nanos_add? he) hyear⟩
    · intro hyear
      exact ⟨mt e.isUtc_timestamp_iff.mp hyear, Moment.read?_timestamp_eq_none hyear⟩

/-- An agent that grants every token at once. -/
def grantingApi : Api Unit where
  answer _ _ c := (⟨some 0, reply c.request⟩, ())
where
  /-- What a request is answered. -/
  reply : (r : Request) → Except ApiFault r.Reply
  | .issueToken _ => .ok { token := "orbit_abc" }
  | .health | .systemInfo | .revokeToken _ | .createContainer _ | .listContainers | .listTasks _ =>
    .error (.status 404 "")

/-- A token for three hundred billion seconds is ordered, and issued, with an expiry that no
reader of RFC 3339 takes. -/
theorem far_expiry_unreadable :
    let issuing := (issue "smoke-admin" { ttl := .ofSeconds 300000000000 } ⟨1792411200, 0⟩).trace
      grantingApi 0 ()
    let text := "+11533-06-03T17:20:00.000Z"
    issuing.calls = [⟨0, "smoke-admin",
      .issueToken ⟨"smoke-cli", ["containers:write", "tasks:read"], text⟩⟩] ∧
    (∃ token, issuing.ending = some (0, .ok token) ∧ token.secret = "orbit_abc") ∧
    ¬Rfc3339.IsUtc text.toList ∧ Rfc3339.read? text = none := by
  have htext : Moment.timestamp ⟨301792411200, 0⟩ = "+11533-06-03T17:20:00.000Z" := by
    decide +kernel
  have hyear : ¬(0 ≤ (⟨301792411200, 0⟩ : Moment).year ∧
      (⟨301792411200, 0⟩ : Moment).year ≤ 9999) := by decide +kernel
  have hexpiry : (⟨1792411200, 0⟩ : Moment).add?
      ({ ttl := .ofSeconds 300000000000 } : TokenParameters).ttl = some ⟨301792411200, 0⟩ := rfl
  have hcalls := calls_issue_of_expiry grantingApi ⟨0, ()⟩ "smoke-admin" hexpiry
  rw [orderCall, order, htext] at hcalls
  refine ⟨hcalls, ⟨_, rfl, rfl⟩, ?_, ?_⟩
  · rw [← htext]
    exact mt (Moment.isUtc_timestamp_iff _).mp hyear
  · rw [← htext]
    exact Moment.read?_timestamp_eq_none hyear

/-! ## The sum -/

theorem expiry_eq_ok_iff {now : Moment} {ttl : Duration} {e : Moment} :
    expiry now ttl = .ok e ↔ now.add? ttl = some e := by
  unfold expiry
  cases now.add? ttl <;> simp

/-- From a moment on the calendar the expiry is the moment the time to live later, if that is
on the calendar. -/
theorem expiry_eq_ok_iff_total {now : Moment} (hnow : now.OnCalendar) {ttl : Duration}
    {e : Moment} :
    expiry now ttl = .ok e ↔ e.OnCalendar ∧ e.total = now.total + ttl.nanoseconds := by
  rw [expiry_eq_ok_iff, (Moment.onCalendar_iff.mp hnow).add?_eq_some_iff, Moment.onCalendar_iff]

/-- There is an expiry exactly if the sum is not past the last moment. -/
theorem exists_expiry_iff {now : Moment} (hnow : now.OnCalendar) (ttl : Duration) :
    (∃ e, expiry now ttl = .ok e) ↔ now.total + ttl.nanoseconds ≤ Moment.latest.total := by
  constructor
  · rintro ⟨e, he⟩
    obtain ⟨honCalendar, htotal⟩ := (expiry_eq_ok_iff_total hnow).mp he
    rw [← htotal]
    exact honCalendar.total_le
  · intro hlast
    have hfirst := hnow.le_total
    obtain ⟨e, honCalendar, htotal⟩ := Moment.exists_onCalendar (by omega) hlast
    exact ⟨e, (expiry_eq_ok_iff_total hnow).mpr ⟨honCalendar, htotal⟩⟩

/-- Without one the time to live is refused as it was given. -/
theorem expiry_eq_error_iff (now : Moment) (ttl : Duration) (fault : IssueFault) :
    expiry now ttl = .error fault ↔
      (¬∃ e, expiry now ttl = .ok e) ∧ fault = .invalidTtl ttl := by
  unfold expiry
  cases now.add? ttl <;> simp [eq_comm]

/-- The expiry of a token issued at a moment on the calendar, to end at a time to live of any
length.  The last moment on the calendar is the greatest.  There is an expiry exactly if the
count of nanoseconds of now and that of the time to live do not come past it together, and it
is the moment of that sum; otherwise the time to live is refused, unchanged.  Of two expiries
the one with the longer time to live is later, and the one counted from the later moment. -/
theorem expiry_exact {now : Moment} (hnow : now.OnCalendar) :
    (Moment.latest.OnCalendar ∧ ∀ m : Moment, m.OnCalendar → m.total ≤ Moment.latest.total) ∧
    (∀ ttl e, expiry now ttl = .ok e ↔
      e.OnCalendar ∧ e.total = now.total + ttl.nanoseconds) ∧
    (∀ ttl, (∃ e, expiry now ttl = .ok e) ↔
      now.total + ttl.nanoseconds ≤ Moment.latest.total) ∧
    (∀ ttl fault, expiry now ttl = .error fault ↔
      Moment.latest.total < now.total + ttl.nanoseconds ∧ fault = .invalidTtl ttl) ∧
    (∀ ttl ttl' e e', expiry now ttl = .ok e → expiry now ttl' = .ok e' →
      (e.before e' = true ↔ ttl.nanoseconds < ttl'.nanoseconds)) ∧
    (∀ ttl (now' : Moment) e e', now'.OnCalendar → expiry now ttl = .ok e →
      expiry now' ttl = .ok e' → (e.before e' = true ↔ now.before now' = true)) := by
  refine ⟨⟨Moment.latest_onCalendar, fun m hm => hm.total_le⟩,
    fun ttl e => expiry_eq_ok_iff_total hnow, exists_expiry_iff hnow, ?_, ?_, ?_⟩
  · intro ttl fault
    rw [expiry_eq_error_iff, exists_expiry_iff hnow, Int.not_le]
  · intro ttl ttl' e e' he he'
    obtain ⟨honCalendar, htotal⟩ := (expiry_eq_ok_iff_total hnow).mp he
    obtain ⟨honCalendar', htotal'⟩ := (expiry_eq_ok_iff_total hnow).mp he'
    rw [honCalendar.before_iff honCalendar', htotal, htotal']
    omega
  · intro ttl now' e e' hnow' he he'
    obtain ⟨honCalendar, htotal⟩ := (expiry_eq_ok_iff_total hnow).mp he
    obtain ⟨honCalendar', htotal'⟩ := (expiry_eq_ok_iff_total hnow').mp he'
    rw [honCalendar.before_iff honCalendar', hnow.before_iff hnow', htotal, htotal']
    omega

/-- A token that lives up to the last nanosecond of the calendar has an expiry, and one that
lives a nanosecond longer has none. -/
theorem expiry_latest :
    let now : Moment := ⟨1792411200, 0⟩
    let ttl := Duration.ofParts 8208474465599 999999999
    now.OnCalendar ∧ expiry now ttl = .ok Moment.latest ∧
    expiry now (.ofSeconds 8208474465600) = .error (.invalidTtl (.ofSeconds 8208474465600)) := by
  intro now ttl
  have hnow : now.OnCalendar := ⟨by decide, by decide +kernel, by decide +kernel⟩
  obtain ⟨-, hok, -, herror, -⟩ := expiry_exact hnow
  exact ⟨hnow, (hok _ _).mpr ⟨Moment.latest_onCalendar, by decide⟩,
    (herror _ _).mpr ⟨by decide, rfl⟩⟩

end Shakedown.Token
