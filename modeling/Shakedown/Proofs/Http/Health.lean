/-
  Shakedown.Proofs.Http.Health

  Two ways to check an agent's health over HTTP.  The client's own check is
  content with the head of a successful answer; the other asks for the system
  information and forgives a malformed body.  They agree because the client
  tells every failure of the body of a successful answer as a malformed one,
  and no failure before it.
-/
import Shakedown.Probe
import Shakedown.Proofs.Http.Answers

namespace Shakedown.HttpClient

variable {σ : Type} {client : HttpClient} {net : Network σ} {s : σ} {now : Nat}
  {token : String}

/-! ## Requests -/

/-- Both checks make the same request. -/
theorem request_health (client : HttpClient) (token : String) :
    client.request ⟨token, .health⟩ = client.request ⟨token, .systemInfo⟩ := rfl

theorem transport_of_startUrl {r : Request} {f : ApiFault}
    (h : client.startUrl r = .error f) : ∃ m, f = .transport m := by
  unfold startUrl at h
  cases hread : Net.Url.read? (client.baseUrl ++ r.path) with
  | none =>
    rw [hread] at h
    cases h
    exact ⟨_, rfl⟩
  | some u =>
    simp only [hread] at h
    split at h
    · cases h
    · cases h
      exact ⟨_, rfl⟩

/-- A request that cannot be made is a fault of the transport. -/
theorem transport_of_request {c : Call} {f : ApiFault} (h : client.request c = .error f) :
    ∃ m, f = .transport m := by
  unfold request at h
  cases hstart : client.startUrl c.request with
  | error g =>
    rw [hstart] at h
    cases h
    exact transport_of_startUrl hstart
  | ok u =>
    simp only [hstart] at h
    split at h
    · cases h
      exact ⟨_, rfl⟩
    · split at h
      · cases h
        exact ⟨_, rfl⟩
      · cases h

/-! ## Answers -/

/-- With the same body at hand, the client's own check finds what the system information,
forgiven a malformed body, says. -/
theorem success_health (bytes : Option (List UInt8)) (token : String) :
    success bytes ⟨token, .health⟩ = healthOf (success bytes ⟨token, .systemInfo⟩) := by
  have hinfo : success bytes ⟨token, .systemInfo⟩ =
      resultOfReply (bytes.bind (reply? · .systemInfo)) :=
    success_of_decodesBody (c := ⟨token, .systemInfo⟩) rfl bytes
  have hhealth : success bytes ⟨token, .health⟩ = .ok (bytes.bind (reply? · .systemInfo)) :=
    congrArg Except.ok (Option.bind_assoc bytes documentOf? _)
  rw [hhealth, hinfo]
  cases bytes.bind (reply? · .systemInfo) with
  | none => rfl
  | some report => rfl

theorem resultOf_health (status : Nat) (bytes : Option (List UInt8)) (token : String) :
    resultOf status bytes ⟨token, .health⟩ =
      healthOf (resultOf status bytes ⟨token, .systemInfo⟩) := by
  unfold resultOf
  by_cases h : isSuccess status = true
  · rw [if_pos h, if_pos h]
    exact success_health bytes token
  · -- A refusal is no malformed body.
    rw [if_neg h, if_neg h]
    rfl

/-- The same exchange takes both checks equally long, and tells them the same. -/
theorem conclude_health (client : HttpClient) (token : String) (url : Net.Url) (x : Exchange) :
    client.conclude ⟨token, .health⟩ url x =
      ⟨(client.conclude ⟨token, .systemInfo⟩ url x).delay,
        healthOf (client.conclude ⟨token, .systemInfo⟩ url x).result⟩ := by
  cases x with
  | silent => rfl
  | unreachable time =>
    unfold conclude
    by_cases h : time ≤ client.timeout.nanoseconds
    · simp only [if_pos h]
      rfl
    · simp only [if_neg h]
      rfl
  | answered time status body =>
    unfold conclude
    by_cases h : time ≤ client.timeout.nanoseconds
    · simp only [if_pos h, Request.readsBody, Bool.not_true, Bool.and_false, Bool.false_eq_true,
        if_false, resultOf_health]
    · simp only [if_neg h]
      rfl

/-- Telling the agent's health by its system information makes no difference to an API over
HTTP. -/
theorem api_healthBySystemInfo (client : HttpClient) (net : Network σ) :
    (client.api net).healthBySystemInfo = client.api net := by
  refine congrArg Api.mk (funext fun s => funext fun now => funext fun c => ?_)
  obtain ⟨token, r⟩ := c
  cases r with
  | health =>
    cases hrequest : client.request ⟨token, .systemInfo⟩ with
    | error f =>
      -- Both fail alike, and not for a malformed body, which only one of them forgives.
      obtain ⟨m, rfl⟩ := transport_of_request hrequest
      simp only [api, request_health, hrequest]
      rfl
    | ok r => simp only [api, request_health, hrequest, conclude_health]
  | _ => rfl

/-! ## Healthy answers -/

theorem isSuccess_iff {status : Nat} :
    isSuccess status = true ↔ 200 ≤ status ∧ status ≤ 299 := by
  simp [isSuccess]

/-- An agent is healthy exactly if the answer starts in time and is a success, whatever becomes
of its body. -/
theorem health_ok_iff :
    (∃ report, ((client.api net).answer s now ⟨token, .health⟩).1.result = .ok report) ↔
      ∃ time status body, Starts client net s now ⟨token, .health⟩ time status body ∧
        200 ≤ status ∧ status ≤ 299 := by
  constructor
  · rintro ⟨report, hok⟩
    obtain ⟨time, status, body, hstarts, hsuccess⟩ := starts_of_ok hok
    exact ⟨time, status, body, hstarts, isSuccess_iff.mp hsuccess⟩
  · rintro ⟨time, status, body, hstarts, hstatus⟩
    have hsuccess : isSuccess status = true := isSuccess_iff.mpr hstatus
    rw [hstarts.answer rfl]
    exact ⟨_, if_pos hsuccess⟩

/-- The two checks of an agent's health over HTTP agree.  Whatever becomes of the exchange,
they take equally long and tell the same: system information, none, or the same fault.  They
find the agent healthy exactly if its answer starts in time with a status of 200 to 299,
whatever its body.  A probe goes the same way with either, to the same verdict. -/
theorem health_checks_agree (client : HttpClient) (net : Network σ) :
    (∀ s now token, (client.api net).healthBySystemInfo.answer s now ⟨token, .health⟩ =
      (client.api net).answer s now ⟨token, .health⟩) ∧
    (∀ s now token,
      (∃ report, ((client.api net).answer s now ⟨token, .health⟩).1.result = .ok report) ↔
        ∃ time status body, Starts client net s now ⟨token, .health⟩ time status body ∧
          200 ≤ status ∧ status ≤ 299) ∧
    (∀ adminToken schedule now s,
      (Probe.plan adminToken schedule).trace (client.api net).healthBySystemInfo now s =
        (Probe.plan adminToken schedule).trace (client.api net) now s) := by
  have hsame : (client.api net).healthBySystemInfo = client.api net :=
    api_healthBySystemInfo client net
  refine ⟨?_, ?_, ?_⟩
  · intro s now token
    rw [hsame]
  · intro s now token
    exact health_ok_iff
  · intro adminToken schedule now s
    rw [hsame]

end Shakedown.HttpClient
