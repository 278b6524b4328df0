/-
  Shakedown.Proofs.Http.Answers

  What becomes of an answer that has started.  Its status and, where the body
  is waited for, what has come of the body by the client's time limit decide
  what the call comes to.  A successful answer fails in one way only: as a
  malformed one.  That is right for a body that is there and does not say what
  it should, and wrong for one that never came to its end.
-/
import Shakedown.Proofs.Plan.Course
import Shakedown.Proofs.Stub.Network

namespace Shakedown

/-- The calls that come to the document in the body of a successful answer.  A revocation
needs no body, and health does without one. -/
def Request.decodesBody : Request → Bool
  | .health => false
  | .revokeToken _ => false
  | _ => true

namespace BodyArrival

/-- The body is there in whole by a limit. -/
def Complete (limit : Nat) (body : BodyArrival) : Prop :=
  ∃ time bytes, body = .whole time bytes ∧ time ≤ limit

/-- The body is still to come at a limit. -/
def Late (limit : Nat) : BodyArrival → Prop
  | .whole time _ => limit < time
  | .brokenOff time => limit < time
  | .unfinished => True

theorem bytesBy_eq_some_iff {limit : Nat} {body : BodyArrival} {bytes : List UInt8} :
    body.bytesBy limit = some bytes ↔ ∃ time, body = .whole time bytes ∧ time ≤ limit := by
  cases body with
  | whole time bytes' =>
    rw [bytesBy]
    by_cases h : time ≤ limit
    · simp [h]
    · simp [h]
  | brokenOff time => simp [bytesBy]
  | unfinished => simp [bytesBy]

theorem time_le (limit : Nat) (body : BodyArrival) : body.time limit ≤ limit := by
  cases body with
  | whole time bytes => exact Nat.min_le_right time limit
  | brokenOff time => exact Nat.min_le_right time limit
  | unfinished => exact Nat.le_refl limit

end BodyArrival

namespace HttpClient

variable {σ : Type} {client : HttpClient} {net : Network σ} {s : σ} {now : Nat} {c : Call}
  {time status : Nat} {body : BodyArrival}

/-! ## What a body says -/

/-- The reply that a body spells, if it spells one. -/
def reply? (bytes : List UInt8) (r : Request) : Option r.Reply :=
  (documentOf? bytes).bind (Request.decode? · r)

/-- What a call comes to that needs a reply. -/
def resultOfReply (reply : Option c.request.Reply) : c.Result :=
  reply.elim (.error (.malformed unreadable)) .ok

theorem resultOfReply_eq_ok_iff {reply : Option c.request.Reply} {a : c.request.Reply} :
    (resultOfReply reply : c.Result) = .ok a ↔ reply = some a := by
  cases reply with
  | none => simp [resultOfReply]
  | some b => simp [resultOfReply]

theorem resultOfReply_eq_error_iff {reply : Option c.request.Reply} {f : ApiFault} :
    (resultOfReply reply : c.Result) = .error f ↔ reply = none ∧ f = .malformed unreadable := by
  cases reply with
  | none => simp [resultOfReply, eq_comm]
  | some b => simp [resultOfReply]

theorem success_of_decodesBody (h : c.request.decodesBody = true) (bytes : Option (List UInt8)) :
    success bytes c = resultOfReply (bytes.bind (reply? · c.request)) := by
  obtain ⟨token, r⟩ := c
  have hreply : (bytes.bind documentOf?).bind (Request.decode? · r) =
      bytes.bind (reply? · r) := Option.bind_assoc bytes documentOf? _
  cases r with
  | health => simp [Request.decodesBody] at h
  | revokeToken id => simp [Request.decodesBody] at h
  | _ =>
    simp only [success, hreply]
    cases bytes.bind (reply? · _) <;> rfl

/-! ## The time limit -/

/-- Whatever becomes of a call over HTTP, it is over by the client's time limit. -/
theorem exists_delay (client : HttpClient) (net : Network σ) (s : σ) (now : Nat) (c : Call) :
    ∃ delay, ((client.api net).answer s now c).1.delay = some delay ∧
      delay ≤ client.timeout.nanoseconds := by
  have hconclude : ∀ url x, ∃ delay, (client.conclude c url x).delay = some delay ∧
      delay ≤ client.timeout.nanoseconds := by
    intro url x
    cases x with
    | silent => exact ⟨_, rfl, Nat.le_refl _⟩
    | unreachable time =>
      rw [conclude]
      split
      · rename_i hintime
        exact ⟨time, rfl, hintime⟩
      · exact ⟨_, rfl, Nat.le_refl _⟩
    | answered time status body =>
      rw [conclude]
      split
      · rename_i hintime
        split
        · exact ⟨time, rfl, hintime⟩
        · exact ⟨_, rfl, Nat.max_le.mpr ⟨hintime, body.time_le _⟩⟩
      · exact ⟨_, rfl, Nat.le_refl _⟩
  cases hrequest : client.request c with
  | error f =>
    simp only [api, hrequest]
    exact ⟨0, rfl, Nat.zero_le _⟩
  | ok r =>
    simp only [api, hrequest]
    exact hconclude _ _

/-- So none is waited for without end. -/
theorem not_ignores (client : HttpClient) (net : Network σ) (p : Standing σ) (c : Call) :
    ¬(client.api net).Ignores p c := by
  obtain ⟨d, hd, -⟩ := client.exists_delay net p.state p.now c
  rw [Api.Ignores, hd]
  exact nofun

/-! ## Answers that have started -/

/-- A call is made, and its answer starts within the client's time limit. -/
structure Starts (client : HttpClient) (net : Network σ) (s : σ) (now : Nat) (c : Call)
    (time status : Nat) (body : BodyArrival) : Prop where
  asked : ∃ r, client.request c = .ok r ∧
    (net.exchange s now client.timeout.nanoseconds r).1 = .answered time status body
  intime : time ≤ client.timeout.nanoseconds

/-- A call that succeeds was made, and its answer has started in time, as a success. -/
theorem starts_of_ok {a : c.request.Reply}
    (h : ((client.api net).answer s now c).1.result = .ok a) :
    ∃ time status body, Starts client net s now c time status body ∧
      isSuccess status = true := by
  cases hrequest : client.request c with
  | error f =>
    simp only [api, hrequest] at h
    cases h
  | ok r =>
    have hok : (client.conclude c r.url
        (net.exchange s now client.timeout.nanoseconds r).1).result = .ok a := by
      simpa only [api, hrequest] using h
    unfold conclude at hok
    cases hexchange : (net.exchange s now client.timeout.nanoseconds r).1 with
    | silent =>
      rw [hexchange] at hok
      cases hok
    | unreachable time =>
      simp only [hexchange] at hok
      split at hok <;> cases hok
    | answered time status body =>
      by_cases hintime : time ≤ client.timeout.nanoseconds
      · refine ⟨time, status, body, ⟨⟨r, hrequest, hexchange⟩, hintime⟩, ?_⟩
        by_contra hfailure
        have hrefused : ∀ bytes, resultOf status bytes c =
            .error (.status status (refusalBody bytes)) := fun bytes => if_neg hfailure
        simp only [hexchange, if_pos hintime, hrefused] at hok
        split at hok <;> cases hok
      · simp only [hexchange, if_neg hintime] at hok
        cases hok

theorem readsBody_of_decodesBody {r : Request} (h : r.decodesBody = true) :
    r.readsBody = true := by
  cases r with
  | revokeToken id => simp [Request.decodesBody] at h
  | _ => rfl

/-- What a call whose body is waited for comes to, once its answer has started. -/
theorem Starts.answer (h : Starts client net s now c time status body)
    (hbody : c.request.readsBody = true) :
    ((client.api net).answer s now c).1 =
      ⟨some (max time (body.time client.timeout.nanoseconds)),
        resultOf status (body.bytesBy client.timeout.nanoseconds) c⟩ := by
  obtain ⟨⟨r, hrequest, hexchange⟩, hintime⟩ := h
  simp only [api, hrequest, hexchange, conclude, hintime, hbody, if_true, Bool.not_true,
    Bool.and_false, Bool.false_eq_true, if_false]

/-- The call that needs the document of a successful answer comes to what the body says that
is there by the time limit. -/
theorem Starts.result_of_decodesBody (h : Starts client net s now c time status body)
    (hsuccess : isSuccess status = true) (hdecodes : c.request.decodesBody = true) :
    ((client.api net).answer s now c).1.result =
      resultOfReply ((body.bytesBy client.timeout.nanoseconds).bind (reply? · c.request)) := by
  rw [h.answer (readsBody_of_decodesBody hdecodes)]
  show resultOf status _ c = _
  rw [resultOf, if_pos hsuccess, success_of_decodesBody hdecodes]

/-! ## How a failure of the body is told -/

/-- A result tells the ways apart in which the body of a successful answer can fail: only a
body that is there and spells no reply is malformed; one that is late runs into the time
limit; one that breaks off is a fault of the transport. -/
structure Classified (client : HttpClient) (c : Call) (body : BodyArrival)
    (result : c.Result) : Prop where
  malformed : ∀ m, result = .error (.malformed m) → ∃ time bytes, body = .whole time bytes ∧
    time ≤ client.timeout.nanoseconds ∧ reply? bytes c.request = none
  late : body.Late client.timeout.nanoseconds → result = .error (.timeout client.timeout)
  brokenOff : ∀ time, body = .brokenOff time → time ≤ client.timeout.nanoseconds →
    ∃ m, result = .error (.transport m)

/-- The client tells a failure of the body right if and only if the body is there in whole:
every other failure is told as a malformed body too. -/
theorem Starts.classified_iff (h : Starts client net s now c time status body)
    (hsuccess : isSuccess status = true) (hdecodes : c.request.decodesBody = true) :
    Classified client c body ((client.api net).answer s now c).1.result ↔
      body.Complete client.timeout.nanoseconds := by
  rw [h.result_of_decodesBody hsuccess hdecodes]
  constructor
  · intro hclassified
    cases hbytes : body.bytesBy client.timeout.nanoseconds with
    | some bytes =>
      obtain ⟨t, hwhole, hintime⟩ := BodyArrival.bytesBy_eq_some_iff.mp hbytes
      exact ⟨t, bytes, hwhole, hintime⟩
    | none =>
      -- Without the body the call fails as malformed, which only a body that is there may.
      have hmalformed : resultOfReply ((body.bytesBy client.timeout.nanoseconds).bind
          (reply? · c.request)) = .error (.malformed unreadable) := by
        rw [hbytes]
        rfl
      obtain ⟨t, bytes, hwhole, hintime, -⟩ := hclassified.malformed unreadable hmalformed
      exact ⟨t, bytes, hwhole, hintime⟩
  · rintro ⟨t, bytes, rfl, hintime⟩
    have hbytes : (BodyArrival.whole t bytes).bytesBy client.timeout.nanoseconds = some bytes :=
      if_pos hintime
    refine ⟨?_, ?_, ?_⟩
    · intro m hm
      rw [hbytes] at hm
      exact ⟨t, bytes, rfl, hintime, (resultOfReply_eq_error_iff.mp hm).1⟩
    · intro hlate
      exact absurd hintime (Nat.not_le.mpr hlate)
    · intro t' hbroken
      exact nomatch hbroken

/-- A successful answer that has started, to a call that needs its document: the call is over
by the time limit; it comes to a reply exactly if the body is there in whole by then and
spells that reply; whatever else becomes of the body, a body that is late or breaks off
included, is told as a malformed body.  So the failure is told right exactly for the bodies
that are there in whole. -/
theorem started_answer (h : Starts client net s now c time status body)
    (hsuccess : isSuccess status = true) (hdecodes : c.request.decodesBody = true) :
    let limit := client.timeout.nanoseconds
    let answer := ((client.api net).answer s now c).1
    (∃ delay, answer.delay = some delay ∧ delay ≤ limit) ∧
    (∀ a, answer.result = .ok a ↔
      ∃ t bytes, body = .whole t bytes ∧ t ≤ limit ∧ reply? bytes c.request = some a) ∧
    (∀ f, answer.result = .error f → f = .malformed unreadable) ∧
    (Classified client c body answer.result ↔ body.Complete limit) := by
  intro limit answer
  have hresult : answer.result =
      resultOfReply ((body.bytesBy limit).bind (reply? · c.request)) :=
    h.result_of_decodesBody hsuccess hdecodes
  refine ⟨?_, ?_, ?_, h.classified_iff hsuccess hdecodes⟩
  · refine ⟨max time (body.time limit), ?_, Nat.max_le.mpr ⟨h.intime, body.time_le limit⟩⟩
    exact congrArg Answer.delay (h.answer (readsBody_of_decodesBody hdecodes))
  · intro a
    rw [hresult, resultOfReply_eq_ok_iff, Option.bind_eq_some_iff]
    simp only [BodyArrival.bytesBy_eq_some_iff]
    constructor
    · rintro ⟨bytes, ⟨t, hwhole, hintime⟩, hreply⟩
      exact ⟨t, bytes, hwhole, hintime, hreply⟩
    · rintro ⟨t, bytes, hwhole, hintime, hreply⟩
      exact ⟨bytes, ⟨t, hwhole, hintime⟩, hreply⟩
  · intro f hf
    rw [hresult] at hf
    exact (resultOfReply_eq_error_iff.mp hf).2

/-! ## A body that is never finished -/

/-- A network on which the answer to every request starts at once, as a success, and never
comes to its end. -/
def stallingNetwork : Network Unit where
  exchange s _ _ _ := (.answered 0 200 .unfinished, s)

/-- Asks for the system information. -/
def infoCall : Call := ⟨"smoke-admin", .systemInfo⟩

theorem starts_stalling (timeout : Duration) :
    Starts (atLoopback 7845 timeout) stallingNetwork () 0 infoCall 0 200 .unfinished := by
  have hcredential : fitsHeader infoCall.credential = true := by decide
  obtain ⟨path, -, -, hrequest⟩ :=
    request_ofBase (c := infoCall) (Bind.names_loopback 7845) hcredential trivial timeout
  exact ⟨⟨_, hrequest, rfl⟩, Nat.zero_le _⟩

/-- What that says of an answer whose body is never finished. -/
theorem started_answer_stalling :
    let client := atLoopback 7845 (.ofMillis 300)
    let answer := ((client.api stallingNetwork).answer () 0 infoCall).1
    Starts client stallingNetwork () 0 infoCall 0 200 .unfinished ∧
      isSuccess 200 = true ∧ infoCall.request.decodesBody = true ∧
      (∃ delay, answer.delay = some delay ∧ delay ≤ client.timeout.nanoseconds) ∧
      (∀ a, answer.result = .ok a ↔ ∃ t bytes, BodyArrival.unfinished = .whole t bytes ∧
        t ≤ client.timeout.nanoseconds ∧ reply? bytes infoCall.request = some a) ∧
      (∀ f, answer.result = .error f → f = .malformed unreadable) ∧
      (Classified client infoCall .unfinished answer.result ↔
        BodyArrival.unfinished.Complete client.timeout.nanoseconds) :=
  ⟨starts_stalling _, rfl, rfl, started_answer (starts_stalling (.ofMillis 300)) rfl rfl⟩

/-- A body that is never finished is told as a malformed one, not as a time limit that has
passed. -/
theorem stalled_body_told_malformed :
    let client := atLoopback 7845 (.ofMillis 300)
    Starts client stallingNetwork () 0 infoCall 0 200 .unfinished ∧
      isSuccess 200 = true ∧ infoCall.request.decodesBody = true ∧
      ((client.api stallingNetwork).answer () 0 infoCall).1.result =
        .error (.malformed unreadable) ∧
      ¬ Classified client infoCall .unfinished
        ((client.api stallingNetwork).answer () 0 infoCall).1.result := by
  intro client
  have hstarts : Starts client stallingNetwork () 0 infoCall 0 200 .unfinished :=
    starts_stalling (.ofMillis 300)
  refine ⟨hstarts, rfl, rfl, hstarts.result_of_decodesBody rfl rfl, ?_⟩
  rw [hstarts.classified_iff rfl rfl]
  rintro ⟨time, bytes, hwhole, -⟩
  exact nomatch hwhole

end HttpClient

end Shakedown
