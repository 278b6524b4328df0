/-
  Shakedown.Proofs.Stub.Answers

  What a stub agent answers a client whose token a header carries as it is.
  A call that is refused is answered once its request has arrived; one that
  is admitted is answered once its work is done, if the client waits that
  long.  How long requests and answers are on their way is left open; at an
  address of this machine they are there at once.
-/
import Shakedown.Proofs.Plan.Course
import Shakedown.Proofs.Stub.Effects
import Shakedown.Proofs.Stub.Network
import Shakedown.Proofs.Text.Blank

namespace Shakedown

open Text

/-! ## Tokens that a header carries as they are -/

/-- A token in visible ASCII, not empty and without blanks around it. -/
structure Presentable (token : String) : Prop where
  nonempty : token.toList ≠ []
  visible : ∀ c ∈ token.toList, 32 ≤ c.toNat ∧ c.toNat < 127
  trimmed : trim token.toList = token.toList

namespace Presentable

variable {token : String}

theorem fitsHeader (h : Presentable token) : HttpClient.fitsHeader token = true := by
  refine List.all_eq_true.mpr fun c hc => ?_
  obtain ⟨hlow, hhigh⟩ := h.visible c hc
  simp only [Bool.or_eq_true, Bool.and_eq_true, decide_eq_true_eq]
  exact Or.inr ⟨hlow, Nat.ne_of_lt hhigh⟩

theorem bearer? (h : Presentable token) : Stub.bearer? ("Bearer " ++ token) = some token := by
  have hchars : ("Bearer " ++ token).toList = "Bearer ".toList ++ token.toList :=
    String.toList_append
  have hall : ("Bearer ".toList ++ token.toList).all
      (fun c => c = '\t' || (32 ≤ c.toNat && c.toNat < 127)) = true := by
    rw [List.all_append, Bool.and_eq_true]
    refine ⟨by decide, List.all_eq_true.mpr fun c hc => ?_⟩
    simp only [Bool.or_eq_true, Bool.and_eq_true, decide_eq_true_eq]
    exact Or.inr (h.visible c hc)
  have hscheme : "Bearer ".toList.isPrefixOf ("Bearer ".toList ++ token.toList) = true :=
    List.isPrefixOf_iff_prefix.mpr (List.prefix_append _ _)
  have hdrop : ("Bearer ".toList ++ token.toList).drop 7 = token.toList := rfl
  rw [Stub.bearer?, hchars]
  dsimp only
  rw [hscheme, hall, hdrop, h.trimmed, Bool.and_self, if_pos rfl,
    if_neg (by simpa using h.nonempty), String.ofList_toList]

/-- A token without any blanks has none around it. -/
theorem of_solid (hne : token.toList ≠ []) (h : ∀ c ∈ token.toList, 32 < c.toNat ∧ c.toNat < 127) :
    Presentable token where
  nonempty := hne
  visible c hc := ⟨Nat.le_of_lt (h c hc).1, (h c hc).2⟩
  trimmed := trim_of_no_blank fun c hc => isBlank_of_solid (h c hc)

end Presentable

theorem Uuid.solid_of_isPlain {c : Char} (h : Uuid.IsPlain c) : 32 < c.toNat ∧ c.toNat < 127 := by
  rcases h with rfl | h | h
  · decide
  · omega
  · omega

/-- Every secret that a stub makes can stand in a header. -/
theorem Stub.presentable_secretOf (u : Uuid) : Presentable (secretOf u) := by
  have hchars : (secretOf u).toList = "orbit_".toList ++ u.simple := by
    rw [secretOf, String.toList_append, String.toList_ofList (l := u.simple)]
  refine .of_solid ?_ fun c hc => ?_
  · rw [hchars]
    exact fun h => nomatch h
  · rw [hchars] at hc
    rcases List.mem_append.mp hc with hc | hc
    · have hall : ∀ d ∈ "orbit_".toList, 32 < d.toNat ∧ d.toNat < 127 :=
        List.all_iff_forall_prop.mp (by decide)
      exact hall c hc
    · exact Uuid.solid_of_isPlain (Uuid.isPlain_of_mem_simple hc)

/-! ## Calls over HTTP -/

theorem Api.answers_of_answer {σ : Type} {api : Api σ} {p : Standing σ} {c : Call} {d : Nat}
    {r : c.Result} {s : σ} (h : api.answer p.state p.now c = (⟨some d, r⟩, s)) :
    api.Answers p c r ⟨p.now + d, s⟩ := by
  refine ⟨d, ?_⟩
  rw [Standing.afterCall, h]
  exact ⟨rfl, rfl, rfl⟩

/-- A client meets an agent at the base of an address, which may tell a user. -/
def Bind.Reaches (b : Bind) : Prop :=
  ∃ u, b.Names u

/-- The base of an address tells no user, so the token of a call is what is presented. -/
structure Bind.Plain (b : Bind) : Prop where
  reaches : b.Reaches
  anonymous : b.user? = none

theorem Bind.plain_loopback (port : UInt16) : (Bind.loopback port).Plain where
  reaches := ⟨_, names_loopback port⟩
  anonymous := user?_loopback port

namespace StubHost

variable {host : StubHost} {b : Bind} {lags : Lags} {port : UInt16} {timeout : Duration}
  {p : Standing StubStore} {c : Call}

/-- What holds up a call that is made at a standing. -/
def lagOf (b : Bind) (lags : Lags) (p : Standing StubStore) (c : Call) : Lag :=
  lags p.state p.now (Stub.spelledOut b.user? c)

/-- When the request of a call arrives. -/
def arrival (b : Bind) (lags : Lags) (p : Standing StubStore) (c : Call) : Nat :=
  p.now + (lagOf b lags p c).request

theorem le_arrival (b : Bind) (lags : Lags) (p : Standing StubStore) (c : Call) :
    p.now ≤ arrival b lags p c :=
  Nat.le_add_right _ _

/-- The credential of a URL is a user's. -/
theorem basic_of_credentialOf? {u : Net.Url} {credential : Credential}
    (h : HttpClient.credentialOf? u = some credential) :
    ∃ username password, credential = .basic username password := by
  rw [HttpClient.credentialOf?] at h
  obtain ⟨username, -, h⟩ := Option.bind_eq_some_iff.mp h
  dsimp only at h
  generalize (if u.password.isEmpty then none else Utf8.decode? (Net.Percent.decode u.password)) =
    password at h
  by_cases hnobody : (username.isEmpty && password.isNone) = true
  · rw [if_pos hnobody] at h
    cases h
  · rw [if_neg hnobody] at h
    exact ⟨username, password, (Option.some.inj h).symm⟩

/-- A user whom the base tells presents no token. -/
theorem bearer?_of_user {credential : Credential} (h : b.user? = some credential) :
    Stub.bearer? credential.text = none := by
  obtain ⟨u, -, hu⟩ := Option.bind_eq_some_iff.mp h
  obtain ⟨username, password, rfl⟩ := basic_of_credentialOf? hu
  have hscheme : "Bearer ".toList.isPrefixOf (Credential.basic username password).text.toList =
      false := by
    rw [Credential.text, String.toList_append]
    rfl
  rw [Stub.bearer?, hscheme]
  rfl

/-- A call made at `p` is answered with `r` and leaves the stub as `s`.  The answer is there
when the request has arrived and something that takes `delay` has been done for it, and before
all is over that holds it up. -/
def Replies (host : StubHost) (b : Bind) (lags : Lags) (timeout : Duration)
    (p : Standing StubStore) (c : Call) (delay : Nat) (r : c.Result) (s : StubStore) : Prop :=
  ∃ time, arrival b lags p c + delay ≤ time ∧ time ≤ p.now + ((lagOf b lags p c).total + delay) ∧
    (host.seenFrom b lags timeout).Answers p c r ⟨time, s⟩

/-- What the stub answers in time is what a call comes to. -/
theorem replies_of_receive (hb : b.Reaches)
    (hcredential : HttpClient.fitsHeader c.credential = true) (hsimple : c.request.Simple)
    {s : StubStore} {reply : StubReply} {delay : Nat}
    (hreceive : host.receive p.state (arrival b lags p c)
      (timeout.nanoseconds - (lagOf b lags p c).request) (Stub.spelledOut b.user? c) =
      (s, reply, delay))
    (hintime : (lagOf b lags p c).total + delay ≤ timeout.nanoseconds) :
    host.Replies b lags timeout p c delay (resultOf reply c) s := by
  obtain ⟨u, hb⟩ := hb
  obtain ⟨time, hearly, hlate, hanswer⟩ :=
    answer_in_time hb hcredential hsimple rfl hreceive hintime
  refine ⟨p.now + time, ?_, Nat.add_le_add_left hlate _, Api.answers_of_answer hanswer⟩
  rw [arrival, Nat.add_assoc]
  exact Nat.add_le_add_left hearly _

/-- What a call presents to the stub. -/
theorem bearer?_of_plain (hb : b.Plain) (hc : Presentable c.credential) :
    Stub.bearer? (b.user?.getD (.bearer c.credential)).text = some c.credential := by
  rw [hb.anonymous]
  exact hc.bearer?

theorem serve_of_refused {s : StubStore} {now patience : Nat} {bearer : Option String}
    {r : Request} {reply : StubReply}
    (h : (Stub.accept host.options s (host.clock now) bearer r).2 = .error reply) :
    host.serve s now patience bearer r = (s.counting r, reply, 0) := by
  have haccept : Stub.accept host.options s (host.clock now) bearer r =
      (s.counting r, .error reply) := Prod.ext rfl h
  rw [serve, haccept]

theorem serve_of_admitted {s : StubStore} {now patience : Nat} {bearer : Option String}
    {r : Request} {work : StubWork}
    (h : (Stub.accept host.options s (host.clock now) bearer r).2 = .ok work) :
    host.serve s now patience bearer r =
      let done := Stub.perform host.options host.fresh (s.counting r) work
      (if Stub.delayOf host.options work ≤ patience then done.1 else s.counting r, done.2,
        Stub.delayOf host.options work) := by
  have haccept : Stub.accept host.options s (host.clock now) bearer r =
      (s.counting r, .ok work) := Prod.ext rfl h
  rw [serve, haccept]

/-- A call that is refused is answered as soon as its request has arrived. -/
theorem replies_of_refused (hb : b.Reaches)
    (hcredential : HttpClient.fitsHeader c.credential = true) (hsimple : c.request.Simple)
    (hfits : Stub.Fits c.request) {bearer : Option String}
    (hbearer : Stub.bearer? (b.user?.getD (.bearer c.credential)).text = bearer)
    {reply : StubReply} (h : (Stub.accept host.options p.state
      (host.clock (arrival b lags p c)) bearer c.request).2 = .error reply)
    (hintime : (lagOf b lags p c).total ≤ timeout.nanoseconds) :
    host.Replies b lags timeout p c 0 (resultOf reply c) (p.state.counting c.request) := by
  refine replies_of_receive hb hcredential hsimple ?_ hintime
  rw [receive_spelledOut hsimple hfits, hbearer, serve_of_refused h]

/-- A call that is admitted is answered once its work is done. -/
theorem replies_of_admitted (hb : b.Plain) (hc : Presentable c.credential)
    (hsimple : c.request.Simple) (hfits : Stub.Fits c.request) {work : StubWork}
    (h : (Stub.accept host.options p.state (host.clock (arrival b lags p c))
      (some c.credential) c.request).2 = .ok work)
    (hintime : (lagOf b lags p c).total + Stub.delayOf host.options work ≤ timeout.nanoseconds) :
    host.Replies b lags timeout p c (Stub.delayOf host.options work)
      (resultOf (Stub.perform host.options host.fresh (p.state.counting c.request) work).2 c)
      (Stub.perform host.options host.fresh (p.state.counting c.request) work).1 := by
  refine replies_of_receive hb.reaches hc.fitsHeader hsimple ?_ hintime
  have hwaits : Stub.delayOf host.options work ≤
      timeout.nanoseconds - (lagOf b lags p c).request := by
    rw [Lag.total] at hintime
    omega
  rw [receive_spelledOut hsimple hfits, bearer?_of_plain hb hc, serve_of_admitted h]
  dsimp only
  rw [if_pos hwaits]

/-- A call with too large a document is told so, whoever makes it. -/
theorem replies_of_tooLarge (host : StubHost) (hb : b.Reaches)
    (hcredential : HttpClient.fitsHeader c.credential = true) (hsimple : c.request.Simple)
    (hlarge : ¬Stub.Fits c.request)
    (hintime : (lagOf b lags p c).total ≤ timeout.nanoseconds) :
    host.Replies b lags timeout p c 0 (resultOf Stub.tooLarge c) p.state :=
  replies_of_receive hb hcredential hsimple (receive_tooLarge hsimple hlarge _ _ _ _) hintime

/-! ## What the answers say -/

/-- What a client keeps of the reason of a refusal. -/
def keptReason (reason : String) : String :=
  String.ofList (Utf8.cut HttpClient.keptBody reason.toList)

theorem resultOf_refusal {status : Nat} (h : HttpClient.isSuccess status = false)
    (reason : String) (c : Call) :
    resultOf (.refusal status reason) c = .error (.status status (keptReason reason)) := by
  have hkept : HttpClient.refusalBody (some (Utf8.encode reason)) = keptReason reason := by
    rw [HttpClient.refusalBody, Utf8.decodeLossy_encode, keptReason]
  rw [resultOf, HttpClient.resultOf, StubReply.refusal, h]
  exact congrArg (fun body => Except.error (ApiFault.status status body)) hkept

theorem keptReason_of_short {reason : String}
    (h : Utf8.size reason.toList ≤ HttpClient.keptBody) : keptReason reason = reason := by
  rw [keptReason, Utf8.cut, if_pos h, String.ofList_toList]

/-- What the stub tells of too large a document. -/
def tooLargeReason : String :=
  "Failed to buffer the request body: length limit exceeded"

theorem resultOf_tooLarge (c : Call) :
    resultOf Stub.tooLarge c = .error (.status 413 tooLargeReason) := by
  have hrefusal : HttpClient.isSuccess 413 = false := rfl
  have hresult := resultOf_refusal hrefusal tooLargeReason c
  rw [keptReason_of_short (by decide)] at hresult
  exact hresult

theorem documentOf?_text {j : Json} (h : j.Plain) :
    HttpClient.documentOf? (Utf8.encode j.text) = some j := by
  rw [HttpClient.documentOf?, h.readBytes?_text]

/-- A document that says what the client expects is what the call comes to. -/
theorem resultOf_document {status : Nat} {j : Json} (hsuccess : HttpClient.isSuccess status = true)
    (hplain : j.Plain) {c : Call} {a : c.request.Reply}
    (hread : Request.decode? j c.request = some a) :
    resultOf ⟨status, .document j⟩ c = .ok a := by
  have hbody : (some (Utf8.encode j.text)).bind HttpClient.documentOf? = some j :=
    documentOf?_text hplain
  have hresult : resultOf ⟨status, .document j⟩ c =
      HttpClient.success (some (Utf8.encode j.text)) c := if_pos hsuccess
  rw [hresult]
  obtain ⟨credential, r⟩ := c
  -- A revocation reads no document, and a health check takes any.
  cases r with
  | revokeToken id => rfl
  | health =>
    rw [HttpClient.success, hbody]
    obtain ⟨report, hreport, rfl⟩ := Option.map_eq_some_iff.mp hread
    exact congrArg Except.ok hreport
  | _ =>
    rw [HttpClient.success, hbody, Option.bind_some, hread] <;> exact nofun

/-- An agent that answers with success is healthy, whatever it says of itself. -/
theorem resultOf_health {reply : StubReply} (h : HttpClient.isSuccess reply.status = true)
    (credential : String) : ∃ report, resultOf reply ⟨credential, .health⟩ = .ok report :=
  ⟨((some (Stub.bodyOf reply)).bind HttpClient.documentOf?).bind SystemReport.ofJson?, if_pos h⟩

/-! ## Answers by what a caller may do -/

section Calls

variable {who : StubCaller} {credential : String} {work : StubWork} {status : Nat} {reason : String}

/-- A token that stands for nobody is refused. -/
theorem replies_of_nobody (hb : b.Plain) (hc : Presentable c.credential)
    (hsimple : c.request.Simple) (hfits : Stub.Fits c.request)
    (hstarted : Stub.isStarting host.options (Stub.countCall p.state.calls c.request) c.request =
      false)
    (hcaller : Stub.caller host.options p.state (host.clock (arrival b lags p c))
      (some c.credential) = .error (.refusal status reason))
    (hstatus : HttpClient.isSuccess status = false)
    (hintime : (lagOf b lags p c).total ≤ timeout.nanoseconds) :
    host.Replies b lags timeout p c 0 (.error (.status status (keptReason reason)))
      (p.state.counting c.request) := by
  rw [← resultOf_refusal hstatus]
  exact replies_of_refused hb.reaches hc.fitsHeader hsimple hfits (bearer?_of_plain hb hc)
    (Stub.accept_nobody hstarted hcaller) hintime

/-- A caller that may not do what is asked is refused. -/
theorem replies_of_forbidden (hb : b.Plain) (hc : Presentable c.credential)
    (hsimple : c.request.Simple) (hfits : Stub.Fits c.request)
    (hstarted : Stub.isStarting host.options (Stub.countCall p.state.calls c.request) c.request =
      false)
    (hcaller : Stub.caller host.options p.state (host.clock (arrival b lags p c))
      (some c.credential) = .ok who)
    (hwork : Stub.workOf host.options (host.clock (arrival b lags p c)) who c.request =
      .error (.refusal status reason))
    (hstatus : HttpClient.isSuccess status = false)
    (hintime : (lagOf b lags p c).total ≤ timeout.nanoseconds) :
    host.Replies b lags timeout p c 0 (.error (.status status (keptReason reason)))
      (p.state.counting c.request) := by
  have haccept := (Stub.accept_of_caller hstarted hcaller).trans hwork
  rw [← resultOf_refusal hstatus]
  exact replies_of_refused hb.reaches hc.fitsHeader hsimple hfits (bearer?_of_plain hb hc) haccept
    hintime

/-- A caller that may do what is asked has it done. -/
theorem replies_of_allowed {s : StubStore} {reply : StubReply} {d : Nat} (hb : b.Plain)
    (hc : Presentable c.credential) (hsimple : c.request.Simple) (hfits : Stub.Fits c.request)
    (hstarted : Stub.isStarting host.options (Stub.countCall p.state.calls c.request) c.request =
      false)
    (hcaller : Stub.caller host.options p.state (host.clock (arrival b lags p c))
      (some c.credential) = .ok who)
    (hwork : Stub.workOf host.options (host.clock (arrival b lags p c)) who c.request = .ok work)
    (hdelay : Stub.delayOf host.options work = d)
    (hperform : Stub.perform host.options host.fresh (p.state.counting c.request) work =
      (s, reply))
    (hintime : (lagOf b lags p c).total + d ≤ timeout.nanoseconds) :
    host.Replies b lags timeout p c d (resultOf reply c) s := by
  subst hdelay
  have haccept := (Stub.accept_of_caller hstarted hcaller).trans hwork
  have hreplies := replies_of_admitted hb hc hsimple hfits haccept hintime
  rw [hperform] at hreplies
  exact hreplies

end Calls

/-! ## Answers that are there at once -/

/-- A stub as a client at its port meets it. -/
def atPort (host : StubHost) (port : UInt16) (timeout : Duration) : Api StubStore :=
  (HttpClient.atLoopback port timeout).api host.network

theorem atPort_eq (host : StubHost) (port : UInt16) (timeout : Duration) :
    host.atPort port timeout = host.seenFrom (.loopback port) .none timeout := rfl

/-- At a port of this machine an answer is there once the work is done. -/
theorem Replies.answers_atPort {delay : Nat} {r : c.Result} {s : StubStore}
    (h : host.Replies (.loopback port) .none timeout p c delay r s) :
    (host.atPort port timeout).Answers p c r ⟨p.now + delay, s⟩ := by
  obtain ⟨time, hearly, hlate, hanswers⟩ := h
  have hearly : p.now + 0 + delay ≤ time := hearly
  have hlate : time ≤ p.now + (0 + 0 + 0 + delay) := hlate
  obtain rfl : time = p.now + delay := by omega
  exact hanswers

/-- What a client is told that has waited so long for an answer. -/
def told (c : Call) (timeout : Duration) (reply : StubReply) (delay : Nat) : Answer c :=
  if delay ≤ timeout.nanoseconds then ⟨some delay, resultOf reply c⟩
  else ⟨some timeout.nanoseconds, .error (.timeout timeout)⟩

theorem conclude_answered (client : HttpClient) (c : Call) (url : Net.Url) (reply : StubReply)
    (delay : Nat) :
    client.conclude c url (.answered delay reply.status (.whole delay (Stub.bodyOf reply))) =
      told c client.timeout reply delay := by
  rw [told]
  by_cases h : delay ≤ client.timeout.nanoseconds
  · obtain ⟨time, hearly, hlate, hconclude⟩ :=
      conclude_whole client c url reply (Nat.le_refl delay) h
    rw [if_pos h, hconclude, Nat.le_antisymm hlate hearly]
  · rw [if_neg h, HttpClient.conclude]
    exact if_neg h

/-- What a call comes to at a port of this machine. -/
theorem answer_atPort (hcredential : HttpClient.fitsHeader c.credential = true)
    (hsimple : c.request.Simple) (s : StubStore) (now : Nat) :
    (host.atPort port timeout).answer s now c =
      let x := host.receive s now timeout.nanoseconds (Stub.spelledOut none c)
      (told c timeout x.2.1 x.2.2, x.1) := by
  obtain ⟨url, hanswer⟩ := answer_seenFrom (Bind.names_loopback port) hcredential hsimple host
    .none timeout s now
  have hfast : ¬timeout.nanoseconds < 0 := Nat.not_lt_zero _
  rw [atPort_eq, hanswer, Bind.user?_loopback]
  dsimp only [Lags.none]
  rw [if_neg hfast]
  simp only [Nat.add_zero, Nat.zero_add, Nat.sub_zero, conclude_answered]
  rfl

/-- A credential that does not fit a header never leaves the client. -/
theorem answer_of_unfit (port : UInt16) (timeout : Duration)
    (hfit : HttpClient.fitsHeader c.credential = false) (s : StubStore) (now : Nat) :
    ∃ f, (host.atPort port timeout).answer s now c = (⟨some 0, .error f⟩, s) := by
  have hrequest : ∃ f, (HttpClient.atLoopback port timeout).request c = .error f := by
    rw [HttpClient.request]
    split
    · exact ⟨_, rfl⟩
    · rw [hfit]
      exact ⟨_, rfl⟩
  obtain ⟨f, hf⟩ := hrequest
  refine ⟨f, ?_⟩
  simp only [atPort, HttpClient.api, hf]

/-- A call is received, or it never leaves the client. -/
theorem received_or_unfit (host : StubHost) (port : UInt16) (timeout : Duration)
    (hsimple : c.request.Simple) (s : StubStore) (now : Nat) :
    let x := host.receive s now timeout.nanoseconds (Stub.spelledOut none c)
    (host.atPort port timeout).answer s now c = (told c timeout x.2.1 x.2.2, x.1) ∨
      ∃ f, (host.atPort port timeout).answer s now c = (⟨some 0, .error f⟩, s) := by
  cases hfit : HttpClient.fitsHeader c.credential with
  | false => exact Or.inr (answer_of_unfit port timeout hfit s now)
  | true => exact Or.inl (answer_atPort hfit hsimple s now)

/-- A call that succeeds was admitted, and says what doing its work says. -/
theorem admitted_of_answers_ok (hsimple : c.request.Simple) {a : c.request.Reply}
    {q : Standing StubStore} (h : (host.atPort port timeout).Answers p c (.ok a) q) :
    ∃ who work, Stub.workOf host.options (host.clock p.now) who c.request = .ok work ∧
      resultOf (Stub.perform host.options host.fresh (p.state.counting c.request) work).2 c =
        .ok a := by
  obtain ⟨d, -, hr, -⟩ := h
  have hreceived : resultOf (host.receive p.state p.now timeout.nanoseconds
      (Stub.spelledOut none c)).2.1 c = .ok a := by
    rcases host.received_or_unfit port timeout hsimple p.state p.now with hreceived | ⟨f, hf⟩
    · rw [hreceived] at hr
      dsimp only [told] at hr
      split at hr
      · exact hr
      · exact nomatch hr
    · rw [hf] at hr
      exact nomatch hr
  by_cases hfits : Stub.Fits c.request
  · rw [receive_spelledOut hsimple hfits] at hreceived
    cases haccept : (Stub.accept host.options p.state (host.clock p.now)
        (Stub.bearer? ("Bearer " ++ c.credential)) c.request).2 with
    | error reply =>
      rw [Option.getD_none, Credential.text, serve_of_refused haccept] at hreceived
      obtain ⟨status, reason, rfl, hstatus⟩ := Stub.accept_refuses haccept
      exact nomatch (resultOf_refusal hstatus reason c).symm.trans hreceived
    | ok work =>
      obtain ⟨who, -, hwork⟩ := Stub.accept_admits haccept
      rw [Option.getD_none, Credential.text, serve_of_admitted haccept] at hreceived
      exact ⟨who, work, hwork, hreceived⟩
  · rw [receive_tooLarge hsimple hfits] at hreceived
    exact nomatch (resultOf_tooLarge c).symm.trans hreceived

/-- Tokens stay as they are unless one is issued or revoked. -/
theorem tokens_of_answers (hsimple : c.request.Simple) (hkeeps : c.request.KeepsTokens)
    {r : c.Result} {q : Standing StubStore} (h : (host.atPort port timeout).Answers p c r q) :
    q.state.tokens = p.state.tokens := by
  obtain ⟨d, -, -, rfl⟩ := h
  rw [Standing.afterCall]
  dsimp only
  rcases host.received_or_unfit port timeout hsimple p.state p.now with hreceived | ⟨f, hf⟩
  · rw [hreceived]
    dsimp only
    by_cases hfits : Stub.Fits c.request
    · rw [receive_spelledOut hsimple hfits]
      cases haccept : (Stub.accept host.options p.state (host.clock p.now)
          (Stub.bearer? ("Bearer " ++ c.credential)) c.request).2 with
      | error reply =>
        rw [Option.getD_none, Credential.text, serve_of_refused haccept]
        rfl
      | ok work =>
        obtain ⟨who, -, hwork⟩ := Stub.accept_admits haccept
        rw [Option.getD_none, Credential.text, serve_of_admitted haccept]
        dsimp only
        -- The work is done only for a client that waits for it.
        split
        · exact ((Stub.performs _ _ _ work).sameTokens (Stub.permits_of_workOf hwork)
            hkeeps).tokens
        · rfl
    · rw [receive_tooLarge hsimple hfits]
  · rw [hf]

end StubHost

end Shakedown
