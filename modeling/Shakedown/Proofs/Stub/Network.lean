/-
  Shakedown.Proofs.Stub.Network

  A stub agent over HTTP.  A client whose base is that of a listening address
  spells each call out as a request; the stub reads the same request back,
  unless its document is too large, and what it answers is what the client
  makes the call come to.  Requests and answers may be held up on their way,
  as long as the client waits.
-/
import Shakedown.Proofs.Net.Loopback
import Shakedown.Proofs.Text.Utf8
import Shakedown.Proofs.Wire
import Shakedown.Stub.Agent

namespace Shakedown

open Net Text

/-! ## What a client asks for -/

/-- A request without a query: a listing of tasks asks for all of them. -/
def Request.Simple : Request → Prop
  | .listTasks filter => filter = {}
  | _ => True

/-- The base of an address is read as a URL that names a host and ends with its port. -/
structure Bind.Names (b : Bind) (u : Url) : Prop where
  bare : b.Bare
  read : Url.read? b.baseUrl = some u
  host : u.hasHost = true

theorem Bind.names_loopback (port : UInt16) :
    (Bind.loopback port).Names (Url.ofLoopback port []) where
  bare := bare_loopback port
  read := Url.read?_loopback port
  host := (by decide +kernel : (!(Host.v4 ⟨127, 0, 0, 1⟩).chars.isEmpty) = true)

namespace HttpClient

variable {b : Bind} {u : Url} {port : UInt16} {timeout : Duration} {c : Call}

/-- The client of an agent at a port of this machine. -/
def atLoopback (port : UInt16) (timeout : Duration) : HttpClient :=
  ofBase (Bind.loopback port).baseUrl timeout

/-- The base of an address ends in a digit, so there are no slashes to drop. -/
theorem baseUrl_ofBase (b : Bind) (timeout : Duration) :
    (ofBase b.baseUrl timeout).baseUrl = b.baseUrl := by
  obtain ⟨cs, d, hd, hchars⟩ := Url.baseUrl_eq_snoc b
  have hslash : Decimal.digit d ≠ '/' :=
    (by decide : ∀ e : Fin 10, Decimal.digit e ≠ '/') ⟨d, hd⟩
  have hdrop : (b.baseUrl.toList.reverse.dropWhile (· = '/')).reverse = b.baseUrl.toList := by
    rw [hchars, ← List.cons_append, List.reverse_append, List.reverse_singleton,
      List.singleton_append, List.dropWhile_cons_of_neg (by simpa using hslash), List.reverse_cons,
      List.reverse_reverse]
  rw [ofBase, hdrop, String.ofList_toList]

/-- The path of every request is plain. -/
theorem path_plain (r : Request) :
    ∃ path, r.path = String.ofList ('/' :: path) ∧ ∀ c ∈ path, IsPathChar c := by
  have hword : ∀ path : List Char, (path.all fun c => decide (IsPathChar c)) = true →
      ∃ p, String.ofList ('/' :: path) = String.ofList ('/' :: p) ∧ ∀ c ∈ p, IsPathChar c :=
    fun path h => ⟨path, rfl, List.all_iff_forall_prop.mp h⟩
  cases r with
  | health => exact hword "system/info".toList (by decide)
  | systemInfo => exact hword "system/info".toList (by decide)
  | issueToken order => exact hword "security/tokens".toList (by decide)
  | createContainer order => exact hword "containers".toList (by decide)
  | listContainers => exact hword "containers".toList (by decide)
  | listTasks filter => exact hword "tasks".toList (by decide)
  | revokeToken id =>
    refine ⟨"security/tokens/".toList ++ id.text.toList, ?_, fun c hc => ?_⟩
    · show "/security/tokens/" ++ id.text = _
      rw [← String.toList_inj, String.toList_append]
      exact (String.toList_ofList (l := '/' :: _)).symm
    · rcases List.mem_append.mp hc with hc | hc
      · have hall : ∀ d ∈ "security/tokens/".toList, IsPathChar d :=
          List.all_iff_forall_prop.mp (by decide)
        exact hall c hc
      · rcases Uuid.isPlain_of_mem_text hc with rfl | h | h
        · exact Or.inr (Or.inl rfl)
        · exact Or.inr (Or.inr (Or.inl h))
        · exact Or.inr (Or.inr (Or.inr ⟨h.1, Nat.le_trans h.2 (by decide)⟩))

/-- A URL without its credential has the rest of it left. -/
theorem withoutCredential_below (u : Url) (path : List Char) :
    (withoutCredential (Url.below u path)).scheme = u.scheme ∧
      (withoutCredential (Url.below u path)).query = none ∧
      (withoutCredential (Url.below u path)).pathChars = (Url.below u path).pathChars := by
  unfold withoutCredential
  split <;> exact ⟨rfl, rfl, rfl⟩

/-- A simple request has nothing to add to the URL. -/
theorem finalUrl_below {r : Request} (h : r.Simple) (u : Url) (path : List Char) :
    finalUrl (Url.below u path) r = withoutCredential (Url.below u path) := by
  have hquery := (withoutCredential_below u path).2.1
  cases r with
  | listTasks filter =>
    obtain rfl : filter = {} := h
    show addQuery (withoutCredential (Url.below u path)) [] = _
    generalize withoutCredential (Url.below u path) = v at hquery
    rw [addQuery, hquery]
    obtain ⟨scheme, username, password, host, port, path, query, fragment⟩ := v
    obtain rfl : query = none := hquery
    rfl
  | _ => rfl

/-- The request that a call makes.  A user whom the base names is told before the token. -/
theorem request_ofBase (hb : b.Names u) (hcredential : fitsHeader c.credential = true)
    (hsimple : c.request.Simple) (timeout : Duration) :
    ∃ path, c.request.path = String.ofList ('/' :: path) ∧ (∀ d ∈ path, IsPathChar d) ∧
      (ofBase b.baseUrl timeout).request c = .ok {
        method := c.request.method
        url := withoutCredential (Url.below u path)
        credentials := (credentialOf? u).toList ++ [.bearer c.credential]
        document := c.request.document? } := by
  obtain ⟨path, hpath, hplain⟩ := path_plain c.request
  refine ⟨path, hpath, hplain, ?_⟩
  have hstart : (ofBase b.baseUrl timeout).startUrl c.request = .ok (Url.below u path) := by
    rw [startUrl, baseUrl_ofBase, hpath, Url.read?_below hb.bare hb.read hplain]
    exact if_pos hb.host
  have hweb : (withoutCredential (Url.below u path)).isWeb = true := by
    rw [Url.isWeb, (withoutCredential_below u path).1, (Url.scheme_of_baseUrl hb.bare hb.read).1]
    rfl
  have hsame : credentialOf? (Url.below u path) = credentialOf? u := rfl
  rw [request, hstart]
  simp only [finalUrl_below hsimple, hcredential, hweb, hsame, Bool.not_true, Bool.false_eq_true,
    if_false]

end HttpClient


namespace Stub

/-! ## What the stub reads -/

/-- A request as the stub takes it: it knows only one kind of health check. -/
def asRead : Request → Request
  | .health => .systemInfo
  | r => r

theorem decode_of_plain {cs : List Char} (h : ∀ c ∈ cs, c ≠ '%') :
    Percent.decode cs = Utf8.encode (String.ofList cs) := by
  rw [Utf8.encode_eq_flatMap, String.toList_ofList]
  -- Without a percent sign each character stands for its own bytes.
  induction cs with
  | nil => rfl
  | cons c cs ih =>
    obtain ⟨hc, hcs⟩ := List.forall_mem_cons.mp h
    have hchar : Utf8.encode c.toString = String.utf8EncodeChar c := by
      rw [Utf8.encode_eq_flatMap, Char.toString, String.toList_singleton, List.flatMap_cons,
        List.flatMap_nil, List.append_nil]
    rw [List.flatMap_cons, ← ih hcs, ← hchar, Percent.decode]
    exact fun _ _ _ heq _ => hc heq

theorem routeOf?_token (id : Uuid) :
    routeOf? (Request.path (.revokeToken id)) = some (.token id.text.toList) := by
  have hchars : (Request.path (.revokeToken id)).toList =
      "/security/tokens/".toList ++ id.text.toList := String.toList_append
  -- The fixed paths are looked for first, and this one is none of them.
  have hother : ∀ word : String, ¬"/security/tokens/".toList <+: word.toList →
      Request.path (.revokeToken id) ≠ word := by
    intro word hword heq
    rw [← heq, hchars] at hword
    exact hword (List.prefix_append _ _)
  have hstart : "/security/tokens/".toList.isPrefixOf
      (Request.path (.revokeToken id)).toList = true := by
    rw [hchars, List.isPrefixOf_iff_prefix]
    exact List.prefix_append _ _
  have hdrop : (Request.path (.revokeToken id)).toList.drop "/security/tokens/".toList.length =
      id.text.toList := by
    rw [hchars, List.drop_left]
  have hempty : id.text.toList.isEmpty = false := by
    rw [Uuid.text, String.toList_ofList, List.isEmpty_eq_false_iff]
    exact List.ne_nil_of_length_eq_add_one (Uuid.length_hyphenate id.length_simple)
  have hslash : id.text.toList.contains '/' = false := by
    rw [List.contains_eq_mem, decide_eq_false_iff_not]
    exact fun hc => absurd (Uuid.isPlain_of_mem_text hc) (by decide)
  rw [routeOf?, if_neg (hother _ (by decide)), if_neg (hother _ (by decide)),
    if_neg (hother _ (by decide)), if_neg (hother _ (by decide))]
  dsimp only
  rw [hdrop, hstart, hempty, hslash]
  rfl

theorem idOf?_text (id : Uuid) : idOf? id.text.toList = some id := by
  have hplain : ∀ c ∈ id.text.toList, c ≠ '%' := by
    rintro c hc rfl
    exact absurd (Uuid.isPlain_of_mem_text hc) (by decide)
  rw [idOf?, decode_of_plain hplain, Utf8.decode?_encode, String.ofList_toList, Option.bind_some,
    Uuid.ofText?_text]

/-- The body of a request with a document, or none. -/
def writtenBody : Option Json → List UInt8
  | some j => Utf8.encode j.text
  | none => []

/-- The document of a request, if it has one, is not too large for the stub. -/
def Fits (r : Request) : Prop :=
  (writtenBody r.document?).length ≤ bodyLimit

instance (r : Request) : Decidable (Fits r) :=
  inferInstanceAs (Decidable (_ ≤ _))

/-- Without a document there is nothing that could be too large. -/
theorem fits_of_none {r : Request} (h : r.document? = none) : Fits r := by
  rw [Fits, h]
  exact Nat.zero_le _

/-- A call as its request comes in.  The stub looks at the first credential only, so the
token is not seen after another. -/
def spelledOut (first : Option Credential) (c : Call) : IncomingRequest where
  method := c.request.method.text
  path := c.request.path
  query := ""
  authorization := some (first.getD (.bearer c.credential)).text
  contentType := c.request.document?.map fun _ => "application/json"
  body := writtenBody c.request.document?

theorem incoming_eq_spelledOut {c : Call} {path : List Char}
    (hpath : c.request.path = String.ofList ('/' :: path)) (hplain : ∀ d ∈ path, IsPathChar d)
    (u : Url) :
    StubHost.incoming {
      method := c.request.method
      url := HttpClient.withoutCredential (Url.below u path)
      credentials := (HttpClient.credentialOf? u).toList ++ [.bearer c.credential]
      document := c.request.document? } = spelledOut (HttpClient.credentialOf? u) c := by
  obtain ⟨-, hquery, hchars⟩ := HttpClient.withoutCredential_below u path
  have hfirst : ((HttpClient.credentialOf? u).toList ++ [Credential.bearer c.credential]).head? =
      some ((HttpClient.credentialOf? u).getD (Credential.bearer c.credential)) := by
    cases HttpClient.credentialOf? u <;> rfl
  rw [StubHost.incoming, hquery, hchars, Url.pathChars_below u hplain, ← hpath, hfirst]
  rfl

/-- What becomes of a document that was written as JSON: it is read unless it is too large. -/
theorem readDocument_written {α : Type} {r : IncomingRequest} {j : Json} {decode : Json → Option α}
    {a : α} (htype : r.contentType = some "application/json")
    (hbody : r.body = Utf8.encode j.text) (hplain : j.Plain) (hdecode : decode j = some a) :
    readDocument r decode =
      if (Utf8.encode j.text).length ≤ bodyLimit then .ok a else .error tooLarge := by
  have hjson : (some "application/json").any isJsonType = true := by decide +kernel
  rw [readDocument, htype, hjson, hbody, hplain.readBytes?_text]
  by_cases hfits : (Utf8.encode j.text).length ≤ bodyLimit
  · rw [if_neg (by decide), if_neg (Nat.not_lt.mpr hfits), if_pos hfits]
    dsimp only
    rw [hdecode]
  · rw [if_neg (by decide), if_pos (Nat.lt_of_not_le hfits), if_neg hfits]

theorem read_of_route (r : IncomingRequest) {route : Route} {endpoint : Endpoint}
    (hroute : routeOf? r.path = some route)
    (hendpoint : endpointOf? r.method route = some endpoint) :
    Stub.read r = readRequest r endpoint := by
  rw [Stub.read, hroute]
  dsimp only
  rw [hendpoint]

/-- The stub reads the request that a call was spelled out from, unless its document is
too large. -/
theorem read_spelledOut {c : Call} (h : c.request.Simple) (first : Option Credential) :
    Stub.read (spelledOut first c) =
      if Fits c.request then .ok (asRead c.request) else .error tooLarge := by
  obtain ⟨credential, r⟩ := c
  have hinfo : routeOf? "/system/info" = some .systemInfo := rfl
  have htokens : routeOf? "/security/tokens" = some .tokens := rfl
  have hcontainers : routeOf? "/containers" = some .containers := rfl
  have htasks : routeOf? "/tasks" = some .tasks := rfl
  have hget : endpointOf? "GET" .systemInfo = some .systemInfo := rfl
  have hdelete : ∀ id, endpointOf? "DELETE" (.token id) = some (.revokeToken id) :=
    fun id => by rw [endpointOf?, if_pos rfl]
  cases r with
  | health =>
    rw [if_pos (fits_of_none rfl)]
    exact read_of_route (spelledOut first ⟨credential, .health⟩) hinfo hget
  | systemInfo =>
    rw [if_pos (fits_of_none rfl)]
    exact read_of_route (spelledOut first ⟨credential, .systemInfo⟩) hinfo hget
  | issueToken order =>
    have hread := readDocument_written (r := spelledOut first ⟨credential, .issueToken order⟩) rfl
      rfl order.plain_toJson order.ofJson?_toJson
    refine (read_of_route (spelledOut first ⟨credential, .issueToken order⟩) htokens rfl).trans ?_
    rw [readRequest, hread]
    show (if Fits (.issueToken order) then _ else _ : Except StubReply TokenOrder).map _ = _
    split <;> rfl
  | revokeToken id =>
    rw [if_pos (fits_of_none rfl)]
    refine (read_of_route (spelledOut first ⟨credential, .revokeToken id⟩) (routeOf?_token id)
      (hdelete _)).trans ?_
    rw [readRequest, idOf?_text]
    rfl
  | createContainer order =>
    have hread := readDocument_written (r := spelledOut first ⟨credential, .createContainer order⟩)
      rfl rfl order.plain_toJson order.ofJson?_toJson
    refine (read_of_route (spelledOut first ⟨credential, .createContainer order⟩) hcontainers
      rfl).trans ?_
    rw [readRequest, hread]
    show (if Fits (.createContainer order) then _ else _ : Except StubReply ContainerOrder).map _ =
      _
    split <;> rfl
  | listContainers =>
    rw [if_pos (fits_of_none rfl)]
    exact read_of_route (spelledOut first ⟨credential, .listContainers⟩) hcontainers rfl
  | listTasks filter =>
    obtain rfl : filter = {} := h
    rw [if_pos (fits_of_none rfl)]
    exact read_of_route (spelledOut first ⟨credential, .listTasks {}⟩) htasks rfl

end Stub

/-! ## What the client is told -/

/-- How long a request is held up in all. -/
def Lag.total (lag : Lag) : Nat :=
  lag.request + lag.head + lag.body

/-- The credential that the base of an address carries. -/
def Bind.user? (b : Bind) : Option Credential :=
  (Url.read? b.baseUrl).bind HttpClient.credentialOf?

theorem Bind.Names.user?_eq {b : Bind} {u : Url} (hb : b.Names u) :
    b.user? = HttpClient.credentialOf? u := by
  rw [Bind.user?, hb.read, Option.bind_some]

theorem Bind.user?_loopback (port : UInt16) : (Bind.loopback port).user? = none := by
  rw [(names_loopback port).user?_eq, HttpClient.credentialOf?]
  show (Utf8.decode? (Percent.decode [])).bind _ = none
  rw [show Utf8.decode? (Percent.decode []) = some "" from Utf8.decode?_encode ""]
  rfl

namespace StubHost

variable {host : StubHost} {b : Bind} {u : Url} {lags : Lags} {timeout : Duration} {c : Call}

/-- A stub as a client meets it whose base is that of an address. -/
def seenFrom (host : StubHost) (b : Bind) (lags : Lags) (timeout : Duration) : Api StubStore :=
  (HttpClient.ofBase b.baseUrl timeout).api (host.networkAfter lags)

/-- A health check is handled as a request for the system information. -/
theorem serve_asRead (host : StubHost) (s : StubStore) (now patience : Nat)
    (bearer : Option String) (r : Request) :
    host.serve s now patience bearer (Stub.asRead r) = host.serve s now patience bearer r := by
  cases r <;> rfl

/-- A call whose document fits comes to what the stub makes of its request. -/
theorem receive_spelledOut (hsimple : c.request.Simple) (hfits : Stub.Fits c.request)
    (first : Option Credential) (s : StubStore) (now patience : Nat) :
    host.receive s now patience (Stub.spelledOut first c) =
      host.serve s now patience (Stub.bearer? (first.getD (.bearer c.credential)).text)
        c.request := by
  rw [receive, Stub.read_spelledOut hsimple, if_pos hfits]
  exact serve_asRead host s now patience _ c.request

/-- One whose document is too large is told so, and nothing is done. -/
theorem receive_tooLarge (hsimple : c.request.Simple) (hlarge : ¬Stub.Fits c.request)
    (first : Option Credential) (s : StubStore) (now patience : Nat) :
    host.receive s now patience (Stub.spelledOut first c) = (s, Stub.tooLarge, 0) := by
  rw [receive, Stub.read_spelledOut hsimple, if_neg hlarge]

/-- Only a creation takes any time to handle. -/
theorem receive_delay_le (host : StubHost) (s : StubStore) (now patience : Nat)
    (r : IncomingRequest) :
    (host.receive s now patience r).2.2 ≤ host.options.createDelay.nanoseconds := by
  have hserve : ∀ bearer request, (host.serve s now patience bearer request).2.2 ≤
      host.options.createDelay.nanoseconds := by
    intro bearer request
    rw [serve]
    split
    · exact Nat.zero_le _
    · rename_i work _
      show Stub.delayOf host.options work ≤ _
      cases work with
      | createContainer order => exact Nat.le_refl _
      | _ => exact Nat.zero_le _
  rw [receive]
  split
  · exact Nat.zero_le _
  · exact hserve _ _

/-- An answer that is there in whole by the time limit is what the call comes to.  A
revocation that succeeds is over with the head of the answer, whatever its body. -/
theorem conclude_whole (client : HttpClient) (c : Call) (url : Url) (reply : StubReply)
    {head full : Nat} (hle : head ≤ full) (hintime : full ≤ client.timeout.nanoseconds) :
    ∃ time, head ≤ time ∧ time ≤ full ∧
      client.conclude c url (.answered head reply.status (.whole full (Stub.bodyOf reply))) =
        ⟨some time, resultOf reply c⟩ := by
  have hhead : head ≤ client.timeout.nanoseconds := Nat.le_trans hle hintime
  have hbytes : (BodyArrival.whole full (Stub.bodyOf reply)).bytesBy client.timeout.nanoseconds =
      some (Stub.bodyOf reply) := if_pos hintime
  have htime : Nat.max head ((BodyArrival.whole full (Stub.bodyOf reply)).time
      client.timeout.nanoseconds) = full := by
    rw [BodyArrival.time, show Nat.min full _ = full from Nat.min_eq_left hintime]
    exact Nat.max_eq_right hle
  rw [HttpClient.conclude]
  rw [if_pos hhead, htime, hbytes]
  by_cases hbody : (HttpClient.isSuccess reply.status && !c.request.readsBody) = true
  · refine ⟨head, Nat.le_refl head, hle, ?_⟩
    rw [if_pos hbody]
    obtain ⟨credential, r⟩ := c
    cases r with
    | revokeToken id =>
      have hok : HttpClient.isSuccess reply.status = true := by
        rw [Bool.and_eq_true] at hbody
        exact hbody.1
      rw [resultOf, HttpClient.resultOf, HttpClient.resultOf, hok, if_pos rfl, if_pos rfl]
      rfl
    | _ => exact absurd hbody (by simp [Request.readsBody])
  · refine ⟨full, hle, Nat.le_refl full, ?_⟩
    rw [if_neg hbody]
    rfl

/-- A call over HTTP comes to what the client makes of the stub's answer, unless its request
does not arrive in time. -/
theorem answer_seenFrom (hb : b.Names u) (hcredential : HttpClient.fitsHeader c.credential = true)
    (hsimple : c.request.Simple) (host : StubHost) (lags : Lags) (timeout : Duration)
    (s : StubStore) (now : Nat) :
    ∃ url, (host.seenFrom b lags timeout).answer s now c =
      let client := HttpClient.ofBase b.baseUrl timeout
      let r := Stub.spelledOut b.user? c
      let lag := lags s now r
      if timeout.nanoseconds < lag.request then (client.conclude c url .silent, s)
      else
        let x := host.receive s (now + lag.request) (timeout.nanoseconds - lag.request) r
        let head := lag.request + x.2.2 + lag.head
        (client.conclude c url
          (.answered head x.2.1.status (.whole (head + lag.body) (Stub.bodyOf x.2.1))), x.1) := by
  obtain ⟨path, hpath, hplain, hrequest⟩ :=
    HttpClient.request_ofBase hb hcredential hsimple timeout
  refine ⟨HttpClient.withoutCredential (Url.below u path), ?_⟩
  have htimeout : (HttpClient.ofBase b.baseUrl timeout).timeout = timeout := rfl
  simp only [seenFrom, HttpClient.api, hrequest, networkAfter,
    Stub.incoming_eq_spelledOut hpath hplain, hb.user?_eq, htimeout]
  split <;> rfl

/-- What is answered in time is what the call comes to, once it is there in whole. -/
theorem answer_in_time (hb : b.Names u) (hcredential : HttpClient.fitsHeader c.credential = true)
    (hsimple : c.request.Simple) {s s' : StubStore} {now delay : Nat} {reply : StubReply}
    {lag : Lag} (hlag : lags s now (Stub.spelledOut b.user? c) = lag)
    (hreceive : host.receive s (now + lag.request) (timeout.nanoseconds - lag.request)
      (Stub.spelledOut b.user? c) = (s', reply, delay))
    (hintime : lag.total + delay ≤ timeout.nanoseconds) :
    ∃ time, lag.request + delay ≤ time ∧ time ≤ lag.total + delay ∧
      (host.seenFrom b lags timeout).answer s now c = (⟨some time, resultOf reply c⟩, s') := by
  obtain ⟨url, hanswer⟩ := answer_seenFrom hb hcredential hsimple host lags timeout s now
  rw [Lag.total] at hintime
  have harrives : ¬timeout.nanoseconds < lag.request := by omega
  obtain ⟨time, hhead, hfull, hconclude⟩ :=
    conclude_whole (HttpClient.ofBase b.baseUrl timeout) c url reply
      (Nat.le_add_right (lag.request + delay + lag.head) lag.body)
      (show _ ≤ timeout.nanoseconds by omega)
  refine ⟨time, by omega, by rw [Lag.total]; omega, ?_⟩
  rw [hanswer]
  simp only [hlag, hreceive, if_neg harrives, hconclude]

end StubHost

end Shakedown
