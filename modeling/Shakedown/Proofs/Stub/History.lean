/-
  Shakedown.Proofs.Stub.History

  Histories of a stub agent that handles any number of requests at a time.
  A history is told from its end: what its last event does follows from the
  store and the requests that the events before have left waiting, and there
  are eight things that an event can do.  So every answer can be traced back
  to the request it is for, and no request is answered twice.
-/
import Mathlib.Data.List.Induction
import Mathlib.Data.List.Nodup
import Mathlib.Data.List.Perm.Subperm
import Shakedown.Proofs.Stub.Answers
import Shakedown.Stub.Server

namespace Shakedown

variable {o : StubProfile} {fresh : Nat → Uuid} {events : List StubEvent} {number : Nat}

/-! ## Requests and their numbers -/

namespace StubEvent

/-- The request that arrives at an event. -/
def request? : StubEvent → Option IncomingRequest
  | .arrive r => some r
  | _ => none

/-- The requests that arrive, in order.  The number of a request is its place here. -/
def requests (events : List StubEvent) : List IncomingRequest :=
  events.filterMap request?

theorem requests_append (events more : List StubEvent) :
    requests (events ++ more) = requests events ++ requests more :=
  List.filterMap_append

theorem requests_arrive (events : List StubEvent) (r : IncomingRequest) :
    requests (events ++ [.arrive r]) = requests events ++ [r] :=
  requests_append events [.arrive r]

theorem requests_other {e : StubEvent} (h : e.request? = none) (events : List StubEvent) :
    requests (events ++ [e]) = requests events := by
  rw [requests_append]
  show requests events ++ List.filterMap request? [e] = _
  rw [List.filterMap_cons_none h, List.filterMap_nil, List.append_nil]

/-- A request with a number has arrived. -/
def Arrives (events : List StubEvent) (number : Nat) (r : IncomingRequest) : Prop :=
  (requests events)[number]? = some r

namespace Arrives

variable {r r' : IncomingRequest}

theorem mono (h : Arrives events number r) (more : List StubEvent) :
    Arrives (events ++ more) number r := by
  rw [Arrives, requests_append,
    List.getElem?_append_left (List.getElem?_eq_some_iff.mp h).choose]
  exact h

theorem later {before : List StubEvent} (h : Arrives before number r)
    (hlater : before <+: events) : Arrives events number r := by
  obtain ⟨more, rfl⟩ := hlater
  exact h.mono more

theorem unique (h : Arrives events number r) (h' : Arrives events number r') : r = r' :=
  Option.some.inj (h.symm.trans h')

theorem latest (events : List StubEvent) (r : IncomingRequest) :
    Arrives (events ++ [.arrive r]) (requests events).length r := by
  rw [Arrives, requests_arrive, List.getElem?_concat_length]

end Arrives

/-- A request has arrived that presents a token and could be read. -/
def Asks (events : List StubEvent) (number : Nat) (bearer : Option String)
    (request : Request) : Prop :=
  ∃ r, Arrives events number r ∧ Stub.read r = .ok request ∧ r.presented = bearer

namespace Asks

variable {bearer bearer' : Option String} {request request' : Request}

theorem later {before : List StubEvent} (h : Asks before number bearer request)
    (hlater : before <+: events) : Asks events number bearer request := by
  obtain ⟨r, harrives, hread⟩ := h
  exact ⟨r, harrives.later hlater, hread⟩

theorem mono (h : Asks events number bearer request) (more : List StubEvent) :
    Asks (events ++ more) number bearer request :=
  h.later (List.prefix_append events more)

theorem unique (h : Asks events number bearer request) (h' : Asks events number bearer' request') :
    bearer = bearer' ∧ request = request' := by
  obtain ⟨r, harrives, hread, rfl⟩ := h
  obtain ⟨r', harrives', hread', rfl⟩ := h'
  obtain rfl := harrives.unique harrives'
  exact ⟨rfl, Except.ok.inj (hread.symm.trans hread')⟩

end Asks

end StubEvent

namespace StubServer

/-! ## Histories from their end -/

/-- A stub agent after a history. -/
def after (o : StubProfile) (fresh : Nat → Uuid) (events : List StubEvent) : StubServer :=
  (run o fresh {} events).1

/-- The answers that a stub agent has given in a history. -/
def answers (o : StubProfile) (fresh : Nat → Uuid) (events : List StubEvent) :
    List (Nat × StubReply) :=
  (run o fresh {} events).2

theorem run_cons (o : StubProfile) (fresh : Nat → Uuid) (server : StubServer) (e : StubEvent)
    (rest : List StubEvent) :
    run o fresh server (e :: rest) =
      ((run o fresh (step o fresh server e).1 rest).1,
        (step o fresh server e).2.toList ++ (run o fresh (step o fresh server e).1 rest).2) := rfl

theorem run_append (o : StubProfile) (fresh : Nat → Uuid) (server : StubServer)
    (events more : List StubEvent) :
    run o fresh server (events ++ more) =
      ((run o fresh (run o fresh server events).1 more).1,
        (run o fresh server events).2 ++ (run o fresh (run o fresh server events).1 more).2) := by
  induction events generalizing server with
  | nil => rfl
  | cons e rest ih =>
    rw [List.cons_append, run_cons, run_cons, ih]
    dsimp only
    rw [List.append_assoc]

theorem after_snoc (o : StubProfile) (fresh : Nat → Uuid) (events : List StubEvent)
    (e : StubEvent) :
    after o fresh (events ++ [e]) = (step o fresh (after o fresh events) e).1 := by
  rw [after, run_append]
  rfl

theorem answers_snoc (o : StubProfile) (fresh : Nat → Uuid) (events : List StubEvent)
    (e : StubEvent) :
    answers o fresh (events ++ [e]) =
      answers o fresh events ++ (step o fresh (after o fresh events) e).2.toList := by
  rw [answers, run_append]
  show _ ++ ((step o fresh (after o fresh events) e).2.toList ++ []) = _
  rw [List.append_nil]
  rfl

/-- Answers that were given stay given. -/
theorem answers_grow {before : List StubEvent} (h : before <+: events) :
    answers o fresh before <+: answers o fresh events := by
  obtain ⟨more, rfl⟩ := h
  rw [answers, answers, run_append]
  exact List.prefix_append _ _

/-! ## What an event does -/

theorem mem_of_stageOf {server : StubServer} {stage : StubStage}
    (h : server.stageOf? number = some stage) : (number, stage) ∈ server.waiting := by
  obtain ⟨⟨found, _⟩, hfind, rfl⟩ := Option.map_eq_some_iff.mp h
  obtain rfl : found = number :=
    beq_iff_eq.mp (List.find?_some (p := fun w : Nat × StubStage => w.1 == number) hfind)
  exact List.mem_of_find?_eq_some hfind

/-- What an event does to a stub agent, and the answer it gives. -/
inductive Happens (o : StubProfile) (fresh : Nat → Uuid) (server : StubServer) :
    StubEvent → StubServer → Option (Nat × StubReply) → Prop where
  /-- A request that cannot be read is answered at once, -/
  | unreadable {r : IncomingRequest} {reply : StubReply} (hread : Stub.read r = .error reply) :
      Happens o fresh server (.arrive r) { server with arrived := server.arrived + 1 }
        (some (server.arrived, reply))
  /-- and so is one that is counted while the stub is starting; -/
  | starting {r : IncomingRequest} {request : Request} (hread : Stub.read r = .ok request) :
      Happens o fresh server (.arrive r)
        { server with store := server.store.counting request, arrived := server.arrived + 1 }
        (some (server.arrived, .refusal 503 "starting"))
  /-- every other one waits until its token is looked at. -/
  | counted {r : IncomingRequest} {request : Request} (hread : Stub.read r = .ok request) :
      Happens o fresh server (.arrive r)
        ⟨server.store.counting request, server.arrived + 1,
          server.waiting ++ [(server.arrived, .counted r.presented request)]⟩ none
  /-- Then it is refused, -/
  | refused {number : Nat} {now : Moment} {bearer : Option String} {request : Request}
      {reply : StubReply} (hstage : server.stageOf? number = some (.counted bearer request))
      (hauthorise : Stub.authorise o server.store now bearer request = .error reply) :
      Happens o fresh server (.authorise number now) (server.without number)
        (some (number, reply))
  /-- or admitted, and waits again -/
  | admitted {number : Nat} {now : Moment} {bearer : Option String} {request : Request}
      {work : StubWork} (hstage : server.stageOf? number = some (.counted bearer request))
      (hauthorise : Stub.authorise o server.store now bearer request = .ok work) :
      Happens o fresh server (.authorise number now)
        ((server.without number).waitingAt number (.admitted work)) none
  /-- until its work is done. -/
  | finished {number : Nat} {work : StubWork}
      (hstage : server.stageOf? number = some (.admitted work)) :
      Happens o fresh server (.finish number)
        { server.without number with store := (Stub.perform o fresh server.store work).1 }
        (some (number, (Stub.perform o fresh server.store work).2))
  | abandoned {number : Nat} :
      Happens o fresh server (.abandon number) (server.without number) none
  | idle {e : StubEvent} (hother : e.request? = none) : Happens o fresh server e server none

section Step

variable {server : StubServer} {now : Moment} {bearer : Option String} {request : Request}
  {reply : StubReply} {work : StubWork}

theorem step_unreadable {r : IncomingRequest} (hread : Stub.read r = .error reply) :
    step o fresh server (.arrive r) =
      ({ server with arrived := server.arrived + 1 }, some (server.arrived, reply)) := by
  rw [step, arrive, hread]

theorem step_starting {r : IncomingRequest} (hread : Stub.read r = .ok request)
    (hstarting : Stub.isStarting o (Stub.countCall server.store.calls request) request = true) :
    step o fresh server (.arrive r) =
      ({ server with store := server.store.counting request, arrived := server.arrived + 1 },
        some (server.arrived, .refusal 503 "starting")) := by
  rw [step, arrive, hread]
  exact if_pos hstarting

theorem step_counted {r : IncomingRequest} (hread : Stub.read r = .ok request)
    (hready : Stub.isStarting o (Stub.countCall server.store.calls request) request = false) :
    step o fresh server (.arrive r) =
      (⟨server.store.counting request, server.arrived + 1,
        server.waiting ++ [(server.arrived, .counted r.presented request)]⟩, none) := by
  rw [step, arrive, hread]
  exact if_neg (Bool.eq_false_iff.mp hready)

theorem step_refused (hstage : server.stageOf? number = some (.counted bearer request))
    (hauthorise : Stub.authorise o server.store now bearer request = .error reply) :
    step o fresh server (.authorise number now) =
      (server.without number, some (number, reply)) := by
  rw [step, hstage]
  dsimp only
  rw [hauthorise]

theorem step_admitted (hstage : server.stageOf? number = some (.counted bearer request))
    (hauthorise : Stub.authorise o server.store now bearer request = .ok work) :
    step o fresh server (.authorise number now) =
      ((server.without number).waitingAt number (.admitted work), none) := by
  rw [step, hstage]
  dsimp only
  rw [hauthorise]

theorem step_finished (hstage : server.stageOf? number = some (.admitted work)) :
    step o fresh server (.finish number) =
      ({ server.without number with store := (Stub.perform o fresh server.store work).1 },
        some (number, (Stub.perform o fresh server.store work).2)) := by
  rw [step, hstage]

end Step

/-- An event does one of these things. -/
theorem step_happens (o : StubProfile) (fresh : Nat → Uuid) (server : StubServer)
    (e : StubEvent) :
    Happens o fresh server e (step o fresh server e).1 (step o fresh server e).2 := by
  cases e with
  | arrive r =>
    cases hread : Stub.read r with
    | error reply =>
      rw [step_unreadable hread]
      exact .unreadable hread
    | ok request =>
      cases hstarting : Stub.isStarting o (Stub.countCall server.store.calls request) request with
      | true =>
        rw [step_starting hread hstarting]
        exact .starting hread
      | false =>
        rw [step_counted hread hstarting]
        exact .counted hread
  | authorise number now =>
    cases hstage : server.stageOf? number with
    | none =>
      rw [step, hstage]
      exact .idle rfl
    | some stage =>
      cases stage with
      | counted bearer request =>
        cases hauthorise : Stub.authorise o server.store now bearer request with
        | error reply =>
          rw [step_refused hstage hauthorise]
          exact .refused hstage hauthorise
        | ok work =>
          rw [step_admitted hstage hauthorise]
          exact .admitted hstage hauthorise
      | admitted work =>
        rw [step, hstage]
        exact .idle rfl
  | finish number =>
    cases hstage : server.stageOf? number with
    | none =>
      rw [step, hstage]
      exact .idle rfl
    | some stage =>
      cases stage with
      | counted bearer request =>
        rw [step, hstage]
        exact .idle rfl
      | admitted work =>
        rw [step_finished hstage]
        exact .finished hstage
  | abandon number => exact .abandoned

theorem happens_snoc (o : StubProfile) (fresh : Nat → Uuid) (events : List StubEvent)
    (e : StubEvent) :
    ∃ answer, Happens o fresh (after o fresh events) e (after o fresh (events ++ [e])) answer ∧
      answers o fresh (events ++ [e]) = answers o fresh events ++ answer.toList := by
  refine ⟨_, ?_, answers_snoc o fresh events e⟩
  rw [after_snoc]
  exact step_happens o fresh _ e

/-- An event leaves the store as it is, counts a request, or does a request's work. -/
theorem store_snoc (o : StubProfile) (fresh : Nat → Uuid) (events : List StubEvent)
    (e : StubEvent) :
    (after o fresh (events ++ [e])).store = (after o fresh events).store ∨
      (∃ request, (after o fresh (events ++ [e])).store =
        (after o fresh events).store.counting request) ∨
      ∃ number work, e = .finish number ∧
        (after o fresh events).stageOf? number = some (.admitted work) ∧
        (after o fresh (events ++ [e])).store =
          (Stub.perform o fresh (after o fresh events).store work).1 := by
  obtain ⟨answer, hhappens, -⟩ := happens_snoc o fresh events e
  generalize after o fresh (events ++ [e]) = server at hhappens
  cases hhappens with
  | starting hread => exact Or.inr (Or.inl ⟨_, rfl⟩)
  | counted hread => exact Or.inr (Or.inl ⟨_, rfl⟩)
  | finished hstage => exact Or.inr (Or.inr ⟨_, _, rfl, hstage, rfl⟩)
  | _ => exact Or.inl rfl

/-- What counting and work do to a store, histories do. -/
theorem store_later {R : StubStore → StubStore → Prop} (hrefl : ∀ s, R s s)
    (htrans : ∀ {s s' s''}, R s s' → R s' s'' → R s s'')
    (hcounts : ∀ s request, R s (s.counting request))
    (hworks : ∀ s work, R s (Stub.perform o fresh s work).1) {before : List StubEvent}
    (h : before <+: events) : R (after o fresh before).store (after o fresh events).store := by
  obtain ⟨more, rfl⟩ := h
  induction more using List.reverseRecOn with
  | nil =>
    rw [List.append_nil]
    exact hrefl _
  | append_singleton more e ih =>
    rw [← List.append_assoc]
    refine htrans ih ?_
    rcases store_snoc o fresh (before ++ more) e with h | ⟨request, h⟩ | ⟨number, work, -, -, h⟩
    · rw [h]
      exact hrefl _
    · rw [h]
      exact hcounts _ request
    · rw [h]
      exact hworks _ work

/-- So many requests have arrived. -/
theorem arrived_eq (o : StubProfile) (fresh : Nat → Uuid) (events : List StubEvent) :
    (after o fresh events).arrived = (StubEvent.requests events).length := by
  induction events using List.reverseRecOn with
  | nil => rfl
  | append_singleton events e ih =>
    have harrive : ∀ r, (after o fresh events).arrived + 1 =
        (StubEvent.requests (events ++ [.arrive r])).length := fun r => by
      rw [StubEvent.requests_arrive, List.length_append, ih]
      rfl
    have hother : e.request? = none →
        (after o fresh events).arrived = (StubEvent.requests (events ++ [e])).length := fun h => by
      rw [StubEvent.requests_other h, ih]
    obtain ⟨answer, hhappens, -⟩ := happens_snoc o fresh events e
    generalize after o fresh (events ++ [e]) = server at hhappens
    cases hhappens with
    | unreadable hread => exact harrive _
    | starting hread => exact harrive _
    | counted hread => exact harrive _
    | refused hstage hauthorise => exact hother rfl
    | admitted hstage hauthorise => exact hother rfl
    | finished hstage => exact hother rfl
    | abandoned => exact hother rfl
    | idle h => exact hother h

/-! ## Where waiting requests come from -/

/-- A request reaches its authorisation at a moment of a history, after these events. -/
structure Reaches (o : StubProfile) (fresh : Nat → Uuid) (events before : List StubEvent)
    (number : Nat) (now : Moment) (bearer : Option String) (request : Request) : Prop where
  next : before ++ [.authorise number now] <+: events
  counted : (after o fresh before).stageOf? number = some (.counted bearer request)

/-- What a request asks for was admitted in a history. -/
def Admitted (o : StubProfile) (fresh : Nat → Uuid) (events : List StubEvent) (number : Nat)
    (request : Request) (work : StubWork) : Prop :=
  ∃ before now bearer, Reaches o fresh events before number now bearer request ∧
    Stub.authorise o (after o fresh before).store now bearer request = .ok work

/-- The work of a request is done in a history, after these events. -/
structure Finishes (o : StubProfile) (fresh : Nat → Uuid) (events before : List StubEvent)
    (number : Nat) (work : StubWork) : Prop where
  next : before ++ [.finish number] <+: events
  admitted : (after o fresh before).stageOf? number = some (.admitted work)

section Mono

variable {before more : List StubEvent} {now : Moment} {bearer : Option String}
  {request : Request} {work : StubWork}

theorem Reaches.later (h : Reaches o fresh events before number now bearer request)
    (hlater : events <+: more) : Reaches o fresh more before number now bearer request :=
  ⟨h.next.trans hlater, h.counted⟩

theorem Admitted.later (h : Admitted o fresh events number request work)
    (hlater : events <+: more) : Admitted o fresh more number request work := by
  obtain ⟨before, now, bearer, hreaches, hauthorise⟩ := h
  exact ⟨before, now, bearer, hreaches.later hlater, hauthorise⟩

theorem Reaches.earlier (h : Reaches o fresh events before number now bearer request) :
    before <+: events :=
  (List.prefix_append before _).trans h.next

theorem Finishes.earlier (h : Finishes o fresh events before number work) : before <+: events :=
  (List.prefix_append before _).trans h.next

theorem Finishes.later (h : Finishes o fresh events before number work)
    (hlater : events <+: more) : Finishes o fresh more before number work :=
  ⟨h.next.trans hlater, h.admitted⟩

end Mono

/-- How a request came to be where it waits. -/
def Came (o : StubProfile) (fresh : Nat → Uuid) (events : List StubEvent) (number : Nat) :
    StubStage → Prop
  | .counted bearer request => StubEvent.Asks events number bearer request
  | .admitted work => ∃ request, Admitted o fresh events number request work

theorem Came.mono {stage : StubStage} (h : Came o fresh events number stage)
    (more : List StubEvent) : Came o fresh (events ++ more) number stage := by
  cases stage with
  | counted bearer request => exact StubEvent.Asks.mono h more
  | admitted work => exact Exists.imp (fun _ h => h.later (List.prefix_append _ _)) h

/-- Every request that waits came there as it should. -/
theorem came_of_waiting (o : StubProfile) (fresh : Nat → Uuid) (events : List StubEvent)
    {stage : StubStage} (h : (number, stage) ∈ (after o fresh events).waiting) :
    Came o fresh events number stage := by
  induction events using List.reverseRecOn generalizing stage with
  | nil => exact nomatch h
  | append_singleton events e ih =>
    have hold : ∀ {stage}, (number, stage) ∈ (after o fresh events).waiting →
        Came o fresh (events ++ [e]) number stage := fun h => (ih h).mono [e]
    obtain ⟨answer, hhappens, -⟩ := happens_snoc o fresh events e
    generalize after o fresh (events ++ [e]) = server at h hhappens
    cases hhappens with
    | unreadable hread => exact hold h
    | starting hread => exact hold h
    | @counted r request hread =>
      rcases List.mem_append.mp h with h | h
      · exact hold h
      · obtain ⟨rfl, rfl⟩ := Prod.mk.inj (List.mem_singleton.mp h)
        rw [arrived_eq]
        exact ⟨r, StubEvent.Arrives.latest events r, hread, rfl⟩
    | refused hstage hauthorise => exact hold (List.mem_of_mem_filter h)
    | @admitted number' now bearer request work hstage hauthorise =>
      rcases List.mem_append.mp h with h | h
      · exact hold (List.mem_of_mem_filter h)
      · obtain ⟨rfl, rfl⟩ := Prod.mk.inj (List.mem_singleton.mp h)
        exact ⟨request, events, now, bearer, ⟨List.prefix_rfl, hstage⟩, hauthorise⟩
    | finished hstage => exact hold (List.mem_of_mem_filter h)
    | abandoned => exact hold (List.mem_of_mem_filter h)
    | idle hother => exact hold h

theorem Reaches.asks {before : List StubEvent} {now : Moment} {bearer : Option String}
    {request : Request} (h : Reaches o fresh events before number now bearer request) :
    StubEvent.Asks before number bearer request :=
  came_of_waiting o fresh before (mem_of_stageOf h.counted)

theorem Reaches.asks_later {before : List StubEvent} {now : Moment} {bearer : Option String}
    {request : Request} (h : Reaches o fresh events before number now bearer request) :
    StubEvent.Asks events number bearer request :=
  h.asks.later h.earlier

theorem admitted_of_stageOf {work : StubWork}
    (h : (after o fresh events).stageOf? number = some (.admitted work)) :
    ∃ request, Admitted o fresh events number request work :=
  came_of_waiting o fresh events (mem_of_stageOf h)

/-- What was admitted was asked for by a caller who may have it done. -/
theorem Admitted.permits {request : Request} {work : StubWork}
    (h : Admitted o fresh events number request work) :
    ∃ before now bearer who, Reaches o fresh events before number now bearer request ∧
      Stub.caller o (after o fresh before).store now bearer = .ok who ∧
      Stub.Permits o now who request work := by
  obtain ⟨before, now, bearer, hreaches, hauthorise⟩ := h
  obtain ⟨who, hcaller, hpermits⟩ := Stub.permits_of_authorise hauthorise
  exact ⟨before, now, bearer, who, hreaches, hcaller, hpermits⟩

/-! ## Where answers come from -/

/-- An answer to a request, and how it comes about. -/
inductive Answered (o : StubProfile) (fresh : Nat → Uuid) (events : List StubEvent)
    (number : Nat) : StubReply → Prop where
  | unreadable {r : IncomingRequest} {reply : StubReply}
      (harrives : StubEvent.Arrives events number r) (hread : Stub.read r = .error reply) :
      Answered o fresh events number reply
  | starting {r : IncomingRequest} {request : Request}
      (harrives : StubEvent.Arrives events number r) (hread : Stub.read r = .ok request) :
      Answered o fresh events number (.refusal 503 "starting")
  | refused {before : List StubEvent} {now : Moment} {bearer : Option String}
      {request : Request} {reply : StubReply}
      (hreaches : Reaches o fresh events before number now bearer request)
      (hauthorise : Stub.authorise o (after o fresh before).store now bearer request =
        .error reply) : Answered o fresh events number reply
  | finished {before : List StubEvent} {work : StubWork}
      (hfinishes : Finishes o fresh events before number work) :
      Answered o fresh events number (Stub.perform o fresh (after o fresh before).store work).2

theorem Answered.mono {reply : StubReply} (h : Answered o fresh events number reply)
    (more : List StubEvent) : Answered o fresh (events ++ more) number reply := by
  have hlater := List.prefix_append events more
  cases h with
  | unreadable harrives hread => exact .unreadable (harrives.mono more) hread
  | starting harrives hread => exact .starting (harrives.mono more) hread
  | refused hreaches hauthorise => exact .refused (hreaches.later hlater) hauthorise
  | finished hfinishes => exact .finished (hfinishes.later hlater)

/-- Every answer comes about in one of these ways. -/
theorem answered_of_mem (o : StubProfile) (fresh : Nat → Uuid) (events : List StubEvent)
    {reply : StubReply} (h : (number, reply) ∈ answers o fresh events) :
    Answered o fresh events number reply := by
  induction events using List.reverseRecOn with
  | nil => exact nomatch h
  | append_singleton events e ih =>
    obtain ⟨answer, hhappens, hanswers⟩ := happens_snoc o fresh events e
    rw [hanswers] at h
    rcases List.mem_append.mp h with h | h
    · exact (ih h).mono [e]
    · generalize after o fresh (events ++ [e]) = server at hhappens
      cases hhappens with
      | unreadable hread =>
        obtain ⟨rfl, rfl⟩ := Prod.mk.inj (List.mem_singleton.mp h)
        rw [arrived_eq]
        exact .unreadable (StubEvent.Arrives.latest events _) hread
      | starting hread =>
        obtain ⟨rfl, rfl⟩ := Prod.mk.inj (List.mem_singleton.mp h)
        rw [arrived_eq]
        exact .starting (StubEvent.Arrives.latest events _) hread
      | refused hstage hauthorise =>
        obtain ⟨rfl, rfl⟩ := Prod.mk.inj (List.mem_singleton.mp h)
        exact .refused ⟨List.prefix_rfl, hstage⟩ hauthorise
      | finished hstage =>
        obtain ⟨rfl, rfl⟩ := Prod.mk.inj (List.mem_singleton.mp h)
        exact .finished ⟨List.prefix_rfl, hstage⟩
      | counted hread => exact nomatch h
      | admitted hstage hauthorise => exact nomatch h
      | abandoned => exact nomatch h
      | idle hother => exact nomatch h

/-- A success means that the request was admitted and its work was done. -/
theorem finishes_of_success {reply : StubReply}
    (hanswer : (number, reply) ∈ answers o fresh events) (hsuccess : reply.isSuccess = true) :
    ∃ before work, Finishes o fresh events before number work ∧
      reply = (Stub.perform o fresh (after o fresh before).store work).2 := by
  cases answered_of_mem o fresh events hanswer with
  | unreadable harrives hread => exact nomatch hsuccess.symm.trans (Stub.read_error hread)
  | starting harrives hread => exact nomatch hsuccess
  | refused hreaches hauthorise =>
    exact nomatch hsuccess.symm.trans (Stub.authorise_refuses hauthorise).not_success
  | finished hfinishes => exact ⟨_, _, hfinishes, rfl⟩

/-! ## One answer to a request -/

theorem without_sublist (server : StubServer) (number : Nat) :
    ((server.without number).waiting.map Prod.fst).Sublist (server.waiting.map Prod.fst) :=
  List.filter_sublist.map Prod.fst

theorem not_mem_without (server : StubServer) (number : Nat) :
    number ∉ (server.without number).waiting.map Prod.fst := by
  intro h
  obtain ⟨w, hw, rfl⟩ := List.mem_map.mp h
  simpa using (List.mem_filter.mp hw).2

theorem subperm_without {server : StubServer} {stage : StubStage}
    (h : server.stageOf? number = some stage) :
    ((server.without number).waiting.map Prod.fst ++ [number]).Subperm
      (server.waiting.map Prod.fst) :=
  (List.perm_append_singleton number _).subperm.trans
    (List.cons_subperm_of_not_mem_of_mem (not_mem_without server number)
      (List.mem_map.mpr ⟨_, mem_of_stageOf h, rfl⟩) (without_sublist server number).subperm)

/-- The requests that wait or are answered are among those that arrived, each once. -/
theorem numbers_subperm (o : StubProfile) (fresh : Nat → Uuid) (events : List StubEvent) :
    ((after o fresh events).waiting.map Prod.fst ++
      (answers o fresh events).map Prod.fst).Subperm
        (List.range (after o fresh events).arrived) := by
  induction events using List.reverseRecOn with
  | nil => exact List.Subperm.refl _
  | append_singleton events e ih =>
    obtain ⟨answer, hhappens, hanswers⟩ := happens_snoc o fresh events e
    rw [hanswers, List.map_append]
    generalize after o fresh (events ++ [e]) = server at hhappens
    generalize (answers o fresh events).map Prod.fst = given at ih
    generalize after o fresh events = earlier at ih hhappens
    -- A new number is answered or waits; an old one stays, or is answered instead of waiting.
    have hnew : (earlier.waiting.map Prod.fst ++ given ++ [earlier.arrived]).Subperm
        (List.range (earlier.arrived + 1)) := by
      rw [List.range_succ]
      exact ih.append (List.Subperm.refl [earlier.arrived])
    have hfewer : ∀ {waiting : List (Nat × StubStage)},
        (waiting.map Prod.fst).Subperm (earlier.waiting.map Prod.fst) →
          (waiting.map Prod.fst ++ given).Subperm (List.range earlier.arrived) :=
      fun h => ((List.subperm_append_right given).mpr h).trans ih
    have hinstead : ∀ {number stage}, earlier.stageOf? number = some stage →
        ((earlier.without number).waiting.map Prod.fst ++ (given ++ [number])).Subperm
          (List.range earlier.arrived) := fun {number stage} hstage => by
      refine (List.Perm.subperm ?_).trans
        (((List.subperm_append_right given).mpr (subperm_without hstage)).trans ih)
      rw [List.append_assoc]
      exact List.perm_append_comm.append_left _
    cases hhappens with
    | unreadable hread =>
      rw [← List.append_assoc]
      exact hnew
    | starting hread =>
      rw [← List.append_assoc]
      exact hnew
    | counted hread =>
      simp only [List.map_append, Option.toList_none, List.map_nil, List.append_nil]
      refine (List.Perm.subperm ?_).trans hnew
      rw [List.append_assoc, List.append_assoc]
      exact List.perm_append_comm.append_left _
    | refused hstage hauthorise => exact hinstead hstage
    | admitted hstage hauthorise =>
      simp only [Option.toList_none, List.map_nil, List.append_nil]
      refine hfewer ?_
      rw [waitingAt, List.map_append]
      exact subperm_without hstage
    | finished hstage => exact hinstead hstage
    | abandoned =>
      simp only [Option.toList_none, List.map_nil, List.append_nil]
      exact hfewer (without_sublist earlier _).subperm
    | idle hother =>
      simp only [Option.toList_none, List.map_nil, List.append_nil]
      exact ih

theorem lt_arrived_of_waits {stage : StubStage}
    (h : (number, stage) ∈ (after o fresh events).waiting) :
    number < (after o fresh events).arrived :=
  List.mem_range.mp ((numbers_subperm o fresh events).subset
    (List.mem_append_left _ (List.mem_map.mpr ⟨_, h, rfl⟩)))

theorem lt_arrived_of_answered {reply : StubReply}
    (h : (number, reply) ∈ answers o fresh events) : number < (after o fresh events).arrived :=
  List.mem_range.mp ((numbers_subperm o fresh events).subset
    (List.mem_append_right _ (List.mem_map.mpr ⟨_, h, rfl⟩)))

/-- So no request is answered twice. -/
theorem nodup_answers (o : StubProfile) (fresh : Nat → Uuid) (events : List StubEvent) :
    ((answers o fresh events).map Prod.fst).Nodup := by
  obtain ⟨l, hperm, hsub⟩ := numbers_subperm o fresh events
  have hall := hperm.nodup_iff.mp (List.nodup_range.sublist hsub)
  exact (List.nodup_append.mp hall).2.1

theorem answer_unique {reply reply' : StubReply}
    (hreply : (number, reply) ∈ answers o fresh events)
    (hreply' : (number, reply') ∈ answers o fresh events) : reply = reply' :=
  (Prod.mk.inj (List.inj_on_of_nodup_map (nodup_answers o fresh events) hreply hreply' rfl)).2

/-! ## One authorisation of a request -/

theorem arrived_le_later {before : List StubEvent} (h : before <+: events) :
    (after o fresh before).arrived ≤ (after o fresh events).arrived := by
  obtain ⟨more, rfl⟩ := h
  rw [arrived_eq, arrived_eq, StubEvent.requests_append, List.length_append]
  exact Nat.le_add_right _ _

/-- A request that waits for its authorisation has waited for it ever since it arrived. -/
theorem counted_earlier {before : List StubEvent} {bearer : Option String} {request : Request}
    (h : before <+: events) (harrived : number < (after o fresh before).arrived)
    (hwaits : (number, .counted bearer request) ∈ (after o fresh events).waiting) :
    (number, .counted bearer request) ∈ (after o fresh before).waiting := by
  obtain ⟨more, rfl⟩ := h
  induction more using List.reverseRecOn with
  | nil => rwa [List.append_nil] at hwaits
  | append_singleton more e ih =>
    rw [← List.append_assoc] at hwaits
    have hle : (after o fresh before).arrived ≤ (after o fresh (before ++ more)).arrived :=
      arrived_le_later (List.prefix_append _ _)
    obtain ⟨answer, hhappens, -⟩ := happens_snoc o fresh (before ++ more) e
    generalize after o fresh (before ++ more ++ [e]) = server at hwaits hhappens
    cases hhappens with
    | unreadable hread => exact ih hwaits
    | starting hread => exact ih hwaits
    | counted hread =>
      rcases List.mem_append.mp hwaits with hwaits | hwaits
      · exact ih hwaits
      · obtain ⟨rfl, -⟩ := Prod.mk.inj (List.mem_singleton.mp hwaits)
        omega
    | refused hstage hauthorise => exact ih (List.mem_of_mem_filter hwaits)
    | admitted hstage hauthorise =>
      rcases List.mem_append.mp hwaits with hwaits | hwaits
      · exact ih (List.mem_of_mem_filter hwaits)
      · cases List.mem_singleton.mp hwaits
    | finished hstage => exact ih (List.mem_of_mem_filter hwaits)
    | abandoned => exact ih (List.mem_of_mem_filter hwaits)
    | idle hother => exact ih hwaits

theorem not_counted_of_reaches {before : List StubEvent} {now : Moment}
    {bearer bearer' : Option String} {request request' : Request}
    (h : Reaches o fresh events before number now bearer request) :
    (number, .counted bearer' request') ∉
      (after o fresh (before ++ [.authorise number now])).waiting := by
  have hgone : ∀ {stage}, (number, stage) ∉ ((after o fresh before).without number).waiting :=
    fun hwaits => not_mem_without _ number (List.mem_map.mpr ⟨_, hwaits, rfl⟩)
  rw [after_snoc]
  cases hauthorise : Stub.authorise o (after o fresh before).store now bearer request with
  | error reply =>
    rw [step_refused h.counted hauthorise]
    exact hgone
  | ok work =>
    rw [step_admitted h.counted hauthorise]
    intro hwaits
    rcases List.mem_append.mp hwaits with hwaits | hwaits
    · exact hgone hwaits
    · cases List.mem_singleton.mp hwaits

/-- A request reaches its authorisation once at most. -/
theorem Reaches.unique {before before' : List StubEvent} {now now' : Moment}
    {bearer bearer' : Option String} {request request' : Request}
    (h : Reaches o fresh events before number now bearer request)
    (h' : Reaches o fresh events before' number now' bearer' request') :
    before = before' ∧ now = now' := by
  -- Before a second time, it would have to wait again.
  have honce : ∀ {before before' now now' bearer bearer' request request'},
      Reaches o fresh events before number now bearer request →
      Reaches o fresh events before' number now' bearer' request' →
      before ++ [.authorise number now] <+: before' ++ [.authorise number now'] →
      before = before' ∧ now = now' := by
    intro before before' now now' bearer bearer' request request' h h' hle
    rcases List.prefix_concat_iff.mp hle with heq | hle
    · obtain ⟨rfl, hlast⟩ := List.append_inj' heq rfl
      cases hlast
      exact ⟨rfl, rfl⟩
    · have harrived : number < (after o fresh (before ++ [.authorise number now])).arrived :=
        Nat.lt_of_lt_of_le (lt_arrived_of_waits (mem_of_stageOf h.counted))
          (arrived_le_later (List.prefix_append _ _))
      exact absurd (counted_earlier hle harrived (mem_of_stageOf h'.counted))
        (not_counted_of_reaches h)
  rcases List.prefix_or_prefix_of_prefix h.next h'.next with hle | hle
  · exact honce h h' hle
  · obtain ⟨rfl, rfl⟩ := honce h' h hle
    exact ⟨rfl, rfl⟩

end StubServer

end Shakedown
