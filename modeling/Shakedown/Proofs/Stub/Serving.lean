/-
  Shakedown.Proofs.Stub.Serving

  A stub agent over HTTP and the histories of a stub agent.  The stub at the
  other end of a network handles one request at a time, each from its arrival
  to its answer; a server of many requests that nothing comes in between does
  the same.  So what any client's calls leave such a stub with, a history
  leaves it with too, in which the requests of these calls arrive in order,
  and what every history keeps, the calls of every client keep.
-/
import Shakedown.Proofs.Stub.Ledger
import Shakedown.Stub.Agent

namespace Shakedown

variable {s : StubStore} {number arrived : Nat} {r : IncomingRequest} {request : Request}
  {reply : StubReply} {work : StubWork}

/-! ## A request alone -/

namespace StubServer

variable {o : StubProfile} {fresh : Nat → Uuid} {rest : List StubEvent} {now : Moment}
  {bearer : Option String}

theorem stageOf_alone (s : StubStore) (arrived number : Nat) (stage : StubStage) :
    (StubServer.mk s arrived [(number, stage)]).stageOf? number = some stage := by
  simp only [stageOf?, List.find?_cons, beq_self_eq_true, Option.map_some]

theorem without_alone (s : StubStore) (arrived number : Nat) (stage : StubStage) :
    (StubServer.mk s arrived [(number, stage)]).without number = ⟨s, arrived, []⟩ := by
  rw [without, List.filter_cons_of_neg (by simp), List.filter_nil]

/-- While no request waits, only an arrival changes anything. -/
theorem run_idle (hrest : ∀ e ∈ rest, e.request? = none) :
    run o fresh ⟨s, arrived, []⟩ rest = (⟨s, arrived, []⟩, []) := by
  induction rest with
  | nil => rfl
  | cons e rest ih =>
    obtain ⟨he, hrest⟩ := List.forall_mem_cons.mp hrest
    have hstep : step o fresh ⟨s, arrived, []⟩ e = (⟨s, arrived, []⟩, none) := by
      cases e with
      | arrive r => exact nomatch he
      | authorise number now => rfl
      | finish number => rfl
      | abandon number => rfl
    rw [run_cons, hstep, ih hrest]
    rfl

/-- It is read: if it cannot be, it is answered and not even counted. -/
theorem run_unreadable (hread : Stub.read r = .error reply)
    (hrest : ∀ e ∈ rest, e.request? = none) :
    run o fresh ⟨s, number, []⟩ (.arrive r :: rest) =
      (⟨s, number + 1, []⟩, [(number, reply)]) := by
  rw [run_cons, step_unreadable hread]
  dsimp only
  rw [run_idle hrest]
  rfl

/-- While the stub is starting it is counted and answered. -/
theorem run_starting (hread : Stub.read r = .ok request)
    (hstarting : Stub.isStarting o (Stub.countCall s.calls request) request = true)
    (hrest : ∀ e ∈ rest, e.request? = none) :
    run o fresh ⟨s, number, []⟩ (.arrive r :: rest) =
      (⟨s.counting request, number + 1, []⟩, [(number, .refusal 503 "starting")]) := by
  rw [run_cons, step_starting hread hstarting]
  dsimp only
  rw [run_idle hrest]
  rfl

/-- Else it is counted and waits for its token to be looked at. -/
theorem run_counted (hread : Stub.read r = .ok request)
    (hready : Stub.isStarting o (Stub.countCall s.calls request) request = false) :
    run o fresh ⟨s, number, []⟩ (.arrive r :: rest) =
      run o fresh ⟨s.counting request, number + 1, [(number, .counted r.presented request)]⟩
        rest := by
  rw [run_cons, step_counted hread hready]
  rfl

/-- Its token is looked at: if it is refused, that is its answer. -/
theorem run_refused (hauthorise : Stub.authorise o s now bearer request = .error reply)
    (hrest : ∀ e ∈ rest, e.request? = none) :
    run o fresh ⟨s, arrived, [(number, .counted bearer request)]⟩ (.authorise number now :: rest) =
      (⟨s, arrived, []⟩, [(number, reply)]) := by
  have hstage := stageOf_alone s arrived number (.counted bearer request)
  rw [run_cons, step_refused hstage hauthorise, without_alone]
  dsimp only
  rw [run_idle hrest]
  rfl

/-- Else it waits for its work to be done. -/
theorem run_admitted (hauthorise : Stub.authorise o s now bearer request = .ok work) :
    run o fresh ⟨s, arrived, [(number, .counted bearer request)]⟩ (.authorise number now :: rest) =
      run o fresh ⟨s, arrived, [(number, .admitted work)]⟩ rest := by
  have hstage := stageOf_alone s arrived number (.counted bearer request)
  rw [run_cons, step_admitted hstage hauthorise, without_alone]
  rfl

/-- Its work is done: it is answered. -/
theorem run_finished :
    run o fresh ⟨s, arrived, [(number, .admitted work)]⟩ [.finish number] =
      (⟨(Stub.perform o fresh s work).1, arrived, []⟩,
        [(number, (Stub.perform o fresh s work).2)]) := by
  rw [run_cons, step_finished (stageOf_alone s arrived number _), without_alone]
  rfl

/-- If its caller gives up first, it is not. -/
theorem run_abandoned :
    run o fresh ⟨s, arrived, [(number, .admitted work)]⟩ [.abandon number] =
      (⟨s, arrived, []⟩, []) := by
  rw [run_cons, step, without_alone]
  rfl

end StubServer

/-! ## A request to a stub on a network -/

namespace StubHost

open StubServer

variable {host : StubHost} {now patience : Nat}

theorem receive_of_unreadable (hread : Stub.read r = .error reply) :
    host.receive s now patience r = (s, reply, 0) := by
  rw [receive, hread]

/-- A request that can be read is served for the token that it presents. -/
theorem receive_of_readable (hread : Stub.read r = .ok request) :
    host.receive s now patience r = host.serve s now patience r.presented request := by
  rw [receive, hread]
  rfl

/-- What happens to a request last: its work is done, or its caller has given up by then. -/
def lastEvent (number time patience : Nat) : StubEvent :=
  if time ≤ patience then .finish number else .abandon number

theorem request?_lastEvent (number time patience : Nat) :
    (lastEvent number time patience).request? = none := by
  unfold lastEvent
  split <;> rfl

/-- What happens to a request that nothing else comes in between: it arrives, its token is looked
at, and what it was admitted for is done, unless its caller gives up first. -/
def course (host : StubHost) (s : StubStore) (now patience number : Nat) (r : IncomingRequest) :
    List StubEvent :=
  [.arrive r, .authorise number (host.clock now),
    lastEvent number (host.receive s now patience r).2.2 patience]

theorem requests_course (host : StubHost) (s : StubStore) (now patience number : Nat)
    (r : IncomingRequest) : StubEvent.requests (host.course s now patience number r) = [r] := by
  unfold course lastEvent
  split <;> rfl

/-- From its count on, a server takes a request where the stub on a network takes it. -/
theorem run_served (hready : Stub.isStarting host.options (Stub.countCall s.calls request) request =
      false) (now patience arrived number : Nat) (bearer : Option String) :
    let served := host.serve s now patience bearer request
    run host.options host.fresh ⟨s.counting request, arrived, [(number, .counted bearer request)]⟩
        [.authorise number (host.clock now), lastEvent number served.2.2 patience] =
      (⟨served.1, arrived, []⟩, if served.2.2 ≤ patience then [(number, served.2.1)] else []) := by
  have haccept : (Stub.accept host.options s (host.clock now) bearer request).2 =
      Stub.authorise host.options (s.counting request) (host.clock now) bearer request :=
    if_neg (Bool.eq_false_iff.mp hready)
  dsimp only
  cases hauthorise : Stub.authorise host.options (s.counting request) (host.clock now) bearer
      request with
  | error reply =>
    have hlast : ∀ e ∈ [lastEvent number 0 patience], e.request? = none := by
      intro e he
      rw [List.mem_singleton.mp he, request?_lastEvent]
    rw [serve_of_refused (haccept.trans hauthorise), run_refused hauthorise hlast,
      if_pos (Nat.zero_le patience)]
  | ok work =>
    rw [serve_of_admitted (haccept.trans hauthorise), run_admitted hauthorise]
    dsimp only
    -- The caller waits for the work, or does not.
    by_cases hintime : Stub.delayOf host.options work ≤ patience
    · rw [lastEvent, if_pos hintime, if_pos hintime, if_pos hintime, run_finished]
    · rw [lastEvent, if_neg hintime, if_neg hintime, if_neg hintime, run_abandoned]

/-- A server takes a request that nothing else comes in between where the stub on a network
takes it, and answers it alike if its caller waits. -/
theorem run_course (host : StubHost) (s : StubStore) (now patience number : Nat)
    (r : IncomingRequest) :
    let received := host.receive s now patience r
    run host.options host.fresh ⟨s, number, []⟩ (host.course s now patience number r) =
      (⟨received.1, number + 1, []⟩,
        if received.2.2 ≤ patience then [(number, received.2.1)] else []) := by
  have hrest : ∀ time, ∀ e ∈ [.authorise number (host.clock now), lastEvent number time patience],
      StubEvent.request? e = none := by
    intro time e he
    rcases List.mem_cons.mp he with rfl | he
    · rfl
    · rw [List.mem_singleton.mp he, request?_lastEvent]
  dsimp only
  rw [course]
  cases hread : Stub.read r with
  | error reply =>
    rw [receive_of_unreadable hread, run_unreadable hread (hrest _), if_pos (Nat.zero_le patience)]
  | ok request =>
    rw [receive_of_readable hread]
    cases hstarting : Stub.isStarting host.options (Stub.countCall s.calls request) request with
    | true =>
      have hrefused : (Stub.accept host.options s (host.clock now) r.presented request).2 =
          .error (.refusal 503 "starting") := if_pos hstarting
      rw [serve_of_refused hrefused, run_starting hread hstarting (hrest _),
        if_pos (Nat.zero_le patience)]
    | false =>
      rw [run_counted hread hstarting]
      exact run_served hstarting now patience (number + 1) number r.presented

/-! ## Calls to a stub on a network -/

variable {events : List StubEvent}

/-- A history leaves a stub with a store, and with no request that waits. -/
def Leaves (host : StubHost) (events : List StubEvent) (s : StubStore) : Prop :=
  ∃ arrived, after host.options host.fresh events = ⟨s, arrived, []⟩

theorem Leaves.store (h : host.Leaves events s) :
    (after host.options host.fresh events).store = s := by
  obtain ⟨arrived, hafter⟩ := h
  rw [hafter]

theorem leaves_nil (host : StubHost) : host.Leaves [] {} :=
  ⟨0, rfl⟩

/-- A request that arrives at a stub on a network lengthens its history by that request. -/
theorem Leaves.receive (h : host.Leaves events s) (now patience : Nat) (r : IncomingRequest) :
    ∃ more, host.Leaves (events ++ more) (host.receive s now patience r).1 ∧
      StubEvent.requests more = [r] := by
  obtain ⟨arrived, hafter⟩ := h
  refine ⟨host.course s now patience arrived r, ⟨arrived + 1, ?_⟩,
    requests_course host s now patience arrived r⟩
  rw [after, run_append]
  rw [after] at hafter
  rw [hafter, run_course]

/-- A request that does not arrive leaves it as it is. -/
theorem Leaves.exchange (h : host.Leaves events s) (lags : Lags) (now patience : Nat)
    (r : HttpRequest) :
    ∃ more, host.Leaves (events ++ more) ((host.networkAfter lags).exchange s now patience r).2 ∧
      (StubEvent.requests more).Sublist [incoming r] := by
  by_cases hlate : patience < (lags s now (incoming r)).request
  · refine ⟨[], ?_, List.nil_sublist _⟩
    rw [List.append_nil]
    simp only [networkAfter, hlate, if_true]
    exact h
  · obtain ⟨more, hleaves, hrequests⟩ := h.receive (now + (lags s now (incoming r)).request)
      (patience - (lags s now (incoming r)).request) (incoming r)
    refine ⟨more, ?_, by rw [hrequests]⟩
    simp only [networkAfter, hlate, if_false]
    exact hleaves

/-- The requests that calls make, as they come in. -/
def requestsOf (client : HttpClient) (calls : List TimedCall) : List IncomingRequest :=
  calls.filterMap fun c => (client.request c.call).toOption.map incoming

/-- A call makes one request at most. -/
theorem Leaves.call (h : host.Leaves events s) (client : HttpClient) (lags : Lags) (now : Nat)
    (c : Call) :
    ∃ more, host.Leaves (events ++ more)
        ((client.api (host.networkAfter lags)).answer s now c).2 ∧
      (StubEvent.requests more).Sublist (requestsOf client [⟨now, c⟩]) := by
  cases hrequest : client.request c with
  | error f =>
    refine ⟨[], ?_, List.nil_sublist _⟩
    simp only [HttpClient.api, hrequest, List.append_nil]
    exact h
  | ok r =>
    have hone : requestsOf client [⟨now, c⟩] = [incoming r] := by
      simp [requestsOf, hrequest, Except.toOption]
    obtain ⟨more, hleaves, hrequests⟩ := h.exchange lags now client.timeout.nanoseconds r
    refine ⟨more, ?_, by rwa [hone]⟩
    simp only [HttpClient.api, hrequest]
    exact hleaves

/-- What the calls of a client leave a stub on a network with, a history leaves it with, in which
requests of these calls arrive, in order, and no others. -/
theorem exists_history (host : StubHost) (client : HttpClient) (lags : Lags)
    (calls : List TimedCall) :
    ∃ events, host.Leaves events ((client.api (host.networkAfter lags)).after {} calls) ∧
      (StubEvent.requests events).Sublist (requestsOf client calls) := by
  -- Call after call: each lengthens the history of those before.
  induction calls using List.reverseRecOn with
  | nil => exact ⟨[], host.leaves_nil, List.nil_sublist _⟩
  | append_singleton calls c ih =>
    obtain ⟨events, hleaves, hrequests⟩ := ih
    obtain ⟨more, hmore, hlast⟩ := hleaves.call client lags c.time c.call
    refine ⟨events ++ more, ?_, ?_⟩
    · rw [Api.after_append]
      exact hmore
    · rw [StubEvent.requests_append, requestsOf, List.filterMap_append]
      exact hrequests.append hlast

/-- Whatever the calls of a client come to, a stub on a network that draws distinct identifiers has
kept its ledger: each token that was ordered is live or revoked, and none is both. -/
theorem exists_ledger (host : StubHost) (client : HttpClient) (lags : Lags)
    (calls : List TimedCall) (hdistinct : DistinctDraws host.fresh
      ((client.api (host.networkAfter lags)).after {} calls).drawn) :
    ∃ ids, ((client.api (host.networkAfter lags)).after {} calls).Keeps host.fresh ids := by
  obtain ⟨events, hleaves, -⟩ := host.exists_history client lags calls
  rw [← hleaves.store] at hdistinct ⊢
  exact ⟨_, keeps_ledger host.options host.fresh events hdistinct⟩

end StubHost

end Shakedown
