/-
  Shakedown.Proofs.Stub.Conservation

  What a stub agent keeps is what it has answered, over whole histories.  Its
  orders, containers and tasks are those of the requests that it answered with
  success, in that order, however these and others overtook one another; and
  what it did not answer with success has left no trace but in the counters.
-/
import Shakedown.Proofs.Stub.Ledger

namespace Shakedown

open StubEvent

variable {o : StubProfile} {fresh : Nat → Uuid} {events : List StubEvent} {number : Nat}

/-! ## Answers by what they are for -/

namespace StubEvent

/-- The request with a number, if it has arrived and could be read. -/
def requestOf? (events : List StubEvent) (number : Nat) : Option Request :=
  (requests events)[number]?.bind fun r => (Stub.read r).toOption

theorem requestOf?_append (h : number < (requests events).length) (more : List StubEvent) :
    requestOf? (events ++ more) number = requestOf? events number := by
  rw [requestOf?, requests_append, List.getElem?_append_left h, requestOf?]

theorem Asks.requestOf?_eq {bearer : Option String} {request : Request}
    (h : Asks events number bearer request) : requestOf? events number = some request := by
  obtain ⟨r, harrives, hread, -⟩ := h
  rw [requestOf?, harrives, Option.bind_some, hread]
  rfl

/-- Whether an event that follows others is about the request with a number. -/
def Concerns (before : List StubEvent) (number : Nat) : StubEvent → Prop
  | .arrive _ => (requests before).length = number
  | .authorise n _ => n = number
  | .finish n => n = number
  | .abandon n => n = number

end StubEvent

/-- The order of a token that a request was granted (201). -/
def orderGranted? (request : Request) (reply : StubReply) : Option TokenOrder :=
  match request with
  | .issueToken order => if reply.status = 201 then some order else none
  | _ => none

/-- The order of a container that a request had created (200), with the answer. -/
def creation? (request : Request) (reply : StubReply) : Option (ContainerOrder × StubReply) :=
  match request with
  | .createContainer order => if reply.status = 200 then some (order, reply) else none
  | _ => none

theorem orderGranted?_of_not_success {reply : StubReply} (h : reply.isSuccess = false)
    (request : Request) : orderGranted? request reply = none := by
  cases request with
  | issueToken order =>
    exact if_neg fun hstatus => nomatch h.symm.trans (StubReply.isSuccess_iff.mpr (by omega))
  | _ => rfl

theorem creation?_of_not_success {reply : StubReply} (h : reply.isSuccess = false)
    (request : Request) : creation? request reply = none := by
  cases request with
  | createContainer order =>
    exact if_neg fun hstatus => nomatch h.symm.trans (StubReply.isSuccess_iff.mpr (by omega))
  | _ => rfl

namespace StubServer

/-- What answers say of the requests they are for, in the order of the answers. -/
def said {α : Type} (o : StubProfile) (fresh : Nat → Uuid) (events : List StubEvent)
    (saying : Request → StubReply → Option α) : List α :=
  (answers o fresh events).filterMap fun a =>
    (requestOf? events a.1).bind fun request => saying request a.2

/-- An event adds what its own answer says. -/
theorem said_snoc {α : Type} {e : StubEvent} {answer : Option (Nat × StubReply)}
    (hanswers : answers o fresh (events ++ [e]) = answers o fresh events ++ answer.toList)
    (saying : Request → StubReply → Option α) :
    said o fresh (events ++ [e]) saying = said o fresh events saying ++
      (answer.bind fun a =>
        (requestOf? (events ++ [e]) a.1).bind fun request => saying request a.2).toList := by
  have hold : (answers o fresh events).filterMap (fun a =>
      (requestOf? (events ++ [e]) a.1).bind fun request => saying request a.2) =
        said o fresh events saying := by
    refine List.filterMap_congr fun a ha => ?_
    have harrived := lt_arrived_of_answered ha
    rw [arrived_eq] at harrived
    rw [requestOf?_append harrived]
  rw [said, hanswers, List.filterMap_append, hold, Option.toList_bind,
    List.filterMap_eq_flatMap_toList]
  rfl

/-- An answer that tells of no success adds nothing to what is only said of successes. -/
theorem said_quiet {α : Type} {e : StubEvent} {answer : Option (Nat × StubReply)}
    (hanswers : answers o fresh (events ++ [e]) = answers o fresh events ++ answer.toList)
    (hquiet : ∀ a ∈ answer, a.2.isSuccess = false) {saying : Request → StubReply → Option α}
    (hsaying : ∀ {reply}, reply.isSuccess = false → ∀ request, saying request reply = none) :
    said o fresh (events ++ [e]) saying = said o fresh events saying := by
  rw [said_snoc hanswers]
  cases answer with
  | none => exact List.append_nil _
  | some a =>
    have hnone : ∀ request, saying request a.2 = none := hsaying (hquiet a rfl)
    simp only [Option.bind_some, hnone, Option.bind_fun_none, Option.toList_none, List.append_nil]

end StubServer

/-! ## What a store has recorded -/

/-- A store has recorded these orders of tokens, and these creations with their answers. -/
structure StubStore.Records (o : StubProfile) (s : StubStore) (orders : List TokenOrder)
    (creations : List (ContainerOrder × StubReply)) : Prop where
  issued : s.issued = orders
  containers : s.containers.map (fun c => (c.name, c.status, c.platform)) =
    creations.map fun created => (created.1.name, "creating", created.1.platform)
  tasks : if o.dropTasks then s.tasks = [] else
    s.tasks.map (fun t => StubReply.ok t.toJson) = creations.map Prod.snd

namespace StubStore.Records

variable {s s' : StubStore} {orders : List TokenOrder}
  {creations : List (ContainerOrder × StubReply)} {now : Moment} {who : StubCaller}
  {request : Request} {work : StubWork} {reply : StubReply}

theorem empty (o : StubProfile) : ({} : StubStore).Records o [] [] :=
  ⟨rfl, rfl, by split <;> rfl⟩

theorem of_same (h : s.Records o orders creations) (hissued : s'.issued = s.issued)
    (hcontainers : s'.containers = s.containers) (htasks : s'.tasks = s.tasks) :
    s'.Records o orders creations :=
  ⟨hissued ▸ h.issued, hcontainers ▸ h.containers, htasks ▸ h.tasks⟩

theorem issue (h : s.Records o orders creations) (order : TokenOrder) (expiresAt : Moment) :
    (Stub.issue fresh s order expiresAt).1.Records o (orders ++ [order]) creations :=
  ⟨congrArg (· ++ [order]) h.issued, h.containers, h.tasks⟩

theorem create (h : s.Records o orders creations) (order : ContainerOrder) (id : String)
    (drawn : Nat) :
    StubStore.Records o { s with
      containers := s.containers ++ [⟨id, order.name, "creating", order.platform⟩]
      tasks := if o.dropTasks then s.tasks else s.tasks ++ [Stub.taskOf o fresh s]
      drawn } orders (creations ++ [(order, .ok (Stub.taskOf o fresh s).toJson)]) where
  issued := h.issued
  containers := by
    rw [List.map_append, List.map_append, h.containers]
    rfl
  tasks := by
    have htasks := h.tasks
    split at htasks
    · rename_i hdrops
      rw [if_pos hdrops, if_pos hdrops, htasks]
    · rename_i hkeeps
      rw [if_neg hkeeps, if_neg hkeeps, List.map_append, List.map_append, htasks]
      rfl

/-- Work records what its answer says. -/
theorem does (h : s.Records o orders creations) (hdoes : Stub.Does o fresh s work s' reply)
    (hpermits : Stub.Permits o now who request work) :
    s'.Records o (orders ++ (orderGranted? request reply).toList)
      (creations ++ (creation? request reply).toList) := by
  have hnothing : ∀ {s' : StubStore}, orderGranted? request reply = none →
      creation? request reply = none → s'.Records o orders creations →
      s'.Records o (orders ++ (orderGranted? request reply).toList)
        (creations ++ (creation? request reply).toList) := by
    intro s' hgranted hcreation hrecords
    rw [hgranted, hcreation, Option.toList_none, Option.toList_none, List.append_nil,
      List.append_nil]
    exact hrecords
  cases hpermits with
  | @issueToken order expiresAt hadmin hknown hexpiry =>
    cases hdoes with
    | issues => exact (List.append_nil creations).symm ▸ h.issue order expiresAt
  | @createContainer order hallows =>
    cases hdoes with
    | creates hdrawn => exact (List.append_nil orders).symm ▸ h.create order _ _
  | revokeToken hadmin =>
    refine hnothing rfl rfl ?_
    cases hdoes with
    | revokes hlive => exact h.of_same rfl rfl rfl
    | missing hnone => exact h
  | _ =>
    refine hnothing rfl rfl ?_
    cases hdoes
    exact h

end StubStore.Records

namespace StubServer

/-- A store has recorded what was answered. -/
theorem records (o : StubProfile) (fresh : Nat → Uuid) (events : List StubEvent) :
    (after o fresh events).store.Records o (said o fresh events orderGranted?)
      (said o fresh events creation?) := by
  induction events using List.reverseRecOn with
  | nil => exact StubStore.Records.empty o
  | append_singleton events e ih =>
    obtain ⟨answer, hhappens, hanswers⟩ := happens_snoc o fresh events e
    have hquiet : (∀ a ∈ answer, a.2.isSuccess = false) → ∀ {s : StubStore},
        s.Records o (said o fresh events orderGranted?) (said o fresh events creation?) →
        s.Records o (said o fresh (events ++ [e]) orderGranted?)
          (said o fresh (events ++ [e]) creation?) := by
      intro hquiet s hrecords
      rw [said_quiet hanswers hquiet orderGranted?_of_not_success,
        said_quiet hanswers hquiet creation?_of_not_success]
      exact hrecords
    have hcounted : ∀ request, ((after o fresh events).store.counting request).Records o
        (said o fresh events orderGranted?) (said o fresh events creation?) := fun request =>
      ih.of_same rfl rfl rfl
    have hone : ∀ {number : Nat} {reply : StubReply}, reply.isSuccess = false →
        ∀ a ∈ some (number, reply), a.2.isSuccess = false := by
      rintro number reply h a ⟨⟩
      exact h
    generalize after o fresh (events ++ [e]) = server at hhappens
    cases hhappens with
    | unreadable hread => exact hquiet (hone (Stub.read_error hread)) ih
    | starting hread => exact hquiet (hone rfl) (hcounted _)
    | counted hread => exact hquiet nofun (hcounted _)
    | refused hstage hauthorise =>
      exact hquiet (hone (Stub.authorise_refuses hauthorise).not_success) ih
    | admitted hstage hauthorise => exact hquiet nofun ih
    | @finished number work hstage =>
      obtain ⟨request, hadmitted⟩ := admitted_of_stageOf hstage
      obtain ⟨before, now, bearer, who, hreaches, -, hpermits⟩ := hadmitted.permits
      have hrequest : requestOf? (events ++ [.finish number]) number = some request :=
        (hreaches.asks_later.mono _).requestOf?_eq
      rw [said_snoc hanswers, said_snoc hanswers]
      dsimp only [Option.bind_some]
      rw [hrequest]
      exact ih.does (Stub.performs o fresh _ work) hpermits
    | abandoned => exact hquiet nofun ih
    | idle hother => exact hquiet nofun ih

/-! ## Requests that leave no trace -/

/-- What is not answered with success changes nothing but the counter of its endpoint. -/
theorem harmless_of_not_success {before : List StubEvent} {e : StubEvent} {reply : StubReply}
    (hlater : before ++ [e] <+: events) (hconcerns : e.Concerns before number)
    (hanswer : (number, reply) ∈ answers o fresh events) (hfails : reply.isSuccess = false) :
    (after o fresh (before ++ [e])).store = (after o fresh before).store ∨
      ∃ r request, e = .arrive r ∧ Stub.read r = .ok request ∧
        (after o fresh (before ++ [e])).store = (after o fresh before).store.counting request := by
  obtain ⟨answer, hhappens, hanswers⟩ := happens_snoc o fresh before e
  generalize after o fresh (before ++ [e]) = server at hhappens
  cases hhappens with
  | @starting r request hread => exact Or.inr ⟨r, request, rfl, hread, rfl⟩
  | @counted r request hread => exact Or.inr ⟨r, request, rfl, hread, rfl⟩
  | @finished n work hstage =>
    obtain rfl : n = number := hconcerns
    -- The answer that its work gives is the only one.
    have hgiven : (n, (Stub.perform o fresh (after o fresh before).store work).2) ∈
        answers o fresh events := by
      refine (answers_grow hlater).subset ?_
      rw [hanswers]
      exact List.mem_append_right _ (List.mem_singleton_self _)
    obtain rfl := answer_unique hanswer hgiven
    exact Or.inl ((Stub.performs o fresh _ work).eq_of_not_success hfails)
  | _ => exact Or.inl rfl

/-! ## Conservation -/

/-- A stub agent keeps exactly what it has answered in a history. -/
structure Conserves (o : StubProfile) (fresh : Nat → Uuid) (events : List StubEvent) : Prop where
  /-- No request is answered twice. -/
  once : ((answers o fresh events).map Prod.fst).Nodup
  /-- Orders, containers and tasks are those of the successful answers. -/
  records : (after o fresh events).store.Records o (said o fresh events orderGranted?)
    (said o fresh events creation?)
  /-- Every token that was ordered is live or revoked. -/
  balance : (after o fresh events).store.issued.length =
    (after o fresh events).store.tokens.length + (after o fresh events).store.revoked.length
  /-- None was revoked twice, -/
  distinct : (after o fresh events).store.revoked.Nodup
  /-- and none that was is live. -/
  dead : ∀ t ∈ (after o fresh events).store.tokens, t.id ∉ (after o fresh events).store.revoked
  known : ∀ t ∈ (after o fresh events).store.tokens, ∀ scope ∈ t.scopes, scope ∈ stubScopes
  /-- What a request did that was not answered with success is at most that it was counted. -/
  harmless : ∀ before e number reply, before ++ [e] <+: events → e.Concerns before number →
    (number, reply) ∈ answers o fresh events → reply.isSuccess = false →
    (after o fresh (before ++ [e])).store = (after o fresh before).store ∨
      ∃ r request, e = .arrive r ∧ Stub.read r = .ok request ∧
        (after o fresh (before ++ [e])).store = (after o fresh before).store.counting request

/-- However requests overtake one another, a stub agent that draws distinct identifiers keeps
exactly what it has answered. -/
theorem every_history_conserves (o : StubProfile) (fresh : Nat → Uuid) (events : List StubEvent)
    (hdistinct : DistinctDraws fresh (after o fresh events).store.drawn) :
    Conserves o fresh events := by
  have hkeeps := keeps_ledger o fresh events hdistinct
  refine {
    once := nodup_answers o fresh events
    records := records o fresh events
    balance := ?_
    distinct := (List.nodup_append.mp hkeeps.nodup).2.1
    dead := fun t => hkeeps.not_revoked
    known := hkeeps.known
    harmless := fun _ _ _ _ => harmless_of_not_success }
  rw [hkeeps.issued, ← hkeeps.balance.length_eq, List.length_append, List.length_map]

/-- An order of a container from the admin. -/
def creatingNamed (name : String) : IncomingRequest where
  method := "POST"
  path := "/containers"
  authorization := some "Bearer smoke-admin"
  contentType := some "application/json"
  body := Text.Utf8.encode (ContainerOrder.toJson ⟨name, "linux-x64", none⟩).text

def revokingUnknown : IncomingRequest where
  method := "DELETE"
  path := "/security/tokens/00000000-0000-0000-0000-000000000000"
  authorization := some "Bearer smoke-admin"

/-- The second of two creations overtakes the first. -/
def overtakingHistory : List StubEvent :=
  [.arrive (creatingNamed "first"), .authorise 0 ⟨0, 0⟩, .arrive (creatingNamed "second"),
    .authorise 1 ⟨0, 0⟩, .finish 1, .arrive revokingUnknown, .authorise 2 ⟨1, 0⟩, .finish 0,
    .finish 2]

theorem overtakingHistory_conserves :
    DistinctDraws Uuid.ofNat (after {} Uuid.ofNat overtakingHistory).store.drawn ∧
      Conserves {} Uuid.ofNat overtakingHistory ∧
      (answers {} Uuid.ofNat overtakingHistory).map (fun a => (a.1, a.2.status)) =
        [(1, 200), (0, 200), (2, 404)] ∧
      (after {} Uuid.ofNat overtakingHistory).store.containers.map Container.name =
        ["second", "first"] := by
  have hdistinct : DistinctDraws Uuid.ofNat
      (after {} Uuid.ofNat overtakingHistory).store.drawn :=
    distinctDraws_ofNat (by decide +kernel)
  exact ⟨hdistinct, every_history_conserves {} Uuid.ofNat overtakingHistory hdistinct,
    by decide +kernel, by decide +kernel⟩

end StubServer

end Shakedown
