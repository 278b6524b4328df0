/-
  Shakedown.Proofs.Stub.Visibility

  What a listing of tasks shows.  A stub agent records the task of every
  creation that it answers.  A listing is answered with the recorded tasks,
  latest first and cut to its limit, so a task stands as far from the front
  as there were creations after its own, whatever else has happened.
-/
import Shakedown.Proofs.Stub.Conservation

namespace Shakedown

open StubEvent

variable {o : StubProfile} {fresh : Nat → Uuid} {s : StubStore} {events before : List StubEvent}
  {number : Nat} {filter filter' : TaskFilter} {t : AgentTask} {tasks : List AgentTask}

/-! ## The tasks of creations -/

/-- The task that an answer holds. -/
def StubReply.task? (reply : StubReply) : Option AgentTask :=
  match reply.content with
  | .document j => AgentTask.ofJson? j
  | _ => none

theorem StubReply.task?_ok (t : AgentTask) : (ok t.toJson).task? = some t :=
  AgentTask.ofJson?_toJson t

/-- The task that a request had created (200). -/
def createdTask? (request : Request) (reply : StubReply) : Option AgentTask :=
  (creation? request reply).bind fun created => created.2.task?

namespace StubServer

/-- The tasks of the creations among some answers of a history. -/
def tasksIn (events : List StubEvent) (given : List (Nat × StubReply)) : List AgentTask :=
  given.filterMap fun a => (requestOf? events a.1).bind fun request => createdTask? request a.2

theorem tasksIn_append (events : List StubEvent) (given more : List (Nat × StubReply)) :
    tasksIn events (given ++ more) = tasksIn events given ++ tasksIn events more :=
  List.filterMap_append

/-- A creation was answered with a task. -/
def Created (o : StubProfile) (fresh : Nat → Uuid) (events : List StubEvent) (number : Nat)
    (reply : StubReply) (t : AgentTask) : Prop :=
  ∃ bearer order, Asks events number bearer (.createContainer order) ∧
    (number, reply) ∈ answers o fresh events ∧
    createdTask? (.createContainer order) reply = some t

/-- The tasks of all creations are those of the creations before one, its own, and those of
the creations after it. -/
theorem Created.split {reply : StubReply} (h : Created o fresh before number reply t)
    (hlater : before <+: events) :
    ∃ given since, answers o fresh events = given ++ (number, reply) :: since ∧
      said o fresh events createdTask? = tasksIn events given ++ t :: tasksIn events since := by
  obtain ⟨bearer, order, hasks, hanswer, htask⟩ := h
  obtain ⟨given, since, hsplit⟩ := List.append_of_mem ((answers_grow hlater).subset hanswer)
  refine ⟨given, since, hsplit, ?_⟩
  show tasksIn events (answers o fresh events) = _
  rw [hsplit, tasksIn_append]
  refine congrArg (tasksIn events given ++ ·) (List.filterMap_cons_some ?_)
  rw [(hasks.later hlater).requestOf?_eq]
  exact htask

/-- A stub agent that drops no tasks has recorded those of the creations that it answered. -/
theorem tasks_eq_said (hkeeps : o.dropTasks = false) (events : List StubEvent) :
    (after o fresh events).store.tasks = said o fresh events createdTask? := by
  have htasks := (records o fresh events).tasks
  rw [hkeeps, if_neg Bool.false_ne_true] at htasks
  -- The tasks that were said to be created are those in the answers to creations.
  have hsaid : said o fresh events createdTask? =
      ((said o fresh events creation?).map Prod.snd).filterMap StubReply.task? := by
    rw [said, said, List.filterMap_map, List.filterMap_filterMap]
    refine List.filterMap_congr fun a _ => ?_
    rw [Option.bind_assoc]
    rfl
  have hback : (after o fresh events).store.tasks.filterMap
      (StubReply.task? ∘ fun t => StubReply.ok t.toJson) = (after o fresh events).store.tasks :=
    (List.filterMap_congr fun t _ => StubReply.task?_ok t).trans List.filterMap_some
  rw [hsaid, ← htasks, List.filterMap_map, hback]

end StubServer

/-! ## The tasks of a store -/

namespace Stub

/-- Work leaves the tasks as they are, or it draws an identifier and records one more. -/
theorem tasks_perform (o : StubProfile) (fresh : Nat → Uuid) (s : StubStore) (work : StubWork) :
    (perform o fresh s work).1.tasks = s.tasks ∨
      (perform o fresh s work).1.tasks = s.tasks ++ [taskOf o fresh s] ∧
        s.drawn < (perform o fresh s work).1.drawn := by
  cases work with
  | createContainer order =>
    have hdrawn : s.drawn < (create o fresh s order).1.drawn := by
      cases homit : o.omitTaskId with
      | true =>
        simp only [create, homit]
        exact Nat.lt_succ_self _
      | false =>
        simp only [create, homit]
        exact Nat.lt_add_of_pos_right Nat.two_pos
    obtain ⟨id, drawn, -, heq⟩ := create_eq o fresh s order
    rw [perform]
    rw [heq] at hdrawn ⊢
    cases hdrops : o.dropTasks with
    | true => exact Or.inl (by simp only [if_true])
    | false => exact Or.inr ⟨by simp only [Bool.false_eq_true, if_false], hdrawn⟩
  | revokeToken id =>
    rw [perform, revoke]
    split <;> exact Or.inl rfl
  | _ => exact Or.inl rfl

end Stub

/-- The tasks of a store are those of creations: all of them are queued, and their identifiers,
if they are given any, differ from one another. -/
structure StubStore.Numbers (o : StubProfile) (fresh : Nat → Uuid) (s : StubStore) : Prop where
  queued : ∀ t ∈ s.tasks, t.status = .queued
  drawn : o.omitTaskId = false → ∀ t ∈ s.tasks, ∃ i < s.drawn, t.id = (fresh i).text
  distinct : o.omitTaskId = false → DistinctDraws fresh s.drawn → (s.tasks.map AgentTask.id).Nodup

namespace StubStore.Numbers

theorem empty (o : StubProfile) (fresh : Nat → Uuid) : ({} : StubStore).Numbers o fresh :=
  ⟨nofun, fun _ => nofun, fun _ _ => List.nodup_nil⟩

theorem of_same {s' : StubStore} (h : s.Numbers o fresh) (htasks : s'.tasks = s.tasks)
    (hdrawn : s.drawn ≤ s'.drawn) : s'.Numbers o fresh where
  queued := htasks ▸ h.queued
  drawn hids t ht := by
    obtain ⟨i, hi, hid⟩ := h.drawn hids t (htasks ▸ ht)
    exact ⟨i, Nat.lt_of_lt_of_le hi hdrawn, hid⟩
  distinct hids hdistinct := htasks ▸ h.distinct hids (hdistinct.of_le hdrawn)

/-- The identifier that is drawn next is none of those that tasks have. -/
theorem not_mem_next {n : Nat} (h : s.Numbers o fresh) (hids : o.omitTaskId = false)
    (hdistinct : DistinctDraws fresh n) (hn : s.drawn < n) :
    (fresh s.drawn).text ∉ s.tasks.map AgentTask.id := by
  intro hmem
  obtain ⟨t, ht, hid⟩ := List.mem_map.mp hmem
  obtain ⟨i, hi, hdrawn⟩ := h.drawn hids t ht
  have hsame : fresh s.drawn = fresh i := Uuid.text_inj (hid.symm.trans hdrawn)
  have hindex := hdistinct s.drawn hn i (Nat.lt_trans hi hn) hsame
  omega

theorem snoc {s' : StubStore} (h : s.Numbers o fresh)
    (htasks : s'.tasks = s.tasks ++ [Stub.taskOf o fresh s]) (hdrawn : s.drawn < s'.drawn) :
    s'.Numbers o fresh := by
  have hid : o.omitTaskId = false → (Stub.taskOf o fresh s).id = (fresh s.drawn).text :=
    fun hids => if_neg (Bool.eq_false_iff.mp hids)
  refine ⟨?_, ?_, ?_⟩
  · intro t ht
    rw [htasks] at ht
    rcases List.mem_append.mp ht with hold | hnew
    · exact h.queued t hold
    · rw [List.mem_singleton.mp hnew]
      rfl
  · intro hids t ht
    rw [htasks] at ht
    rcases List.mem_append.mp ht with hold | hnew
    · obtain ⟨i, hi, hid⟩ := h.drawn hids t hold
      exact ⟨i, Nat.lt_trans hi hdrawn, hid⟩
    · rw [List.mem_singleton.mp hnew]
      exact ⟨s.drawn, hdrawn, hid hids⟩
  · intro hids hdistinct
    have hold := h.distinct hids (hdistinct.of_le (Nat.le_of_lt hdrawn))
    have hnew := h.not_mem_next hids hdistinct hdrawn
    rw [htasks, List.map_append, List.map_singleton, hid hids]
    exact List.nodup_append.mpr ⟨hold, List.nodup_singleton _, fun id hmem id' hid' heq =>
      hnew (List.mem_singleton.mp hid' ▸ heq ▸ hmem)⟩

theorem perform (h : s.Numbers o fresh) (work : StubWork) :
    (Stub.perform o fresh s work).1.Numbers o fresh := by
  rcases Stub.tasks_perform o fresh s work with hsame | ⟨hsnoc, hdrawn⟩
  · exact h.of_same hsame (Stub.performs o fresh s work).drawn_le
  · exact h.snoc hsnoc hdrawn

end StubStore.Numbers

/-- So it is after every history. -/
theorem StubServer.numbers (o : StubProfile) (fresh : Nat → Uuid) (events : List StubEvent) :
    (after o fresh events).store.Numbers o fresh :=
  store_later (R := fun s s' => s.Numbers o fresh → s'.Numbers o fresh) (fun _ h => h)
    (fun hto hon h => hon (hto h)) (fun _ _ h => h.of_same rfl (Nat.le_refl _))
    (fun _ work h => h.perform work) (List.nil_prefix (l := events))
    (StubStore.Numbers.empty o fresh)

/-! ## What a filter selects -/

namespace Stub

/-- The lower-cased text of a status.  Letters outside ASCII stay as they are, for none of them
lower-cases to a letter of `queued`. -/
def lowered (status : String) : String :=
  String.ofList (status.toList.map Char.toLower)

/-- A queued task passes a filter without a status and one whose status is that. -/
theorem passes_iff_of_queued (ht : t.status = .queued) :
    passes filter t = true ↔ ∀ status, filter.status = some status → lowered status = "queued" := by
  rw [passes, ht]
  cases filter.status with
  | none => exact iff_of_true rfl nofun
  | some status =>
    dsimp only
    rw [beq_iff_eq, eq_comm]
    constructor
    · rintro h status' hstatus'
      rw [← Option.some.inj hstatus']
      exact h
    · exact fun h => h status rfl

/-- Of queued tasks such a filter selects the latest, as many as its limit lets through. -/
theorem select_of_queued (hqueued : ∀ t ∈ tasks, t.status = .queued)
    (hstatus : ∀ status, filter.status = some status → lowered status = "queued") :
    select filter tasks = tasks.reverse.take (limitOf filter tasks.length) := by
  have hall : tasks.reverse.filter (passes filter) = tasks.reverse := by
    refine List.filter_eq_self.mpr fun t ht => ?_
    exact (passes_iff_of_queued (hqueued t (List.mem_reverse.mp ht))).mpr hstatus
  rw [select, hall]

/-- Any other filter selects none of them. -/
theorem select_of_other (hqueued : ∀ t ∈ tasks, t.status = .queued) {status : String}
    (hstatus : filter.status = some status) (hother : lowered status ≠ "queued") :
    select filter tasks = [] := by
  have hnone : tasks.reverse.filter (passes filter) = [] := by
    refine List.filter_eq_nil_iff.mpr fun t ht hpasses => hother ?_
    exact (passes_iff_of_queued (hqueued t (List.mem_reverse.mp ht))).mp hpasses status hstatus
  rw [select, hnone, List.take_nil]

/-- With a smaller limit a filter selects fewer of the same tasks. -/
theorem select_prefix (hstatus : filter.status = filter'.status)
    (hlimit : ∀ n', filter'.limit = some n' → ∃ n, filter.limit = some n ∧ n.toNat ≤ n'.toNat)
    (tasks : List AgentTask) : select filter tasks <+: select filter' tasks := by
  have hpasses : passes filter = passes filter' := by
    funext t
    rw [passes, passes, hstatus]
  rw [select, select, hpasses]
  cases hlimit' : filter'.limit with
  | none =>
    -- What passes is not more than there is, so nothing is cut off.
    have hle : (tasks.reverse.filter (passes filter')).length ≤ tasks.length :=
      (List.length_filter_le _ _).trans_eq List.length_reverse
    rw [limitOf, limitOf, hlimit']
    dsimp only
    rw [List.take_of_length_le hle]
    exact List.take_prefix _ _
  | some n' =>
    obtain ⟨n, hn, hle⟩ := hlimit n' hlimit'
    rw [limitOf, limitOf, hn, hlimit']
    refine List.take_prefix_take_left ?_
    show min (max n.toNat 1) 500 ≤ min (max n'.toNat 1) 500
    omega

end Stub

/-! ## What a listing is answered with -/

/-- The place after the later ones is that of the task itself. -/
theorem getElem?_take_reverse {given since : List AgentTask} {n : Nat} (h : since.length < n) :
    ((given ++ t :: since).reverse.take n)[since.length]? = some t := by
  rw [List.getElem?_take_of_lt h, List.reverse_append, List.reverse_cons, List.append_assoc,
    List.getElem?_append_right (Nat.le_of_eq List.length_reverse), List.length_reverse,
    Nat.sub_self]
  rfl

/-- Short of that place there are only later ones. -/
theorem take_reverse_prefix {given since : List AgentTask} {n : Nat} (h : n ≤ since.length) :
    (given ++ t :: since).reverse.take n <+: since.reverse := by
  rw [List.reverse_append, List.reverse_cons, List.append_assoc,
    List.take_append_of_le_length (by rw [List.length_reverse]; exact h)]
  exact List.take_prefix _ _

namespace StubServer

/-- The work of a listing was done after these events, and it was answered with these tasks. -/
structure Lists (o : StubProfile) (fresh : Nat → Uuid) (events before : List StubEvent)
    (number : Nat) (filter : TaskFilter) (tasks : List AgentTask) : Prop where
  finishes : Finishes o fresh events before number (.listTasks filter)
  answer : (number, .ok (Json.list AgentTask.toJson tasks)) ∈ answers o fresh events

theorem Finishes.lists (h : Finishes o fresh events before number (.listTasks filter)) :
    Lists o fresh events before number filter
      (Stub.select filter (after o fresh before).store.tasks) := by
  refine ⟨h, (answers_grow h.next).subset ?_⟩
  rw [answers_snoc, step_finished h.admitted]
  exact List.mem_append_right _ (List.mem_singleton_self _)

theorem list_toJson_inj {tasks' : List AgentTask}
    (h : Json.list AgentTask.toJson tasks = Json.list AgentTask.toJson tasks') :
    tasks = tasks' := by
  have hback := congrArg (Json.list? AgentTask.ofJson?) h
  rw [Json.list?_list AgentTask.ofJson?_toJson, Json.list?_list AgentTask.ofJson?_toJson] at hback
  exact Option.some.inj hback

/-- A listing shows what its filter selects of the tasks of all creations before it. -/
theorem Lists.tasks_eq (hkeeps : o.dropTasks = false)
    (h : Lists o fresh events before number filter tasks) :
    tasks = Stub.select filter (said o fresh before createdTask?) := by
  have hreply := answer_unique h.answer h.finishes.lists.answer
  rw [tasks_eq_said hkeeps] at hreply
  exact list_toJson_inj (StubContent.document.inj (StubReply.mk.inj hreply).2)

/-- Whatever was said to be created is queued. -/
theorem queued_of_said (hkeeps : o.dropTasks = false) (events : List StubEvent) :
    ∀ t ∈ said o fresh events createdTask?, t.status = .queued := by
  rw [← tasks_eq_said hkeeps]
  exact (numbers o fresh events).queued

/-- Who is authorised before its work is done is authorised before that. -/
theorem Finishes.authorised {authorised : List StubEvent} {now : Moment} {bearer : Option String}
    {request : Request} {work : StubWork} (h : Finishes o fresh events before number work)
    (hreaches : Reaches o fresh events authorised number now bearer request) :
    authorised <+: before := by
  obtain ⟨request', hadmitted⟩ := admitted_of_stageOf h.admitted
  obtain ⟨earlier, now', bearer', hreaches', -⟩ := hadmitted
  obtain ⟨rfl, -⟩ := hreaches.unique (hreaches'.later h.earlier)
  exact hreaches'.earlier

/-! ## Visibility -/

/-- What listings show of the creations of a history. -/
structure ShowsTasks (o : StubProfile) (fresh : Nat → Uuid) (events : List StubEvent) :
    Prop where
  /-- A listing whose work is done is answered with a list of tasks (200). -/
  answered : ∀ before number filter, Finishes o fresh events before number (.listTasks filter) →
    ∃ tasks, Lists o fresh events before number filter tasks
  /-- A task whose creation was answered before a listing without a status was authorised has
  its place after the tasks of the creations since, that is, of those answered after its own,
  which is answered once.  It is there if the limit reaches so far, and otherwise the listing
  shows some of those tasks and nothing else. -/
  placed : ∀ authorised creator reply t, Created o fresh authorised creator reply t →
    ∀ number now bearer filter, Reaches o fresh events authorised number now bearer
      (.listTasks filter) → filter.status = none →
    ∀ before tasks, Lists o fresh events before number filter tasks →
    ∃ given since, answers o fresh before = given ++ (creator, reply) :: since ∧
      ((∀ n, filter.limit = some n →
          (tasksIn before since).length < min (max n.toNat 1) 500) →
        tasks[(tasksIn before since).length]? = some t) ∧
      (∀ n, filter.limit = some n →
          min (max n.toNat 1) 500 ≤ (tasksIn before since).length →
        tasks <+: (tasksIn before since).reverse ∧
          (o.omitTaskId = false →
            DistinctDraws fresh (after o fresh events).store.drawn → t ∉ tasks))
  /-- Of two listings after the same creations, for the same status, the one with the smaller
  limit shows the beginning of what the other one shows. -/
  shortened : ∀ before number filter tasks, Lists o fresh events before number filter tasks →
    ∀ before' number' filter' tasks', Lists o fresh events before' number' filter' tasks' →
    said o fresh before createdTask? = said o fresh before' createdTask? →
    filter.status = filter'.status →
    (∀ n', filter'.limit = some n' → ∃ n, filter.limit = some n ∧ n.toNat ≤ n'.toNat) →
    tasks <+: tasks'
  /-- A listing for a status shows what one without it shows if the status is `queued`, in
  letters of either case, and nothing otherwise. -/
  selected : ∀ before number filter tasks, Lists o fresh events before number filter tasks →
    ∀ status, filter.status = some status →
    (Stub.lowered status ≠ "queued" → tasks = []) ∧
    (Stub.lowered status = "queued" →
      ∀ before' number' tasks',
        Lists o fresh events before' number' { filter with status := none } tasks' →
        said o fresh before createdTask? = said o fresh before' createdTask? → tasks = tasks')

/-- No task is recorded twice, if tasks are given identifiers. -/
theorem nodup_said (hkeeps : o.dropTasks = false) (hids : o.omitTaskId = false)
    (hdistinct : DistinctDraws fresh (after o fresh events).store.drawn) :
    (said o fresh events createdTask?).Nodup := by
  rw [← tasks_eq_said hkeeps]
  exact ((numbers o fresh events).distinct hids hdistinct).of_map _

/-- A stub agent that drops no tasks shows them in every history. -/
theorem every_history_shows_tasks (o : StubProfile) (fresh : Nat → Uuid)
    (events : List StubEvent) (hkeeps : o.dropTasks = false) : ShowsTasks o fresh events where
  answered := fun before number filter hfinishes => ⟨_, hfinishes.lists⟩
  placed := by
    intro authorised creator reply t hcreated number now bearer filter hreaches hstatus before
      tasks hlists
    -- The creation was answered before the listing was authorised, and so before its work.
    obtain ⟨given, since, hsplit, hsaid⟩ := hcreated.split (hlists.finishes.authorised hreaches)
    have hselected := hlists.tasks_eq hkeeps
    rw [Stub.select_of_queued (queued_of_said hkeeps before)
      (fun status h => nomatch hstatus.symm.trans h), hsaid] at hselected
    refine ⟨given, since, hsplit, ?_, ?_⟩
    · intro hlimit
      rw [hselected]
      refine getElem?_take_reverse ?_
      rw [Stub.limitOf]
      cases hn : filter.limit with
      | none =>
        dsimp only
        rw [List.length_append, List.length_cons]
        omega
      | some n => exact hlimit n hn
    · intro n hn hlimit
      have hshort : tasks <+: (tasksIn before since).reverse := by
        rw [hselected]
        refine take_reverse_prefix ?_
        rw [Stub.limitOf, hn]
        exact hlimit
      refine ⟨hshort, ?_⟩
      intro hids hdistinct hmem
      have hnodup := nodup_said hkeeps hids
        (hdistinct.of_le (drawn_le_later hlists.finishes.earlier))
      rw [hsaid] at hnodup
      exact (List.nodup_cons.mp (List.nodup_append.mp hnodup).2.1).1
        (List.mem_reverse.mp (hshort.subset hmem))
  shortened := by
    intro before number filter tasks hlists before' number' filter' tasks' hlists' hsame hstatus
      hlimit
    rw [hlists.tasks_eq hkeeps, hlists'.tasks_eq hkeeps, hsame]
    exact Stub.select_prefix hstatus hlimit _
  selected := by
    intro before number filter tasks hlists status hstatus
    have hqueued : ∀ t ∈ said o fresh before createdTask?, t.status = .queued :=
      queued_of_said hkeeps before
    constructor
    · intro hother
      rw [hlists.tasks_eq hkeeps, Stub.select_of_other hqueued hstatus hother]
    · intro hsame before' number' tasks' hlists' hsaid
      have hlowered : ∀ status', filter.status = some status' →
          Stub.lowered status' = "queued" := by
        intro status' h
        rw [← Option.some.inj (hstatus.symm.trans h)]
        exact hsame
      have hnone : ∀ status', ({ filter with status := none } : TaskFilter).status =
          some status' → Stub.lowered status' = "queued" := nofun
      rw [hlists.tasks_eq hkeeps, hlists'.tasks_eq hkeeps, ← hsaid,
        Stub.select_of_queued hqueued hlowered, Stub.select_of_queued hqueued hnone]
      rfl

/-- A listing of tasks by the admin. -/
def listingTasks (query : String) : IncomingRequest where
  method := "GET"
  path := "/tasks"
  query := query
  authorization := some "Bearer smoke-admin"

/-- Two containers are created; then tasks are listed. -/
def listedHistory : List StubEvent :=
  [.arrive (creatingNamed "first"), .authorise 0 ⟨0, 0⟩, .finish 0,
    .arrive (creatingNamed "second"), .authorise 1 ⟨0, 0⟩, .finish 1,
    .arrive (listingTasks ""), .authorise 2 ⟨1, 0⟩, .finish 2,
    .arrive (listingTasks "limit=1"), .authorise 3 ⟨1, 0⟩, .finish 3,
    .arrive (listingTasks "status=QUEUED"), .authorise 4 ⟨1, 0⟩, .finish 4]

/-- The identifiers of the tasks that an answer lists. -/
def shownIds (reply : StubReply) : Option (List String) :=
  match reply.content with
  | .document j => (Json.list? AgentTask.ofJson? j).map fun tasks => tasks.map AgentTask.id
  | _ => none

/-- Both tasks are shown, the second one first, also for a status in capitals; a limit cuts off
the first one. -/
theorem listedHistory_shows_tasks :
    ({} : StubProfile).dropTasks = false ∧ ShowsTasks {} Uuid.ofNat listedHistory ∧
      (answers {} Uuid.ofNat listedHistory).map (fun a => (a.1, a.2.status, shownIds a.2)) =
        [(0, 200, none), (1, 200, none),
          (2, 200, some ["00000000-0000-0000-0000-000000000002",
            "00000000-0000-0000-0000-000000000000"]),
          (3, 200, some ["00000000-0000-0000-0000-000000000002"]),
          (4, 200, some ["00000000-0000-0000-0000-000000000002",
            "00000000-0000-0000-0000-000000000000"])] :=
  ⟨rfl, every_history_shows_tasks {} Uuid.ofNat listedHistory rfl, by decide +kernel⟩

end StubServer

end Shakedown
