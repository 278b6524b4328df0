/-
  Shakedown.Proofs.Http.Acceptance

  A creation that is accepted with a document that lacks members.  The
  document is decoded all the same, so the acceptance is never taken for a
  malformed one; where the identifier is among what is missing, the scenario
  fails for that.
-/
import Shakedown.Proofs.Http.Refusals
import Shakedown.Proofs.Scenario.Course
import Shakedown.Proofs.Stub.Answers
import Shakedown.Proofs.Wire.Leniency

namespace Shakedown

open Json

namespace HttpClient

variable {σ : Type} {client : HttpClient} {net : Network σ} {p : Standing σ} {c : Call}
  {time status t : Nat} {bytes : List UInt8} {members : List (String × Json)}

/-- A successful answer that is there in whole and spells a reply answers the call with it. -/
theorem Starts.answers_of_reply {a : c.request.Reply}
    (h : Starts client net p.state p.now c time status (.whole t bytes))
    (hsuccess : isSuccess status = true) (hdecodes : c.request.decodesBody = true)
    (hintime : t ≤ client.timeout.nanoseconds) (hreply : reply? bytes c.request = some a) :
    ∃ q, (client.api net).Answers p c (.ok a) q := by
  have hbytes : (BodyArrival.whole t bytes).bytesBy client.timeout.nanoseconds = some bytes :=
    if_pos hintime
  refine ⟨_, _, congrArg Answer.delay (h.answer (readsBody_of_decodesBody hdecodes)), ?_, rfl⟩
  rw [h.result_of_decodesBody hsuccess hdecodes, hbytes, Option.bind_some, hreply]
  rfl

/-- What a creation is answered with is the task that the members of the document tell. -/
theorem reply?_of_members {order : ContainerOrder} (h : documentOf? bytes = some (.object members)) :
    reply? bytes (.createContainer order) = AgentTask.ofJson? (.object members) := by
  rw [reply?, h, Option.bind_some]
  rfl

end HttpClient

open HttpClient Scenario

/-- The documents that an agent answers with are decoded leniently: the empty object is decoded
to the defaults, an object is still decoded without any of its members, with the fields of those
at their defaults and no other field changed, and members with names that are not known change
nothing.  Any text in the place of a task's status is decoded to the status it is the word for,
or else to `unknown`.

So a successful answer to the creation of a container, its document decodable but for members
that are missing, is an acceptance with what is there; and if no member gives the identifier,
the scenario ends there, failed for the missing identifier. -/
theorem documents_are_lenient :
    Lenient SystemReport.names SystemReport.ofJson? {} SystemReport.without ∧
    Lenient TokenGrant.names TokenGrant.ofJson? {} TokenGrant.without ∧
    Lenient AgentTask.names AgentTask.ofJson? {} AgentTask.without ∧
    Lenient Container.names Container.ofJson? {} Container.without ∧
    (∀ (before after : List (String × Json)) (old : Json) (word : String) (task : AgentTask),
      AgentTask.ofJson? (.object (before ++ ("status", old) :: after)) = some task →
        ∃ status : TaskState,
          AgentTask.ofJson? (.object (before ++ ("status", .string word) :: after)) =
            some { task with status } ∧
          (status.text = word ∨ status = .unknown ∧ ∀ s : TaskState, s.text ≠ word)) ∧
    ∀ (σ : Type) (client : HttpClient) (net : Network σ) (adminToken : String)
      (token : ScopedToken) (config : ScenarioParameters) (now : Moment) (p : Standing σ)
      (time status t : Nat) (bytes : List UInt8) (members kept : List (String × Json))
      (task : AgentTask), AgentTask.ofJson? (.object members) = some task →
      kept.Sublist members → documentOf? bytes = some (.object kept) →
      Starts client net p.state p.now (creation token config now) time status (.whole t bytes) →
      isSuccess status = true → t ≤ client.timeout.nanoseconds →
      ∃ q, (client.api net).Answers p (creation token config now)
          (.ok (task.without (gone members kept))) q ∧
        ("id" ∉ kept.map (·.1) → (plan adminToken token config now).Runs (client.api net) p
          [⟨p.now, creation token config now⟩]
          (some ({ resourceName := config.resourceName now
                   cause := some .missingIdentifier }, q))) := by
  refine ⟨SystemReport.lenient, TokenGrant.lenient, AgentTask.lenient, Container.lenient, ?_, ?_⟩
  · intro before after old word task h
    exact ⟨.ofText word, AgentTask.ofJson?_replace_status h word, TaskState.text_ofText_or word⟩
  · intro σ client net adminToken token config now p time status t bytes members kept task htask
      hkept hdocument hstarts hsuccess hintime
    have hdecoded := AgentTask.lenient.forgives htask hkept
    have hreply : reply? bytes (creation token config now).request =
        some (task.without (gone members kept)) :=
      (reply?_of_members hdocument).trans hdecoded
    obtain ⟨q, hanswers⟩ := hstarts.answers_of_reply hsuccess rfl hintime hreply
    refine ⟨q, hanswers, fun hid => CreationStep.runs_of_failed (.unidentified hanswers ?_)⟩
    rw [AgentTask.id_of_not_mem hdecoded hid]
    rfl

/-! ## A task that is told by its status alone -/

/-- What is left of a document with an identifier and a status that nobody knows. -/
def bareMembers : List (String × Json) := [("status", "paused")]

def bareToken : ScopedToken := ⟨"scoped", none, "smoke-cli", .ofList [], ⟨0, 0⟩⟩

/-- What that says of a creation that is answered without an identifier. -/
theorem bare_task_accepted :
    let client := atLoopback 7845 (.ofMillis 300)
    let net := answeringNetwork 200 (Text.Utf8.encode (Json.object bareMembers).text)
    let call := creation bareToken {} ⟨0, 0⟩
    let p : Standing Unit := ⟨0, ()⟩
    AgentTask.ofJson? (.object (("id", "7f1c") :: bareMembers)) = some { id := "7f1c" } ∧
      bareMembers.Sublist (("id", "7f1c") :: bareMembers) ∧
      documentOf? (Text.Utf8.encode (Json.object bareMembers).text) =
        some (.object bareMembers) ∧
      Starts client net p.state p.now call 0 200
        (.whole 0 (Text.Utf8.encode (Json.object bareMembers).text)) ∧
      isSuccess 200 = true ∧ 0 ≤ client.timeout.nanoseconds ∧
      ∃ q, (client.api net).Answers p call (.ok ({} : AgentTask)) q ∧
        ("id" ∉ bareMembers.map (·.1) → (plan "smoke-admin" bareToken {} ⟨0, 0⟩).Runs
          (client.api net) p [⟨p.now, call⟩]
          (some ({ resourceName := ScenarioParameters.resourceName {} ⟨0, 0⟩
                   cause := some .missingIdentifier }, q))) := by
  intro client net call p
  have htask : AgentTask.ofJson? (.object (("id", "7f1c") :: bareMembers)) =
      some { id := "7f1c" } := by decide
  have hsub : bareMembers.Sublist (("id", "7f1c") :: bareMembers) := List.sublist_cons_self _ _
  have hplain : (Json.object bareMembers).Plain :=
    .object (List.forall_mem_singleton.mpr (.string _))
  have hdocument := StubHost.documentOf?_text hplain
  have hstarts : Starts client net p.state p.now call 0 200
      (.whole 0 (Text.Utf8.encode (Json.object bareMembers).text)) :=
    starts_answering (c := call) (by decide) trivial _ 200 _
  exact ⟨htask, hsub, hdocument, hstarts, rfl, Nat.zero_le _,
    documents_are_lenient.2.2.2.2.2 Unit client net "smoke-admin" bareToken {} ⟨0, 0⟩ p 0 200 0 _
      (("id", "7f1c") :: bareMembers) bareMembers { id := "7f1c" } htask hsub hdocument hstarts
      rfl (Nat.zero_le _)⟩

end Shakedown
