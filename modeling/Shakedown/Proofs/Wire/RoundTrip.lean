/-
  Shakedown.Proofs.Wire.RoundTrip

  The six documents that the harness and an agent exchange lose nothing on
  the wire, alone and in lists.

  Who passes a document on may keep the members of an object in another order
  than the one they were written in, sorted by name for instance.  A record is
  decoded by the names of its members, so the order tells it nothing.
-/
import Shakedown.Proofs.Wire

namespace Shakedown

open Json

namespace Json

/-! ## The order of members -/

/-- Two documents that differ in the order of an object's members at most. -/
inductive Reordered : Json → Json → Prop where
  | same (j : Json) : Reordered j j
  | members {members others : List (String × Json)} (h : members.Perm others) :
      Reordered (.object members) (.object others)

/-- A member is found wherever it stands, and found twice wherever it stands twice. -/
theorem member?_perm {members others : List (String × Json)} (h : members.Perm others)
    (name : String) : member? others name = member? members name := by
  have hvalues : (valuesOf name members).Perm (valuesOf name others) := (h.filter _).map _
  have hlength := hvalues.length_eq
  unfold member?
  match hms : valuesOf name members, hos : valuesOf name others with
  | [], [] => rfl
  | [j], [k] =>
    rw [hms, hos] at hvalues
    obtain rfl := List.singleton_inj.mp (List.perm_singleton.mp hvalues)
    rfl
  | _ :: _ :: _, _ :: _ :: _ => rfl
  | [], _ :: _ | _ :: _, [] | [_], _ :: _ :: _ | _ :: _ :: _, [_] =>
    rw [hms, hos] at hlength
    simp at hlength

/-- The fields of a record do not depend on the order of its members. -/
theorem Reordered.fields? {j k : Json} (h : Reordered j k) (names : List String) :
    k.fields? names = j.fields? names := by
  cases h with
  | same => rfl
  | members h =>
    show names.mapM _ = names.mapM _
    exact congrArg (names.mapM ·) (funext (member?_perm h))

theorem Reordered.plain {j k : Json} (h : Reordered j k) (hj : Plain j) : Plain k := by
  cases h with
  | same => exact hj
  | members h =>
    cases hj with
    | object hj => exact .object fun m hm => hj m (h.mem_iff.mpr hm)

/-! ## Documents that lose nothing -/

variable {α : Type} {encode : α → Json} {decode : Json → Option α}

/-- What is encoded decodes to what it was, in whichever order members are kept, alone and
in lists, as a document and by way of its text. -/
structure Lossless (encode : α → Json) (decode : Json → Option α) : Prop where
  alone (a : α) (j : Json) (h : Reordered (encode a) j) :
    decode j = some a ∧ (read? j.text).bind decode = some a
  listed (as : List α) (items : List Json)
    (h : List.Forall₂ (fun a j => Reordered (encode a) j) as items) :
    list? decode (.array items) = some as ∧
      (read? (Json.array items).text).bind (list? decode) = some as

theorem list?_of_forall₂ (h : ∀ a j, Reordered (encode a) j → decode j = some a) {as : List α}
    {items : List Json} (hitems : List.Forall₂ (fun a j => Reordered (encode a) j) as items) :
    list? decode (.array items) = some as := by
  show items.mapM decode = some as
  induction hitems with
  | nil => rfl
  | cons hj _ ih =>
    rw [List.mapM_cons, h _ _ hj, ih]
    rfl

theorem plain_of_forall₂ (h : ∀ a, Plain (encode a)) {as : List α} {items : List Json}
    (hitems : List.Forall₂ (fun a j => Reordered (encode a) j) as items) :
    ∀ j ∈ items, Plain j := by
  induction hitems with
  | nil => nofun
  | cons hj _ ih => exact List.forall_mem_cons.mpr ⟨hj.plain (h _), ih⟩

/-- A document that is plain, decodes to what it was, and is decoded by its fields alone
loses nothing. -/
theorem lossless_of (hdecode : ∀ a, decode (encode a) = some a) (hplain : ∀ a, Plain (encode a))
    (horder : ∀ {j k}, Reordered j k → decode k = decode j) : Lossless encode decode := by
  have hread : ∀ a j, Reordered (encode a) j → decode j = some a := fun a j h =>
    (horder h).trans (hdecode a)
  constructor
  · intro a j h
    refine ⟨hread a j h, ?_⟩
    rw [(h.plain (hplain a)).read?_text, Option.bind_some, hread a j h]
  · intro as items h
    have hitems := list?_of_forall₂ hread h
    refine ⟨hitems, ?_⟩
    rw [(Plain.array (plain_of_forall₂ hplain h)).read?_text, Option.bind_some, hitems]

end Json

/-! ## The documents on the wire -/

theorem SystemReport.lossless : Lossless toJson ofJson? :=
  lossless_of ofJson?_toJson plain_toJson fun h => by rw [ofJson?, ofJson?, h.fields?]

theorem TokenOrder.lossless : Lossless toJson ofJson? :=
  lossless_of ofJson?_toJson plain_toJson fun h => by rw [ofJson?, ofJson?, h.fields?]

theorem TokenGrant.lossless : Lossless toJson ofJson? :=
  lossless_of ofJson?_toJson plain_toJson fun h => by rw [ofJson?, ofJson?, h.fields?]

theorem ContainerOrder.lossless : Lossless toJson ofJson? :=
  lossless_of ofJson?_toJson plain_toJson fun h => by rw [ofJson?, ofJson?, h.fields?]

theorem AgentTask.lossless : Lossless toJson ofJson? :=
  lossless_of ofJson?_toJson plain_toJson fun h => by rw [ofJson?, ofJson?, h.fields?]

theorem Container.lossless : Lossless toJson ofJson? :=
  lossless_of ofJson?_toJson plain_toJson fun h => by rw [ofJson?, ofJson?, h.fields?]

/-- A description is written exactly if there is one. -/
theorem ContainerOrder.get?_description (o : ContainerOrder) :
    o.toJson.get? "description" = o.description.map .string := by
  obtain ⟨name, platform, description⟩ := o
  cases description <;> rfl

/-- All six documents come over the wire as they were sent, alone and in lists.  A task's
kind is its member `type` there, its status the word for it, and an order without a
description has no such member. -/
theorem wire_lossless :
    Lossless SystemReport.toJson SystemReport.ofJson? ∧
      Lossless TokenOrder.toJson TokenOrder.ofJson? ∧
      Lossless TokenGrant.toJson TokenGrant.ofJson? ∧
      Lossless ContainerOrder.toJson ContainerOrder.ofJson? ∧
      Lossless AgentTask.toJson AgentTask.ofJson? ∧
      Lossless Container.toJson Container.ofJson? ∧
      (∀ t : AgentTask, t.toJson.get? "type" = some (.string t.kind) ∧
        t.toJson.get? "status" = some (.string t.status.text)) ∧
      (∀ o : ContainerOrder, o.toJson.get? "description" = o.description.map .string) :=
  ⟨SystemReport.lossless, TokenOrder.lossless, TokenGrant.lossless, ContainerOrder.lossless,
    AgentTask.lossless, Container.lossless, fun _ => ⟨rfl, rfl⟩,
    ContainerOrder.get?_description⟩

end Shakedown
