/-
  Shakedown.Proofs.Wire

  The documents on the wire.  Each is plain, and decoding it gives the record
  it was made from, so a record that is written and read back over the wire
  is the same record.
-/
import Shakedown.Proofs.Json.Text
import Shakedown.Proofs.Uuid
import Shakedown.Wire.Container
import Shakedown.Wire.System
import Shakedown.Wire.Task
import Shakedown.Wire.Token

namespace Shakedown

open Json

variable {α : Type} {encode : α → Json} {decode : Json → Option α}

namespace Json

/-- A value that may be missing reads back, if none that is there is written `null`. -/
theorem nullable?_option (h : ∀ a, decode (encode a) = some a) (hnull : ∀ a, encode a ≠ .null)
    (x : Option α) : nullable? decode (Json.option encode x) = some x := by
  cases x with
  | none => rfl
  | some a =>
    unfold nullable?
    split
    · rename_i heq
      exact absurd heq (hnull a)
    · rw [Json.option, h, Option.map_some]

theorem list?_list (h : ∀ a, decode (encode a) = some a) (xs : List α) :
    list? decode (Json.list encode xs) = some xs := by
  show (xs.map encode).mapM decode = some xs
  induction xs with
  | nil => rfl
  | cons x xs ih =>
    rw [List.map_cons, List.mapM_cons, h, ih]
    rfl

theorem string?_string (s : String) : string? (Json.string s) = some s := rfl

theorem list?_string (xs : List String) : list? string? (Json.list .string xs) = some xs :=
  list?_list string?_string xs

theorem nullable?_string (x : Option String) :
    nullable? string? (Json.option .string x) = some x :=
  nullable?_option string?_string (fun _ => nofun) x

end Json

/-! ## The agent's report -/

theorem SystemReport.ofJson?_toJson (s : SystemReport) : ofJson? s.toJson = some s := by
  -- An uptime is read up to 2^64 - 1, which is all that it can be.
  have huptime : s.uptimeSeconds.toNat ≤ Nat.pow 2 64 - 1 :=
    Nat.le_sub_one_of_lt s.uptimeSeconds.toNat_lt
  simp [ofJson?, toJson, fields?, names, member?, valuesOf, withDefault, string?, nat, natUpTo?,
    huptime]

theorem SystemReport.plain_toJson (s : SystemReport) : Plain s.toJson := by
  refine .object ?_
  simp only [List.forall_mem_cons]
  exact ⟨.string _, .string _, .integer _, .string _, nofun⟩

/-! ## Tokens -/

theorem TokenOrder.ofJson?_toJson (o : TokenOrder) : ofJson? o.toJson = some o := by
  simp [ofJson?, toJson, fields?, names, member?, valuesOf, required, list?_string, string?]

theorem TokenOrder.plain_toJson (o : TokenOrder) : Plain o.toJson := by
  refine .object ?_
  simp only [List.forall_mem_cons]
  exact ⟨.string _, .list .string _, .string _, nofun⟩

theorem Uuid.ofJson?_toJson (u : Uuid) : Uuid.ofJson? u.toJson = some u := by
  show (some u.text).bind Uuid.ofText? = some u
  rw [Option.bind_some, Uuid.ofText?_text]

theorem TokenGrant.ofJson?_toJson (g : TokenGrant) : ofJson? g.toJson = some g := by
  have hid := nullable?_option Uuid.ofJson?_toJson (fun _ => nofun) g.id
  simp [ofJson?, toJson, fields?, names, member?, valuesOf, withDefault, list?_string, hid,
    nullable?_string, string?]

theorem TokenGrant.plain_toJson (g : TokenGrant) : Plain g.toJson := by
  refine .object ?_
  simp only [List.forall_mem_cons]
  exact ⟨.string _, .option (fun _ => .string _) _, .option .string _, .list .string _,
    .option .string _, nofun⟩

/-! ## Tasks -/

theorem TaskState.ofJson?_toJson (s : TaskState) : ofJson? s.toJson = some s := by
  rw [toJson, ofJson?, ofText_text]

theorem AgentTask.ofJson?_toJson (t : AgentTask) : ofJson? t.toJson = some t := by
  -- A progress is read up to 255, which is all that it can be.
  have hprogress : t.progress.toNat ≤ 255 := Nat.le_of_lt_succ t.progress.toNat_lt
  simp [ofJson?, toJson, fields?, names, member?, valuesOf, withDefault, nullable?_string, string?,
    TaskState.ofJson?_toJson, nat, natUpTo?, hprogress]

theorem AgentTask.plain_toJson (t : AgentTask) : Plain t.toJson := by
  refine .object ?_
  simp only [List.forall_mem_cons]
  exact ⟨.string _, .string _, .string _, .integer _, .option .string _, nofun⟩

/-! ## Containers -/

theorem ContainerOrder.ofJson?_toJson (o : ContainerOrder) : ofJson? o.toJson = some o := by
  obtain ⟨name, platform, description⟩ := o
  -- An order without a description leaves the member out.
  cases description with
  | none =>
    simp [ofJson?, toJson, fields?, names, member?, valuesOf, required, withDefault, string?]
  | some d =>
    simp [ofJson?, toJson, fields?, names, member?, valuesOf, required, withDefault, nullable?,
      string?]

theorem ContainerOrder.plain_toJson (o : ContainerOrder) : Plain o.toJson := by
  refine .object ?_
  rw [List.forall_mem_append]
  refine ⟨by simp only [List.forall_mem_cons]; exact ⟨.string _, .string _, nofun⟩, ?_⟩
  cases o.description with
  | none => exact nofun
  | some d => simp only [List.forall_mem_cons]; exact ⟨.string _, nofun⟩

theorem Container.ofJson?_toJson (c : Container) : ofJson? c.toJson = some c := by
  simp [ofJson?, toJson, fields?, names, member?, valuesOf, withDefault, string?]

theorem Container.plain_toJson (c : Container) : Plain c.toJson := by
  refine .object ?_
  simp only [List.forall_mem_cons]
  exact ⟨.string _, .string _, .string _, .string _, nofun⟩

end Shakedown
