/-
  Shakedown.Proofs.Wire.Leniency

  What the documents that an agent answers with may lack and may add.  Every
  field of theirs falls back to a default of its own, so the empty object is
  decoded to the defaults, and an object that is decoded is still decoded
  without any of its members, only the fields of those other than before;
  members with names of their own change nothing.
-/
import Mathlib.Data.List.Basic
import Shakedown.Wire.Container
import Shakedown.Wire.System
import Shakedown.Wire.Task
import Shakedown.Wire.Token

namespace Shakedown

open Json

namespace Json

variable {α : Type} {members kept more before after : List (String × Json)}
  {name other : String} {decode : Json → Option α} {default a : α}

/-! ## Members -/

/-- The names that members had and those that are kept of them have no more. -/
def gone (members kept : List (String × Json)) : List String :=
  (members.map (·.1)).filter fun name => name ∉ kept.map (·.1)

theorem mem_gone_iff :
    name ∈ gone members kept ↔ name ∈ members.map (·.1) ∧ name ∉ kept.map (·.1) := by
  rw [gone, List.mem_filter, decide_eq_true_eq]

/-- Members to which others were added, here and there, with names that are not known. -/
inductive Enlarged (known : List String) :
    List (String × Json) → List (String × Json) → Prop where
  | nil : Enlarged known [] []
  | keep {members more : List (String × Json)} (m : String × Json)
      (h : Enlarged known members more) : Enlarged known (m :: members) (m :: more)
  | add {members more : List (String × Json)} (m : String × Json) (hm : m.1 ∉ known)
      (h : Enlarged known members more) : Enlarged known members (m :: more)

theorem valuesOf_eq_nil_iff : valuesOf name members = [] ↔ name ∉ members.map (·.1) := by
  rw [valuesOf, List.map_eq_nil_iff, List.filter_eq_nil_iff, List.mem_map]
  simp only [beq_iff_eq, not_exists, not_and]

theorem valuesOf_sublist (h : kept.Sublist members) :
    (valuesOf name kept).Sublist (valuesOf name members) :=
  (h.filter _).map _

theorem valuesOf_append : valuesOf name (before ++ after) =
    valuesOf name before ++ valuesOf name after := by
  rw [valuesOf, List.filter_append, List.map_append]
  rfl

theorem valuesOf_cons_self (j : Json) :
    valuesOf name ((name, j) :: members) = j :: valuesOf name members := by
  simp [valuesOf]

theorem valuesOf_cons_of_ne (hne : other ≠ name) (j : Json) :
    valuesOf name ((other, j) :: members) = valuesOf name members := by
  simp [valuesOf, hne]

/-- Members with other names do not matter to a known one. -/
theorem Enlarged.valuesOf {known : List String} (h : Enlarged known members more)
    (hname : name ∈ known) : valuesOf name more = valuesOf name members := by
  induction h with
  | nil => rfl
  | keep m h ih =>
    rw [← List.singleton_append, valuesOf_append, ih, ← valuesOf_append, List.singleton_append]
  | add m hm h ih =>
    rw [← ih]
    have hne : m.1 ≠ name := by
      rintro rfl
      exact hm hname
    exact valuesOf_cons_of_ne hne m.2

theorem Enlarged.fields? {known : List String} (h : Enlarged known members more) :
    Json.fields? known (.object more) = Json.fields? known (.object members) := by
  have hmember : ∀ name ∈ known, member? more name = member? members name := by
    intro name hname
    rw [member?, member?, h.valuesOf hname]
  show known.mapM _ = known.mapM _
  clear h
  induction known with
  | nil => rfl
  | cons name names ih =>
    obtain ⟨hhead, htail⟩ := List.forall_mem_cons.mp hmember
    rw [List.mapM_cons, List.mapM_cons, hhead, ih htail]

/-- Without some of the members, a member is what it was, or is missing if it is gone. -/
theorem member?_of_sublist {v : Option Json} (h : kept.Sublist members)
    (hm : member? members name = some v) :
    member? kept name = some (if name ∈ gone members kept then none else v) := by
  have hsub : (valuesOf name kept).Sublist (valuesOf name members) := valuesOf_sublist h
  unfold member? at hm ⊢
  split at hm
  · rename_i hnone
    cases hm
    rw [hnone, List.sublist_nil] at hsub
    rw [hsub, ite_self]
  · rename_i j hone
    cases hm
    rw [hone] at hsub
    rcases List.sublist_singleton.mp hsub with hnone | hkept
    · have hin : name ∈ members.map (·.1) := by
        refine Decidable.byContradiction fun hout => ?_
        rw [valuesOf_eq_nil_iff.mpr hout] at hone
        exact nomatch hone
      rw [hnone, if_pos (mem_gone_iff.mpr ⟨hin, valuesOf_eq_nil_iff.mp hnone⟩)]
    · have hhere : name ∉ gone members kept := by
        intro hgone
        rw [valuesOf_eq_nil_iff.mpr (mem_gone_iff.mp hgone).2] at hkept
        exact nomatch hkept
      rw [hkept, if_neg hhere]
  · exact nomatch hm

/-! ## Fields -/

/-- The field that members give under a name: the default if it is missing, and none if it is
given twice or not of its kind. -/
def entry (default : α) (decode : Json → Option α) (members : List (String × Json))
    (name : String) : Option α :=
  (member? members name).bind (withDefault default decode)

theorem entry_of_sublist (h : kept.Sublist members)
    (ha : entry default decode members name = some a) :
    entry default decode kept name =
      some (if name ∈ gone members kept then default else a) := by
  obtain ⟨v, hv, ha⟩ := Option.bind_eq_some_iff.mp ha
  rw [entry, member?_of_sublist h hv, Option.bind_some]
  split
  · rfl
  · exact ha

theorem map_entry_of_sublist {β : Type} {f : α → β} {b : β} (h : kept.Sublist members)
    (hb : (entry default decode members name).map f = some b) :
    (entry default decode kept name).map f =
      some (if name ∈ gone members kept then f default else b) := by
  obtain ⟨a, ha, rfl⟩ := Option.map_eq_some_iff.mp hb
  rw [entry_of_sublist h ha, Option.map_some, apply_ite f]

/-- A field that is missing is at its default. -/
theorem entry_of_not_mem (h : name ∉ members.map (·.1)) :
    entry default decode members name = some default := by
  rw [entry, member?, valuesOf_eq_nil_iff.mpr h]
  rfl

/-- Another value of a member does not matter to the other fields. -/
theorem entry_replace_of_ne (hne : other ≠ name) (j k : Json) :
    entry default decode (before ++ (other, j) :: after) name =
      entry default decode (before ++ (other, k) :: after) name := by
  rw [entry, entry, member?, member?, valuesOf_append, valuesOf_append, valuesOf_cons_of_ne hne,
    valuesOf_cons_of_ne hne]

/-- In the place of a member another value of it is decoded instead. -/
theorem entry_replace {j : Json} (h : entry default decode (before ++ (name, j) :: after) name =
    some a) (k : Json) :
    entry default decode (before ++ (name, k) :: after) name = decode k := by
  obtain ⟨v, hv, -⟩ := Option.bind_eq_some_iff.mp h
  rw [member?, valuesOf_append, valuesOf_cons_self] at hv
  rw [entry, member?, valuesOf_append, valuesOf_cons_self]
  -- The member stood once, so there is none of its name on either side.
  match hb : valuesOf name before, ha : valuesOf name after with
  | [], [] => rfl
  | [], _ :: _ =>
    rw [hb, ha] at hv
    exact nomatch hv
  | [_], _ =>
    rw [hb] at hv
    exact nomatch hv
  | _ :: _ :: _, _ =>
    rw [hb] at hv
    exact nomatch hv

/-! ## Lenient decoding -/

/-- Objects are decoded leniently: the empty one is decoded, to the blank record; one that is
decoded is decoded without any of its members, and the record is then without the fields that are
gone; and members with names that are not known may be added anywhere.  A record without any of
its fields is the blank one. -/
structure Lenient (known : List String) (decode : Json → Option α) (blank : α)
    (without : List String → α → α) : Prop where
  ofNothing : decode (.object []) = some blank
  without_nil (a : α) : without [] a = a
  without_known (a : α) : without known a = blank
  forgives {members kept : List (String × Json)} {a : α} (h : decode (.object members) = some a)
      (hkept : kept.Sublist members) :
    decode (.object kept) = some (without (gone members kept) a)
  passesOver {members more : List (String × Json)} (h : Enlarged known members more) :
    decode (.object more) = decode (.object members)

end Json

variable {members kept : List (String × Json)}

/-! ## The agent's report -/

namespace SystemReport

/-- A report in which the fields of these names are at their defaults. -/
def without (names : List String) (s : SystemReport) : SystemReport where
  version := if "version" ∈ names then "" else s.version
  build := if "build" ∈ names then "" else s.build
  uptimeSeconds := if "uptime_seconds" ∈ names then 0 else s.uptimeSeconds
  driverStatus := if "driver_status" ∈ names then "" else s.driverStatus

theorem ofJson?_object_eq_some_iff {s : SystemReport} :
    ofJson? (.object members) = some s ↔
      entry "" string? members "version" = some s.version ∧
      entry "" string? members "build" = some s.build ∧
      (entry 0 (natUpTo? (Nat.pow 2 64 - 1)) members "uptime_seconds").map UInt64.ofNat =
        some s.uptimeSeconds ∧
      entry "" string? members "driver_status" = some s.driverStatus := by
  obtain ⟨version, build, uptime, driver⟩ := s
  simp only [ofJson?, fields?, names, entry, List.mapM_cons, List.mapM_nil, Option.bind_eq_bind]
  -- Without any one of the fields there is nothing on either side.
  cases member? members "version" <;> cases member? members "build" <;>
    cases member? members "uptime_seconds" <;> cases member? members "driver_status" <;>
    simp [Option.bind_eq_some_iff]
  intro _ _
  exact ⟨fun ⟨n, hn, hdriver, heq⟩ => ⟨⟨n, hn, heq⟩, hdriver⟩,
    fun ⟨⟨n, hn, heq⟩, hdriver⟩ => ⟨n, hn, hdriver, heq⟩⟩

theorem lenient : Lenient names ofJson? {} without where
  ofNothing := rfl
  without_nil _ := rfl
  without_known _ := rfl
  forgives h hkept := by
    obtain ⟨hversion, hbuild, huptime, hdriver⟩ := ofJson?_object_eq_some_iff.mp h
    exact ofJson?_object_eq_some_iff.mpr ⟨entry_of_sublist hkept hversion,
      entry_of_sublist hkept hbuild, map_entry_of_sublist hkept huptime,
      entry_of_sublist hkept hdriver⟩
  passesOver h := by rw [ofJson?, ofJson?, h.fields?]

end SystemReport

/-! ## Grants -/

namespace TokenGrant

/-- A grant in which the fields of these names are at their defaults. -/
def without (names : List String) (g : TokenGrant) : TokenGrant where
  token := if "token" ∈ names then "" else g.token
  id := if "id" ∈ names then none else g.id
  name := if "name" ∈ names then none else g.name
  scopes := if "scopes" ∈ names then [] else g.scopes
  expiresAt := if "expires_at" ∈ names then none else g.expiresAt

theorem ofJson?_object_eq_some_iff {g : TokenGrant} :
    ofJson? (.object members) = some g ↔
      entry "" string? members "token" = some g.token ∧
      entry none (nullable? Uuid.ofJson?) members "id" = some g.id ∧
      entry none (nullable? string?) members "name" = some g.name ∧
      entry [] (list? string?) members "scopes" = some g.scopes ∧
      entry none (nullable? string?) members "expires_at" = some g.expiresAt := by
  obtain ⟨token, id, name, scopes, expiresAt⟩ := g
  simp only [ofJson?, fields?, names, entry, List.mapM_cons, List.mapM_nil, Option.bind_eq_bind]
  cases member? members "token" <;> cases member? members "id" <;>
    cases member? members "name" <;> cases member? members "scopes" <;>
    cases member? members "expires_at" <;> simp [Option.bind_eq_some_iff]

theorem lenient : Lenient names ofJson? {} without where
  ofNothing := rfl
  without_nil _ := rfl
  without_known _ := rfl
  forgives h hkept := by
    obtain ⟨htoken, hid, hname, hscopes, hexpiry⟩ := ofJson?_object_eq_some_iff.mp h
    exact ofJson?_object_eq_some_iff.mpr ⟨entry_of_sublist hkept htoken,
      entry_of_sublist hkept hid, entry_of_sublist hkept hname, entry_of_sublist hkept hscopes,
      entry_of_sublist hkept hexpiry⟩
  passesOver h := by rw [ofJson?, ofJson?, h.fields?]

end TokenGrant

/-! ## Tasks -/

namespace TaskState

/-- A word is read as the status that it is the word for, and as `unknown` if it is the word for
none. -/
theorem text_ofText_or (word : String) :
    (ofText word).text = word ∨ ofText word = .unknown ∧ ∀ s : TaskState, s.text ≠ word := by
  by_cases h : ∃ s : TaskState, s.text = word
  · obtain ⟨s, rfl⟩ := h
    exact Or.inl (congrArg text (ofText_text s))
  · have hnone : ∀ s : TaskState, s.text ≠ word := fun s hs => h ⟨s, hs⟩
    have hne : ∀ s : TaskState, word ≠ s.text := fun s hs => hnone s hs.symm
    refine Or.inr ⟨?_, hnone⟩
    rw [ofText, if_neg (show word ≠ "queued" from hne queued),
      if_neg (show word ≠ "running" from hne running),
      if_neg (show word ≠ "succeeded" from hne succeeded),
      if_neg (show word ≠ "failed" from hne failed),
      if_neg (show word ≠ "cancelled" from hne cancelled)]

end TaskState

namespace AgentTask

/-- A task in which the fields of these names are at their defaults. -/
def without (names : List String) (t : AgentTask) : AgentTask where
  id := if "id" ∈ names then "" else t.id
  status := if "status" ∈ names then .unknown else t.status
  kind := if "type" ∈ names then "" else t.kind
  progress := if "progress" ∈ names then 0 else t.progress
  message := if "message" ∈ names then none else t.message

theorem ofJson?_object_eq_some_iff {t : AgentTask} :
    ofJson? (.object members) = some t ↔
      entry "" string? members "id" = some t.id ∧
      entry .unknown TaskState.ofJson? members "status" = some t.status ∧
      entry "" string? members "type" = some t.kind ∧
      (entry 0 (natUpTo? 255) members "progress").map UInt8.ofNat = some t.progress ∧
      entry none (nullable? string?) members "message" = some t.message := by
  obtain ⟨id, status, kind, progress, message⟩ := t
  simp only [ofJson?, fields?, names, entry, List.mapM_cons, List.mapM_nil, Option.bind_eq_bind]
  cases member? members "id" <;> cases member? members "status" <;>
    cases member? members "type" <;> cases member? members "progress" <;>
    cases member? members "message" <;> simp [Option.bind_eq_some_iff]
  intro _ _ _
  exact ⟨fun ⟨n, hn, hmessage, heq⟩ => ⟨⟨n, hn, heq⟩, hmessage⟩,
    fun ⟨⟨n, hn, heq⟩, hmessage⟩ => ⟨n, hn, hmessage, heq⟩⟩

theorem lenient : Lenient names ofJson? {} without where
  ofNothing := rfl
  without_nil _ := rfl
  without_known _ := rfl
  forgives h hkept := by
    obtain ⟨hid, hstatus, hkind, hprogress, hmessage⟩ := ofJson?_object_eq_some_iff.mp h
    exact ofJson?_object_eq_some_iff.mpr ⟨entry_of_sublist hkept hid,
      entry_of_sublist hkept hstatus, entry_of_sublist hkept hkind,
      map_entry_of_sublist hkept hprogress, entry_of_sublist hkept hmessage⟩
  passesOver h := by rw [ofJson?, ofJson?, h.fields?]

/-- Any text can stand in the place of the status. -/
theorem ofJson?_replace_status {before after : List (String × Json)} {old : Json} {t : AgentTask}
    (h : ofJson? (.object (before ++ ("status", old) :: after)) = some t) (word : String) :
    ofJson? (.object (before ++ ("status", .string word) :: after)) =
      some { t with status := .ofText word } := by
  obtain ⟨hid, hstatus, hkind, hprogress, hmessage⟩ := ofJson?_object_eq_some_iff.mp h
  refine ofJson?_object_eq_some_iff.mpr ⟨?_, entry_replace hstatus _, ?_, ?_, ?_⟩
  · rwa [entry_replace_of_ne (by decide) _ old]
  · rwa [entry_replace_of_ne (by decide) _ old]
  · rwa [entry_replace_of_ne (by decide) _ old]
  · rwa [entry_replace_of_ne (by decide) _ old]

/-- A task whose document gives no identifier has none. -/
theorem id_of_not_mem {t : AgentTask} (h : ofJson? (.object members) = some t)
    (hid : "id" ∉ members.map (·.1)) : t.id = "" := by
  have hentry := (ofJson?_object_eq_some_iff.mp h).1
  rw [entry_of_not_mem hid] at hentry
  exact (Option.some.inj hentry).symm

end AgentTask

/-! ## Containers -/

namespace Container

/-- A container in which the fields of these names are at their defaults. -/
def without (names : List String) (c : Container) : Container where
  id := if "id" ∈ names then "" else c.id
  name := if "name" ∈ names then "" else c.name
  status := if "status" ∈ names then "" else c.status
  platform := if "platform" ∈ names then "" else c.platform

theorem ofJson?_object_eq_some_iff {c : Container} :
    ofJson? (.object members) = some c ↔
      entry "" string? members "id" = some c.id ∧
      entry "" string? members "name" = some c.name ∧
      entry "" string? members "status" = some c.status ∧
      entry "" string? members "platform" = some c.platform := by
  obtain ⟨id, name, status, platform⟩ := c
  simp only [ofJson?, fields?, names, entry, List.mapM_cons, List.mapM_nil, Option.bind_eq_bind]
  cases member? members "id" <;> cases member? members "name" <;>
    cases member? members "status" <;> cases member? members "platform" <;>
    simp [Option.bind_eq_some_iff]

theorem lenient : Lenient names ofJson? {} without where
  ofNothing := rfl
  without_nil _ := rfl
  without_known _ := rfl
  forgives h hkept := by
    obtain ⟨hid, hname, hstatus, hplatform⟩ := ofJson?_object_eq_some_iff.mp h
    exact ofJson?_object_eq_some_iff.mpr ⟨entry_of_sublist hkept hid,
      entry_of_sublist hkept hname, entry_of_sublist hkept hstatus,
      entry_of_sublist hkept hplatform⟩
  passesOver h := by rw [ofJson?, ofJson?, h.fields?]

end Container

end Shakedown
