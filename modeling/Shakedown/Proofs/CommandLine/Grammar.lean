/-
  Shakedown.Proofs.CommandLine.Grammar

  The arguments that a command takes, told by the options that they spell one
  after the other.  What the arguments are read as can be told from the
  spelling, and nothing is read that has none.
-/
import Mathlib.Data.List.Nodup
import Shakedown.Proofs.CommandLine.Words
import Shakedown.Proofs.Except

namespace Shakedown.CommandLine

/-! ## Spellings -/

/-- Arguments that spell some items one after the other and then leave `trailing` to the
command: without the mark that ends the options there is nothing to leave. -/
inductive Spelled {α : Type} (spells : α → List String → Prop) (trailing : List String) :
    List α → List String → Prop where
  | bare (h : trailing = []) : Spelled spells trailing [] []
  | marked : Spelled spells trailing [] ("--" :: trailing)
  | cons {item : α} {items : List α} {words args : List String} (first : spells item words)
      (rest : Spelled spells trailing items args) :
      Spelled spells trailing (item :: items) (words ++ args)

namespace Spelled

variable {α β : Type} {spells : α → List String → Prop} {spells' : β → List String → Prop}
  {f : α → β} {items : List α} {images : List β} {trailing args : List String}

theorem map (hs : ∀ item words, spells item words → spells' (f item) words)
    (h : Spelled spells trailing items args) : Spelled spells' trailing (items.map f) args := by
  induction h with
  | bare h => exact .bare h
  | marked => exact .marked
  | cons first _ ih => exact .cons (hs _ _ first) ih

theorem exists_map
    (hs : ∀ image words, spells' image words → ∃ item, f item = image ∧ spells item words)
    (h : Spelled spells' trailing images args) :
    ∃ items, items.map f = images ∧ Spelled spells trailing items args := by
  induction h with
  | bare h => exact ⟨[], rfl, .bare h⟩
  | marked => exact ⟨[], rfl, .marked⟩
  | cons first _ ih =>
    obtain ⟨item, rfl, hitem⟩ := hs _ _ first
    obtain ⟨items, rfl, hitems⟩ := ih
    exact ⟨item :: items, rfl, .cons hitem hitems⟩

end Spelled

/-- The arguments that spell one option of a grammar with its value. -/
inductive Grammar.Spells (g : Grammar) : String × OptionValue → List String → Prop where
  | flag {name : String} (hkind : g.kind? name = some .flag) :
      g.Spells (name, .set) ["--" ++ name]
  | attached {name raw : String} {kind : OptionKind} {value : OptionValue}
      (hkind : g.kind? name = some kind) (hvalued : kind ≠ .flag)
      (hread : kind.read raw = .ok value) : g.Spells (name, value) ["--" ++ name ++ "=" ++ raw]
  | apart {name raw : String} {kind : OptionKind} {value : OptionValue}
      (hkind : g.kind? name = some kind) (hvalued : kind ≠ .flag)
      (hread : kind.read raw = .ok value) (hword : IsWord raw) :
      g.Spells (name, value) ["--" ++ name, raw]

/-- A grammar whose options can all be told by their names, and none is taken for a call for
help. -/
structure Grammar.WellNamed (g : Grammar) : Prop where
  nameable : ∀ o ∈ g.options, Nameable o.1
  unreserved : ∀ o ∈ g.options, o.1 ≠ "help"

section

variable {g : Grammar} {acc after given : Given} {pending waiting : Option Pending}
  {name raw arg : String} {attached : Option String} {kind : OptionKind} {value : OptionValue}
  {options : List (String × OptionValue)} {trailing args rest words : List String}

theorem Grammar.mem_of_kind? (h : g.kind? name = some kind) : (name, kind) ∈ g.options := by
  obtain ⟨o, hfind, rfl⟩ := Option.map_eq_some_iff.mp h
  have hname : o.1 = name := by simpa using List.find?_some hfind
  exact hname ▸ List.mem_of_find?_eq_some hfind

namespace Grammar.WellNamed

theorem nameable_of_kind? (hg : g.WellNamed) (h : g.kind? name = some kind) : Nameable name :=
  hg.nameable _ (mem_of_kind? h)

theorem ne_help (hg : g.WellNamed) (h : g.kind? name = some kind) : name ≠ "help" :=
  hg.unreserved _ (mem_of_kind? h)

end Grammar.WellNamed

/-! ## Settling -/

theorem Given.accept_of_read (h : kind.read raw = .ok value) :
    acc.accept name kind raw = if name ∈ acc.options.map (·.1) then .error .argumentConflict
      else .ok { acc with options := acc.options ++ [(name, value)] } := by
  have hgiven : (acc.options.any fun o => o.1 == name) = true ↔ name ∈ acc.options.map (·.1) := by
    simp only [List.any_eq_true, beq_iff_eq, List.mem_map]
  simp only [Given.accept, h, hgiven]

theorem Given.read_of_accept (h : acc.accept name kind raw = .ok after) :
    ∃ value, kind.read raw = .ok value := by
  unfold Given.accept at h
  split at h
  · exact nomatch h
  · split at h
    · exact ⟨_, ‹_›⟩
    · exact nomatch h

/-! ## Reading one argument -/

theorem Given.read_mark :
    acc.read g pending ("--" :: trailing) = acc.finish g pending trailing := by
  rw [Given.read.eq_def]
  exact if_pos rfl

theorem Given.read_marked (h : trailing = [] ∨ g.trailing = true) :
    acc.read g pending ("--" :: trailing) =
      (acc.settle pending).map fun acc => { acc with trailing } := by
  have hmay : (trailing.isEmpty || g.trailing) = true := by
    rcases h with rfl | h
    · rfl
    · rw [h, Bool.or_true]
  rw [read_mark, finish, if_pos hmay]
  cases acc.settle pending <;> rfl

theorem match_eq_bind (x : Except UsageError Given) (f : Given → Except UsageError Given) :
    (match x with
      | .ok acc => f acc
      | .error e => .error e) = x.bind f := by
  cases x <;> rfl

/-- Takes an option up: a flag and a value that is there are recorded, any other value is still
to come. -/
def Given.takeUp (g : Grammar) (acc : Given) (name : String) (kind : OptionKind)
    (attached : Option String) (rest : List String) : Except UsageError Given :=
  match kind, attached with
  | .flag, _ => (acc.accept name .flag "").bind fun acc => acc.read g none rest
  | kind, some raw => (acc.accept name kind raw).bind fun acc => acc.read g none rest
  | kind, none => acc.read g (some ⟨name, kind, none⟩) rest

theorem Given.takeUp_attached (hvalued : kind ≠ .flag) :
    acc.takeUp g name kind (some raw) rest =
      (acc.accept name kind raw).bind fun acc => acc.read g none rest := by
  cases kind with
  | flag => exact absurd rfl hvalued
  | text | path | small | large => rfl

theorem Given.takeUp_name (hvalued : kind ≠ .flag) :
    acc.takeUp g name kind none rest = acc.read g (some ⟨name, kind, none⟩) rest := by
  cases kind with
  | flag => exact absurd rfl hvalued
  | text | path | small | large => rfl

/-- An option that is known settles what is pending before it is taken up itself. -/
theorem Given.read_option (hmark : arg ≠ "--") (hlong : long? arg = some (name, attached))
    (hhelp : name ≠ "help") (hkind : g.kind? name = some kind)
    (hfits : attached = none ∨ kind ≠ .flag) :
    acc.read g pending (arg :: rest) =
      (acc.settle pending).bind fun acc => acc.takeUp g name kind attached rest := by
  rw [Given.read.eq_def]
  simp only [hmark, if_false, hlong]
  split
  · rename_i heq
    exact absurd (Prod.mk.inj (Option.some.inj heq)).1 hhelp
  · rename_i heq
    exact absurd (Prod.mk.inj (Option.some.inj heq)).1 hhelp
  · rename_i heq
    obtain ⟨rfl, rfl⟩ := Prod.mk.inj (Option.some.inj heq)
    rw [hkind]
    cases acc.settle pending with
    | error e => cases kind <;> cases attached <;> first | rfl | simp at hfits
    | ok acc =>
      cases kind with
      | flag =>
        cases attached with
        | none => exact match_eq_bind _ _
        | some raw => simp at hfits
      | text | path | small | large =>
        cases attached with
        | none => rfl
        | some raw => exact match_eq_bind _ _
  · rename_i heq
    exact nomatch heq

/-- A flag settles what is pending and is recorded. -/
theorem Given.read_flag (hg : g.WellNamed) (hkind : g.kind? name = some .flag) :
    acc.read g pending (("--" ++ name) :: rest) = (acc.settle pending).bind fun acc =>
      (acc.accept name .flag "").bind fun acc => acc.read g none rest := by
  have hlong := long?_name (hg.nameable_of_kind? hkind)
  exact read_option (ne_mark_of_long? hlong) hlong (hg.ne_help hkind) hkind (.inl rfl)

/-- So is an option with its value attached. -/
theorem Given.read_attached (hg : g.WellNamed) (hkind : g.kind? name = some kind)
    (hvalued : kind ≠ .flag) :
    acc.read g pending (("--" ++ name ++ "=" ++ raw) :: rest) =
      (acc.settle pending).bind fun acc =>
        (acc.accept name kind raw).bind fun acc => acc.read g none rest := by
  have hlong := long?_attached (hg.nameable_of_kind? hkind) raw
  simp only [read_option (ne_mark_of_long? hlong) hlong (hg.ne_help hkind) hkind (.inr hvalued),
    takeUp_attached hvalued]

/-- An option without a value waits for it. -/
theorem Given.read_name (hg : g.WellNamed) (hkind : g.kind? name = some kind)
    (hvalued : kind ≠ .flag) :
    acc.read g pending (("--" ++ name) :: rest) =
      (acc.settle pending).bind fun acc => acc.read g (some ⟨name, kind, none⟩) rest := by
  have hlong := long?_name (hg.nameable_of_kind? hkind)
  simp only [read_option (ne_mark_of_long? hlong) hlong (hg.ne_help hkind) hkind (.inl rfl),
    takeUp_name hvalued]

theorem Given.read_word (h : IsWord raw) :
    acc.read g (some ⟨name, kind, none⟩) (raw :: rest) =
      acc.read g (some ⟨name, kind, some raw⟩) rest := by
  obtain ⟨hmark, hlong, hshort⟩ := isWord_iff.mp h
  rw [read, if_neg hmark, hlong, hshort]

/-! ## Reading a spelling -/

/-- What is pending is settled before a spelling is read: it starts with no word. -/
theorem Given.read_settle (hg : g.WellNamed) (h : Spelled g.Spells trailing options args)
    (htrailing : trailing = [] ∨ g.trailing = true) :
    acc.read g pending args = (acc.settle pending).bind fun acc => acc.read g none args := by
  have hsettled : ∀ x : Except UsageError Given, x.bind .ok = x := by
    intro x
    cases x <;> rfl
  cases h with
  | bare _ => exact (hsettled _).symm
  | marked =>
    simp only [read_marked htrailing]
    cases acc.settle pending <;> rfl
  | cons first rest =>
    cases first with
    | flag hkind =>
      simp only [List.cons_append, List.nil_append, read_flag hg hkind]
      rfl
    | attached hkind hvalued _ =>
      simp only [List.cons_append, List.nil_append, read_attached hg hkind hvalued]
      rfl
    | apart hkind hvalued _ _ =>
      simp only [List.cons_append, List.nil_append, read_name hg hkind hvalued]
      rfl

/-- An option that is spelled out is recorded, unless it was before. -/
theorem Given.read_spells (hg : g.WellNamed) (hfirst : g.Spells (name, value) words)
    (h : Spelled g.Spells trailing options args) (htrailing : trailing = [] ∨ g.trailing = true) :
    acc.read g none (words ++ args) =
      if name ∈ acc.options.map (·.1) then .error .argumentConflict
      else { acc with options := acc.options ++ [(name, value)] }.read g none args := by
  have hrecord : ∀ {kind raw}, kind.read raw = .ok value →
      ((acc.accept name kind raw).bind fun acc => acc.read g none args) =
        if name ∈ acc.options.map (·.1) then .error .argumentConflict
        else { acc with options := acc.options ++ [(name, value)] }.read g none args := by
    intro kind raw hread
    rw [accept_of_read hread]
    split <;> rfl
  cases hfirst with
  | flag hkind =>
    rw [List.singleton_append, read_flag hg hkind]
    exact hrecord rfl
  | attached hkind hvalued hread =>
    rw [List.singleton_append, read_attached hg hkind hvalued]
    exact hrecord hread
  | apart hkind hvalued hread hword =>
    rw [List.cons_append, List.singleton_append, read_name hg hkind hvalued]
    exact (read_word hword).trans ((read_settle hg h htrailing).trans (hrecord hread))

/-- A spelling that follows some options adds its own to them, unless it gives one again. -/
theorem Given.read_spelled_after (hg : g.WellNamed) (h : Spelled g.Spells trailing options args)
    (htrailing : trailing = [] ∨ g.trailing = true) :
    ∀ {before : List (String × OptionValue)}, (before.map (·.1)).Nodup →
      (Given.mk before []).read g none args =
        if ((before ++ options).map (·.1)).Nodup then .ok ⟨before ++ options, trailing⟩
        else .error .argumentConflict := by
  -- The options that come first are recorded before the rest is read.
  induction h with
  | bare hnone =>
    intro before hbefore
    rw [List.append_nil, if_pos hbefore, hnone]
    rfl
  | marked =>
    intro before hbefore
    rw [List.append_nil, if_pos hbefore, read_marked htrailing]
    rfl
  | @cons o options words args hfirst hrest ih =>
    intro before hbefore
    rw [read_spells hg hfirst hrest htrailing]
    split
    · rename_i hagain
      rw [if_neg]
      rw [List.map_append, List.nodup_append]
      exact fun hnodup => hnodup.2.2 _ hagain _ List.mem_cons_self rfl
    · rename_i hnew
      have hbefore' : ((before ++ [o]).map (·.1)).Nodup := by
        rw [List.map_append, List.map_singleton]
        refine List.nodup_append.mpr ⟨hbefore, List.nodup_singleton _, ?_⟩
        rintro name hmem _ hsingle rfl
        exact hnew (List.mem_singleton.mp hsingle ▸ hmem)
      rw [ih hbefore', List.append_assoc]
      rfl

/-- What a spelling is read as: what it spells, unless it gives an option again. -/
theorem Given.read_spelled (hg : g.WellNamed) (h : Spelled g.Spells trailing options args)
    (htrailing : trailing = [] ∨ g.trailing = true) :
    Given.read g {} none args =
      if (options.map (·.1)).Nodup then .ok ⟨options, trailing⟩ else .error .argumentConflict :=
  read_spelled_after hg h htrailing List.nodup_nil

/-! ## What is read is spelled -/

/-- What reading one argument that is taken up comes to. -/
inductive Grammar.Step (g : Grammar) (acc : Given) (pending : Option Pending) :
    String → Given → Option Pending → Prop where
  | flag {name : String} {mid after : Given} (hkind : g.kind? name = some .flag)
      (hsettled : acc.settle pending = .ok mid) (haccept : mid.accept name .flag "" = .ok after) :
      g.Step acc pending ("--" ++ name) after none
  | attached {name raw : String} {kind : OptionKind} {mid after : Given}
      (hkind : g.kind? name = some kind) (hvalued : kind ≠ .flag)
      (hsettled : acc.settle pending = .ok mid) (haccept : mid.accept name kind raw = .ok after) :
      g.Step acc pending ("--" ++ name ++ "=" ++ raw) after none
  | name {name : String} {kind : OptionKind} {after : Given} (hkind : g.kind? name = some kind)
      (hvalued : kind ≠ .flag) (hsettled : acc.settle pending = .ok after) :
      g.Step acc pending ("--" ++ name) after (some ⟨name, kind, none⟩)
  | word {name raw : String} {kind : OptionKind} (hpending : pending = some ⟨name, kind, none⟩)
      (hword : IsWord raw) : g.Step acc pending raw acc (some ⟨name, kind, some raw⟩)

/-- An option that does not end the reading is known, and is not a flag with a value. -/
theorem Given.known_of_read (hmark : arg ≠ "--") (hlong : long? arg = some (name, attached))
    (h : acc.read g pending (arg :: rest) = .ok given) :
    name ≠ "help" ∧ ∃ kind, g.kind? name = some kind ∧ (attached = none ∨ kind ≠ .flag) := by
  rw [Given.read.eq_def] at h
  simp only [hmark, if_false, hlong] at h
  split at h
  · exact nomatch h
  · split at h <;> exact nomatch h
  · rename_i hhelp hcall heq
    obtain ⟨rfl, rfl⟩ := Prod.mk.inj (Option.some.inj heq)
    refine ⟨?_, ?_⟩
    · rintro rfl
      cases attached with
      | none => exact hcall rfl rfl
      | some raw => exact hhelp raw rfl rfl
    · split at h
      · exact nomatch h
      · exact nomatch h
      · rename_i hfits
        refine ⟨_, ‹_›, or_iff_not_imp_right.mpr fun hflag => ?_⟩
        exact Option.eq_none_iff_forall_ne_some.mpr fun raw hraw =>
          hfits raw hraw (not_not.mp hflag)
  · exact nomatch ‹some _ = none›

/-- Taking an option up is a step. -/
theorem Given.step_of_takeUp (hlong : long? arg = some (name, attached))
    (hkind : g.kind? name = some kind) (hfits : attached = none ∨ kind ≠ .flag)
    (hsettled : acc.settle pending = .ok after)
    (h : after.takeUp g name kind attached rest = .ok given) :
    ∃ after waiting, g.Step acc pending arg after waiting ∧
      after.read g waiting rest = .ok given := by
  by_cases hflag : kind = .flag
  · subst hflag
    obtain rfl := hfits.resolve_right (not_not_intro rfl)
    obtain rfl := eq_of_long?_name hlong
    obtain ⟨recorded, haccept, h⟩ := exists_of_bind_ok h
    exact ⟨_, _, .flag hkind hsettled haccept, h⟩
  · cases attached with
    | none =>
      obtain rfl := eq_of_long?_name hlong
      rw [takeUp_name hflag] at h
      exact ⟨_, _, .name hkind hflag hsettled, h⟩
    | some raw =>
      obtain rfl := eq_of_long?_attached hlong
      rw [takeUp_attached hflag] at h
      obtain ⟨recorded, haccept, h⟩ := exists_of_bind_ok h
      exact ⟨_, _, .attached hkind hflag hsettled haccept, h⟩

/-- An argument that is no option and does not end the reading is the value of the option before
it. -/
theorem Given.step_of_word (hmark : arg ≠ "--") (hlong : long? arg = none)
    (h : acc.read g pending (arg :: rest) = .ok given) :
    ∃ after waiting, g.Step acc pending arg after waiting ∧
      after.read g waiting rest = .ok given := by
  rw [Given.read.eq_def] at h
  simp only [hmark, if_false, hlong] at h
  split at h
  · split at h <;> exact nomatch h
  · exact nomatch h
  · rename_i hshort
    split at h
    · exact ⟨_, _, .word rfl (isWord_iff.mpr ⟨hmark, hlong, hshort⟩), h⟩
    · exact nomatch h

/-- Nothing but the mark and a step gets past an argument. -/
theorem Given.step_of_read (h : acc.read g pending (arg :: rest) = .ok given) :
    (arg = "--" ∧ acc.finish g pending rest = .ok given) ∨
      ∃ after waiting, g.Step acc pending arg after waiting ∧
        after.read g waiting rest = .ok given := by
  by_cases hmark : arg = "--"
  · subst hmark
    exact .inl ⟨rfl, read_mark.symm.trans h⟩
  · refine .inr ?_
    cases hlong : long? arg with
    | none => exact step_of_word hmark hlong h
    | some option =>
      obtain ⟨hhelp, kind, hkind, hfits⟩ := known_of_read hmark hlong h
      rw [read_option hmark hlong hhelp hkind hfits] at h
      obtain ⟨settled, hsettled, h⟩ := exists_of_bind_ok h
      exact step_of_takeUp hlong hkind hfits hsettled h

/-- What is still to come after some arguments: after an option without a value its value. -/
inductive Grammar.Remains (g : Grammar) (trailing : List String) :
    Option Pending → List String → Prop where
  | settled {options : List (String × OptionValue)} {args : List String}
      (h : Spelled g.Spells trailing options args) : g.Remains trailing none args
  | ready {name raw : String} {kind : OptionKind} {value : OptionValue}
      {options : List (String × OptionValue)} {args : List String}
      (hread : kind.read raw = .ok value) (h : Spelled g.Spells trailing options args) :
      g.Remains trailing (some ⟨name, kind, some raw⟩) args
  | waiting {name raw : String} {kind : OptionKind} {value : OptionValue}
      {options : List (String × OptionValue)} {args : List String} (hword : IsWord raw)
      (hread : kind.read raw = .ok value) (h : Spelled g.Spells trailing options args) :
      g.Remains trailing (some ⟨name, kind, none⟩) (raw :: args)

theorem Grammar.Remains.of_settle (hsettled : acc.settle pending = .ok after)
    (h : Spelled g.Spells trailing options args) : g.Remains trailing pending args := by
  match pending with
  | none => exact .settled h
  | some ⟨name, kind, none⟩ => exact nomatch hsettled
  | some ⟨name, kind, some raw⟩ =>
    obtain ⟨value, hread⟩ := Given.read_of_accept hsettled
    exact .ready hread h

/-- What remains after a step, seen from before it. -/
theorem Grammar.Remains.of_step (hstep : g.Step acc pending arg after waiting)
    (h : g.Remains trailing waiting rest) : g.Remains trailing pending (arg :: rest) := by
  cases hstep with
  | flag hkind hsettled _ =>
    obtain ⟨hrest⟩ := h
    exact .of_settle hsettled (.cons (.flag hkind) hrest)
  | attached hkind hvalued hsettled haccept =>
    obtain ⟨hrest⟩ := h
    obtain ⟨value, hread⟩ := Given.read_of_accept haccept
    exact .of_settle hsettled (.cons (.attached hkind hvalued hread) hrest)
  | name hkind hvalued hsettled =>
    cases h with
    | waiting hword hread hrest =>
      exact .of_settle hsettled (.cons (.apart hkind hvalued hread hword) hrest)
  | word hpending hword =>
    subst hpending
    cases h with
    | ready hread hrest => exact .waiting hword hread hrest

theorem Given.remains_of_read (h : acc.read g pending args = .ok given) :
    ∃ trailing, (trailing = [] ∨ g.trailing = true) ∧ g.Remains trailing pending args := by
  induction args generalizing acc pending with
  | nil => exact ⟨[], .inl rfl, .of_settle h (.bare rfl)⟩
  | cons arg rest ih =>
    obtain ⟨rfl, hfinish⟩ | ⟨after, waiting, hstep, hrest⟩ := step_of_read h
    · unfold finish at hfinish
      split at hfinish
      · rename_i hmay
        split at hfinish
        · rename_i hsettled
          refine ⟨rest, ?_, .of_settle hsettled .marked⟩
          simpa using hmay
        · exact nomatch hfinish
      · exact nomatch hfinish
    · obtain ⟨trailing, htrailing, hremains⟩ := ih hrest
      exact ⟨trailing, htrailing, .of_step hstep hremains⟩

/-! ## The grammar of a command -/

/-- Arguments are read as what they spell, with no option given again, and nothing else is
read. -/
theorem Given.read_eq_ok_iff (hg : g.WellNamed) :
    Given.read g {} none args = .ok given ↔
      Spelled g.Spells given.trailing given.options args ∧
        (given.trailing = [] ∨ g.trailing = true) ∧ (given.options.map (·.1)).Nodup := by
  constructor
  · intro h
    obtain ⟨trailing, htrailing, hremains⟩ := remains_of_read h
    cases hremains with
    | settled hspelled =>
      rw [read_spelled hg hspelled htrailing] at h
      split at h
      · rename_i hnodup
        cases h
        exact ⟨hspelled, htrailing, hnodup⟩
      · exact nomatch h
  · rintro ⟨hspelled, htrailing, hnodup⟩
    rw [read_spelled hg hspelled htrailing, if_pos hnodup]

end

end Shakedown.CommandLine
