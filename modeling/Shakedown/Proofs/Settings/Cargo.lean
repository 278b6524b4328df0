/-
  Shakedown.Proofs.Settings.Cargo

  The cargo that a run is started with.  The binary asked for comes before
  the installed one, and both come before whatever `cargo` is at the start.
  A candidate below the root directory has to exist.  A relative one is taken
  unseen, whoever named it, so it can stand in the way of a `cargo` that the
  start would find.
-/
import Shakedown.Launch
import Shakedown.Disk
import Shakedown.Proofs.Path
import Shakedown.Proofs.Text.Blank

namespace Shakedown

/-! ## The candidates -/

/-- The directory that cargo is installed in: the one that is named, or the one below the
home directory if none is. -/
inductive CargoDirectory : Option Path → Option Path → Path → Prop where
  | named (dir : Path) (home : Option Path) : CargoDirectory (some dir) home dir
  | below (home : Path) : CargoDirectory none (some home) (home / ".cargo")

/-- The binary asked for, by a text that is not blank, which is relative or exists. -/
structure AskedCargo (leads : Path → Bool) (binary : Option String) (p : Path) : Prop where
  given : binary = some p.text
  solid : Text.trimmed p.text ≠ ""
  usable : p.isAbsolute = false ∨ leads p = true

/-- The binary of the directory that cargo is installed in, which is relative or has it. -/
inductive InstalledCargo (leads : Path → Bool) (cargoHome home : Option Path) : Path → Prop where
  | mk {dir : Path} (hdir : CargoDirectory cargoHome home dir)
      (husable : dir.isAbsolute = false ∨ leads (dir / "bin" / "cargo") = true) :
      InstalledCargo leads cargoHome home (dir / "bin" / "cargo")

/-- The choice among them: the binary asked for, else the installed one, else whatever
`cargo` is. -/
inductive ChosenCargo (leads : Path → Bool) (binary : Option String)
    (cargoHome home : Option Path) : Path → Prop where
  | asked {p : Path} (hasked : AskedCargo leads binary p) :
      ChosenCargo leads binary cargoHome home p
  | installed {p : Path} (hasked : ∀ q, ¬AskedCargo leads binary q)
      (hinstalled : InstalledCargo leads cargoHome home p) :
      ChosenCargo leads binary cargoHome home p
  | searched (hasked : ∀ q, ¬AskedCargo leads binary q)
      (hinstalled : ∀ q, ¬InstalledCargo leads cargoHome home q) :
      ChosenCargo leads binary cargoHome home "cargo"

variable {leads : Path → Bool} {binary : Option String} {cargoHome home : Option Path} {p : Path}

theorem usableProgram_iff :
    usableProgram leads p = true ↔ p.isAbsolute = false ∨ leads p = true := by
  rw [usableProgram, Bool.or_eq_true, Bool.not_eq_true']

/-- The binary of a directory is absolute exactly if the directory is. -/
theorem isAbsolute_binCargo (dir : Path) : (dir / "bin" / "cargo").isAbsolute = dir.isAbsolute := by
  have hbin : Path.isAbsolute ⟨"bin"⟩ = false := by decide +kernel
  have hcargo : Path.isAbsolute ⟨"cargo"⟩ = false := by decide +kernel
  calc (dir / "bin" / "cargo").isAbsolute
      = (dir / "bin").isAbsolute := Path.isAbsolute_join_of_relative hcargo _
    _ = dir.isAbsolute := Path.isAbsolute_join_of_relative hbin dir

/-- The candidate of the text asked for, if that is not blank. -/
def askedCandidate? (binary : Option String) : Option Path :=
  (binary.filter fun s => !Text.blank s).map Path.mk

/-- The candidate of the directory that cargo is installed in. -/
def installedCandidate? (cargoHome home : Option Path) : Option Path :=
  (cargoHome.orElse fun _ => home.map (· / ".cargo")).map (· / "bin" / "cargo")

theorem cargoCandidates_eq (binary : Option String) (cargoHome home : Option Path) :
    cargoCandidates binary cargoHome home =
      (askedCandidate? binary).toList ++ (installedCandidate? cargoHome home).toList :=
  rfl

theorem askedCandidate?_eq_some_iff :
    askedCandidate? binary = some p ↔ binary = some p.text ∧ Text.trimmed p.text ≠ "" := by
  rw [askedCandidate?, Option.map_eq_some_iff, ne_eq, Text.trimmed_eq_empty_iff]
  constructor
  · rintro ⟨text, hfilter, rfl⟩
    obtain ⟨hgiven, hsolid⟩ := Option.filter_eq_some_iff.mp hfilter
    exact ⟨hgiven, by simpa using hsolid⟩
  · rintro ⟨hgiven, hsolid⟩
    exact ⟨p.text, Option.filter_eq_some_iff.mpr ⟨hgiven, by simpa using hsolid⟩, rfl⟩

theorem installedCandidate?_eq_some_iff :
    installedCandidate? cargoHome home = some p ↔
      ∃ dir, CargoDirectory cargoHome home dir ∧ dir / "bin" / "cargo" = p := by
  rw [installedCandidate?, Option.map_eq_some_iff]
  refine exists_congr fun dir => and_congr_left' ?_
  constructor
  · intro h
    cases cargoHome with
    | some named =>
      obtain rfl := Option.some.inj h
      exact .named _ _
    | none =>
      obtain ⟨home', rfl, rfl⟩ := Option.map_eq_some_iff.mp h
      exact .below home'
  · rintro (_ | _) <;> rfl

/-! ## The choice -/

/-- The first usable of at most one candidate is that one, if it is usable. -/
theorem find?_toList_eq_some_iff {o : Option Path} {usable : Path → Bool} :
    o.toList.find? usable = some p ↔ o = some p ∧ usable p = true := by
  cases o with
  | none => exact iff_of_false nofun nofun
  | some q =>
    rw [Option.toList_some, List.find?_singleton]
    constructor
    · intro h
      split at h
      · rename_i husable
        obtain rfl := Option.some.inj h
        exact ⟨rfl, husable⟩
      · exact nomatch h
    · rintro ⟨hq, husable⟩
      obtain rfl := Option.some.inj hq
      rw [if_pos husable]

theorem find?_asked_iff :
    (askedCandidate? binary).toList.find? (usableProgram leads) = some p ↔
      AskedCargo leads binary p := by
  rw [find?_toList_eq_some_iff, usableProgram_iff, askedCandidate?_eq_some_iff]
  constructor
  · rintro ⟨⟨hgiven, hsolid⟩, husable⟩
    exact ⟨hgiven, hsolid, husable⟩
  · rintro ⟨hgiven, hsolid, husable⟩
    exact ⟨⟨hgiven, hsolid⟩, husable⟩

theorem find?_installed_iff :
    (installedCandidate? cargoHome home).toList.find? (usableProgram leads) = some p ↔
      InstalledCargo leads cargoHome home p := by
  rw [find?_toList_eq_some_iff, usableProgram_iff, installedCandidate?_eq_some_iff]
  constructor
  · rintro ⟨⟨dir, hdir, rfl⟩, husable⟩
    rw [isAbsolute_binCargo] at husable
    exact .mk hdir husable
  · rintro ⟨hdir, husable⟩
    rw [isAbsolute_binCargo]
    exact ⟨⟨_, hdir, rfl⟩, husable⟩

theorem find?_asked_eq_none (h : ∀ q, ¬AskedCargo leads binary q) :
    (askedCandidate? binary).toList.find? (usableProgram leads) = none :=
  Option.eq_none_iff_forall_ne_some.mpr fun q hq => h q (find?_asked_iff.mp hq)

theorem find?_installed_eq_none (h : ∀ q, ¬InstalledCargo leads cargoHome home q) :
    (installedCandidate? cargoHome home).toList.find? (usableProgram leads) = none :=
  Option.eq_none_iff_forall_ne_some.mpr fun q hq => h q (find?_installed_iff.mp hq)

theorem cargoBinary_of_chosen (h : ChosenCargo leads binary cargoHome home p) :
    cargoBinary leads binary cargoHome home = p := by
  rw [cargoBinary, cargoCandidates_eq, List.find?_append]
  cases h with
  | asked hasked =>
    rw [find?_asked_iff.mpr hasked]
    rfl
  | installed hasked hinstalled =>
    rw [find?_asked_eq_none hasked, find?_installed_iff.mpr hinstalled]
    rfl
  | searched hasked hinstalled =>
    rw [find?_asked_eq_none hasked, find?_installed_eq_none hinstalled]
    rfl

/-- There always is a choice. -/
theorem exists_chosenCargo (leads : Path → Bool) (binary : Option String)
    (cargoHome home : Option Path) : ∃ p, ChosenCargo leads binary cargoHome home p := by
  by_cases hasked : ∃ q, AskedCargo leads binary q
  · obtain ⟨q, hq⟩ := hasked
    exact ⟨q, .asked hq⟩
  · by_cases hinstalled : ∃ q, InstalledCargo leads cargoHome home q
    · obtain ⟨q, hq⟩ := hinstalled
      exact ⟨q, .installed (not_exists.mp hasked) hq⟩
    · exact ⟨"cargo", .searched (not_exists.mp hasked) (not_exists.mp hinstalled)⟩

theorem cargoBinary_eq_iff :
    cargoBinary leads binary cargoHome home = p ↔ ChosenCargo leads binary cargoHome home p := by
  constructor
  · rintro rfl
    obtain ⟨q, hq⟩ := exists_chosenCargo leads binary cargoHome home
    rw [cargoBinary_of_chosen hq]
    exact hq
  · exact cargoBinary_of_chosen

/-- Nothing absolute is chosen that does not exist. -/
theorem leads_of_chosen (h : ChosenCargo leads binary cargoHome home p)
    (habsolute : p.isAbsolute = true) : leads p = true := by
  have hrelative : ¬p.isAbsolute = false := by
    rw [habsolute]
    exact nofun
  cases h with
  | asked hasked => exact hasked.usable.resolve_left hrelative
  | installed _ hinstalled =>
    obtain ⟨hdir, husable⟩ := hinstalled
    rw [isAbsolute_binCargo] at hrelative
    exact husable.resolve_left hrelative
  | searched => exact nomatch habsolute

/-- Whatever exists, a usable binary that is asked for is chosen.  The choice is otherwise the
installed binary, if its directory is relative or has it, and else `cargo`; so a binary out of
an absolute directory exists.  What an empty name for the directory comes to is left open. -/
theorem cargoBinary_chosen (leads : Path → Bool) (binary : Option String)
    (cargoHome home : Option Path) :
    (∀ p, AskedCargo leads binary p → cargoBinary leads binary cargoHome home = p) ∧
    (cargoHome ≠ some ⟨""⟩ →
      (∀ p, cargoBinary leads binary cargoHome home = p ↔
        ChosenCargo leads binary cargoHome home p) ∧
      (∀ dir, CargoDirectory cargoHome home dir → dir.isAbsolute = true →
        cargoBinary leads binary cargoHome home = dir / "bin" / "cargo" →
        leads (dir / "bin" / "cargo") = true)) := by
  refine ⟨fun p hasked => cargoBinary_of_chosen (.asked hasked), ?_⟩
  intro _
  refine ⟨fun p => cargoBinary_eq_iff, ?_⟩
  intro dir _ habsolute hchosen
  refine leads_of_chosen (cargoBinary_eq_iff.mp hchosen) ?_
  rw [isAbsolute_binCargo, habsolute]

/-- With a blank `CARGO_BIN` and no cargo below the home directory the choice is `cargo`. -/
theorem cargoBinary_searched :
    (none : Option Path) ≠ some ⟨""⟩ ∧
    cargoBinary (({} : Disk).leads []) (some " ") none (some "/home/me") = "cargo" := by
  have hset : (none : Option Path) ≠ some ⟨""⟩ := nofun
  obtain ⟨-, hchoice⟩ := cargoBinary_chosen (({} : Disk).leads []) (some " ") none (some "/home/me")
  refine ⟨hset, ((hchoice hset).1 _).mpr (.searched ?_ ?_)⟩
  · rintro q ⟨hgiven, hsolid, -⟩
    rw [← Option.some.inj hgiven] at hsolid
    exact hsolid (by decide +kernel)
  · rintro q ⟨hdir, husable⟩
    cases hdir
    rcases husable with hrelative | hleads
    · exact absurd hrelative (by decide +kernel)
    · exact absurd hleads (by decide +kernel)

/-- A relative directory is taken for the one that cargo is installed in even if there is
nothing in it. -/
theorem cargoBinary_relative_missing :
    let leads := ({} : Disk).leads []
    CargoDirectory (some "tools") none "tools" ∧ leads "tools/bin/cargo" = false ∧
    cargoBinary leads none (some "tools") none = "tools/bin/cargo" ∧
    ("tools/bin/cargo" : Path) ≠ "cargo" :=
  ⟨.named _ _, by decide +kernel, by decide +kernel, by decide +kernel⟩

end Shakedown
