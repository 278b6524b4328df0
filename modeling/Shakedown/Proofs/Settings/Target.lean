/-
  Shakedown.Proofs.Settings.Target

  A probe that is told nothing about where the agent is looks for the one
  that a run would launch.  The two resolve the listening address on ways of
  their own: where no source has one, a run takes the standard address, and
  a probe reads its text.
-/
import Shakedown.Proofs.Bind
import Shakedown.Proofs.Settings.Resolution

namespace Shakedown.Settings

/-- The text of the standard address is read as that address. -/
theorem readBind_defaultText : readBind Bind.defaultText = .ok .default := by
  have htext : Bind.default.text = Bind.defaultText := by decide +kernel
  have hhost : Bind.hostAllowed Bind.default.host.toList = true := by decide +kernel
  rw [readBind, ← htext,
    Bind.read_text_eq_ok_iff.mpr (Bind.hostAllowed_eq_true_iff.mp hhost)]

/-- Falling back on the standard address is reading its text. -/
theorem bindOf_eq_readBind (texts : List (Option String)) :
    bindOf texts = readBind ((firstOf texts).getD Bind.defaultText) := by
  rw [bindOf]
  cases firstOf texts with
  | none => exact readBind_defaultText.symm
  | some raw => rfl

/-- A probe that is given no URL is resolved if the address is. -/
theorem forProbe_eq (adminToken : Option String) (env : Environment)
    (file : Option FileSettings) :
    forProbe { adminToken } env file =
      (bindOf [env "ORBIT_SMOKE_BIND", (file.getD {}).agent.bind]).map fun bind =>
        ⟨bind.baseUrl, (firstOf [adminToken, env "ORBIT_SMOKE_ADMIN",
          (file.getD {}).agent.adminToken]).getD standardAdminToken⟩ := by
  rw [bindOf_eq_readBind]
  unfold forProbe
  dsimp only
  cases readBind ((firstOf [env "ORBIT_SMOKE_BIND", (file.getD {}).agent.bind]).getD
    Bind.defaultText) <;> rfl

namespace Sources

variable {s : Sources} {c : RunParameters} {f : SettingsFault}

/-- Without an address on its command line, a run takes it from where a probe does. -/
theorem bindOf_of_no_option (h : s.options.bind = none) :
    bindOf [s.options.bind, s.env "ORBIT_SMOKE_BIND", s.settings.agent.bind] =
      bindOf [s.env "ORBIT_SMOKE_BIND", s.settings.agent.bind] := by
  rw [h]
  rfl

theorem bindOf_of_run (h : s.run = .ok c) :
    bindOf [s.options.bind, s.env "ORBIT_SMOKE_BIND", s.settings.agent.bind] =
      .ok c.launch.bind :=
  bindOf_of_gives ((resolves_of_run h).settings .bind)

theorem token_of_run (h : s.run = .ok c) : s.token = c.launch.adminToken :=
  prevails_iff.mp ((resolves_of_run h).settings .adminToken)

/-- A run whose address is none is refused for that, or for what is found before. -/
theorem run_of_bindOf_error
    (h : bindOf [s.options.bind, s.env "ORBIT_SMOKE_BIND", s.settings.agent.bind] = .error f) :
    ∃ g, s.run = .error g ∧ (g = .emptyCommand ∨ g = .blankAdminToken ∨ g = f) := by
  rcases s.refuses_or_resolves with ⟨g, hg⟩ | ⟨c, hc, -⟩
  · refine ⟨g, run_of_refuses hg, ?_⟩
    cases hg with
    | emptyCommand _ => exact Or.inl rfl
    | blankAdminToken _ _ => exact Or.inr (Or.inl rfl)
    | badBind _ _ hbad =>
      rw [bindOf_of_gives hbad] at h
      exact Or.inr (Or.inr (Except.error.inj h))
    | zeroTtl _ _ hbind _ =>
      obtain ⟨bind, hgood, -⟩ := exists_bindOf hbind
      exact nomatch hgood.symm.trans h
  · exact nomatch (bindOf_of_run hc).symm.trans h

end Sources

/-- A probe with the admin token of a run, and without a URL, talks to the agent that the run
launches if it is given no address; and where the probe is refused, so is the run, for the same
fault or one that is found earlier. -/
theorem probe_targets_run (options : RunOptions) (env : Environment) (file : Option FileSettings)
    (cwd cargo : Path) :
    (∀ c, forRun { options with bind := none } env file cwd cargo = .ok c →
      forProbe { adminToken := options.adminToken } env file =
        .ok ⟨c.launch.baseUrl, c.launch.adminToken⟩) ∧
    ∀ f, forProbe { adminToken := options.adminToken } env file = .error f →
      ∃ g, forRun { options with bind := none } env file cwd cargo = .error g ∧
        (g = .emptyCommand ∨ g = .blankAdminToken ∨ g = f) := by
  -- The run that a probe is compared with has the address from the environment or the file.
  let s : Sources := ⟨{ options with bind := none }, env, file, cwd, cargo⟩
  have hprobe := forProbe_eq options.adminToken env file
  have hbind := Sources.bindOf_of_no_option (s := s) rfl
  constructor
  · intro c hrun
    have haddress : bindOf [env "ORBIT_SMOKE_BIND", (file.getD {}).agent.bind] =
        .ok c.launch.bind := hbind.symm.trans (Sources.bindOf_of_run (s := s) hrun)
    have htoken := Sources.token_of_run (s := s) hrun
    rw [hprobe, haddress, ← htoken]
    rfl
  · intro f hrefused
    rw [hprobe] at hrefused
    cases haddress : bindOf [env "ORBIT_SMOKE_BIND", (file.getD {}).agent.bind] with
    | ok bind =>
      rw [haddress] at hrefused
      exact nomatch hrefused
    | error g =>
      rw [haddress] at hrefused
      obtain rfl : g = f := Except.error.inj hrefused
      exact Sources.run_of_bindOf_error (s := s) (hbind.trans haddress)

end Shakedown.Settings
