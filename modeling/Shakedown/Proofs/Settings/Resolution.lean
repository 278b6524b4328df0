/-
  Shakedown.Proofs.Settings.Resolution

  Where the settings of a run come from.  Each setting has its own layers of
  sources, and the first source that has a value prevails; below the last
  layer there is a fallback.  A run is refused exactly if one of four checks
  finds something, and then for what the first of them finds; otherwise its
  settings are those that prevail, so a setting depends on its own layers
  down to the source that prevails and on nothing else.
-/
import Shakedown.Proofs.Settings.Locations
import Shakedown.Proofs.Text.Blank
import Shakedown.Settings.Surroundings

namespace Shakedown.Settings

/-! ## Layers of sources -/

section Layers

variable {α : Type} {d d' a a' : α} {layers layers' : List (Option α)}

/-- The value that layers of sources give: that of the first source that has one, and the
fallback if none has. -/
inductive Prevails (fallback : α) : List (Option α) → α → Prop where
  | source {above below : List (Option α)} {a : α} (habove : ∀ layer ∈ above, layer = none) :
      Prevails fallback (above ++ some a :: below) a
  | fallback {layers : List (Option α)} (hnone : ∀ layer ∈ layers, layer = none) :
      Prevails fallback layers fallback

/-- The same source prevails in two lists of layers, with the same value, whatever is below it;
or none does, and the fallback is the same. -/
inductive SameWinner (fallback fallback' : α) : List (Option α) → List (Option α) → Prop where
  | source {above below below' : List (Option α)} {a : α}
      (habove : ∀ layer ∈ above, layer = none) :
      SameWinner fallback fallback' (above ++ some a :: below) (above ++ some a :: below')
  | fallback {layers layers' : List (Option α)} (hnone : ∀ layer ∈ layers, layer = none)
      (hnone' : ∀ layer ∈ layers', layer = none) (hsame : fallback = fallback') :
      SameWinner fallback fallback' layers layers'

theorem firstOf_append_of_none {above : List (Option α)} (h : ∀ layer ∈ above, layer = none)
    (below : List (Option α)) : firstOf (above ++ below) = firstOf below := by
  have hnone : above.findSome? id = none := List.findSome?_eq_none_iff.mpr h
  rw [firstOf, List.findSome?_append, hnone, Option.none_or, firstOf]

theorem prevails_iff : Prevails d layers a ↔ (firstOf layers).getD d = a := by
  constructor
  · intro h
    cases h with
    | source habove =>
      rw [firstOf_append_of_none habove]
      rfl
    | fallback hnone =>
      have hfirst : firstOf layers = none := List.findSome?_eq_none_iff.mpr hnone
      rw [hfirst, Option.getD_none]
  · rintro rfl
    cases hfirst : firstOf layers with
    | none => exact .fallback (List.findSome?_eq_none_iff.mp hfirst)
    | some a =>
      obtain ⟨above, source, below, rfl, rfl, habove⟩ := List.findSome?_eq_some_iff.mp hfirst
      exact .source habove

/-- One value prevails at most. -/
theorem Prevails.unique (h : Prevails d layers a) (h' : Prevails d layers a') : a = a' :=
  (prevails_iff.mp h).symm.trans (prevails_iff.mp h')

theorem prevails_firstOf (d : α) (layers : List (Option α)) :
    Prevails d layers ((firstOf layers).getD d) :=
  prevails_iff.mpr rfl

/-- Over a single source. -/
theorem prevails_singleton (d : α) (layer : Option α) : Prevails d [layer] (layer.getD d) := by
  cases layer with
  | none => exact .fallback (List.forall_mem_singleton.mpr rfl)
  | some a => exact prevails_firstOf d [some a]

/-- Values that are translated one by one are still found where they were. -/
theorem firstOf_map {β : Type} (f : α → β) (layers : List (Option α)) :
    firstOf (layers.map (Option.map f)) = (firstOf layers).map f := by
  induction layers with
  | nil => rfl
  | cons layer layers ih =>
    cases layer with
    | none => exact ih
    | some a => rfl

theorem SameWinner.eq (hsame : SameWinner d d' layers layers') (h : Prevails d layers a)
    (h' : Prevails d' layers' a') : a = a' := by
  cases hsame with
  | source habove =>
    rw [h.unique (.source habove), h'.unique (.source habove)]
  | fallback hnone hnone' hsame =>
    rw [h.unique (.fallback hnone), h'.unique (.fallback hnone'), hsame]

end Layers

/-! ## The settings of a run -/

/-- Everything that a run is resolved from. -/
structure Sources where
  options : RunOptions
  env : Environment
  file : Option FileSettings
  cwd : Path
  cargo : Path

/-- The settings of a run, but for the root. -/
inductive Setting where
  | command
  | adminToken
  | bind
  | storagePath
  | workloadRoot
  | output
  | attempts
  | interval
  | attemptTimeout
  | cleanupGrace
  | tokenName
  | tokenScopes
  | tokenTtl
  | taskListAttempts
  | revokeToken

/-- What a setting can be. -/
def Setting.Value : Setting → Type
  | .command | .tokenScopes => List String
  | .adminToken | .tokenName => String
  -- A text from a source may be no address.
  | .bind => Except BadBind Bind
  | .storagePath | .workloadRoot => Path
  | .output => OutputHandling
  | .attempts | .taskListAttempts => Nat
  | .interval | .attemptTimeout | .cleanupGrace | .tokenTtl => Duration
  | .revokeToken => Bool

/-- A setting as a run has it. -/
def Setting.valueIn (c : RunParameters) : (k : Setting) → k.Value
  | .command => c.launch.command.program.text :: c.launch.command.args
  | .adminToken => c.launch.adminToken
  | .bind => .ok c.launch.bind
  | .storagePath => c.launch.storagePath
  | .workloadRoot => c.launch.workloadRoot
  | .output => c.launch.output
  | .attempts => c.probe.attempts
  | .interval => c.probe.interval
  | .attemptTimeout => c.probe.attemptTimeout
  | .cleanupGrace => c.cleanupGrace
  | .tokenName => c.token.name
  | .tokenScopes => c.token.scopes
  | .tokenTtl => c.token.ttl
  | .taskListAttempts => c.scenario.taskListAttempts
  | .revokeToken => c.revokeToken

namespace Sources

/-- The run that is resolved. -/
def run (s : Sources) : Except SettingsFault RunParameters :=
  forRun s.options s.env s.file s.cwd s.cargo

/-- The settings of the file; where there is no file, it has none. -/
def settings (s : Sources) : FileSettings :=
  s.file.getD {}

/-- The directory the agent is run from. -/
def root (s : Sources) : Path :=
  rootOf s.options s.file s.cwd

/-- Who may name the root: the command line, then the file. -/
def rootLayers (s : Sources) : List (Option Path) :=
  [s.options.root, s.settings.agent.root]

/-- Who may give a setting: the command line, then the environment, then the file. -/
def layers (s : Sources) : (k : Setting) → List (Option k.Value)
  -- Arguments of the command line go with the program of the command line only.
  | .command => [s.options.agent.map fun p => p.text :: s.options.agentArgs,
      s.settings.agent.command]
  | .adminToken => [s.options.adminToken, s.env "ORBIT_SMOKE_ADMIN", s.settings.agent.adminToken]
  | .bind => [s.options.bind, s.env "ORBIT_SMOKE_BIND", s.settings.agent.bind].map
      (Option.map Bind.read)
  | .storagePath => [s.options.db, (s.env "ORBIT_SMOKE_DB").map Path.mk,
      s.settings.agent.storagePath]
  | .workloadRoot => [s.options.containers, (s.env "ORBIT_SMOKE_CONTAINERS").map Path.mk,
      s.settings.agent.workloadRoot]
  | .output => [if s.options.quietAgent then some .capture else none]
  | .attempts => [s.options.attempts, s.settings.probe.attempts]
  | .interval => [s.options.intervalMillis, s.settings.probe.intervalMillis].map
      (Option.map Duration.ofMillis)
  | .attemptTimeout => [s.settings.probe.attemptTimeoutMillis.map Duration.ofMillis]
  | .cleanupGrace => [s.settings.agent.cleanupGraceSeconds.map Duration.ofSeconds]
  | .tokenName => [s.settings.token.name]
  | .tokenScopes => [s.settings.token.scopes]
  | .tokenTtl => [s.settings.token.ttlSeconds.map Duration.ofSeconds]
  | .taskListAttempts => [some s.options.taskListAttempts]
  | .revokeToken => [if s.options.keepToken then some false else none]

/-- What a setting is if nobody gives it.  The paths start at the root. -/
def fallback (s : Sources) : (k : Setting) → k.Value
  | .command => s.cargo.text :: ["run", "--quiet", "--bin", "agent"]
  | .adminToken => "smoke-admin"
  | .bind => .ok ⟨"127.0.0.1", 7845⟩
  | .storagePath => s.root / "orbit-data" / "smoke-agent.db"
  | .workloadRoot => s.root / "sandboxes" / "smoke"
  | .output => .forward
  | .attempts => (240 : Nat)
  | .interval => .ofMillis 500
  | .attemptTimeout => .ofSeconds 5
  | .cleanupGrace => .ofSeconds 5
  | .tokenName => "smoke-cli"
  | .tokenScopes => ["containers:write", "tasks:read"]
  | .tokenTtl => .ofSeconds 3600
  | .taskListAttempts => (1 : Nat)
  | .revokeToken => true

/-- A value is the one that a setting has by its sources. -/
def Gives (s : Sources) (k : Setting) (v : k.Value) : Prop :=
  Prevails (s.fallback k) (s.layers k) v

/-- A run with every setting as its sources give it, and all else as it always is. -/
structure Resolves (s : Sources) (c : RunParameters) : Prop where
  root : Prevails s.cwd s.rootLayers s.root
  workingDir : c.launch.command.workingDir = some s.root
  settings : ∀ k : Setting, s.Gives k (k.valueIn c)
  requestTimeout : c.requestTimeout = .ofSeconds 30
  scenario : c.scenario = { taskListAttempts := c.scenario.taskListAttempts }

/-! ## The checks -/

/-- The file has a command without a program, and the command line names no agent. -/
def NamesNoProgram (s : Sources) : Prop :=
  s.options.agent = none ∧ s.settings.agent.command = some []

/-- The admin token is blank. -/
def HasBlankToken (s : Sources) : Prop :=
  ∃ token : String, s.Gives .adminToken token ∧ Text.trimmed token = ""

/-- The listening address is none. -/
def HasBadBind (s : Sources) (bad : BadBind) : Prop :=
  s.Gives .bind (.error bad)

/-- Tokens would expire at once. -/
def HasZeroTtl (s : Sources) : Prop :=
  s.settings.token.ttlSeconds = some 0

/-- What the first check that finds something tells. -/
inductive Refuses (s : Sources) : SettingsFault → Prop where
  | emptyCommand (h : s.NamesNoProgram) : Refuses s .emptyCommand
  | blankAdminToken (hcommand : ¬s.NamesNoProgram) (h : s.HasBlankToken) :
      Refuses s .blankAdminToken
  | badBind {bad : BadBind} (hcommand : ¬s.NamesNoProgram) (htoken : ¬s.HasBlankToken)
      (h : s.HasBadBind bad) : Refuses s (.badBind bad)
  | zeroTtl (hcommand : ¬s.NamesNoProgram) (htoken : ¬s.HasBlankToken)
      (hbind : ∀ bad, ¬s.HasBadBind bad) (h : s.HasZeroTtl) : Refuses s .zeroTtl

variable {s s' : Sources} {c c' : RunParameters} {f : SettingsFault}

/-! ## The parts of a run -/

theorem commandOf_of_namesNoProgram (h : s.NamesNoProgram) :
    commandOf s.options s.settings s.cargo s.root = .error .emptyCommand := by
  obtain ⟨hagent, hcommand⟩ := h
  rw [commandOf, hagent]
  dsimp only
  rw [hcommand]

/-- Any other command is the one that the sources give. -/
theorem exists_commandOf (h : ¬s.NamesNoProgram) :
    ∃ command, commandOf s.options s.settings s.cargo s.root = .ok command ∧
      command.workingDir = some s.root ∧
      s.Gives .command (command.program.text :: command.args) := by
  have hgives : ∀ {v : List String}, (firstOf (s.layers .command)).getD (s.fallback .command) = v →
      s.Gives .command v := prevails_iff.mpr
  cases hagent : s.options.agent with
  | some program =>
    refine ⟨⟨program, s.options.agentArgs, some s.root⟩, ?_, rfl, hgives ?_⟩
    · rw [commandOf, hagent]
    · rw [layers, hagent]
      rfl
  | none =>
    cases hcommand : s.settings.agent.command with
    | none =>
      refine ⟨.ofWorkspace s.cargo s.root, ?_, rfl, hgives ?_⟩
      · rw [commandOf, hagent]
        dsimp only
        rw [hcommand]
      · rw [layers, hagent, hcommand]
        rfl
    | some argv =>
      cases argv with
      | nil => exact absurd ⟨hagent, hcommand⟩ h
      | cons program args =>
        refine ⟨⟨⟨program⟩, args, some s.root⟩, ?_, rfl, hgives ?_⟩
        · rw [commandOf, hagent]
          dsimp only
          rw [hcommand]
        · rw [layers, hagent, hcommand]
          rfl

/-- The admin token, blank or not. -/
def token (s : Sources) : String :=
  (firstOf (s.layers .adminToken)).getD standardAdminToken

theorem hasBlankToken_iff : s.HasBlankToken ↔ Text.blank s.token = true := by
  have hgives : s.Gives .adminToken s.token := prevails_firstOf _ _
  rw [← Text.trimmed_eq_empty_iff]
  constructor
  · rintro ⟨token, htoken, hblank⟩
    rw [← htoken.unique hgives, hblank]
  · intro hblank
    exact ⟨s.token, hgives, hblank⟩

theorem bindOf_eq (texts : List (Option String)) :
    bindOf texts =
      ((firstOf (texts.map (Option.map Bind.read))).getD (.ok .default)).mapError .badBind := by
  rw [firstOf_map, bindOf]
  cases firstOf texts with
  | none => rfl
  | some raw =>
    dsimp only
    rw [readBind, Option.map_some, Option.getD_some]
    cases Bind.read raw <;> rfl

/-- The listening address is what reading the source that prevails comes to. -/
theorem bindOf_of_gives {r : Except BadBind Bind} (h : s.Gives .bind r) :
    bindOf [s.options.bind, s.env "ORBIT_SMOKE_BIND", s.settings.agent.bind] =
      r.mapError .badBind := by
  rw [bindOf_eq]
  exact congrArg (Except.mapError SettingsFault.badBind) (prevails_iff.mp h)

theorem exists_bindOf (h : ∀ bad, ¬s.HasBadBind bad) :
    ∃ bind, bindOf [s.options.bind, s.env "ORBIT_SMOKE_BIND", s.settings.agent.bind] = .ok bind ∧
      s.Gives .bind (.ok bind) := by
  have hgives := prevails_firstOf (s.fallback .bind) (s.layers .bind)
  cases hr : (firstOf (s.layers .bind)).getD (s.fallback .bind) with
  | error bad =>
    rw [hr] at hgives
    exact absurd hgives (h bad)
  | ok bind =>
    rw [hr] at hgives
    exact ⟨bind, bindOf_of_gives hgives, hgives⟩

theorem ttlOf_of_zero (h : s.HasZeroTtl) : ttlOf s.settings = .error .zeroTtl := by
  rw [ttlOf, h]
  rfl

theorem exists_ttlOf (h : ¬s.HasZeroTtl) :
    ∃ ttl, ttlOf s.settings = .ok ttl ∧ s.Gives .tokenTtl ttl := by
  cases hseconds : s.settings.token.ttlSeconds with
  | none =>
    refine ⟨.ofSeconds 3600, ?_, prevails_iff.mpr ?_⟩
    · rw [ttlOf, hseconds]
    · rw [layers, hseconds]
      rfl
  | some n =>
    cases n with
    | zero => exact absurd hseconds h
    | succ n =>
      refine ⟨.ofSeconds (n + 1), ?_, prevails_iff.mpr ?_⟩
      · rw [ttlOf, hseconds]
        rfl
      · rw [layers, hseconds]
        rfl

/-! ## The run -/

/-- A run without a command is refused for that. -/
theorem run_of_command_error (h : commandOf s.options s.settings s.cargo s.root = .error f) :
    s.run = .error f := by
  unfold run forRun
  show (commandOf s.options s.settings s.cargo s.root >>= _) = _
  rw [h]
  rfl

/-- Behind the command comes the check of the admin token, then the address, then the ttl; what
is built from those two has every other setting as the sources give it. -/
theorem exists_run_eq (hprogram : ¬s.NamesNoProgram) :
    ∃ build : Bind → Duration → RunParameters,
      (s.run = if Text.blank s.token = true then .error .blankAdminToken else do
        let bind ← bindOf [s.options.bind, s.env "ORBIT_SMOKE_BIND", s.settings.agent.bind]
        let ttl ← ttlOf s.settings
        return build bind ttl) ∧
      ∀ bind ttl, s.Gives .bind (.ok bind) → s.Gives .tokenTtl ttl →
        s.Resolves (build bind ttl) := by
  obtain ⟨command, hcommand, hdir, hargv⟩ := exists_commandOf hprogram
  apply Exists.intro
  constructor
  · unfold run forRun
    -- The first step by its name; all behind it is seen once its value is known.
    show (commandOf s.options s.settings s.cargo s.root >>= _) = _
    rw [hcommand]
    show (if Text.blank s.token = true then _ else _) = _
    exact ite_congr rfl (fun _ => rfl) (fun _ => rfl)
  · intro bind ttl hread hgiven
    refine ⟨prevails_firstOf _ _, hdir, fun k => ?_, rfl, rfl⟩
    cases k with
    | command => exact hargv
    | bind => exact hread
    | tokenTtl => exact hgiven
    | adminToken | storagePath | workloadRoot | attempts | taskListAttempts =>
      exact prevails_firstOf _ _
    | attemptTimeout | cleanupGrace | tokenName | tokenScopes => exact prevails_singleton _ _
    -- The first source is found before it is translated; the layers translate every source.
    | interval =>
      refine prevails_iff.mpr ?_
      show (firstOf (List.map (Option.map Duration.ofMillis) _)).getD _ = _
      rw [firstOf_map]
      rfl
    -- A flag that is not given is a source that has nothing to say.
    | output =>
      refine prevails_iff.mpr ?_
      rw [layers]
      cases s.options.quietAgent <;> rfl
    | revokeToken =>
      refine prevails_iff.mpr ?_
      rw [layers]
      cases s.options.keepToken <;> rfl

theorem run_of_refuses (h : s.Refuses f) : s.run = .error f := by
  cases h with
  | emptyCommand h => exact run_of_command_error (commandOf_of_namesNoProgram h)
  | blankAdminToken hprogram h =>
    obtain ⟨build, hrun, -⟩ := exists_run_eq hprogram
    rw [hrun, if_pos (hasBlankToken_iff.mp h)]
  | badBind hprogram htoken h =>
    obtain ⟨build, hrun, -⟩ := exists_run_eq hprogram
    rw [hrun, if_neg (mt hasBlankToken_iff.mpr htoken), bindOf_of_gives h]
    rfl
  | zeroTtl hprogram htoken hbind h =>
    obtain ⟨build, hrun, -⟩ := exists_run_eq hprogram
    obtain ⟨bind, haddress, -⟩ := exists_bindOf hbind
    rw [hrun, if_neg (mt hasBlankToken_iff.mpr htoken), haddress, ttlOf_of_zero h]
    rfl

/-- A run that nothing is found against is resolved, to what the sources give. -/
theorem refuses_or_resolves (s : Sources) :
    (∃ f, s.Refuses f) ∨ ∃ c, s.run = .ok c ∧ s.Resolves c := by
  by_cases hprogram : s.NamesNoProgram
  · exact Or.inl ⟨_, .emptyCommand hprogram⟩
  by_cases htoken : s.HasBlankToken
  · exact Or.inl ⟨_, .blankAdminToken hprogram htoken⟩
  by_cases hbind : ∃ bad, s.HasBadBind bad
  · obtain ⟨bad, hbad⟩ := hbind
    exact Or.inl ⟨_, .badBind hprogram htoken hbad⟩
  have hgood : ∀ bad, ¬s.HasBadBind bad := fun bad hbad => hbind ⟨bad, hbad⟩
  by_cases hzero : s.HasZeroTtl
  · exact Or.inl ⟨_, .zeroTtl hprogram htoken hgood hzero⟩
  · obtain ⟨build, hrun, hbuild⟩ := exists_run_eq hprogram
    obtain ⟨bind, haddress, hread⟩ := exists_bindOf hgood
    obtain ⟨ttl, httl, hgiven⟩ := exists_ttlOf hzero
    refine Or.inr ⟨build bind ttl, ?_, hbuild bind ttl hread hgiven⟩
    rw [hrun, if_neg (mt hasBlankToken_iff.mpr htoken), haddress, httl]
    rfl

/-- A run is refused exactly for what the first check that finds something tells. -/
theorem run_eq_error_iff : s.run = .error f ↔ s.Refuses f := by
  constructor
  · intro h
    rcases s.refuses_or_resolves with ⟨g, hg⟩ | ⟨c, hc, -⟩
    · rw [run_of_refuses hg] at h
      exact Except.error.inj h ▸ hg
    · exact nomatch hc.symm.trans h
  · exact run_of_refuses

theorem resolves_of_run (h : s.run = .ok c) : s.Resolves c := by
  rcases s.refuses_or_resolves with ⟨f, hf⟩ | ⟨c', hrun, hresolves⟩
  · exact nomatch h.symm.trans (run_of_refuses hf)
  · obtain rfl : c = c' := Except.ok.inj (h.symm.trans hrun)
    exact hresolves

/-- The sources leave nothing of a run open. -/
theorem Resolves.unique (h : s.Resolves c) (h' : s.Resolves c') : c = c' := by
  have hk : ∀ k : Setting, k.valueIn c = k.valueIn c' := fun k =>
    (h.settings k).unique (h'.settings k)
  have hdir := h.workingDir.trans h'.workingDir.symm
  have hrequest := h.requestTimeout.trans h'.requestTimeout.symm
  have hscenario : c.scenario = c'.scenario := by
    rw [h.scenario, h'.scenario, show c.scenario.taskListAttempts = _ from hk .taskListAttempts]
    rfl
  have hbind : c.launch.bind = c'.launch.bind := Except.ok.inj (hk .bind)
  obtain ⟨hprogram, hargs⟩ := List.cons.inj (hk .command)
  -- What is no setting has been compared above; the rest goes field by field.
  obtain ⟨⟨⟨⟨program⟩, args, dir⟩, bind, token, storage, workload, output⟩,
    ⟨attempts, interval, timeout⟩, ⟨name, scopes, ttl⟩, scenario, request, grace, revoke⟩ := c
  obtain ⟨⟨⟨⟨program'⟩, args', dir'⟩, bind', token', storage', workload', output'⟩,
    ⟨attempts', interval', timeout'⟩, ⟨name', scopes', ttl'⟩, scenario', request', grace',
    revoke'⟩ := c'
  obtain rfl : program = program' := hprogram
  obtain rfl : args = args' := hargs
  obtain rfl : dir = dir' := hdir
  obtain rfl : bind = bind' := hbind
  obtain rfl : token = token' := hk .adminToken
  obtain rfl : storage = storage' := hk .storagePath
  obtain rfl : workload = workload' := hk .workloadRoot
  obtain rfl : output = output' := hk .output
  obtain rfl : attempts = attempts' := hk .attempts
  obtain rfl : interval = interval' := hk .interval
  obtain rfl : timeout = timeout' := hk .attemptTimeout
  obtain rfl : name = name' := hk .tokenName
  obtain rfl : scopes = scopes' := hk .tokenScopes
  obtain rfl : ttl = ttl' := hk .tokenTtl
  obtain rfl : scenario = scenario' := hscenario
  obtain rfl : request = request' := hrequest
  obtain rfl : grace = grace' := hk .cleanupGrace
  obtain rfl : revoke = revoke' := hk .revokeToken
  rfl

/-- A run is resolved exactly if no check finds anything, and then to what the sources give. -/
theorem run_eq_ok_iff : s.run = .ok c ↔ (∀ f, ¬s.Refuses f) ∧ s.Resolves c := by
  constructor
  · intro h
    refine ⟨fun f hf => ?_, resolves_of_run h⟩
    exact nomatch h.symm.trans (run_of_refuses hf)
  · rintro ⟨hno, hresolves⟩
    rcases s.refuses_or_resolves with ⟨f, hf⟩ | ⟨c', hrun, hresolves'⟩
    · exact absurd hf (hno f)
    · rw [hrun, hresolves.unique hresolves']

end Sources

/-! ## Empty variables -/

/-- Two environments with the same variables, but that some of the harness's own are empty in the
one and not set in the other. -/
def SameButEmpty (env env' : Environment) : Prop :=
  ∀ name, env' name = env name ∨
    ("ORBIT_".toList <+: name.toList ∧ env name = some "" ∧ env' name = none)

section Surroundings

variable {env env' : Environment}

theorem SameButEmpty.nonEmpty_eq (h : SameButEmpty env env') : env'.nonEmpty = env.nonEmpty := by
  funext name
  rw [Environment.nonEmpty, Environment.nonEmpty]
  rcases h name with hsame | ⟨-, hempty, hunset⟩
  · rw [hsame]
  · rw [hempty, hunset]
    rfl

/-- A variable with another kind of name is the same in both. -/
theorem SameButEmpty.eq (h : SameButEmpty env env') {name : String}
    (hname : ¬"ORBIT_".toList <+: name.toList) : env' name = env name :=
  (h name).resolve_right fun hempty => hname hempty.1

/-- The variables by which the settings file and the cargo binary are found are not the
harness's own. -/
theorem not_harness_of_mem :
    ∀ name ∈ ["XDG_CONFIG_HOME", "HOME", "CARGO_BIN", "CARGO_HOME"],
      ¬"ORBIT_".toList <+: name.toList := by
  decide +kernel

theorem forRun_of_sameButEmpty {here there : Surroundings}
    (hthere : there = { here with environment := env })
    (h : SameButEmpty here.environment env) (options : RunOptions) :
    there.forRun options = here.forRun options := by
  have henv : there.environment = env := by rw [hthere]
  have hsame : ∀ name ∈ ["XDG_CONFIG_HOME", "HOME", "CARGO_BIN", "CARGO_HOME"],
      env name = here.environment name := fun name hname => h.eq (not_harness_of_mem name hname)
  simp only [List.forall_mem_cons] at hsame
  obtain ⟨hxdg, hhomeVariable, hbinary, hcargoHome, -⟩ := hsame
  have haccount : there.accountHome = here.accountHome := by rw [hthere]
  have hdir : there.workingDir = here.workingDir := by rw [hthere]
  have hplace : there.workingPlace = here.workingPlace := by rw [hthere]
  have hdisk : there.disk = here.disk := by rw [hthere]
  have hhome : there.home = here.home := by
    rw [Surroundings.home, Surroundings.home, henv, hhomeVariable, haccount]
  have hpath : there.settingsPath = here.settingsPath := by
    rw [Surroundings.settingsPath, Surroundings.settingsPath, henv, hxdg, hhome]
  have hload : FileSettings.load there.disk there.workingPlace there.settingsPath =
      FileSettings.load here.disk here.workingPlace here.settingsPath := by
    rw [hdisk, hplace, hpath]
  have hfile : there.fileSettings = here.fileSettings := by
    unfold Surroundings.fileSettings
    rw [hload]
  have hleads : there.leads = here.leads := by
    funext p
    rw [Surroundings.leads, Surroundings.leads, hdisk, hplace]
  have hcargo : there.cargo = here.cargo := by
    rw [Surroundings.cargo, Surroundings.cargo, henv, hbinary, hcargoHome, hhome, hleads]
  unfold Surroundings.forRun
  rw [hfile, henv, h.nonEmpty_eq, hcargo, hdir]

end Surroundings

/-- A run is resolved to a configuration in which every setting is the value of the first source
that has one, or else its fallback, and which is the same in all else; it is refused exactly if
one of the checks finds something, with the fault of the first that does.  A setting is the same
in any two runs whose sources for it agree down to the one that prevails.  A variable of the
harness that is empty counts as one that is not set. -/
theorem run_resolution (s : Sources) :
    (∀ c, s.run = .ok c ↔ (∀ f, ¬s.Refuses f) ∧ s.Resolves c) ∧
    (∀ f, s.run = .error f ↔ s.Refuses f) ∧
    (∀ (s' : Sources) (c c' : RunParameters), s.run = .ok c → s'.run = .ok c' →
      (SameWinner s.cwd s'.cwd s.rootLayers s'.rootLayers →
        c.launch.command.workingDir = c'.launch.command.workingDir) ∧
      ∀ k : Setting, SameWinner (s.fallback k) (s'.fallback k) (s.layers k) (s'.layers k) →
        k.valueIn c = k.valueIn c') ∧
    ∀ (here : Surroundings) (env : Environment) (options : RunOptions),
      SameButEmpty here.environment env →
        ({ here with environment := env } : Surroundings).forRun options =
          here.forRun options := by
  refine ⟨fun c => Sources.run_eq_ok_iff, fun f => Sources.run_eq_error_iff, ?_, ?_⟩
  · intro s' c c' h h'
    have hresolves := Sources.resolves_of_run h
    have hresolves' := Sources.resolves_of_run h'
    constructor
    · intro hsame
      rw [hresolves.workingDir, hresolves'.workingDir,
        hsame.eq hresolves.root hresolves'.root]
    · intro k hsame
      exact hsame.eq (hresolves.settings k) (hresolves'.settings k)
  · intro here env options hsame
    exact forRun_of_sameButEmpty rfl hsame options

end Shakedown.Settings
