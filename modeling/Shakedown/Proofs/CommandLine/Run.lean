/-
  Shakedown.Proofs.CommandLine.Run

  The command line of `run`: which arguments are taken, and what they are
  taken as.  The options and their values are told on their own; that the
  grammar of the command has just these is what ties the two together.
-/
import Shakedown.CommandLine.Invocation
import Shakedown.Proofs.CommandLine.Grammar
import Shakedown.Proofs.Text.Decimal

namespace Shakedown.CommandLine

open Text.Decimal (Numeral Unsigned)

/-! ## Options -/

/-- An option of `run` with its value. -/
inductive RunOption where
  | root (p : Path)
  | adminToken (s : String)
  | bind (s : String)
  | db (p : Path)
  | containers (p : Path)
  | agent (p : Path)
  | attempts (n : Nat)
  | intervalMillis (n : Nat)
  | taskListAttempts (n : Nat)
  | quietAgent
  | keepToken

namespace RunOption

def name : RunOption → String
  | root _ => "root"
  | adminToken _ => "admin-token"
  | bind _ => "bind"
  | db _ => "db"
  | containers _ => "containers"
  | agent _ => "agent"
  | attempts _ => "attempts"
  | intervalMillis _ => "interval-ms"
  | taskListAttempts _ => "task-list-attempts"
  | quietAgent => "quiet-agent"
  | keepToken => "keep-token"

/-- What is made of an option: the place that it fills. -/
def fill : RunOption → RunOptions → RunOptions
  | root p, r => { r with root := some p }
  | adminToken s, r => { r with adminToken := some s }
  | bind s, r => { r with bind := some s }
  | db p, r => { r with db := some p }
  | containers p, r => { r with containers := some p }
  | agent p, r => { r with agent := some p }
  | attempts n, r => { r with attempts := some n }
  | intervalMillis n, r => { r with intervalMillis := some n }
  | taskListAttempts n, r => { r with taskListAttempts := n }
  | quietAgent, r => { r with quietAgent := true }
  | keepToken, r => { r with keepToken := true }

/-- A text that is the value of an option as its type is written: a path that is not empty, any
text, or a number in the range of its type.  A flag has no value. -/
def IsWritten : RunOption → String → Prop
  | root p, raw | db p, raw | containers p, raw | agent p, raw => raw = p.text ∧ raw ≠ ""
  | adminToken s, raw | bind s, raw => raw = s
  | attempts n, raw | taskListAttempts n, raw => Unsigned raw.toList n ∧ n < 2 ^ 32
  | intervalMillis n, raw => Unsigned raw.toList n ∧ n < 2 ^ 64
  | quietAgent, _ | keepToken, _ => False

/-- A text that is taken as the value of an option: one that is written as its type asks, or,
for a number of 32 bits, a zero with a minus sign. -/
def Takes (o : RunOption) (raw : String) : Prop :=
  o.IsWritten raw ∨
    (o = attempts 0 ∨ o = taskListAttempts 0) ∧ ∃ cs, raw.toList = '-' :: cs ∧ Numeral cs 0

/-- The arguments that spell an option: a flag alone, any other with its value attached, or
with the value in an argument of its own. -/
inductive Spells (takes : RunOption → String → Prop) : RunOption → List String → Prop where
  | flag {o : RunOption} (h : o = quietAgent ∨ o = keepToken) : Spells takes o ["--" ++ o.name]
  | attached {o : RunOption} {raw : String} (h : takes o raw) :
      Spells takes o ["--" ++ o.name ++ "=" ++ raw]
  | apart {o : RunOption} {raw : String} (h : takes o raw) (hword : IsWord raw) :
      Spells takes o ["--" ++ o.name, raw]

end RunOption

/-- What `run` does with no options: none is set, the tasks are listed once, and there are no
flags. -/
def unset (trailing : List String) : RunOptions where
  root := none
  adminToken := none
  bind := none
  db := none
  containers := none
  agent := none
  agentArgs := trailing
  attempts := none
  intervalMillis := none
  taskListAttempts := 1
  quietAgent := false
  keepToken := false

/-- Arguments that spell what `run` is given: its options in some order, none twice, and then
the arguments of the agent behind the mark. -/
def SpellsRun (takes : RunOption → String → Prop) (args : List String) (r : RunOptions) : Prop :=
  ∃ options trailing, Spelled (RunOption.Spells takes) trailing options args ∧
    (options.map RunOption.name).Nodup ∧ r = options.foldr RunOption.fill (unset trailing)

variable {o o' : RunOption} {r : RunOptions} {raw : String}

/-! ## The grammar of the command -/

namespace RunOption

def kind : RunOption → OptionKind
  | root _ | db _ | containers _ | agent _ => .path
  | adminToken _ | bind _ => .text
  | attempts _ | taskListAttempts _ => .small
  | intervalMillis _ => .large
  | quietAgent | keepToken => .flag

def value : RunOption → OptionValue
  | root p | db p | containers p | agent p => .path p
  | adminToken s | bind s => .text s
  | attempts n | taskListAttempts n | intervalMillis n => .number n
  | quietAgent | keepToken => .set

/-- An option as it is recorded. -/
def given (o : RunOption) : String × OptionValue :=
  (o.name, o.value)

end RunOption

theorem runGrammar_wellNamed : runGrammar.WellNamed where
  nameable := by
    have h : ∀ o ∈ runGrammar.options, o.1 ≠ "" ∧ '=' ∉ o.1.toList := by decide +kernel
    exact fun o ho => ⟨(h o ho).1, (h o ho).2⟩
  unreserved := by decide +kernel

theorem kind?_name (o : RunOption) : runGrammar.kind? o.name = some o.kind := by
  cases o <;> rfl

/-- A value of the form that options of a kind have. -/
inductive OptionKind.Fits : OptionKind → OptionValue → Prop where
  | flag : Fits .flag .set
  | text (s : String) : Fits .text (.text s)
  | path (p : Path) : Fits .path (.path p)
  | small (n : Nat) : Fits .small (.number n)
  | large (n : Nat) : Fits .large (.number n)

theorem OptionKind.fits_of_read {kind : OptionKind} {value : OptionValue}
    (h : kind.read raw = .ok value) : kind.Fits value := by
  cases kind with
  | flag =>
    cases h
    exact .flag
  | text =>
    cases h
    exact .text raw
  | path =>
    simp only [OptionKind.read] at h
    split at h <;> cases h
    exact .path ⟨raw⟩
  | small =>
    simp only [OptionKind.read] at h
    split at h
    · split at h <;> cases h
      exact .small _
    · cases h
  | large =>
    simp only [OptionKind.read] at h
    split at h <;> cases h
    exact .large _

/-- Every option that the grammar knows is one of the command. -/
theorem exists_runOption {name : String} {kind : OptionKind} {value : OptionValue}
    (hkind : runGrammar.kind? name = some kind) (hfits : kind.Fits value) :
    ∃ o : RunOption, o.given = (name, value) ∧ o.kind = kind := by
  have hmem := Grammar.mem_of_kind? hkind
  simp only [runGrammar, List.mem_cons, Prod.mk.injEq, List.not_mem_nil, or_false] at hmem
  rcases hmem with ⟨rfl, rfl⟩ | ⟨rfl, rfl⟩ | ⟨rfl, rfl⟩ | ⟨rfl, rfl⟩ | ⟨rfl, rfl⟩ | ⟨rfl, rfl⟩ |
    ⟨rfl, rfl⟩ | ⟨rfl, rfl⟩ | ⟨rfl, rfl⟩ | ⟨rfl, rfl⟩ | ⟨rfl, rfl⟩ <;> cases hfits
  · exact ⟨.root _, rfl, rfl⟩
  · exact ⟨.adminToken _, rfl, rfl⟩
  · exact ⟨.bind _, rfl, rfl⟩
  · exact ⟨.db _, rfl, rfl⟩
  · exact ⟨.containers _, rfl, rfl⟩
  · exact ⟨.agent _, rfl, rfl⟩
  · exact ⟨.attempts _, rfl, rfl⟩
  · exact ⟨.intervalMillis _, rfl, rfl⟩
  · exact ⟨.taskListAttempts _, rfl, rfl⟩
  · exact ⟨.quietAgent, rfl, rfl⟩
  · exact ⟨.keepToken, rfl, rfl⟩

/-! ## Values -/

theorem read_path_eq_ok_iff {p : Path} :
    OptionKind.path.read raw = .ok (.path p) ↔ raw = p.text ∧ raw ≠ "" := by
  rw [OptionKind.read]
  constructor
  · intro h
    split at h <;> cases h
    rename_i hempty
    exact ⟨rfl, by simpa using hempty⟩
  · rintro ⟨rfl, hne⟩
    rw [if_neg (by simpa using hne)]

theorem read_small_eq_ok_iff {n : Nat} : OptionKind.small.read raw = .ok (.number n) ↔
    (Unsigned raw.toList n ∧ n < 2 ^ 32) ∨ n = 0 ∧ ∃ cs, raw.toList = '-' :: cs ∧ Numeral cs 0 := by
  have hread : OptionKind.small.read raw = .ok (.number n) ↔
      Text.Decimal.readInt64? raw.toList = some (n : Int) ∧ n < 2 ^ 32 := by
    simp only [OptionKind.read]
    constructor
    · intro h
      split at h
      · split at h <;> cases h
        exact ⟨‹_›, ‹_›⟩
      · cases h
    · rintro ⟨h, hlt⟩
      rw [h]
      exact if_pos hlt
  rw [hread, Text.Decimal.readInt64?_eq_some_natCast_iff]
  constructor
  · rintro ⟨⟨h, -⟩ | ⟨rfl, h⟩, hlt⟩
    · exact .inl ⟨h, hlt⟩
    · exact .inr ⟨rfl, h⟩
  · rintro (⟨h, hlt⟩ | ⟨rfl, h⟩)
    · exact ⟨.inl ⟨h, by omega⟩, hlt⟩
    · exact ⟨.inr ⟨rfl, h⟩, by decide⟩

theorem read_large_eq_ok_iff {n : Nat} : OptionKind.large.read raw = .ok (.number n) ↔
    Unsigned raw.toList n ∧ n < 2 ^ 64 := by
  have hread : OptionKind.large.read raw = .ok (.number n) ↔
      Text.Decimal.readUpTo? (Nat.pow 2 64 - 1) raw.toList = some n := by
    simp only [OptionKind.read]
    constructor
    · intro h
      split at h <;> cases h
      assumption
    · intro h
      rw [h]
  rw [hread, Text.Decimal.readUpTo?_eq_some_iff]
  exact and_congr_right fun _ => Nat.le_sub_one_iff_lt (by decide)

/-- The values that are taken are those that are read. -/
theorem takes_iff : o.Takes raw ↔ o.kind ≠ .flag ∧ o.kind.read raw = .ok o.value := by
  cases o with
  | root p | db p | containers p | agent p =>
    simp [RunOption.Takes, RunOption.IsWritten, RunOption.kind, RunOption.value,
      read_path_eq_ok_iff]
  | adminToken s | bind s =>
    simp [RunOption.Takes, RunOption.IsWritten, RunOption.kind, RunOption.value, OptionKind.read]
  | attempts n | taskListAttempts n =>
    simp [RunOption.Takes, RunOption.IsWritten, RunOption.kind, RunOption.value,
      read_small_eq_ok_iff]
  | intervalMillis n =>
    simp [RunOption.Takes, RunOption.IsWritten, RunOption.kind, RunOption.value,
      read_large_eq_ok_iff]
  | quietAgent | keepToken =>
    simp [RunOption.Takes, RunOption.IsWritten, RunOption.kind]

/-! ## Spellings -/

theorem kind_eq_flag_iff : o.kind = .flag ↔ o = .quietAgent ∨ o = .keepToken := by
  cases o <;> simp [RunOption.kind]

theorem RunOption.Spells.given {words : List String} (h : o.Spells RunOption.Takes words) :
    runGrammar.Spells o.given words := by
  cases h with
  | flag h =>
    have hvalue : o.value = .set := by rcases h with rfl | rfl <;> rfl
    rw [RunOption.given, hvalue]
    exact .flag ((kind?_name o).trans (congrArg some (kind_eq_flag_iff.mpr h)))
  | attached h =>
    obtain ⟨hvalued, hread⟩ := takes_iff.mp h
    exact .attached (kind?_name o) hvalued hread
  | apart h hword =>
    obtain ⟨hvalued, hread⟩ := takes_iff.mp h
    exact .apart (kind?_name o) hvalued hread hword

theorem exists_spells (given : String × OptionValue) (words : List String)
    (h : runGrammar.Spells given words) :
    ∃ o : RunOption, o.given = given ∧ o.Spells RunOption.Takes words := by
  cases h with
  | flag hkind =>
    obtain ⟨o, hgiven, hflag⟩ := exists_runOption hkind .flag
    obtain ⟨rfl, -⟩ := Prod.mk.inj hgiven
    exact ⟨o, hgiven, .flag (kind_eq_flag_iff.mp hflag)⟩
  | attached hkind hvalued hread =>
    obtain ⟨o, hgiven, rfl⟩ := exists_runOption hkind (OptionKind.fits_of_read hread)
    obtain ⟨rfl, rfl⟩ := Prod.mk.inj hgiven
    exact ⟨o, rfl, .attached (takes_iff.mpr ⟨hvalued, hread⟩)⟩
  | apart hkind hvalued hread hword =>
    obtain ⟨o, hgiven, rfl⟩ := exists_runOption hkind (OptionKind.fits_of_read hread)
    obtain ⟨rfl, rfl⟩ := Prod.mk.inj hgiven
    exact ⟨o, rfl, .apart (takes_iff.mpr ⟨hvalued, hread⟩) hword⟩

/-! ## What is made of the options -/

theorem runOptions_given (o : RunOption) (options : List (String × OptionValue))
    (trailing : List String) :
    runOptions ⟨o.given :: options, trailing⟩ = o.fill (runOptions ⟨options, trailing⟩) := by
  cases o <;> rfl

theorem runOptions_map_given (options : List RunOption) (trailing : List String) :
    runOptions ⟨options.map RunOption.given, trailing⟩ =
      options.foldr RunOption.fill (unset trailing) := by
  induction options with
  | nil => rfl
  | cons o options ih => rw [List.map_cons, runOptions_given, ih, List.foldr_cons]

/-- Options that are not the same fill different places. -/
theorem fill_comm (h : o.name ≠ o'.name) (r : RunOptions) :
    o.fill (o'.fill r) = o'.fill (o.fill r) := by
  -- Each pair either computes, or is one of two options with one name.
  cases o <;> cases o' <;> first | rfl | exact absurd rfl h

theorem foldr_fill_perm {options options' : List RunOption} (h : options.Perm options')
    (hnodup : (options.map RunOption.name).Nodup) (r : RunOptions) :
    options.foldr RunOption.fill r = options'.foldr RunOption.fill r := by
  refine h.foldr_eq' (fun o ho o' ho' r => ?_) r
  by_cases hname : o.name = o'.name
  · rw [List.inj_on_of_nodup_map hnodup ho ho' hname]
  · exact fill_comm (Ne.symm hname) r

/-! ## The command line -/

theorem parse_run (args : List String) : parse ("run" :: args) =
    (Given.read runGrammar {} none args).map fun g => .run (runOptions g) :=
  rfl

theorem parse_run_eq_ok_iff {args : List String} : parse ("run" :: args) = .ok (.run r) ↔
    ∃ given, Given.read runGrammar {} none args = .ok given ∧ r = runOptions given := by
  rw [parse_run]
  cases Given.read runGrammar {} none args with
  | error e => simp [Except.map]
  | ok given => simp [Except.map, eq_comm]

theorem map_given_name (options : List RunOption) :
    (options.map RunOption.given).map (·.1) = options.map RunOption.name :=
  List.map_map

/-- What the arguments that spell some options are taken as. -/
theorem parse_spelled {options : List RunOption} {trailing args : List String}
    (h : Spelled (RunOption.Spells RunOption.Takes) trailing options args) :
    parse ("run" :: args) = if (options.map RunOption.name).Nodup
      then .ok (.run (options.foldr RunOption.fill (unset trailing)))
      else .error .argumentConflict := by
  have hgiven : Spelled runGrammar.Spells trailing (options.map RunOption.given) args :=
    h.map fun o words => RunOption.Spells.given
  rw [parse_run, Given.read_spelled runGrammar_wellNamed hgiven (.inr rfl), map_given_name]
  split
  · rw [← runOptions_map_given]
    rfl
  · rfl

example : parse ["run", "--agent", "/opt/agent", "--attempts", "5", "--", "--port", "1"] =
    .ok (.run { agent := some "/opt/agent", attempts := some 5, agentArgs := ["--port", "1"] }) := by
  decide +kernel

/-- The command line of `run` is taken for exactly the arguments that spell what it is given,
and how the options are ordered and their values attached makes no difference. -/
theorem run_spelling :
    (∀ args r, parse ("run" :: args) = .ok (.run r) ↔ SpellsRun RunOption.Takes args r) ∧
    ∀ options options' trailing args args',
      Spelled (RunOption.Spells RunOption.Takes) trailing options args →
      Spelled (RunOption.Spells RunOption.Takes) trailing options' args' →
      options.Perm options' → parse ("run" :: args) = parse ("run" :: args') := by
  refine ⟨fun args r => ⟨?_, ?_⟩, ?_⟩
  · intro h
    obtain ⟨given, hread, rfl⟩ := parse_run_eq_ok_iff.mp h
    obtain ⟨hspelled, -, hnodup⟩ := (Given.read_eq_ok_iff runGrammar_wellNamed).mp hread
    obtain ⟨options, hoptions, hspelled⟩ := hspelled.exists_map exists_spells
    rw [← hoptions, map_given_name] at hnodup
    refine ⟨options, given.trailing, hspelled, hnodup, ?_⟩
    rw [← runOptions_map_given, hoptions]
  · rintro ⟨options, trailing, hspelled, hnodup, rfl⟩
    rw [parse_spelled hspelled, if_pos hnodup]
  · intro options options' trailing args args' hspelled hspelled' hperm
    have hnames := (hperm.map RunOption.name).nodup_iff
    rw [parse_spelled hspelled, parse_spelled hspelled']
    by_cases hnodup : (options.map RunOption.name).Nodup
    · rw [if_pos hnodup, if_pos (hnames.mp hnodup), foldr_fill_perm hperm hnodup]
    · rw [if_neg hnodup, if_neg fun h => hnodup (hnames.mpr h)]

/-- A zero with a minus sign is taken for the number of attempts, though it is not how such a
number is written. -/
theorem minus_zero_taken :
    parse ["run", "--attempts=-0"] = .ok (.run { attempts := some 0 }) ∧
    ∀ r, ¬SpellsRun RunOption.IsWritten ["--attempts=-0"] r := by
  refine ⟨by decide +kernel, ?_⟩
  rintro r ⟨options, trailing, hspelled, -, -⟩
  -- The pattern of `Spelled` cannot be met by a list that is written out.
  generalize hargs : ["--attempts=-0"] = args at hspelled
  cases hspelled with
  | bare _ => exact nomatch hargs
  | marked => exact absurd (List.cons.inj hargs).1 (by decide +kernel)
  | @cons o _ _ _ first rest =>
    cases first with
    | flag h =>
      rcases h with rfl | rfl <;> exact absurd (List.cons.inj hargs).1 (by decide +kernel)
    | @attached raw h =>
      have hlong := long?_attached (runGrammar_wellNamed.nameable_of_kind? (kind?_name o)) raw
      rw [← (List.cons.inj hargs).1] at hlong
      have hown : long? "--attempts=-0" = some ("attempts", some "-0") := by decide +kernel
      obtain ⟨hname, hraw⟩ := Prod.mk.inj (Option.some.inj (hown.symm.trans hlong))
      obtain rfl := Option.some.inj hraw
      cases o with
      | attempts n => exact Text.Decimal.not_unsigned_minus h.1
      | _ => simp [RunOption.name] at hname
    | apart h _ => exact nomatch (List.cons.inj hargs).2

end Shakedown.CommandLine
