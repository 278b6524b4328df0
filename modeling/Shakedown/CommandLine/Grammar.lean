/-
  Shakedown.CommandLine.Grammar

  Reading the arguments of a command.  An option is `--name value` or
  `--name=value`, a flag is `--name`; each is given at most once.  A value in
  an argument of its own does not look like an option, except for a lone
  `-`.  All that follows `--` is left to the command, if it takes anything.
-/
import Shakedown.Path
import Shakedown.Text.Decimal

namespace Shakedown.CommandLine

/-- What a command line is refused for, or shows instead of running. -/
inductive UsageError where
  | displayHelp
  /-- No subcommand was given. -/
  | missingSubcommand
  | invalidSubcommand
  | unknownArgument
  /-- An option without a value, or an empty path. -/
  | invalidValue
  /-- A number that is none. -/
  | valueValidation
  /-- An option given again. -/
  | argumentConflict
  /-- A value for a flag. -/
  | tooManyValues
deriving DecidableEq, Repr

/-- The exit code after a refused command line. -/
def UsageError.exitCode : UsageError → Nat
  | .displayHelp => 0
  | _ => 2

/-- What an option takes. -/
inductive OptionKind where
  | flag
  | text
  | path
  /-- A number of 32 bits. -/
  | small
  /-- A number of 64 bits. -/
  | large
deriving DecidableEq, Repr

inductive OptionValue where
  | set
  | text (s : String)
  | path (p : Path)
  | number (n : Nat)
deriving DecidableEq, Repr

/-- What a command takes. -/
structure Grammar where
  options : List (String × OptionKind)
  /-- Whether it takes what follows `--`. -/
  trailing : Bool

/-- What a command was given. -/
structure Given where
  options : List (String × OptionValue) := []
  trailing : List String := []
deriving DecidableEq, Repr

/-- A value of an option of some kind. -/
def OptionKind.read (raw : String) : OptionKind → Except UsageError OptionValue
  | .flag => .ok .set
  | .text => .ok (.text raw)
  | .path => if raw.isEmpty then .error .invalidValue else .ok (.path ⟨raw⟩)
  | .small => match Text.Decimal.readInt64? raw.toList with
    | some (.ofNat n) => if n < Nat.pow 2 32 then .ok (.number n) else .error .valueValidation
    | _ => .error .valueValidation
  | .large => match Text.Decimal.readUpTo? (Nat.pow 2 64 - 1) raw.toList with
    | some n => .ok (.number n)
    | none => .error .valueValidation

/-! ## Arguments -/

/-- Name and attached value of an argument that starts with two dashes. -/
def long? (arg : String) : Option (String × Option String) :=
  match arg.toList with
  | '-' :: '-' :: c :: cs =>
    let name := (c :: cs).takeWhile (· ≠ '=')
    match (c :: cs).dropWhile (· ≠ '=') with
    | _ :: value => some (String.ofList name, some (String.ofList value))
    | [] => some (String.ofList name, none)
  | _ => none

/-- The letters of an argument that starts with one dash. -/
def short? (arg : String) : Option (List Char) :=
  match arg.toList with
  | '-' :: c :: cs => if c = '-' then none else some (c :: cs)
  | _ => none

/-- An option whose value is still to come, or has come and is still to be read. -/
structure Pending where
  name : String
  kind : OptionKind
  value : Option String

def Grammar.kind? (g : Grammar) (name : String) : Option OptionKind :=
  (g.options.find? fun o => o.1 == name).map (·.2)

/-- Records an option with its value. -/
def Given.accept (g : Given) (name : String) (kind : OptionKind) (raw : String) :
    Except UsageError Given :=
  if g.options.any fun o => o.1 == name then .error .argumentConflict
  else match kind.read raw with
    | .ok v => .ok { g with options := g.options ++ [(name, v)] }
    | .error e => .error e

def Given.settle (g : Given) : Option Pending → Except UsageError Given
  | none => .ok g
  | some ⟨_, _, none⟩ => .error .invalidValue
  | some ⟨name, kind, some raw⟩ => g.accept name kind raw

/-- Records what follows `--`. -/
def Given.finish (g : Given) (grammar : Grammar) (pending : Option Pending)
    (rest : List String) : Except UsageError Given :=
  if rest.isEmpty || grammar.trailing then
    match g.settle pending with
    | .ok g => .ok { g with trailing := rest }
    | .error e => .error e
  else .error .unknownArgument

/-- Reads arguments.  A pending option is settled before the next one is taken
up, but an argument that is not understood is reported first. -/
def Given.read (grammar : Grammar) (g : Given) (pending : Option Pending) :
    List String → Except UsageError Given
  | [] => g.settle pending
  | arg :: rest =>
    if arg = "--" then g.finish grammar pending rest
    else match long? arg with
      | some ("help", some _) => .error .tooManyValues
      | some ("help", none) => match g.settle pending with
        | .ok _ => .error .displayHelp
        | .error e => .error e
      | some (name, attached) =>
        match grammar.kind? name, attached with
        -- What the argument alone shows to be wrong comes before the pending option.
        | none, _ => .error .unknownArgument
        | some .flag, some _ => .error .tooManyValues
        | some kind, attached => match g.settle pending with
          | .error e => .error e
          | .ok g =>
            match kind, attached with
            | .flag, _ => match g.accept name .flag "" with
              | .ok g => g.read grammar none rest
              | .error e => .error e
            | kind, some raw => match g.accept name kind raw with
              | .ok g => g.read grammar none rest
              | .error e => .error e
            | kind, none => g.read grammar (some ⟨name, kind, none⟩) rest
      | none => match short? arg with
        | some ('h' :: _) => match g.settle pending with
          | .ok _ => .error .displayHelp
          | .error e => .error e
        | some _ => .error .unknownArgument
        | none => match pending with
          -- A word without dashes can only be the value that an option waits for.
          | some ⟨name, kind, none⟩ => g.read grammar (some ⟨name, kind, some arg⟩) rest
          | _ => .error .unknownArgument

/-! ## What was given -/

def Given.value? (g : Given) (name : String) : Option OptionValue :=
  (g.options.find? fun o => o.1 == name).map (·.2)

def Given.text? (g : Given) (name : String) : Option String :=
  match g.value? name with
  | some (.text s) => some s
  | _ => none

def Given.path? (g : Given) (name : String) : Option Path :=
  match g.value? name with
  | some (.path p) => some p
  | _ => none

def Given.number? (g : Given) (name : String) : Option Nat :=
  match g.value? name with
  | some (.number n) => some n
  | _ => none

/-- Whether a flag was given. -/
def Given.has (g : Given) (name : String) : Bool :=
  (g.value? name).isSome

end Shakedown.CommandLine
