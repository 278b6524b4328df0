/-
  Shakedown.Toml.Reader

  Reading a TOML text.  One byte order mark may stand in front.
-/
import Shakedown.Toml.Document
import Shakedown.Toml.Scalar

namespace Shakedown.Toml

/-! ## Values -/

/-- Skips blanks, ends of line and comments.  The fuel is at least the number of
characters. -/
def skipLines : (fuel : Nat) → List Char → List Char
  | 0, cs => cs
  | fuel + 1, cs =>
    let rest := skipBlanks cs
    match newline? (skipComment rest) with
    | some rest => skipLines fuel rest
    | none => rest

def inlineTable (cs : List Char) (pairs : List (List String × String × Toml)) :
    Except Fault Toml :=
  match pairs.foldlM (fun t (path, name, v) => t.assign path name v) Section.empty with
  | .ok t => .ok t.finished
  | .error clash => .error (faultAt cs clash.message)

mutual

/-- A value.  `depth` counts the arrays and inline tables around it. -/
def value : (fuel : Nat) → (depth : Nat) → List Char → Except Fault (Toml × List Char)
  | 0, _, cs => .error (faultAt cs "recursion limit exceeded")
  | fuel + 1, depth, cs =>
    match cs with
    | [] => .error (faultAt [] "invalid string\nexpected `\"`, `'`")
    | c :: rest =>
      if c = '"' || c = '\'' then do
        let (s, rest) ← stringText cs
        return (.string s, rest)
      else if c = '[' || c = '\x7b' then
        -- Arrays and inline tables count towards one limit.
        if depthLimit ≤ depth + 1 then .error (faultAt cs "recursion limit exceeded")
        else if c = '[' then do
          let (items, rest) ← arrayItems fuel (depth + 1) rest
          return (.array items, rest)
        else do
          let (pairs, rest) ← inlinePairs fuel (depth + 1) rest
          return (← inlineTable cs pairs, rest)
      else if c = '+' || c = '-' || Text.Decimal.isDigit c then dateOrNumber cs
      else match Text.after? ['t', 'r', 'u', 'e'] cs with
        | some rest => .ok (.boolean true, rest)
        | none => match Text.after? ['f', 'a', 'l', 's', 'e'] cs with
          | some rest => .ok (.boolean false, rest)
          | none => match specialFloat? cs with
            | some rest => .ok (.float, rest)
            | none => .error (faultAt cs "invalid string\nexpected `\"`, `'`")

/-- The items of an array and what follows its closing bracket. -/
def arrayItems : (fuel : Nat) → (depth : Nat) → List Char → Except Fault (List Toml × List Char)
  | 0, _, cs => .error (faultAt cs "invalid array\nexpected `]`")
  | fuel + 1, depth, cs =>
    match skipLines (cs.length + 1) cs with
    | ']' :: rest => .ok ([], rest)
    | start => do
      let (v, rest) ← value fuel depth start
      match skipLines (rest.length + 1) rest with
      | ',' :: rest => do
        let (vs, rest) ← arrayItems fuel depth rest
        return (v :: vs, rest)
      | ']' :: rest => return ([v], rest)
      | rest => .error (faultAt rest "invalid array\nexpected `]`")

/-- The assignments of an inline table and what follows its closing brace. -/
def inlinePairs : (fuel : Nat) → (depth : Nat) → List Char →
    Except Fault (List (List String × String × Toml) × List Char)
  | 0, _, cs => .error (faultAt cs "invalid inline table\nexpected `\x7d`")
  | fuel + 1, depth, cs =>
    match skipBlanks cs with
    | '\x7d' :: rest => .ok ([], rest)
    | start => morePairs fuel depth start

/-- The assignments of an inline table that has one more. -/
def morePairs : (fuel : Nat) → (depth : Nat) → List Char →
    Except Fault (List (List String × String × Toml) × List Char)
  | 0, _, cs => .error (faultAt cs "invalid inline table\nexpected `\x7d`")
  | fuel + 1, depth, cs => do
    let ((path, name), rest) ← key cs
    match rest with
    | '=' :: rest => do
      let (v, rest) ← value fuel depth (skipBlanks rest)
      match skipBlanks rest with
      | ',' :: rest => do
        let (pairs, rest) ← morePairs fuel depth rest
        return ((path, name, v) :: pairs, rest)
      | '\x7d' :: rest => return ([(path, name, v)], rest)
      | rest => .error (faultAt rest "invalid inline table\nexpected `\x7d`")
    | rest => .error (faultAt rest "expected `.`, `=`")

end

/-! ## Statements -/

def assignment (cs : List Char) : Except Fault (Statement × List Char) := do
  let ((path, name), rest) ← key cs
  match rest with
  | '=' :: rest => do
    let start := skipBlanks rest
    let (v, rest) ← value (2 * start.length + 2) 0 start
    return (.assign path name v, ← endOfLine rest)
  | rest => .error (faultAt rest "expected `.`, `=`")

/-- A header; the text starts with its opening bracket. -/
def header (cs : List Char) : Except Fault (Statement × List Char) :=
  match cs with
  | '[' :: '[' :: rest => do
    let ((path, name), rest) ← key rest
    match rest with
    | ']' :: ']' :: rest => return (.arrayHeader path name, ← endOfLine rest)
    | rest => .error (faultAt rest "invalid table header\nexpected `.`, `]]`")
  | '[' :: rest => do
    let ((path, name), rest) ← key rest
    match rest with
    | ']' :: rest => return (.header path name, ← endOfLine rest)
    | rest => .error (faultAt rest "invalid table header\nexpected `.`, `]`")
  | _ => .error (faultAt cs "invalid table header")

/-- Adds the statements of a text to a document.  The fuel is at least the number
of characters. -/
def statements : (fuel : Nat) → Document → List Char → Except Fault Document
  | 0, d, _ => .ok d
  | fuel + 1, d, cs =>
    match skipBlanks cs with
    | [] => .ok d
    | c :: rest => do
      if c = '#' then statements fuel d (← endOfLine (c :: rest))
      else match newline? (c :: rest) with
        | some rest => statements fuel d rest
        | none =>
          let (s, after) ← if c = '[' then header (c :: rest) else assignment (c :: rest)
          match d.add s with
          | .ok d => statements fuel d after
          -- A clash is told at the start of the statement that clashes.
          | .error clash => .error (faultAt (c :: rest) clash.message)

/-- A text without the byte order mark it may start with. -/
def withoutMark : List Char → List Char
  | '\uFEFF' :: cs => cs
  | cs => cs

/-- Reads a TOML text as a table. -/
def read (cs : List Char) : Except Fault Toml :=
  let body := withoutMark cs
  match statements (body.length + 1) {} body with
  | .error f => .error f
  -- The table of the last header has not been put in its place yet.
  | .ok d => match d.close with
    | .ok t => .ok t.finished
    | .error clash => .error (faultAt [] clash.message)

end Shakedown.Toml
