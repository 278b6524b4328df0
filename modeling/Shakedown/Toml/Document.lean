/-
  Shakedown.Toml.Document

  How the statements of a TOML text make one table.  A table may be defined
  once: by its header, or by dotted keys, or in one piece as a value.  What
  only stands above something defined may still be defined later, once.
-/
import Shakedown.Toml.Basic

namespace Shakedown.Toml

mutual

/-- Something under a name in a table that is being made. -/
inductive Node where
  /-- A value that nothing can be added to. -/
  | value (v : Toml)
  | table (t : Section)
  /-- The tables of an array, the latest first. -/
  | tables (latestFirst : List Section)

/-- A table that is being made.  It is implicit while it only stands above
something else, and dotted if dotted keys put it there. -/
inductive Section where
  | mk (implicit dotted : Bool) (members : List (String × Node))

end

/-- Why a statement does not fit the ones before it. -/
structure Clash where
  key : String
deriving DecidableEq, Repr

/-- The text of a clash. -/
def Clash.message (c : Clash) : String :=
  "duplicate key `" ++ c.key ++ "`"

namespace Section

def empty : Section := .mk false false []

def implicit : Section → Bool
  | .mk i _ _ => i

def dotted : Section → Bool
  | .mk _ d _ => d

def members : Section → List (String × Node)
  | .mk _ _ m => m

/-- What is under a name. -/
def find? (t : Section) (name : String) : Option Node :=
  (t.members.find? fun m => m.1 == name).map (·.2)

/-- Puts something under a name, in place of what was there. -/
def put (t : Section) (name : String) (n : Node) : Section :=
  if t.members.any fun m => m.1 == name then
    .mk t.implicit t.dotted (t.members.map fun m => if m.1 == name then (name, n) else m)
  else .mk t.implicit t.dotted (t.members ++ [(name, n)])

def remove (t : Section) (name : String) : Section :=
  .mk t.implicit t.dotted (t.members.filter fun m => m.1 != name)

/-- Changes the table that a path of names leads to; tables missing on the way
are made.  Dotted keys do not lead into a table that a header defined. -/
def within (isDotted : Bool) (t : Section) (path : List String)
    (change : Section → Except Clash Section) : Except Clash Section :=
  match path with
  | [] => change t
  | name :: rest =>
    match t.find? name with
    | none => do
      return t.put name (.table (← within isDotted (.mk true isDotted []) rest change))
    | some (.value _) => .error ⟨name⟩
    | some (.table inner) =>
      if isDotted && !inner.implicit then .error ⟨name⟩
      else do return t.put name (.table (← within isDotted inner rest change))
    | some (.tables []) => .error ⟨name⟩
    -- More names after an array of tables lead into its latest table.
    | some (.tables (latest :: earlier)) => do
      return t.put name (.tables ((← within isDotted latest rest change) :: earlier))

/-- Adds a value under a dotted key.  A key with dots adds to tables that dotted
keys made, and a key without to any other. -/
def assign (t : Section) (path : List String) (name : String) (v : Toml) :
    Except Clash Section :=
  t.within true path fun inner =>
    if inner.dotted == path.isEmpty then .error ⟨name⟩
    else match inner.find? name with
      | some _ => .error ⟨name⟩
      | none => .ok (inner.put name (.value v))

end Section

mutual

/-- The value that a node stands for. -/
def Node.finished : Node → Toml
  | .value v => v
  | .table t => t.finished
  | .tables ts => .array (finishedList ts).reverse

/-- The table that a section stands for. -/
def Section.finished : Section → Toml
  | .mk _ _ members => .table (finishedMembers members)

def finishedList : List Section → List Toml
  | [] => []
  | t :: ts => t.finished :: finishedList ts

def finishedMembers : List (String × Node) → List (String × Toml)
  | [] => []
  | (name, n) :: rest => (name, n.finished) :: finishedMembers rest

end

/-! ## Documents -/

/-- A statement of a TOML text. -/
inductive Statement where
  /-- `a.b = value`, with the names before the last one, and the last one. -/
  | assign (path : List String) (name : String) (v : Toml)
  /-- `[a.b]` -/
  | header (path : List String) (name : String)
  /-- `[[a.b]]` -/
  | arrayHeader (path : List String) (name : String)

/-- Where a table goes once it is complete. -/
inductive Destination where
  | root
  | table (path : List String) (name : String)
  | arrayItem (path : List String) (name : String)

/-- A document that is being made, and the table that assignments go to. -/
structure Document where
  root : Section := .empty
  current : Section := .empty
  destination : Destination := .root

namespace Document

/-- The root with the current table in its place. -/
def close (d : Document) : Except Clash Section :=
  match d.destination with
  | .root => .ok d.current
  | .table path name =>
    d.root.within false path fun parent => .ok (parent.put name (.table d.current))
  | .arrayItem path name =>
    d.root.within false path fun parent =>
      match parent.find? name with
      | none => .ok (parent.put name (.tables [d.current]))
      | some (.tables ts) => .ok (parent.put name (.tables (d.current :: ts)))
      | some _ => .error ⟨name⟩

/-- Takes a table that only stands above others out of the root, to be defined
now; an empty one if there is none. -/
def take (root : Section) (path : List String) (name : String) :
    Except Clash (Section × Section) := do
  let found : Section ← match (← lookup root path) with
    | none => pure .empty
    | some parent => match parent.find? name with
      | none => pure .empty
      | some (.table t) =>
        -- It stood above others so far, and is defined from now on.
        if t.implicit && !t.dotted then pure (.mk false false t.members) else throw ⟨name⟩
      | some _ => throw ⟨name⟩
  let root ← root.within false path fun parent => .ok (parent.remove name)
  return (found, root)
where
  /-- The table that a path leads to, if it is there. -/
  lookup (t : Section) : List String → Except Clash (Option Section)
    | [] => .ok (some t)
    | step :: rest => match t.find? step with
      | none => .ok none
      | some (.value _) => .error ⟨step⟩
      | some (.table inner) => lookup inner rest
      | some (.tables []) => .error ⟨step⟩
      | some (.tables (latest :: _)) => lookup latest rest

/-- Whether an array of tables may stand under a name. -/
def allowsArray (name : String) (parent : Section) : Except Clash Section :=
  match parent.find? name with
  | none => .ok parent
  | some (.tables _) => .ok parent
  | some _ => .error ⟨name⟩

/-- Adds a statement. -/
def add (d : Document) : Statement → Except Clash Document
  | .assign path name v => do return { d with current := ← d.current.assign path name v }
  | .header path name => do
    let (current, root) ← take (← d.close) path name
    return ⟨root, current, .table path name⟩
  | .arrayHeader path name => do
    let root ← (← d.close).within false path (allowsArray name)
    return ⟨root, .empty, .arrayItem path name⟩

end Document

end Shakedown.Toml
