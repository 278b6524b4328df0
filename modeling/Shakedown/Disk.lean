/-
  Shakedown.Disk

  A file system: directories and files under one root.  Paths are followed
  piece by piece from the root or from a working directory; every step but
  the last has to be a directory, and so does one that a slash follows.
-/
import Shakedown.Path

namespace Shakedown

/-- Why the operating system refused something. -/
inductive OsError where
  | notFound
  /-- An argument or a variable that is too long for a program to be started with. -/
  | argumentTooLong
  | execFormat
  | permissionDenied
  | fileExists
  | notDirectory
  | isDirectory
  | nameTooLong
  /-- A path with a NUL is no path at all. -/
  | nulInPath
  /-- A NUL in an argument or in the environment of a program. -/
  | nulInData
deriving DecidableEq, Repr

namespace OsError

/-- The text of an error. -/
def message : OsError → String
  | notFound => "No such file or directory (os error 2)"
  | argumentTooLong => "Argument list too long (os error 7)"
  | execFormat => "Exec format error (os error 8)"
  | permissionDenied => "Permission denied (os error 13)"
  | fileExists => "File exists (os error 17)"
  | notDirectory => "Not a directory (os error 20)"
  | isDirectory => "Is a directory (os error 21)"
  | nameTooLong => "File name too long (os error 36)"
  | nulInPath => "file name contained an unexpected NUL byte"
  | nulInData => "nul byte found in provided data"

end OsError

/-- Whether a text holds a NUL. -/
def hasNul (s : String) : Bool :=
  s.toList.any fun c => c.toNat == 0

/-- Something on a disk. -/
inductive DiskEntry where
  | file (content : List UInt8)
  | directory
deriving DecidableEq, Repr

/-- The names from the root down to a place on a disk. -/
abbrev Place := List String

/-- What is on a disk, place by place.  The root is always a directory. -/
structure Disk where
  entries : List (Place × DiskEntry) := []
deriving Repr

namespace Disk

def at? (d : Disk) (p : Place) : Option DiskEntry :=
  if p.isEmpty then some .directory
  else (d.entries.find? fun e => e.1 == p).map (·.2)

/-- Puts something at a place in place of what was there. -/
def put (d : Disk) (p : Place) (e : DiskEntry) : Disk :=
  ⟨(p, e) :: d.entries.filter fun x => x.1 != p⟩

/-- The disk with a directory at a place, and those above it, as far as nothing is there. -/
def withDirectory (d : Disk) (p : Place) : Disk :=
  -- From the root down, so that each directory has one to stand in.
  (List.range p.length).foldl (fun d n =>
    let above := p.take (n + 1)
    if (d.at? above).isSome then d else d.put above .directory) d

/-- The disk with a file at a place, and the directories above it. -/
def withFile (d : Disk) (p : Place) (content : List UInt8) : Disk :=
  (d.withDirectory p.dropLast).put p (.file content)

/-! ## Following a path -/

/-- The step from a place along one piece of a path. -/
def step (d : Disk) (at_ : Place) (piece : String) : Except OsError Place :=
  match d.at? at_ with
  | none => .error .notFound
  | some (.file _) => .error .notDirectory
  | some .directory =>
    if piece = "" || piece = "." then .ok at_
    -- Above the root is the root.
    else if piece = ".." then .ok at_.dropLast
    else if 255 < piece.utf8ByteSize then .error .nameTooLong
    else
      let next := at_ ++ [piece]
      match d.at? next with
      | some _ => .ok next
      | none => .error .notFound

/-- Follows the pieces of a path from a place. -/
def walk (d : Disk) : Place → List String → Except OsError Place
  | at_, [] => .ok at_
  | at_, piece :: rest =>
    match d.step at_ piece with
    | .ok next => d.walk next rest
    | .error e => .error e

/-- The pieces of a path between its slashes. -/
def piecesOf (p : Path) : List String :=
  (p.text.toList.splitOn '/').map String.ofList

/-- Whether a text can be a path at all. -/
def checkPath (p : Path) : Except OsError Unit :=
  if hasNul p.text then .error .nulInPath
  else if p.text.isEmpty then .error .notFound
  else if 4096 ≤ p.text.utf8ByteSize then .error .nameTooLong
  else .ok ()

def startOf (cwd : Place) (p : Path) : Place :=
  if p.isAbsolute then [] else cwd

/-- The place that a path leads to from a working directory. -/
def locate (d : Disk) (cwd : Place) (p : Path) : Except OsError Place :=
  match checkPath p with
  | .error e => .error e
  | .ok () => d.walk (startOf cwd p) (piecesOf p)

/-- What a path leads to. -/
def entry? (d : Disk) (cwd : Place) (p : Path) : Option DiskEntry :=
  match d.locate cwd p with
  | .ok place => d.at? place
  | .error _ => none

def leads (d : Disk) (cwd : Place) (p : Path) : Bool :=
  (d.entry? cwd p).isSome

def isDirectory (d : Disk) (cwd : Place) (p : Path) : Bool :=
  d.entry? cwd p == some .directory

/-- The content of the file that a path leads to. -/
def content (d : Disk) (cwd : Place) (p : Path) : Except OsError (List UInt8) :=
  match d.locate cwd p with
  | .error e => .error e
  | .ok place => match d.at? place with
    | some (.file bytes) => .ok bytes
    | some .directory => .error .isDirectory
    | none => .error .notFound

/-! ## Making directories -/

/-- The pieces of a path without the empty ones at its end. -/
def targetPieces (p : Path) : List String :=
  ((piecesOf p).reverse.dropWhile (· = "")).reverse

/-- Makes one directory, in a directory that exists. -/
def makeDirectory (d : Disk) (cwd : Place) (p : Path) : Except OsError Disk :=
  match checkPath p with
  | .error e => .error e
  | .ok () =>
    let pieces := targetPieces p
    match d.walk (startOf cwd p) pieces.dropLast, pieces.getLast? with
    | .error e, _ => .error e
    | .ok _, none => .error .fileExists
    | .ok parent, some name =>
      if name = "." || name = ".." then .error .fileExists
      else match d.step parent name with
        | .ok _ => .error .fileExists
        | .error .notFound =>
          -- The same error would come from a parent that is gone.
          if (d.at? parent).isSome then .ok (d.put (parent ++ [name]) .directory)
          else .error .notFound
        | .error e => .error e

/-- Makes a directory and, as far as they are missing, those above it.  A
directory that is there already is left alone.  The fuel bounds how far up
it goes. -/
def makeDirectories (d : Disk) (cwd : Place) : (fuel : Nat) → Path → Except OsError Disk
  | 0, _ => .ok d
  | fuel + 1, p =>
    if p.text.isEmpty then .ok d
    else match d.makeDirectory cwd p with
      | .ok d => .ok d
      | .error .notFound =>
        match p.parent? with
        | none => .error .notFound
        | some parent =>
          match d.makeDirectories cwd fuel parent with
          | .error e => .error e
          -- The second attempt; what was missing above is there now.
          | .ok d => match d.makeDirectory cwd p with
            | .ok d => .ok d
            | .error e => if d.isDirectory cwd p then .ok d else .error e
      | .error e => if d.isDirectory cwd p then .ok d else .error e

/-- Makes a directory and those above it. -/
def ensureDirectory (d : Disk) (cwd : Place) (p : Path) : Except OsError Disk :=
  d.makeDirectories cwd (p.text.length + 1) p

end Disk

end Shakedown
