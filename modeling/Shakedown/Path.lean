/-
  Shakedown.Path

  Slash-separated paths.  A path is kept as the text it was given: joining
  and taking a parent never tidy up what they keep.  `parts` is the view in
  which two spellings of one location agree.
-/

namespace Shakedown

/-- A path, verbatim. -/
structure Path where
  text : String
deriving DecidableEq, Repr, Inhabited

namespace Path

instance : Coe String Path := ⟨Path.mk⟩

/-- Whether a path starts at the root directory. -/
def isAbsolute (p : Path) : Bool :=
  p.text.toList.head? == some '/'

/-- `right` seen from the directory `left`.  An absolute right side replaces the
left one, an empty left side vanishes, and otherwise one slash is put between
the two unless the left one ends with it. -/
def joinChars (left right : List Char) : List Char :=
  if right.head? = some '/' || left.isEmpty then right
  else if left.getLast? = some '/' then left ++ right
  else left ++ '/' :: right

def join (left right : Path) : Path :=
  ⟨String.ofList (joinChars left.text.toList right.text.toList)⟩

instance : HDiv Path String Path := ⟨fun p s => p.join ⟨s⟩⟩

/-! ## Components -/

/-- The named components of a path: what stands between its slashes and is neither empty
nor `.`. -/
def names (p : Path) : List String :=
  ((p.text.toList.splitOn '/').filter fun cs => !cs.isEmpty && cs != ['.']).map String.ofList

/-- A path up to `.` components and repeated or trailing slashes. -/
def parts (p : Path) : Bool × List String :=
  (p.isAbsolute, p.names)

/-! ## Parent -/

/-- Drops what follows the last component of a reversed path: slashes and `.`
pieces.  The root slash, and a `.` that the path starts with, stay. -/
def dropTail : List Char → List Char
  | '/' :: c :: rest => dropTail (c :: rest)
  | '.' :: '/' :: c :: rest => dropTail ('/' :: c :: rest)
  | ['.', '/'] => ['/']
  | cs => cs

def parentReversed? (reversed : List Char) : Option (List Char) :=
  match dropTail reversed with
  | [] => none
  | ['/'] => none
  | cs => some (dropTail (cs.dropWhile (· ≠ '/')))

/-- The path without its last component: nothing for the empty path and for
the root directory. -/
def parent? (p : Path) : Option Path :=
  (parentReversed? p.text.toList.reverse).map fun cs => ⟨String.ofList cs.reverse⟩

end Path

end Shakedown
