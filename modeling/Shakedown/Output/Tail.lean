/-
  Shakedown.Output.Tail

  The latest lines of an agent's output, both streams together, kept for
  diagnostics.
-/

namespace Shakedown

/-- The stream a line was written to. -/
inductive OutputChannel where
  | stdout
  | stderr
deriving DecidableEq, Repr

/-- A line of output, without its end of line. -/
structure TailLine where
  stream : OutputChannel
  line : String
deriving DecidableEq, Repr

/-- The latest lines of output, oldest first. -/
structure LineTail where
  lines : List TailLine := []
deriving DecidableEq, Repr, Inhabited

namespace LineTail

/-- How many lines are kept. -/
def capacity : Nat := 200

/-- Records a line.  At capacity the oldest one makes room. -/
def push (t : LineTail) (l : TailLine) : LineTail :=
  if t.lines.length = capacity then ⟨t.lines.drop 1 ++ [l]⟩ else ⟨t.lines ++ [l]⟩

/-- Records lines in order. -/
def pushAll (t : LineTail) (ls : List TailLine) : LineTail :=
  ls.foldl push t

def ofStream (t : LineTail) (s : OutputChannel) : List String :=
  (t.lines.filter (·.stream = s)).map (·.line)

end LineTail

end Shakedown
