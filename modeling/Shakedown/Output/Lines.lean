/-
  Shakedown.Output.Lines

  Cutting a stream of bytes into lines while it arrives in chunks.  A line
  ends at a line feed or where the stream ends; one carriage return at its
  end belongs to the end of line.  Lines are recorded as text, ill-formed
  bytes replaced, and may be passed on as they came.
-/
import Shakedown.Output.Tail
import Shakedown.Text.Utf8

namespace Shakedown

/-- What becomes of an agent's output besides being recorded. -/
inductive OutputHandling where
  /-- Each line is passed on to the harness's own stream. -/
  | forward
  /-- Nothing is shown. -/
  | capture
deriving DecidableEq, Repr, Inhabited

namespace Lines

/-- The byte that ends a line. -/
def lineFeed : UInt8 := 10

/-- The byte that may stand before it. -/
def carriageReturn : UInt8 := 13

/-- A line without one return at its end. -/
def dropReturn [DecidableEq α] (ret : α) (line : List α) : List α :=
  if line.getLast? = some ret then line.dropLast else line

/-! ## Chunk by chunk -/

/-- The line begun so far, its bytes in reverse. -/
structure Pending where
  reversed : List UInt8 := []
deriving DecidableEq, Repr

/-- The lines that a chunk completes, without their line feeds, and the line it leaves
unfinished. -/
def feed : Pending → List UInt8 → List (List UInt8) × Pending
  | p, [] => ([], p)
  | p, b :: bs =>
    if b = lineFeed then
      let (lines, rest) := feed {} bs
      (p.reversed.reverse :: lines, rest)
    else feed ⟨b :: p.reversed⟩ bs

/-- The line that the end of the stream completes, if one was begun. -/
def finish (p : Pending) : List (List UInt8) :=
  if p.reversed.isEmpty then [] else [p.reversed.reverse]

/-- The lines of a stream that arrives in chunks. -/
def ofChunks (p : Pending) : List (List UInt8) → List (List UInt8)
  | [] => finish p
  | chunk :: chunks =>
    let (lines, rest) := feed p chunk
    lines ++ ofChunks rest chunks

/-! ## Line by line -/

/-- What a line comes to: the bytes that are passed on of it, and the text to record. -/
structure Handled where
  passedOn : List UInt8
  text : String
deriving DecidableEq, Repr

/-- Handles a line as it came.  One buffer serves both ends: a line feed is put to it to pass
the line on, and is taken off again before the line is recorded. -/
def handle (mode : OutputHandling) (line : List UInt8) : Handled :=
  let buffer := dropReturn carriageReturn line
  match mode with
  | .forward =>
    let passedOn := buffer ++ [lineFeed]
    ⟨passedOn, Text.Utf8.lossyText passedOn.dropLast⟩
  | .capture => ⟨[], Text.Utf8.lossyText buffer⟩

/-- A line of a stream as it is recorded. -/
def asRecorded (mode : OutputHandling) (stream : OutputChannel) (line : List UInt8) : TailLine :=
  ⟨stream, (handle mode line).text⟩

/-- The lines to record of a stream. -/
def recorded (mode : OutputHandling) (stream : OutputChannel) (chunks : List (List UInt8)) :
    List TailLine :=
  (ofChunks {} chunks).map (asRecorded mode stream)

/-- The bytes to pass on of a stream. -/
def forwarded (mode : OutputHandling) (chunks : List (List UInt8)) : List UInt8 :=
  (ofChunks {} chunks).flatMap fun line => (handle mode line).passedOn

end Lines

end Shakedown
