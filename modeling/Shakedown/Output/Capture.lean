/-
  Shakedown.Output.Capture

  Recording both streams of an agent while they arrive, chunk by chunk and in
  any order.
-/
import Shakedown.Output.Lines

namespace Shakedown

structure OutputChunk where
  stream : OutputChannel
  bytes : List UInt8
deriving DecidableEq, Repr

/-- The recording of both streams: the latest lines, and the line that each
stream has begun. -/
structure OutputCapture where
  mode : OutputHandling := .capture
  tail : LineTail := {}
  stdout : Lines.Pending := {}
  stderr : Lines.Pending := {}
deriving Repr

namespace OutputCapture

/-- The line that a stream has begun. -/
def pending (c : OutputCapture) : OutputChannel → Lines.Pending
  | .stdout => c.stdout
  | .stderr => c.stderr

/-- Takes in a chunk. -/
def feed (c : OutputCapture) (chunk : OutputChunk) : OutputCapture :=
  let (lines, rest) := Lines.feed (c.pending chunk.stream) chunk.bytes
  let tail := c.tail.pushAll (lines.map (Lines.asRecorded c.mode chunk.stream))
  match chunk.stream with
  | .stdout => { c with tail, stdout := rest }
  | .stderr => { c with tail, stderr := rest }

/-- The end of a stream. -/
def close (c : OutputCapture) (stream : OutputChannel) : OutputCapture :=
  { c with
    tail := c.tail.pushAll
      ((Lines.finish (c.pending stream)).map (Lines.asRecorded c.mode stream)) }

/-- The recording of chunks, both streams ended. -/
def recording (mode : OutputHandling) (chunks : List OutputChunk) : OutputCapture :=
  ((chunks.foldl feed { mode }).close .stdout).close .stderr

/-- The recording of chunks that are not shown. -/
def ofChunks (chunks : List OutputChunk) : OutputCapture :=
  recording .capture chunks

end OutputCapture

def chunksOf (stream : OutputChannel) (chunks : List OutputChunk) : List (List UInt8) :=
  (chunks.filter (·.stream = stream)).map (·.bytes)

end Shakedown
