/-
  Shakedown.Proofs.Output.Tail

  What the tail of an agent's output holds.  After any pushes it holds the
  latest of them, as many as it has room for.  Two forwarding tasks push to one
  tail, each the lines of its own stream in order, and nothing else says whose
  turn it is; so at any moment the tail holds, of either stream, the latest of
  the lines that the stream has come to by then.
-/
import Mathlib.Data.List.DropRight
import Mathlib.Logic.Function.Basic
import Shakedown.Output.Capture

namespace Shakedown

/-! ## Pushes -/

/-- Of the latest items and more after them, the latest are those of all. -/
theorem rtake_rtake_append (xs ys : List α) (n : Nat) :
    (xs.rtake n ++ ys).rtake n = (xs ++ ys).rtake n := by
  unfold List.rtake
  by_cases hshort : xs.length ≤ n
  · rw [Nat.sub_eq_zero_of_le hshort, List.drop_zero]
  · have hdrop : xs.drop (xs.length - n) ++ ys = (xs ++ ys).drop (xs.length - n) :=
      (List.drop_append_of_le_length (Nat.sub_le _ _)).symm
    have hlength : ((xs ++ ys).drop (xs.length - n)).length - n = ys.length := by
      rw [List.length_drop, List.length_append]
      omega
    rw [hdrop, hlength, List.drop_drop, List.length_append]
    congr 1
    omega

namespace LineTail

variable {t : LineTail}

theorem rtake_of_fits (h : t.lines.length ≤ capacity) : t.lines.rtake capacity = t.lines := by
  rw [List.rtake, Nat.sub_eq_zero_of_le h, List.drop_zero]

/-- A push keeps the latest lines, as long as the tail has never been overfull. -/
theorem push_lines (h : t.lines.length ≤ capacity) (l : TailLine) :
    (t.push l).lines = (t.lines ++ [l]).rtake capacity := by
  rw [List.rtake, List.length_append, List.length_singleton, push]
  by_cases hfull : t.lines.length = capacity
  · have hroom : 1 ≤ t.lines.length := by
      rw [hfull]
      decide
    rw [if_pos hfull, hfull, Nat.add_sub_cancel_left, List.drop_append_of_le_length hroom]
  · rw [if_neg hfull, Nat.sub_eq_zero_of_le (by omega), List.drop_zero]

/-- Nor is it overfull after the push. -/
theorem push_fits (h : t.lines.length ≤ capacity) (l : TailLine) :
    (t.push l).lines.length ≤ capacity := by
  rw [push_lines h, List.rtake, List.length_drop]
  omega

theorem pushAll_lines (h : t.lines.length ≤ capacity) (ls : List TailLine) :
    (t.pushAll ls).lines = (t.lines ++ ls).rtake capacity := by
  induction ls generalizing t with
  | nil => rw [List.append_nil, rtake_of_fits h, pushAll, List.foldl_nil]
  | cons l ls ih =>
    have hpushed := ih (push_fits h l)
    rw [push_lines h, rtake_rtake_append, List.append_assoc, List.singleton_append] at hpushed
    exact hpushed

/-- A tail holds the latest of all lines pushed to it. -/
theorem pushAll_empty (ls : List TailLine) :
    (pushAll {} ls).lines = ls.rtake capacity :=
  pushAll_lines (Nat.zero_le _) ls

theorem length_pushAll_empty (ls : List TailLine) :
    (pushAll {} ls).lines.length = min ls.length capacity := by
  rw [pushAll_empty, List.rtake, List.length_drop]
  omega

theorem pushAll_append (t : LineTail) (xs ys : List TailLine) :
    t.pushAll (xs ++ ys) = (t.pushAll xs).pushAll ys :=
  List.foldl_append

end LineTail

/-! ## Two tasks, one tail -/

/-- Two forwarding tasks in the middle of their work: the lines that each has still to record,
and the tail they record them to. -/
structure Forwarders where
  rest : OutputChannel → List TailLine
  tail : LineTail

namespace Forwarders

variable {f : Forwarders} {mode : OutputHandling} {s : OutputChannel}

/-- The tasks of streams that arrive in chunks, before they have recorded anything. -/
def start (mode : OutputHandling) (chunks : OutputChannel → List (List UInt8)) : Forwarders where
  rest s := Lines.recorded mode s (chunks s)
  tail := {}

/-- The task of a stream gets to record its next line, if there is one. -/
def turn (f : Forwarders) (s : OutputChannel) : Forwarders :=
  match f.rest s with
  | [] => f
  | l :: ls => ⟨Function.update f.rest s ls, f.tail.push l⟩

/-- The tasks get their turns in some order. -/
def run (f : Forwarders) (turns : List OutputChannel) : Forwarders :=
  turns.foldl turn f

/-- What has come of some lines to record: those that were pushed, and those that are left,
stream by stream. -/
structure Recorded (all : OutputChannel → List TailLine) (f : Forwarders)
    (pushed : List TailLine) : Prop where
  tail : f.tail = LineTail.pushAll {} pushed
  shared : ∀ s, pushed.filter (·.stream = s) ++ f.rest s = all s

/-- A turn pushes at most one line, the next one of its stream. -/
theorem Recorded.turn {all : OutputChannel → List TailLine} {pushed : List TailLine}
    (h : Recorded all f pushed) (hall : ∀ s, ∀ l ∈ all s, l.stream = s) (s : OutputChannel) :
    ∃ pushed', Recorded all (f.turn s) pushed' := by
  unfold Forwarders.turn
  split
  · exact ⟨pushed, h⟩
  · rename_i l ls hrest
    have hstream : l.stream = s := by
      apply hall s
      rw [← h.shared s, hrest]
      exact List.mem_append_right _ List.mem_cons_self
    refine ⟨pushed ++ [l], ?_, fun s' => ?_⟩
    · rw [LineTail.pushAll_append, ← h.tail]
      rfl
    · rw [List.filter_append, ← h.shared s']
      by_cases hs : s' = s
      · subst hs
        simp [hstream, hrest]
      · have hother : l.stream ≠ s' := by
          rw [hstream]
          exact Ne.symm hs
        simp [hother, Function.update_of_ne hs]

theorem Recorded.run {all : OutputChannel → List TailLine} {pushed : List TailLine}
    (h : Recorded all f pushed) (hall : ∀ s, ∀ l ∈ all s, l.stream = s)
    (turns : List OutputChannel) : ∃ pushed', Recorded all (f.run turns) pushed' := by
  induction turns generalizing f pushed with
  | nil => exact ⟨pushed, h⟩
  | cons s turns ih =>
    obtain ⟨pushed', h'⟩ := h.turn hall s
    exact ih h'

theorem stream_of_mem_recorded {chunks : List (List UInt8)} {l : TailLine}
    (h : l ∈ Lines.recorded mode s chunks) : l.stream = s := by
  obtain ⟨line, -, rfl⟩ := List.mem_map.mp h
  rfl

/-- However the tasks of two streams take turns, all that was pushed is told by what is left
of the lines of each. -/
theorem exists_recorded (mode : OutputHandling) (chunks : OutputChannel → List (List UInt8))
    (turns : List OutputChannel) :
    ∃ pushed, Recorded (fun s => Lines.recorded mode s (chunks s))
      ((start mode chunks).run turns) pushed := by
  have hstart : Recorded (fun s => Lines.recorded mode s (chunks s)) (start mode chunks) [] :=
    ⟨rfl, fun _ => rfl⟩
  exact hstart.run (fun _ _ => stream_of_mem_recorded) turns

/-! ## The order in which chunks arrive -/

/-- With enough turns in a row, a task records as many of its lines as it is to. -/
theorem exists_turns_of_rest {ls more : List TailLine} (h : f.rest s = ls ++ more) :
    ∃ turns, f.run turns = ⟨Function.update f.rest s more, f.tail.pushAll ls⟩ := by
  induction ls generalizing f with
  | nil =>
    refine ⟨[], ?_⟩
    rw [← List.nil_append more, ← h, Function.update_eq_self]
    rfl
  | cons l ls ih =>
    have hturn : f.turn s = ⟨Function.update f.rest s (ls ++ more), f.tail.push l⟩ := by
      rw [turn, h, List.cons_append]
    have hrest : (f.turn s).rest s = ls ++ more := by
      rw [hturn]
      exact Function.update_self ..
    obtain ⟨turns, hturns⟩ := ih hrest
    refine ⟨s :: turns, hturns.trans ?_⟩
    rw [hturn, Function.update_idem]
    rfl

theorem run_append (f : Forwarders) (xs ys : List OutputChannel) :
    f.run (xs ++ ys) = (f.run xs).run ys :=
  List.foldl_append

/-- Tasks that have recorded what a capture has, with the same chunks ahead of them. -/
structure Matches (f : Forwarders) (c : OutputCapture) (chunks : List OutputChunk) : Prop where
  tail : f.tail = c.tail
  rest : ∀ s, f.rest s =
    (Lines.ofChunks (c.pending s) (chunksOf s chunks)).map (Lines.asRecorded c.mode s)

/-- A chunk changes the line begun of its own stream only. -/
theorem pending_feed (c : OutputCapture) (chunk : OutputChunk) (s : OutputChannel) :
    (c.feed chunk).pending s =
      if chunk.stream = s then (Lines.feed (c.pending s) chunk.bytes).2 else c.pending s := by
  obtain ⟨stream, bytes⟩ := chunk
  cases stream <;> cases s <;> rfl

theorem tail_feed (c : OutputCapture) (chunk : OutputChunk) :
    (c.feed chunk).tail = c.tail.pushAll ((Lines.feed (c.pending chunk.stream) chunk.bytes).1.map
      (Lines.asRecorded c.mode chunk.stream)) := by
  obtain ⟨stream, bytes⟩ := chunk
  cases stream <;> rfl

theorem mode_feed (c : OutputCapture) (chunk : OutputChunk) : (c.feed chunk).mode = c.mode := by
  obtain ⟨stream, bytes⟩ := chunk
  cases stream <;> rfl

/-- Taking in a chunk is the turns of its task in a row, one for each line that the chunk
completes. -/
theorem Matches.feed {c : OutputCapture} {chunk : OutputChunk} {chunks : List OutputChunk}
    (h : Matches f c (chunk :: chunks)) :
    ∃ turns, Matches (f.run turns) (c.feed chunk) chunks := by
  obtain ⟨stream, bytes⟩ := chunk
  have hrest : f.rest stream =
      ((Lines.feed (c.pending stream) bytes).1.map (Lines.asRecorded c.mode stream)) ++
      (Lines.ofChunks (Lines.feed (c.pending stream) bytes).2 (chunksOf stream chunks)).map
        (Lines.asRecorded c.mode stream) := by
    rw [h.rest stream, ← List.map_append, chunksOf, List.filter_cons_of_pos (by simp)]
    rfl
  obtain ⟨turns, hturns⟩ := exists_turns_of_rest hrest
  refine ⟨turns, ?_⟩
  rw [hturns]
  -- Only the task of the chunk's own stream has moved on.
  refine ⟨?_, fun s => ?_⟩
  · rw [tail_feed, h.tail]
  · rw [mode_feed, pending_feed]
    by_cases hs : stream = s
    · subst hs
      rw [if_pos rfl]
      exact Function.update_self ..
    · have hskip : chunksOf s (⟨stream, bytes⟩ :: chunks) = chunksOf s chunks := by
        rw [chunksOf, List.filter_cons_of_neg (by simpa using hs), chunksOf]
      rw [if_neg hs, ← hskip]
      exact (Function.update_of_ne (Ne.symm hs) ..).trans (h.rest s)

theorem Matches.foldl {c : OutputCapture} {chunks : List OutputChunk} (h : Matches f c chunks) :
    ∃ turns, Matches (f.run turns) (chunks.foldl OutputCapture.feed c) [] := by
  induction chunks generalizing f c with
  | nil => exact ⟨[], h⟩
  | cons chunk chunks ih =>
    obtain ⟨turns, hturns⟩ := h.feed
    obtain ⟨more, hmore⟩ := ih hturns
    refine ⟨turns ++ more, ?_⟩
    rw [run_append]
    exact hmore

/-- Once there are no more chunks, the ends of the streams are a turn each where a line was
begun. -/
theorem Matches.close {c : OutputCapture} (h : Matches f c []) :
    ∃ turns, (f.run turns).tail = ((c.close .stdout).close .stderr).tail ∧
      ∀ s, (f.run turns).rest s = [] := by
  have hrest : ∀ s, f.rest s =
      (Lines.finish (c.pending s)).map (Lines.asRecorded c.mode s) ++ [] := by
    intro s
    rw [h.rest s, List.append_nil]
    rfl
  -- One stream after the other; the lines of the second are still there after the first.
  obtain ⟨turns, hstdout⟩ := exists_turns_of_rest (hrest .stdout)
  have hrest' : (f.run turns).rest .stderr =
      (Lines.finish c.stderr).map (Lines.asRecorded c.mode .stderr) ++ [] := by
    have hne : OutputChannel.stderr ≠ .stdout := by decide
    rw [hstdout]
    simp only [Function.update_of_ne hne]
    exact hrest .stderr
  obtain ⟨more, hstderr⟩ := exists_turns_of_rest hrest'
  refine ⟨turns ++ more, ?_⟩
  rw [run_append, hstderr, hstdout]
  refine ⟨?_, fun s => ?_⟩
  · rw [h.tail]
    rfl
  · have hne : OutputChannel.stdout ≠ .stderr := by decide
    cases s with
    | stderr => simp only [Function.update_self]
    | stdout => simp only [Function.update_of_ne hne, Function.update_self]

/-- The capture of chunks in the order of their arrival is what the tasks come to in one of
their orders. -/
theorem exists_turns_recording (mode : OutputHandling) (chunks : List OutputChunk) :
    ∃ turns, ((start mode fun s => chunksOf s chunks).run turns).tail =
        (OutputCapture.recording mode chunks).tail ∧
      ∀ s, ((start mode fun s => chunksOf s chunks).run turns).rest s = [] := by
  have hstart : Matches (start mode fun s => chunksOf s chunks) { mode } chunks := by
    refine ⟨rfl, fun s => ?_⟩
    cases s <;> rfl
  obtain ⟨turns, hturns⟩ := hstart.foldl
  obtain ⟨more, htail, hrest⟩ := hturns.close
  refine ⟨turns ++ more, ?_⟩
  rw [run_append]
  exact ⟨htail, hrest⟩

end Forwarders

/-! ## What the tail holds -/

/-- The tail holds the latest of the lines pushed to it, as many as it has room for.  So take
two forwarding tasks, of streams that arrive in any chunks, that have got their turns in any
order: the tail holds the latest of the lines that both have recorded by then, and of the lines
of either stream the latest of those that its own task has recorded.  The capture of chunks in
the order of their arrival is what the tasks come to in one such order. -/
theorem tail_holds_latest :
    (∀ pushes : List TailLine,
      (LineTail.pushAll {} pushes).lines = pushes.rtake LineTail.capacity ∧
      (LineTail.pushAll {} pushes).lines.length = min pushes.length LineTail.capacity) ∧
    (∀ mode chunks turns,
      let f := (Forwarders.start mode chunks).run turns
      f.tail.lines.length ≤ LineTail.capacity ∧
      ∃ pushed : List TailLine, f.tail.lines = pushed.rtake LineTail.capacity ∧ ∀ s,
        pushed.filter (·.stream = s) ++ f.rest s = Lines.recorded mode s (chunks s) ∧
        f.tail.lines.filter (·.stream = s) <:+ pushed.filter (·.stream = s)) ∧
    (∀ mode chunks, ∃ turns,
      let f := (Forwarders.start mode fun s => chunksOf s chunks).run turns
      f.tail = (OutputCapture.recording mode chunks).tail ∧ ∀ s, f.rest s = []) := by
  refine ⟨fun pushes => ?_, fun mode chunks turns => ?_, Forwarders.exists_turns_recording⟩
  · exact ⟨LineTail.pushAll_empty pushes, LineTail.length_pushAll_empty pushes⟩
  · obtain ⟨pushed, htail, hshared⟩ := Forwarders.exists_recorded mode chunks turns
    have hlines : ((Forwarders.start mode chunks).run turns).tail.lines =
        pushed.rtake LineTail.capacity := by
      rw [htail, LineTail.pushAll_empty]
    refine ⟨?_, pushed, hlines, fun s => ⟨hshared s, ?_⟩⟩
    · rw [htail, LineTail.length_pushAll_empty]
      exact Nat.min_le_right ..
    · rw [hlines]
      exact (List.drop_suffix _ pushed).filter _

/-- Nothing of a stream is lost, and the streams do not mix, before the tail is full. -/
example : (OutputCapture.ofChunks [⟨.stdout, [97, 10, 98]⟩, ⟨.stderr, [99, 13, 10]⟩,
    ⟨.stdout, [10]⟩]).tail.lines = [⟨.stdout, "a"⟩, ⟨.stderr, "c"⟩, ⟨.stdout, "b"⟩] := by
  cbv

end Shakedown
