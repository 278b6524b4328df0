/-
  Shakedown.Proofs.Output.Lines

  The lines of a stream, told from the whole of it.  Chunk by chunk, a stream
  is cut where its bytes are cut at line feeds, however it arrives; and since
  a line feed and a return are ASCII, the bytes may as well be decoded first
  and cut as a text.  So what is recorded are the lines of the whole stream
  decoded at once, whether or not the lines are passed on as well.
-/
import Mathlib.Data.List.Basic
import Shakedown.Output.Capture
import Shakedown.Proofs.Text.Ascii

namespace Shakedown.Lines

open Text

/-! ## The whole stream at once -/

/-- The pieces of a whole between its line ends, an empty last one dropped. -/
def pieces [DecidableEq α] (lineEnd : α) (whole : List α) : List (List α) :=
  let ps := whole.splitOn lineEnd
  if ps.getLast? = some [] then ps.dropLast else ps

/-- The lines of bytes: their pieces between line feeds, without one carriage return at the
end of each. -/
def ofBytes (bs : List UInt8) : List (List UInt8) :=
  (pieces lineFeed bs).map (dropReturn carriageReturn)

/-- The lines of a text, likewise. -/
def ofText (cs : List Char) : List (List Char) :=
  (pieces '\n' cs).map (dropReturn '\r')

theorem pieces_of_splitOn [DecidableEq α] {lineEnd : α} {whole last : List α}
    {front : List (List α)} (h : whole.splitOn lineEnd = front ++ [last]) :
    pieces lineEnd whole = if last = [] then front else front ++ [last] := by
  rw [pieces, h]
  simp only [List.getLast?_concat, Option.some.injEq, List.dropLast_concat]

/-! ## Chunk by chunk -/

/-- Chunks may be taken in one by one or as one. -/
theorem feed_append (p : Pending) (xs ys : List UInt8) :
    feed p (xs ++ ys) =
      ((feed p xs).1 ++ (feed (feed p xs).2 ys).1, (feed (feed p xs).2 ys).2) := by
  induction xs generalizing p with
  | nil => rfl
  | cons x xs ih =>
    rw [List.cons_append, feed, feed]
    split
    · rw [ih]
      rfl
    · exact ih _

theorem ofChunks_eq (p : Pending) (chunks : List (List UInt8)) :
    ofChunks p chunks =
      (feed p chunks.flatten).1 ++ finish (feed p chunks.flatten).2 := by
  induction chunks generalizing p with
  | nil => rfl
  | cons chunk chunks ih =>
    show (feed p chunk).1 ++ ofChunks (feed p chunk).2 chunks = _
    rw [ih, List.flatten_cons, feed_append, List.append_assoc]

/-- The lines that are completed and the one that is begun are the pieces between line feeds. -/
theorem splitOn_lineFeed {p : Pending} (hp : lineFeed ∉ p.reversed) (bs : List UInt8) :
    (p.reversed.reverse ++ bs).splitOn lineFeed =
      (feed p bs).1 ++ [(feed p bs).2.reversed.reverse] := by
  have hbegun : ∀ {p : Pending}, lineFeed ∉ p.reversed → lineFeed ∉ p.reversed.reverse :=
    fun h hmem => h (List.mem_reverse.mp hmem)
  induction bs generalizing p with
  | nil =>
    rw [List.append_nil]
    exact List.splitOn_eq_singleton (hbegun hp)
  | cons b bs ih =>
    rw [feed]
    split
    · rename_i hb
      rw [hb, List.splitOn_append_cons_self_of_not_mem (hbegun hp)]
      exact congrArg (p.reversed.reverse :: ·) (ih (p := {}) List.not_mem_nil)
    · rename_i hb
      have hp' : lineFeed ∉ b :: p.reversed := by
        intro hmem
        rcases List.mem_cons.mp hmem with heq | hmem
        · exact hb heq.symm
        · exact hp hmem
      rw [← ih (p := ⟨b :: p.reversed⟩) hp', List.reverse_cons, List.append_assoc,
        List.singleton_append]

/-- However a stream arrives, its lines are the pieces of the whole. -/
theorem ofChunks_eq_pieces (chunks : List (List UInt8)) :
    ofChunks {} chunks = pieces lineFeed chunks.flatten := by
  have hsplit : chunks.flatten.splitOn lineFeed =
      (feed {} chunks.flatten).1 ++ [(feed {} chunks.flatten).2.reversed.reverse] :=
    splitOn_lineFeed (p := {}) List.not_mem_nil chunks.flatten
  rw [ofChunks_eq, pieces_of_splitOn hsplit, finish]
  by_cases hrest : (feed {} chunks.flatten).2.reversed = []
  · simp [hrest]
  · simp [hrest]

/-! ## Before and after decoding -/

/-- A text holds a line feed only where the bytes do. -/
theorem not_mem_decodeLossy_lineFeed {bs : List UInt8} (h : lineFeed ∉ bs) :
    '\n' ∉ Utf8.decodeLossy bs :=
  fun hmem => h (Utf8.mem_of_mem_decodeLossy (by decide) (by decide) hmem)

/-- A line feed keeps what stands before it apart from what follows. -/
theorem decodeLossy_append_lineFeed (xs ys : List UInt8) :
    Utf8.decodeLossy (xs ++ lineFeed :: ys) =
      Utf8.decodeLossy xs ++ '\n' :: Utf8.decodeLossy ys :=
  Utf8.decodeLossy_append_ascii (by decide) xs ys

/-- Bytes may be cut at line feeds before or after decoding. -/
theorem splitOn_decodeLossy (bs : List UInt8) :
    (Utf8.decodeLossy bs).splitOn '\n' = (bs.splitOn lineFeed).map Utf8.decodeLossy := by
  -- By the first line feed: what follows it is shorter.
  by_cases hmem : lineFeed ∈ bs
  · obtain ⟨xs, ys, hbs, hxs⟩ := List.eq_append_cons_of_mem hmem
    have hshorter : ys.length < bs.length := by
      rw [hbs, List.length_append, List.length_cons]
      omega
    rw [hbs, decodeLossy_append_lineFeed,
      List.splitOn_append_cons_self_of_not_mem (not_mem_decodeLossy_lineFeed hxs),
      List.splitOn_append_cons_self_of_not_mem hxs, splitOn_decodeLossy ys, List.map_cons]
  · rw [List.splitOn_eq_singleton hmem,
      List.splitOn_eq_singleton (not_mem_decodeLossy_lineFeed hmem), List.map_singleton]
termination_by bs.length

theorem pieces_decodeLossy (bs : List UInt8) :
    pieces '\n' (Utf8.decodeLossy bs) = (pieces lineFeed bs).map Utf8.decodeLossy := by
  obtain ⟨front, last, hsplit⟩ : ∃ front last, bs.splitOn lineFeed = front ++ [last] :=
    ⟨_, _, (List.dropLast_concat_getLast (List.splitOn_ne_nil lineFeed bs)).symm⟩
  have htext : (Utf8.decodeLossy bs).splitOn '\n' =
      front.map Utf8.decodeLossy ++ [Utf8.decodeLossy last] := by
    rw [splitOn_decodeLossy, hsplit, List.map_append, List.map_singleton]
  rw [pieces_of_splitOn hsplit, pieces_of_splitOn htext]
  by_cases hlast : last = []
  · rw [if_pos hlast, if_pos (Utf8.decodeLossy_eq_nil_iff.mpr hlast)]
  · rw [if_neg hlast, if_neg (mt Utf8.decodeLossy_eq_nil_iff.mp hlast), List.map_append,
      List.map_singleton]

/-- A text ends in a return only if the bytes do. -/
theorem getLast?_decodeLossy_return {bs : List UInt8}
    (h : (Utf8.decodeLossy bs).getLast? = some '\r') : bs.getLast? = some carriageReturn := by
  have hmem : carriageReturn ∈ bs :=
    Utf8.mem_of_mem_decodeLossy (c := '\r') (by decide) (by decide) (List.mem_of_getLast? h)
  -- After the last return among the bytes no other is decoded.
  obtain ⟨xs, ys, hsplit, hys⟩ := List.eq_append_cons_of_mem (List.mem_reverse.mpr hmem)
  have hbs : bs = ys.reverse ++ carriageReturn :: xs.reverse := by
    rw [← List.reverse_reverse bs, hsplit]
    simp
  cases hxs : xs.reverse with
  | nil => rw [hbs, hxs, List.getLast?_concat]
  | cons x rest =>
    exfalso
    rw [hbs, hxs, Utf8.decodeLossy_append_ascii (by decide)] at h
    have hne : Utf8.decodeLossy (x :: rest) ≠ [] :=
      mt Utf8.decodeLossy_eq_nil_iff.mp (List.cons_ne_nil x rest)
    rw [List.append_cons, List.getLast?_append_of_ne_nil _ hne] at h
    have hcr := Utf8.mem_of_mem_decodeLossy (c := '\r') (by decide) (by decide)
      (List.mem_of_getLast? h)
    rw [← hxs, List.mem_reverse] at hcr
    exact hys hcr

theorem decodeLossy_dropReturn (bs : List UInt8) :
    Utf8.decodeLossy (dropReturn carriageReturn bs) = dropReturn '\r' (Utf8.decodeLossy bs) := by
  unfold dropReturn
  by_cases hlast : bs.getLast? = some carriageReturn
  · obtain ⟨front, rfl⟩ := List.getLast?_eq_some_iff.mp hlast
    have htext :
        Utf8.decodeLossy (front ++ [carriageReturn]) = Utf8.decodeLossy front ++ ['\r'] := by
      rw [Utf8.decodeLossy_append_ascii (by decide), Utf8.decodeLossy_nil]
      rfl
    rw [if_pos hlast, htext, List.getLast?_concat, if_pos rfl, List.dropLast_concat,
      List.dropLast_concat]
  · rw [if_neg hlast, if_neg (mt getLast?_decodeLossy_return hlast)]

/-- The lines of bytes, decoded, are those of the decoded bytes. -/
theorem ofText_decodeLossy (bs : List UInt8) :
    ofText (Utf8.decodeLossy bs) = (ofBytes bs).map Utf8.decodeLossy := by
  rw [ofText, ofBytes, pieces_decodeLossy, List.map_map, List.map_map]
  exact List.map_congr_left fun line _ => (decodeLossy_dropReturn line).symm

/-! ## What is recorded and passed on -/

/-- The buffer that was passed on is as it was when the line is recorded. -/
theorem handle_text (mode : OutputHandling) (line : List UInt8) :
    (handle mode line).text = Utf8.lossyText (dropReturn carriageReturn line) := by
  cases mode with
  | forward => rw [handle, List.dropLast_concat]
  | capture => rfl

/-- What a stream comes to, however it arrives.  The lines that are recorded are those of the
whole stream decoded at once, in either mode; and the bytes that are passed on, if any, are
those of its lines in order, each with a line feed at its end. -/
theorem stream_lines (stream : OutputChannel) (chunks : List (List UInt8)) :
    (∀ mode, recorded mode stream chunks =
      (ofText (Utf8.decodeLossy chunks.flatten)).map fun line => ⟨stream, String.ofList line⟩) ∧
    forwarded .forward chunks = (ofBytes chunks.flatten).flatMap (· ++ [lineFeed]) ∧
    forwarded .capture chunks = [] := by
  refine ⟨fun mode => ?_, ?_, ?_⟩
  · rw [recorded, ofChunks_eq_pieces, ofText_decodeLossy, ofBytes, List.map_map, List.map_map]
    refine List.map_congr_left fun line _ => ?_
    rw [asRecorded, handle_text]
    rfl
  · rw [forwarded, ofChunks_eq_pieces, ofBytes, List.flatMap_map]
    rfl
  · rw [forwarded]
    exact List.flatMap_eq_nil_iff.mpr fun line _ => rfl

end Shakedown.Lines
