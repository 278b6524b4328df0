/-
  Shakedown.Proofs.Http.Refusals

  What is kept of an answer that refuses a call.  Its body may be of any
  length and need not be a text; what is kept of it is the longest start of
  its lossy reading that takes no more than 512 bytes.
-/
import Shakedown.Proofs.Http.Answers
import Shakedown.Proofs.Text.Cut

namespace Shakedown.HttpClient

open Text.Utf8

variable {σ : Type} {client : HttpClient} {net : Network σ} {s : σ} {now : Nat} {c : Call}
  {time status : Nat} {body : BodyArrival}

/-- What a call comes to, once an answer has started that refuses it. -/
theorem Starts.result_of_refusal (h : Starts client net s now c time status body)
    (hrefused : isSuccess status = false) :
    ((client.api net).answer s now c).1.result =
      .error (.status status (refusalBody (body.bytesBy client.timeout.nanoseconds))) := by
  obtain ⟨⟨r, hrequest, hexchange⟩, hintime⟩ := h
  simp only [api, hrequest, hexchange, conclude, hintime, hrefused, if_true, Bool.false_and,
    Bool.false_eq_true, if_false]
  rw [resultOf, if_neg (Bool.eq_false_iff.mp hrefused)]

/-- What is kept of a body that is there is what a cut leaves of its lossy reading. -/
theorem refusalBody_of_some (bytes : List UInt8) :
    refusalBody (some bytes) = String.ofList (cut 512 (decodeLossy bytes)) := rfl

theorem longestStart_refusalBody (bytes : List UInt8) :
    LongestStart 512 (lossyText bytes) (refusalBody (some bytes)) :=
  longestStart_cut 512 (decodeLossy bytes)

theorem lossyText_encode (text : String) : lossyText (encode text) = text := by
  rw [lossyText, decodeLossy_encode, String.ofList_toList]

/-- An answer other than a success, its body there in whole by the time limit, is told with its
status and the longest start of the body's lossy reading, in whole characters, that takes at
most 512 bytes.  A reading of at most 512 bytes is kept unchanged, so a body that spells a text
of that size is that text; of a longer one 509 bytes are kept at least, as the search for the
last boundary at or below 512 stops after three steps at most. -/
theorem refusal_keeps_longest_start {t : Nat} {bytes : List UInt8}
    (h : Starts client net s now c time status (.whole t bytes))
    (hrefused : isSuccess status = false) (hintime : t ≤ client.timeout.nanoseconds) :
    ∃ kept, ((client.api net).answer s now c).1.result = .error (.status status kept) ∧
      LongestStart 512 (lossyText bytes) kept ∧
      ((lossyText bytes).utf8ByteSize ≤ 512 → kept = lossyText bytes) ∧
      (∀ text, bytes = encode text → bytes.length ≤ 512 → kept = text) ∧
      (512 < (lossyText bytes).utf8ByteSize → 509 ≤ kept.utf8ByteSize ∧
        ∃ steps, steps ≤ 3 ∧ boundaryBelow (decodeLossy bytes) 512 = 512 - steps ∧
          SearchStops (lossyText bytes) 512 steps ∧ kept.utf8ByteSize = 512 - steps) := by
  have hkept := longestStart_refusalBody bytes
  have hbytes : (BodyArrival.whole t bytes).bytesBy client.timeout.nanoseconds = some bytes :=
    if_pos hintime
  refine ⟨refusalBody (some bytes), ?_, hkept, hkept.eq_of_fits, ?_, ?_⟩
  · rw [h.result_of_refusal hrefused, hbytes]
  · rintro text rfl hfits
    have hreading := hkept.eq_of_fits (by rwa [lossyText_encode, ← length_encode])
    rwa [lossyText_encode] at hreading
  · intro hlong
    have hsize : 512 < size (decodeLossy bytes) := by
      rwa [size_eq_utf8ByteSize]
    obtain ⟨steps, hfew, hsteps, hstops⟩ := searchStops_of_lt hsize
    have hend : (refusalBody (some bytes)).utf8ByteSize = 512 - steps := by
      rw [refusalBody_of_some, ← size_eq_utf8ByteSize, size_cut_of_lt hsize, hsteps]
    exact ⟨by omega, steps, hfew, hsteps, hstops, hend⟩

/-! ## A character across the limit -/

/-- A network on which every request is answered at once, and always the same. -/
def answeringNetwork (status : Nat) (bytes : List UInt8) : Network Unit where
  exchange s _ _ _ := (.answered 0 status (.whole 0 bytes), s)

theorem starts_answering (hcredential : fitsHeader c.credential = true)
    (hsimple : c.request.Simple) (timeout : Duration) (status : Nat) (bytes : List UInt8) :
    Starts (atLoopback 7845 timeout) (answeringNetwork status bytes) () now c 0 status
      (.whole 0 bytes) := by
  obtain ⟨path, -, -, hrequest⟩ := request_ofBase (Bind.names_loopback 7845) hcredential hsimple
    timeout
  exact ⟨⟨_, hrequest, rfl⟩, Nat.zero_le _⟩

/-- An ill-formed byte, 508 letters and a character of four bytes: decoded, the last one starts
at 511. -/
def straddlingBody : List UInt8 :=
  0xFF :: List.replicate 508 0x61 ++ [0xF0, 0x9F, 0x98, 0x80]

theorem starts_straddling (timeout : Duration) :
    Starts (atLoopback 7845 timeout) (answeringNetwork 503 straddlingBody) () 0 infoCall 0 503
      (.whole 0 straddlingBody) :=
  starts_answering (c := infoCall) (by decide) trivial timeout 503 straddlingBody

/-- What that says of a body whose last character does not fit. -/
theorem refusal_keeps_longest_start_straddling :
    let client := atLoopback 7845 (.ofMillis 300)
    let net := answeringNetwork 503 straddlingBody
    let reading := lossyText straddlingBody
    Starts client net () 0 infoCall 0 503 (.whole 0 straddlingBody) ∧
      isSuccess 503 = false ∧ 0 ≤ client.timeout.nanoseconds ∧
      ∃ kept, ((client.api net).answer () 0 infoCall).1.result = .error (.status 503 kept) ∧
        LongestStart 512 reading kept ∧
        (reading.utf8ByteSize ≤ 512 → kept = reading) ∧
        (∀ text, straddlingBody = encode text → straddlingBody.length ≤ 512 → kept = text) ∧
        (512 < reading.utf8ByteSize → 509 ≤ kept.utf8ByteSize ∧
          ∃ steps, steps ≤ 3 ∧ boundaryBelow (decodeLossy straddlingBody) 512 = 512 - steps ∧
            SearchStops reading 512 steps ∧ kept.utf8ByteSize = 512 - steps) :=
  ⟨starts_straddling _, rfl, Nat.zero_le _,
    refusal_keeps_longest_start (starts_straddling (.ofMillis 300)) rfl (Nat.zero_le _)⟩

end Shakedown.HttpClient
