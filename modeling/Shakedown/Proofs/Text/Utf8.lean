/-
  Shakedown.Proofs.Text.Utf8

  A text that was written in UTF-8 reads back.  Every character is written as
  a lead byte and the followers it promises, so the pieces of the bytes of a
  text are its characters; both readings then give the text.
-/
import Shakedown.Text.Utf8

namespace Shakedown.Text.Utf8

/-- The bytes of a text are those of its characters. -/
theorem encode_eq_flatMap (s : String) : encode s = s.toList.flatMap String.utf8EncodeChar := by
  rw [encode, String.toUTF8_eq_toByteArray, ← String.utf8Encode_toList, List.utf8Encode,
    List.toList_data_toByteArray]

/-! ## One character -/

/-- A follower in its range is taken. -/
theorem followers_of_inRange {lo hi n : Nat} (need acc : Nat) (bs : List UInt8) (hn : n < 64)
    (hlo : lo ≤ n + 128) (hhi : n + 128 ≤ hi) :
    followers (need + 1) lo hi acc (UInt8.ofNat (n + 128) :: bs) =
      followers need 0x80 0xBF (acc * 64 + n) bs := by
  have hbyte : (UInt8.ofNat (n + 128)).toNat = n + 128 :=
    UInt8.toNat_ofNat_of_lt' (by show n + 128 < 256; omega)
  rw [followers, hbyte, if_pos (by simp only [hlo, hhi, decide_true, Bool.and_self]),
    Nat.add_sub_cancel]

/-- A lead byte is read with its followers. -/
theorem piece_of_lead {n need lo hi acc : Nat} (bs : List UInt8) (hn : n < 256)
    (hlead : lead? n = some (need, lo, hi, acc)) (hascii : 0x80 ≤ n) :
    piece (UInt8.ofNat n) bs = followers need lo hi acc bs := by
  have hbyte : (UInt8.ofNat n).toNat = n := UInt8.toNat_ofNat_of_lt' hn
  rw [piece, hbyte, if_neg (Nat.not_lt.mpr hascii), hlead]

theorem lead?_two {n : Nat} (h : 2 ≤ n) (h' : n < 32) :
    lead? (n + 192) = some (1, 0x80, 0xBF, n) := by
  have hn : (decide (0xC2 ≤ n + 192) && decide (n + 192 ≤ 0xDF)) = true := by
    simp only [Bool.and_eq_true, decide_eq_true_eq]
    omega
  rw [lead?, if_pos hn]
  exact congrArg (fun k => some (1, 0x80, 0xBF, k)) (Nat.add_sub_cancel n 0xC0)

/-- Three bytes: the first follower is bounded below after the lowest lead byte,
and above before the surrogates. -/
theorem lead?_three {n : Nat} (h : n < 16) :
    lead? (n + 224) =
      some (2, if n = 0 then 0xA0 else 0x80, if n = 13 then 0x9F else 0xBF, n) := by
  have hall : ∀ m : Fin 16, lead? (m + 224) =
      some (2, if m.val = 0 then 0xA0 else 0x80, if m.val = 13 then 0x9F else 0xBF, m.val) := by
    decide
  exact hall ⟨n, h⟩

/-- Four bytes: likewise, and the last lead byte ends at U+10FFFF. -/
theorem lead?_four {n : Nat} (h : n < 5) :
    lead? (n + 240) =
      some (3, if n = 0 then 0x90 else 0x80, if n = 4 then 0x8F else 0xBF, n) := by
  have hall : ∀ m : Fin 5, lead? (m + 240) =
      some (3, if m.val = 0 then 0x90 else 0x80, if m.val = 4 then 0x8F else 0xBF, m.val) := by
    decide
  exact hall ⟨n, h⟩

/-- The bytes of a character are its piece. -/
theorem piece_char (c : Char) (bs : List UInt8) :
    ∃ b rest, String.utf8EncodeChar c ++ bs = b :: rest ∧ piece b rest = (some c, bs) := by
  have hchar : ∀ n, n = c.val.toNat → some (Char.ofNat n) = some c := by
    rintro n rfl
    exact congrArg some (Char.ofNat_toNat c)
  have hvalid := c.valid
  rw [UInt32.isValidChar, Nat.isValidChar] at hvalid
  rw [String.utf8EncodeChar]
  generalize c.val.toNat = v at *
  -- By how many bytes the character takes.
  split
  · rename_i h
    refine ⟨_, _, List.cons_append, ?_⟩
    have hbyte : (UInt8.ofNat v).toNat = v := UInt8.toNat_ofNat_of_lt' (by show v < 256; omega)
    rw [piece, hbyte, if_pos (by omega), hchar v rfl,
      List.nil_append]
  · split
    · refine ⟨_, _, List.cons_append, ?_⟩
      rw [piece_of_lead _ (by omega) (lead?_two (by omega) (by omega)) (by omega),
        List.cons_append, followers_of_inRange _ _ _ (by omega) (by omega) (by omega), followers,
        hchar _ (by omega), List.nil_append]
    · split
      · refine ⟨_, _, List.cons_append, ?_⟩
        rw [piece_of_lead _ (by omega) (lead?_three (by omega)) (by omega),
          List.cons_append, List.cons_append,
          followers_of_inRange _ _ _ (by omega) (by split <;> omega) (by split <;> omega),
          followers_of_inRange _ _ _ (by omega) (by omega) (by omega), followers,
          hchar _ (by omega), List.nil_append]
      · refine ⟨_, _, List.cons_append, ?_⟩
        have hlead : v / 262144 % 8 < 5 := by omega
        rw [piece_of_lead _ (by omega) (lead?_four hlead) (by omega),
          List.cons_append, List.cons_append, List.cons_append,
          followers_of_inRange _ _ _ (by omega) (by split <;> omega) (by split <;> omega),
          followers_of_inRange _ _ _ (by omega) (by omega) (by omega),
          followers_of_inRange _ _ _ (by omega) (by omega) (by omega), followers,
          hchar _ (by omega), List.nil_append]

/-! ## Whole texts -/

theorem pieces_flatMap (cs : List Char) :
    pieces (cs.flatMap String.utf8EncodeChar) = cs.map some := by
  induction cs with
  | nil => exact pieces_nil
  | cons c cs ih =>
    obtain ⟨b, rest, hbytes, hpiece⟩ := piece_char c (cs.flatMap String.utf8EncodeChar)
    rw [List.flatMap_cons, hbytes, pieces_cons, hpiece, ih, List.map_cons]

/-- The pieces of a written text are its characters. -/
theorem pieces_encode (s : String) : pieces (encode s) = s.toList.map some := by
  rw [encode_eq_flatMap, pieces_flatMap]

/-- A written text reads back. -/
@[simp] theorem decode?_encode (s : String) : decode? (encode s) = some s := by
  have hall : ∀ cs : List Char, (cs.map some).mapM id = some cs := by
    intro cs
    induction cs with
    | nil => rfl
    | cons c cs ih =>
      rw [List.map_cons, List.mapM_cons, ih]
      rfl
  rw [decode?, pieces_encode, hall, Option.map_some, String.ofList_toList]

/-- So does the lossy reading, in which nothing is lost. -/
@[simp] theorem decodeLossy_encode (s : String) : decodeLossy (encode s) = s.toList := by
  rw [decodeLossy, pieces_encode, List.map_map]
  exact List.map_id _

end Shakedown.Text.Utf8
