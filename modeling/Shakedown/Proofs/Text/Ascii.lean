/-
  Shakedown.Proofs.Text.Ascii

  ASCII among UTF-8.  A byte below 0x80 is a character of its own wherever it
  stands, also after a sequence that was cut short: what stands before it and
  what follows it are decoded as if it were not there.  And no other bytes are
  ever decoded to its character.  So a text can be cut at a character like the
  line feed before it is decoded or after.
-/
import Mathlib.Algebra.Group.Nat.Defs
import Shakedown.Text.Utf8

namespace Shakedown.Text.Utf8

/-! ## Lead bytes -/

/-- What a lead byte promises: at least one follower from 0x80 on, and with the lowest followers
a number past ASCII, as a shorter form is the only one of any number. -/
theorem promise_of_lead? {b need lo hi acc : Nat} (h : lead? b = some (need, lo, hi, acc)) :
    0x80 ≤ lo ∧ ∃ more, need = more + 1 ∧ 0x80 ≤ (acc * 64 + (lo - 0x80)) * 64 ^ more := by
  have hpromise : ∀ {more lo' hi' acc' : Nat},
      some (more + 1, lo', hi', acc') = some (need, lo, hi, acc) → 0x80 ≤ lo' →
      0x80 ≤ (acc' * 64 + (lo' - 0x80)) * 64 ^ more →
      0x80 ≤ lo ∧ ∃ more, need = more + 1 ∧ 0x80 ≤ (acc * 64 + (lo - 0x80)) * 64 ^ more := by
    intro more lo' hi' acc' heq hlo hbound
    simp only [Option.some.injEq, Prod.mk.injEq] at heq
    obtain ⟨rfl, rfl, rfl, rfl⟩ := heq
    exact ⟨hlo, more, rfl, hbound⟩
  unfold lead? at h
  simp only [Bool.and_eq_true, decide_eq_true_eq, beq_iff_eq] at h
  -- One kind of lead byte after the other.
  iterate 7
    split at h
    · exact hpromise h (by omega) (by omega)
  exact nomatch h

/-! ## What stands before an ASCII byte -/

/-- Reading the followers of a lead byte stops at an ASCII byte, which stays unread. -/
theorem followers_append_ascii {a : UInt8} (ha : a.toNat < 0x80) {need lo hi acc : Nat}
    (hlo : 0x80 ≤ lo) (xs ys : List UInt8) :
    followers need lo hi acc (xs ++ a :: ys) =
      ((followers need lo hi acc xs).1, (followers need lo hi acc xs).2 ++ a :: ys) := by
  induction need generalizing lo hi acc xs with
  | zero => rfl
  | succ need ih =>
    cases xs with
    | nil =>
      have hout : ¬(decide (lo ≤ a.toNat) && decide (a.toNat ≤ hi)) = true := by
        simp only [Bool.and_eq_true, decide_eq_true_eq]
        omega
      rw [List.nil_append]
      exact if_neg hout
    | cons x xs =>
      rw [List.cons_append, followers, followers]
      split
      · exact ih (by omega) xs
      · rfl

theorem piece_append_ascii {a : UInt8} (ha : a.toNat < 0x80) (b : UInt8) (xs ys : List UInt8) :
    piece b (xs ++ a :: ys) = ((piece b xs).1, (piece b xs).2 ++ a :: ys) := by
  unfold piece
  split
  · rfl
  · split
    · rename_i hlead
      exact followers_append_ascii ha (promise_of_lead? hlead).1 xs ys
    · rfl

/-- The pieces of bytes with an ASCII byte among them are those of what stands before it, its
character, and those of what follows it. -/
theorem pieces_append_ascii {a : UInt8} (ha : a.toNat < 0x80) (xs ys : List UInt8) :
    pieces (xs ++ a :: ys) = pieces xs ++ some (Char.ofNat a.toNat) :: pieces ys := by
  induction xs using pieces.induct with
  | case1 => rw [List.nil_append, pieces_cons, pieces_nil, piece, if_pos ha, List.nil_append]
  | case2 b bs ih =>
    rw [List.cons_append, pieces_cons, pieces_cons, piece_append_ascii ha, ih, List.cons_append]

theorem decodeLossy_append_ascii {a : UInt8} (ha : a.toNat < 0x80) (xs ys : List UInt8) :
    decodeLossy (xs ++ a :: ys) = decodeLossy xs ++ Char.ofNat a.toNat :: decodeLossy ys := by
  rw [decodeLossy, pieces_append_ascii ha, List.map_append, List.map_cons]
  rfl

/-- Every piece decodes to a character, so no bytes are lost altogether. -/
theorem decodeLossy_eq_nil_iff {xs : List UInt8} : decodeLossy xs = [] ↔ xs = [] := by
  constructor
  · intro h
    cases xs with
    | nil => rfl
    | cons b bs =>
      rw [decodeLossy, pieces_cons, List.map_cons] at h
      exact absurd h (List.cons_ne_nil _ _)
  · rintro rfl
    exact decodeLossy_nil

/-! ## Where an ASCII character comes from -/

/-- The number that followers make of what the lead byte carries is no smaller than with the
lowest followers there are. -/
theorem le_of_followers {need lo hi acc : Nat} {bs rest : List UInt8} {c : Char}
    (hlo : 0x80 ≤ lo) (h : followers (need + 1) lo hi acc bs = (some c, rest)) :
    ∃ n, (acc * 64 + (lo - 0x80)) * 64 ^ need ≤ n ∧ c = Char.ofNat n := by
  induction need generalizing lo hi acc bs with
  | zero =>
    cases bs with
    | nil => exact absurd h (by simp [followers])
    | cons b bs =>
      rw [followers] at h
      split at h
      · rename_i hin
        simp only [Bool.and_eq_true, decide_eq_true_eq] at hin
        rw [followers, Prod.mk.injEq, Option.some.injEq] at h
        exact ⟨acc * 64 + (b.toNat - 0x80), by omega, h.1.symm⟩
      · exact absurd h (by simp)
  | succ need ih =>
    cases bs with
    | nil => exact absurd h (by simp [followers])
    | cons b bs =>
      rw [followers] at h
      split at h
      · rename_i hin
        simp only [Bool.and_eq_true, decide_eq_true_eq] at hin
        obtain ⟨n, hn, hc⟩ := ih (Nat.le_refl _) h
        rw [Nat.sub_self, Nat.add_zero] at hn
        have hacc : acc * 64 + (lo - 0x80) ≤ acc * 64 + (b.toNat - 0x80) := by omega
        refine ⟨n, ?_, hc⟩
        calc (acc * 64 + (lo - 0x80)) * 64 ^ (need + 1)
            = (acc * 64 + (lo - 0x80)) * 64 * 64 ^ need := by
              rw [Nat.pow_succ', Nat.mul_assoc]
          _ ≤ (acc * 64 + (b.toNat - 0x80)) * 64 * 64 ^ need :=
              Nat.mul_le_mul_right _ (Nat.mul_le_mul_right _ hacc)
          _ ≤ n := hn
      · exact absurd h (by simp)

/-- Followers are read from the front. -/
theorem followers_suffix (need lo hi acc : Nat) (bs : List UInt8) :
    (followers need lo hi acc bs).2 <:+ bs := by
  induction need generalizing lo hi acc bs with
  | zero => exact List.suffix_rfl
  | succ need ih =>
    cases bs with
    | nil => exact List.suffix_rfl
    | cons b bs =>
      rw [followers]
      split
      · exact (ih _ _ _ bs).trans (List.suffix_cons b bs)
      · exact List.suffix_rfl

theorem piece_suffix (b : UInt8) (bs : List UInt8) : (piece b bs).2 <:+ bs := by
  unfold piece
  split
  · exact List.suffix_rfl
  · split
    · exact followers_suffix ..
    · exact List.suffix_rfl

/-- Only an ASCII byte is read as an ASCII character, NUL apart. -/
theorem toNat_of_piece_ascii {b : UInt8} {bs : List UInt8} {c : Char}
    (h : (piece b bs).1 = some c) (hnul : c.toNat ≠ 0) (hc : c.toNat < 0x80) :
    b.toNat = c.toNat := by
  have hnumber : ∀ n, c = Char.ofNat n → n = c.toNat := by
    rintro n rfl
    by_cases hvalid : n.isValidChar
    · have hof : Char.ofNat n = Char.ofNatAux n hvalid := dif_pos hvalid
      exact (congrArg Char.toNat hof).symm
    · have hof : Char.ofNat n = Char.ofNat 0 := dif_neg hvalid
      exact absurd (congrArg Char.toNat hof) hnul
  unfold piece at h
  split at h
  · exact hnumber _ (Option.some.inj h).symm
  · split at h
    · rename_i need lo hi acc hlead
      obtain ⟨hlo, more, rfl, hbound⟩ := promise_of_lead? hlead
      have hpair : followers (more + 1) lo hi acc bs =
          (some c, (followers (more + 1) lo hi acc bs).2) := Prod.ext h rfl
      obtain ⟨n, hn, hof⟩ := le_of_followers hlo hpair
      have := hnumber n hof
      omega
    · exact nomatch h

/-- The bytes from which an ASCII character other than NUL is decoded hold its byte. -/
theorem mem_of_mem_decodeLossy {c : Char} (hnul : c.toNat ≠ 0) (hc : c.toNat < 0x80)
    {xs : List UInt8} (h : c ∈ decodeLossy xs) : UInt8.ofNat c.toNat ∈ xs := by
  induction xs using pieces.induct with
  | case1 =>
    rw [decodeLossy_nil] at h
    exact absurd h List.not_mem_nil
  | case2 b bs ih =>
    rw [decodeLossy, pieces_cons, List.map_cons] at h
    rcases List.mem_cons.mp h with hhead | htail
    · cases hpiece : (piece b bs).1 with
      | none =>
        rw [hpiece] at hhead
        exact absurd hc (by rw [hhead]; decide)
      | some d =>
        rw [hpiece] at hhead
        obtain rfl : c = d := hhead
        have hb := toNat_of_piece_ascii hpiece hnul hc
        rw [← hb, UInt8.ofNat_toNat]
        exact List.mem_cons_self
    · exact List.mem_cons_of_mem b ((piece_suffix b bs).subset (ih htail))

end Shakedown.Text.Utf8
