/-
  Shakedown.Proofs.Net.Address

  Cuts at the last occurrence of a mark, and the characters of written IP
  addresses: hexadecimal digits, colons and points, and no colon in IPv4.
-/
import Mathlib.Data.List.TakeWhile
import Shakedown.Net.Address

namespace Shakedown

open Text

/-! ## Hexadecimal digits -/

namespace Text.Hex

theorem digits_ne_nil (n : Nat) : digits n ≠ [] := by
  unfold digits
  split <;> simp

theorem isSome_value?_of_mem_digits {n : Nat} {c : Char} (h : c ∈ digits n) :
    (value? c).isSome = true := by
  induction n using Nat.strongRecOn with
  | _ n ih =>
    have hdigit : ∀ {m : Nat}, m < 16 → c = digit m → (value? c).isSome = true := by
      rintro m hm rfl
      rw [value?_digit hm, Option.isSome_some]
    -- The last digit is written behind the digits of the rest, which is smaller.
    unfold digits at h
    split at h
    · rename_i hn
      exact hdigit hn (List.mem_singleton.mp h)
    · rename_i hn
      rcases List.mem_append.mp h with hfront | hlast
      · exact ih (n / 16) (by omega) hfront
      · exact hdigit (Nat.mod_lt n (by decide)) (List.mem_singleton.mp hlast)

end Text.Hex

namespace Net

/-! ## Cuts -/

section Cuts

variable {mark : Char} {cs left right : List Char}

/-- The mark that is found from behind is the last one. -/
theorem eq_append_of_cutAtLast (h : cutAtLast mark cs = some (left, right)) :
    cs = left ++ mark :: right ∧ mark ∉ right := by
  unfold cutAtLast at h
  dsimp only at h
  split at h
  · exact nomatch h
  · rename_i c before hrest
    obtain ⟨rfl, rfl⟩ := Prod.mk.inj (Option.some.inj h)
    -- What stopped the search is the mark, and it stopped at the first one from behind.
    have hc : c = mark := by
      have hstop := List.head?_dropWhile_not (fun c => decide (c ≠ mark)) cs.reverse
      rw [hrest] at hstop
      simpa using hstop
    have hsplit := List.takeWhile_append_dropWhile (p := fun c => decide (c ≠ mark))
      (l := cs.reverse)
    rw [hrest, hc] at hsplit
    refine ⟨?_, fun hmark => ?_⟩
    · simpa using (congrArg List.reverse hsplit).symm
    · have hother := List.mem_takeWhile_imp (List.mem_reverse.mp hmark)
      exact absurd rfl (of_decide_eq_true hother)

theorem cutAtLast_append (left : List Char) (hmark : mark ∉ right) :
    cutAtLast mark (left ++ mark :: right) = some (left, right) := by
  have hreverse : (left ++ mark :: right).reverse = right.reverse ++ mark :: left.reverse := by
    rw [List.reverse_append, List.reverse_cons, List.append_assoc, List.singleton_append]
  have hbehind : ∀ c ∈ right.reverse, decide (c ≠ mark) = true := by
    intro c hc
    exact decide_eq_true fun heq => hmark (heq ▸ List.mem_reverse.mp hc)
  have hstop : ¬decide (mark ≠ mark) = true := fun h => of_decide_eq_true h rfl
  have htail : (right.reverse ++ mark :: left.reverse).takeWhile (fun c => decide (c ≠ mark)) =
      right.reverse := by
    rw [List.takeWhile_append_of_pos hbehind,
      List.takeWhile_cons_of_neg (p := fun c => decide (c ≠ mark)) hstop, List.append_nil]
  have hfront : (right.reverse ++ mark :: left.reverse).dropWhile (fun c => decide (c ≠ mark)) =
      mark :: left.reverse := by
    rw [List.dropWhile_append_of_pos hbehind,
      List.dropWhile_cons_of_neg (p := fun c => decide (c ≠ mark)) hstop]
  unfold cutAtLast
  rw [hreverse, htail, hfront]
  dsimp only
  rw [List.reverse_reverse, List.reverse_reverse]

/-- A text is cut at a mark behind which there is no other. -/
theorem cutAtLast_eq_some_iff :
    cutAtLast mark cs = some (left, right) ↔ cs = left ++ mark :: right ∧ mark ∉ right := by
  constructor
  · exact eq_append_of_cutAtLast
  · rintro ⟨rfl, hmark⟩
    exact cutAtLast_append left hmark

end Cuts

/-! ## The characters of an address -/

/-- The port of a socket address. -/
def Socket.port : Socket → UInt16
  | .v4 _ port => port
  | .v6 _ port => port

/-- The characters that IPv6 addresses are written in. -/
def IsAddressChar (c : Char) : Prop :=
  (Hex.value? c).isSome = true ∨ c = ':' ∨ c = '.'

theorem isAddressChar_of_isDigit {c : Char} (h : Decimal.isDigit c = true) : IsAddressChar c := by
  refine Or.inl ?_
  unfold Hex.value?
  rw [Decimal.isDigit] at h
  rw [if_pos h, Option.isSome_some]

theorem Ipv4.mem_chars {ip : Ipv4} {c : Char} (h : c ∈ ip.chars) :
    c = '.' ∨ Decimal.isDigit c = true := by
  have hdigits : ∀ {n : Nat}, c ∈ Decimal.digits n → c = '.' ∨ Decimal.isDigit c = true :=
    fun hc => Or.inr (List.all_eq_true.mp (Decimal.all_isDigit_digits _) c hc)
  simp only [Ipv4.chars, List.append_assoc, List.cons_append, List.mem_append, List.mem_cons] at h
  rcases h with h | h | h | h | h | h | h
  · exact hdigits h
  · exact Or.inl h
  · exact hdigits h
  · exact Or.inl h
  · exact hdigits h
  · exact Or.inl h
  · exact hdigits h

theorem isAddressChar_of_mem_groupChars {gs : List UInt16} {c : Char} (h : c ∈ groupChars gs) :
    IsAddressChar c := by
  fun_induction groupChars gs with
  | case1 => exact nomatch h
  | case2 g => exact Or.inl (Hex.isSome_value?_of_mem_digits h)
  | case3 g rest hrest ih =>
    rcases List.mem_append.mp h with hfirst | hothers
    · exact Or.inl (Hex.isSome_value?_of_mem_digits hfirst)
    · rcases List.mem_cons.mp hothers with hcolon | hothers
      · exact Or.inr (Or.inl hcolon)
      · exact ih hothers

theorem groupChars_ne_nil {gs : List UInt16} (h : gs ≠ []) : groupChars gs ≠ [] := by
  fun_cases groupChars gs with
  | case1 => exact absurd rfl h
  | case2 g => exact Hex.digits_ne_nil _
  | case3 g rest hrest => exact List.append_ne_nil_of_right_ne_nil _ (List.cons_ne_nil _ _)

namespace Ipv6

variable {ip : Ipv6} {c : Char}

theorem shortened_ne_nil (ip : Ipv6) : ip.shortened ≠ [] := by
  unfold shortened
  dsimp only
  split
  · exact List.append_ne_nil_of_right_ne_nil _ (List.cons_ne_nil _ _)
  · refine groupChars_ne_nil fun hnil => ?_
    have hlength : ip.groups.toList.length = 8 := ip.groups.length_toList
    rw [hnil] at hlength
    exact nomatch hlength

theorem isAddressChar_of_mem_shortened (h : c ∈ ip.shortened) : IsAddressChar c := by
  unfold shortened at h
  dsimp only at h
  split at h
  · rcases List.mem_append.mp h with hfront | hgap
    · exact isAddressChar_of_mem_groupChars hfront
    · rcases List.mem_cons.mp hgap with hcolon | hgap
      · exact Or.inr (Or.inl hcolon)
      · rcases List.mem_cons.mp hgap with hcolon | hback
        · exact Or.inr (Or.inl hcolon)
        · exact isAddressChar_of_mem_groupChars hback
  · exact isAddressChar_of_mem_groupChars h

theorem chars_ne_nil (ip : Ipv6) : ip.chars ≠ [] := by
  unfold chars
  split
  · exact List.append_ne_nil_of_left_ne_nil (by decide) _
  · exact shortened_ne_nil ip

theorem isAddressChar_of_mem_chars (h : c ∈ ip.chars) : IsAddressChar c := by
  unfold chars at h
  split at h
  · rcases List.mem_append.mp h with hprefix | hmapped
    · have hall : "::ffff:".toList.all (fun d => d == ':' || (Hex.value? d).isSome) = true := by
        decide
      have hc := List.all_eq_true.mp hall c hprefix
      rw [Bool.or_eq_true, beq_iff_eq] at hc
      exact hc.elim (fun hcolon => Or.inr (Or.inl hcolon)) Or.inl
    · exact (Ipv4.mem_chars hmapped).elim (fun hpoint => Or.inr (Or.inr hpoint))
        isAddressChar_of_isDigit
  · exact isAddressChar_of_mem_shortened h

end Ipv6

end Net

end Shakedown
