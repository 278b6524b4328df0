/-
  Shakedown.Proofs.Uuid

  An identifier reads back from its text, whose characters are hexadecimal
  digits and hyphens.
-/
import Shakedown.Uuid

namespace Shakedown.Uuid

open Text

/-- The groups of 32 digits. -/
theorem groups (cs : List Char) :
    cs.take 8 ++ (cs.drop 8).take 4 ++ (cs.drop 12).take 4 ++ (cs.drop 16).take 4 ++ cs.drop 20 =
      cs := by
  have hstep : ∀ n m, cs.take n ++ (cs.drop n).take m = cs.take (n + m) := fun n m =>
    List.take_add.symm
  rw [hstep, hstep, hstep, List.take_append_drop]

theorem length_hyphenate {cs : List Char} (h : cs.length = 32) : (hyphenate cs).length = 36 := by
  simp only [hyphenate, List.length_append, List.length_cons, List.length_take, List.length_drop, h]
  decide

/-- Hyphens go where they are looked for. -/
theorem unhyphenate?_hyphenate {cs : List Char} (h : cs.length = 32) :
    unhyphenate? (hyphenate cs) = some cs := by
  have hdigits : (hyphenate cs).take 8 ++ ((hyphenate cs).drop 9).take 4 ++
      ((hyphenate cs).drop 14).take 4 ++ ((hyphenate cs).drop 19).take 4 ++
      (hyphenate cs).drop 24 = cs := by
    conv => rhs; rw [← groups cs]
    have ha : (cs.take 8).length = 8 := by rw [List.length_take, h]; rfl
    have hb : ((cs.drop 8).take 4).length = 4 := by
      rw [List.length_take, List.length_drop, h]; rfl
    have hc : ((cs.drop 12).take 4).length = 4 := by
      rw [List.length_take, List.length_drop, h]; rfl
    have hd : ((cs.drop 16).take 4).length = 4 := by
      rw [List.length_take, List.length_drop, h]; rfl
    rw [hyphenate]
    -- Only the lengths of the groups matter for where the hyphens stand.
    generalize cs.take 8 = a at *
    generalize (cs.drop 8).take 4 = b at *
    generalize (cs.drop 12).take 4 = c at *
    generalize (cs.drop 16).take 4 = d at *
    generalize cs.drop 20 = e at *
    simp only [List.append_assoc, List.cons_append]
    simp (disch := omega) [List.drop_append, List.drop_of_length_le, ha, hb, hc, hd]
  unfold unhyphenate?
  dsimp only
  rw [hdigits, length_hyphenate h]
  simp only [decide_true, BEq.rfl, Bool.and_self, if_true]

theorem length_simple (u : Uuid) : u.simple.length = 32 :=
  Hex.length_padded 32 u.value

theorem ofNat_value (u : Uuid) : ofNat u.value = u :=
  (Uuid.mk.injEq ..).mpr (Nat.mod_eq_of_lt u.value_lt)

theorem ofDigits?_simple (u : Uuid) : ofDigits? u.simple = some u := by
  have hvalue : u.value % Nat.pow 16 32 = u.value := Nat.mod_eq_of_lt u.value_lt
  have hread : Hex.accumulate? 0 u.simple = some u.value := by
    rw [simple, Hex.accumulate?_padded, hvalue, Nat.zero_mul, Nat.zero_add]
  rw [ofDigits?, if_pos u.length_simple, hread, Option.map_some, ofNat_value]

/-- An identifier reads back from its text. -/
@[simp] theorem ofText?_text (u : Uuid) : ofText? u.text = some u := by
  have hlen := length_hyphenate u.length_simple
  rw [ofText?, text, String.toList_ofList, ofChars?, hlen, if_neg (by decide), if_pos rfl,
    ofHyphenated?, unhyphenate?_hyphenate u.length_simple, Option.bind_some, ofDigits?_simple]

/-- Different identifiers have different texts. -/
theorem text_inj {u v : Uuid} (h : u.text = v.text) : u = v := by
  have hread := ofText?_text u
  rw [h, ofText?_text] at hread
  exact (Option.some.inj hread).symm

/-! ## The characters of an identifier -/

/-- A character that an identifier is written with. -/
def IsPlain (c : Char) : Prop :=
  c = '-' ∨ 48 ≤ c.toNat ∧ c.toNat ≤ 57 ∨ 97 ≤ c.toNat ∧ c.toNat ≤ 102

instance (c : Char) : Decidable (IsPlain c) :=
  inferInstanceAs (Decidable (_ ∨ _))

theorem isPlain_digit {n : Nat} (h : n < 16) : IsPlain (Hex.digit n) := by
  have hall : ∀ m : Fin 16, IsPlain (Hex.digit m) := by decide
  exact hall ⟨n, h⟩

theorem isPlain_of_mem_padded {w n : Nat} {c : Char} (h : c ∈ Hex.padded w n) : IsPlain c := by
  induction w generalizing n with
  | zero => exact nomatch h
  | succ w ih =>
    rcases List.mem_append.mp h with h | h
    · exact ih h
    · obtain rfl := List.mem_singleton.mp h
      exact isPlain_digit (Nat.mod_lt n (by decide))

theorem isPlain_of_mem_simple {u : Uuid} {c : Char} (h : c ∈ u.simple) : IsPlain c :=
  isPlain_of_mem_padded h

theorem isPlain_of_mem_text {u : Uuid} {c : Char} (h : c ∈ u.text.toList) : IsPlain c := by
  rw [text, String.toList_ofList, hyphenate] at h
  simp only [List.mem_append, List.mem_cons] at h
  have hsimple : ∀ {cs : List Char}, cs ⊆ u.simple → c ∈ cs → IsPlain c := fun hsub hc =>
    isPlain_of_mem_simple (hsub hc)
  have htake : ∀ m n, ((u.simple.drop m).take n) ⊆ u.simple := fun m n =>
    fun d hd => List.mem_of_mem_drop (List.mem_of_mem_take hd)
  rcases h with (((h | h | h) | h | h) | h | h) | h | h
  · exact hsimple (List.take_subset 8 _) h
  · exact Or.inl h
  · exact hsimple (htake 8 4) h
  · exact Or.inl h
  · exact hsimple (htake 12 4) h
  · exact Or.inl h
  · exact hsimple (htake 16 4) h
  · exact Or.inl h
  · exact hsimple (List.drop_subset 20 _) h

end Shakedown.Uuid
