/-
  Shakedown.Proofs.Text.Blank

  What trimming leaves of a text: nothing exactly if the text is blank, and
  what stands between the blanks if it holds none itself.
-/
import Mathlib.Data.List.TakeWhile
import Shakedown.Text.Blank

namespace Shakedown.Text

theorem trim_eq_nil_iff (cs : List Char) : trim cs = [] ↔ ∀ c ∈ cs, isBlank c = true := by
  rw [trim, trimEnd_eq_nil_iff]
  constructor
  · intro h c hc
    rw [← List.takeWhile_append_dropWhile (p := isBlank) (l := cs)] at hc
    rcases List.mem_append.mp hc with hstart | hrest
    · exact List.mem_takeWhile_imp hstart
    · exact h c hrest
  · intro h c hc
    have hsub : (trimStart cs).Sublist cs := List.dropWhile_sublist isBlank
    exact h c (hsub.subset hc)

/-- Nothing is left of a text exactly if it is blank. -/
theorem trimmed_eq_empty_iff (s : String) : trimmed s = "" ↔ blank s = true := by
  have hempty : trimmed s = "" ↔ trim s.toList = [] := by
    rw [trimmed, ← String.toList_inj, String.toList_ofList]
    rfl
  rw [hempty, trim_eq_nil_iff, blank, List.all_eq_true]

/-! ## Blanks around a text -/

/-- A character of visible ASCII other than a space is not blank. -/
theorem isBlank_of_solid {c : Char} (h : 32 < c.toNat ∧ c.toNat < 127) :
    isBlank c = false := by
  obtain ⟨hlow, hhigh⟩ := h
  simp only [isBlank, Bool.or_eq_false_iff, Bool.and_eq_false_iff, decide_eq_false_iff_not,
    beq_eq_false_iff_ne]
  omega

/-- A text is what is left of it, with blanks on both sides. -/
theorem exists_eq_trim (cs : List Char) :
    ∃ before after, (∀ c ∈ before, isBlank c = true) ∧ (∀ c ∈ after, isBlank c = true) ∧
      cs = before ++ trim cs ++ after := by
  refine ⟨cs.takeWhile isBlank, ((trimStart cs).reverse.takeWhile isBlank).reverse, ?_, ?_, ?_⟩
  · intro c hc
    exact List.mem_takeWhile_imp hc
  · intro c hc
    exact List.mem_takeWhile_imp (List.mem_reverse.mp hc)
  · have hend : trim cs ++ ((trimStart cs).reverse.takeWhile isBlank).reverse = trimStart cs := by
      rw [trim, trimEnd, ← List.reverse_append, List.takeWhile_append_dropWhile,
        List.reverse_reverse]
    rw [List.append_assoc, hend, trimStart, List.takeWhile_append_dropWhile]

theorem dropWhile_isBlank_append {before cs : List Char} (hbefore : ∀ c ∈ before, isBlank c = true)
    (hsolid : ∀ c ∈ cs, isBlank c = false) (hne : cs ≠ []) (after : List Char) :
    (before ++ (cs ++ after)).dropWhile isBlank = cs ++ after := by
  obtain ⟨c, rest, rfl⟩ := List.exists_cons_of_ne_nil hne
  have hc : ¬isBlank c = true := Bool.eq_false_iff.mp (hsolid c List.mem_cons_self)
  rw [List.dropWhile_append_of_pos hbefore, List.cons_append, List.dropWhile_cons_of_neg hc]

/-- Of a text without blanks trimming takes off exactly the blanks around it. -/
theorem trim_of_solid {before cs after : List Char} (hbefore : ∀ c ∈ before, isBlank c = true)
    (hafter : ∀ c ∈ after, isBlank c = true) (hsolid : ∀ c ∈ cs, isBlank c = false) :
    trim (before ++ cs ++ after) = cs := by
  by_cases hne : cs = []
  · rw [hne, trim_eq_nil_iff, List.append_nil]
    intro c hc
    exact (List.mem_append.mp hc).elim (hbefore c) (hafter c)
  · -- The end is the start of the reversed text.
    have hstart : trimStart (before ++ cs ++ after) = cs ++ after := by
      rw [trimStart, List.append_assoc]
      exact dropWhile_isBlank_append hbefore hsolid hne after
    have hend : (after.reverse ++ (cs.reverse ++ [])).dropWhile isBlank = cs.reverse ++ [] :=
      dropWhile_isBlank_append (fun c hc => hafter c (List.mem_reverse.mp hc))
        (fun c hc => hsolid c (List.mem_reverse.mp hc)) (mt List.reverse_eq_nil_iff.mp hne) []
    rw [List.append_nil] at hend
    rw [trim, hstart, trimEnd, List.reverse_append, hend, List.reverse_reverse]

theorem trim_of_no_blank {cs : List Char} (h : ∀ c ∈ cs, isBlank c = false) : trim cs = cs := by
  have hpad : trim ([] ++ cs ++ []) = cs := trim_of_solid nofun nofun h
  rwa [List.nil_append, List.append_nil] at hpad

/-- The text left by trimming, if it is to hold no blank, is the one that stands in the text
between blanks. -/
theorem trim_eq_iff_of_no_blank {cs t : List Char} (h : ∀ c ∈ t, isBlank c = false) :
    trim cs = t ↔ ∃ before after, (∀ c ∈ before, isBlank c = true) ∧
      (∀ c ∈ after, isBlank c = true) ∧ cs = before ++ t ++ after := by
  constructor
  · rintro rfl
    exact exists_eq_trim cs
  · rintro ⟨before, after, hbefore, hafter, rfl⟩
    exact trim_of_solid hbefore hafter h

end Shakedown.Text
