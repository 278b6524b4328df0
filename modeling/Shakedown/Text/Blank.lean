/-
  Shakedown.Text.Blank

  White space as Unicode defines it, and the two things the harness does
  with it: trimming a text at both ends and asking whether a text holds
  nothing else.
-/

namespace Shakedown.Text

/-- The characters with the Unicode property `White_Space`. -/
def isBlank (c : Char) : Bool :=
  let n := c.toNat
  (9 ≤ n && n ≤ 13) || n == 0x20 || n == 0x85 || n == 0xA0 || n == 0x1680 ||
    (0x2000 ≤ n && n ≤ 0x200A) || n == 0x2028 || n == 0x2029 || n == 0x202F ||
    n == 0x205F || n == 0x3000

/-- A text without the blanks it starts with. -/
def trimStart (cs : List Char) : List Char :=
  cs.dropWhile isBlank

/-- A text without the blanks it ends with. -/
def trimEnd (cs : List Char) : List Char :=
  (cs.reverse.dropWhile isBlank).reverse

/-- A text without the blanks at either end. -/
def trim (cs : List Char) : List Char :=
  trimEnd (trimStart cs)

def trimmed (s : String) : String :=
  String.ofList (trim s.toList)

/-- Whether a text is empty or all white space. -/
def blank (s : String) : Bool :=
  s.toList.all isBlank

/-! ## The ends of a trimmed text -/

theorem trimStart_eq_nil_iff (cs : List Char) :
    trimStart cs = [] ↔ ∀ c ∈ cs, isBlank c = true := by
  induction cs with
  | nil => simp [trimStart]
  | cons c cs ih =>
    by_cases h : isBlank c
    · have skip : trimStart (c :: cs) = trimStart cs := List.dropWhile_cons_of_pos h
      rw [skip, ih, List.forall_mem_cons]
      exact (and_iff_right h).symm
    · have stop : trimStart (c :: cs) = c :: cs := List.dropWhile_cons_of_neg h
      rw [stop, List.forall_mem_cons]
      exact ⟨nofun, fun all => absurd all.1 h⟩

theorem trimEnd_eq_nil_iff (cs : List Char) :
    trimEnd cs = [] ↔ ∀ c ∈ cs, isBlank c = true := by
  rw [trimEnd, List.reverse_eq_nil_iff]
  exact (trimStart_eq_nil_iff cs.reverse).trans
    ⟨fun h c hc => h c (List.mem_reverse.mpr hc), fun h c hc => h c (List.mem_reverse.mp hc)⟩

end Shakedown.Text
