/-
  Shakedown.Proofs.Text.Cut

  What is left of a text that is cut at a character boundary: the longest
  start of it, in whole characters, that fits.  A character takes four bytes
  at most, so the search for the boundary goes back three bytes at most, and
  no more than three bytes of the limit stay unused.
-/
import Shakedown.Proofs.Text.Utf8

namespace Shakedown.Text.Utf8

variable {cs p q : List Char} {c : Char} {n m limit : Nat}

/-! ## Sizes -/

theorem size_eq_utf8ByteSize (cs : List Char) : size cs = (String.ofList cs).utf8ByteSize := by
  induction cs with
  | nil => rfl
  | cons c cs ih =>
    have hhead : (String.ofList [c]).utf8ByteSize = c.utf8Size := by
      rw [← String.singleton_eq_ofList, String.utf8ByteSize_singleton]
    rw [size, ih, ← List.singleton_append, String.ofList_append, String.utf8ByteSize_append, hhead]

/-- The size of a text is the number of the bytes it is written in. -/
theorem length_encode (s : String) : (encode s).length = s.utf8ByteSize := rfl

theorem size_append (p q : List Char) : size (p ++ q) = size p + size q := by
  rw [size_eq_utf8ByteSize, String.ofList_append, String.utf8ByteSize_append,
    ← size_eq_utf8ByteSize, ← size_eq_utf8ByteSize]

/-- Of two starts of a text the one that takes less is a start of the other. -/
theorem prefix_of_size_le (hp : p <+: cs) (hq : q <+: cs) (h : size p ≤ size q) : p <+: q := by
  rcases List.prefix_or_prefix_of_prefix hp hq with hpq | hqp
  · exact hpq
  · obtain ⟨rest, rfl⟩ := hqp
    rw [size_append] at h
    cases rest with
    | nil => exact (List.append_nil q).symm ▸ List.prefix_rfl
    | cons c rest =>
      have hpos := c.utf8Size_pos
      rw [size] at h
      omega

/-! ## Boundaries -/

/-- A boundary is where a start of the text ends. -/
theorem isBoundary_iff_exists :
    isBoundary cs n = true ↔ ∃ p, p <+: cs ∧ size p = n := by
  induction cs generalizing n with
  | nil =>
    cases n with
    | zero => exact iff_of_true rfl ⟨[], List.prefix_rfl, rfl⟩
    | succ n =>
      refine iff_of_false nofun ?_
      rintro ⟨p, hp, hn⟩
      rw [List.prefix_nil.mp hp] at hn
      exact nomatch hn
  | cons c cs ih =>
    cases n with
    | zero => exact iff_of_true rfl ⟨[], List.nil_prefix, rfl⟩
    | succ n =>
      rw [isBoundary, Bool.and_eq_true, decide_eq_true_eq, ih]
      constructor
      · rintro ⟨hle, p, hp, hn⟩
        exact ⟨c :: p, List.cons_prefix_cons.mpr ⟨rfl, hp⟩, by rw [size]; omega⟩
      · rintro ⟨p, hp, hn⟩
        cases p with
        | nil => exact nomatch hn
        | cons d p =>
          obtain ⟨rfl, htail⟩ := List.cons_prefix_cons.mp hp
          rw [size] at hn
          exact ⟨by omega, p, htail, by omega⟩

/-- The boundaries of a text are the positions that are valid in it: its end, and wherever a
byte stands that starts a character. -/
theorem isBoundary_iff_isValid :
    isBoundary cs n = true ↔ (⟨n⟩ : String.Pos.Raw).IsValid (String.ofList cs) := by
  rw [isBoundary_iff_exists, String.Pos.Raw.isValid_ofList]
  constructor
  · rintro ⟨p, hp, rfl⟩
    refine ⟨p.length, ?_⟩
    rw [← List.prefix_iff_eq_take.mp hp]
    exact size_eq_utf8ByteSize p
  · rintro ⟨i, hi⟩
    exact ⟨cs.take i, List.take_prefix i cs, (size_eq_utf8ByteSize _).trans hi.symm⟩

/-! ## The search for a boundary -/

theorem isBoundary_boundaryBelow (cs : List Char) (n : Nat) :
    isBoundary cs (boundaryBelow cs n) = true := by
  induction n with
  | zero => cases cs <;> rfl
  | succ n ih =>
    rw [boundaryBelow]
    split
    · assumption
    · exact ih

theorem boundaryBelow_le (cs : List Char) (n : Nat) : boundaryBelow cs n ≤ n := by
  induction n with
  | zero => exact Nat.le_refl 0
  | succ n ih =>
    rw [boundaryBelow]
    split
    · exact Nat.le_refl _
    · exact Nat.le_succ_of_le ih

/-- The search passes no boundary. -/
theorem le_boundaryBelow (hm : isBoundary cs m = true) (hle : m ≤ n) : m ≤ boundaryBelow cs n := by
  induction n with
  | zero => exact hle
  | succ n ih =>
    rw [boundaryBelow]
    split
    · exact hle
    · rename_i hn
      refine ih (Nat.le_of_lt_succ (Nat.lt_of_le_of_ne hle ?_))
      rintro rfl
      exact hn hm

/-! ## The start of a text that fits -/

theorem takeBytes_isPrefixOf (cs : List Char) (n : Nat) : takeBytes cs n <+: cs := by
  induction cs generalizing n with
  | nil => exact List.prefix_rfl
  | cons c cs ih =>
    rw [takeBytes]
    split
    · exact List.cons_prefix_cons.mpr ⟨rfl, ih _⟩
    · exact List.nil_prefix

/-- What is taken up to a boundary ends there. -/
theorem size_takeBytes (h : isBoundary cs n = true) : size (takeBytes cs n) = n := by
  induction cs generalizing n with
  | nil =>
    cases n with
    | zero => rfl
    | succ n => exact nomatch h
  | cons c cs ih =>
    cases n with
    | zero =>
      have hpos := c.utf8Size_pos
      rw [takeBytes, if_neg (by omega), size]
    | succ n =>
      rw [isBoundary, Bool.and_eq_true, decide_eq_true_eq] at h
      rw [takeBytes, if_pos h.1, size, ih h.2]
      omega

/-- A text that does not fit is cut at the boundary that the search finds. -/
theorem size_cut_of_lt (hlong : limit < size cs) :
    size (cut limit cs) = boundaryBelow cs limit := by
  rw [cut, if_neg (Nat.not_le.mpr hlong), size_takeBytes (isBoundary_boundaryBelow cs limit)]

/-- The longest start of a text, in whole characters, that takes no more bytes than a limit. -/
structure LongestStart (limit : Nat) (text kept : String) : Prop where
  start : kept.toList <+: text.toList
  fits : kept.utf8ByteSize ≤ limit
  longest (other : String) (h : other.toList <+: text.toList) (hfits : other.utf8ByteSize ≤ limit) :
    other.toList <+: kept.toList

/-- A cut text is the longest start that fits. -/
theorem longestStart_cut (limit : Nat) (cs : List Char) :
    LongestStart limit (String.ofList cs) (String.ofList (cut limit cs)) := by
  have hsize : ∀ other : String, other.utf8ByteSize = size other.toList := by
    intro other
    rw [size_eq_utf8ByteSize, String.ofList_toList]
  unfold cut
  split
  · rename_i hfits
    refine ⟨List.prefix_rfl, ?_, fun other h _ => h⟩
    rwa [← size_eq_utf8ByteSize]
  · refine ⟨?_, ?_, ?_⟩
    · rw [String.toList_ofList, String.toList_ofList]
      exact takeBytes_isPrefixOf cs _
    · rw [← size_eq_utf8ByteSize, size_takeBytes (isBoundary_boundaryBelow cs limit)]
      exact boundaryBelow_le cs limit
    · intro other h hfits
      rw [String.toList_ofList] at h ⊢
      refine prefix_of_size_le h (takeBytes_isPrefixOf cs _) ?_
      rw [size_takeBytes (isBoundary_boundaryBelow cs limit)]
      exact le_boundaryBelow (isBoundary_iff_exists.mpr ⟨_, h, rfl⟩) (hsize other ▸ hfits)

/-- Nothing is cut from a text that fits. -/
theorem LongestStart.eq_of_fits {text kept : String} (h : LongestStart limit text kept)
    (hfits : text.utf8ByteSize ≤ limit) : kept = text :=
  String.toList_inj.mp
    ((h.longest text List.prefix_rfl hfits).eq_of_length_le h.start.length_le).symm

/-- Of a text that does not fit, three bytes less than the limit are kept at least: the
character after them has at most four. -/
theorem LongestStart.limit_le {text kept : String} (h : LongestStart limit text kept)
    (hlong : limit < text.utf8ByteSize) : limit ≤ kept.utf8ByteSize + 3 := by
  obtain ⟨rest, hrest⟩ := h.start
  cases rest with
  | nil =>
    rw [List.append_nil] at hrest
    rw [String.toList_inj.mp hrest] at h
    exact absurd h.fits (Nat.not_le.mpr hlong)
  | cons c rest =>
    refine Nat.le_of_not_lt fun hshort => ?_
    have hsize : (kept ++ String.singleton c).utf8ByteSize = kept.utf8ByteSize + c.utf8Size := by
      rw [String.utf8ByteSize_append, String.utf8ByteSize_singleton]
    have hlist : (kept ++ String.singleton c).toList = kept.toList ++ [c] := by
      rw [String.toList_append, String.toList_singleton]
    have hstart : kept.toList ++ [c] <+: text.toList := by
      rw [← hrest]
      exact ⟨rest, List.append_assoc kept.toList [c] rest⟩
    have hchar := c.utf8Size_le_four
    -- With the next character the start would still fit.
    have hlength := (h.longest _ (hlist ▸ hstart) (by omega)).length_le
    rw [hlist, List.length_append, List.length_singleton] at hlength
    omega

/-! ## The course of the search -/

/-- The search for a boundary of a text from an offset on, one byte back at a time: it has
passed `steps` offsets that are none, above zero all of them, and stops at a boundary. -/
structure SearchStops (text : String) (offset steps : Nat) : Prop where
  inside : steps ≤ offset
  passed (k : Nat) (h : k < steps) : ¬(⟨offset - k⟩ : String.Pos.Raw).IsValid text
  stops : (⟨offset - steps⟩ : String.Pos.Raw).IsValid text

/-- Within a text that is longer the search stops after three steps at most. -/
theorem searchStops_of_lt (hlong : limit < size cs) :
    ∃ steps, steps ≤ 3 ∧ boundaryBelow cs limit = limit - steps ∧
      SearchStops (String.ofList cs) limit steps := by
  have hle := boundaryBelow_le cs limit
  have hkept : limit ≤ boundaryBelow cs limit + 3 := by
    have h := (longestStart_cut limit cs).limit_le (by rwa [← size_eq_utf8ByteSize])
    rwa [← size_eq_utf8ByteSize, size_cut_of_lt hlong] at h
  refine ⟨limit - boundaryBelow cs limit, by omega, by omega, by omega, ?_, ?_⟩
  · intro k hk hvalid
    have := le_boundaryBelow (isBoundary_iff_isValid.mpr hvalid) (Nat.sub_le limit k)
    omega
  · rw [Nat.sub_sub_self hle]
    exact isBoundary_iff_isValid.mp (isBoundary_boundaryBelow cs limit)

end Shakedown.Text.Utf8
