/-
  Shakedown.Proofs.Path

  Joining paths, seen through their components: a relative right side adds
  its names to those of the left side, however many slashes there are where
  the two meet, and an absolute one replaces it.
-/
import Shakedown.Path

namespace Shakedown.Path

/-! ## Components of a text -/

/-- The components of a text: what stands between its slashes and is neither empty nor
`.`. -/
def segments (cs : List Char) : List (List Char) :=
  (cs.splitOn '/').filter fun piece => !piece.isEmpty && piece != ['.']

theorem names_eq (p : Path) : p.names = (segments p.text.toList).map String.ofList := rfl

/-- A slash stands between components and belongs to none. -/
theorem segments_append_slash (xs ys : List Char) :
    segments (xs ++ '/' :: ys) = segments xs ++ segments ys := by
  rw [segments, List.splitOn_append_cons_self, List.filter_append]
  rfl

/-- A slash at the end adds no component. -/
theorem segments_snoc_slash (xs : List Char) : segments (xs ++ ['/']) = segments xs := by
  rw [segments_append_slash]
  exact List.append_nil _

/-! ## Joining -/

theorem joinChars_of_absolute {left right : List Char} (h : right.head? = some '/') :
    joinChars left right = right := by
  rw [joinChars, if_pos]
  rw [h]
  rfl

theorem joinChars_nil (right : List Char) : joinChars [] right = right := by
  rw [joinChars, if_pos]
  exact Bool.or_true _

/-- After a slash, a relative right side simply follows. -/
theorem joinChars_snoc_slash {right : List Char} (h : right.head? ≠ some '/')
    (left : List Char) : joinChars (left ++ ['/']) right = left ++ '/' :: right := by
  rw [joinChars, if_neg, if_pos]
  · rw [List.append_assoc, List.singleton_append]
  · exact List.getLast?_concat
  · simp [h]

/-- Otherwise a slash is put between. -/
theorem joinChars_of_open {left right : List Char} (h : right.head? ≠ some '/')
    (hne : left ≠ []) (hopen : left.getLast? ≠ some '/') :
    joinChars left right = left ++ '/' :: right := by
  rw [joinChars, if_neg, if_neg hopen]
  simp [h, hne]

/-- The components of a joint text are those of both sides. -/
theorem segments_joinChars {left right : List Char} (h : right.head? ≠ some '/') :
    segments (joinChars left right) = segments left ++ segments right := by
  by_cases hne : left = []
  · rw [hne, joinChars_nil]
    rfl
  · by_cases hlast : left.getLast? = some '/'
    -- The slash that is there already makes an empty piece on the left, which is no component.
    · obtain ⟨init, rfl⟩ := List.getLast?_eq_some_iff.mp hlast
      rw [joinChars_snoc_slash h, segments_append_slash, segments_snoc_slash]
    · rw [joinChars_of_open h hne hlast, segments_append_slash]

theorem head?_joinChars {left right : List Char} (h : right.head? ≠ some '/')
    (hne : left ≠ []) : (joinChars left right).head? = left.head? := by
  obtain ⟨c, cs, rfl⟩ := List.exists_cons_of_ne_nil hne
  by_cases hlast : (c :: cs).getLast? = some '/'
  · obtain ⟨init, hinit⟩ := List.getLast?_eq_some_iff.mp hlast
    rw [hinit, joinChars_snoc_slash h]
    cases init with
    | nil => rfl
    | cons d ds => rfl
  · rw [joinChars_of_open h hne hlast]
    rfl

/-! ## Joining paths -/

theorem toList_join (a b : Path) :
    (a.join b).text.toList = joinChars a.text.toList b.text.toList :=
  String.toList_ofList

theorem head?_of_isAbsolute {p : Path} (h : p.isAbsolute = true) :
    p.text.toList.head? = some '/' :=
  eq_of_beq h

theorem head?_of_relative {p : Path} (h : p.isAbsolute = false) :
    p.text.toList.head? ≠ some '/' :=
  ne_of_beq_false h

/-- An absolute path is where it is, from wherever it is seen. -/
theorem join_of_absolute {b : Path} (h : b.isAbsolute = true) (a : Path) : a.join b = b := by
  rw [join, joinChars_of_absolute (head?_of_isAbsolute h), String.ofList_toList]

theorem names_join {b : Path} (h : b.isAbsolute = false) (a : Path) :
    (a.join b).names = a.names ++ b.names := by
  rw [names_eq, toList_join, segments_joinChars (head?_of_relative h), List.map_append]
  rfl

/-- Below a directory a relative path is absolute exactly if the directory is. -/
theorem isAbsolute_join_of_relative {b : Path} (hb : b.isAbsolute = false) (a : Path) :
    (a.join b).isAbsolute = a.isAbsolute := by
  rw [isAbsolute, toList_join, isAbsolute]
  by_cases hne : a.text.toList = []
  · rw [hne, joinChars_nil]
    exact hb
  · rw [head?_joinChars (head?_of_relative hb) hne]

theorem isAbsolute_join {a : Path} (ha : a.isAbsolute = true) (b : Path) :
    (a.join b).isAbsolute = true := by
  cases hb : b.isAbsolute with
  | true => rw [join_of_absolute hb, hb]
  | false => rw [isAbsolute_join_of_relative hb, ha]

/-- Seen from two directories, a path is at one location if it is absolute, or if
the directories are. -/
theorem parts_join_eq_iff {a a' : Path} (ha : a.isAbsolute = true) (ha' : a'.isAbsolute = true)
    (p : Path) :
    (a.join p).parts = (a'.join p).parts ↔ p.isAbsolute = true ∨ a.parts = a'.parts := by
  cases hp : p.isAbsolute with
  | true =>
    rw [join_of_absolute hp, join_of_absolute hp]
    exact iff_of_true rfl (Or.inl rfl)
  | false =>
    have hparts : ∀ {d : Path}, d.isAbsolute = true →
        (d.join p).parts = (true, d.names ++ p.names) := by
      intro d hd
      rw [parts, isAbsolute_join hd, names_join hp]
    rw [hparts ha, hparts ha', parts, parts, ha, ha']
    -- The names of the path itself are the same on both sides and can be taken off.
    constructor
    · intro h
      have hnames := List.append_cancel_right (Prod.mk.inj h).2
      exact Or.inr (by rw [hnames])
    · rintro (h | h)
      · exact nomatch h
      · rw [(Prod.mk.inj h).2]

end Shakedown.Path
