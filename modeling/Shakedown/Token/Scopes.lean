/-
  Shakedown.Token.Scopes

  Sets of scope names, kept as a list in rising order of code points, which is
  also the order of their bytes.  Two sets with the same names are equal.
-/

namespace Shakedown

/-- A set of scope names. -/
structure Scopes where
  names : List String
  sorted : names.Pairwise (· < ·)
deriving DecidableEq

namespace Scopes

instance : Repr Scopes := ⟨fun s _ => repr s.names⟩

/-- Puts a name into a rising list, unless it is there. -/
def place (x : String) : List String → List String
  | [] => [x]
  | y :: ys =>
    if x < y then x :: y :: ys
    else if x = y then y :: ys
    else y :: place x ys

theorem mem_place {x z : String} {ys : List String} : z ∈ place x ys ↔ z = x ∨ z ∈ ys := by
  induction ys with
  | nil => simp [place]
  | cons y ys ih =>
    unfold place
    split
    · simp
    · split
      · rename_i h
        subst h
        simp
      · simp only [List.mem_cons, ih]
        constructor
        · rintro (h | h | h) <;> simp [h]
        · rintro (h | h | h) <;> simp [h]

theorem pairwise_place {x : String} {ys : List String} (h : ys.Pairwise (· < ·)) :
    (place x ys).Pairwise (· < ·) := by
  induction ys with
  | nil => simp [place]
  | cons y ys ih =>
    unfold place
    have hy : ∀ z ∈ ys, y < z := (List.pairwise_cons.1 h).1
    split
    · rename_i hx
      refine List.pairwise_cons.2 ⟨fun z hz => ?_, h⟩
      rcases List.mem_cons.1 hz with rfl | hz
      · exact hx
      · exact String.lt_trans hx (hy z hz)
    · split
      · exact h
      · rename_i hx hne
        refine List.pairwise_cons.2 ⟨fun z hz => ?_, ih (List.pairwise_cons.1 h).2⟩
        rcases mem_place.1 hz with rfl | hz
        · refine Decidable.byContradiction fun hlt => hne ?_
          exact String.le_antisymm (String.not_lt.1 hlt) (String.not_lt.1 hx)
        · exact hy z hz

/-- No names. -/
def empty : Scopes := ⟨[], .nil⟩

/-- The set with one more name. -/
def insert (s : Scopes) (x : String) : Scopes :=
  ⟨place x s.names, pairwise_place s.sorted⟩

/-- The names of a list as a set. -/
def ofList (xs : List String) : Scopes :=
  xs.foldl insert empty

/-- Whether a name is in a set. -/
def contains (s : Scopes) (x : String) : Bool :=
  s.names.contains x

end Scopes

end Shakedown
