/-
  Shakedown.Proofs.Token.Scopes

  What is in a set of scopes that was put together from a list.  A set is
  told by what is in it, so the order of the list and its repetitions leave
  no trace.
-/
import Mathlib.Data.List.Sort
import Shakedown.Token.Scopes

namespace Shakedown.Scopes

/-- The set of the names of a list has just these names. -/
theorem mem_ofList (xs : List String) (x : String) : x ∈ (ofList xs).names ↔ x ∈ xs := by
  -- The names are inserted one after the other into what is there already.
  have hplaced : ∀ (ys : List String) (s : Scopes),
      x ∈ (ys.foldl insert s).names ↔ x ∈ s.names ∨ x ∈ ys := by
    intro ys
    induction ys with
    | nil => exact fun s => ⟨Or.inl, fun h => h.resolve_right nofun⟩
    | cons y ys ih =>
      intro s
      have hinsert : x ∈ (s.insert y).names ↔ x = y ∨ x ∈ s.names := mem_place
      rw [List.foldl_cons, ih, hinsert, List.mem_cons]
      tauto
  rw [ofList, hplaced]
  exact ⟨fun h => h.resolve_left nofun, Or.inr⟩

theorem contains_ofList (xs : List String) (x : String) :
    (ofList xs).contains x = xs.contains x := by
  rw [contains, List.contains_eq_mem, List.contains_eq_mem, decide_eq_decide, mem_ofList]

/-- Sets with the same names are equal. -/
theorem eq_of_mem_iff {s t : Scopes} (h : ∀ x, x ∈ s.names ↔ x ∈ t.names) : s = t := by
  obtain ⟨names, hs⟩ := s
  obtain ⟨names', ht⟩ := t
  obtain rfl : names = names' := hs.eq_of_mem_iff ht h
  rfl

/-- Two lists make one set exactly if they have the same members. -/
theorem ofList_eq_ofList_iff {xs ys : List String} :
    ofList xs = ofList ys ↔ ∀ x, x ∈ xs ↔ x ∈ ys := by
  constructor
  · intro h x
    rw [← mem_ofList xs, h, mem_ofList]
  · intro h
    refine eq_of_mem_iff fun x => ?_
    rw [mem_ofList, mem_ofList, h]

end Shakedown.Scopes
