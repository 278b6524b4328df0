/-
  Shakedown.Proofs.CommandLine.Words

  The arguments of a command one by one: which of them name an option, with or
  without a value attached, and which can only be the value of the option
  before them.
-/
import Mathlib.Data.List.TakeWhile
import Shakedown.CommandLine.Grammar

namespace Shakedown.CommandLine

variable {arg name raw : String}

/-! ## Options -/

/-- A name that an option can be told by: it holds no mark of equality, and there is something
of it. -/
structure Nameable (name : String) : Prop where
  nonempty : name ≠ ""
  unmarked : '=' ∉ name.toList

theorem Nameable.ne_mark (h : Nameable name) {c : Char} (hc : c ∈ name.toList) :
    decide (c ≠ '=') = true :=
  decide_eq_true fun heq => h.unmarked (heq ▸ hc)

theorem Nameable.exists_cons (h : Nameable name) : ∃ c cs, name.toList = c :: cs := by
  refine List.exists_cons_of_ne_nil fun hnil => h.nonempty ?_
  rw [← String.ofList_toList (s := name), hnil]

theorem toList_dashes_append (s : String) : ("--" ++ s).toList = '-' :: '-' :: s.toList := by
  rw [String.toList_append]
  rfl

theorem toList_attached (name raw : String) :
    ("--" ++ name ++ "=" ++ raw).toList = '-' :: '-' :: (name.toList ++ '=' :: raw.toList) := by
  rw [String.toList_append, String.toList_append, toList_dashes_append, List.append_assoc]
  rfl

theorem long?_of_toList {c : Char} {cs : List Char} (h : arg.toList = '-' :: '-' :: c :: cs) :
    long? arg = match (c :: cs).dropWhile (· ≠ '=') with
      | _ :: value =>
        some (String.ofList ((c :: cs).takeWhile (· ≠ '=')), some (String.ofList value))
      | [] => some (String.ofList ((c :: cs).takeWhile (· ≠ '=')), none) := by
  unfold long?
  split
  · rename_i c' cs' heq
    rw [h] at heq
    simp only [List.cons.injEq, true_and] at heq
    obtain ⟨rfl, rfl⟩ := heq
    rfl
  · rename_i hno
    exact absurd h (hno c cs)

/-- Two dashes and a name are an option without a value. -/
theorem long?_name (h : Nameable name) : long? ("--" ++ name) = some (name, none) := by
  obtain ⟨c, cs, hname⟩ := h.exists_cons
  have hunmarked : ∀ d ∈ c :: cs, decide (d ≠ '=') = true := fun d hd => h.ne_mark (hname ▸ hd)
  rw [long?_of_toList ((toList_dashes_append name).trans (by rw [hname])),
    List.dropWhile_eq_nil_iff.mpr hunmarked, List.takeWhile_eq_self_iff.mpr hunmarked]
  dsimp only
  rw [← hname, String.ofList_toList]

/-- With a mark of equality what follows is its value. -/
theorem long?_attached (h : Nameable name) (raw : String) :
    long? ("--" ++ name ++ "=" ++ raw) = some (name, some raw) := by
  obtain ⟨c, cs, hname⟩ := h.exists_cons
  have hunmarked : ∀ d ∈ name.toList, decide (d ≠ '=') = true := fun d hd => h.ne_mark hd
  have hdrop : (name.toList ++ '=' :: raw.toList).dropWhile (· ≠ '=') = '=' :: raw.toList := by
    rw [List.dropWhile_append_of_pos hunmarked]
    rfl
  have htake : (name.toList ++ '=' :: raw.toList).takeWhile (· ≠ '=') = name.toList := by
    rw [List.takeWhile_append_of_pos hunmarked]
    exact List.append_nil _
  have hchars : ("--" ++ name ++ "=" ++ raw).toList =
      '-' :: '-' :: c :: (cs ++ '=' :: raw.toList) := by
    rw [toList_attached, hname, List.cons_append]
  rw [long?_of_toList hchars, ← List.cons_append, ← hname, hdrop, htake]
  dsimp only
  rw [String.ofList_toList, String.ofList_toList]

theorem ne_mark_of_long? {attached : Option String} (h : long? arg = some (name, attached)) :
    arg ≠ "--" := by
  rintro rfl
  exact nomatch h

/-- An option without a value is two dashes and its name. -/
theorem eq_of_long?_name (h : long? arg = some (name, none)) : arg = "--" ++ name := by
  unfold long? at h
  split at h
  · rename_i c cs hchars
    have hsplit := List.takeWhile_append_dropWhile (p := (· ≠ '=')) (l := c :: cs)
    split at h
    · simp at h
    · rename_i hnil
      simp only [Option.some.injEq, Prod.mk.injEq, and_true] at h
      rw [hnil, List.append_nil] at hsplit
      rw [← String.toList_inj, toList_dashes_append, ← h, String.toList_ofList, hsplit, hchars]
  · exact nomatch h

theorem eq_of_long?_attached (h : long? arg = some (name, some raw)) :
    arg = "--" ++ name ++ "=" ++ raw := by
  unfold long? at h
  split at h
  · rename_i c cs hchars
    have hsplit := List.takeWhile_append_dropWhile (p := (· ≠ '=')) (l := c :: cs)
    split at h
    · rename_i mark value hcons
      simp only [Option.some.injEq, Prod.mk.injEq] at h
      -- The part that is dropped starts with the mark.
      have hmark : mark = '=' := by
        have hhead := List.head?_dropWhile_not (· ≠ '=') (c :: cs)
        rw [hcons] at hhead
        simpa using hhead
      rw [hcons, hmark] at hsplit
      rw [← String.toList_inj, toList_attached, ← h.1, ← h.2, String.toList_ofList,
        String.toList_ofList, hsplit, hchars]
    · simp at h
  · exact nomatch h

/-! ## Values -/

/-- A value in an argument of its own: it does not start with a dash, or is one. -/
def IsWord (raw : String) : Prop :=
  raw = "-" ∨ raw.toList.head? ≠ some '-'

/-- A value is what is neither the end of the options nor an option nor a row of letters. -/
theorem isWord_iff : IsWord arg ↔ arg ≠ "--" ∧ long? arg = none ∧ short? arg = none := by
  have hdash : arg = "-" ↔ arg.toList = ['-'] := String.toList_inj.symm
  have hdashes : arg ≠ "--" ↔ arg.toList ≠ ['-', '-'] := not_congr String.toList_inj.symm
  rw [IsWord, hdash, hdashes, long?, short?]
  generalize arg.toList = cs
  match cs with
  | [] => simp
  | [c] => by_cases h : c = '-' <;> simp [h]
  | [c, d] => by_cases h : c = '-' <;> by_cases h' : d = '-' <;> simp [h, h']
  | c :: d :: e :: cs =>
    by_cases h : c = '-'
    · subst h
      by_cases h' : d = '-'
      · subst h'
        simp only [List.head?_cons]
        split <;> simp
      · simp [h']
    · simp [h]

end Shakedown.CommandLine
