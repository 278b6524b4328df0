/-
  Shakedown.Text.Replace

  Replacing every occurrence of a text in another, from left to right.
-/

namespace Shakedown.Text

/-- Every occurrence of `old`, which is not empty, replaced by `new`. -/
def replaceChars (old new : List Char) : List Char → List Char
  | [] => []
  | c :: rest =>
    if old.isPrefixOf (c :: rest) then
      new ++ replaceChars old new (rest.drop (old.length - 1))
    else c :: replaceChars old new rest
termination_by cs => cs.length
decreasing_by
  · rw [List.length_cons, List.length_drop]
    omega
  · exact Nat.lt_succ_self _

/-- `replaceChars` on strings; an empty text is nowhere replaced. -/
def replace (old new s : String) : String :=
  if old.isEmpty then s
  else String.ofList (replaceChars old.toList new.toList s.toList)

end Shakedown.Text
