/-
  Shakedown.Text.Start

  Texts that start with a given one.
-/

namespace Shakedown.Text

/-- What follows a given start of a text. -/
def after? [DecidableEq α] : (start : List α) → List α → Option (List α)
  | [], cs => some cs
  | s :: start, c :: cs => if s = c then after? start cs else none
  | _ :: _, [] => none

end Shakedown.Text
