/-
  Shakedown.Net.Punycode

  Domain labels outside ASCII as ASCII text.  The ASCII characters of a label
  come first; each further character, in ascending order, is then told as the
  number of steps since the one before, in digits whose weights adapt to what
  was told so far.
-/

namespace Shakedown.Net.Punycode

/-- The digit of a number below 36. -/
def digit (n : Nat) : Char :=
  if n < 26 then Char.ofNat (97 + n) else Char.ofNat (22 + n)

def threshold (position bias : Nat) : Nat :=
  if position ≤ bias then 1 else if bias + 26 ≤ position then 26 else position - bias

theorem one_le_threshold (position bias : Nat) : 1 ≤ threshold position bias := by
  unfold threshold; split
  · omega
  · split <;> omega

/-- Divides by 35 until at most 455 is left, and counts 36 for each time. -/
def damp (delta count : Nat) : Nat × Nat :=
  if 455 < delta then damp (delta / 35) (count + 36) else (delta, count)
termination_by delta

/-- The bias after a number of steps was told as the `told`-th. -/
def adapt (delta told : Nat) (first : Bool) : Nat :=
  let d := if first then delta / 700 else delta / 2
  let (d, count) := damp (d + d / told) 0
  count + 36 * d / (d + 38)

/-- The digits of a number of steps. -/
def digits (bias position n : Nat) : List Char :=
  let t := threshold position bias
  if n < t then [digit n]
  else digit (t + (n - t) % (36 - t)) :: digits bias (position + 36) ((n - t) / (36 - t))
termination_by n
decreasing_by
  have h := one_le_threshold position bias
  have := Nat.div_le_self (n - threshold position bias) (36 - threshold position bias)
  omega

/-! ## Writing -/

/-- How far a label has been told. -/
structure Progress where
  text : List Char := []
  delta : Nat := 0
  bias : Nat := 72
  told : Nat

/-- Looks at one character of the label while those equal to `current` are told. -/
def see (basic current : Nat) (p : Progress) (c : Char) : Progress :=
  if c.toNat < current then { p with delta := p.delta + 1 }
  else if c.toNat = current then
    { text := p.text ++ digits p.bias 36 p.delta
      delta := 0
      bias := adapt p.delta (p.told + 1) (p.told == basic)
      told := p.told + 1 }
  else p

/-- Tells the characters of a label that have the given codes, from the lowest on;
`next` is the code after the last one told. -/
def tell (label : List Char) (basic : Nat) : (codes : List Nat) → (next : Nat) → Progress → Progress
  | [], _, p => p
  | code :: rest, next, p =>
    -- Every code in between passes all places of the text told so far.
    let p := { p with delta := p.delta + (code - next) * (p.told + 1) }
    let p := label.foldl (see basic code) p
    tell label basic rest (code + 1) { p with delta := p.delta + 1 }

/-- Inserts a code into ascending ones unless it is among them. -/
def insertCode (n : Nat) : List Nat → List Nat
  | [] => [n]
  | m :: rest =>
    if n < m then n :: m :: rest else if n = m then m :: rest else m :: insertCode n rest

/-- A label as ASCII text, without the mark that stands in front of it. -/
def encode (label : List Char) : List Char :=
  let basic := label.filter fun c => c.toNat < 128
  let codes := ((label.filter fun c => 128 ≤ c.toNat).map Char.toNat).foldr insertCode []
  let told := tell label basic.length codes 128 { told := basic.length }
  basic ++ (if basic.isEmpty then [] else ['-']) ++ told.text

/-! ## Reading -/

/-- The number below 36 of a digit. -/
def value? (c : Char) : Option Nat :=
  if 'a' ≤ c && c ≤ 'z' then some (c.toNat - 97)
  else if 'A' ≤ c && c ≤ 'Z' then some (c.toNat - 65)
  else if '0' ≤ c && c ≤ '9' then some (c.toNat - 22)
  else none

/-- The number of steps that digits tell, and what follows them.  A digit at its
threshold or above is followed by another one. -/
def steps? (bias : Nat) : (position weight total : Nat) → List Char → Option (Nat × List Char)
  | _, _, _, [] => none
  | position, weight, total, c :: cs => do
    let d ← value? c
    let t := threshold position bias
    let total := total + d * weight
    if d < t then some (total, cs)
    else steps? bias (position + 36) (weight * (36 - t)) total cs

/-- Digits that tell a number of steps are used up. -/
theorem length_lt_of_steps? {bias : Nat} {cs rest : List Char} {n : Nat} :
    ∀ {position weight total : Nat},
      steps? bias position weight total cs = some (n, rest) → rest.length < cs.length := by
  induction cs with
  | nil => intro position weight total h; cases h
  | cons c cs ih =>
    intro position weight total h
    rw [steps?] at h
    obtain ⟨d, -, h⟩ := Option.bind_eq_some_iff.mp h
    dsimp only at h
    split at h
    · cases h
      exact Nat.lt_succ_self _
    · exact Nat.lt_succ_of_lt (ih h)

/-- Inserts the characters that digits tell into a text, the next of them at or after a
place and a code. -/
def insertTold? (text : List Char) (place code bias : Nat) (first : Bool) (cs : List Char) :
    Option (List Char) :=
  match h : steps? bias 36 1 0 cs with
  | none => if cs.isEmpty then some text else none
  | some (steps, rest) =>
    let places := text.length + 1
    -- The steps run through all places for one code, then for the next.
    let next := code + (place + steps) / places
    let at_ := (place + steps) % places
    if 0x10FFFF < next || (0xD800 ≤ next && next ≤ 0xDFFF) then none
    else
      insertTold? (text.take at_ ++ Char.ofNat next :: text.drop at_) (at_ + 1) next
        (adapt steps places first) false rest
termination_by cs.length
decreasing_by exact length_lt_of_steps? h

/-- The label of an ASCII text, the mark in front of it left out. -/
def decode? (cs : List Char) : Option (List Char) :=
  let told := (cs.reverse.takeWhile (· ≠ '-')).reverse
  let basic := (cs.take (cs.length - told.length)).dropLast
  insertTold? basic 0 128 72 true told

end Shakedown.Net.Punycode
