/-
  Shakedown.Proofs.Json.Text

  A document that was written reads back.  The documents that the harness and
  an agent write are plain: nothing in them is a decimal, and every text in
  them spells something.  Each reader takes just what was written and leaves
  what follows, so the readers are put together as the document is.
-/
import Mathlib.Data.List.Forall2
import Mathlib.Data.List.TakeWhile
import Mathlib.Tactic.SplitIfs
import Shakedown.Json.Reader
import Shakedown.Json.Writer
import Shakedown.Proofs.Text.Utf8

namespace Shakedown.Json

open Text

/-! ## Plain documents -/

/-- A document without decimals and garbled texts. -/
inductive Plain : Json → Prop where
  | null : Plain .null
  | bool (b : Bool) : Plain (.bool b)
  | integer (i : Int) : Plain (.integer i)
  | string (s : String) : Plain (.string s)
  | array {items : List Json} (h : ∀ j ∈ items, Plain j) : Plain (.array items)
  | object {members : List (String × Json)} (h : ∀ m ∈ members, Plain m.2) :
      Plain (.object members)

/-- What may follow a value: nothing, or what goes on with an array or an object. -/
def Stops (rest : List (Option Char)) : Prop :=
  ∀ c, rest.head? = some c → c = some ',' ∨ c = some ']' ∨ c = some '\x7d'

theorem stops_nil : Stops [] := nofun

theorem stops_cons {c : Char} (h : c = ',' ∨ c = ']' ∨ c = '\x7d') (rest : List (Option Char)) :
    Stops (some c :: rest) := by
  intro d hd
  obtain rfl := Option.some.inj hd
  rcases h with rfl | rfl | rfl
  · exact Or.inl rfl
  · exact Or.inr (Or.inl rfl)
  · exact Or.inr (Or.inr rfl)

/-- A document is read from its text, whatever follows, with no more nested steps than
the text has characters. -/
def Reads (j : Json) : Prop :=
  ∀ fuel rest, j.text.toList.length ≤ fuel → Stops rest →
    value? fuel (j.text.toList.map some ++ rest) = some (j, rest)

theorem skipSpace_cons {c : Char} (h : isSpace c = false) (cs : List (Option Char)) :
    skipSpace (some c :: cs) = some c :: cs :=
  List.dropWhile_cons_of_neg (by rw [Option.any_some, h]; exact Bool.false_ne_true)

/-! ## Words -/

theorem reads_null : Reads .null := by
  intro fuel rest hfuel _
  obtain ⟨fuel, rfl⟩ := Nat.exists_eq_add_of_le' (Nat.le_trans (by decide : 1 ≤ 4) hfuel)
  rfl

theorem reads_bool (b : Bool) : Reads (.bool b) := by
  intro fuel rest hfuel _
  cases b with
  | true =>
    obtain ⟨fuel, rfl⟩ := Nat.exists_eq_add_of_le' (Nat.le_trans (by decide : 1 ≤ 4) hfuel)
    rfl
  | false =>
    obtain ⟨fuel, rfl⟩ := Nat.exists_eq_add_of_le' (Nat.le_trans (by decide : 1 ≤ 5) hfuel)
    rfl

/-! ## Numbers -/

/-- The first digit of a number, which is zero only for zero. -/
theorem digits_eq_cons (n : Nat) :
    ∃ c cs, Decimal.digits n = c :: cs ∧ (c = '0' → n = 0 ∧ cs = []) := by
  -- The digits before the last one are those of a tenth.
  induction n using Nat.strongRecOn with
  | _ n ih =>
    by_cases hn : n < 10
    · refine ⟨Decimal.digit n, [], ?_, fun hc => ⟨?_, rfl⟩⟩
      · rw [Decimal.digits, if_pos hn]
      · rw [← Decimal.value_digit hn, hc]
        rfl
    · obtain ⟨c, cs, hdigits, hzero⟩ := ih (n / 10) (by omega)
      refine ⟨c, cs ++ [Decimal.digit (n % 10)], ?_, fun hc => ?_⟩
      · rw [Decimal.digits, if_neg hn, hdigits, List.cons_append]
      · have hn' := (hzero hc).1
        omega

/-- All the digits of a natural number are read. -/
theorem integerPart?_digits (n : Nat) :
    integerPart? (Decimal.digits n) = some (Decimal.digits n, []) := by
  have hall : ∀ c ∈ Decimal.digits n, Decimal.isDigit c = true :=
    List.all_eq_true.mp (Decimal.all_isDigit_digits n)
  have hmany : digits? (Decimal.digits n) = some (Decimal.digits n, []) := by
    rw [digits?, List.takeWhile_eq_self_iff.mpr hall, List.dropWhile_eq_nil_iff.mpr hall]
    exact if_neg (by simpa using Decimal.digits_ne_nil n)
  obtain ⟨c, cs, hdigits, hzero⟩ := digits_eq_cons n
  -- A leading zero ends the number, so it may only be that of zero.
  by_cases hc : c = '0'
  · obtain ⟨-, rfl⟩ := hzero hc
    rw [hdigits, hc]
    rfl
  · rw [hdigits] at hmany ⊢
    unfold integerPart?
    split
    · rename_i heq
      exact absurd (List.cons.inj heq).1 hc
    · exact hmany

theorem number?_nonneg (n : Nat) : number? (Decimal.digits n) = some (.integer n, []) := by
  have hpart := integerPart?_digits n
  obtain ⟨c, cs, hdigits, -⟩ := digits_eq_cons n
  have hdigit : Decimal.isDigit c = true :=
    List.all_eq_true.mp (Decimal.all_isDigit_digits n) c (hdigits ▸ List.mem_cons_self)
  have hacc := Decimal.accumulate_digits n
  rw [hdigits] at hacc hpart ⊢
  unfold number?
  split
  rename_i heq
  split at heq
  · rename_i heq'
    obtain rfl := (List.cons.inj heq').1
    exact absurd hdigit (by decide)
  · obtain ⟨rfl, rfl⟩ := Prod.mk.inj heq
    simp only [hpart, fractionPart?, exponentPart?, Option.bind_eq_bind, Option.bind_some, hacc]
    rfl

theorem number?_neg (n : Nat) :
    number? ('-' :: Decimal.digits (n + 1)) = some (.integer (Int.negSucc n), []) := by
  have hzero : (n + 1 == 0) = false := rfl
  simp only [number?, integerPart?_digits (n + 1), fractionPart?, exponentPart?,
    Option.bind_eq_bind, Option.bind_some, Decimal.accumulate_digits (n + 1), hzero]
  rfl

theorem not_isNumberChar_of_stops {rest : List (Option Char)} (h : Stops rest) :
    ∀ c, rest.head? = some c → c.any isNumberChar = false := by
  intro c hc
  rcases h c hc with rfl | rfl | rfl <;> decide

/-- A number ends where a character follows that no number holds. -/
theorem leadingNumber?_of_stops {cs : List Char} {j : Json} {rest : List (Option Char)}
    (hcs : ∀ c ∈ cs, isNumberChar c = true) (hrest : Stops rest)
    (h : number? cs = some (j, [])) : leadingNumber? (cs.map some ++ rest) = some (j, rest) := by
  have hall : ∀ c ∈ cs.map some, Option.any isNumberChar c = true := by
    intro c hc
    obtain ⟨d, hd, rfl⟩ := List.mem_map.mp hc
    exact hcs d hd
  have hrun : (cs.map some ++ rest).takeWhile (·.any isNumberChar) = cs.map some := by
    rw [List.takeWhile_append_of_pos hall]
    cases rest with
    | nil => exact List.append_nil _
    | cons c rest =>
      have hc := not_isNumberChar_of_stops hrest c rfl
      rw [List.takeWhile_cons_of_neg (by rw [hc]; exact Bool.false_ne_true), List.append_nil]
  have hchars : (cs.map some).filterMap id = cs := by
    rw [List.filterMap_map]
    exact List.filterMap_some
  have hleft : (cs.map some ++ rest).drop (cs.map some).length = rest := List.drop_left
  unfold leadingNumber?
  rw [hrun]
  dsimp only
  rw [hchars, h]
  dsimp only
  rw [hleft]

theorem isNumberChar_of_digit {c : Char} (h : Decimal.isDigit c = true) : isNumberChar c = true := by
  rw [isNumberChar, h, Bool.true_or]

/-- A text that starts as a number is read as one. -/
theorem value?_of_number {c : Char} (h : c = '-' ∨ Decimal.isDigit c = true) (fuel : Nat)
    (cs : List (Option Char)) :
    value? (fuel + 1) (some c :: cs) = leadingNumber? (some c :: cs) := by
  have hspace : isSpace c = false := by
    rcases h with rfl | h
    · rfl
    · simp only [Decimal.isDigit, Bool.and_eq_true, decide_eq_true_eq] at h
      simp only [isSpace, Bool.or_eq_false_iff, decide_eq_false_iff_not]
      refine ⟨⟨⟨?_, ?_⟩, ?_⟩, ?_⟩ <;> rintro rfl <;> exact absurd h.1 (by decide)
  rw [value?, skipSpace_cons hspace]
  -- No other kind of value starts with such a character.
  split
  all_goals first
    | rfl
    | (rename_i heq
       obtain rfl := Option.some.inj (List.cons.inj heq).1
       rcases h with h | h
       · exact absurd h (by decide)
       · exact absurd h (by decide))

theorem reads_integer (i : Int) : Reads (.integer i) := by
  intro fuel rest hfuel hrest
  cases i with
  | ofNat n =>
    have htext : (text (.integer (.ofNat n))).toList = Decimal.digits n := by
      rw [text, Decimal.signedText, Decimal.text, String.toList_ofList]
    have hall : ∀ c ∈ Decimal.digits n, isNumberChar c = true := fun c hc =>
      isNumberChar_of_digit (List.all_eq_true.mp (Decimal.all_isDigit_digits n) c hc)
    obtain ⟨c, cs, hdigits, -⟩ := digits_eq_cons n
    have hdigit : Decimal.isDigit c = true :=
      List.all_eq_true.mp (Decimal.all_isDigit_digits n) c (hdigits ▸ List.mem_cons_self)
    rw [htext] at hfuel ⊢
    have hnumber := leadingNumber?_of_stops hall hrest (number?_nonneg n)
    rw [hdigits] at hfuel hnumber ⊢
    obtain ⟨fuel, rfl⟩ := Nat.exists_eq_add_of_le' (Nat.le_trans (Nat.le_add_left 1 _) hfuel)
    rw [List.map_cons, List.cons_append] at hnumber ⊢
    rw [value?_of_number (Or.inr hdigit), hnumber]
    rfl
  | negSucc n =>
    have htext : (text (.integer (.negSucc n))).toList = '-' :: Decimal.digits (n + 1) := by
      rw [text, Decimal.signedText, Decimal.text, String.toList_append, String.toList_ofList,
        String.toList_ofList, List.singleton_append]
    have hall : ∀ c ∈ '-' :: Decimal.digits (n + 1), isNumberChar c = true := by
      refine List.forall_mem_cons.mpr ⟨by decide, fun c hc => ?_⟩
      exact isNumberChar_of_digit (List.all_eq_true.mp (Decimal.all_isDigit_digits (n + 1)) c hc)
    rw [htext] at hfuel ⊢
    have hnumber := leadingNumber?_of_stops hall hrest (number?_neg n)
    obtain ⟨fuel, rfl⟩ := Nat.exists_eq_add_of_le' (Nat.le_trans (Nat.le_add_left 1 _) hfuel)
    rw [List.map_cons, List.cons_append] at hnumber ⊢
    rw [value?_of_number (Or.inl rfl), hnumber]

/-! ## Strings -/

/-- A piece spells a character: as itself, or as the unit of an escape. -/
inductive Spells : Piece → Char → Prop where
  | char (c : Char) : Spells (.char c) c
  | unit {c : Char} (h : c.toNat < 32) : Spells (.unit c.toNat) c

theorem assemble?_unit {n : Nat} (h : n < 0xD800) (ps : List Piece) :
    assemble? (.unit n :: ps) = (assemble? ps).map (Char.ofNat n :: ·) := by
  have hlow : (decide (0xD800 ≤ n) && decide (n ≤ 0xDFFF)) = false := by
    simp only [Bool.and_eq_false_iff, decide_eq_false_iff_not]
    omega
  have hhigh : (decide (0xD800 ≤ n) && decide (n ≤ 0xDBFF)) = false := by
    simp only [Bool.and_eq_false_iff, decide_eq_false_iff_not]
    omega
  have hhalf : (decide (0xDC00 ≤ n) && decide (n ≤ 0xDFFF)) = false := by
    simp only [Bool.and_eq_false_iff, decide_eq_false_iff_not]
    omega
  rcases ps with _ | ⟨c | m | _, ps⟩
  · simp only [assemble?, hlow, Bool.false_eq_true, if_false, Option.map_some]
  · simp only [assemble?, hlow, Bool.false_eq_true, if_false, Option.map_map]
    rfl
  · simp only [assemble?.eq_7, hhigh, hhalf, Bool.false_eq_true, if_false]
  · simp only [assemble?, Option.map_none]

/-- Pieces make up the text they spell. -/
theorem assemble?_of_spells {ps : List Piece} {cs : List Char} (h : List.Forall₂ Spells ps cs) :
    assemble? ps = some cs := by
  induction h with
  | nil => rfl
  | cons hp _ ih =>
    cases hp with
    | char c => rw [assemble?, ih, Option.map_some]
    | @unit c hc =>
      rw [assemble?_unit (by omega), ih, Option.map_some, Char.ofNat_toNat]

/-- An escape of one letter. -/
theorem pieces?_letter {e d : Char} (he : e ≠ 'u') (hd : escaped? e = some d)
    (rest : List (Option Char)) :
    pieces? (some '\\' :: some e :: rest) =
      (pieces? rest).map fun x => (.char d :: x.1, x.2) := by
  rw [pieces?]
  · rw [hd]
    cases pieces? rest <;> rfl
  · rintro a b c d rest - hu
    exact he hu

/-- A character that stands for itself. -/
theorem pieces?_plain {c : Char} (hquote : c ≠ '"') (hslash : c ≠ '\\') (hcontrol : 32 ≤ c.toNat)
    (rest : List (Option Char)) :
    pieces? (some c :: rest) = (pieces? rest).map fun x => (.char c :: x.1, x.2) := by
  have hok : (decide (c.toNat < 32) || decide (c = '\\')) = false := by
    simp only [Bool.or_eq_false_iff, decide_eq_false_iff_not]
    exact ⟨Nat.not_lt.mpr hcontrol, hslash⟩
  rw [pieces?]
  · rw [hok]
    cases pieces? rest <;> rfl
  · exact hquote
  · rintro a b c d rest - h
    exact hslash h
  · rintro e rest - h
    exact hslash h

/-- A control that has no letter. -/
theorem pieces?_control {c : Char} (h : c.toNat < 32) (rest : List (Option Char)) :
    pieces? (some '\\' :: some 'u' :: ((Hex.padded 4 c.toNat).map some ++ rest)) =
      (pieces? rest).map fun x => (.unit c.toNat :: x.1, x.2) := by
  have hvalue : Hex.accumulate? 0 (Hex.padded 4 c.toNat) = some c.toNat := by
    rw [Hex.accumulate?_padded]
    have hmod : c.toNat % Nat.pow 16 4 = c.toNat := Nat.mod_eq_of_lt (by show _ < 65536; omega)
    rw [hmod, Nat.zero_mul, Nat.zero_add]
  have hdigits : Hex.padded 4 c.toNat =
      [Hex.digit (c.toNat / 16 / 16 / 16 % 16), Hex.digit (c.toNat / 16 / 16 % 16),
        Hex.digit (c.toNat / 16 % 16), Hex.digit (c.toNat % 16)] := rfl
  rw [hdigits] at hvalue ⊢
  simp only [List.map_cons, List.map_nil, List.cons_append, List.nil_append]
  rw [pieces?, hvalue]
  cases pieces? rest <;> rfl

/-- One character of a string literal. -/
theorem pieces?_escapeChar (c : Char) :
    ∃ p, Spells p c ∧ ∀ rest, pieces? ((escapeChar c).map some ++ rest) =
      (pieces? rest).map fun x => (p :: x.1, x.2) := by
  have hcode : ∀ {n : Nat} {d : Char}, c.toNat = n → Char.ofNat n = d → d = c := by
    rintro n d rfl rfl
    exact Char.ofNat_toNat c
  unfold escapeChar
  -- The escapes in the order in which they are tried.
  split_ifs with hquote hslash hline hreturn htab hback hfeed hcontrol
  · subst hquote
    exact ⟨_, .char _, pieces?_letter (by decide) rfl⟩
  · subst hslash
    exact ⟨_, .char _, pieces?_letter (by decide) rfl⟩
  · subst hline
    exact ⟨_, .char _, pieces?_letter (by decide) rfl⟩
  · subst hreturn
    exact ⟨_, .char _, pieces?_letter (by decide) rfl⟩
  · subst htab
    exact ⟨_, .char _, pieces?_letter (by decide) rfl⟩
  · obtain rfl := hcode hback rfl
    exact ⟨_, .char _, pieces?_letter (by decide) rfl⟩
  · obtain rfl := hcode hfeed rfl
    exact ⟨_, .char _, pieces?_letter (by decide) rfl⟩
  · exact ⟨_, .unit hcontrol, pieces?_control hcontrol⟩
  · exact ⟨_, .char c, pieces?_plain hquote hslash (Nat.not_lt.mp hcontrol)⟩

/-- The characters of a string literal, up to its closing quote. -/
theorem pieces?_escaped (cs : List Char) (rest : List (Option Char)) :
    ∃ ps, List.Forall₂ Spells ps cs ∧
      pieces? ((cs.flatMap escapeChar).map some ++ some '"' :: rest) = some (ps, rest) := by
  induction cs with
  | nil => exact ⟨[], .nil, rfl⟩
  | cons c cs ih =>
    obtain ⟨p, hp, hpieces⟩ := pieces?_escapeChar c
    obtain ⟨ps, hps, hread⟩ := ih
    refine ⟨p :: ps, .cons hp hps, ?_⟩
    rw [List.flatMap_cons, List.map_append, List.append_assoc, hpieces, hread, Option.map_some]

theorem literal_toList (s : String) :
    (literal s).toList = '"' :: (s.toList.flatMap escapeChar ++ ['"']) := by
  rw [literal, String.toList_ofList, List.cons_append]

theorem value?_quote (fuel : Nat) (cs : List (Option Char)) :
    value? (fuel + 1) (some '"' :: cs) = (pieces? cs).map fun x => (ofPieces x.1, x.2) := by
  rw [value?, skipSpace_cons rfl]
  rfl

theorem reads_string (s : String) : Reads (.string s) := by
  intro fuel rest hfuel _
  have htext : (text (.string s)).toList = '"' :: (s.toList.flatMap escapeChar ++ ['"']) := by
    rw [text, literal_toList]
  rw [htext] at hfuel ⊢
  obtain ⟨fuel, rfl⟩ := Nat.exists_eq_add_of_le' (Nat.le_trans (Nat.le_add_left 1 _) hfuel)
  obtain ⟨ps, hps, hread⟩ := pieces?_escaped s.toList rest
  rw [List.map_cons, List.map_append, List.cons_append, List.append_assoc, List.map_singleton,
    List.singleton_append, value?_quote, hread, Option.map_some, ofPieces, assemble?_of_spells hps]
  dsimp only
  rw [String.ofList_toList]

/-! ## The characters of arrays and objects -/

/-- What stands between the brackets of an array. -/
def itemChars (items : List Json) : List Char :=
  (commaSeparated (itemTexts items)).toList

/-- What stands between the braces of an object. -/
def memberChars (members : List (String × Json)) : List Char :=
  (commaSeparated (memberTexts members)).toList

theorem array_toList (items : List Json) :
    (text (.array items)).toList = '[' :: (itemChars items ++ [']']) := by
  rw [text, String.toList_append, String.toList_append]
  rfl

theorem object_toList (members : List (String × Json)) :
    (text (.object members)).toList = '\x7b' :: (memberChars members ++ ['\x7d']) := by
  rw [text, String.toList_append, String.toList_append]
  rfl

theorem commaSeparated_cons (a b : String) (rest : List String) :
    (commaSeparated (a :: b :: rest)).toList =
      a.toList ++ ',' :: (commaSeparated (b :: rest)).toList := by
  rw [commaSeparated, String.toList_append, String.toList_append, List.append_assoc]
  · rfl
  · exact List.cons_ne_nil b rest

theorem itemChars_singleton (j : Json) : itemChars [j] = j.text.toList := rfl

theorem itemChars_cons (j k : Json) (rest : List Json) :
    itemChars (j :: k :: rest) = j.text.toList ++ ',' :: itemChars (k :: rest) :=
  commaSeparated_cons j.text k.text (itemTexts rest)

/-- The characters of a member. -/
def memberText (m : String × Json) : List Char :=
  '"' :: (m.1.toList.flatMap escapeChar ++ '"' :: ':' :: m.2.text.toList)

theorem member_toList (m : String × Json) :
    (literal m.1 ++ ":" ++ m.2.text).toList = memberText m := by
  rw [String.toList_append, String.toList_append, literal_toList]
  simp only [List.cons_append, List.append_assoc, List.nil_append]
  rfl

theorem memberChars_singleton (m : String × Json) : memberChars [m] = memberText m :=
  member_toList m

theorem memberChars_cons (m n : String × Json) (rest : List (String × Json)) :
    memberChars (m :: n :: rest) = memberText m ++ ',' :: memberChars (n :: rest) := by
  rw [← member_toList m]
  exact commaSeparated_cons _ _ (memberTexts rest)

theorem memberChars_quote (m : String × Json) (rest : List (String × Json)) :
    ∃ cs, memberChars (m :: rest) = '"' :: cs := by
  cases rest with
  | nil =>
    rw [memberChars_singleton, memberText]
    exact ⟨_, rfl⟩
  | cons n rest =>
    rw [memberChars_cons, memberText, List.cons_append]
    exact ⟨_, rfl⟩

/-! ## Arrays -/

/-- A text that neither starts with a blank nor closes an array. -/
def Opens (cs : List Char) : Prop :=
  ∃ c rest, cs = c :: rest ∧ isSpace c = false ∧ c ≠ ']'

theorem opens_digits (n : Nat) : Opens (Decimal.digits n) := by
  obtain ⟨c, cs, hdigits, -⟩ := digits_eq_cons n
  have hdigit : Decimal.isDigit c = true :=
    List.all_eq_true.mp (Decimal.all_isDigit_digits n) c (hdigits ▸ List.mem_cons_self)
  refine ⟨c, cs, hdigits, ?_, ?_⟩
  · simp only [isSpace, Bool.or_eq_false_iff, decide_eq_false_iff_not]
    refine ⟨⟨⟨?_, ?_⟩, ?_⟩, ?_⟩ <;> rintro rfl <;> exact absurd hdigit (by decide)
  · rintro rfl
    exact absurd hdigit (by decide)

theorem Plain.opens {j : Json} (h : Plain j) : Opens j.text.toList := by
  cases h with
  | null => exact ⟨'n', _, rfl, rfl, by decide⟩
  | bool b =>
    cases b with
    | true => exact ⟨'t', _, rfl, rfl, by decide⟩
    | false => exact ⟨'f', _, rfl, rfl, by decide⟩
  | integer i =>
    cases i with
    | ofNat n =>
      rw [text, Decimal.signedText, Decimal.text, String.toList_ofList]
      exact opens_digits n
    | negSucc n =>
      refine ⟨'-', Decimal.digits (n + 1), ?_, rfl, by decide⟩
      rw [text, Decimal.signedText, Decimal.text, String.toList_append, String.toList_ofList,
        String.toList_ofList, List.singleton_append]
  | string s =>
    rw [text]
    exact ⟨'"', _, literal_toList s, rfl, by decide⟩
  | array h => exact ⟨'[', _, array_toList _, rfl, by decide⟩
  | object h => exact ⟨'\x7b', _, object_toList _, rfl, by decide⟩

theorem opens_itemChars {j : Json} (h : Plain j) (rest : List Json) :
    Opens (itemChars (j :: rest)) := by
  obtain ⟨c, cs, htext, hspace, hclose⟩ := h.opens
  cases rest with
  | nil => exact ⟨c, cs, htext, hspace, hclose⟩
  | cons k rest =>
    rw [itemChars_cons, htext]
    exact ⟨c, _, List.cons_append, hspace, hclose⟩

theorem items?_itemChars {j : Json} {rest : List Json} (h : ∀ k ∈ j :: rest, Reads k)
    {fuel : Nat} (hfuel : (itemChars (j :: rest)).length + 1 ≤ fuel)
    (after : List (Option Char)) :
    items? fuel ((itemChars (j :: rest)).map some ++ some ']' :: after) =
      some (j :: rest, after) := by
  obtain ⟨fuel, rfl⟩ := Nat.exists_eq_add_of_le' (Nat.le_trans (Nat.le_add_left 1 _) hfuel)
  have hj := h j List.mem_cons_self
  have hlen := Nat.le_of_succ_le_succ hfuel
  -- On the items after the first: each, with its comma, leaves fuel enough for the rest.
  induction rest generalizing j fuel with
  | nil =>
    rw [itemChars_singleton] at hlen ⊢
    rw [items?, hj fuel _ hlen (stops_cons (Or.inr (Or.inl rfl)) after)]
    rfl
  | cons k rest ih =>
    rw [itemChars_cons, List.length_append, List.length_cons] at hlen
    rw [itemChars_cons, List.map_append, List.map_cons, List.append_assoc, List.cons_append,
      items?, hj fuel _ (by omega) (stops_cons (Or.inl rfl) _)]
    obtain ⟨fuel, rfl⟩ := Nat.exists_eq_add_of_le' (show 1 ≤ fuel by omega)
    have hrest : ∀ l ∈ k :: rest, Reads l := fun l hl => h l (List.mem_cons_of_mem _ hl)
    have hitems := ih hrest fuel (by omega) (hrest k List.mem_cons_self) (by omega)
    show ((items? (fuel + 1) ((itemChars (k :: rest)).map some ++ some ']' :: after)).bind
      fun x => some (j :: x.1, x.2)) = _
    rw [hitems]
    rfl

/-- An array whose first item opens is read item by item. -/
theorem value?_bracket {cs : List Char} (h : Opens cs) (fuel : Nat) (rest : List (Option Char)) :
    value? (fuel + 1) (some '[' :: (cs.map some ++ rest)) =
      (items? fuel (cs.map some ++ rest)).map fun x => (.array x.1, x.2) := by
  obtain ⟨c, cs, rfl, hspace, hclose⟩ := h
  rw [value?, skipSpace_cons rfl, List.map_cons, List.cons_append]
  simp only [skipSpace_cons hspace]
  split
  · rename_i heq
    exact absurd (Option.some.inj (List.cons.inj heq).1) hclose
  · rfl

theorem reads_array {items : List Json} (h : ∀ j ∈ items, Plain j ∧ Reads j) :
    Reads (.array items) := by
  intro fuel rest hfuel _
  rw [array_toList] at hfuel ⊢
  rw [List.length_cons, List.length_append, List.length_singleton] at hfuel
  obtain ⟨fuel, rfl⟩ := Nat.exists_eq_add_of_le' (show 1 ≤ fuel by omega)
  rw [List.map_cons, List.map_append, List.map_singleton, List.cons_append, List.append_assoc,
    List.singleton_append]
  -- Only an array without items may be closed at once.
  cases items with
  | nil => rfl
  | cons j items =>
    have hopens := opens_itemChars (h j List.mem_cons_self).1 items
    rw [value?_bracket hopens, items?_itemChars (fun k hk => (h k hk).2) (by omega)]
    rfl

/-! ## Objects -/

/-- A member as it is read: its name still in pieces. -/
def decodeMember (m : List Piece × Json) : Option (String × Json) :=
  (assemble? m.1).map fun name => (String.ofList name, m.2)

theorem ofMembers_of_decode {read : List (List Piece × Json)} {members : List (String × Json)}
    (h : read.mapM decodeMember = some members) : ofMembers read = .object members := by
  have hread : (read.mapM fun m => (assemble? m.1).map fun name => (String.ofList name, m.2)) =
      some members := h
  rw [ofMembers, hread]

/-- A member is read as its name and its value; a comma after it goes on with the next
member, and a brace ends the object. -/
theorem members?_memberText {m : String × Json} {fuel : Nat} {rest : List (Option Char)}
    (h : value? fuel (m.2.text.toList.map some ++ rest) = some (m.2, rest)) :
    ∃ ps, decodeMember (ps, m.2) = some m ∧
      (∀ after, rest = some '\x7d' :: after →
        members? (fuel + 1) ((memberText m).map some ++ rest) = some ([(ps, m.2)], after)) ∧
      ∀ next read after, rest = some ',' :: next → members? fuel next = some (read, after) →
        members? (fuel + 1) ((memberText m).map some ++ rest) =
          some ((ps, m.2) :: read, after) := by
  obtain ⟨ps, hps, hname⟩ :=
    pieces?_escaped m.1.toList (some ':' :: (m.2.text.toList.map some ++ rest))
  have hchars : (memberText m).map some ++ rest =
      some '"' :: ((m.1.toList.flatMap escapeChar).map some ++
        some '"' :: some ':' :: (m.2.text.toList.map some ++ rest)) := by
    simp only [memberText, List.map_cons, List.map_append, List.cons_append, List.append_assoc]
  refine ⟨ps, ?_, ?_, ?_⟩
  · rw [decodeMember, assemble?_of_spells hps, Option.map_some, String.ofList_toList]
  · rintro after rfl
    rw [hchars, members?, skipSpace_cons rfl]
    show (pieces? _).bind _ = _
    rw [hname]
    show (value? fuel _).bind _ = _
    rw [h]
    rfl
  · rintro next read after rfl hread
    rw [hchars, members?, skipSpace_cons rfl]
    show (pieces? _).bind _ = _
    rw [hname]
    show (value? fuel _).bind _ = _
    rw [h]
    show (members? fuel next).bind (fun x => some ((ps, m.2) :: x.1, x.2)) = _
    rw [hread]
    rfl

theorem length_memberText (m : String × Json) :
    m.2.text.toList.length + 2 ≤ (memberText m).length := by
  simp only [memberText, List.length_cons, List.length_append]
  omega

theorem members?_memberChars {m : String × Json} {rest : List (String × Json)}
    (h : ∀ n ∈ m :: rest, Reads n.2) {fuel : Nat}
    (hfuel : (memberChars (m :: rest)).length ≤ fuel) (after : List (Option Char)) :
    ∃ read, read.mapM decodeMember = some (m :: rest) ∧
      members? fuel ((memberChars (m :: rest)).map some ++ some '\x7d' :: after) =
        some (read, after) := by
  -- On the members after the first, as with items.
  induction rest generalizing m fuel with
  | nil =>
    have hlen := length_memberText m
    rw [memberChars_singleton] at hfuel ⊢
    obtain ⟨fuel, rfl⟩ := Nat.exists_eq_add_of_le' (show 1 ≤ fuel by omega)
    have hm := h m List.mem_cons_self fuel _ (by omega)
      (stops_cons (Or.inr (Or.inr rfl)) after)
    obtain ⟨ps, hps, hlast, -⟩ := members?_memberText hm
    refine ⟨[(ps, m.2)], ?_, hlast after rfl⟩
    rw [List.mapM_cons, hps]
    rfl
  | cons n rest ih =>
    have hlen := length_memberText m
    rw [memberChars_cons, List.length_append, List.length_cons] at hfuel
    rw [memberChars_cons, List.map_append, List.map_cons, List.append_assoc, List.cons_append]
    obtain ⟨fuel, rfl⟩ := Nat.exists_eq_add_of_le' (show 1 ≤ fuel by omega)
    have hm := h m List.mem_cons_self fuel _ (by omega)
      (stops_cons (Or.inl rfl) ((memberChars (n :: rest)).map some ++ some '\x7d' :: after))
    obtain ⟨read, hread, hmembers⟩ :=
      ih (fun k hk => h k (List.mem_cons_of_mem _ hk)) (show _ ≤ fuel by omega)
    obtain ⟨ps, hps, -, hmore⟩ := members?_memberText hm
    refine ⟨(ps, m.2) :: read, ?_, hmore _ read after rfl hmembers⟩
    rw [List.mapM_cons, hps, hread]
    rfl

/-- An object with a member is read member by member. -/
theorem value?_brace (fuel : Nat) (cs : List (Option Char)) :
    value? (fuel + 1) (some '\x7b' :: some '"' :: cs) =
      (members? fuel (some '"' :: cs)).map fun x => (ofMembers x.1, x.2) := by
  rw [value?, skipSpace_cons rfl]
  rfl

theorem reads_object {members : List (String × Json)} (h : ∀ m ∈ members, Reads m.2) :
    Reads (.object members) := by
  intro fuel rest hfuel _
  rw [object_toList] at hfuel ⊢
  rw [List.length_cons, List.length_append, List.length_singleton] at hfuel
  obtain ⟨fuel, rfl⟩ := Nat.exists_eq_add_of_le' (show 1 ≤ fuel by omega)
  rw [List.map_cons, List.map_append, List.map_singleton, List.cons_append, List.append_assoc,
    List.singleton_append]
  cases members with
  | nil => rfl
  | cons m members =>
    obtain ⟨read, hread, hmembers⟩ := members?_memberChars h (show _ ≤ fuel by omega) rest
    obtain ⟨cs, hcs⟩ := memberChars_quote m members
    rw [hcs, List.map_cons, List.cons_append] at hmembers ⊢
    rw [value?_brace, hmembers, Option.map_some, ofMembers_of_decode hread]

/-! ## Whole texts -/

theorem Plain.reads {j : Json} (h : Plain j) : Reads j := by
  -- On how the document is put together.
  induction h with
  | null => exact reads_null
  | bool b => exact reads_bool b
  | integer i => exact reads_integer i
  | string s => exact reads_string s
  | array h ih => exact reads_array fun j hj => ⟨h j hj, ih j hj⟩
  | object h ih => exact reads_object ih

/-- A plain document reads back from its text. -/
theorem Plain.read?_text {j : Json} (h : Plain j) : read? j.text = some j := by
  have hvalue := h.reads (j.text.toList.length + 1) [] (Nat.le_succ _) stops_nil
  rw [List.append_nil] at hvalue
  show (value? ((j.text.toList.map some).length + 1) (j.text.toList.map some)).bind _ = _
  rw [List.length_map, hvalue]
  rfl

/-- The bytes of a text are read as the text is. -/
theorem readBytes?_encode (s : String) : readBytes? (Utf8.encode s) = read? s := by
  rw [readBytes?, Utf8.pieces_encode, read?]

/-- A plain document reads back from its bytes. -/
theorem Plain.readBytes?_text {j : Json} (h : Plain j) :
    readBytes? (Utf8.encode j.text) = some j := by
  rw [readBytes?_encode, h.read?_text]

/-- Bytes that are no UTF-8 may stand in a string literal, -/
example : readBytes? [0x5B, 0x22, 0xFF, 0x22, 0x5D] = some (.array [.garbled]) := by cbv

/-- and nowhere else. -/
example : readBytes? [0x5B, 0xFF, 0x5D] = none := by cbv

/-- A list of what writes plain documents is one. -/
theorem Plain.list {α : Type} {encode : α → Json} (h : ∀ a, Plain (encode a)) (xs : List α) :
    Plain (Json.list encode xs) := by
  refine .array fun j hj => ?_
  obtain ⟨a, -, rfl⟩ := List.mem_map.mp hj
  exact h a

theorem Plain.option {α : Type} {encode : α → Json} (h : ∀ a, Plain (encode a)) (x : Option α) :
    Plain (Json.option encode x) := by
  cases x with
  | none => exact .null
  | some a => exact h a

end Shakedown.Json
