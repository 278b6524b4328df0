/-
  Shakedown.Proofs.Time.Rfc3339

  A timestamp reads back as its moment, cut to whole milliseconds, as long as
  its year has four digits.
-/
import Shakedown.Proofs.Time.Grammar

namespace Shakedown

open Text

namespace Moment

/-- A moment that a clock can show: a leap second is the last second of its minute and
lasts no longer than a second. -/
def Proper (m : Moment) : Prop :=
  m.nanos < 1000000000 ∨ m.nanos < 2000000000 ∧ m.seconds % 60 = 59

/-- The year that a moment falls into. -/
def year (m : Moment) : Int :=
  (Time.Date.ofDays (m.seconds / 86400)).year

/-- A moment without what is shorter than a millisecond. -/
def cut (m : Moment) : Moment :=
  ⟨m.seconds, m.nanos / 1000000 * 1000000⟩

/-- What comes some time after a proper moment is proper. -/
theorem Proper.add? {m e : Moment} {d : Duration} (h : m.Proper) (he : m.add? d = some e) :
    e.Proper := by
  unfold Moment.add? at he
  dsimp only at he
  split_ifs at he with hspan hleap hlast
  · obtain rfl := Option.some.inj he
    simp only [Bool.and_eq_true, decide_eq_true_eq, isLeap] at hleap
    rcases h with h | h
    · omega
    · exact Or.inr ⟨hleap.2, h.2⟩
  all_goals
    obtain rfl := Option.some.inj he
    exact Or.inl (Nat.mod_lt _ (by decide))

end Moment

namespace Time.Rfc3339

/-- What the parts of a timestamp of UTC in whole milliseconds are read as. -/
theorem readChars?_parts {year month day hour minute second milli : Nat}
    (hyear : year ≤ 9999) (hhour : hour ≤ 23) (hminute : minute ≤ 59) (hsecond : second ≤ 60)
    (hmilli : milli < 1000) (hvalid : (⟨year, month, day⟩ : Date).valid = true) :
    readChars? (Decimal.padded 4 year ++ '-' :: (Decimal.padded 2 month ++ '-' ::
      (Decimal.padded 2 day ++ 'T' :: (Decimal.padded 2 hour ++ ':' :: (Decimal.padded 2 minute ++
        ':' :: (Decimal.padded 2 second ++ '.' :: (Decimal.padded 3 milli ++ ['Z']))))))) =
      some {
        seconds := (⟨year, month, day⟩ : Date).toDays * 86400 +
          (hour * 3600 + minute * 60 + (if second = 60 then 59 else second) : Nat)
        nanos := milli * 1000000 + (if second = 60 then 1000000000 else 0) } := by
  have hfraction : Fraction ('.' :: Decimal.padded 3 milli) (milli * 1000000) := by
    have hvalue : Decimal.accumulate 0 (Decimal.padded 3 milli) = milli := by
      rw [accumulate_padded]
      exact Nat.mod_eq_of_lt hmilli
    have hform := Fraction.digits (padded_ne_nil 2 milli) (all_isDigit_padded 3 milli)
    have hnanos : milli * 10 ^ 9 / 10 ^ 3 = milli * 1000000 := by omega
    rwa [hvalue, length_padded, hnanos] at hform
  have htells : Tells IsMinus _ _ := .mk hyear hvalid (Or.inl rfl) hhour hminute hsecond
    hfraction (.utc (Or.inl rfl))
  have hread := htells.readChars?
  rwa [Int.zero_mul, Int.sub_zero] at hread

end Time.Rfc3339

namespace Moment

open Time

/-- A timestamp reads back as its moment, cut to whole milliseconds. -/
theorem read?_timestamp {m : Moment} (h : m.Proper) (hyear : 0 ≤ m.year) (hyear' : m.year ≤ 9999) :
    Rfc3339.read? m.timestamp = some m.cut := by
  have hvalid := Date.valid_ofDays (m.seconds / 86400)
  have hdays := Date.toDays_ofDays (m.seconds / 86400)
  have hchars : m.timestamp.toList = _ := String.toList_ofList
  rw [secondsText] at hchars
  unfold year at hyear hyear'
  rw [Rfc3339.read?, hchars]
  -- Only the parts of the date matter from here on.
  generalize Date.ofDays (m.seconds / 86400) = date at *
  obtain ⟨year, month, day⟩ := date
  dsimp only at hyear hyear'
  obtain ⟨year, rfl⟩ := Int.eq_ofNat_of_zero_le hyear
  have hleap : ((m.seconds % 86400).toNat % 60 + (if m.isLeap = true then 1 else 0) = 60 ↔
      m.isLeap = true) ∧ m.nanos < 2000000000 := by
    simp only [isLeap, decide_eq_true_eq]
    unfold Proper at h
    split <;> omega
  have hparts := Rfc3339.readChars?_parts (show year ≤ 9999 by omega)
    (show (m.seconds % 86400).toNat / 3600 ≤ 23 by omega)
    (show (m.seconds % 86400).toNat / 60 % 60 ≤ 59 by omega)
    (show (m.seconds % 86400).toNat % 60 + (if m.isLeap = true then 1 else 0) ≤ 60 by
      split <;> omega)
    (show m.nanos % 1000000000 / 1000000 < 1000 by omega) hvalid
  simp only [yearText, if_pos (show 0 ≤ (year : Int) ∧ (year : Int) ≤ 9999 from ⟨hyear, hyear'⟩),
    Int.toNat_natCast, List.append_assoc, List.cons_append] at hparts ⊢
  rw [hparts, hdays, cut]
  by_cases hm : m.isLeap = true
  · have hsecond := hleap.1.mpr hm
    rw [if_pos hm] at hsecond
    rw [if_pos hm, if_pos hsecond, if_pos hsecond]
    simp only [isLeap, decide_eq_true_eq] at hm
    exact congrArg some ((Moment.mk.injEq ..).mpr ⟨by omega, by omega⟩)
  · have hsecond := mt hleap.1.mp hm
    rw [if_neg hm] at hsecond
    rw [if_neg hm, if_neg hsecond, if_neg hsecond]
    simp only [isLeap, decide_eq_true_eq] at hm
    exact congrArg some ((Moment.mk.injEq ..).mpr ⟨by omega, by omega⟩)

end Moment

end Shakedown
