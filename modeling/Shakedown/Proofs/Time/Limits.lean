/-
  Shakedown.Proofs.Time.Limits

  Where the moments end.  A day lies in a year before another exactly if it
  comes before the first of January of the other, so the first and the last
  second are those of the first and the last year of the calendar.  Between
  them moments are ordered as their counts of nanoseconds are.
-/
import Shakedown.Proofs.Time.Timestamp

namespace Shakedown

namespace Time.Date

/-- The days before a year that starts in March. -/
def daysBeforeYear (year : Int) : Int :=
  365 * year + year / 4 - year / 100 + year / 400

/-- They are those of the spans of 400 years before it and those of the years since. -/
theorem daysBeforeYear_span (era : Int) {inEra : Nat} (h : inEra < 400) :
    daysBeforeYear (era * 400 + inEra) =
      era * 146097 + (inEra * 365 + inEra / 4 - inEra / 100 : Nat) := by
  unfold daysBeforeYear
  omega

/-- A year has at least 365 days. -/
theorem daysBeforeYear_lt {year year' : Int} (h : year < year') :
    daysBeforeYear year + 365 ≤ daysBeforeYear year' := by
  -- One leap day in twenty-five is left out, so no century loses more than it gains.
  have hcentury : year / 100 = year / 4 / 25 := by omega
  have hcentury' : year' / 100 = year' / 4 / 25 := by omega
  have hfours : year / 4 ≤ year' / 4 := by omega
  have heras : year / 400 ≤ year' / 400 := by omega
  unfold daysBeforeYear
  rw [hcentury, hcentury']
  omega

/-- January and February are the last months of a year that starts in March. -/
theorem monthOf_le_two_iff {day : Nat} (h : day < 366) : monthOf (marchOf day) ≤ 2 ↔ 306 ≤ day := by
  unfold monthOf marchOf
  split <;> omega

/-- The first of January, counted from the March before it. -/
theorem toDays_january (year : Int) :
    (⟨year, 1, 1⟩ : Date).toDays = daysBeforeYear (year - 1) + 306 - epochOffset := by
  have hbefore : daysBefore 10 = 306 := by decide
  have hyear : year - 1 = (year - 1) / 400 * 400 + ((year - 1) % 400).toNat := by omega
  have hlt : ((year - 1) % 400).toNat < 400 := by omega
  have hspan := daysBeforeYear_span ((year - 1) / 400) hlt
  rw [← hyear] at hspan
  rw [hspan]
  simp only [toDays, Nat.reduceLT, if_false, Nat.reduceAdd, hbefore, Nat.sub_self, Nat.add_zero]
  omega

/-- A day lies in a year before another exactly if it comes before the other one starts. -/
theorem year_ofDays_lt_iff (days year : Int) :
    (ofDays days).year < year ↔ days < (⟨year, 1, 1⟩ : Date).toDays := by
  obtain ⟨era, inEra, day, hinEra, hday, hsplit, -, hdate⟩ := ofDays_parts days
  have hmonth := monthOf_le_two_iff hday
  have hspan := daysBeforeYear_span era hinEra
  rw [hdate, toDays_january]
  dsimp only
  rcases Int.lt_trichotomy (era * 400 + inEra) (year - 1) with hlt | heq | hlt
  · have := daysBeforeYear_lt hlt
    split <;> omega
  · rw [heq] at hspan ⊢
    split <;> omega
  · have := daysBeforeYear_lt hlt
    split <;> omega

end Time.Date

namespace Moment

/-! ## The calendar -/

/-- A moment outside of leap seconds on the calendar, which reaches from the year -262143 to
the year 262142. -/
structure OnCalendar (m : Moment) : Prop where
  fraction : m.nanos < 1000000000
  first : -262143 ≤ m.year
  last : m.year ≤ 262142

/-- The last moment on the calendar. -/
def latest : Moment := ⟨maxSeconds, 999999999⟩

/-- What can be represented is what the calendar has. -/
theorem onCalendar_iff {m : Moment} : m.OnCalendar ↔ m.Representable := by
  have hfirst := Time.Date.year_ofDays_lt_iff (m.seconds / 86400) (-262143)
  have hlast := Time.Date.year_ofDays_lt_iff (m.seconds / 86400) 262143
  have hstart : (⟨-262143, 1, 1⟩ : Time.Date).toDays = -96465292 := by decide +kernel
  have hend : (⟨262143, 1, 1⟩ : Time.Date).toDays = 95026237 := by decide +kernel
  rw [hstart] at hfirst
  rw [hend] at hlast
  unfold Representable minSeconds maxSeconds
  constructor
  · rintro ⟨hnanos, hyear, hyear'⟩
    unfold year at hyear hyear'
    omega
  · rintro ⟨hmin, hmax, hnanos⟩
    refine ⟨hnanos, ?_, ?_⟩ <;> unfold year <;> omega

theorem latest_onCalendar : latest.OnCalendar := by
  rw [onCalendar_iff]
  exact ⟨by decide, by decide, by decide⟩

theorem OnCalendar.total_le {m : Moment} (h : m.OnCalendar) : m.total ≤ latest.total := by
  obtain ⟨-, hmax, hnanos⟩ := onCalendar_iff.mp h
  unfold total latest
  dsimp only
  omega

theorem OnCalendar.le_total {m : Moment} (h : m.OnCalendar) :
    minSeconds * 1000000000 ≤ m.total := by
  obtain ⟨hmin, -, -⟩ := onCalendar_iff.mp h
  unfold total
  omega

/-- Every count of nanoseconds up to the last one is that of a moment on the calendar, unless
it comes before the first one. -/
theorem exists_onCalendar {total : Int} (hfirst : minSeconds * 1000000000 ≤ total)
    (hlast : total ≤ latest.total) : ∃ m : Moment, m.OnCalendar ∧ m.total = total := by
  refine ⟨⟨total / 1000000000, (total % 1000000000).toNat⟩, onCalendar_iff.mpr ?_, ?_⟩
  · unfold Representable
    unfold Moment.total latest at hlast
    dsimp only at hlast ⊢
    omega
  · unfold Moment.total
    dsimp only
    omega

/-- Moments are ordered as their counts of nanoseconds are. -/
theorem OnCalendar.before_iff {a b : Moment} (ha : a.OnCalendar) (hb : b.OnCalendar) :
    a.before b = true ↔ a.total < b.total := by
  have hnanos := ha.fraction
  have hnanos' := hb.fraction
  unfold before total
  simp only [Bool.or_eq_true, Bool.and_eq_true, decide_eq_true_eq, beq_iff_eq]
  omega

end Moment

end Shakedown
