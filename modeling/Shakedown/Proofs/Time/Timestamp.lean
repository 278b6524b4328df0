/-
  Shakedown.Proofs.Time.Timestamp

  The form of a timestamp.  RFC 3339 writes a year in four digits.  The
  timestamp of a moment is of that form, and reads back, exactly if the year
  of the moment is written so.

  A moment may carry a leap second in the midst of a minute.  Its timestamp
  is that of the second after, which is the same count of nanoseconds since
  the epoch; `shown` is the moment that the timestamp tells of.
-/
import Shakedown.Proofs.Time.Rfc3339

namespace Shakedown

open Text

/-! ## The form of RFC 3339 -/

namespace Time.Rfc3339

/-- The fraction of a second: nothing, or a point and at least one digit. -/
def IsFraction (cs : List Char) : Prop :=
  cs = [] ∨ ∃ digits, cs = '.' :: digits ∧ digits ≠ [] ∧ ∀ c ∈ digits, Decimal.isDigit c = true

/-- A timestamp of UTC in the form of RFC 3339: a date on the calendar with a year of four
digits, a time of day, and `Z`. -/
inductive IsUtc : List Char → Prop where
  | mk {year month day hour minute second : Nat} {fraction : List Char} (hyear : year ≤ 9999)
      (hdate : (⟨year, month, day⟩ : Date).valid = true) (hhour : hour ≤ 23)
      (hminute : minute ≤ 59) (hsecond : second ≤ 60) (hfraction : IsFraction fraction) :
      IsUtc (Decimal.padded 4 year ++ '-' :: (Decimal.padded 2 month ++ '-' ::
        (Decimal.padded 2 day ++ 'T' :: (Decimal.padded 2 hour ++ ':' ::
          (Decimal.padded 2 minute ++ ':' :: (Decimal.padded 2 second ++ (fraction ++ ['Z'])))))))

/-- A timestamp in this form starts with a digit. -/
theorem IsUtc.isDigit_head {c : Char} {cs : List Char} (h : IsUtc (c :: cs)) :
    Decimal.isDigit c = true := by
  generalize htext : c :: cs = text at h
  cases h with
  | @mk year =>
    have hpadded : Decimal.padded 4 year ≠ [] := by
      refine List.length_pos_iff.mp ?_
      rw [length_padded]
      decide
    obtain ⟨d, ds, hds⟩ := List.exists_cons_of_ne_nil hpadded
    rw [hds, List.cons_append] at htext
    obtain ⟨rfl, -⟩ := List.cons.inj htext
    exact all_isDigit_padded 4 year c (by rw [hds]; exact List.mem_cons_self)

/-- Nothing that does not start with a digit is read. -/
theorem readChars?_of_not_isDigit {c : Char} (h : Decimal.isDigit c = false) (cs : List Char) :
    readChars? (c :: cs) = none := by
  have hyear : number? 4 0 (c :: cs) = none := by
    rw [number?, h]
    rfl
  rw [readChars?, hyear]
  rfl

end Time.Rfc3339

namespace Moment

open Time

/-! ## The moment a timestamp tells of -/

/-- The moment a clock shows: a leap second that is not the last of its minute is the
second after it. -/
def shown (m : Moment) : Moment :=
  if m.isLeap ∧ m.seconds % 60 ≠ 59 then ⟨m.seconds + 1, m.nanos - 1000000000⟩ else m

theorem shown_of_proper {m : Moment} (h : m.Proper) : m.shown = m := by
  refine if_neg ?_
  rintro ⟨hleap, hsecond⟩
  simp only [isLeap, decide_eq_true_eq] at hleap
  rcases h with h | h
  · omega
  · exact hsecond h.2

theorem proper_shown {m : Moment} (h : m.nanos < 2000000000) : m.shown.Proper := by
  unfold shown
  split
  · exact Or.inl (by dsimp only; omega)
  · rename_i hshown
    simp only [isLeap, decide_eq_true_eq] at hshown
    unfold Proper
    omega

/-- It is the same count of nanoseconds since the epoch. -/
theorem total_shown (m : Moment) : m.shown.total = m.total := by
  unfold shown
  split
  · rename_i hshown
    simp only [isLeap, decide_eq_true_eq] at hshown
    unfold total
    dsimp only
    omega
  · rfl

theorem year_shown (m : Moment) : m.shown.year = m.year := by
  unfold shown
  split
  · rename_i hshown
    have hday : (m.seconds + 1) / 86400 = m.seconds / 86400 := by omega
    rw [year, hday, year]
  · rfl

/-- A moment and the one it is shown as have one timestamp. -/
theorem timestamp_shown {m : Moment} (h : m.nanos < 2000000000) :
    m.shown.timestamp = m.timestamp := by
  unfold shown
  split
  · rename_i hshown
    obtain ⟨hleap, hsecond⟩ := hshown
    simp only [isLeap, decide_eq_true_eq] at hleap
    have hday : (m.seconds + 1) / 86400 = m.seconds / 86400 := by omega
    have hhour : ((m.seconds + 1) % 86400).toNat / 3600 = (m.seconds % 86400).toNat / 3600 := by
      omega
    have hminute : ((m.seconds + 1) % 86400).toNat / 60 % 60 =
        (m.seconds % 86400).toNat / 60 % 60 := by omega
    have hlast : ((m.seconds + 1) % 86400).toNat % 60 = (m.seconds % 86400).toNat % 60 + 1 := by
      omega
    have hnanos : (m.nanos - 1000000000) % 1000000000 = m.nanos % 1000000000 := by omega
    have hno : ¬1000000000 ≤ m.nanos - 1000000000 := by omega
    simp only [timestamp, secondsText, isLeap, hday, hhour, hminute, hlast, hnanos, hleap, hno,
      decide_true, decide_false, if_true, Bool.false_eq_true, if_false, Nat.add_zero]
  · rfl

/-! ## Timestamps and their form -/

/-- The timestamp of a moment is of the form of RFC 3339 if its year has four digits. -/
theorem isUtc_timestamp {m : Moment} (hyear : 0 ≤ m.year) (hyear' : m.year ≤ 9999) :
    Rfc3339.IsUtc m.timestamp.toList := by
  have hvalid := Date.valid_ofDays (m.seconds / 86400)
  have hchars : m.timestamp.toList = _ := String.toList_ofList
  rw [secondsText] at hchars
  unfold year at hyear hyear'
  rw [hchars]
  -- Only the parts of the date matter from here on.
  generalize Date.ofDays (m.seconds / 86400) = date at *
  obtain ⟨year, month, day⟩ := date
  dsimp only at hyear hyear'
  obtain ⟨year, rfl⟩ := Int.eq_ofNat_of_zero_le hyear
  have hfraction : Rfc3339.IsFraction ('.' :: Decimal.padded 3 (m.nanos % 1000000000 / 1000000)) :=
    Or.inr ⟨_, rfl, Rfc3339.padded_ne_nil 2 _, Rfc3339.all_isDigit_padded 3 _⟩
  have hform := Rfc3339.IsUtc.mk (show year ≤ 9999 by omega) hvalid
    (show (m.seconds % 86400).toNat / 3600 ≤ 23 by omega)
    (show (m.seconds % 86400).toNat / 60 % 60 ≤ 59 by omega)
    (show (m.seconds % 86400).toNat % 60 + (if m.isLeap = true then 1 else 0) ≤ 60 by
      split <;> omega) hfraction
  simp only [yearText, if_pos (show 0 ≤ (year : Int) ∧ (year : Int) ≤ 9999 from ⟨hyear, hyear'⟩),
    Int.toNat_natCast, List.append_assoc, List.cons_append] at hform ⊢
  exact hform

/-- A year that does not have four digits is written with a sign in front. -/
theorem timestamp_signed {m : Moment} (h : ¬(0 ≤ m.year ∧ m.year ≤ 9999)) :
    ∃ sign cs, m.timestamp.toList = sign :: cs ∧ Decimal.isDigit sign = false := by
  have hchars : m.timestamp.toList = _ := String.toList_ofList
  unfold year at h
  rw [hchars, secondsText, yearText, if_neg h]
  refine ⟨_, _, rfl, ?_⟩
  split <;> rfl

/-- A timestamp is of the form of RFC 3339 exactly if its year has four digits. -/
theorem isUtc_timestamp_iff (m : Moment) :
    Rfc3339.IsUtc m.timestamp.toList ↔ 0 ≤ m.year ∧ m.year ≤ 9999 := by
  refine ⟨fun h => Decidable.byContradiction fun hyear => ?_, fun h => isUtc_timestamp h.1 h.2⟩
  obtain ⟨sign, cs, htext, hsign⟩ := timestamp_signed hyear
  rw [htext] at h
  exact absurd h.isDigit_head (by rw [hsign]; exact Bool.false_ne_true)

/-- A timestamp of any other form does not read back. -/
theorem read?_timestamp_eq_none {m : Moment} (h : ¬(0 ≤ m.year ∧ m.year ≤ 9999)) :
    Rfc3339.read? m.timestamp = none := by
  obtain ⟨sign, cs, htext, hsign⟩ := timestamp_signed h
  rw [Rfc3339.read?, htext, Rfc3339.readChars?_of_not_isDigit hsign]

/-- A timestamp of this form reads back as the moment it tells of, cut to whole
milliseconds. -/
theorem read?_timestamp_shown {m : Moment} (h : m.nanos < 2000000000)
    (hyear : 0 ≤ m.year ∧ m.year ≤ 9999) : Rfc3339.read? m.timestamp = some m.shown.cut := by
  rw [← year_shown] at hyear
  rw [← timestamp_shown h]
  exact read?_timestamp (proper_shown h) hyear.1 hyear.2

/-! ## Sums -/

/-- A sum is a moment whose fraction is shorter than two seconds. -/
theorem nanos_add? {m e : Moment} {d : Duration} (he : m.add? d = some e) :
    e.nanos < 2000000000 := by
  unfold add? at he
  dsimp only at he
  split_ifs at he with hspan hstays hlast
  · obtain rfl := Option.some.inj he
    simp only [Bool.and_eq_true, decide_eq_true_eq] at hstays
    exact hstays.2
  all_goals
    obtain rfl := Option.some.inj he
    exact Nat.lt_trans (Nat.mod_lt _ (by decide)) (by decide)

/-- Outside of leap seconds a sum is the span later. -/
theorem total_add? {m e : Moment} {d : Duration} (h : m.isLeap = false)
    (he : m.add? d = some e) : e.total = m.total + d.nanoseconds := by
  unfold add? at he
  simp only [h, Bool.false_and, Bool.false_eq_true, if_false] at he
  split_ifs at he with hspan hlast
  obtain rfl := Option.some.inj he
  unfold total Duration.seconds Duration.subsecond
  dsimp only
  omega

/-- A moment outside of leap seconds that can be represented. -/
def Representable (m : Moment) : Prop :=
  minSeconds ≤ m.seconds ∧ m.seconds ≤ maxSeconds ∧ m.nanos < 1000000000

/-- Outside of leap seconds the sum is the moment the span later, if that can be represented. -/
theorem Representable.add?_eq_some_iff {m e : Moment} {d : Duration} (h : m.Representable) :
    m.add? d = some e ↔ e.Representable ∧ e.total = m.total + d.nanoseconds := by
  obtain ⟨hmin, hmax, hnanos⟩ := h
  have hleap : m.isLeap = false := decide_eq_false (by omega)
  unfold add? Representable total Duration.seconds Duration.subsecond
  simp only [hleap, Bool.false_and, Bool.false_eq_true, if_false, maxSpan, minSeconds,
    maxSeconds] at *
  obtain ⟨seconds, nanos⟩ := e
  split_ifs with hspan hlast
  · refine iff_of_false nofun ?_
    dsimp only
    omega
  · rw [Option.some_inj, Moment.mk.injEq]
    dsimp only
    omega
  · refine iff_of_false nofun ?_
    dsimp only
    omega

end Moment

end Shakedown
