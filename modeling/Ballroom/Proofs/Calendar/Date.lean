import Mathlib.Order.Compare
import Mathlib.Tactic.IntervalCases
import Ballroom.Calendar.Date

/-!
# The calendar

The dates that `Date.ofDays` computes are those that one comes to by going from day to day
(`isDay_iff`), so that later days have later dates (`order_ofDays`).  Years are counted from March:
a date of the calendar is the year that begins on the March before it and a day of that year.
-/

namespace Ballroom

namespace Date

/-! ### Dates of the calendar -/

/-- A date whose year has such a month and day. -/
structure IsProper (d : Date) : Prop where
  month : 1 ≤ d.month ∧ d.month ≤ 12
  day : 1 ≤ d.day ∧ d.day ≤ monthLength d.year d.month

/-- The calendar has the proper dates of its years. -/
theorem isValid_iff {d : Date} :
    d.isValid ↔ d.IsProper ∧ minYear ≤ d.year ∧ d.year ≤ maxYear := by
  simp only [isValid, Bool.and_eq_true, decide_eq_true_eq]
  constructor
  · rintro ⟨⟨⟨⟨⟨hmin, hmax⟩, hmonth⟩, hmonth'⟩, hday⟩, hday'⟩
    exact ⟨⟨⟨hmonth, hmonth'⟩, hday, hday'⟩, hmin, hmax⟩
  · rintro ⟨⟨⟨hmonth, hmonth'⟩, hday, hday'⟩, hmin, hmax⟩
    exact ⟨⟨⟨⟨⟨hmin, hmax⟩, hmonth⟩, hmonth'⟩, hday⟩, hday'⟩

/-- The date of the following day. -/
def next (d : Date) : Date :=
  if d.day < monthLength d.year d.month then ⟨d.year, d.month, d.day + 1⟩
  else if d.month < 12 then ⟨d.year, d.month + 1, 1⟩
  else ⟨d.year + 1, 1, 1⟩

/-- The day with a number has a date: days are counted from 1 January 1970, in both directions. -/
inductive IsDay : Int → Date → Prop
  | epoch : IsDay 0 ⟨1970, 1, 1⟩
  | next {n : Int} {d : Date} : IsDay n d → IsDay (n + 1) d.next
  | previous {n : Int} {d : Date} : d.IsProper → IsDay (n + 1) d.next → IsDay n d

/-- Every month has a day. -/
theorem one_le_monthLength (year : Int) (month : Nat) : 1 ≤ monthLength year month := by
  unfold monthLength
  split <;> (try split) <;> decide

/-- No month has more than 31 days. -/
theorem monthLength_le (year : Int) (month : Nat) : monthLength year month ≤ 31 := by
  unfold monthLength
  split <;> (try split) <;> decide

/-- The day after a proper date has a proper date. -/
theorem IsProper.next {d : Date} (h : d.IsProper) : d.next.IsProper := by
  obtain ⟨hmonth, hday⟩ := h
  unfold Date.next
  split
  · rename_i hlt
    exact ⟨hmonth, Nat.succ_pos _, hlt⟩
  · split
    · rename_i hlt
      exact ⟨⟨Nat.succ_pos _, hlt⟩, Nat.le_refl 1, one_le_monthLength _ _⟩
    · exact ⟨⟨Nat.le_refl 1, by norm_num⟩, Nat.le_refl 1, one_le_monthLength _ _⟩

/-! ### Months and years from March -/

/-- The days from 1 March to the first of the month that is `k` months later. -/
def monthStart (k : Int) : Int := (153 * k + 2) / 5

/-- The months of the year from March have the lengths that division by 5 gives them, but for the
last one. -/
theorem monthStart_succ (year : Int) {month : Nat} (hlo : 1 ≤ month) (hhi : month ≤ 12)
    (hne : month ≠ 2) :
    monthStart (((month + 9) % 12 : Nat) + 1) =
      monthStart ((month + 9) % 12 : Nat) + monthLength year month := by
  interval_cases month <;> first | rfl | exact absurd rfl hne

/-- The days from 1 March of the year 0 to 1 March of a year. -/
def marchDays (year : Int) : Int := 365 * year + year / 4 - year / 100 + year / 400

/-- The Gregorian rule for leap years. -/
theorem isLeap_iff {year : Int} :
    isLeap year ↔ year % 4 = 0 ∧ (year % 100 ≠ 0 ∨ year % 400 = 0) := by
  simp [isLeap]

/-- The year from March ends with February, and has its leap day. -/
theorem marchDays_succ (year : Int) :
    marchDays (year + 1) = marchDays year + monthStart 11 + monthLength (year + 1) 2 := by
  -- Each quotient grows by one in the years that its divisor divides.
  have hfour : (year + 1) / 4 = year / 4 + if (year + 1) % 4 = 0 then 1 else 0 := by omega
  have hcentury : (year + 1) / 100 = year / 100 + if (year + 1) % 100 = 0 then 1 else 0 := by omega
  have hera : (year + 1) / 400 = year / 400 + if (year + 1) % 400 = 0 then 1 else 0 := by omega
  simp only [marchDays, monthStart, monthLength, isLeap_iff, hfour, hcentury, hera]
  split <;> split <;> split <;> split <;> omega

/-- February has 28 or 29 days. -/
theorem monthLength_february (year : Int) : 28 ≤ monthLength year 2 ∧ monthLength year 2 ≤ 29 := by
  cases hleap : isLeap year <;> simp [monthLength, hleap]

/-- Later years begin later. -/
theorem marchDays_mono {y y' : Int} (h : y ≤ y') : marchDays y ≤ marchDays y' := by
  rcases h.eq_or_lt with rfl | h
  · exact le_refl _
  · unfold marchDays
    omega

/-- A day lies in one year only. -/
theorem eq_of_marchDays {y y' n : Int} (h : marchDays y ≤ n ∧ n < marchDays (y + 1))
    (h' : marchDays y' ≤ n ∧ n < marchDays (y' + 1)) : y = y' := by
  -- A year that is earlier has ended by the time the other one begins.
  rcases lt_trichotomy y y' with hlt | heq | hgt
  · have hmono : marchDays (y + 1) ≤ marchDays y' := marchDays_mono (by omega)
    omega
  · exact heq
  · have hmono : marchDays (y' + 1) ≤ marchDays y := marchDays_mono (by omega)
    omega

/-- The date of a day of the year that begins on 1 March. -/
def ofMarch (year dayOfYear : Int) : Date :=
  let marchMonth := (5 * dayOfYear + 2) / 153
  let month := if marchMonth < 10 then marchMonth + 3 else marchMonth - 9
  ⟨if month ≤ 2 then year + 1 else year, month.toNat,
    (dayOfYear - monthStart marchMonth + 1).toNat⟩

/-- The year of the March before a date. -/
def marchYear (d : Date) : Int := if d.month ≤ 2 then d.year - 1 else d.year

/-- The days from the March before a date to the date. -/
def dayOfMarchYear (d : Date) : Int := monthStart ((d.month + 9) % 12 : Nat) + d.day - 1

/-- The number of a day, counted from March. -/
theorem toDays_eq (d : Date) :
    d.toDays = marchDays d.marchYear + d.dayOfMarchYear - 719468 := by
  -- The days of whole eras and of the years within one, taken together.
  have hyear : ∀ y : Int, y / 400 * 146097 + (y % 400 * 365 + y % 400 / 4 - y % 400 / 100) =
      marchDays y := by
    intro y
    unfold marchDays
    omega
  rw [toDays, ← hyear, marchYear, dayOfMarchYear, monthStart]
  omega

/-- The days of the year that begins on 1 March of a year. -/
def InMarchYear (year dayOfYear : Int) : Prop :=
  0 ≤ dayOfYear ∧ marchDays year + dayOfYear < marchDays (year + 1)

/-- The month of a date is found by division from the days since March. -/
theorem IsProper.marchMonth {d : Date} (h : d.IsProper) :
    (5 * d.dayOfMarchYear + 2) / 153 = ((d.month + 9) % 12 : Nat) := by
  obtain ⟨⟨hlo, hhi⟩, hday⟩ := h
  unfold dayOfMarchYear
  -- February is the last month from March, and its length does not follow the rule.
  by_cases hfeb : d.month = 2
  · have hlength := monthLength_february d.year
    rw [hfeb] at hday ⊢
    unfold monthStart
    omega
  · have hstart := monthStart_succ d.year hlo hhi hfeb
    unfold monthStart at hstart ⊢
    omega

/-- A date lies in the year from March that it is counted in. -/
theorem IsProper.inMarchYear {d : Date} (h : d.IsProper) :
    InMarchYear d.marchYear d.dayOfMarchYear := by
  obtain ⟨⟨hlo, hhi⟩, hday⟩ := h
  have hyear := marchDays_succ d.marchYear
  unfold InMarchYear dayOfMarchYear
  -- Only February is followed by a month of another year, and only its length depends on the
  -- year.
  by_cases hfeb : d.month = 2
  · have hnext : d.marchYear + 1 = d.year := by
      rw [marchYear, if_pos (by omega), Int.sub_add_cancel]
    rw [hfeb] at hday ⊢
    rw [hnext] at hyear ⊢
    unfold monthStart at hyear ⊢
    omega
  · have hlength := monthLength_february (d.marchYear + 1)
    have hstart := monthStart_succ d.year hlo hhi hfeb
    unfold monthStart at hyear hstart ⊢
    omega

/-- A date is found again from its year and its day, counted from March. -/
theorem ofMarch_marchYear {d : Date} (h : d.IsProper) :
    ofMarch d.marchYear d.dayOfMarchYear = d := by
  have hmarch := h.marchMonth
  obtain ⟨year, month, day⟩ := d
  obtain ⟨⟨hlo, hhi⟩, hday⟩ := h
  dsimp only at hlo hhi hday
  have hmonth : (if (((month + 9) % 12 : Nat) : Int) < 10 then (((month + 9) % 12 : Nat) : Int) + 3
      else ((month + 9) % 12 : Nat) - 9) = month := by
    split <;> omega
  rw [ofMarch, hmarch, hmonth]
  simp only [dayOfMarchYear, marchYear, Date.mk.injEq]
  refine ⟨?_, ?_, ?_⟩
  · split <;> split <;> omega
  · omega
  · omega

/-- A day of the year from March has a month, and lies in it. -/
theorem exists_ofMarch {y doy : Int} (h : InMarchYear y doy) :
    ∃ month day : Nat, 1 ≤ month ∧ month ≤ 12 ∧ 1 ≤ day ∧
      ofMarch y doy = ⟨if month ≤ 2 then y + 1 else y, month, day⟩ ∧
      doy = monthStart ((month + 9) % 12 : Nat) + day - 1 ∧
      doy < monthStart (((month + 9) % 12 : Nat) + 1) := by
  have hyear := marchDays_succ y
  have hlength := monthLength_february (y + 1)
  unfold InMarchYear at h
  have hlast : 0 ≤ doy ∧ doy < 366 := by
    unfold monthStart at hyear
    omega
  -- Which year it is does not matter for the month.
  clear h hyear hlength
  -- The month from March, the month of the year and the day as natural numbers.
  obtain ⟨k, hk⟩ : ∃ k : Nat, (5 * doy + 2) / 153 = k := ⟨((5 * doy + 2) / 153).toNat, by omega⟩
  obtain ⟨month, hmonth⟩ : ∃ month : Nat,
      (if (k : Int) < 10 then (k : Int) + 3 else k - 9) = month := by
    split
    · exact ⟨k + 3, rfl⟩
    · exact ⟨k - 9, by omega⟩
  obtain ⟨day, hday⟩ : ∃ day : Nat, doy - monthStart k + 1 = day :=
    ⟨(doy - monthStart k + 1).toNat, by unfold monthStart; omega⟩
  have hmonths : 1 ≤ month ∧ month ≤ 12 ∧ (month + 9) % 12 = k := by
    split at hmonth <;> omega
  have hdate : ofMarch y doy = ⟨if month ≤ 2 then y + 1 else y, month, day⟩ := by
    rw [ofMarch, hk, hmonth, hday]
    simp
  refine ⟨month, day, hmonths.1, hmonths.2.1, ?_, hdate, ?_, ?_⟩
  · unfold monthStart at hday
    omega
  · rw [hmonths.2.2]
    omega
  · rw [hmonths.2.2]
    unfold monthStart
    omega

/-- A day of the year from March has a date, which is that day of that year. -/
theorem march_ofMarch {y doy : Int} (h : InMarchYear y doy) :
    (ofMarch y doy).IsProper ∧ (ofMarch y doy).marchYear = y ∧
      (ofMarch y doy).dayOfMarchYear = doy := by
  obtain ⟨month, day, hlo, hhi, hday, hdate, hdoy, hlast⟩ := exists_ofMarch h
  rw [hdate]
  refine ⟨⟨⟨hlo, hhi⟩, hday, ?_⟩, ?_, hdoy.symm⟩
  · -- The end of the year bounds the days of February, the next month those of the others.
    by_cases hfeb : month = 2
    · subst hfeb
      have hyear := marchDays_succ y
      have hend := h.2
      dsimp only
      rw [if_pos (Nat.le_refl 2)]
      unfold monthStart at hdoy hyear
      omega
    · have hstart := monthStart_succ (if month ≤ 2 then y + 1 else y) hlo hhi hfeb
      dsimp only
      omega
  · unfold marchYear
    dsimp only
    split <;> omega

/-- A day by its era, the century of the era, the four years of the century, the year of those and
the day of the year.  Only the last years of four and the last four of an era have 366 days. -/
structure InEra (c q s r : Int) : Prop where
  century : 0 ≤ c ∧ c ≤ 3
  four : 0 ≤ q ∧ q ≤ 24
  year : 0 ≤ s ∧ s ≤ 3
  day : 0 ≤ r ∧ r < 365 ∨ r = 365 ∧ s = 3 ∧ (q < 24 ∨ c = 3)

/-- Every day of an era has a place in it. -/
theorem exists_inEra {dayOfEra : Int} (h : 0 ≤ dayOfEra ∧ dayOfEra < 146097) :
    ∃ c q s r, InEra c q s r ∧ dayOfEra = 36524 * c + 1461 * q + 365 * s + r := by
  -- Centuries have one length but for the last of an era, which has its leap day besides.
  have hcentury : ∃ c t, (0 ≤ c ∧ c ≤ 3) ∧ dayOfEra = 36524 * c + t ∧
      (0 ≤ t ∧ t < 36524 ∨ t = 36524 ∧ c = 3) :=
    ⟨min (dayOfEra / 36524) 3, dayOfEra - 36524 * min (dayOfEra / 36524) 3, by omega⟩
  obtain ⟨c, t, hc, rfl, ht⟩ := hcentury
  have hfour : ∃ q u, (0 ≤ q ∧ q ≤ 24) ∧ t = 1461 * q + u ∧
      (0 ≤ u ∧ u < 1460 ∨ u = 1460 ∧ (q < 24 ∨ c = 3)) :=
    ⟨t / 1461, t % 1461, by omega⟩
  clear h ht
  obtain ⟨q, u, hq, rfl, hu⟩ := hfour
  -- So have the years of four but for the last, and that only if the four are whole.
  have hyear : ∃ s r, (0 ≤ s ∧ s ≤ 3) ∧ u = 365 * s + r ∧
      (0 ≤ r ∧ r < 365 ∨ r = 365 ∧ s = 3 ∧ (q < 24 ∨ c = 3)) :=
    ⟨min (u / 365) 3, u - 365 * min (u / 365) 3, by omega⟩
  obtain ⟨s, r, hs, rfl, hr⟩ := hyear
  exact ⟨c, q, s, r, ⟨hc, hq, hs, hr⟩, by omega⟩

variable {c q s r : Int}

/-- The year of a day of an era: the leap days before it are left out. -/
def yearOfEra (dayOfEra : Int) : Int :=
  (dayOfEra - dayOfEra / 1460 + dayOfEra / 36524 - dayOfEra / 146096) / 365

/-- The year of an era is found from the day of the era by division. -/
theorem InEra.yearOfEra (h : InEra c q s r) {dayOfEra : Int}
    (hday : dayOfEra = 36524 * c + 1461 * q + 365 * s + r) :
    yearOfEra dayOfEra = 100 * c + 4 * q + s := by
  obtain ⟨hc, hq, hs, hr⟩ := h
  unfold Date.yearOfEra
  -- Both quotients are one more on the last day of an era, and only their difference counts.
  have hcentury : dayOfEra / 36524 = c ∧ dayOfEra / 146096 = 0 ∨
      dayOfEra / 36524 = c + 1 ∧ dayOfEra / 146096 = 1 := by
    have hspan : 0 ≤ dayOfEra - 36524 * c ∧ dayOfEra - 36524 * c < 36524 ∨
        c = 3 ∧ dayOfEra = 146096 := by omega
    clear hday hr
    omega
  -- Four years are a day longer than the divisor, which shows in the last of them at most.
  have hfour : dayOfEra / 1460 = 25 * c + q ∨
      dayOfEra / 1460 = 25 * c + q + 1 ∧ s = 3 ∧ 0 < r := by omega
  omega

/-- The days before a year of an era are those of the whole eras, centuries, fours and years
before it. -/
theorem InEra.marchDays (h : InEra c q s r) (era : Int) :
    marchDays (100 * c + 4 * q + s + era * 400) =
      146097 * era + (36524 * c + 1461 * q + 365 * s) := by
  obtain ⟨hc, hq, hs, _⟩ := h
  unfold Date.marchDays
  omega

/-- The rest that is left by eras, centuries, fours and years is a day of the year from
March. -/
theorem InEra.inMarchYear (h : InEra c q s r) (era : Int) :
    InMarchYear (100 * c + 4 * q + s + era * 400) r := by
  obtain ⟨hc, hq, hs, hr⟩ := h
  have hyear := marchDays_succ (100 * c + 4 * q + s + era * 400)
  have hlength := monthLength_february (100 * c + 4 * q + s + era * 400 + 1)
  unfold InMarchYear
  unfold monthStart at hyear
  -- The last day of 366 needs that the year from March ends in a leap year.
  rcases hr with hr | ⟨rfl, rfl, hlast⟩
  · omega
  · have hleap : isLeap (100 * c + 4 * q + 3 + era * 400 + 1) := by
      rw [isLeap_iff]
      omega
    rw [monthLength, if_pos hleap] at hyear
    omega

/-- Days are counted from the March of a year that begins an era. -/
theorem ofDays_eq (n : Int) :
    ofDays n = ofMarch (yearOfEra ((n + 719468) % 146097) + (n + 719468) / 146097 * 400)
      ((n + 719468) % 146097 - (365 * yearOfEra ((n + 719468) % 146097) +
        yearOfEra ((n + 719468) % 146097) / 4 - yearOfEra ((n + 719468) % 146097) / 100)) := rfl

/-- The date of a day is that of its year from March and the day of that year. -/
theorem exists_ofDays (n : Int) :
    ∃ y doy, InMarchYear y doy ∧ n = marchDays y + doy - 719468 ∧ ofDays n = ofMarch y doy := by
  have hera : 0 ≤ (n + 719468) % 146097 ∧ (n + 719468) % 146097 < 146097 := by omega
  obtain ⟨c, q, s, r, hin, hday⟩ := exists_inEra hera
  have hmarch := hin.marchDays ((n + 719468) / 146097)
  refine ⟨_, r, hin.inMarchYear ((n + 719468) / 146097), by omega, ?_⟩
  -- What is left of the day of the era is the day of the year.
  have hdoy : (n + 719468) % 146097 - (365 * (100 * c + 4 * q + s) + (100 * c + 4 * q + s) / 4 -
      (100 * c + 4 * q + s) / 100) = r := by
    have hfour := hin.four
    have hyear := hin.year
    omega
  rw [ofDays_eq, hin.yearOfEra hday, hdoy]

/-! ### Dates and day numbers -/

/-- Every day has a proper date. -/
theorem isProper_ofDays (n : Int) : (ofDays n).IsProper := by
  obtain ⟨y, doy, hin, _, hdate⟩ := exists_ofDays n
  rw [hdate]
  exact (march_ofMarch hin).1

/-- The date of a day leads back to the day. -/
theorem toDays_ofDays (n : Int) : (ofDays n).toDays = n := by
  obtain ⟨y, doy, hin, hn, hdate⟩ := exists_ofDays n
  obtain ⟨_, hyear, hday⟩ := march_ofMarch hin
  rw [hdate, toDays_eq, hyear, hday, hn]

/-- The day of a proper date leads back to the date. -/
theorem ofDays_toDays {d : Date} (h : d.IsProper) : ofDays d.toDays = d := by
  obtain ⟨y, doy, hin, hn, hdate⟩ := exists_ofDays d.toDays
  have hmarch := h.inMarchYear
  rw [toDays_eq] at hn
  -- The days before 1 March leave the year open only as far as the day of the year is.
  obtain rfl : d.marchYear = y := by
    unfold InMarchYear at hin hmarch
    exact eq_of_marchDays (n := marchDays y + doy) (by omega) (by omega)
  obtain rfl : d.dayOfMarchYear = doy := by omega
  rw [hdate, ofMarch_marchYear h]

/-- A month is over after as many days as it has, and the year from March after February. -/
theorem toDays_next {d : Date} (h : d.IsProper) : d.next.toDays = d.toDays + 1 := by
  obtain ⟨year, month, day⟩ := d
  obtain ⟨⟨hlo, hhi⟩, hday⟩ := h
  dsimp only at hlo hhi hday
  unfold next
  split
  · simp only [toDays_eq, marchYear, dayOfMarchYear]
    omega
  · -- The day was the last one of its month.
    rename_i hlast
    obtain rfl : day = monthLength year month := by
      dsimp only at hlast
      omega
    simp only [toDays_eq, marchYear, dayOfMarchYear]
    by_cases hfeb : month = 2
    · subst hfeb
      have hyear := marchDays_succ (year - 1)
      rw [Int.sub_add_cancel] at hyear
      simp [monthStart] at hyear ⊢
      omega
    · -- The next month begins in the same year from March.
      have hstart := monthStart_succ year hlo hhi hfeb
      split
      · have hmonth : (month + 1 + 9) % 12 = (month + 9) % 12 + 1 := by omega
        have hyear : (if month + 1 ≤ 2 then year - 1 else year) =
            if month ≤ 2 then year - 1 else year := by
          split <;> split <;> omega
        dsimp only
        rw [hyear, hmonth, Int.natCast_add, Int.natCast_one, hstart]
        omega
      · obtain rfl : month = 12 := by omega
        simp [monthStart] at hstart ⊢
        omega

/-- Going from one day to the next goes from its date to the next. -/
theorem ofDays_succ (n : Int) : ofDays (n + 1) = (ofDays n).next := by
  have hproper := isProper_ofDays n
  rw [← ofDays_toDays hproper.next, toDays_next hproper, toDays_ofDays]

/-- The date that is computed is reached from day to day. -/
theorem isDay_ofDays (n : Int) : IsDay n (ofDays n) := by
  -- From the epoch in both directions, one day at a time.
  induction n using Int.induction_on with
  | zero => exact .epoch
  | succ n ih =>
    rw [ofDays_succ]
    exact ih.next
  | pred n ih =>
    refine .previous (isProper_ofDays _) ?_
    rw [← ofDays_succ, Int.sub_add_cancel]
    exact ih

/-- Every day has one date, and `ofDays` computes it. -/
theorem isDay_iff {n : Int} {d : Date} : IsDay n d ↔ d = ofDays n := by
  constructor
  · intro h
    -- Going to the next day or back changes date and number alike.
    have hdays : d.IsProper ∧ d.toDays = n := by
      induction h with
      | epoch => exact ⟨⟨by decide, by decide⟩, rfl⟩
      | next _ ih => exact ⟨ih.1.next, by rw [toDays_next ih.1, ih.2]⟩
      | previous hproper _ ih =>
        have hnext := toDays_next hproper
        exact ⟨hproper, by omega⟩
    rw [← hdays.2, ofDays_toDays hdays.1]
  · rintro rfl
    exact isDay_ofDays n

/-! ### The order of dates -/

/-- The order of dates: by years, then months, then days. -/
def order (d e : Date) : Ordering :=
  (compare d.year e.year).then ((compare d.month e.month).then (compare d.day e.day))

/-- The order of dates read the other way. -/
theorem order_swap (d e : Date) : (order d e).swap = order e d := by
  simp only [order, Ordering.swap_then, ← Std.OrientedCmp.eq_swap]

/-- A date is before another by its year, else by its month, else by its day. -/
theorem order_eq_lt_iff {d e : Date} :
    order d e = .lt ↔ d.year < e.year ∨ d.year = e.year ∧
      (d.month < e.month ∨ d.month = e.month ∧ d.day < e.day) := by
  simp only [order, Ordering.then_eq_lt, compare_lt_iff_lt, compare_eq_iff_eq]

/-- The day after a date comes after it. -/
theorem order_next (d : Date) : order d d.next = .lt := by
  rw [order_eq_lt_iff, next]
  split
  · exact .inr ⟨rfl, .inr ⟨rfl, Nat.lt_succ_self _⟩⟩
  · split
    · exact .inr ⟨rfl, .inl (Nat.lt_succ_self _)⟩
    · exact .inl (Int.lt_succ _)

/-- Later days have later dates. -/
theorem order_ofDays_of_lt {m n : Int} (h : m < n) : order (ofDays m) (ofDays n) = .lt := by
  induction n, h using Int.leInduction with
  | base =>
    rw [ofDays_succ]
    exact order_next _
  | succ n hn ih =>
    -- The next day comes after all that this one comes after.
    have hnext := order_next (ofDays n)
    rw [← ofDays_succ] at hnext
    rw [order_eq_lt_iff] at ih hnext ⊢
    omega

/-- Dates are in the order of their days. -/
theorem order_ofDays (m n : Int) : order (ofDays m) (ofDays n) = compare m n := by
  rcases lt_trichotomy m n with h | h | h
  · rw [order_ofDays_of_lt h, compare_lt_iff_lt.2 h]
  · rw [h]
    simp [order]
  · rw [← order_swap, order_ofDays_of_lt h, compare_gt_iff_gt.2 h, Ordering.swap]

/-- Later days do not lie in earlier years. -/
theorem year_ofDays_mono {m n : Int} (h : m ≤ n) : (ofDays m).year ≤ (ofDays n).year := by
  rcases h.eq_or_lt with rfl | hlt
  · exact le_refl _
  · have horder := order_eq_lt_iff.1 (order_ofDays_of_lt hlt)
    omega

end Date

/-- The calendar has the date of every moment. -/
theorem Instant.isValid_date (now : Instant) : now.date.isValid := by
  have hfirst : (Date.ofDays (firstSecond / 86400)).year = Date.minYear := by decide
  have hlast : (Date.ofDays (lastSecond / 86400)).year = Date.maxYear := by decide
  have hlo := now.first_le
  have hhi := now.le_last
  rw [Date.isValid_iff, ← hfirst, ← hlast]
  exact ⟨Date.isProper_ofDays _, Date.year_ofDays_mono (Int.ediv_le_ediv (by decide) hlo),
    Date.year_ofDays_mono (Int.ediv_le_ediv (by decide) hhi)⟩

end Ballroom
