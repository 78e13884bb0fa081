import P2pUsb.Library.Calendar
import P2pUsb.Library.FixedWidth

/-! The timestamps of the audit log. -/
namespace P2pUsb

/-- `as i64`, from a `u64` -/
def asI64 (n : Nat) : Int := if n < 2 ^ 63 then n else n - 2 ^ 64

/-- `as u32`, from a signed number -/
def asU32 (n : Int) : Nat := (n % 2 ^ 32).toNat

/-- The sum of two `i32`; nothing for a panic. -/
def addI32 (overflowChecks : Bool) (a b : Int) : Option Int :=
  if -2 ^ 31 ≤ a + b ∧ a + b < 2 ^ 31 then some (a + b)
  else if overflowChecks then none else some ((a + b).bmod (2 ^ 32))

def isLeapYear (year : Int) : Bool :=
  (year.tmod 4 == 0 && year.tmod 100 != 0) || year.tmod 400 == 0

def daysInYear (year : Int) : Int := if isLeapYear year then 366 else 365

theorem days_in_year_pos (year : Int) : 0 < daysInYear year := by
  unfold daysInYear
  split <;> decide

/-- The first loop of `days_to_ymd`; the days that remain and the year. -/
def advanceYears (overflowChecks : Bool) (remainingDays year : Int) : Option (Int × Int) :=
  if remainingDays < daysInYear year then some (remainingDays, year)
  else (addI32 overflowChecks year 1).bind fun next =>
    advanceYears overflowChecks (remainingDays - daysInYear year) next
termination_by remainingDays.toNat
decreasing_by
  have := days_in_year_pos year
  omega

/-- The second loop. -/
def advanceMonths (remainingDays : Int) (month : Nat) : List Int → Int × Nat
  | [] => (remainingDays, month)
  | daysInMonth :: rest =>
      if remainingDays < daysInMonth then (remainingDays, month)
      else advanceMonths (remainingDays - daysInMonth) (month + 1) rest

def daysInMonths (isLeap : Bool) : List Int :=
  if isLeap then [31, 29, 31, 30, 31, 30, 31, 31, 30, 31, 30, 31]
  else [31, 28, 31, 30, 31, 30, 31, 31, 30, 31, 30, 31]

def daysToYmd (overflowChecks : Bool) (days : Nat) : Option (Nat × Nat × Nat) :=
  (advanceYears overflowChecks (asI64 days) 1970).map fun (remainingDays, year) =>
    let (remainingDays, month) := advanceMonths remainingDays 1 (daysInMonths (isLeapYear year))
    let day := asU32 (remainingDays + 1)
    (asU32 year, month, day)

open FixedWidth (decimal) in
def timeToIso8601 (overflowChecks : Bool) (secs : Nat) : Option String :=
  let days := secs / 86400
  let remaining := secs % 86400
  let hours := remaining / 3600
  let remaining := remaining % 3600
  let minutes := remaining / 60
  let seconds := remaining % 60
  (daysToYmd overflowChecks days).map fun (year, month, day) =>
    String.ofList (decimal 4 year ++ '-' :: (decimal 2 month ++ '-' :: (decimal 2 day ++ 'T' ::
      (decimal 2 hours ++ ':' :: (decimal 2 minutes ++ ':' :: (decimal 2 seconds ++ ['Z']))))))

open Calendar

/-- 1970-01-01 -/
def unixEpoch : Date := ⟨1970, 1, 1, by decide, by decide, by decide, by decide⟩

/-- The date that is a number of days after the epoch. -/
def OnDay (date : Date) (days : Nat) : Prop := date.ordinal = unixEpoch.ordinal + days

/-- The days up to the end of a year. -/
def UpToYear (last days : Nat) : Prop := ∃ date, OnDay date days ∧ date.year ≤ last

variable {checks : Bool} {date : Date} {days : Nat}

/-! ### The loops -/

theorem is_leap_year_iff (year : Nat) : isLeapYear year = true ↔ Leap year := by
  have remainder : ∀ n : Nat, (year : Int).tmod n = 0 ↔ n ∣ year := by
    intro n
    rw [← Int.dvd_iff_tmod_eq_zero, Int.natCast_dvd_natCast]
  have four := remainder 4
  have hundred := remainder 100
  have fourHundred := remainder 400
  simp only [Nat.cast_ofNat] at four hundred fourHundred
  simp [isLeapYear, Leap, four, hundred, fourHundred]

theorem days_in_year (year : Nat) : daysInYear year = (yearLength year : Nat) := by
  unfold daysInYear yearLength
  by_cases leap : Leap year
  · rw [if_pos ((is_leap_year_iff year).mpr leap), if_pos leap]
    rfl
  · rw [if_neg (mt (is_leap_year_iff year).mp leap), if_neg leap]
    rfl

theorem days_in_months (year : Nat) : daysInMonths (isLeapYear year) =
    (List.range' 1 12).map fun month => (monthLength year month : Int) := by
  unfold daysInMonths
  by_cases leap : Leap year
  · rw [if_pos ((is_leap_year_iff year).mpr leap)]
    simp [List.range', monthLength, leap]
  · rw [if_neg (mt (is_leap_year_iff year).mp leap)]
    simp [List.range', monthLength, leap]

/-- The loop over the years ends in the year whose span has the day. -/
theorem advance_years {rest : Nat} (n year : Nat) (fits : year + n < 2 ^ 31)
    (inside : rest < yearLength (year + n)) :
    advanceYears checks ((distance yearLength year (year + n) + rest : Nat) : Int) year =
      some ((rest : Int), ((year + n : Nat) : Int)) := by
  induction n generalizing year with
  | zero =>
      rw [advanceYears, days_in_year]
      simp only [Nat.add_zero, distance_self, Nat.zero_add] at inside ⊢
      rw [if_pos (Int.ofNat_lt.mpr inside)]
  | succ n ih =>
      have next : year + (n + 1) = year + 1 + n := by omega
      have step : addI32 checks year 1 = some ((year + 1 : Nat) : Int) := if_pos (by omega)
      have first : distance yearLength year (year + (n + 1)) =
          yearLength year + distance yearLength (year + 1) (year + 1 + n) := by
        rw [distance_head (by omega), next]
      have left : ((distance yearLength year (year + (n + 1)) + rest : Nat) : Int) -
          (yearLength year : Nat) =
          ((distance yearLength (year + 1) (year + 1 + n) + rest : Nat) : Int) := by
        rw [first]
        omega
      rw [advanceYears, days_in_year, if_neg (by omega), step, Option.bind_some, left, next]
      exact ih (year + 1) (by omega) (next ▸ inside)

/-- The loop over the months, in the same way. -/
theorem advance_months {length : Nat → Nat} {rest : Nat} (n month : Nat) {m : Nat} (room : n < m)
    (inside : rest < length (month + n)) :
    advanceMonths ((distance length month (month + n) + rest : Nat) : Int) month
        ((List.range' month m).map fun k => (length k : Int)) =
      ((rest : Int), month + n) := by
  induction n generalizing month m with
  | zero =>
      obtain ⟨m, rfl⟩ : ∃ k, m = k + 1 := ⟨m - 1, by omega⟩
      rw [List.range'_succ, List.map_cons, advanceMonths]
      simp only [Nat.add_zero, distance_self, Nat.zero_add] at inside ⊢
      rw [if_pos (Int.ofNat_lt.mpr inside)]
  | succ n ih =>
      obtain ⟨m, rfl⟩ : ∃ k, m = k + 1 := ⟨m - 1, by omega⟩
      have next : month + (n + 1) = month + 1 + n := by omega
      have first : distance length month (month + (n + 1)) =
          length month + distance length (month + 1) (month + 1 + n) := by
        rw [distance_head (by omega), next]
      have left : ((distance length month (month + (n + 1)) + rest : Nat) : Int) -
          (length month : Nat) =
          ((distance length (month + 1) (month + 1 + n) + rest : Nat) : Int) := by
        rw [first]
        omega
      rw [List.range'_succ, List.map_cons, advanceMonths, if_neg (by omega), left, next]
      exact ih (month + 1) (by omega) (next ▸ inside)

/-! ### The date of a day -/

theorem exists_on_day (days : Nat) : ∃ date, OnDay date days := Date.exists_ordinal _

theorem OnDay.unique {other : Date} (h : OnDay date days) (h' : OnDay other days) : other = date :=
  Date.ordinal_injective (h'.trans h.symm)

theorem OnDay.year_ge (h : OnDay date days) : 1970 ≤ date.year := by
  by_contra early
  have before : date.Before unixEpoch := .inl (Nat.not_le.mp early)
  have lt := before.ordinal_lt
  rw [h] at lt
  omega

/-- The days are those of the years from the epoch on, and of the year itself. -/
theorem OnDay.days_eq (h : OnDay date days) :
    days = distance yearLength 1970 date.year + date.dayOfYear := by
  have years : distance yearLength 0 1970 + distance yearLength 1970 date.year =
      distance yearLength 0 date.year := distance_add (Nat.zero_le 1970) h.year_ge
  have first : unixEpoch.dayOfYear = 0 := rfl
  unfold OnDay Date.ordinal at h
  rw [first] at h
  change _ = distance yearLength 0 1970 + 0 + days at h
  omega

theorem days_to_ymd_eq (h : OnDay date days) (fits : date.year ≤ 2 ^ 31 - 1) :
    daysToYmd checks days = some (date.year, date.month, date.day) := by
  obtain ⟨n, year⟩ : ∃ n, date.year = 1970 + n := ⟨date.year - 1970, by have := h.year_ge; omega⟩
  obtain ⟨m, month⟩ : ∃ m, date.month = 1 + m :=
    ⟨date.month - 1, by have := date.month_pos; omega⟩
  have within := date.day_of_year_lt
  have inside : date.day - 1 < monthLength date.year date.month := by
    have := date.day_pos
    have := date.day_le
    omega
  have range : days < 2 ^ 63 := by
    have years := distance_le (i := 1970) (j := date.year) year_length_le
    have last := year_length_le date.year
    rw [h.days_eq]
    omega
  have signed : asI64 days = days := if_pos range
  have years : advanceYears checks days 1970 =
    some ((date.dayOfYear : Int), (date.year : Int)) := by
    rw [h.days_eq, year]
    exact advance_years n 1970 (by omega) (year ▸ within)
  have months : advanceMonths date.dayOfYear 1 (daysInMonths (isLeapYear date.year)) =
      (((date.day - 1 : Nat) : Int), date.month) := by
    rw [days_in_months, Date.dayOfYear, month]
    exact advance_months m 1 (by have := date.month_le; omega) (month ▸ inside)
  have day : asU32 (((date.day - 1 : Nat) : Int) + 1) = date.day := by
    have := date.day_pos
    have := date.day_le
    have := month_length_le date.year date.month
    unfold asU32
    omega
  have whole : asU32 (date.year : Int) = date.year := by
    unfold asU32
    omega
  rw [daysToYmd, signed, years, Option.map_some]
  simp only [months, day, whole]

theorem OnDay.lt_iff {a b : Date} {later : Nat} (h : OnDay a days) (h' : OnDay b later) :
    a.ordinal < b.ordinal ↔ days < later := by
  rw [h, h', Nat.add_lt_add_iff_left]

theorem OnDay.eq_iff {a b : Date} {later : Nat} (h : OnDay a days) (h' : OnDay b later) :
    a.ordinal = b.ordinal ↔ days = later := by
  rw [h, h', Nat.add_left_cancel_iff]

theorem UpToYear.earlier {last later : Nat} (h : UpToYear last later) (before : days < later) :
    UpToYear last days := by
  obtain ⟨final, on_final, le⟩ := h
  obtain ⟨date, on⟩ := exists_on_day days
  refine ⟨date, on, ?_⟩
  obtain year | ⟨year, -⟩ := Date.ordinal_lt_iff.mp ((on.lt_iff on_final).mpr before)
  · exact year.le.trans le
  · exact year.le.trans le

/-- A time of day by its hours, minutes and seconds. -/
theorem time_of_day_lt_iff (secs later : Nat) :
    (secs / 86400 < later / 86400 ∨ secs / 86400 = later / 86400 ∧
      (secs % 86400 / 3600 < later % 86400 / 3600 ∨
        secs % 86400 / 3600 = later % 86400 / 3600 ∧
        (secs % 86400 % 3600 / 60 < later % 86400 % 3600 / 60 ∨
          secs % 86400 % 3600 / 60 = later % 86400 % 3600 / 60 ∧
          secs % 86400 % 3600 % 60 < later % 86400 % 3600 % 60))) ↔ secs < later := by
  omega

/-- The texts of two dates with their times. -/
theorem iso8601_lt_iff {a b : Date} {secs later : Nat} (h : OnDay a (secs / 86400))
    (h' : OnDay b (later / 86400)) (first : a.year ≤ 9999) (second : b.year ≤ 9999) :
    ∃ s t, timeToIso8601 checks secs = some s ∧ timeToIso8601 checks later = some t ∧
      (s < t ↔ secs < later) := by
  refine ⟨_, _, by rw [timeToIso8601, days_to_ymd_eq h (by omega)]; rfl,
    by rw [timeToIso8601, days_to_ymd_eq h' (by omega)]; rfl, ?_⟩
  have field {width n m : Nat} {c : Char} {xs ys : List Char} (positive : 0 < width)
      (n_lt : n < 10 ^ width) (m_lt : m < 10 ^ width) :
      FixedWidth.decimal width n ++ c :: xs < FixedWidth.decimal width m ++ c :: ys ↔
        n < m ∨ n = m ∧ xs < ys := by
    rw [FixedWidth.decimal_append_lt_iff positive n_lt m_lt, List.cons_lt_cons_self]
  have two {n : Nat} (small : n < 60) : n < 10 ^ 2 := small.trans (by decide)
  have month (date : Date) : date.month < 10 ^ 2 := by
    have := date.month_le
    omega
  have day (date : Date) : date.day < 10 ^ 2 := by
    have := month_length_le date.year date.month
    have := date.day_le
    omega
  rw [String.lt_iff_toList_lt, String.toList_ofList, String.toList_ofList,
    field (by decide) (by omega) (by omega), field (by decide) (month a) (month b),
    field (by decide) (day a) (day b), field (by decide) (two (by omega)) (two (by omega)),
    field (by decide) (two (by omega)) (two (by omega)),
    field (by decide) (two (by omega)) (two (by omega)), Date.before_or_iff, h.lt_iff h',
    h.eq_iff h', ← time_of_day_lt_iff secs later]
  simp only [List.not_lt_nil, and_false, or_false]

/-- The conversion gives the one date of the day, dates in the order of the days and texts in the
order of the times. -/
theorem calendar_conversion (checks : Bool) :
    (∀ days, UpToYear (2 ^ 31 - 1) days → ∃ date, OnDay date days ∧
      (∀ other, OnDay other days → other = date) ∧
      daysToYmd checks days = some (date.year, date.month, date.day)) ∧
    (∀ days later, UpToYear (2 ^ 31 - 1) later → days < later →
      ∃ a b, daysToYmd checks days = some a ∧ daysToYmd checks later = some b ∧
        Prod.Lex (· < ·) (Prod.Lex (· < ·) (· < ·)) a b) ∧
    ∀ secs later, UpToYear 9999 (secs / 86400) → UpToYear 9999 (later / 86400) →
      ∃ s t, timeToIso8601 checks secs = some s ∧ timeToIso8601 checks later = some t ∧
        (s < t ↔ secs < later) := by
  refine ⟨?_, ?_, ?_⟩
  · rintro days ⟨date, on, fits⟩
    exact ⟨date, on, fun other other_on => on.unique other_on, days_to_ymd_eq on fits⟩
  · intro days later upTo before
    obtain ⟨a, on, fits⟩ := upTo.earlier before
    obtain ⟨b, on_later, fits_later⟩ := upTo
    refine ⟨_, _, days_to_ymd_eq on fits, days_to_ymd_eq on_later fits_later, ?_⟩
    have order := Date.ordinal_lt_iff.mp ((on.lt_iff on_later).mpr before)
    simpa only [Prod.lex_iff, Date.Before] using order
  · rintro secs later ⟨a, on, fits⟩ ⟨b, on_later, fits_later⟩
    exact iso8601_lt_iff on on_later fits fits_later

end P2pUsb
