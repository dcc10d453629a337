import Mathlib.Data.Int.ConditionallyCompleteOrder
import Mathlib.Data.List.Basic
import Mathlib.Order.SuccPred.IntervalSucc

/-!
# Timestamps

A timestamp is the text that `Date.prototype.toISOString` writes. SQL and the
queue compare timestamps as text, the lease rules compare the instants that
`Date.parse` reads from them.

* `parseUtc`: `Date.parse` on text of the form `UTC_PATTERN`.
* `toISOString`: the text of an instant, with the six-digit signed years that
  the language writes outside the years 0 to 9999.
-/

namespace OfflineWebArchiver

/-- A timestamp as stored. Text order is `≤` on strings. -/
abbrev Timestamp := String

/-- `UTC_PATTERN`, with `d` for a digit. -/
def utcPattern : List Char := "dddd-dd-ddTdd:dd:dd.dddZ".toList

/-- `UTC_PATTERN.test(value)`. -/
def matchesUtcPattern (value : Timestamp) : Bool :=
  value.toList.length == 24 &&
    (value.toList.zip utcPattern).all fun (c, p) => if p == 'd' then c.isDigit else c == p

/-- The number written by the `n` digits from position `i`. -/
def digitsAt (cs : List Char) (i n : ℕ) : ℤ :=
  ((cs.drop i).take n).foldl (fun acc c => 10 * acc + (c.toNat - '0'.toNat : ℕ)) 0

/-- Days from the epoch to the given day, in the proleptic Gregorian calendar. A
day past the end of its month counts on into the next one. -/
def daysFromCivil (year month day : ℤ) : ℤ :=
  let y := if month ≤ 2 then year - 1 else year
  let era := y / 400
  let yoe := y - era * 400
  let doy := (153 * ((month + 9) % 12) + 2) / 5 + day - 1
  era * 146097 + yoe * 365 + yoe / 4 - yoe / 100 + doy - 719468

/-- The year, month and day of a day number. -/
def civilFromDays (days : ℤ) : ℤ × ℤ × ℤ :=
  let z := days + 719468
  let era := z / 146097
  let doe := z - era * 146097
  let yoe := (doe - doe / 1460 + doe / 36524 - doe / 146096) / 365
  let doy := doe - (365 * yoe + yoe / 4 - yoe / 100)
  let mp := (5 * doy + 2) / 153
  let month := if mp < 10 then mp + 3 else mp - 9
  let year := yoe + era * 400 + if month ≤ 2 then 1 else 0
  (year, month, doy - (153 * mp + 2) / 5 + 1)

/-- `Date.parse` of a text that matches `UTC_PATTERN`: the instant in
milliseconds, or `none` for `NaN`. Days up to 31 are read in every month, and
`24:00:00.000` is the end of a day. -/
def dateParse (value : Timestamp) : Option ℤ :=
  let cs := value.toList
  let month := digitsAt cs 5 2
  let day := digitsAt cs 8 2
  let hour := digitsAt cs 11 2
  let minute := digitsAt cs 14 2
  let second := digitsAt cs 17 2
  let ms := digitsAt cs 20 3
  if 1 ≤ month ∧ month ≤ 12 ∧ 1 ≤ day ∧ day ≤ 31 ∧ minute ≤ 59 ∧ second ≤ 59 ∧
      (hour ≤ 23 ∨ (hour = 24 ∧ minute = 0 ∧ second = 0 ∧ ms = 0)) then
    some ((((daysFromCivil (digitsAt cs 0 4) month day * 24 + hour) * 60 + minute) * 60 + second) * 1000 + ms)
  else none

/-- The instant of a timestamp, or `none` where `parseUtc` throws. -/
def parseUtc (value : Timestamp) : Option ℤ :=
  if matchesUtcPattern value then dateParse value else none

/-- Decimal digits of `n`, at least `width` of them. -/
def padded (width n : ℕ) : String :=
  let digits := (Nat.toDigits 10 n)
  String.ofList (List.replicate (width - digits.length) '0' ++ digits)

/-- `new Date(ms).toISOString()`. -/
def toISOString (ms : ℤ) : Timestamp :=
  let days := ms / 86400000
  let rest := (ms % 86400000).toNat
  let (year, month, day) := civilFromDays days
  let yearText :=
    if 0 ≤ year ∧ year ≤ 9999 then padded 4 year.toNat
    else (if year < 0 then "-" else "+") ++ padded 6 year.natAbs
  yearText ++ "-" ++ padded 2 month.toNat ++ "-" ++ padded 2 day.toNat ++ "T" ++
    padded 2 (rest / 3600000) ++ ":" ++ padded 2 (rest / 60000 % 60) ++ ":" ++
    padded 2 (rest / 1000 % 60) ++ "." ++ padded 3 (rest % 1000) ++ "Z"

example : parseUtc "1970-01-01T00:00:00.000Z" = some 0 := by decide

example : toISOString 253402300800000 = "+010000-01-01T00:00:00.000Z" := by decide

end OfflineWebArchiver

/-!
## The calendar

Months are numbered through the years by `monthIndex`, and the days of one month
lie between two neighbouring values of `monthStart`.

* `monthStart_strictMono`: a later month starts later.
* `civil_spec`: the year, month and day of a day number name a day of their month,
  and it is that day.
-/

namespace OfflineWebArchiver

/-- The number of a month, counted from January of the year 0. -/
def monthIndex (year month : ℤ) : ℤ := 12 * year + month - 1

/-- The first day of a month. -/
def monthStart (i : ℤ) : ℤ := daysFromCivil (i / 12) (i % 12 + 1) 1

/-- The last day that a year, a month and a day up to 31 stand for without running
past the month. -/
def lastDay (year month day : ℤ) : ℤ :=
  min (daysFromCivil year month day) (monthStart (monthIndex year month + 1) - 1)

theorem daysFromCivil_eq (year : ℤ) {month : ℤ} (day : ℤ) (h1 : 1 ≤ month) (h2 : month ≤ 12) :
    daysFromCivil year month day = monthStart (monthIndex year month) + (day - 1) := by
  have hy : monthIndex year month / 12 = year := by unfold monthIndex; omega
  have hm : monthIndex year month % 12 + 1 = month := by unfold monthIndex; omega
  unfold monthStart
  rw [hy, hm]
  unfold daysFromCivil
  simp only
  omega

/-- A month has from 1 to 31 days. -/
theorem monthStart_succ (i : ℤ) : monthStart i < monthStart (i + 1) ∧ monthStart (i + 1) ≤ monthStart i + 31 := by
  unfold monthStart daysFromCivil
  simp only
  by_cases hlast : i % 12 = 11
  · have hy : (i + 1) / 12 = i / 12 + 1 := by omega
    have hm : (i + 1) % 12 = 0 := by omega
    rw [hy, hm, hlast]
    simp only [show ¬ ((11 : ℤ) + 1 ≤ 2) by omega, show ((0 : ℤ) + 1 ≤ 2) by omega, if_true, if_false]
    omega
  · have hy : (i + 1) / 12 = i / 12 := by omega
    have hm : (i + 1) % 12 = i % 12 + 1 := by omega
    rw [hy, hm]
    generalize i / 12 = y
    have hr : 0 ≤ i % 12 ∧ i % 12 < 11 := by omega
    generalize i % 12 = r at hr
    obtain ⟨h0, h1⟩ := hr
    split_ifs <;> omega

theorem monthStart_lt_succ (i : ℤ) : monthStart i < monthStart (i + 1) := (monthStart_succ i).1

/-- **A later month starts later.** -/
theorem monthStart_strictMono : StrictMono monthStart :=
  strictMono_int_of_lt_succ monthStart_lt_succ

/-! ### Back from a day number -/

/-- The day of an era on which its shifted year starts. -/
def yearStart (year : ℕ) : ℕ := 365 * year + year / 4 - year / 100 + year / 400

/-- The shifted year of a day of an era, as `civilFromDays` reads it. -/
def yearOfEra (day : ℕ) : ℕ := (day - day / 1460 + day / 36524 - day / 146096) / 365

theorem yearOfEra_mono {a b : ℕ} (h : a ≤ b) : yearOfEra a ≤ yearOfEra b := by
  unfold yearOfEra
  induction b, h using Nat.le_induction with
  | base => exact le_rfl
  | succ b _ ih => exact ih.trans (Nat.div_le_div_right (by omega))

theorem yearOfEra_start : ∀ y < 400,
    yearOfEra (yearStart y) = y ∧ yearOfEra (yearStart (y + 1) - 1) = y := by decide +kernel

/-- A year has at most 366 days. -/
theorem yearStart_succ_le (y : ℕ) : yearStart (y + 1) ≤ yearStart y + 366 := by
  unfold yearStart
  by_cases h : (y + 1) % 400 = 0
  · have h1 : (y + 1) / 100 = y / 100 + 1 := by omega
    have h2 : (y + 1) / 4 = y / 4 + 1 := by omega
    omega
  · have h1 : (y + 1) / 400 = y / 400 := by omega
    have h2 : y / 100 ≤ (y + 1) / 100 := by omega
    omega

/-- Every day of an era lies in its shifted year. -/
theorem yearOfEra_spec {day : ℕ} (h : day < 146097) :
    yearOfEra day < 400 ∧ yearStart (yearOfEra day) ≤ day ∧ day < yearStart (yearOfEra day + 1) := by
  have hsteps : ∃ y < 400, yearStart y ≤ day ∧ day < yearStart (y + 1) := by
    by_contra hno
    have hall : ∀ y ≤ 400, yearStart y ≤ day := by
      intro y
      induction y with
      | zero => intro _; exact Nat.zero_le _
      | succ y ih =>
        intro hy
        by_contra hlt
        exact hno ⟨y, by omega, ih (by omega), by omega⟩
    have hend : yearStart 400 = 146097 := rfl
    have := hall 400 le_rfl
    omega
  obtain ⟨y, hy, hlow, hhigh⟩ := hsteps
  have hyear : yearOfEra day = y := by
    have h1 := yearOfEra_mono hlow
    have h2 := yearOfEra_mono (show day ≤ yearStart (y + 1) - 1 by omega)
    have h3 := yearOfEra_start y hy
    omega
  rw [hyear]
  exact ⟨hy, hlow, hhigh⟩

/-- The calendar month of a month counted from March. -/
def civilMonth (mp : ℤ) : ℤ := if mp < 10 then mp + 3 else mp - 9

/-- A day by its era, the shifted year in it and the month since March. -/
theorem daysFromCivil_shifted (era : ℤ) {year mp : ℤ} (day : ℤ) (hy : 0 ≤ year ∧ year < 400)
    (hmp : 0 ≤ mp ∧ mp < 12) :
    daysFromCivil (year + era * 400 + if civilMonth mp ≤ 2 then 1 else 0) (civilMonth mp) day =
      era * 146097 + year * 365 + year / 4 - year / 100 + ((153 * mp + 2) / 5 + day - 1) - 719468 := by
  have hyear : (if civilMonth mp ≤ 2 then (year + era * 400 + if civilMonth mp ≤ 2 then 1 else 0) - 1
      else year + era * 400 + if civilMonth mp ≤ 2 then 1 else 0) = year + era * 400 := by
    split_ifs <;> omega
  have hmonth : (civilMonth mp + 9) % 12 = mp := by unfold civilMonth; split_ifs <;> omega
  have hera : (year + era * 400) / 400 = era := by omega
  unfold daysFromCivil
  simp only [hyear, hmonth, hera]
  rw [show year + era * 400 - era * 400 = year by omega]

/-- The first of March that ends a shifted year. -/
theorem daysFromCivil_march {era : ℤ} {y : ℕ} (hy : y < 400) :
    daysFromCivil (y + era * 400 + 1) 3 1 = era * 146097 + yearStart (y + 1) - 719468 := by
  unfold yearStart
  by_cases hlast : y = 399
  · subst hlast
    have h := @daysFromCivil_shifted (era + 1) 0 0 1 (by omega) (by omega)
    rw [show ((399 : ℕ) : ℤ) + era * 400 + 1 = 0 + (era + 1) * 400 + 0 by omega]
    exact h.trans (by omega)
  · have h := @daysFromCivil_shifted era (y + 1) 0 1 (by omega) (by omega)
    rw [show (y : ℤ) + era * 400 + 1 = y + 1 + era * 400 + 0 by omega]
    exact h.trans (by omega)

/-- What `civilFromDays` finds. -/
structure Civil (days year month day : ℤ) : Prop where
  month_pos : 1 ≤ month
  month_le : month ≤ 12
  day_pos : 1 ≤ day
  days_eq : daysFromCivil year month day = days
  before_next : days < monthStart (monthIndex year month + 1)

/-- **The year, month and day of a day number.** -/
theorem civil_spec (days : ℤ) :
    Civil days (civilFromDays days).1 (civilFromDays days).2.1 (civilFromDays days).2.2 := by
  obtain ⟨era, day, hday, hlt⟩ : ∃ (era : ℤ) (day : ℕ), days + 719468 = era * 146097 + day ∧ day < 146097 :=
    ⟨(days + 719468) / 146097, ((days + 719468) % 146097).toNat, by omega, by omega⟩
  obtain ⟨hyear, hlow, hhigh⟩ := yearOfEra_spec hlt
  have hera : (days + 719468) / 146097 = era := by omega
  have hyoe : ((day : ℤ) - day / 1460 + day / 36524 - day / 146096) / 365 = yearOfEra day := by
    unfold yearOfEra
    omega
  unfold civilFromDays
  simp only [hera, show days + 719468 - era * 146097 = day by omega, hyoe]
  generalize yearOfEra day = y at *
  clear hyoe
  have hlen := yearStart_succ_le y
  have hstart : (yearStart y : ℤ) = 365 * (y : ℤ) + y / 4 - y / 100 := by unfold yearStart; omega
  -- `doy` counts from the first of March, `mp` the months since then
  obtain ⟨doy, hdoy⟩ : ∃ doy : ℤ, doy = day - (365 * (y : ℤ) + y / 4 - y / 100) := ⟨_, rfl⟩
  rw [← hdoy]
  obtain ⟨mp, hmp⟩ : ∃ mp : ℤ, mp = (5 * doy + 2) / 153 := ⟨_, rfl⟩
  rw [← hstart] at hdoy
  have hdoyle : 0 ≤ doy ∧ doy ≤ 365 := by omega
  have hmple : 0 ≤ mp ∧ mp < 12 := by omega
  rw [← hmp]
  show Civil days (y + era * 400 + if civilMonth mp ≤ 2 then 1 else 0) (civilMonth mp)
    (doy - (153 * mp + 2) / 5 + 1)
  have hmonth : 1 ≤ civilMonth mp ∧ civilMonth mp ≤ 12 := by unfold civilMonth; split_ifs <;> omega
  have hback : ∀ d, daysFromCivil (y + era * 400 + if civilMonth mp ≤ 2 then 1 else 0) (civilMonth mp) d =
      days - doy + ((153 * mp + 2) / 5 + d - 1) := by
    intro d
    rw [daysFromCivil_shifted _ d (by omega) hmple]
    omega
  refine ⟨hmonth.1, hmonth.2, by omega, by rw [hback]; omega, ?_⟩
  -- the next month starts after the days that `mp` leaves, or with the next shifted year
  by_cases hlast : mp = 11
  · subst hlast
    have hnext := @daysFromCivil_eq (y + era * 400 + 1) 3 1 (by omega) (by omega)
    rw [daysFromCivil_march hyear] at hnext
    have hindex : monthIndex (y + era * 400 + 1) 3 = monthIndex (y + era * 400 + 1) 2 + 1 := by
      unfold monthIndex; omega
    rw [hindex] at hnext
    show days < monthStart (monthIndex (y + era * 400 + 1) 2 + 1)
    omega
  · have hnext := @daysFromCivil_eq (y + era * 400 + if civilMonth (mp + 1) ≤ 2 then 1 else 0)
      (civilMonth (mp + 1)) 1 (by unfold civilMonth; split_ifs <;> omega)
      (by unfold civilMonth; split_ifs <;> omega)
    rw [daysFromCivil_shifted _ 1 (by omega) (by omega)] at hnext
    have hindex : monthIndex (y + era * 400 + if civilMonth (mp + 1) ≤ 2 then 1 else 0)
        (civilMonth (mp + 1)) = monthIndex (y + era * 400 + if civilMonth mp ≤ 2 then 1 else 0)
          (civilMonth mp) + 1 := by
      unfold monthIndex civilMonth
      split_ifs <;> omega
    rw [hindex] at hnext
    omega

/-! ### The order of days -/

variable {days year month day : ℤ}

theorem Civil.day_le (h : Civil days year month day) : day ≤ 31 := by
  have hdays := daysFromCivil_eq year day h.month_pos h.month_le
  have hnext := h.before_next
  have hlen := (monthStart_succ (monthIndex year month)).2
  rw [h.days_eq] at hdays
  omega

/-- The month of a day is before a month when the day is before its first one. -/
theorem Civil.index_lt_iff (h : Civil days year month day) (i : ℤ) :
    monthIndex year month < i ↔ days < monthStart i := by
  have hdays := daysFromCivil_eq year day h.month_pos h.month_le
  have hnext := h.before_next
  have hpos := h.day_pos
  rw [h.days_eq] at hdays
  constructor
  · intro hlt
    have := monthStart_strictMono.monotone (show monthIndex year month + 1 ≤ i by omega)
    omega
  · intro hlt
    by_contra hge
    have := monthStart_strictMono.monotone (show i ≤ monthIndex year month by omega)
    omega

/-- The years 0 to 9999 by their days. -/
theorem Civil.year_iff (h : Civil days year month day) :
    0 ≤ year ∧ year ≤ 9999 ↔ -719528 ≤ days ∧ days < 2932897 := by
  have h1 := h.index_lt_iff 0
  have h2 := h.index_lt_iff 120000
  have hm1 := h.month_pos
  have hm2 := h.month_le
  have e1 : monthStart 0 = -719528 := rfl
  have e2 : monthStart 120000 = 2932897 := rfl
  unfold monthIndex at h1 h2
  omega

end OfflineWebArchiver
