import Mathlib.Tactic.NormNum
import OfflineWebArchiver.Base.Time
import OfflineWebArchiver.Lib.FixedWidth

/-!
# The order of timestamps

`toISOString` writes the instants of the years 0 to 9999 in the form of
`UTC_PATTERN`, so these texts are ordered as their digits. A text of that form need
not be one that `toISOString` writes: its hour may be 24 and its day past the end of
the month.

* `toISOString_le_iff`: an instant's text is at most such a text when the instant is
  at most both what the text parses to and the end of the day it names.
-/

namespace OfflineWebArchiver

open FixedWidth

/-- The number that the digits of a timestamp write. -/
def stamp (year month day hour minute second ms : ℤ) : ℤ :=
  (((((year * 100 + month) * 100 + day) * 100 + hour) * 100 + minute) * 100 + second) * 1000 + ms

/-- The digits of a field. -/
theorem digitsAt_eq (cs : List Char) (i n : ℕ) :
    digitsAt cs i n = Nat.ofDigitChars 10 ((cs.drop i).take n) 0 := by
  unfold digitsAt
  have h : ∀ (ds : List Char) (k : ℕ), ds.foldl (fun (acc : ℤ) c => 10 * acc + (c.toNat - '0'.toNat : ℕ)) k =
      Nat.ofDigitChars 10 ds k := by
    intro ds
    induction ds with
    | nil => intro k; simp [Nat.ofDigitChars_nil]
    | cons d ds ih =>
      intro k
      rw [List.foldl_cons, Nat.ofDigitChars_cons, ← ih]
      push_cast
      rfl
  exact h _ 0

theorem utcPattern_fits {value : Timestamp} (h : matchesUtcPattern value = true) :
    Fits utcPattern value.toList := by
  unfold matchesUtcPattern at h
  rw [Bool.and_eq_true, beq_iff_eq, List.all_eq_true] at h
  obtain ⟨hlen, hall⟩ := h
  have hfits : List.Forall₂ (fun c p => if p = 'd' then c.isDigit = true else c = p) value.toList utcPattern :=
    List.forall₂_iff_zip.2 ⟨by rw [hlen]; rfl, fun {c p} hcp => by simpa using hall (c, p) hcp⟩
  exact hfits.flip

/-- The reading from a field at `i` on. -/
theorem reading_digitsAt {cs : List Char} {i : ℕ} (n : ℕ) {p : Char} (ps : List Char) (hp : p ≠ 'd')
    (h : Fits (List.replicate n 'd' ++ p :: ps) (cs.drop i)) : Fits ps (cs.drop (i + (n + 1))) ∧
      (0 ≤ digitsAt cs i n ∧ digitsAt cs i n < 10 ^ n) ∧
      (reading (List.replicate n 'd' ++ p :: ps) (cs.drop i) : ℤ) =
        digitsAt cs i n * 10 ^ ps.count 'd' + reading ps (cs.drop (i + (n + 1))) := by
  obtain ⟨hrest, hlt, hread⟩ := reading_field hp h
  rw [List.drop_drop] at hrest hread
  rw [digitsAt_eq]
  refine ⟨hrest, ⟨Int.natCast_nonneg _, by exact_mod_cast hlt⟩, ?_⟩
  rw [hread]
  push_cast
  rfl

/-- The fields of a text of the form fit their widths and write its number. -/
structure Fields (cs : List Char) (year month day hour minute second ms : ℤ) : Prop where
  reading_eq : (reading utcPattern cs : ℤ) = stamp year month day hour minute second ms
  year : digitsAt cs 0 4 = year ∧ 0 ≤ year ∧ year < 10 ^ 4
  month : digitsAt cs 5 2 = month ∧ 0 ≤ month ∧ month < 10 ^ 2
  day : digitsAt cs 8 2 = day ∧ 0 ≤ day ∧ day < 10 ^ 2
  hour : digitsAt cs 11 2 = hour ∧ 0 ≤ hour ∧ hour < 10 ^ 2
  minute : digitsAt cs 14 2 = minute ∧ 0 ≤ minute ∧ minute < 10 ^ 2
  second : digitsAt cs 17 2 = second ∧ 0 ≤ second ∧ second < 10 ^ 2
  ms : digitsAt cs 20 3 = ms ∧ 0 ≤ ms ∧ ms < 10 ^ 3

/-- **The number of a text of the form, by its fields.** -/
theorem utc_fields {cs : List Char} (h : Fits utcPattern cs) :
    Fields cs (digitsAt cs 0 4) (digitsAt cs 5 2) (digitsAt cs 8 2) (digitsAt cs 11 2) (digitsAt cs 14 2)
      (digitsAt cs 17 2) (digitsAt cs 20 3) := by
  obtain ⟨h1, b1, r1⟩ := reading_digitsAt (i := 0) 4 (p := '-') "dd-ddTdd:dd:dd.dddZ".toList (by decide) h
  obtain ⟨h2, b2, r2⟩ := reading_digitsAt 2 (p := '-') "ddTdd:dd:dd.dddZ".toList (by decide) h1
  obtain ⟨h3, b3, r3⟩ := reading_digitsAt 2 (p := 'T') "dd:dd:dd.dddZ".toList (by decide) h2
  obtain ⟨h4, b4, r4⟩ := reading_digitsAt 2 (p := ':') "dd:dd.dddZ".toList (by decide) h3
  obtain ⟨h5, b5, r5⟩ := reading_digitsAt 2 (p := ':') "dd.dddZ".toList (by decide) h4
  obtain ⟨h6, b6, r6⟩ := reading_digitsAt 2 (p := '.') "dddZ".toList (by decide) h5
  obtain ⟨-, b7, r7⟩ := reading_digitsAt 3 (p := 'Z') [] (by decide) h6
  refine ⟨?_, ⟨rfl, b1⟩, ⟨rfl, b2⟩, ⟨rfl, b3⟩, ⟨rfl, b4⟩, ⟨rfl, b5⟩, ⟨rfl, b6⟩, ⟨rfl, b7⟩⟩
  have e1 : (reading utcPattern cs : ℤ) =
      digitsAt cs 0 4 * 10 ^ 13 + reading "dd-ddTdd:dd:dd.dddZ".toList (cs.drop 5) := r1
  have e2 : (reading "dd-ddTdd:dd:dd.dddZ".toList (cs.drop 5) : ℤ) =
      digitsAt cs 5 2 * 10 ^ 11 + reading "ddTdd:dd:dd.dddZ".toList (cs.drop 8) := r2
  have e3 : (reading "ddTdd:dd:dd.dddZ".toList (cs.drop 8) : ℤ) =
      digitsAt cs 8 2 * 10 ^ 9 + reading "dd:dd:dd.dddZ".toList (cs.drop 11) := r3
  have e4 : (reading "dd:dd:dd.dddZ".toList (cs.drop 11) : ℤ) =
      digitsAt cs 11 2 * 10 ^ 7 + reading "dd:dd.dddZ".toList (cs.drop 14) := r4
  have e5 : (reading "dd:dd.dddZ".toList (cs.drop 14) : ℤ) =
      digitsAt cs 14 2 * 10 ^ 5 + reading "dd.dddZ".toList (cs.drop 17) := r5
  have e6 : (reading "dd.dddZ".toList (cs.drop 17) : ℤ) =
      digitsAt cs 17 2 * 10 ^ 3 + reading "dddZ".toList (cs.drop 20) := r6
  have e7 : (reading "dddZ".toList (cs.drop 20) : ℤ) = digitsAt cs 20 3 * 10 ^ 0 + (0 : ℕ) := by
    refine r7.trans ?_
    cases cs.drop 24 <;> rfl
  unfold stamp
  omega

/-! ### What `toISOString` writes -/

theorem padded_digits (width n : ℕ) : ∀ c ∈ (padded width n).toList, c.isDigit = true := by
  intro c hc
  unfold padded at hc
  rw [String.toList_ofList, List.mem_append] at hc
  rcases hc with hc | hc
  · rw [List.eq_of_mem_replicate hc]
    rfl
  · exact Nat.isDigit_of_mem_toDigits (by decide) (by decide) hc

theorem padded_length {width n : ℕ} (h0 : 0 < width) (h : n < 10 ^ width) : (padded width n).toList.length = width := by
  unfold padded
  have hle := (Nat.length_toDigits_le_iff (b := 10) (by decide) h0).2 h
  rw [String.toList_ofList, List.length_append, List.length_replicate]
  omega

theorem padded_value (width n : ℕ) : Nat.ofDigitChars 10 (padded width n).toList 0 = n := by
  unfold padded
  rw [String.toList_ofList, Nat.ofDigitChars_append, Nat.ofDigitChars_replicate_zero, Nat.mul_zero,
    Nat.ofDigitChars_toDigits (by decide) (by decide)]

/-- The characters of a timestamp with the given fields. -/
def utcText (year month day hour minute second ms : ℕ) : List Char :=
  (padded 4 year).toList ++ '-' :: ((padded 2 month).toList ++ '-' :: ((padded 2 day).toList ++ 'T' ::
    ((padded 2 hour).toList ++ ':' :: ((padded 2 minute).toList ++ ':' :: ((padded 2 second).toList ++ '.' ::
      ((padded 3 ms).toList ++ ['Z']))))))

theorem fits_padded {width n : ℕ} {p : Char} {ps cs : List Char} (h0 : 0 < width) (h : n < 10 ^ width)
    (hp : p ≠ 'd') (hrest : Fits ps cs) :
    Fits (List.replicate width 'd' ++ p :: ps) ((padded width n).toList ++ p :: cs) := by
  have hdigits := fits_digits (padded_digits width n)
  rw [padded_length h0 h] at hdigits
  exact List.rel_append hdigits (.cons (by simp [hp]) hrest)

/-- A field where it stands. -/
theorem digitsAt_padded {width n : ℕ} (h0 : 0 < width) (h : n < 10 ^ width) (rest : List Char) :
    digitsAt ((padded width n).toList ++ rest) 0 width = n := by
  rw [digitsAt_eq, List.drop_zero, List.take_left' (padded_length h0 h), padded_value]

/-- A field behind another one. -/
theorem digitsAt_skip {width n i k : ℕ} {p : Char} (h0 : 0 < width) (h : n < 10 ^ width) (rest : List Char) :
    digitsAt ((padded width n).toList ++ p :: rest) (width + 1 + i) k = digitsAt rest i k := by
  have hlen : ((padded width n).toList ++ [p]).length = width + 1 := by
    rw [List.length_append, padded_length h0 h]
    rfl
  rw [digitsAt_eq, digitsAt_eq, List.append_cons, ← List.drop_drop, List.drop_left' hlen]

section Fields

variable {year month day hour minute second ms : ℕ}

/-- Every field fits its width. -/
structure Narrow (year month day hour minute second ms : ℕ) : Prop where
  year : year < 10 ^ 4
  month : month < 10 ^ 2
  day : day < 10 ^ 2
  hour : hour < 10 ^ 2
  minute : minute < 10 ^ 2
  second : second < 10 ^ 2
  ms : ms < 10 ^ 3

theorem utcText_fits (h : Narrow year month day hour minute second ms) :
    Fits utcPattern (utcText year month day hour minute second ms) :=
  fits_padded (by decide) h.year (by decide) <| fits_padded (by decide) h.month (by decide) <|
    fits_padded (by decide) h.day (by decide) <| fits_padded (by decide) h.hour (by decide) <|
    fits_padded (by decide) h.minute (by decide) <| fits_padded (by decide) h.second (by decide) <|
    fits_padded (by decide) h.ms (by decide) .nil

/-- The fields of a timestamp are those it was written from. -/
theorem utcText_fields (h : Narrow year month day hour minute second ms) {cs : List Char}
    (hcs : cs = utcText year month day hour minute second ms) :
    digitsAt cs 0 4 = year ∧ digitsAt cs 5 2 = month ∧ digitsAt cs 8 2 = day ∧ digitsAt cs 11 2 = hour ∧
      digitsAt cs 14 2 = minute ∧ digitsAt cs 17 2 = second ∧ digitsAt cs 20 3 = ms := by
  have two : (0 : ℕ) < 2 := by decide
  have four : (0 : ℕ) < 4 := by decide
  subst hcs
  unfold utcText
  refine ⟨digitsAt_padded four h.year _, ?_, ?_, ?_, ?_, ?_, ?_⟩
  · exact (digitsAt_skip (i := 0) four h.year _).trans (digitsAt_padded two h.month _)
  · rw [digitsAt_skip (i := 3) four h.year, digitsAt_skip (i := 0) two h.month]
    exact digitsAt_padded two h.day _
  · rw [digitsAt_skip (i := 6) four h.year, digitsAt_skip (i := 3) two h.month,
      digitsAt_skip (i := 0) two h.day]
    exact digitsAt_padded two h.hour _
  · rw [digitsAt_skip (i := 9) four h.year, digitsAt_skip (i := 6) two h.month,
      digitsAt_skip (i := 3) two h.day, digitsAt_skip (i := 0) two h.hour]
    exact digitsAt_padded two h.minute _
  · rw [digitsAt_skip (i := 12) four h.year, digitsAt_skip (i := 9) two h.month,
      digitsAt_skip (i := 6) two h.day, digitsAt_skip (i := 3) two h.hour, digitsAt_skip (i := 0) two h.minute]
    exact digitsAt_padded two h.second _
  · rw [digitsAt_skip (i := 15) four h.year, digitsAt_skip (i := 12) two h.month,
      digitsAt_skip (i := 9) two h.day, digitsAt_skip (i := 6) two h.hour, digitsAt_skip (i := 3) two h.minute,
      digitsAt_skip (i := 0) two h.second]
    exact digitsAt_padded (by decide) h.ms _

end Fields

/-- The instant is one of the years 0 to 9999. -/
def FourDigitYear (n : ℤ) : Prop := -62167219200000 ≤ n ∧ n < 253402300800000

/-- How `toISOString` writes such an instant. -/
structure Written (n : ℤ) (year month day hour minute second ms : ℕ) : Prop where
  narrow : Narrow year month day hour minute second ms
  civil : Civil (n / 86400000) year month day
  clock : n % 86400000 = ((hour * 60 + minute) * 60 + second) * 1000 + ms
  hour_le : hour ≤ 23
  minute_le : minute ≤ 59
  second_le : second ≤ 59
  text : (toISOString n).toList = utcText year month day hour minute second ms

theorem toISOString_written {n : ℤ} (hn : FourDigitYear n) :
    ∃ year month day hour minute second ms, Written n year month day hour minute second ms := by
  obtain ⟨hn1, hn2⟩ := hn
  have hcivil := civil_spec (n / 86400000)
  have hyear := hcivil.year_iff.2 (by omega)
  obtain ⟨y, hy⟩ : ∃ y : ℕ, (civilFromDays (n / 86400000)).1 = y := ⟨_, (Int.toNat_of_nonneg hyear.1).symm⟩
  obtain ⟨m, hm⟩ : ∃ m : ℕ, (civilFromDays (n / 86400000)).2.1 = m :=
    ⟨_, (Int.toNat_of_nonneg (by have := hcivil.month_pos; omega)).symm⟩
  obtain ⟨d, hd⟩ : ∃ d : ℕ, (civilFromDays (n / 86400000)).2.2 = d :=
    ⟨_, (Int.toNat_of_nonneg (by have := hcivil.day_pos; omega)).symm⟩
  obtain ⟨rest, hrest⟩ : ∃ rest : ℕ, rest = (n % 86400000).toNat := ⟨_, rfl⟩
  rw [hy, hm, hd] at hcivil
  rw [hy] at hyear
  have hday := hcivil.day_le
  have hmonth := hcivil.month_le
  refine ⟨y, m, d, rest / 3600000, rest / 60000 % 60, rest / 1000 % 60, rest % 1000,
    ⟨by omega, by omega, by omega, by omega, by omega, by omega, by omega⟩, hcivil, by push_cast; omega,
    by omega, by omega, by omega, ?_⟩
  have htext : toISOString n = padded 4 y ++ "-" ++ padded 2 m ++ "-" ++ padded 2 d ++ "T" ++
      padded 2 (rest / 3600000) ++ ":" ++ padded 2 (rest / 60000 % 60) ++ ":" ++
      padded 2 (rest / 1000 % 60) ++ "." ++ padded 3 (rest % 1000) ++ "Z" := by
    unfold toISOString
    simp only [hy, hm, hd, ← hrest, Int.toNat_natCast]
    rw [if_pos hyear]
  rw [htext]
  unfold utcText
  simp

theorem matchesUtcPattern_of_fits {value : Timestamp} (h : Fits utcPattern value.toList) :
    matchesUtcPattern value = true := by
  have hlen := h.length_eq
  have hflip : List.Forall₂ (fun c p => if p = 'd' then c.isDigit = true else c = p) value.toList utcPattern :=
    List.Forall₂.flip h
  unfold matchesUtcPattern
  rw [Bool.and_eq_true, beq_iff_eq, List.all_eq_true, ← hlen]
  exact ⟨rfl, fun (c, p) hcp => by simpa using (List.forall₂_iff_zip.1 hflip).2 hcp⟩

/-- The instant and the digits of a text of the form that parses. -/
structure Parsed (t : Timestamp) (n year month day hour minute second ms : ℤ) : Prop where
  fits : Fits utcPattern t.toList
  fields : Fields t.toList year month day hour minute second ms
  month_ok : 1 ≤ month ∧ month ≤ 12
  day_ok : 1 ≤ day ∧ day ≤ 31
  minute_ok : minute ≤ 59
  second_ok : second ≤ 59
  hour_ok : hour ≤ 23 ∨ hour = 24 ∧ minute = 0 ∧ second = 0 ∧ ms = 0
  instant : n = daysFromCivil year month day * 86400000 + (((hour * 60 + minute) * 60 + second) * 1000 + ms)

theorem parseUtc_parsed {t : Timestamp} {n : ℤ} (h : parseUtc t = some n) :
    ∃ year month day hour minute second ms, Parsed t n year month day hour minute second ms := by
  unfold parseUtc at h
  split_ifs at h with hpattern
  have hfits := utcPattern_fits hpattern
  unfold dateParse at h
  simp only at h
  split_ifs at h with hok
  obtain ⟨h1, h2, h3, h4, h5, h6, h7⟩ := hok
  refine ⟨_, _, _, _, _, _, _, hfits, utc_fields hfits, ⟨h1, h2⟩, ⟨h3, h4⟩, h5, h6, h7, ?_⟩
  rw [← Option.some.inj h]
  omega

/-- **An instant is read back from its text.** -/
theorem parseUtc_toISOString {n : ℤ} (hn : FourDigitYear n) : parseUtc (toISOString n) = some n := by
  obtain ⟨year, month, day, hour, minute, second, ms, h⟩ := toISOString_written hn
  have hfits := utcText_fits h.narrow
  rw [← h.text] at hfits
  obtain ⟨e1, e2, e3, e4, e5, e6, e7⟩ := utcText_fields h.narrow h.text
  have hms := h.narrow.ms
  have h1 := h.civil.month_pos
  have h2 := h.civil.month_le
  have h3 := h.civil.day_pos
  have h4 := h.civil.day_le
  have h5 := h.hour_le
  have h6 := h.minute_le
  have h7 := h.second_le
  have h8 := h.clock
  have h9 := h.civil.days_eq
  unfold parseUtc dateParse
  rw [if_pos (matchesUtcPattern_of_fits hfits)]
  simp only [e1, e2, e3, e4, e5, e6, e7]
  rw [if_pos (by omega), h9, Option.some.injEq]
  omega

/-! ### Text order and time order -/

/-- The last millisecond of the day that a timestamp names, or of its month when that
month has no such day. -/
def lastMillisecond (t : Timestamp) : ℤ :=
  (lastDay (digitsAt t.toList 0 4) (digitsAt t.toList 5 2) (digitsAt t.toList 8 2) + 1) * 86400000 - 1

/-- The digits of a time of day are ordered as its milliseconds. -/
theorem clock_le_iff (h h' : ℤ) {m s ms m' s' ms' : ℤ} (hm : 0 ≤ m ∧ m ≤ 59) (hs : 0 ≤ s ∧ s ≤ 59)
    (hms : 0 ≤ ms ∧ ms < 1000) (hm' : 0 ≤ m' ∧ m' ≤ 59) (hs' : 0 ≤ s' ∧ s' ≤ 59) (hms' : 0 ≤ ms' ∧ ms' < 1000) :
    h * 10 ^ 7 + m * 10 ^ 5 + s * 10 ^ 3 + ms ≤ h' * 10 ^ 7 + m' * 10 ^ 5 + s' * 10 ^ 3 + ms' ↔
      ((h * 60 + m) * 60 + s) * 1000 + ms ≤ ((h' * 60 + m') * 60 + s') * 1000 + ms' := by
  rcases lt_trichotomy h h' with hh | hh | hh
  · omega
  · subst hh
    rcases lt_trichotomy m m' with hmm | hmm | hmm <;> omega
  · omega

/-- The order of the digits of an instant and of a timestamp. -/
theorem stamp_le_iff {days y m d h mi s ms y' m' d' h' mi' s' ms' : ℤ} (hc : Civil days y m d)
    (hh : 0 ≤ h ∧ h ≤ 23) (hmi : 0 ≤ mi ∧ mi ≤ 59) (hs : 0 ≤ s ∧ s ≤ 59) (hms : 0 ≤ ms ∧ ms < 1000)
    (hm' : 1 ≤ m' ∧ m' ≤ 12) (hd' : 1 ≤ d' ∧ d' ≤ 31) (hh' : 0 ≤ h') (hmi' : 0 ≤ mi' ∧ mi' ≤ 59)
    (hs' : 0 ≤ s' ∧ s' ≤ 59) (hms' : 0 ≤ ms' ∧ ms' < 1000)
    (hmid : h' ≤ 23 ∨ h' = 24 ∧ mi' = 0 ∧ s' = 0 ∧ ms' = 0) :
    stamp y m d h mi s ms ≤ stamp y' m' d' h' mi' s' ms' ↔
      days * 86400000 + (((h * 60 + mi) * 60 + s) * 1000 + ms) ≤
          daysFromCivil y' m' d' * 86400000 + (((h' * 60 + mi') * 60 + s') * 1000 + ms') ∧
        days * 86400000 + (((h * 60 + mi) * 60 + s) * 1000 + ms) ≤ (lastDay y' m' d' + 1) * 86400000 - 1 := by
  have hclock := clock_le_iff h h' hmi hs hms hmi' hs' hms'
  have hday := daysFromCivil_eq y d hc.month_pos hc.month_le
  have hday' := daysFromCivil_eq y' d' hm'.1 hm'.2
  have hm1 := hc.month_pos
  have hm2 := hc.month_le
  have hd1 := hc.day_pos
  have hd2 := hc.day_le
  have hnext := hc.before_next
  rw [hc.days_eq] at hday
  obtain ⟨tod, htod⟩ : ∃ tod, tod = ((h * 60 + mi) * 60 + s) * 1000 + ms := ⟨_, rfl⟩
  obtain ⟨tod', htod'⟩ : ∃ tod, tod = ((h' * 60 + mi') * 60 + s') * 1000 + ms' := ⟨_, rfl⟩
  have hbound : 0 ≤ tod ∧ tod < 86400000 := by omega
  have hbound' : 0 ≤ tod' ∧ (tod' < 86400000 ∨ h' = 24) := by omega
  rw [← htod, ← htod'] at hclock ⊢
  unfold lastDay stamp
  rcases lt_trichotomy (monthIndex y m) (monthIndex y' m') with hlt | heq | hgt
  · -- an earlier month
    have hmonth := monthStart_strictMono.monotone (show monthIndex y m + 1 ≤ monthIndex y' m' by omega)
    have hend := monthStart_lt_succ (monthIndex y' m')
    unfold monthIndex at hlt
    refine ⟨fun _ => ⟨by omega, by omega⟩, fun _ => by omega⟩
  · -- the same month: the day decides, and on the same day the clock
    rw [← heq] at hday' ⊢
    obtain ⟨rfl, rfl⟩ : y = y' ∧ m = m' := by unfold monthIndex at heq; omega
    rcases lt_trichotomy d d' with hlt | rfl | hgt
    · exact ⟨fun _ => ⟨by omega, by omega⟩, fun _ => by omega⟩
    · rw [min_eq_left (by omega)]
      rcases hbound'.2 with hday24 | h24
      · have hsame : daysFromCivil y m d = days := by omega
        rw [hsame]
        constructor
        · intro hle
          have := hclock.1 (by omega)
          exact ⟨by omega, by omega⟩
        · rintro ⟨hle, -⟩
          have := hclock.2 (by omega)
          omega
      · exact ⟨fun _ => ⟨by omega, by omega⟩, fun _ => by omega⟩
    · rw [min_eq_left (by omega)]
      exact ⟨fun _ => by omega, fun _ => by omega⟩
  · -- a later month
    have hmonth := monthStart_strictMono.monotone (show monthIndex y' m' + 1 ≤ monthIndex y m by omega)
    unfold monthIndex at hgt
    exact ⟨fun _ => by omega, fun _ => by omega⟩

theorem le_iff_reading_le {s t : Timestamp} (hs : Fits utcPattern s.toList) (ht : Fits utcPattern t.toList) :
    s ≤ t ↔ reading utcPattern s.toList ≤ reading utcPattern t.toList := by
  rw [← Nat.not_lt, ← lt_iff_reading_lt ht hs]
  rfl

/-- **Where text order and time order meet.** The text of an instant is at most a
timestamp when the instant is at most what the timestamp parses to and does not lie
past the day that it names. -/
theorem toISOString_le_iff {n k : ℤ} {t : Timestamp} (hn : FourDigitYear n) (ht : parseUtc t = some k) :
    toISOString n ≤ t ↔ n ≤ k ∧ n ≤ lastMillisecond t := by
  obtain ⟨y, m, d, h, mi, s, ms, he⟩ := toISOString_written hn
  obtain ⟨y', m', d', h', mi', s', ms', hp⟩ := parseUtc_parsed ht
  have hfits := utcText_fits he.narrow
  rw [← he.text] at hfits
  have hreading := (utc_fields hfits).reading_eq
  obtain ⟨e1, e2, e3, e4, e5, e6, e7⟩ := utcText_fields he.narrow he.text
  rw [e1, e2, e3, e4, e5, e6, e7] at hreading
  rw [le_iff_reading_le hfits hp.fits, ← Int.ofNat_le, hreading, hp.fields.reading_eq]
  unfold lastMillisecond
  rw [hp.fields.year.1, hp.fields.month.1, hp.fields.day.1]
  have h1 := he.hour_le
  have h2 := he.minute_le
  have h3 := he.second_le
  have h4 := he.narrow.ms
  have hsplit : n = n / 86400000 * 86400000 + (((h * 60 + mi) * 60 + s) * 1000 + ms : ℤ) := by
    rw [← he.clock]
    omega
  have horder := @stamp_le_iff _ y m d h mi s ms y' m' d' h' mi' s' ms' he.civil (by omega)
    (by omega) (by omega) (by omega) hp.month_ok hp.day_ok hp.fields.hour.2.1 ⟨hp.fields.minute.2.1, hp.minute_ok⟩
    ⟨hp.fields.second.2.1, hp.second_ok⟩ hp.fields.ms.2 hp.hour_ok
  rw [horder, ← hsplit, ← hp.instant]

end OfflineWebArchiver
