import OfflineWebArchiver.Assets.Tables
import OfflineWebArchiver.Base.TimeOrder

/-!
# The checks for expiry

Whether a lease has expired is decided in two ways. SQL, the inspection of a recovery and
the fenced completion compare the texts of two timestamps; the recovery repository and the
assets compare the instants that they parse to. The stored expiry is the text of an
instant, while the other timestamp is any text that `parseUtc` accepts.

* `expiry_checks_agree_iff`: **exactly when the checks agree.**
* `expiry_checks_disagree`: the last midnight of a day, written with hour 24.
-/

namespace OfflineWebArchiver

open FixedWidth

/-- The four checks of one lease at one time have one answer. -/
def ExpiryChecksAgree (expiresAt time : Timestamp) : Prop :=
  ∃ expired : Bool,
    -- `candidateRows` and `inspectionItem`: `expires_at <= ?`
    decide (expiresAt ≤ time) = expired ∧
    -- `validateFencedClaim` and `assertOwnership`: `now() >= expires_at`
    (!decide (time < expiresAt)) = expired ∧
    isLeaseExpired .active expiresAt time = .ok expired ∧
    -- `assertLease` of the assets
    instantPassed expiresAt time = expired

theorem parseUtcField_ok {value : Timestamp} {n : ℤ} (h : parseUtc value = some n) (field : String) :
    parseUtcField value field = .ok n := by
  unfold parseUtc at h
  split_ifs at h with hpattern
  unfold parseUtcField
  rw [if_pos hpattern, h]

theorem parseUtc_of_field {value : Timestamp} {field : String} {n : ℤ}
    (h : parseUtcField value field = .ok n) : parseUtc value = some n := by
  unfold parseUtcField at h
  split_ifs at h with hpattern
  unfold parseUtc
  rw [if_pos hpattern]
  split at h
  · rename_i instant hparse
    rw [hparse, Except.ok.inj h]
  · cases h

/-- A text of the form does not begin with a sign. -/
theorem instantOf_eq {value : Timestamp} {n : ℤ} (h : parseUtc value = some n) : instantOf value = some n := by
  have hpattern : matchesUtcPattern value = true := by
    unfold parseUtc at h
    split_ifs at h with hpattern
    exact hpattern
  have hfits := utcPattern_fits hpattern
  unfold instantOf
  split
  · rename_i rest hsign
    rw [hsign] at hfits
    cases hfits with
    | cons hdigit _ => exact absurd hdigit (by decide)
  · rename_i rest hsign
    rw [hsign] at hfits
    cases hfits with
    | cons hdigit _ => exact absurd hdigit (by decide)
  · exact h

/-- What parses is not before the year 0. -/
theorem parseUtc_ge {value : Timestamp} {n : ℤ} (h : parseUtc value = some n) : -62167219200000 ≤ n := by
  obtain ⟨year, month, day, hour, minute, second, ms, hp⟩ := parseUtc_parsed h
  have hdays := daysFromCivil_eq year day hp.month_ok.1 hp.month_ok.2
  have hyear := hp.fields.year.2.1
  have hmonth := hp.month_ok.1
  have hstart := monthStart_strictMono.monotone (show 0 ≤ monthIndex year month by unfold monthIndex; omega)
  have hzero : monthStart 0 = -719528 := rfl
  have h1 := hp.fields.hour.2.1
  have h2 := hp.fields.minute.2.1
  have h3 := hp.fields.second.2.1
  have h4 := hp.fields.ms.2.1
  have h5 := hp.day_ok.1
  have h6 := hp.instant
  omega

/-- The text of an instant after the year 9999 is not of the form. -/
theorem parseUtc_late {n : ℤ} (hn : 253402300800000 ≤ n) : parseUtc (toISOString n) = none := by
  have hcivil := civil_spec (n / 86400000)
  have hyear := hcivil.index_lt_iff 120000
  have hstart : monthStart 120000 = 2932897 := rfl
  have hmonth := hcivil.month_le
  unfold monthIndex at hyear
  have hlate : ¬(0 ≤ (civilFromDays (n / 86400000)).1 ∧ (civilFromDays (n / 86400000)).1 ≤ 9999) := by omega
  have hpos : ¬(civilFromDays (n / 86400000)).1 < 0 := by omega
  have hsign : ∃ rest, (toISOString n).toList = '+' :: rest := by
    unfold toISOString
    simp only [if_neg hlate, if_neg hpos, String.toList_append]
    exact ⟨_, rfl⟩
  obtain ⟨rest, hrest⟩ := hsign
  unfold parseUtc
  split_ifs with hpattern
  · have hfits := utcPattern_fits hpattern
    rw [hrest] at hfits
    cases hfits with
    | cons hdigit _ => exact absurd hdigit (by decide)
  · rfl

/-- **Exactly when the checks agree.** The expiry is one that a claim or a renewal stores,
and the time is any text that `parseUtc` reads. The checks agree when the expiry lies in a
year of four digits and not between the end of the day that the time names and the instant
that it parses to. -/
theorem expiry_checks_agree_iff {base expiresAt time : Timestamp} {durationMs start now : ℤ}
    (hexpiry : calculateLeaseExpiry base durationMs = .ok expiresAt) (hbase : parseUtc base = some start)
    (htime : parseUtc time = some now) :
    ExpiryChecksAgree expiresAt time ↔
      start + durationMs < 253402300800000 ∧
        ¬(lastMillisecond time < start + durationMs ∧ start + durationMs ≤ now) := by
  obtain ⟨hduration, rfl⟩ : 5000 ≤ durationMs ∧ toISOString (start + durationMs) = expiresAt := by
    unfold calculateLeaseExpiry validateLeaseDuration ensure at hexpiry
    rw [parseUtcField_ok hbase] at hexpiry
    by_cases hd : 5000 ≤ durationMs ∧ durationMs ≤ 86400000
    · exact ⟨hd.1, by simpa [hd, bind, Except.bind, pure, Except.pure] using hexpiry⟩
    · simp only [Bool.and_eq_true, decide_eq_true_eq, if_neg hd] at hexpiry
      cases hexpiry
  by_cases hyear : start + durationMs < 253402300800000
  · have hfour : FourDigitYear (start + durationMs) := ⟨by have := parseUtc_ge hbase; omega, hyear⟩
    have horder := toISOString_le_iff hfour htime
    have hread := parseUtc_toISOString hfour
    have hlt : time < toISOString (start + durationMs) ↔ ¬toISOString (start + durationMs) ≤ time := by
      rw [← String.not_le]
    have hlease : isLeaseExpired .active (toISOString (start + durationMs)) time =
        .ok (decide (start + durationMs ≤ now)) := by
      unfold isLeaseExpired
      rw [if_pos rfl, parseUtcField_ok htime, parseUtcField_ok hread]
      rfl
    have hpassed : instantPassed (toISOString (start + durationMs)) time = decide (start + durationMs ≤ now) := by
      unfold instantPassed
      rw [instantOf_eq htime, instantOf_eq hread]
    constructor
    · rintro ⟨expired, h1, h2, h3, -⟩
      refine ⟨hyear, fun ⟨hafter, hle⟩ => ?_⟩
      rw [hlease, Except.ok.injEq, decide_eq_true hle] at h3
      rw [← h3, decide_eq_true_iff, horder] at h1
      omega
    · rintro ⟨-, hday⟩
      have hsame : toISOString (start + durationMs) ≤ time ↔ start + durationMs ≤ now := by
        rw [horder]
        omega
      refine ⟨decide (start + durationMs ≤ now), ?_, ?_, hlease, hpassed⟩
      · simp [hsame]
      · rw [← decide_not, decide_eq_decide, hlt, not_not, hsame]
  · -- the stored expiry is not read back, and the check of a recovery throws
    refine ⟨fun ⟨expired, _, _, h3, _⟩ => ?_, fun h => absurd h.1 hyear⟩
    unfold isLeaseExpired at h3
    rw [if_pos rfl, parseUtcField_ok htime] at h3
    cases hfield : parseUtcField (toISOString (start + durationMs)) "expiresAt" with
    | error e => rw [hfield] at h3; cases h3
    | ok n =>
      have hsome := parseUtc_of_field hfield
      rw [parseUtc_late (by omega)] at hsome
      cases hsome

/-- A lease of a minute, looked at after half of it. -/
theorem expiry_checks_agree_midday :
    ExpiryChecksAgree "2026-01-01T12:01:00.000Z" "2026-01-01T12:00:30.000Z" := by
  have hexpiry : calculateLeaseExpiry "2026-01-01T12:00:00.000Z" 60000 = .ok "2026-01-01T12:01:00.000Z" := by
    decide
  have hbase : parseUtc "2026-01-01T12:00:00.000Z" = some 1767268800000 := by decide
  have htime : parseUtc "2026-01-01T12:00:30.000Z" = some 1767268830000 := by decide
  exact (expiry_checks_agree_iff hexpiry hbase htime).2 (by decide)

/-- **The checks disagree** on the midnight that ends a day and is written with hour 24:
the stored text is the greater one, and both texts parse to one instant. -/
theorem expiry_checks_disagree :
    ¬∀ base expiresAt time : Timestamp, ∀ durationMs : ℤ, calculateLeaseExpiry base durationMs = .ok expiresAt →
      (parseUtc time).isSome = true → ExpiryChecksAgree expiresAt time := by
  intro h
  obtain ⟨expired, h1, -, h3, -⟩ := h "2026-01-01T23:59:00.000Z" "2026-01-02T00:00:00.000Z"
    "2026-01-01T24:00:00.000Z" 60000 (by decide) (by decide)
  have hlive : decide ("2026-01-02T00:00:00.000Z" ≤ "2026-01-01T24:00:00.000Z") = false := by decide
  have hexpired : isLeaseExpired .active "2026-01-02T00:00:00.000Z" "2026-01-01T24:00:00.000Z" = .ok true := by
    decide
  rw [hlive] at h1
  rw [hexpired, ← h1] at h3
  cases h3

end OfflineWebArchiver
