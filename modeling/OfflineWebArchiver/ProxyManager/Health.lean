import Mathlib.Algebra.Order.Field.Rat
import Mathlib.Tactic.Positivity
import OfflineWebArchiver.Base.TimeOrder
import OfflineWebArchiver.ProxyManager.Records

/-!
# What a health check does

* `parseSafeTimestamp_toISOString_iff`: which instants are written as a valid timestamp.
* `recordProxyHealthCheck_cases`: all that a check can do.
* `expireProxyCooldown_cases`: all that an expiry can do.
-/

namespace OfflineWebArchiver.ProxyManager

open Checks

/-! ### Timestamps -/

theorem digitsAt_nonneg (cs : List Char) (i n : ℕ) : 0 ≤ digitsAt cs i n := by
  rw [digitsAt_eq]
  exact Int.natCast_nonneg _

theorem daysFromCivil_ge {year month day : ℤ} (hyear : 0 ≤ year) (hmonth : 1 ≤ month) (hmonth' : month ≤ 12)
    (hday : 1 ≤ day) : -719528 ≤ daysFromCivil year month day := by
  unfold daysFromCivil
  by_cases hwinter : month ≤ 2
  · -- January and February count to the year before
    rcases (by omega : month = 1 ∨ month = 2) with rfl | rfl <;> simp only [if_pos hwinter] <;> omega
  · simp only [if_neg hwinter]
    omega

/-- A text with a four-digit year is no earlier than the year 0. -/
theorem dateParse_ge {value : Timestamp} {n : ℤ} (h : dateParse value = some n) : -62167219200000 ≤ n := by
  have hyear := digitsAt_nonneg value.toList 0 4
  have hhour := digitsAt_nonneg value.toList 11 2
  have hminute := digitsAt_nonneg value.toList 14 2
  have hsecond := digitsAt_nonneg value.toList 17 2
  have hms := digitsAt_nonneg value.toList 20 3
  unfold dateParse at h
  simp only at h
  split_ifs at h with hok
  obtain ⟨hmonth, hmonth', hday, -, -⟩ := hok
  have hdays := daysFromCivil_ge hyear hmonth hmonth' hday
  have hn := Option.some.inj h
  omega

theorem parseSafeTimestamp_ge {value : Timestamp} {n : ℤ} (h : parseSafeTimestamp value = some n) :
    -62167219200000 ≤ n := by
  unfold parseSafeTimestamp at h
  split at h
  · exact dateParse_ge h
  · split at h
    · exact dateParse_ge h
    · cases h

theorem parseSafeTimestamp_toISOString {n : ℤ} (h : FourDigitYear n) : parseSafeTimestamp (toISOString n) = some n := by
  have hparse := parseUtc_toISOString h
  unfold parseUtc at hparse
  unfold parseSafeTimestamp
  by_cases hpattern : matchesUtcPattern (toISOString n) = true
  · rw [if_pos hpattern] at hparse ⊢
    exact hparse
  · rw [if_neg hpattern] at hparse
    cases hparse

/-- A year outside 0 to 9999 begins with a sign. -/
theorem toISOString_signed {n : ℤ} (h : ¬FourDigitYear n) :
    ∃ c rest, (toISOString n).toList = c :: rest ∧ c.isDigit = false := by
  have hyear : ¬(0 ≤ (civilFromDays (n / 86400000)).1 ∧ (civilFromDays (n / 86400000)).1 ≤ 9999) := by
    rw [(civil_spec (n / 86400000)).year_iff]
    unfold FourDigitYear at h
    omega
  unfold toISOString
  simp only [if_neg hyear]
  split_ifs with hsign
  · simp only [String.toList_append, List.append_assoc]
    exact ⟨'-', _, rfl, rfl⟩
  · simp only [String.toList_append, List.append_assoc]
    exact ⟨'+', _, rfl, rfl⟩

theorem parseSafeTimestamp_signed {value : Timestamp} {c : Char} {rest : List Char} (h : value.toList = c :: rest)
    (hc : c.isDigit = false) : parseSafeTimestamp value = none := by
  -- both patterns begin with a digit
  have hno : ∀ (agree : Char × Char → Bool) (pattern : List Char), pattern.head? = some 'd' →
      agree (c, 'd') = false → (value.toList.zip pattern).all agree = false := by
    intro agree pattern hpattern hagree
    obtain ⟨tail, rfl⟩ : ∃ tail, pattern = 'd' :: tail := ⟨_, List.eq_cons_of_mem_head? hpattern⟩
    rw [h, List.zip_cons_cons, List.all_cons, hagree, Bool.false_and]
  have hutc : ¬matchesUtcPattern value = true := by
    unfold matchesUtcPattern
    rw [hno _ utcPattern (by decide), Bool.and_false]
    · exact Bool.false_ne_true
    · simpa using hc
  have hseconds : ¬matchesSecondsPattern value = true := by
    unfold matchesSecondsPattern
    rw [hno _ _ (by decide), Bool.and_false]
    · exact Bool.false_ne_true
    · simpa using hc
  unfold parseSafeTimestamp
  rw [if_neg hutc, if_neg hseconds]

/-- **Only the years 0 to 9999** are written as a timestamp that is valid again. -/
theorem parseSafeTimestamp_toISOString_iff {n : ℤ} : parseSafeTimestamp (toISOString n) ≠ none ↔ FourDigitYear n := by
  constructor
  · intro h
    by_contra hyear
    obtain ⟨c, rest, htext, hc⟩ := toISOString_signed hyear
    exact h (parseSafeTimestamp_signed htext hc)
  · intro h
    rw [parseSafeTimestamp_toISOString h]
    exact Option.some_ne_none n

/-! ### Transitions -/

variable {env : ProxyEnv} {proxy proxy' : ProxyMetadata} {outcome : ProxyHealthCheckOutcome} {now : Timestamp}
  {policy : ProxyHealthPolicy}

/-- The check starts a cooldown. -/
def StartsCooldown (proxy : ProxyMetadata) (outcome : ProxyHealthCheckOutcome) (policy : ProxyHealthPolicy) : Prop :=
  proxy.enabled = true ∧ outcome.status = .failure ∧ policy.failureThreshold ≤ proxy.consecutiveFailureCount + 1

/-- What a check returns, with the time of the check and the latency that it writes. -/
inductive Checked (proxy : ProxyMetadata) (outcome : ProxyHealthCheckOutcome) (now : Timestamp)
    (policy : ProxyHealthPolicy) (checkedAt : Timestamp) (latencyMs : Option ℤ) : ProxyMetadata → Prop
  | disabled (h : proxy.enabled = false) : Checked proxy outcome now policy checkedAt latencyMs
      { proxy with
        healthState := .disabled, lastHealthCheckAt := some checkedAt, updatedAt := now,
        revision := proxy.revision + 1 }
  | success (h : proxy.enabled = true) (hstatus : outcome.status = .success) :
      Checked proxy outcome now policy checkedAt latencyMs (proxy.succeeded policy latencyMs checkedAt now)
  | failure (h : proxy.enabled = true) (hstatus : outcome.status = .failure) (hcool : ¬StartsCooldown proxy outcome policy) :
      Checked proxy outcome now policy checkedAt latencyMs (proxy.failed false none latencyMs outcome checkedAt now)
  | cooldown (h : StartsCooldown proxy outcome policy) {time : ℤ} (htime : parseSafeTimestamp now = some time) :
      Checked proxy outcome now policy checkedAt latencyMs
        (proxy.failed true (some (toISOString (time + policy.cooldownMs))) latencyMs outcome checkedAt now)

theorem normalizeBoundedInteger_integer {label : String} {low high fallback n m : ℤ}
    (h : normalizeBoundedInteger (integerValue n) label low high fallback = .ok m) : n = m ∧ low ≤ m ∧ m ≤ high := by
  have hfound : boundedInteger? (some (integerValue n)) low high = if low ≤ n ∧ n ≤ high then some n else none := by
    simp [boundedInteger?, integerValue, Rat.isInt]
  simp only [normalizeBoundedInteger, hfound] at h
  by_cases hbounds : low ≤ n ∧ n ≤ high
  · rw [if_pos hbounds] at h
    obtain rfl := Except.ok.inj h
    exact ⟨rfl, hbounds⟩
  · rw [if_neg hbounds] at h
    cases h

theorem checkedLatency_ok {latencyMs result : Option ℤ} (h : checkedLatency latencyMs = .ok result) :
    ∀ ms ∈ result, 0 ≤ ms ∧ ms ≤ 86400000 := by
  unfold checkedLatency at h
  split at h
  · obtain rfl := Except.ok.inj h
    exact fun ms hms => (nomatch hms)
  · obtain ⟨n, hn, h⟩ := bind_ok.1 h
    obtain rfl := pure_ok.1 h
    intro ms hms
    obtain rfl := Option.some.inj hms
    exact (normalizeBoundedInteger_integer (operation_ok.1 hn)).2

theorem cooldownEnd_ok {cooldownMs : ℤ} {cooldownUntil : Option Timestamp}
    (h : cooldownEnd true now cooldownMs = .ok cooldownUntil) :
    ∃ time, parseSafeTimestamp now = some time ∧ cooldownUntil = some (toISOString (time + cooldownMs)) := by
  obtain ⟨text, htext, h⟩ := bind_ok.1 h
  obtain rfl := pure_ok.1 h
  have htext := operation_ok.1 htext
  unfold addMilliseconds at htext
  cases htime : parseSafeTimestamp now with
  | none => rw [htime] at htext; cases htext
  | some time =>
    rw [htime] at htext
    obtain rfl := Except.ok.inj htext
    exact ⟨time, rfl, rfl⟩

theorem validateProxyHealthPolicy_ok {bounded : ProxyHealthPolicy} (h : validateProxyHealthPolicy policy = .ok bounded) :
    policy = bounded ∧ 1 ≤ policy.failureThreshold ∧ 1000 ≤ policy.cooldownMs ∧ policy.cooldownMs ≤ 86400000 := by
  unfold validateProxyHealthPolicy at h
  obtain ⟨_, hthreshold, h⟩ := bind_ok.1 h
  obtain ⟨_, hcooldown, h⟩ := bind_ok.1 h
  obtain ⟨_, -, h⟩ := bind_ok.1 h
  obtain ⟨rfl, hone, -⟩ := normalizeBoundedInteger_integer hthreshold
  obtain ⟨rfl, hlow, hhigh⟩ := normalizeBoundedInteger_integer hcooldown
  exact ⟨pure_ok.1 h, hone, hlow, hhigh⟩

theorem assertTimestamp_ok {label : String} {u : Unit} : assertTimestamp now label = .ok u ↔ parseSafeTimestamp now ≠ none :=
  failIf_ok

/-- **All that a check can do.** -/
theorem recordProxyHealthCheck_cases (h : recordProxyHealthCheck env proxy outcome now policy = .ok proxy') :
    assertProxyMetadata env proxy = .ok () ∧ parseSafeTimestamp now ≠ none ∧ 1 ≤ policy.failureThreshold ∧
      1000 ≤ policy.cooldownMs ∧ ∃ checkedAt latencyMs, parseSafeTimestamp checkedAt ≠ none ∧
        (∀ ms ∈ latencyMs, 0 ≤ ms ∧ ms ≤ 86400000) ∧ Checked proxy outcome now policy checkedAt latencyMs proxy' := by
  unfold recordProxyHealthCheck at h
  obtain ⟨hvalid, h⟩ := check_bind_ok.1 h
  obtain ⟨bounded, hpolicy, h⟩ := bind_ok.1 h
  obtain ⟨rfl, hthreshold, hcooldown, -⟩ := validateProxyHealthPolicy_ok (operation_ok.1 hpolicy)
  obtain ⟨hnow, h⟩ := check_bind_ok.1 h
  obtain ⟨hchecked, h⟩ := check_bind_ok.1 h
  obtain ⟨latencyMs, hlatency, h⟩ := bind_ok.1 h
  have hnow := assertTimestamp_ok.1 (operation_ok.1 hnow)
  have hchecked := assertTimestamp_ok.1 (operation_ok.1 hchecked)
  refine ⟨hvalid, hnow, hthreshold, hcooldown, outcome.checkedAt.getD now, latencyMs, hchecked,
    checkedLatency_ok hlatency, ?_⟩
  split at h
  · obtain rfl := pure_ok.1 h
    exact .disabled ‹_›
  · have henabled : proxy.enabled = true := Bool.not_eq_false _ ▸ ‹_›
    cases hstatus : outcome.status with
    | success =>
      rw [hstatus] at h
      obtain rfl := pure_ok.1 h
      exact .success henabled hstatus
    | failure =>
      rw [hstatus] at h
      simp only at h
      obtain ⟨cooldownUntil, huntil, h⟩ := bind_ok.1 h
      obtain rfl := pure_ok.1 h
      by_cases hcool : policy.failureThreshold ≤ proxy.consecutiveFailureCount + 1
      · rw [decide_eq_true hcool] at huntil ⊢
        obtain ⟨time, htime, rfl⟩ := cooldownEnd_ok huntil
        exact .cooldown ⟨henabled, hstatus, hcool⟩ htime
      · rw [decide_eq_false hcool] at huntil ⊢
        obtain rfl := Except.ok.inj huntil
        exact .failure henabled hstatus fun h => hcool h.2.2

/-- **All that an expiry can do.** -/
theorem expireProxyCooldown_cases (h : expireProxyCooldown env proxy now = .ok proxy') :
    assertProxyMetadata env proxy = .ok () ∧ parseSafeTimestamp now ≠ none ∧
      (proxy' = proxy ∨ proxy.healthState = .cooldown ∧ proxy' =
        { proxy with
          healthState := if proxy.enabled then .degraded else .disabled, cooldownUntil := none, updatedAt := now,
          revision := proxy.revision + 1 }) := by
  unfold expireProxyCooldown at h
  obtain ⟨hvalid, h⟩ := check_bind_ok.1 h
  obtain ⟨hnow, h⟩ := check_bind_ok.1 h
  refine ⟨hvalid, assertTimestamp_ok.1 (operation_ok.1 hnow), ?_⟩
  split at h
  · split at h
    · exact .inl (pure_ok.1 h).symm
    · rename_i hcool
      rw [not_or, not_not] at hcool
      exact .inr ⟨hcool.1, (pure_ok.1 h).symm⟩
  · exact .inl (pure_ok.1 h).symm

end OfflineWebArchiver.ProxyManager
