import OfflineWebArchiver.ProxyManager.Health
import OfflineWebArchiver.ProxyManager.Sample

/-!
# The health of a proxy over a run

Any sequence of health checks and expiries of a new proxy.

* `HealthRun`: the run, with the checks that it counted.
* `Checked.valid_iff`: a check keeps the record valid unless its cooldown ends behind the year 9999.
* `HealthBooks`: the invariant; `healthRun_books` has it for every run.
-/

namespace OfflineWebArchiver.ProxyManager

open Checks

section Run

variable {env : ProxyEnv} {proxy proxy' : ProxyMetadata} {outcome : ProxyHealthCheckOutcome} {now : Timestamp}
  {policy : ProxyHealthPolicy} {checkedAt : Timestamp} {latencyMs : Option ℤ} {checks : List ProxyTestStatus}

/-- A cooldown that the check starts ends in the year 9999 at the latest. -/
def EndsInTime (proxy : ProxyMetadata) (outcome : ProxyHealthCheckOutcome) (now : Timestamp)
    (policy : ProxyHealthPolicy) : Prop :=
  StartsCooldown proxy outcome policy →
    ∀ time, parseSafeTimestamp now = some time → time + policy.cooldownMs < 253402300800000

/-- A run from a new record, with the counted checks, the last one first. The checks of a disabled
proxy are not counted. -/
inductive HealthRun (env : ProxyEnv) : ProxyMetadata → List ProxyTestStatus → Prop
  | made {input : List (Text × JsValue)} {now : Timestamp} {proxy : ProxyMetadata}
      (h : createProxyMetadata env input now = .ok proxy) : HealthRun env proxy []
  | checked {proxy proxy' : ProxyMetadata} {checks : List ProxyTestStatus} {outcome : ProxyHealthCheckOutcome}
      {now : Timestamp} {policy : ProxyHealthPolicy} (hrun : HealthRun env proxy checks)
      (h : recordProxyHealthCheck env proxy outcome now policy = .ok proxy')
      (htime : EndsInTime proxy outcome now policy) :
      HealthRun env proxy' (if proxy.enabled then outcome.status :: checks else checks)
  | expired {proxy proxy' : ProxyMetadata} {checks : List ProxyTestStatus} {now : Timestamp}
      (hrun : HealthRun env proxy checks) (h : expireProxyCooldown env proxy now = .ok proxy') :
      HealthRun env proxy' checks

/-! ### Valid records -/

theorem rate_bounds {a b : ℤ} (ha : 0 ≤ a) (hab : a ≤ b) : 0 ≤ (a / b : ℚ) ∧ (a / b : ℚ) ≤ 1 := by
  have ha' : (0 : ℚ) ≤ a := by exact_mod_cast ha
  have hab' : (a : ℚ) ≤ b := by exact_mod_cast hab
  exact ⟨div_nonneg ha' (ha'.trans hab'), div_le_one_of_le₀ hab' (ha'.trans hab')⟩

/-- A check leaves the configuration alone. -/
theorem Checked.configuration (h : Checked proxy outcome now policy checkedAt latencyMs proxy') :
    assertProxyConfiguration env proxy' = assertProxyConfiguration env proxy ∧
      proxy'.credentialRef = proxy.credentialRef := by
  cases h <;> exact ⟨rfl, rfl⟩

theorem HealthValid.failed (h : HealthValid proxy) (henabled : proxy.enabled = true) {cooling : Bool}
    {cooldownUntil : Option Timestamp} (hnow : parseSafeTimestamp now ≠ none)
    (hchecked : parseSafeTimestamp checkedAt ≠ none) (hlatency : ∀ ms ∈ latencyMs, 0 ≤ ms ∧ ms ≤ 86400000)
    (huntil : ∀ t ∈ cooldownUntil, parseSafeTimestamp t ≠ none) :
    HealthValid (proxy.failed cooling cooldownUntil latencyMs outcome checkedAt now) where
  disabled := by
    have hstate : (if cooling = true then ProxyHealthState.cooldown else .degraded) ≠ .disabled := by
      cases cooling <;> simp
    exact iff_of_false (by simp [ProxyMetadata.failed, henabled]) hstate
  lastHealthCheckAt t ht := Option.some.inj ht ▸ hchecked
  lastSuccessAt := h.lastSuccessAt
  lastFailureAt t ht := Option.some.inj ht ▸ hchecked
  cooldownUntil := huntil
  latencyMs := hlatency
  successCount := h.successCount
  failureCount := by have := h.failureCount; simp only [ProxyMetadata.failed]; omega
  consecutiveFailureCount := by have := h.consecutiveFailureCount; simp only [ProxyMetadata.failed]; omega
  revision := by have := h.revision; simp only [ProxyMetadata.failed]; omega
  successRate := by
    have := h.failureCount
    exact rate_bounds h.successCount (by omega)
  createdAt := h.createdAt
  updatedAt := hnow

theorem HealthValid.succeeded (h : HealthValid proxy) (henabled : proxy.enabled = true)
    (hnow : parseSafeTimestamp now ≠ none) (hchecked : parseSafeTimestamp checkedAt ≠ none)
    (hlatency : ∀ ms ∈ latencyMs, 0 ≤ ms ∧ ms ≤ 86400000) :
    HealthValid (proxy.succeeded policy latencyMs checkedAt now) where
  disabled := by
    have hstate : (if ∃ ms ∈ latencyMs, policy.degradedLatencyMs ≤ ms then ProxyHealthState.degraded else .healthy)
        ≠ .disabled := by
      split <;> simp
    exact iff_of_false (by simp [ProxyMetadata.succeeded, henabled]) hstate
  lastHealthCheckAt t ht := Option.some.inj ht ▸ hchecked
  lastSuccessAt t ht := Option.some.inj ht ▸ hchecked
  lastFailureAt := h.lastFailureAt
  cooldownUntil t ht := (nomatch ht)
  latencyMs := hlatency
  successCount := by have := h.successCount; simp only [ProxyMetadata.succeeded]; omega
  failureCount := h.failureCount
  consecutiveFailureCount := le_rfl
  revision := by have := h.revision; simp only [ProxyMetadata.succeeded]; omega
  successRate := by
    have := h.successCount
    have := h.failureCount
    exact rate_bounds (by omega) (by omega)
  createdAt := h.createdAt
  updatedAt := hnow

/-- **A check keeps the record valid** exactly when a cooldown that it starts ends in time. -/
theorem Checked.valid_iff (h : Checked proxy outcome now policy checkedAt latencyMs proxy')
    (hvalid : assertProxyMetadata env proxy = .ok ()) (hnow : parseSafeTimestamp now ≠ none)
    (hchecked : parseSafeTimestamp checkedAt ≠ none) (hlatency : ∀ ms ∈ latencyMs, 0 ≤ ms ∧ ms ≤ 86400000)
    (hcooldown : 0 ≤ policy.cooldownMs) :
    assertProxyMetadata env proxy' = .ok () ↔ EndsInTime proxy outcome now policy := by
  obtain ⟨hconfig, href, hhealth⟩ := assertProxyMetadata_ok.1 hvalid
  have hiff : assertProxyMetadata env proxy' = .ok () ↔ HealthValid proxy' := by
    have hkept : assertProxyConfiguration env proxy' = assertProxyConfiguration env proxy ∧
        proxy'.credentialRef = proxy.credentialRef := h.configuration
    rw [assertProxyMetadata_ok, hkept.1, hkept.2]
    exact ⟨fun h => h.2.2, fun h => ⟨hconfig, href, h⟩⟩
  rw [hiff]
  cases h with
  | disabled henabled =>
    refine iff_of_true ?_ fun hstart => ?_
    · exact
        { hhealth with
          disabled := iff_of_true henabled rfl
          lastHealthCheckAt := fun t ht => Option.some.inj ht ▸ hchecked
          revision := by have := hhealth.revision; simp only; omega
          updatedAt := hnow }
    · exact absurd (henabled.symm.trans hstart.1) Bool.false_ne_true
  | success henabled hstatus =>
    refine iff_of_true (hhealth.succeeded henabled hnow hchecked hlatency) fun hstart => ?_
    exact absurd (hstatus.symm.trans hstart.2.1) (by decide)
  | failure henabled hstatus hcool =>
    exact iff_of_true (hhealth.failed henabled hnow hchecked hlatency fun t ht => (nomatch ht)) fun hstart =>
      absurd hstart hcool
  | @cooldown hstart time htime =>
    constructor
    · intro hvalid' _ time' htime'
      rw [htime] at htime'
      obtain rfl := Option.some.inj htime'
      exact (parseSafeTimestamp_toISOString_iff.1 (hvalid'.cooldownUntil _ rfl)).2
    · intro htimely
      refine hhealth.failed hstart.1 hnow hchecked hlatency fun t ht => ?_
      obtain rfl := Option.some.inj ht
      have hlow := parseSafeTimestamp_ge htime
      exact parseSafeTimestamp_toISOString_iff.2 ⟨by omega, htimely hstart time htime⟩

/-! ### The books of a run -/

/-- The failures behind the last success. -/
def failureStreak (checks : List ProxyTestStatus) : ℕ := (checks.takeWhile (· == .failure)).length

/-- **What a record says about the counted checks.** -/
structure HealthBooks (env : ProxyEnv) (proxy : ProxyMetadata) (checks : List ProxyTestStatus) : Prop where
  valid : assertProxyMetadata env proxy = .ok ()
  cooldown : proxy.healthState = .cooldown ↔ proxy.cooldownUntil ≠ none
  counted : proxy.enabled = false → checks = []
  streak : proxy.consecutiveFailureCount = failureStreak checks
  successes : proxy.successCount = checks.count .success
  failures : proxy.failureCount = checks.count .failure
  rate : proxy.successRate = proxy.successCount / checks.length

theorem counts_add (checks : List ProxyTestStatus) :
    (checks.count .success : ℤ) + checks.count .failure = checks.length := by
  induction checks with
  | nil => rfl
  | cons c checks ih =>
    cases c <;> simp only [List.count_cons, List.length_cons] <;> push_cast <;> simp <;> omega

theorem HealthBooks.made {input : List (Text × JsValue)} (h : createProxyMetadata env input now = .ok proxy) :
    HealthBooks env proxy [] := by
  have hvalid := createProxyMetadata_valid h
  unfold createProxyMetadata at h
  obtain ⟨draft, -, h⟩ := bind_ok.1 h
  obtain ⟨-, h⟩ := check_bind_ok.1 h
  obtain rfl := pure_ok.1 h
  refine
    { valid := hvalid, cooldown := ?_, counted := fun _ => rfl, streak := rfl, successes := rfl, failures := rfl
      rate := by simp }
  cases draft.enabled <;> simp

theorem failed_books (hbooks : HealthBooks env proxy checks) {cooling : Bool} {cooldownUntil : Option Timestamp}
    (hvalid : assertProxyMetadata env (proxy.failed cooling cooldownUntil latencyMs outcome checkedAt now) = .ok ())
    (henabled : proxy.enabled = true) (hcooldown : (if cooling then ProxyHealthState.cooldown else .degraded) = .cooldown ↔
      cooldownUntil ≠ none) :
    HealthBooks env (proxy.failed cooling cooldownUntil latencyMs outcome checkedAt now) (.failure :: checks) := by
  have hstreak := hbooks.streak
  have hsuccesses := hbooks.successes
  have hfailures := hbooks.failures
  have htotal := counts_add checks
  refine
    { valid := hvalid, cooldown := hcooldown, counted := fun hoff => absurd (hoff.symm.trans henabled) Bool.false_ne_true
      streak := ?_, successes := ?_, failures := ?_, rate := ?_ }
  · simp only [ProxyMetadata.failed, failureStreak, List.takeWhile_cons, beq_self_eq_true, if_pos, List.length_cons]
    unfold failureStreak at hstreak
    omega
  · simpa [ProxyMetadata.failed] using hsuccesses
  · simp only [ProxyMetadata.failed, List.count_cons_self]
    omega
  · simp only [ProxyMetadata.failed, List.length_cons]
    rw [show proxy.successCount + proxy.failureCount + 1 = ((checks.length + 1 : ℕ) : ℤ) by omega]
    norm_cast

/-- **A check keeps the books.** -/
theorem HealthBooks.checked (hbooks : HealthBooks env proxy checks)
    (h : recordProxyHealthCheck env proxy outcome now policy = .ok proxy') (htime : EndsInTime proxy outcome now policy) :
    HealthBooks env proxy' (if proxy.enabled then outcome.status :: checks else checks) := by
  obtain ⟨hvalid, hnow, -, hcooldown, checkedAt, latencyMs, hchecked, hlatency, hcase⟩ := recordProxyHealthCheck_cases h
  have hvalid' := (hcase.valid_iff hvalid hnow hchecked hlatency (by omega)).2 htime
  have hstreak := hbooks.streak
  have hsuccesses := hbooks.successes
  have hfailures := hbooks.failures
  have htotal := counts_add checks
  cases hcase with
  | disabled henabled =>
    have hnone : proxy.cooldownUntil = none := by
      by_contra huntil
      have hstate := (assertProxyMetadata_ok.1 hvalid).2.2.disabled.1 henabled
      rw [hbooks.cooldown.2 huntil] at hstate
      cases hstate
    have hsame : (if proxy.enabled then outcome.status :: checks else checks) = checks := by
      rw [henabled]
      rfl
    rw [hsame]
    exact
      { hbooks with
        valid := hvalid'
        cooldown := iff_of_false (fun h => (nomatch h)) (not_not.2 hnone) }
  | success henabled hstatus =>
    rw [henabled, if_pos rfl, hstatus]
    refine
      { valid := hvalid', cooldown := ?_, counted := fun hoff => absurd (hoff.symm.trans henabled) Bool.false_ne_true
        streak := rfl, successes := ?_, failures := ?_, rate := ?_ }
    · refine iff_of_false ?_ (not_not.2 rfl)
      simp only [ProxyMetadata.succeeded]
      split <;> decide
    · simp only [ProxyMetadata.succeeded, List.count_cons_self]
      omega
    · simpa [ProxyMetadata.succeeded] using hfailures
    · simp only [ProxyMetadata.succeeded, List.length_cons]
      rw [show proxy.successCount + proxy.failureCount + 1 = ((checks.length + 1 : ℕ) : ℤ) by omega]
      norm_cast
  | failure henabled hstatus hcool =>
    rw [henabled, if_pos rfl, hstatus]
    exact failed_books hbooks hvalid' henabled (iff_of_false (by decide) (not_not.2 rfl))
  | cooldown hstart htime =>
    rw [hstart.1, if_pos rfl, hstart.2.1]
    exact failed_books hbooks hvalid' hstart.1 (iff_of_true rfl (Option.some_ne_none _))

/-- An expiry keeps the books. -/
theorem HealthBooks.expired (hbooks : HealthBooks env proxy checks)
    (h : expireProxyCooldown env proxy now = .ok proxy') : HealthBooks env proxy' checks := by
  obtain ⟨hvalid, hnow, rfl | ⟨hstate, rfl⟩⟩ := expireProxyCooldown_cases h
  · exact hbooks
  obtain ⟨hconfig, href, hhealth⟩ := assertProxyMetadata_ok.1 hvalid
  have henabled : proxy.enabled = true := by
    rw [← Bool.not_eq_false]
    intro hoff
    rw [hhealth.disabled.1 hoff] at hstate
    cases hstate
  have hhealth' : HealthValid
      { proxy with
        healthState := if proxy.enabled then .degraded else .disabled, cooldownUntil := none, updatedAt := now,
        revision := proxy.revision + 1 } :=
    { hhealth with
      disabled := iff_of_false (by simp [henabled]) (by simp [henabled])
      cooldownUntil := fun t ht => (nomatch ht)
      revision := by have := hhealth.revision; simp only; omega
      updatedAt := hnow }
  exact
    { hbooks with
      valid := assertProxyMetadata_ok.2 ⟨hconfig, href, hhealth'⟩
      cooldown := iff_of_false (by simp [henabled]) (not_not.2 rfl) }

theorem HealthRun.books (h : HealthRun env proxy checks) : HealthBooks env proxy checks := by
  induction h with
  | made h => exact .made h
  | checked _ h htime ih => exact ih.checked h htime
  | expired _ h ih => exact ih.expired h

theorem failureStreak_le (checks : List ProxyTestStatus) : failureStreak checks ≤ checks.count .failure := by
  induction checks with
  | nil => exact le_rfl
  | cons c checks ih =>
    cases c with
    | success => exact Nat.zero_le _
    | failure =>
      rw [List.count_cons_self]
      exact Nat.succ_le_succ ih

theorem failureStreak_eq_zero : failureStreak checks = 0 ↔ checks.head? ≠ some .failure := by
  cases checks with
  | nil => exact iff_of_true rfl (by simp)
  | cons c checks =>
    cases c with
    | success => exact iff_of_true rfl (by simp)
    | failure => exact iff_of_false (Nat.succ_ne_zero _) (not_not.2 rfl)

end Run

/-! ### The last millisecond -/

namespace Sample

def failedCheck : ProxyHealthCheckOutcome where
  status := .failure
  checkedAt := none
  latencyMs := none
  errorCode := none
  errorSummary := none

/-- The proxy after one failed check that starts no cooldown. -/
def failedOnce : ProxyMetadata := (record "a" "a.b" 80).failed false none none failedCheck now now

theorem failedOnce_run : HealthRun env failedOnce [.failure] := by
  have hrecord : recordProxyHealthCheck env (record "a" "a.b" 80) failedCheck now ⟨3, 30000, 1500⟩ = .ok failedOnce := by
    decide +kernel
  have htime : EndsInTime (record "a" "a.b" 80) failedCheck now ⟨3, 30000, 1500⟩ :=
    fun hstart => absurd hstart.2.2 (by decide)
  exact .checked (.made record_made) hrecord htime

end Sample

end OfflineWebArchiver.ProxyManager
