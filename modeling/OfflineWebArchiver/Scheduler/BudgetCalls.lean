import OfflineWebArchiver.Scheduler.Budget

/-!
# What the calls of the budget do

* `Kept`: what a call that grants and restores nothing may do to an origin. It refills the
  bucket, and no cooldown that is not over gets shorter.
* `BudgetSystem.step_cases`: **a call keeps, grants, releases or restores.**
* `BudgetSystem.step_permits`: only a release ends a permit.
-/

namespace OfflineWebArchiver.Scheduler

variable {env : BudgetEnv} {configuration : BudgetConfiguration} {nowMs : ℚ} {a b : OriginBudgetState}
  {origin : String} {states : OriginBudgets}

@[simp] theorem OriginBudgets.set_same {state : OriginBudgetState} : states.set origin state origin = some state := by
  simp [OriginBudgets.set]

theorem OriginBudgets.set_of_ne {other : String} {state : OriginBudgetState} (h : other ≠ origin) :
    states.set origin state other = states other := by
  simp [OriginBudgets.set, h]

@[simp] theorem OriginBudgets.state_set {state : OriginBudgetState} :
    (states.set origin state).state configuration origin nowMs = state := by
  simp [OriginBudgets.state]

theorem OriginBudgets.set_set {state next : OriginBudgetState} :
    (states.set origin state).set origin next = states.set origin next := by
  simp [OriginBudgets.set]

/-- The tokens and the time of the last refill. -/
def OriginBudgetState.bucket (state : OriginBudgetState) : ℚ × ℚ := (state.tokens, state.lastRefillMs)

def OriginBudgets.cooldown (states : OriginBudgets) (origin : String) : Option ℚ :=
  (states origin).bind (·.cooldownUntilMs)

def BudgetSystem.cooldown (s : BudgetSystem) (origin : String) : Option ℚ := s.states.cooldown origin

theorem OriginBudgets.state_cooldown (states : OriginBudgets) (origin : String) (nowMs : ℚ) :
    (states.state configuration origin nowMs).cooldownUntilMs = states.cooldown origin := by
  unfold OriginBudgets.state OriginBudgets.cooldown
  cases states origin <;> rfl

theorem OriginBudgets.cooldown_set {other : String} {state : OriginBudgetState} :
    (states.set origin state).cooldown other = if other = origin then state.cooldownUntilMs else states.cooldown other := by
  unfold OriginBudgets.cooldown
  split_ifs with hsame
  · subst hsame
    simp
  · rw [OriginBudgets.set_of_ne hsame]

theorem cooling_iff : a.cooling nowMs = true ↔ ∃ c, a.cooldownUntilMs = some c ∧ nowMs < c := by
  unfold OriginBudgetState.cooling
  simp [Option.any_eq_true]

theorem refill_inflight : (refill configuration a nowMs).inflight = a.inflight := by
  unfold refill
  split
  · rfl
  · split_ifs <;> rfl

theorem refill_cooldown : (refill configuration a nowMs).cooldownUntilMs = a.cooldownUntilMs := by
  unfold refill
  split
  · rfl
  · split_ifs <;> rfl

/-- From `a` to `b` nothing is granted or released, and a cooldown that is not over stays. -/
structure Kept (configuration : BudgetConfiguration) (nowMs : ℚ) (a b : OriginBudgetState) : Prop where
  inflight : b.inflight = a.inflight
  bucket : b.bucket = a.bucket ∨ b.bucket = (refill configuration a nowMs).bucket
  cooldown : ∀ c, a.cooldownUntilMs = some c → nowMs < c → ∃ c', b.cooldownUntilMs = some c' ∧ c ≤ c'

theorem Kept.refl (a : OriginBudgetState) : Kept configuration nowMs a a :=
  ⟨rfl, .inl rfl, fun c hc _ => ⟨c, hc, le_rfl⟩⟩

theorem kept_refill : Kept configuration nowMs a (refill configuration a nowMs) :=
  ⟨refill_inflight, .inr rfl, fun c hc _ => ⟨c, refill_cooldown.trans hc, le_rfl⟩⟩

/-- Only a cooldown that is over is cleared. -/
theorem Kept.clear (h : Kept configuration nowMs a b) :
    Kept configuration nowMs a (if b.cooling nowMs then b else { b with cooldownUntilMs := none }) := by
  split_ifs with hcooling
  · exact h
  · refine ⟨h.inflight, h.bucket, fun c hc hnow => ?_⟩
    obtain ⟨c', hc', hle⟩ := h.cooldown c hc hnow
    exact absurd (cooling_iff.2 ⟨c', hc', hnow.trans_le hle⟩) hcooling

/-- The snapshot of a state whose bucket is as it was. -/
theorem Kept.snapshotOf (h : Kept configuration nowMs (states.state configuration origin nowMs) b)
    (hbucket : b.bucket = (states.state configuration origin nowMs).bucket) :
    ∃ state, Kept configuration nowMs (states.state configuration origin nowMs) state ∧
      (snapshotOf configuration origin nowMs (states.set origin b)).2 = states.set origin state := by
  have hrefilled : Kept configuration nowMs (states.state configuration origin nowMs)
      (refill configuration b nowMs) := by
    refine ⟨refill_inflight.trans h.inflight, .inr ?_, fun c hc hnow => ?_⟩
    · obtain ⟨htokens, hlast⟩ := Prod.mk.injEq .. ▸ hbucket
      unfold OriginBudgetState.bucket refill
      split
      · simp [htokens]
      · simp only [hlast]
        split_ifs
        · simp [htokens, hlast]
        · simp [htokens]
    · rw [refill_cooldown]
      exact h.cooldown c hc hnow
  refine ⟨_, hrefilled.clear, ?_⟩
  simp only [Scheduler.snapshotOf, OriginBudgets.state_set, OriginBudgets.set_set]

/-- A snapshot shows the cooldown that is not over, and clears one that is. -/
theorem snapshotOf_cooldown {found : OriginRateLimitSnapshot} {states' : OriginBudgets}
    (h : Scheduler.snapshotOf configuration origin nowMs states = (found, states')) :
    (∀ c, c ∈ found.cooldownUntilMs ↔ c ∈ states.cooldown origin ∧ nowMs < c) ∧
      ∀ other, states'.cooldown other = if other = origin then found.cooldownUntilMs else states.cooldown other := by
  obtain ⟨rfl, rfl⟩ := Prod.mk.injEq .. ▸ h
  have hrefill : (refill configuration (states.state configuration origin nowMs) nowMs).cooldownUntilMs =
      states.cooldown origin := refill_cooldown.trans (states.state_cooldown origin nowMs)
  refine ⟨fun c => ?_, fun other => OriginBudgets.cooldown_set⟩
  dsimp only
  split_ifs with hcooling
  · obtain ⟨c', hc', hlater⟩ := cooling_iff.1 hcooling
    rw [hrefill] at hc' ⊢
    refine ⟨fun hc => ⟨hc, ?_⟩, fun hc => hc.1⟩
    obtain rfl := Option.some.inj (hc'.symm.trans hc)
    exact hlater
  · refine ⟨fun hc => (by cases hc), fun hc => absurd (cooling_iff.2 ⟨c, hrefill.trans hc.1, hc.2⟩) hcooling⟩

theorem observe_bucket {input : OriginResponseObservation} :
    (a.observe env configuration input nowMs).bucket = a.bucket := by
  unfold OriginBudgetState.observe
  split
  · rfl
  · dsimp only
    split_ifs <;> rfl

/-- A response makes a cooldown longer or leaves it as it is. -/
theorem kept_observe {input : OriginResponseObservation} :
    Kept configuration nowMs a (a.observe env configuration input nowMs) := by
  refine ⟨?_, .inl observe_bucket, fun c hc _ => ?_⟩
  · unfold OriginBudgetState.observe
    split
    · rfl
    · dsimp only
      split_ifs <;> rfl
  · unfold OriginBudgetState.observe
    split
    · exact ⟨c, hc, le_rfl⟩
    · dsimp only
      split_ifs
      · exact ⟨_, rfl, by simp [hc]⟩
      · exact ⟨c, hc, le_rfl⟩

/-- The origin and the end that a restore writes. -/
def restoreTarget (env : BudgetEnv) (input : RestoreInput) : Option (String × ℤ) :=
  match canonicalOrigin env.toSchedulerEnv input.origin with
  | .error _ => none
  | .ok origin => if isSafeNatural input.cooldownUntilMs then some (origin, input.cooldownUntilMs) else none

/-- What a call restores. -/
def BudgetCall.restores (env : BudgetEnv) : BudgetCall → Option (String × ℤ)
  | .restore input => restoreTarget env input
  | .restoreRow row => do
    let cooldownUntilMs ← row.cooldownUntil.bind env.parseDate
    if cooldownUntilMs < 0 then none else restoreTarget env ⟨row.origin, cooldownUntilMs, row.lastStatus⟩
  | _ => none

section Restores

variable (env configuration nowMs states)

theorem restore_spec (input : RestoreInput) :
    (restoreTarget env input = none ∧ (restore env configuration input nowMs states).2 = states) ∨
      ∃ origin, restoreTarget env input = some (origin, input.cooldownUntilMs) ∧
        (restore env configuration input nowMs states).2 =
          states.set origin { states.state configuration origin nowMs with
            cooldownUntilMs := some input.cooldownUntilMs, lastStatus := input.lastStatus } := by
  unfold restoreTarget restore
  cases canonicalOrigin env.toSchedulerEnv input.origin with
  | error e => exact .inl ⟨rfl, rfl⟩
  | ok origin =>
    by_cases hsafe : isSafeNatural input.cooldownUntilMs = true
    · exact .inr ⟨origin, by simp [hsafe], by simp [hsafe]⟩
    · exact .inl ⟨by simp [hsafe], by simp [hsafe]⟩

theorem restoreRow_spec (row : OriginRateLimitState) :
    ((BudgetCall.restoreRow row).restores env = none ∧ (restoreRow env configuration row nowMs states).2 = states) ∨
      ∃ origin ms, (BudgetCall.restoreRow row).restores env = some (origin, ms) ∧
        (restoreRow env configuration row nowMs states).2 =
          states.set origin { states.state configuration origin nowMs with
            cooldownUntilMs := some ms, lastStatus := row.lastStatus } := by
  obtain ⟨url, cooldownUntil, lastStatus⟩ := row
  unfold restoreRow BudgetCall.restores
  cases cooldownUntil with
  | none => exact .inl ⟨rfl, rfl⟩
  | some text =>
    cases hdate : env.parseDate text with
    | none => exact .inl ⟨by simp [hdate], by simp [hdate]⟩
    | some ms =>
      by_cases hneg : ms < 0
      · exact .inl ⟨by simp [hdate, hneg], by simp [hdate, hneg]⟩
      · rcases restore_spec env configuration nowMs states ⟨url, ms, lastStatus⟩ with
          ⟨hnone, hsame⟩ | ⟨origin, htarget, hset⟩
        · exact .inl ⟨by simp [hdate, hneg, hnone], by simp [hdate, hneg, hsame]⟩
        · exact .inr ⟨origin, ms, by simp [hdate, hneg, htarget], by simp [hdate, hneg, hset]⟩

end Restores

/-- What a call does to the system. -/
inductive BudgetStep (env : BudgetEnv) (configuration : BudgetConfiguration) (s : BudgetSystem) (e : BudgetEvent) :
    BudgetSystem → Prop
  | idle (waiting : List String) (h : e.call.restores env = none) :
    BudgetStep env configuration s e ⟨s.states, waiting, s.permits⟩
  | kept (origin : String) (state : OriginBudgetState) (waiting : List String) (h : e.call.restores env = none)
    (hkept : Kept configuration e.nowMs (s.states.state configuration origin e.nowMs) state) :
    BudgetStep env configuration s e ⟨s.states.set origin state, waiting, s.permits⟩
  | granted (origin : String) (waiting : List String) (h : e.call.restores env = none)
    (hwait : waitMilliseconds configuration
      (refill configuration (s.states.state configuration origin e.nowMs) e.nowMs) e.nowMs ≤ 0) :
    BudgetStep env configuration s e
      ⟨s.states.set origin
        ((refill configuration (s.states.state configuration origin e.nowMs) e.nowMs).taken configuration),
        waiting, s.permits.grant ⟨origin, e.nowMs⟩⟩
  | released {ticket : ℕ} {permit : OriginNetworkPermit} (h : e.call.restores env = none)
    (hlive : (ticket, permit) ∈ s.permits.live) :
    BudgetStep env configuration s e
      ⟨releasePermit permit.origin s.states, s.waiting, s.permits.giveBack ticket permit⟩
  | restored (origin : String) (ms : ℤ) (lastStatus : Option ℤ) (h : e.call.restores env = some (origin, ms)) :
    BudgetStep env configuration s e
      ⟨s.states.set origin { s.states.state configuration origin e.nowMs with
        cooldownUntilMs := some ms, lastStatus }, s.waiting, s.permits⟩

theorem tryAcquire_cases (s : BudgetSystem) {e : BudgetEvent} (origin : String) (waiting : List String)
    (h : e.call.restores env = none) :
    BudgetStep env configuration s e (s.tryAcquire configuration origin e.nowMs waiting) := by
  unfold BudgetSystem.tryAcquire acquireRound
  by_cases hwait : waitMilliseconds configuration
      (refill configuration (s.states.state configuration origin e.nowMs) e.nowMs) e.nowMs ≤ 0
  · simp only [hwait, if_true]
    exact .granted origin waiting h hwait
  · simp only [hwait, if_false]
    exact .kept origin _ _ h kept_refill

/-- **A call keeps, grants, releases or restores.** -/
theorem BudgetSystem.step_cases (env : BudgetEnv) (configuration : BudgetConfiguration) (s : BudgetSystem)
    (e : BudgetEvent) : BudgetStep env configuration s e (s.step env configuration e) := by
  obtain ⟨nowMs, call⟩ := e
  unfold BudgetSystem.step
  cases call with
  | acquire url aborted =>
    dsimp only
    split
    · exact .idle s.waiting rfl
    · split_ifs
      · exact .idle s.waiting rfl
      · exact tryAcquire_cases s _ _ rfl
  | wake waiter aborted =>
    dsimp only
    split
    · exact .idle s.waiting rfl
    · split_ifs
      · exact .idle _ rfl
      · exact tryAcquire_cases s _ _ rfl
  | interrupt waiter => exact .idle _ rfl
  | release ticket =>
    dsimp only
    split
    · exact .idle s.waiting rfl
    · split_ifs with hlive
      · exact .released rfl hlive
      · exact .idle s.waiting rfl
  | isPaused url =>
    unfold Scheduler.isPaused
    dsimp only
    split
    · exact .idle s.waiting rfl
    · exact .kept _ _ s.waiting rfl (Kept.refl _)
  | recordResponse input =>
    unfold Scheduler.recordResponse
    dsimp only
    split
    · exact .idle s.waiting rfl
    · split_ifs
      · exact .idle s.waiting rfl
      · rename_i origin _ _
        have hobserve : Kept configuration nowMs (s.states.state configuration origin nowMs)
            ((s.states.state configuration origin nowMs).observe env configuration input nowMs) := kept_observe
        obtain ⟨state, hkept, hset⟩ := hobserve.snapshotOf observe_bucket
        dsimp only
        rw [hset]
        exact .kept origin state s.waiting rfl hkept
  | restore input =>
    dsimp only
    rcases restore_spec env configuration nowMs s.states input with ⟨hnone, hsame⟩ | ⟨origin, htarget, hset⟩
    · rw [hsame]
      exact .idle s.waiting hnone
    · rw [hset]
      exact .restored origin _ _ htarget
  | restoreRow row =>
    dsimp only
    rcases restoreRow_spec env configuration nowMs s.states row with ⟨hnone, hsame⟩ | ⟨origin, ms, htarget, hset⟩
    · rw [hsame]
      exact .idle s.waiting hnone
    · rw [hset]
      exact .restored origin ms _ htarget
  | snapshot url =>
    unfold Scheduler.snapshot
    dsimp only
    split
    · exact .idle s.waiting rfl
    · rename_i origin horigin
      have hrefill : Kept configuration nowMs (s.states.state configuration origin nowMs)
          (refill configuration (s.states.state configuration origin nowMs) nowMs) := kept_refill
      exact .kept origin _ s.waiting rfl hrefill.clear

/-- **Who ends a permit**: only the call that releases its ticket. -/
theorem BudgetSystem.step_permits (env : BudgetEnv) (configuration : BudgetConfiguration) (s : BudgetSystem)
    (e : BudgetEvent) : (s.step env configuration e).permits = s.permits ∨
      (∃ permit, (s.step env configuration e).permits = s.permits.grant permit) ∨
      ∃ ticket permit, e.call = .release ticket ∧ (s.step env configuration e).permits = s.permits.giveBack ticket permit := by
  have hacquire : ∀ origin waiting, (s.tryAcquire configuration origin e.nowMs waiting).permits = s.permits ∨
      ∃ permit, (s.tryAcquire configuration origin e.nowMs waiting).permits = s.permits.grant permit := by
    intro origin waiting
    unfold BudgetSystem.tryAcquire
    split
    · exact .inr ⟨_, rfl⟩
    · exact .inl rfl
  obtain ⟨nowMs, call⟩ := e
  unfold BudgetSystem.step
  cases call with
  | acquire url aborted =>
    dsimp only
    split
    · exact .inl rfl
    · split_ifs
      · exact .inl rfl
      · exact (hacquire _ _).imp_right .inl
  | wake waiter aborted =>
    dsimp only
    split
    · exact .inl rfl
    · split_ifs
      · exact .inl rfl
      · exact (hacquire _ _).imp_right .inl
  | release ticket =>
    dsimp only
    split
    · exact .inl rfl
    · split_ifs
      · exact .inr (.inr ⟨ticket, _, rfl, rfl⟩)
      · exact .inl rfl
  | interrupt waiter => exact .inl rfl
  | isPaused url => exact .inl rfl
  | recordResponse input => exact .inl rfl
  | restore input => exact .inl rfl
  | restoreRow row => exact .inl rfl
  | snapshot url => exact .inl rfl

end OfflineWebArchiver.Scheduler
