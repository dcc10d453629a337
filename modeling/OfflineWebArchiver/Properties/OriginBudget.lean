import Mathlib.Data.Finset.Dedup
import Mathlib.Data.Finset.Order
import OfflineWebArchiver.Lib.Scheduling
import OfflineWebArchiver.Scheduler.BudgetCalls
import OfflineWebArchiver.Scheduler.Sample

/-!
# The limits of an origin's budget

The budget bounds the requests of an origin in flight and in every window of time, and grants
nothing while the origin cools down. A response can only prolong a cooldown, but a restore writes
what was persisted over it.

* `OriginSound`, `sound_budgetAt`: the requests in flight are the permits that nobody has
  released, and the tokens meter the permits that were ever granted.
* `budget_safe_iff`: **the limits hold in every run; a cooldown never gets shorter if and only if
  no restore brings an earlier end.**
* `Scheduler.Sample.cooldown_shortened`: such a restore.
-/

namespace OfflineWebArchiver

open Scheduler TokenBucket

namespace Scheduler.BudgetSystem

/-- The permits of the origin that nobody has released. -/
def unreleased (s : BudgetSystem) (origin : String) : ℕ := s.permits.count (·.origin == origin)

/-- When the permits of the origin were granted. -/
def history (s : BudgetSystem) (origin : String) : List ℚ :=
  (s.permits.granted.filter (·.origin == origin)).map (·.acquiredAtMs)

end Scheduler.BudgetSystem

/-- The limits that the budget keeps in every state. A rate is for one second. -/
structure BudgetSafe (configuration : BudgetConfiguration) (s : BudgetSystem) : Prop where
  inflight : ∀ origin, s.unreleased origin ≤ configuration.perOriginMaxInflightRequests
  tokens : configuration.perOriginRequestsPerSecond.isSome = true → ∀ origin, ∀ state ∈ s.states origin,
    0 ≤ state.tokens ∧ state.tokens ≤ configuration.burstLimit
  window : ∀ rate ∈ configuration.perOriginRequestsPerSecond, ∀ origin start seconds, 0 ≤ seconds →
    ((s.history origin).countP (fun time => start ≤ time && time ≤ start + seconds * 1000) : ℚ) ≤
      configuration.burstLimit + rate * seconds

/-- What a call keeps: it grants nothing in a cooldown, and no cooldown gets shorter. -/
structure CallSafe (env : BudgetEnv) (configuration : BudgetConfiguration) (s : BudgetSystem) (e : BudgetEvent) :
    Prop where
  cooling : ∀ permit, (s.step env configuration e).permits.granted = s.permits.granted ++ [permit] →
    ∀ c ∈ s.cooldown permit.origin, c ≤ e.nowMs
  kept : ∀ origin, ∀ c ∈ s.cooldown origin, e.nowMs < c →
    ∃ c' ∈ (s.step env configuration e).cooldown origin, c ≤ c'

/-- A restore does not bring an earlier end than the cooldown has that is in place. -/
def RestoresLater (env : BudgetEnv) (s : BudgetSystem) (e : BudgetEvent) : Prop :=
  ∀ target ∈ e.call.restores env, ∀ c ∈ s.cooldown target.1, e.nowMs < c → c ≤ target.2

instance (env : BudgetEnv) (s : BudgetSystem) (e : BudgetEvent) : Decidable (RestoresLater env s e) := by
  unfold RestoresLater
  infer_instance

variable {env : BudgetEnv} {configuration : BudgetConfiguration} {now later : ℚ} {history : List ℚ} {held : ℕ}
  {a b : OriginBudgetState} {s : BudgetSystem} {e : BudgetEvent} {es : List BudgetEvent}

/-! ### One origin -/

/-- A state agrees with the permits that were granted (`history`) and those still held. -/
structure OriginSound (configuration : BudgetConfiguration) (now : ℚ) (history : List ℚ) (held : ℕ)
    (state : OriginBudgetState) : Prop where
  inflight : state.inflight = held
  capped : held ≤ configuration.perOriginMaxInflightRequests
  past : state.lastRefillMs ≤ now
  metered : ∀ rate ∈ configuration.perOriginRequestsPerSecond,
    Metered ((rate : ℚ) / 1000) configuration.burstLimit state.tokens state.lastRefillMs history

theorem perMs_nonneg (rate : ℕ) : 0 ≤ (rate : ℚ) / 1000 := div_nonneg (Nat.cast_nonneg _) (by norm_num)

namespace OriginSound

theorem created : OriginSound configuration now [] 0 ⟨0, configuration.burstLimit, now, none, none⟩ :=
  ⟨rfl, Nat.zero_le _, le_rfl, fun rate _ => Metered.start (perMs_nonneg rate) (Nat.cast_nonneg _)⟩

theorem refill (h : OriginSound configuration now history held a) :
    OriginSound configuration now history held (refill configuration a now) ∧
      (Scheduler.refill configuration a now).lastRefillMs = now := by
  unfold Scheduler.refill
  cases hrate : configuration.perOriginRequestsPerSecond with
  | none => exact ⟨⟨h.inflight, h.capped, le_rfl, by simp [hrate]⟩, rfl⟩
  | some rate =>
    dsimp only
    split_ifs with hpast
    · exact ⟨h, le_antisymm h.past hpast⟩
    · refine ⟨⟨h.inflight, h.capped, le_rfl, fun r hr => ?_⟩, rfl⟩
      obtain rfl : rate = r := by simpa [hrate] using hr
      have hmetered := (h.metered rate hr).refill (perMs_nonneg rate) h.past
      have hgain : (rate : ℚ) / 1000 * (now - a.lastRefillMs) = (now - a.lastRefillMs) / 1000 * rate := by ring
      rw [hgain] at hmetered
      exact hmetered

theorem kept (h : OriginSound configuration now history held a) (hkept : Kept configuration now a b) :
    OriginSound configuration now history held b := by
  -- the bucket is that of `a` or that of its refill
  obtain ⟨source, hsource, hbucket⟩ : ∃ source, OriginSound configuration now history held source ∧
      b.bucket = source.bucket := by
    rcases hkept.bucket with hsame | hrefilled
    · exact ⟨a, h, hsame⟩
    · exact ⟨_, h.refill.1, hrefilled⟩
  obtain ⟨htokens, hlast⟩ := Prod.mk.injEq .. ▸ hbucket
  exact ⟨hkept.inflight.trans h.inflight, h.capped, hlast ▸ hsource.past, fun rate hr => by
    rw [htokens, hlast]
    exact hsource.metered rate hr⟩

/-- When `acquire` does not wait. -/
theorem wait_nonpos (h : waitMilliseconds configuration a now ≤ 0) :
    a.cooling now = false ∧ a.inflight < configuration.perOriginMaxInflightRequests ∧
      (configuration.perOriginRequestsPerSecond.isSome = true → 1 ≤ a.tokens) := by
  unfold waitMilliseconds at h
  by_cases hcooling : a.cooling now = true
  · rw [if_pos hcooling] at h
    obtain ⟨c, hc, hlt⟩ := cooling_iff.1 hcooling
    rw [hc] at h
    exact absurd h (not_le.2 (sub_pos.2 hlt))
  rw [if_neg hcooling] at h
  by_cases hfull : configuration.perOriginMaxInflightRequests ≤ a.inflight
  · rw [if_pos hfull] at h
    norm_num at h
  · rw [if_neg hfull] at h
    refine ⟨by simpa using hcooling, Nat.not_le.1 hfull, fun hsome => ?_⟩
    obtain ⟨rate, hrate⟩ := Option.isSome_iff_exists.1 hsome
    rw [hrate] at h
    dsimp only at h
    split_ifs at h with htoken
    · exact htoken
    · exact absurd ((le_max_left _ _).trans h) (by norm_num)

theorem take (h : OriginSound configuration now history held a)
    (hwait : waitMilliseconds configuration (Scheduler.refill configuration a now) now ≤ 0) :
    OriginSound configuration now (history ++ [now]) (held + 1)
      ((Scheduler.refill configuration a now).taken configuration) := by
  obtain ⟨hrefill, hlast⟩ := h.refill
  obtain ⟨-, hroom, htoken⟩ := wait_nonpos hwait
  refine ⟨congrArg (· + 1) hrefill.inflight, ?_, hrefill.past, fun rate hr => ?_⟩
  · rw [hrefill.inflight] at hroom
    omega
  · have hsome : configuration.perOriginRequestsPerSecond.isSome = true := Option.isSome_iff_exists.2 ⟨rate, hr⟩
    have hmetered := (hrefill.metered rate hr).take (perMs_nonneg rate) (htoken hsome)
    rw [hlast] at hmetered
    simpa [OriginBudgetState.taken, hsome, hlast] using hmetered

end OriginSound

/-! ### The system -/

structure BudgetSound (configuration : BudgetConfiguration) (now : ℚ) (s : BudgetSystem) : Prop where
  unmet : ∀ origin, s.states origin = none → s.history origin = [] ∧ s.unreleased origin = 0
  met : ∀ origin, ∀ state ∈ s.states origin,
    OriginSound configuration now (s.history origin) (s.unreleased origin) state

namespace BudgetSound

theorem start : BudgetSound configuration now .start :=
  ⟨fun _ _ => ⟨rfl, rfl⟩, fun _ _ h => by cases h⟩

theorem mono (h : BudgetSound configuration now s) (hle : now ≤ later) : BudgetSound configuration later s :=
  ⟨h.unmet, fun origin state hstate =>
    have hsound := h.met origin state hstate
    ⟨hsound.inflight, hsound.capped, hsound.past.trans hle, hsound.metered⟩⟩

/-- The state that a call works on, which it may have to create. -/
theorem state (h : BudgetSound configuration now s) (origin : String) :
    OriginSound configuration now (s.history origin) (s.unreleased origin)
      (s.states.state configuration origin now) := by
  unfold OriginBudgets.state
  cases hstate : s.states origin with
  | none =>
    obtain ⟨hhistory, hheld⟩ := h.unmet origin hstate
    rw [hhistory, hheld]
    exact OriginSound.created
  | some state => exact h.met origin state hstate

/-- Only the state and the permits of one origin change. -/
theorem set (h : BudgetSound configuration now s) {origin : String} {state : OriginBudgetState} {t : BudgetSystem}
    (hstates : t.states = s.states.set origin state)
    (hother : ∀ other ≠ origin, t.history other = s.history other ∧ t.unreleased other = s.unreleased other)
    (hsound : OriginSound configuration now (t.history origin) (t.unreleased origin) state) :
    BudgetSound configuration now t := by
  refine ⟨fun other hnone => ?_, fun other state' hsome => ?_⟩
  · rw [hstates] at hnone
    by_cases hsame : other = origin
    · subst hsame
      simp at hnone
    · rw [OriginBudgets.set_of_ne hsame] at hnone
      rw [(hother other hsame).1, (hother other hsame).2]
      exact h.unmet other hnone
  · rw [hstates] at hsome
    by_cases hsame : other = origin
    · subst hsame
      obtain rfl : state = state' := by simpa using hsome
      exact hsound
    · rw [OriginBudgets.set_of_ne hsame] at hsome
      rw [(hother other hsame).1, (hother other hsame).2]
      exact h.met other state' hsome

theorem grant (h : BudgetSound configuration now s) {origin : String} {waiting : List String}
    (hwait : waitMilliseconds configuration
      (refill configuration (s.states.state configuration origin now) now) now ≤ 0) :
    BudgetSound configuration now
      ⟨s.states.set origin ((refill configuration (s.states.state configuration origin now) now).taken configuration),
        waiting, s.permits.grant ⟨origin, now⟩⟩ := by
  refine h.set rfl (fun other hne => ⟨?_, ?_⟩) ?_
  · simp [BudgetSystem.history, Tickets.grant, Ne.symm hne]
  · simp [BudgetSystem.unreleased, Tickets.count_grant, Ne.symm hne]
  · have hheld : BudgetSystem.unreleased ⟨s.states, waiting, s.permits.grant ⟨origin, now⟩⟩ origin =
        s.unreleased origin + 1 := by simp [BudgetSystem.unreleased, Tickets.count_grant]
    have hhistory : BudgetSystem.history ⟨s.states, waiting, s.permits.grant ⟨origin, now⟩⟩ origin =
        s.history origin ++ [now] := by simp [BudgetSystem.history, Tickets.grant]
    have htake := (h.state origin).take hwait
    rw [← hheld, ← hhistory] at htake
    exact htake

theorem release (h : BudgetSound configuration now s) {ticket : ℕ} {permit : OriginNetworkPermit}
    (hlive : (ticket, permit) ∈ s.permits.live) :
    BudgetSound configuration now
      ⟨releasePermit permit.origin s.states, s.waiting, s.permits.giveBack ticket permit⟩ := by
  have hcount (origin : String) : s.unreleased origin =
      (s.permits.giveBack ticket permit).count (·.origin == origin) + if permit.origin == origin then 1 else 0 :=
    Tickets.count_giveBack hlive
  have hone : s.unreleased permit.origin = (s.permits.giveBack ticket permit).count (·.origin == permit.origin) + 1 := by
    simpa using hcount permit.origin
  cases hstate : s.states permit.origin with
  | none =>
    -- an origin without a state has no permit
    have hnone := (h.unmet permit.origin hstate).2
    omega
  | some state =>
    have hsound := h.met permit.origin state hstate
    have hinflight := hsound.inflight
    have hcapped := hsound.capped
    have hset : releasePermit permit.origin s.states =
        s.states.set permit.origin { state with inflight := state.inflight - 1 } := by simp [releasePermit, hstate]
    refine h.set hset (fun other hne => ⟨rfl, ?_⟩) ⟨?_, ?_, hsound.past, hsound.metered⟩
    · have hother := hcount other
      simp only [beq_iff_eq, Ne.symm hne, if_false] at hother
      exact hother.symm
    · change state.inflight - 1 = (s.permits.giveBack ticket permit).count _
      omega
    · change (s.permits.giveBack ticket permit).count _ ≤ _
      omega

/-- **One call.** -/
theorem step (h : BudgetSound configuration e.nowMs s) :
    BudgetSound configuration e.nowMs (s.step env configuration e) := by
  have hcases := BudgetSystem.step_cases env configuration s e
  generalize s.step env configuration e = t at hcases ⊢
  cases hcases with
  | idle waiting _ => exact ⟨h.unmet, h.met⟩
  | kept origin state waiting _ hkept =>
    exact h.set rfl (fun _ _ => ⟨rfl, rfl⟩) ((h.state origin).kept hkept)
  | granted origin waiting _ hwait => exact h.grant hwait
  | released _ hlive => exact h.release hlive
  | restored origin ms lastStatus _ =>
    have hsound := h.state origin
    exact h.set rfl (fun _ _ => ⟨rfl, rfl⟩) ⟨hsound.inflight, hsound.capped, hsound.past, hsound.metered⟩

end BudgetSound

/-- The clock does not go back. -/
def ClockRuns (es : List BudgetEvent) : Prop := (es.map (·.nowMs)).Pairwise (· ≤ ·)

instance (es : List BudgetEvent) : Decidable (ClockRuns es) := by
  unfold ClockRuns
  infer_instance

/-- **Every run keeps the books of every origin.** -/
theorem sound_budgetAt (hclock : ClockRuns es) (n : ℕ) :
    ∀ now, (∀ e ∈ es.take n, e.nowMs ≤ now) → BudgetSound configuration now (budgetAt env configuration es n) := by
  induction n with
  | zero => exact fun _ _ => BudgetSound.start
  | succ n ih =>
    intro now hnow
    unfold budgetAt at ih ⊢
    cases he : es[n]? with
    | none =>
      rw [Run.stAt_succ_none he]
      exact ih now fun e hmem => hnow e (List.take_subset_take_left _ n.le_succ hmem)
    | some e =>
      -- everything before this call was not later
      have hbefore : ∀ e' ∈ es.take n, e'.nowMs ≤ e.nowMs := by
        intro e' hmem
        obtain ⟨i, hi, rfl⟩ := List.mem_take_iff_getElem.1 hmem
        obtain ⟨hn, rfl⟩ := List.getElem?_eq_some_iff.1 he
        have hpair := List.pairwise_iff_getElem.1 hclock i n (by simp; omega) (by simpa using hn) (by omega)
        simpa using hpair
      have hmem : e ∈ es.take (n + 1) := by
        rw [List.take_add_one, he]
        simp
      rw [Run.stAt_succ he]
      exact (ih e.nowMs hbefore).step.mono (hnow e hmem)

theorem BudgetSound.safe (h : BudgetSound configuration now s) : BudgetSafe configuration s where
  inflight origin := (h.state origin).capped
  tokens hsome origin state hstate := by
    obtain ⟨rate, hrate⟩ := Option.isSome_iff_exists.1 hsome
    have hmetered := (h.met origin state hstate).metered rate hrate
    exact ⟨hmetered.nonneg, hmetered.full⟩
  window rate hrate origin start seconds hseconds := by
    have hwindow := ((h.state origin).metered rate hrate).window start (seconds * 1000) (by positivity)
    have hunit : (rate : ℚ) / 1000 * (seconds * 1000) = rate * seconds := by ring
    rw [hunit] at hwindow
    exact hwindow

/-! ### Cooldowns -/

theorem cooldown_state {origin : String} {nowMs c : ℚ} (hc : c ∈ s.cooldown origin) :
    (s.states.state configuration origin nowMs).cooldownUntilMs = some c :=
  (s.states.state_cooldown origin nowMs).trans hc

theorem cooldown_release {origin other : String} {waiting : List String} {permits : Tickets OriginNetworkPermit} :
    BudgetSystem.cooldown ⟨releasePermit origin s.states, waiting, permits⟩ other = s.cooldown other := by
  unfold BudgetSystem.cooldown releasePermit
  dsimp only
  split
  · rename_i state hstate
    rw [OriginBudgets.cooldown_set]
    split_ifs with hsame
    · subst hsame
      simp [OriginBudgets.cooldown, hstate]
    · rfl
  · rfl

/-- **No permit in a cooldown.** -/
theorem step_cooling {permit : OriginNetworkPermit} {c : ℚ}
    (h : (s.step env configuration e).permits.granted = s.permits.granted ++ [permit])
    (hc : c ∈ s.cooldown permit.origin) : c ≤ e.nowMs := by
  have hgrown (granted : List OriginNetworkPermit) : granted ≠ granted ++ [permit] := by simp
  have hcases := BudgetSystem.step_cases env configuration s e
  generalize s.step env configuration e = t at hcases h
  cases hcases with
  | idle => exact absurd h (hgrown _)
  | kept => exact absurd h (hgrown _)
  | granted origin waiting _ hwait =>
    obtain rfl : ⟨origin, e.nowMs⟩ = permit := by simpa [Tickets.grant] using h
    have hfree := (OriginSound.wait_nonpos hwait).1
    by_contra hlate
    have hsame : (refill configuration (s.states.state configuration origin e.nowMs) e.nowMs).cooldownUntilMs =
        some c := refill_cooldown.trans (cooldown_state hc)
    have hcooling := cooling_iff.2 ⟨c, hsame, not_le.1 hlate⟩
    exact absurd (hfree.symm.trans hcooling) Bool.false_ne_true
  | released => exact absurd h (hgrown _)
  | restored => exact absurd h (hgrown _)

/-- A call that restores nothing keeps every cooldown that is not over. -/
theorem step_kept (hnone : e.call.restores env = none) {origin : String} {c : ℚ} (hc : c ∈ s.cooldown origin)
    (hlater : e.nowMs < c) : ∃ c' ∈ (s.step env configuration e).cooldown origin, c ≤ c' := by
  have hcases := BudgetSystem.step_cases env configuration s e
  generalize s.step env configuration e = t at hcases ⊢
  cases hcases with
  | idle => exact ⟨c, hc, le_rfl⟩
  | kept touched state waiting _ hkept =>
    unfold BudgetSystem.cooldown
    rw [OriginBudgets.cooldown_set]
    split_ifs with hsame
    · subst hsame
      exact hkept.cooldown c (cooldown_state hc) hlater
    · exact ⟨c, hc, le_rfl⟩
  | granted touched waiting _ _ =>
    unfold BudgetSystem.cooldown
    rw [OriginBudgets.cooldown_set]
    split_ifs with hsame
    · subst hsame
      exact ⟨c, refill_cooldown.trans (cooldown_state hc), le_rfl⟩
    · exact ⟨c, hc, le_rfl⟩
  | released =>
    rw [cooldown_release]
    exact ⟨c, hc, le_rfl⟩
  | restored _ _ _ hrestores => exact absurd (hnone.symm.trans hrestores) (by simp)

/-- A restore writes the end that it brings. -/
theorem step_restores {origin : String} {ms : ℤ} (h : e.call.restores env = some (origin, ms)) (other : String) :
    (s.step env configuration e).cooldown other = if other = origin then some (ms : ℚ) else s.cooldown other := by
  have hcases := BudgetSystem.step_cases env configuration s e
  generalize s.step env configuration e = t at hcases ⊢
  cases hcases with
  | idle _ hnone => exact absurd (hnone.symm.trans h) (by simp)
  | kept _ _ _ hnone => exact absurd (hnone.symm.trans h) (by simp)
  | granted _ _ hnone => exact absurd (hnone.symm.trans h) (by simp)
  | released hnone => exact absurd (hnone.symm.trans h) (by simp)
  | restored touched ms' lastStatus hrestores =>
    obtain ⟨rfl, rfl⟩ := Prod.mk.injEq .. ▸ Option.some.inj (hrestores.symm.trans h)
    exact OriginBudgets.cooldown_set

/-- **One call keeps the cooldowns if and only if it does not restore an earlier end.** -/
theorem callSafe_iff : CallSafe env configuration s e ↔ RestoresLater env s e := by
  constructor
  · rintro ⟨-, hkept⟩ ⟨origin, ms⟩ htarget c hc hlater
    obtain ⟨c', hc', hle⟩ := hkept origin c hc hlater
    rw [step_restores htarget, if_pos rfl] at hc'
    obtain rfl : (ms : ℚ) = c' := by simpa using hc'
    exact hle
  · intro h
    refine ⟨fun permit hgrant c hc => step_cooling hgrant hc, fun origin c hc hlater => ?_⟩
    cases hrestores : e.call.restores env with
    | none => exact step_kept hrestores hc hlater
    | some target =>
      obtain ⟨restored, ms⟩ := target
      rw [step_restores hrestores]
      split_ifs with hsame
      · subst hsame
        exact ⟨ms, rfl, h _ hrestores c hc hlater⟩
      · exact ⟨c, hc, le_rfl⟩

/-- **The limits hold in every run, and a cooldown never gets shorter if and only if no restore
brings an earlier end.** -/
theorem budget_safe_iff (hclock : ClockRuns es) :
    ((∀ n, BudgetSafe configuration (budgetAt env configuration es n)) ∧
        Run.Meets (BudgetSystem.step env configuration) .start (CallSafe env configuration) es) ↔
      Run.Meets (BudgetSystem.step env configuration) .start (RestoresLater env) es := by
  have hsafe (n : ℕ) : BudgetSafe configuration (budgetAt env configuration es n) := by
    obtain ⟨now, hnow⟩ : ∃ now, ∀ e ∈ es.take n, e.nowMs ≤ now := by
      obtain ⟨now, hnow⟩ := ((es.take n).map (·.nowMs)).toFinset.exists_le
      exact ⟨now, fun e he => hnow _ (List.mem_toFinset.2 (List.mem_map_of_mem he))⟩
    exact (sound_budgetAt hclock n now hnow).safe
  constructor
  · exact fun h n e he => callSafe_iff.1 (h.2 n e he)
  · exact fun h => ⟨hsafe, fun n e he => callSafe_iff.2 (h n e he)⟩

namespace Scheduler.Sample

/-- **The persisted end replaces the one of the response**, and a request goes out nine seconds
too early. -/
theorem cooldown_shortened : ClockRuns (restoredOver 1000) ∧
    (budgetAt budgetEnv oneRequest (restoredOver 1000) 1).cooldown "https://a.test" = some 10000 ∧
    (budgetAt budgetEnv oneRequest (restoredOver 1000) 2).cooldown "https://a.test" = some 1000 ∧
    (budgetAt budgetEnv oneRequest (restoredOver 1000) 3).permits.granted = [⟨"https://a.test", 1000⟩] ∧
    ¬Run.Meets (BudgetSystem.step budgetEnv oneRequest) .start (CallSafe budgetEnv oneRequest)
      (restoredOver 1000) := by
  refine ⟨by decide, by decide +kernel, by decide +kernel, by decide +kernel, fun h => ?_⟩
  have hkept := (h 1 _ rfl).kept "https://a.test" 10000 (by decide +kernel) (by norm_num)
  obtain ⟨c, hc, hle⟩ := hkept
  have hshort : c ∈ (budgetAt budgetEnv oneRequest (restoredOver 1000) 2).cooldown "https://a.test" := hc
  have hone : (budgetAt budgetEnv oneRequest (restoredOver 1000) 2).cooldown "https://a.test" = some 1000 := by
    decide +kernel
  rw [hone] at hshort
  obtain rfl : (1000 : ℚ) = c := by simpa using hshort
  norm_num at hle

/-- A restore of a later end: the caller waits, and it alone gets the permit. -/
theorem restored_later :
    (∀ n, BudgetSafe oneRequest (budgetAt budgetEnv oneRequest (restoredOver 10000) n)) ∧
      Run.Meets (BudgetSystem.step budgetEnv oneRequest) .start (CallSafe budgetEnv oneRequest)
        (restoredOver 10000) :=
  (budget_safe_iff (by decide)).2 (by decide +kernel)

end Scheduler.Sample

end OfflineWebArchiver
