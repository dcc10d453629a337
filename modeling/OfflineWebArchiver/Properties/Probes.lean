import OfflineWebArchiver.Scheduler.Ledger
import OfflineWebArchiver.Scheduler.Sample

/-!
# The probes that a breaker counts

A half-open breaker lets a few probes through and counts them. The count goes down when an
outcome is reported to a half-open breaker, whoever reports it.

* `probes_exact`: **while every outcome is reported in time, the count is the number of live
  probes, and a breaker without reservations lets one through again.**
* `probe_leaked`: two probes that both succeed.
-/

namespace OfflineWebArchiver

open Scheduler

/-- A live probe of the proxy. -/
def isProbeOf (id : String) (r : WorkerReservation) : Bool := r.halfOpenProbe && r.onProxy id

/-- The breaker of the proxy counts its live probes, and does not stay shut. -/
structure ProbesExact (configuration : WorkerPoolConfiguration) (l : Ledger) (id : String) : Prop where
  inFlight : (l.pool.proxies id).circuit.probeInFlight = l.tickets.count (isProbeOf id)
  inFlight_le : (l.pool.proxies id).circuit.probeInFlight ≤ configuration.circuitBreaker.halfOpenMaxProbes
  admits : l.tickets.count (·.onProxy id) = 0 →
    ∀ nowMs, (∀ ending ∈ (l.pool.proxies id).circuit.openedUntilMs, ending ≤ nowMs) →
      ((l.pool.proxies id).circuit.beginProbe configuration.circuitBreaker nowMs).1 = true

/-- The outcome is reported to the breaker of the reservation's proxy. -/
def Reported (outcome : Scheduler.Outcome) (halfOpenProbe : Bool) : Prop :=
  outcome.status = .completed ∨ outcome.failureCategory = some .proxy ∨ halfOpenProbe = true

instance (outcome : Scheduler.Outcome) (halfOpenProbe : Bool) : Decidable (Reported outcome halfOpenProbe) := by
  unfold Reported
  infer_instance

/-- A live probe is released while its worker is known and the breaker is half open. Any other
reservation reports nothing to a half-open breaker with probes in flight. -/
def ReportsInTime (l : Ledger) : PoolEvent → Prop
  | .releaseWorker ticket outcome _ =>
    ∀ r ∈ l.tickets.granted[ticket]?, ∀ proxy ∈ r.proxy,
      if r.halfOpenProbe = true ∧ (ticket, r) ∈ l.tickets.live then
        l.pool.has r.workerId = true ∧ (l.pool.proxies proxy.id).circuit.stateValue = .halfOpen
      else
        l.pool.has r.workerId = false ∨ ¬Reported outcome r.halfOpenProbe ∨
          (l.pool.proxies proxy.id).circuit.stateValue ≠ .halfOpen ∨
          (l.pool.proxies proxy.id).circuit.probeInFlight = 0
  | _ => True

instance (l : Ledger) (e : PoolEvent) : Decidable (ReportsInTime l e) := by
  unfold ReportsInTime
  split <;> infer_instance

variable {env : SchedulerEnv} {configuration : WorkerPoolConfiguration} {runId id : String} {l : Ledger}

section Report

variable {c : ProxyCircuitBreaker} {outcome : Scheduler.Outcome} {halfOpenProbe : Bool} {atMs : ℤ}

theorem timed_reportOutcome (h : c.Timed) : (reportOutcome configuration c outcome halfOpenProbe atMs).Timed := by
  unfold reportOutcome
  split_ifs
  · exact .recordSuccess
  · exact h.recordFailure
  · exact h.cancelProbe
  · exact h

/-- A report to a half-open breaker takes one probe off the count. -/
theorem reportOutcome_probeInFlight :
    (reportOutcome configuration c outcome halfOpenProbe atMs).probeInFlight =
      if Reported outcome halfOpenProbe ∧ c.stateValue = .halfOpen then c.probeInFlight - 1 else c.probeInFlight := by
  have hcancel (hreported : Reported outcome halfOpenProbe) : c.cancelProbe.probeInFlight =
      if Reported outcome halfOpenProbe ∧ c.stateValue = .halfOpen then c.probeInFlight - 1 else c.probeInFlight := by
    rw [ProxyCircuitBreaker.cancelProbe_probeInFlight]
    simp only [hreported, true_and]
  unfold reportOutcome
  by_cases hcompleted : outcome.status = .completed
  · rw [if_pos hcompleted]
    exact hcancel (.inl hcompleted)
  rw [if_neg hcompleted]
  by_cases hproxy : outcome.failureCategory = some .proxy
  · rw [if_pos hproxy, ProxyCircuitBreaker.recordFailure_probeInFlight]
    exact hcancel (.inr (.inl hproxy))
  rw [if_neg hproxy]
  by_cases hprobe : halfOpenProbe = true
  · rw [if_pos hprobe]
    exact hcancel (.inr (.inr hprobe))
  · rw [if_neg hprobe, if_neg]
    rintro ⟨hcompleted' | hproxy' | hprobe', -⟩
    · exact hcompleted hcompleted'
    · exact hproxy hproxy'
    · exact hprobe hprobe'

end Report

/-- **A report in time takes back the slot of a live probe and no other.** -/
theorem releaseWorker_probeInFlight (configuration : WorkerPoolConfiguration) {ticket : ℕ} {r : WorkerReservation}
    {outcome : Scheduler.Outcome} {nowMs : ℤ} (hgranted : l.tickets.granted[ticket]? = some r)
    (hintime : ReportsInTime l (.releaseWorker ticket outcome nowMs)) (id : String) :
    ((releaseWorker configuration r outcome nowMs l.pool).proxies id).circuit.probeInFlight =
      (l.pool.proxies id).circuit.probeInFlight -
        if isProbeOf id r = true ∧ (ticket, r) ∈ l.tickets.live then 1 else 0 := by
  by_cases hhas : l.pool.has r.workerId = true
  swap
  · have hgone : l.pool.has r.workerId = false := by simpa using hhas
    rw [releaseWorker_of_not_has hgone]
    -- a live probe of the proxy would still be registered
    have hnot : ¬(isProbeOf id r = true ∧ (ticket, r) ∈ l.tickets.live) := by
      rintro ⟨hprobe, hlive⟩
      obtain ⟨hhalf, hon⟩ := Bool.and_eq_true_iff.1 hprobe
      obtain ⟨proxy, hproxy, -⟩ := onProxy_iff.1 hon
      have hreport := hintime r hgranted proxy hproxy
      rw [if_pos ⟨hhalf, hlive⟩] at hreport
      exact hhas hreport.1
    rw [if_neg hnot, Nat.sub_zero]
  rw [releaseWorker_circuit hhas]
  by_cases hon : r.onProxy id = true
  swap
  · have hnot : ¬isProbeOf id r = true := fun hprobe => hon (Bool.and_eq_true_iff.1 hprobe).2
    rw [if_neg hon, if_neg fun hboth => hnot hboth.1, Nat.sub_zero]
  rw [if_pos hon, reportOutcome_probeInFlight]
  obtain ⟨proxy, hproxy, rfl⟩ := onProxy_iff.1 hon
  have hreport := hintime r hgranted proxy hproxy
  by_cases hprobe : r.halfOpenProbe = true ∧ (ticket, r) ∈ l.tickets.live
  · rw [if_pos hprobe] at hreport
    have hreported : Reported outcome r.halfOpenProbe := .inr (.inr hprobe.1)
    have hmine : isProbeOf proxy.id r = true := Bool.and_eq_true_iff.2 ⟨hprobe.1, hon⟩
    rw [if_pos ⟨hreported, hreport.2⟩, if_pos ⟨hmine, hprobe.2⟩]
  · rw [if_neg hprobe] at hreport
    have hnot : ¬(isProbeOf proxy.id r = true ∧ (ticket, r) ∈ l.tickets.live) := by
      rintro ⟨hmine, hlive⟩
      exact hprobe ⟨(Bool.and_eq_true_iff.1 hmine).1, hlive⟩
    rw [if_neg hnot]
    rcases hreport with hgone | hsilent | hhalf | hnone
    · cases hhas.symm.trans hgone
    · rw [if_neg fun hboth => hsilent hboth.1, Nat.sub_zero]
    · rw [if_neg fun hboth => hhalf hboth.2, Nat.sub_zero]
    · split_ifs <;> omega

/-! ### The invariant -/

/-- What every event keeps. -/
structure ProbeBooks (configuration : WorkerPoolConfiguration) (l : Ledger) : Prop where
  inFlight : ∀ id, (l.pool.proxies id).circuit.probeInFlight = l.tickets.count (isProbeOf id)
  inFlight_le : ∀ id, (l.pool.proxies id).circuit.probeInFlight ≤ configuration.circuitBreaker.halfOpenMaxProbes
  timed : ∀ id, (l.pool.proxies id).circuit.Timed

namespace ProbeBooks

theorem start (configuration : WorkerPoolConfiguration) : ProbeBooks configuration .start where
  inFlight _ := rfl
  inFlight_le _ := Nat.zero_le _
  timed _ h := by cases h

theorem exact (h : ProbeBooks configuration l) (id : String) : ProbesExact configuration l id where
  inFlight := h.inFlight id
  inFlight_le := h.inFlight_le id
  admits hnone nowMs hover := by
    have hle : l.tickets.count (isProbeOf id) ≤ l.tickets.count (·.onProxy id) :=
      Tickets.count_le_count fun r hr => (Bool.and_eq_true_iff.1 hr).2
    refine (h.timed id).beginProbe ?_ hover
    rw [h.inFlight id]
    omega

theorem quiet (h : ProbeBooks configuration l) {pool : Scheduler.Pool} (hquiet : Quiet configuration l.pool pool) :
    ProbeBooks configuration ⟨pool, l.tickets⟩ where
  inFlight id := (hquiet.proxies id).probeInFlight.trans (h.inFlight id)
  inFlight_le id := (hquiet.proxies id).probeInFlight ▸ h.inFlight_le id
  timed id hopen := by
    rw [(hquiet.proxies id).openedUntilMs]
    exact h.timed id ((hquiet.proxies id).opened hopen)

theorem grant (h : ProbeBooks configuration l) {input : ReserveInput} {r : WorkerReservation} {pool : Scheduler.Pool}
    (hgranted : Scheduler.Granted configuration input l.pool r pool) :
    ProbeBooks configuration ⟨pool, l.tickets.grant r⟩ := by
  have hproxy (id : String) : ((pool.proxies id).circuit.probeInFlight = (l.tickets.grant r).count (isProbeOf id)) ∧
      (pool.proxies id).circuit.probeInFlight ≤ configuration.circuitBreaker.halfOpenMaxProbes ∧
      (pool.proxies id).circuit.Timed := by
    obtain ⟨u, hquiet, hcircuit⟩ := hgranted.circuit id
    have htimed : u.circuit.Timed := fun hopen => hquiet.openedUntilMs ▸ h.timed id (hquiet.opened hopen)
    have hinFlight := h.inFlight id
    have hle := h.inFlight_le id
    rw [← hquiet.probeInFlight] at hinFlight hle
    rw [Tickets.count_grant, ← hinFlight]
    rcases hcircuit with ⟨hnot, hsame⟩ | ⟨hprobe, hhalf, hfree, hbegun⟩
    · have hnone : isProbeOf id r = false := hnot
      rw [hsame, hnone]
      exact ⟨rfl, hle, htimed⟩
    · have hone : isProbeOf id r = true := hprobe
      rw [hbegun, hone]
      refine ⟨rfl, hfree, fun hopen => ?_⟩
      cases hhalf.symm.trans hopen
  exact ⟨fun id => (hproxy id).1, fun id => (hproxy id).2.1, fun id => (hproxy id).2.2⟩

theorem timed_release (h : ProbeBooks configuration l) {r : WorkerReservation} {outcome : Scheduler.Outcome} {nowMs : ℤ}
    (id : String) : ((releaseWorker configuration r outcome nowMs l.pool).proxies id).circuit.Timed := by
  by_cases hhas : l.pool.has r.workerId = true
  · rw [releaseWorker_circuit hhas]
    split_ifs
    · exact timed_reportOutcome (h.timed id)
    · exact h.timed id
  · rw [releaseWorker_of_not_has (by simpa using hhas)]
    exact h.timed id

theorem step (h : ProbeBooks configuration l) {e : PoolEvent} {l' : Ledger}
    (hstep : LedgerStep configuration l e l') (hintime : ReportsInTime l e) : ProbeBooks configuration l' := by
  cases hstep with
  | quiet hquiet => exact h.quiet hquiet
  | granted hgranted => exact h.grant hgranted
  | @released ticket outcome nowMs r hgranted =>
    have hrelease := releaseWorker_probeInFlight configuration hgranted hintime
    refine ⟨fun id => ?_, fun id => ?_, h.timed_release⟩
    · simp only [hrelease id, h.inFlight id]
      by_cases hlive : (ticket, r) ∈ l.tickets.live
      · have hcount := Tickets.count_giveBack hlive (p := isProbeOf id)
        rw [hcount]
        simp only [hlive, and_true]
        omega
      · rw [Tickets.giveBack_of_not_live hlive, if_neg fun hboth => hlive hboth.2, Nat.sub_zero]
    · have hle := h.inFlight_le id
      simp only [hrelease id]
      omega

end ProbeBooks

/-- **The probes are exact.** While every outcome is reported in time, a breaker counts its live
probes, within its slots, lets one through again once its reservations are over and its opening
has passed, and the outcome of a reservation that is no probe moves no count. -/
theorem probes_exact (env : SchedulerEnv) (configuration : WorkerPoolConfiguration) (runId : String)
    (es : List PoolEvent) (h : Run.Meets (Ledger.step env configuration runId) .start ReportsInTime es) (n : ℕ) :
    (∀ id, ProbesExact configuration (ledgerAt env configuration runId es n) id) ∧
      ∀ ticket outcome nowMs r, es[n]? = some (.releaseWorker ticket outcome nowMs) →
        (ledgerAt env configuration runId es n).tickets.granted[ticket]? = some r → r.halfOpenProbe = false →
          ∀ id, ((ledgerAt env configuration runId es (n + 1)).pool.proxies id).circuit.probeInFlight =
            ((ledgerAt env configuration runId es n).pool.proxies id).circuit.probeInFlight := by
  have hbooks : ProbeBooks configuration (ledgerAt env configuration runId es n) :=
    Run.stAt_induction (ProbeBooks.start configuration)
      (fun m e he hbooks => hbooks.step (Ledger.step_cases _ e) (h m e he)) n
  refine ⟨hbooks.exact, fun ticket outcome nowMs r he hgranted hold id => ?_⟩
  have hrelease := releaseWorker_probeInFlight configuration hgranted (h n _ he) id
  rw [if_neg, Nat.sub_zero] at hrelease
  · rw [ledgerAt_releaseWorker he hgranted]
    exact hrelease
  · rintro ⟨hprobe, -⟩
    cases hold.symm.trans (Bool.and_eq_true_iff.1 hprobe).1

/-- A probe after an opening. -/
theorem probes_exact_probe :
    ProbesExact Scheduler.Sample.pool
      (ledgerAt Scheduler.Sample.env Scheduler.Sample.pool "r" Scheduler.Sample.oneProbe 3) "p" :=
  (probes_exact Scheduler.Sample.env Scheduler.Sample.pool "r" Scheduler.Sample.oneProbe (by decide +kernel) 3).1 "p"

/-- **Two probes that both succeed** leave one in flight. -/
theorem probe_leaked :
    ¬∀ (env : SchedulerEnv) (configuration : WorkerPoolConfiguration) (runId : String) (es : List PoolEvent)
      (n : ℕ) (id : String), ProbesExact configuration (ledgerAt env configuration runId es n) id := by
  intro h
  have hinFlight :=
    (h Scheduler.Sample.env Scheduler.Sample.pool "r" Scheduler.Sample.twoProbes 6 "p").inFlight
  exact absurd hinFlight (by decide +kernel)

end OfflineWebArchiver
