import OfflineWebArchiver.Scheduler.Ledger
import OfflineWebArchiver.Scheduler.Sample

/-!
# The load that the scheduler counts

The pool counts its workers, the pages of each origin and the workers of each proxy. A release
finds the worker by its identifier, so a reservation that is over ends the worker of a later
one with the same identifier.

* `load_exact`: **while no reservation that is over is released over a newer one, every count
  is the number of live reservations.**
* `load_lost`: a reservation that is released twice.
-/

namespace OfflineWebArchiver

open Scheduler

/-- What the proxy may take, by the metadata that its last reservation had: the smaller of the
pool's limit and its own. -/
def proxyLimit (configuration : WorkerPoolConfiguration) (l : Ledger) (id : String) : ℕ :=
  ((l.tickets.granted.filter (·.onProxy id)).getLast?.bind (·.proxy)).elim 0 (proxyCapacity configuration)

/-- The counts of the pool are the numbers of live reservations, and within the limits. -/
structure LoadExact (configuration : WorkerPoolConfiguration) (l : Ledger) : Prop where
  workers : l.pool.workers.map (·.workerId) = l.tickets.keys (·.workerId)
  distinct : (l.tickets.keys (·.workerId)).Nodup
  pages : ∀ origin, l.pool.originPages origin = l.tickets.count (·.origin == origin)
  active : ∀ id, (l.pool.proxies id).activeWorkers = l.tickets.count (·.onProxy id)
  workers_le : l.pool.workers.length ≤ configuration.globalWorkerConcurrency
  pages_le : ∀ origin, l.pool.originPages origin ≤ configuration.perOriginPageConcurrency
  active_le : ∀ id, (l.pool.proxies id).activeWorkers ≤ proxyLimit configuration l id

/-- A released reservation is live, or its worker identifier is not in use. -/
def ReleasesOnce (l : Ledger) : PoolEvent → Prop
  | .releaseWorker ticket _ _ =>
    ∀ r ∈ l.tickets.granted[ticket]?, (ticket, r) ∈ l.tickets.live ∨ l.pool.has r.workerId = false
  | _ => True

instance (l : Ledger) (e : PoolEvent) : Decidable (ReleasesOnce l e) :=
  match e with
  | .releaseWorker .. => by dsimp only [ReleasesOnce]; infer_instance
  | .tryReserveWorker .. | .getProxyThroughput _ => .isTrue trivial

variable {env : SchedulerEnv} {configuration : WorkerPoolConfiguration} {runId : String} {l : Ledger}

theorem has_iff {s : Scheduler.Pool} {workerId : String} : s.has workerId = true ↔ workerId ∈ s.workers.map (·.workerId) := by
  simp [Scheduler.Pool.has]

namespace LoadExact

theorem start (configuration : WorkerPoolConfiguration) : LoadExact configuration .start where
  workers := rfl
  distinct := List.nodup_nil
  pages _ := rfl
  active _ := rfl
  workers_le := Nat.zero_le _
  pages_le _ := Nat.zero_le _
  active_le _ := Nat.zero_le _

theorem quiet (h : LoadExact configuration l) {pool : Scheduler.Pool} (hquiet : Quiet configuration l.pool pool) :
    LoadExact configuration ⟨pool, l.tickets⟩ where
  workers := hquiet.workers ▸ h.workers
  distinct := h.distinct
  pages := hquiet.originPages ▸ h.pages
  active id := (hquiet.proxies id).activeWorkers.trans (h.active id)
  workers_le := hquiet.workers ▸ h.workers_le
  pages_le := hquiet.originPages ▸ h.pages_le
  active_le id := (hquiet.proxies id).activeWorkers ▸ h.active_le id

/-- A grant moves the limit of its own proxy only. -/
theorem proxyLimit_grant {r : WorkerReservation} {pool : Scheduler.Pool} (id : String) :
    proxyLimit configuration ⟨pool, l.tickets.grant r⟩ id =
      if r.onProxy id then r.proxy.elim 0 (proxyCapacity configuration) else proxyLimit configuration l id := by
  unfold proxyLimit Tickets.grant
  simp only [List.filter_append]
  by_cases hon : r.onProxy id = true
  · simp [hon]
  · simp [hon]

theorem grant (h : LoadExact configuration l) {input : ReserveInput} {r : WorkerReservation} {pool : Scheduler.Pool}
    (hgranted : Scheduler.Granted configuration input l.pool r pool) :
    LoadExact configuration ⟨pool, l.tickets.grant r⟩ where
  workers := by rw [hgranted.workers, h.workers, Tickets.keys_grant]
  distinct := by
    have hfresh : r.workerId ∉ l.tickets.keys (·.workerId) := by
      rw [← h.workers, ← has_iff, hgranted.fresh]
      exact Bool.false_ne_true
    rw [Tickets.keys_grant]
    exact List.nodup_append.2 ⟨h.distinct, List.nodup_singleton _, by
      rintro id hid _ hnew rfl
      exact hfresh (List.mem_singleton.1 hnew ▸ hid)⟩
  pages origin := by rw [hgranted.originPages, h.pages, Tickets.count_grant]
  active id := by rw [hgranted.activeWorkers, h.active, Tickets.count_grant]
  workers_le := by
    have hlength := congrArg List.length hgranted.workers
    simp only [List.length_append, List.length_map, List.length_singleton] at hlength
    have hlt := hgranted.workers_lt
    simp only
    omega
  pages_le origin := by
    have hold := h.pages_le origin
    simp only [hgranted.originPages]
    by_cases horigin : r.origin = origin
    · have hlt := hgranted.pages_lt
      rw [horigin] at hlt
      simp only [horigin, beq_self_eq_true, if_true]
      exact hlt
    · simpa [horigin] using hold
  active_le id := by
    rw [proxyLimit_grant]
    simp only [hgranted.activeWorkers]
    by_cases hon : r.onProxy id = true
    · obtain ⟨proxy, hproxy, rfl⟩ := onProxy_iff.1 hon
      have hroom := hgranted.room hproxy
      simp only [hon, if_true, hproxy]
      exact hroom
    · simpa [hon] using h.active_le id

/-- **The release of a live reservation frees its own slots.** -/
theorem release (h : LoadExact configuration l) {ticket : ℕ} {r : WorkerReservation} {outcome : Scheduler.Outcome} {nowMs : ℤ}
    (hlive : (ticket, r) ∈ l.tickets.live) :
    LoadExact configuration ⟨releaseWorker configuration r outcome nowMs l.pool, l.tickets.giveBack ticket r⟩ := by
  have hhas : l.pool.has r.workerId = true := by
    rw [has_iff, h.workers]
    exact List.mem_map_of_mem hlive
  have hkeys := Tickets.keys_giveBack h.distinct hlive
  have hworkers : (releaseWorker configuration r outcome nowMs l.pool).workers.map (·.workerId) =
      (l.tickets.giveBack ticket r).keys (·.workerId) := by
    rw [releaseWorker_workers hhas, h.workers, hkeys]
  have hpages (origin : String) : (releaseWorker configuration r outcome nowMs l.pool).originPages origin =
      (l.tickets.giveBack ticket r).count (·.origin == origin) := by
    have hcount := Tickets.count_giveBack hlive (p := (·.origin == origin))
    rw [releaseWorker_originPages hhas, h.pages, hcount]
    omega
  have hactive (id : String) : ((releaseWorker configuration r outcome nowMs l.pool).proxies id).activeWorkers =
      (l.tickets.giveBack ticket r).count (·.onProxy id) := by
    have hcount := Tickets.count_giveBack hlive (p := (·.onProxy id))
    rw [releaseWorker_activeWorkers hhas, h.active, hcount]
    omega
  refine ⟨hworkers, hkeys ▸ h.distinct.filter _, hpages, hactive, ?_, fun origin => ?_, fun id => ?_⟩
  · have hnew := congrArg List.length (hworkers.trans hkeys)
    have hold := congrArg List.length h.workers
    have hfilter := List.length_filter_le (· ≠ r.workerId) (l.tickets.keys (·.workerId))
    have hle := h.workers_le
    simp only [List.length_map] at hnew hold
    simp only
    omega
  · have hold := h.pages_le origin
    simp only [releaseWorker_originPages hhas]
    omega
  · have hold := h.active_le id
    simp only [releaseWorker_activeWorkers hhas]
    change _ ≤ proxyLimit configuration l id
    omega

end LoadExact

/-- A reservation that is over and whose worker is gone is released without effect. -/
theorem release_of_over {ticket : ℕ} {outcome : Scheduler.Outcome} {nowMs : ℤ} {r : WorkerReservation}
    (hover : (ticket, r) ∉ l.tickets.live) (hgone : l.pool.has r.workerId = false) :
    (⟨releaseWorker configuration r outcome nowMs l.pool, l.tickets.giveBack ticket r⟩ : Ledger) = l := by
  rw [releaseWorker_of_not_has hgone, Tickets.giveBack_of_not_live hover]

theorem LoadExact.step (h : LoadExact configuration l) {e : PoolEvent} {l' : Ledger}
    (hstep : LedgerStep configuration l e l') (hallowed : ReleasesOnce l e) : LoadExact configuration l' := by
  cases hstep with
  | quiet hquiet => exact h.quiet hquiet
  | granted hgranted => exact h.grant hgranted
  | @released ticket outcome nowMs r hgranted =>
    by_cases hlive : (ticket, r) ∈ l.tickets.live
    · exact h.release hlive
    · rw [release_of_over hlive ((hallowed r hgranted).resolve_left hlive)]
      exact h

/-- **The load is exact.** While no reservation that is over is released over a newer one with
its worker identifier, every count is the number of live reservations and within its limit, and
the release of a reservation that is over changes nothing. -/
theorem load_exact (env : SchedulerEnv) (configuration : WorkerPoolConfiguration) (runId : String)
    (es : List PoolEvent) (h : Run.Meets (Ledger.step env configuration runId) .start ReleasesOnce es) (n : ℕ) :
    LoadExact configuration (ledgerAt env configuration runId es n) ∧
      ∀ ticket outcome nowMs r, es[n]? = some (.releaseWorker ticket outcome nowMs) →
        (ledgerAt env configuration runId es n).tickets.granted[ticket]? = some r →
        (ticket, r) ∉ (ledgerAt env configuration runId es n).tickets.live →
          ledgerAt env configuration runId es (n + 1) = ledgerAt env configuration runId es n := by
  constructor
  · exact Run.stAt_induction (LoadExact.start configuration)
      (fun m e he hload => hload.step (Ledger.step_cases _ e) (h m e he)) n
  · intro ticket outcome nowMs r he hgranted hover
    have hgone := (h n _ he r hgranted).resolve_left hover
    rw [ledgerAt_releaseWorker he hgranted]
    exact release_of_over hover hgone

/-- A worker identifier that is used twice, each reservation released once. -/
theorem load_exact_reused :
    LoadExact Scheduler.Sample.direct
      (ledgerAt Scheduler.Sample.env Scheduler.Sample.direct "r" Scheduler.Sample.reused 3) :=
  (load_exact Scheduler.Sample.env Scheduler.Sample.direct "r" Scheduler.Sample.reused (by decide) 3).1

/-- **A reservation that is released twice** ends the worker of the next one with its worker
identifier. -/
theorem load_lost :
    ¬∀ (env : SchedulerEnv) (configuration : WorkerPoolConfiguration) (runId : String) (es : List PoolEvent) (n : ℕ),
      LoadExact configuration (ledgerAt env configuration runId es n) := by
  intro h
  have hworkers := (h Scheduler.Sample.env Scheduler.Sample.direct "r" Scheduler.Sample.releasedTwice 4).workers
  exact absurd hworkers (by decide)

end OfflineWebArchiver
