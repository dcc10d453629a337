import OfflineWebArchiver.Lib.Run
import OfflineWebArchiver.Lib.Scheduling
import OfflineWebArchiver.Scheduler.Calls

/-!
# The pool and its reservations

The pool together with every reservation that it has granted and those that nobody has
released yet. A caller may release any reservation that it was ever given, as often as it
likes.

* `Ledger.step_cases`: an event is quiet, grants one reservation or releases one.
* `Granted.activeWorkers`, `Granted.circuit`: what a grant does to a proxy; the same for a release.
-/

namespace OfflineWebArchiver.Scheduler

instance instLawfulBEqTicket : LawfulBEq (ℕ × WorkerReservation) := inferInstance

variable {env : SchedulerEnv} {configuration : WorkerPoolConfiguration} {runId : String}

/-- The reservation uses the proxy. -/
def WorkerReservation.onProxy (r : WorkerReservation) (id : String) : Bool := r.proxy.any (·.id == id)

theorem onProxy_iff {r : WorkerReservation} {id : String} :
    r.onProxy id = true ↔ ∃ proxy, r.proxy = some proxy ∧ proxy.id = id := by
  unfold WorkerReservation.onProxy
  cases r.proxy with
  | none => simp
  | some proxy => simp

structure Ledger where
  pool : Pool
  tickets : Tickets WorkerReservation

def Ledger.start : Ledger := ⟨{}, .empty⟩

/-- A call of the scheduler. A release names a reservation by its ticket. -/
inductive PoolEvent
  | tryReserveWorker (input : ReserveInput) (isPaused : String → ℤ → Bool) (clock : ℕ → ℤ)
  | releaseWorker (ticket : ℕ) (outcome : Outcome) (nowMs : ℤ)
  | getProxyThroughput (nowMs : ℤ)

def Ledger.step (env : SchedulerEnv) (configuration : WorkerPoolConfiguration) (runId : String) (l : Ledger) :
    PoolEvent → Ledger
  | .tryReserveWorker input isPaused clock =>
    match tryReserveWorker env configuration runId input isPaused clock l.pool with
    | (.ok (some r), pool) => ⟨pool, l.tickets.grant r⟩
    | (_, pool) => ⟨pool, l.tickets⟩
  | .releaseWorker ticket outcome nowMs =>
    match l.tickets.granted[ticket]? with
    | some r => ⟨releaseWorker configuration r outcome nowMs l.pool, l.tickets.giveBack ticket r⟩
    | none => l
  | .getProxyThroughput nowMs => ⟨getProxyThroughput nowMs l.pool, l.tickets⟩

theorem Ledger.step_releaseWorker {l : Ledger} {ticket : ℕ} {r : WorkerReservation} {outcome : Outcome} {nowMs : ℤ}
    (h : l.tickets.granted[ticket]? = some r) :
    l.step env configuration runId (.releaseWorker ticket outcome nowMs) =
      ⟨releaseWorker configuration r outcome nowMs l.pool, l.tickets.giveBack ticket r⟩ := by
  simp only [Ledger.step, h]

/-- The ledger after the first `n` calls. -/
def ledgerAt (env : SchedulerEnv) (configuration : WorkerPoolConfiguration) (runId : String)
    (es : List PoolEvent) (n : ℕ) : Ledger :=
  Run.stAt (Ledger.step env configuration runId) .start es n

theorem ledgerAt_releaseWorker {es : List PoolEvent} {n ticket : ℕ} {r : WorkerReservation} {outcome : Outcome}
    {nowMs : ℤ} (he : es[n]? = some (.releaseWorker ticket outcome nowMs))
    (h : (ledgerAt env configuration runId es n).tickets.granted[ticket]? = some r) :
    ledgerAt env configuration runId es (n + 1) =
      ⟨releaseWorker configuration r outcome nowMs (ledgerAt env configuration runId es n).pool,
        (ledgerAt env configuration runId es n).tickets.giveBack ticket r⟩ :=
  (Run.stAt_succ he).trans (Ledger.step_releaseWorker h)

theorem quiet_getProxyThroughput (configuration : WorkerPoolConfiguration) (nowMs : ℤ) (s : Pool) :
    Quiet configuration s (getProxyThroughput nowMs s) :=
  ⟨rfl, rfl, fun _ => QuietProxy.of_lapse rfl rfl⟩

/-- What an event does to the ledger. -/
inductive LedgerStep (configuration : WorkerPoolConfiguration) (l : Ledger) : PoolEvent → Ledger → Prop
  | quiet {e : PoolEvent} {pool : Pool} (h : Quiet configuration l.pool pool) :
    LedgerStep configuration l e ⟨pool, l.tickets⟩
  | granted {e : PoolEvent} {pool : Pool} {input : ReserveInput} {r : WorkerReservation}
    (h : Granted configuration input l.pool r pool) : LedgerStep configuration l e ⟨pool, l.tickets.grant r⟩
  | released {ticket : ℕ} {outcome : Outcome} {nowMs : ℤ} {r : WorkerReservation}
    (h : l.tickets.granted[ticket]? = some r) :
    LedgerStep configuration l (.releaseWorker ticket outcome nowMs)
      ⟨releaseWorker configuration r outcome nowMs l.pool, l.tickets.giveBack ticket r⟩

/-- **An event is quiet, grants one reservation or releases one.** -/
theorem Ledger.step_cases (l : Ledger) (e : PoolEvent) :
    LedgerStep configuration l e (l.step env configuration runId e) := by
  cases e with
  | tryReserveWorker input isPaused clock =>
    cases hreserve : tryReserveWorker env configuration runId input isPaused clock l.pool with
    | mk result pool =>
      simp only [Ledger.step, hreserve]
      rcases tryReserveWorker_cases hreserve with ⟨hnone, hquiet⟩ | ⟨r, rfl, hgranted⟩
      · rcases result with e | _ | r
        · exact .quiet hquiet
        · exact .quiet hquiet
        · exact absurd rfl (hnone r)
      · exact .granted hgranted
  | releaseWorker ticket outcome nowMs =>
    cases hticket : l.tickets.granted[ticket]? with
    | none =>
      simp only [Ledger.step, hticket]
      exact .quiet (Quiet.refl _)
    | some r =>
      rw [Ledger.step_releaseWorker hticket]
      exact .released hticket
  | getProxyThroughput nowMs => exact .quiet (quiet_getProxyThroughput configuration nowMs l.pool)

/-! ### A grant -/

section Grant

variable {input : ReserveInput} {s t : Pool} {r : WorkerReservation}

/-- What the search for a proxy leaves to the reservation. -/
inductive Chosen (configuration : WorkerPoolConfiguration) (r : WorkerReservation) (u : Pool) : Pool → Prop
  | none (proxy : r.proxy = none) (probe : r.halfOpenProbe = false) : Chosen configuration r u (u.reserve r)
  | some {proxy : ProxyMetadata} (proxy_eq : r.proxy = some proxy) (room : HasRoom configuration u proxy)
    (probe : r.halfOpenProbe = ((u.proxies proxy.id).circuit.stateValue == .halfOpen)) :
    Chosen configuration r u ((u.setCircuit proxy.id (u.proxies proxy.id).circuit.begun).reserve r)

theorem Granted.chosen (h : Granted configuration input s r t) :
    ∃ u, Quiet configuration s u ∧ Chosen configuration r u t := by
  obtain ⟨u, hselection, rfl⟩ := h.selection
  generalize hresult : Except.ok (r.proxy, r.halfOpenProbe) = result at hselection
  cases hselection with
  | failed => cases hresult
  | direct =>
    obtain ⟨hproxy, hprobe⟩ := Prod.mk.injEq .. ▸ Except.ok.inj hresult
    exact ⟨s, Quiet.refl s, .none hproxy hprobe⟩
  | nothing _ hq =>
    obtain ⟨hproxy, hprobe⟩ := Prod.mk.injEq .. ▸ Except.ok.inj hresult
    exact ⟨u, hq, .none hproxy hprobe⟩
  | chosen _ _ hq hroom =>
    obtain ⟨hproxy, hprobe⟩ := Prod.mk.injEq .. ▸ Except.ok.inj hresult
    exact ⟨_, hq, .some hproxy hroom hprobe⟩

theorem Granted.workers (h : Granted configuration input s r t) :
    t.workers.map (·.workerId) = s.workers.map (·.workerId) ++ [r.workerId] := by
  obtain ⟨u, hquiet, hchosen⟩ := h.chosen
  cases hchosen <;> simp [Pool.reserve, Pool.setCircuit, Pool.setProxy, hquiet.workers]

theorem Granted.originPages (h : Granted configuration input s r t) (origin : String) :
    t.originPages origin = s.originPages origin + if r.origin == origin then 1 else 0 := by
  obtain ⟨u, hquiet, hchosen⟩ := h.chosen
  have hpages : t.originPages = Function.update s.originPages r.origin (s.originPages r.origin + 1) := by
    cases hchosen <;> simp [Pool.reserve, Pool.setCircuit, Pool.setProxy, hquiet.originPages]
  rw [hpages]
  by_cases horigin : r.origin = origin
  · simp [horigin]
  · simp [horigin, Function.update_of_ne (Ne.symm horigin)]

/-- A grant on a proxy counts one worker there and nothing elsewhere. -/
theorem Granted.activeWorkers (h : Granted configuration input s r t) (id : String) :
    (t.proxies id).activeWorkers = (s.proxies id).activeWorkers + if r.onProxy id then 1 else 0 := by
  obtain ⟨u, hquiet, hchosen⟩ := h.chosen
  rw [← (hquiet.proxies id).activeWorkers]
  cases hchosen with
  | none hproxy => simp [Pool.reserve, WorkerReservation.onProxy, hproxy]
  | @some proxy hproxy =>
    by_cases hid : proxy.id = id
    · simp [Pool.reserve, Pool.setCircuit, Pool.setProxy, WorkerReservation.onProxy, hproxy, hid]
    · simp [Pool.reserve, Pool.setCircuit, Pool.setProxy, WorkerReservation.onProxy, hproxy, hid,
        Function.update_of_ne (Ne.symm hid)]

theorem Granted.room (h : Granted configuration input s r t) {proxy : ProxyMetadata} (hproxy : r.proxy = some proxy) :
    (s.proxies proxy.id).activeWorkers < proxyCapacity configuration proxy := by
  obtain ⟨u, hquiet, hchosen⟩ := h.chosen
  rw [← (hquiet.proxies proxy.id).activeWorkers]
  cases hchosen with
  | none hnone => cases hnone.symm.trans hproxy
  | some hsome hroom =>
    cases hsome.symm.trans hproxy
    exact hroom.room

/-- What a grant does to the breaker of a proxy: a probe takes a free slot of a half-open
breaker. -/
theorem Granted.circuit (h : Granted configuration input s r t) (id : String) :
    ∃ u, QuietProxy configuration.circuitBreaker (s.proxies id) u ∧
      ((r.halfOpenProbe && r.onProxy id) = false ∧ (t.proxies id).circuit = u.circuit ∨
        (r.halfOpenProbe && r.onProxy id) = true ∧ u.circuit.stateValue = .halfOpen ∧
          u.circuit.probeInFlight < configuration.circuitBreaker.halfOpenMaxProbes ∧
          (t.proxies id).circuit = { u.circuit with probeInFlight := u.circuit.probeInFlight + 1 }) := by
  obtain ⟨u, hquiet, hchosen⟩ := h.chosen
  refine ⟨u.proxies id, hquiet.proxies id, ?_⟩
  cases hchosen with
  | none hproxy hprobe => exact .inl ⟨by simp [hprobe], by simp [Pool.reserve, hproxy]⟩
  | @some proxy hproxy hroom hprobe =>
    by_cases hid : proxy.id = id
    · subst hid
      by_cases hhalf : (u.proxies proxy.id).circuit.stateValue = .halfOpen
      · have hfree := hroom.admits
        refine .inr ⟨?_, hhalf, ?_, ?_⟩
        · simp [hprobe, hhalf, WorkerReservation.onProxy, hproxy]
        · simpa [ProxyCircuitBreaker.admits, hhalf] using hfree
        · simp [Pool.reserve, Pool.setCircuit, Pool.setProxy, hproxy, ProxyCircuitBreaker.begun, hhalf]
      · refine .inl ⟨by simp [hprobe, hhalf], ?_⟩
        simp [Pool.reserve, Pool.setCircuit, Pool.setProxy, hproxy, ProxyCircuitBreaker.begun, hhalf]
    · refine .inl ⟨by simp [WorkerReservation.onProxy, hproxy, hid], ?_⟩
      simp [Pool.reserve, Pool.setCircuit, Pool.setProxy, hproxy, Function.update_of_ne (Ne.symm hid)]

end Grant

/-! ### A release -/

section Release

variable {r : WorkerReservation} {outcome : Outcome} {nowMs : ℤ} {s : Pool}

/-- A release of a worker that is not registered does nothing. -/
theorem releaseWorker_of_not_has (h : s.has r.workerId = false) : releaseWorker configuration r outcome nowMs s = s := by
  unfold releaseWorker
  rw [h]
  rfl

theorem releaseWorker_workers (h : s.has r.workerId = true) :
    (releaseWorker configuration r outcome nowMs s).workers.map (·.workerId) =
      (s.workers.map (·.workerId)).filter (· ≠ r.workerId) := by
  unfold releaseWorker
  rw [h, List.filter_map]
  change (s.workers.filter _).map _ = _
  congr 1
  refine List.filter_congr fun worker _ => ?_
  by_cases hid : worker.workerId = r.workerId
  · simp [hid]
  · simp [hid]

theorem releaseWorker_originPages (h : s.has r.workerId = true) (origin : String) :
    (releaseWorker configuration r outcome nowMs s).originPages origin =
      s.originPages origin - if r.origin == origin then 1 else 0 := by
  unfold releaseWorker
  rw [h]
  by_cases horigin : r.origin = origin
  · simp [horigin]
  · simp [horigin, Function.update_of_ne (Ne.symm horigin)]

theorem releaseWorker_activeWorkers (h : s.has r.workerId = true) (id : String) :
    ((releaseWorker configuration r outcome nowMs s).proxies id).activeWorkers =
      (s.proxies id).activeWorkers - if r.onProxy id then 1 else 0 := by
  unfold releaseWorker WorkerReservation.onProxy
  rw [h]
  cases r.proxy with
  | none => simp
  | some proxy =>
    by_cases hid : proxy.id = id
    · simp [hid, ProxyState.release]
    · simp [hid, Function.update_of_ne (Ne.symm hid)]

theorem releaseWorker_circuit (h : s.has r.workerId = true) (id : String) :
    ((releaseWorker configuration r outcome nowMs s).proxies id).circuit =
      if r.onProxy id then
        reportOutcome configuration (s.proxies id).circuit outcome r.halfOpenProbe (outcome.atMs.getD nowMs)
      else (s.proxies id).circuit := by
  unfold releaseWorker WorkerReservation.onProxy
  rw [h]
  cases r.proxy with
  | none => simp
  | some proxy =>
    by_cases hid : proxy.id = id
    · simp [hid, ProxyState.release]
    · simp [hid, Function.update_of_ne (Ne.symm hid)]

end Release

end OfflineWebArchiver.Scheduler
