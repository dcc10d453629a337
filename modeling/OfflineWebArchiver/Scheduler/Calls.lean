import OfflineWebArchiver.Scheduler.Pool

/-!
# What the calls of the pool do

* `Quiet`: what the search for a proxy may change. Openings lapse and smooth weights move.
* `tryReserveWorker_cases`: **a call reserves a worker, or is quiet.**
-/

namespace OfflineWebArchiver.Scheduler

variable {env : SchedulerEnv} {configuration : WorkerPoolConfiguration} {input : ReserveInput}
  {clock : ℕ → ℤ} {s t u : Pool}

/-- Nothing is reserved or released between `a` and `b`; the breaker may have become half open. -/
structure QuietProxy (configuration : CircuitBreakerConfiguration) (a b : ProxyState) : Prop where
  activeWorkers : b.activeWorkers = a.activeWorkers
  probeInFlight : b.circuit.probeInFlight = a.circuit.probeInFlight
  openedUntilMs : b.circuit.openedUntilMs = a.circuit.openedUntilMs
  opened : b.circuit.stateValue = .opened → a.circuit.stateValue = .opened
  kept : a.circuit.admits configuration = true → b.circuit = a.circuit

namespace QuietProxy

variable {cb : CircuitBreakerConfiguration} {a b c : ProxyState}

theorem of_circuit (hactive : b.activeWorkers = a.activeWorkers) (hcircuit : b.circuit = a.circuit) :
    QuietProxy cb a b :=
  ⟨hactive, by rw [hcircuit], by rw [hcircuit], fun h => hcircuit ▸ h, fun _ => hcircuit⟩

theorem of_lapse {nowMs : ℤ} (hactive : b.activeWorkers = a.activeWorkers)
    (hcircuit : b.circuit = a.circuit.lapse nowMs) : QuietProxy cb a b where
  activeWorkers := hactive
  probeInFlight := by rw [hcircuit, ProxyCircuitBreaker.lapse_probeInFlight]
  openedUntilMs := by rw [hcircuit, ProxyCircuitBreaker.lapse_openedUntilMs]
  opened h := ProxyCircuitBreaker.lapse_opened (hcircuit ▸ h)
  kept h := hcircuit.trans (ProxyCircuitBreaker.lapse_of_admits h)

theorem trans (h : QuietProxy cb a b) (h' : QuietProxy cb b c) : QuietProxy cb a c where
  activeWorkers := h'.activeWorkers.trans h.activeWorkers
  probeInFlight := h'.probeInFlight.trans h.probeInFlight
  openedUntilMs := h'.openedUntilMs.trans h.openedUntilMs
  opened hopen := h.opened (h'.opened hopen)
  kept hadmits := by
    have hsame := h.kept hadmits
    rw [h'.kept (hsame ▸ hadmits), hsame]

end QuietProxy

/-- Nothing is reserved or released between `s` and `t`. -/
structure Quiet (configuration : WorkerPoolConfiguration) (s t : Pool) : Prop where
  workers : t.workers = s.workers
  originPages : t.originPages = s.originPages
  proxies : ∀ id, QuietProxy configuration.circuitBreaker (s.proxies id) (t.proxies id)

theorem Quiet.refl (s : Pool) : Quiet configuration s s :=
  ⟨rfl, rfl, fun _ => QuietProxy.of_circuit rfl rfl⟩

theorem Quiet.trans (h : Quiet configuration s t) (h' : Quiet configuration t u) : Quiet configuration s u :=
  ⟨h'.workers.trans h.workers, h'.originPages.trans h.originPages, fun id => (h.proxies id).trans (h'.proxies id)⟩

theorem quiet_setProxy {id : String} {state : ProxyState}
    (h : QuietProxy configuration.circuitBreaker (s.proxies id) state) :
    Quiet configuration s (s.setProxy id state) := by
  refine ⟨rfl, rfl, fun id' => ?_⟩
  by_cases hid : id' = id
  · rw [hid]
    simpa [Pool.setProxy] using h
  · simpa [Pool.setProxy, hid] using QuietProxy.of_circuit rfl rfl

/-- What a proxy that the search has found may still take. -/
structure HasRoom (configuration : WorkerPoolConfiguration) (s : Pool) (proxy : ProxyMetadata) : Prop where
  room : (s.proxies proxy.id).activeWorkers < proxyCapacity configuration proxy
  admits : (s.proxies proxy.id).circuit.admits configuration.circuitBreaker = true

theorem HasRoom.quiet {proxy : ProxyMetadata} (h : HasRoom configuration s proxy) (hq : Quiet configuration s t) :
    HasRoom configuration t proxy :=
  ⟨(hq.proxies proxy.id).activeWorkers ▸ h.room, (hq.proxies proxy.id).kept h.admits ▸ h.admits⟩

theorem withRoom_spec {nowMs : ℤ} {proxies : List ProxyMetadata} :
    ∀ {s t : Pool} {result}, withRoom configuration nowMs proxies s = (result, t) →
      Quiet configuration s t ∧
        ∀ found, result = .ok found → ∀ proxy ∈ found, proxy ∈ proxies ∧ HasRoom configuration t proxy := by
  induction proxies with
  | nil =>
    intro s t result h
    cases h
    exact ⟨Quiet.refl s, fun found hfound => by cases hfound; simp⟩
  | cons proxy rest ih =>
    intro s t result h
    unfold withRoom at h
    split_ifs at h with hid hroom
    · cases h
      exact ⟨Quiet.refl s, fun found hfound => by cases hfound⟩
    · simp only [ProxyCircuitBreaker.canSchedule] at h
      have hquiet : Quiet configuration s
          (s.setCircuit proxy.id ((s.proxies proxy.id).circuit.lapse nowMs)) :=
        quiet_setProxy (QuietProxy.of_lapse rfl rfl)
      cases hrest : withRoom configuration nowMs rest
          (s.setCircuit proxy.id ((s.proxies proxy.id).circuit.lapse nowMs)) with
      | mk result' t' =>
        obtain ⟨hq, hfound⟩ := ih hrest
        rw [hrest] at h
        cases result' with
        | error e =>
          cases h
          exact ⟨hquiet.trans hq, fun found hfound => by cases hfound⟩
        | ok found' =>
          cases h
          refine ⟨hquiet.trans hq, fun found hok p hp => ?_⟩
          rw [← Except.ok.inj hok] at hp
          replace hp : p ∈ if ((s.proxies proxy.id).circuit.lapse nowMs).admits configuration.circuitBreaker
            then proxy :: found' else found' := hp
          split_ifs at hp with hadmits
          · rcases List.mem_cons.1 hp with rfl | hp
            · refine ⟨List.mem_cons_self, HasRoom.quiet (s := s.setCircuit p.id _) ⟨?_, ?_⟩ hq⟩
              · simpa [Pool.setCircuit, Pool.setProxy] using hroom
              · simpa [Pool.setCircuit, Pool.setProxy] using hadmits
            · exact ⟨List.mem_cons_of_mem _ (hfound found' rfl p hp).1, (hfound found' rfl p hp).2⟩
          · exact ⟨List.mem_cons_of_mem _ (hfound found' rfl p hp).1, (hfound found' rfl p hp).2⟩
    · obtain ⟨hq, hfound⟩ := ih h
      exact ⟨hq, fun found hok p hp =>
        ⟨List.mem_cons_of_mem _ (hfound found hok p hp).1, (hfound found hok p hp).2⟩⟩

theorem eligibleProxies_spec {requestedProxyId : Option String} {now : Timestamp} {nowMs : ℤ} {result}
    (h : eligibleProxies env configuration input requestedProxyId now nowMs s = (result, t)) :
    Quiet configuration s t ∧
      ∀ candidates, result = .ok candidates → ∀ proxy ∈ candidates,
        proxy ∈ input.proxies ∧ requestedProxyId.all (proxy.id == ·) = true ∧ HasRoom configuration t proxy := by
  unfold eligibleProxies at h
  simp only at h
  split at h
  · rename_i e s' hroom
    cases h
    exact ⟨(withRoom_spec hroom).1, fun candidates hok => by cases hok⟩
  · rename_i found s' hroom
    obtain ⟨hq, hfound⟩ := withRoom_spec hroom
    -- sorting and the cut at the best priority keep what each proxy is
    have hsorted : ∀ proxy ∈ found.mergeSort (byPriority env),
        proxy ∈ input.proxies ∧ requestedProxyId.all (proxy.id == ·) = true ∧ HasRoom configuration s' proxy := by
      intro proxy hproxy
      obtain ⟨hmem, hspace⟩ := hfound found rfl proxy (List.mem_mergeSort.1 hproxy)
      have hnamed := List.mem_filter.1 (List.mem_filter.1 hmem).1
      exact ⟨hnamed.1, hnamed.2, hspace⟩
    split at h
    · cases h
      exact ⟨hq, fun candidates hok => by cases hok; simp⟩
    · cases h
      refine ⟨hq, fun candidates hok proxy hproxy => ?_⟩
      rw [← Except.ok.inj hok] at hproxy
      exact hsorted proxy (List.mem_of_mem_filter hproxy)

theorem weigh_spec (configuration : WorkerPoolConfiguration) (candidates : List ProxyMetadata) :
    ∀ (total : ℤ) (selected : Option (ProxyMetadata × ℤ)) (s : Pool),
      Quiet configuration s (weigh env candidates total selected s).2.2 ∧
        ∀ best score, (weigh env candidates total selected s).2.1 = some (best, score) →
          best ∈ candidates ∨ ∃ score, selected = some (best, score) := by
  induction candidates with
  | nil =>
    intro total selected s
    exact ⟨Quiet.refl s, fun best score h => .inr ⟨score, h⟩⟩
  | cons candidate rest ih =>
    intro total selected s
    unfold weigh
    simp only
    have hquiet : Quiet configuration s (s.setProxy candidate.id
        { s.proxies candidate.id with smoothWeight := (s.proxies candidate.id).smoothWeight + candidate.weight }) :=
      quiet_setProxy (QuietProxy.of_circuit rfl rfl)
    refine ⟨hquiet.trans (ih ..).1, fun best score h => ?_⟩
    rcases (ih ..).2 best score h with hmem | ⟨score', hselected⟩
    · exact .inl (List.mem_cons_of_mem _ hmem)
    · split_ifs at hselected
      · obtain ⟨rfl, -⟩ := Prod.mk.injEq .. ▸ Option.some.inj hselected
        exact .inl List.mem_cons_self
      · exact .inr ⟨score', hselected⟩

theorem selectWeighted_spec (env : SchedulerEnv) (configuration : WorkerPoolConfiguration)
    (candidates : List ProxyMetadata) (s : Pool) :
    Quiet configuration s (selectWeighted env candidates s).2 ∧
      ∀ best, (selectWeighted env candidates s).1 = some best → best ∈ candidates := by
  unfold selectWeighted
  obtain ⟨hq, hbest⟩ := @weigh_spec env configuration candidates 0 none s
  split
  · rename_i total t hweigh
    rw [hweigh] at hq
    exact ⟨hq, fun best h => by cases h⟩
  · rename_i total selected score t hweigh
    rw [hweigh] at hq hbest
    refine ⟨hq.trans (quiet_setProxy (QuietProxy.of_circuit rfl rfl)), fun best h => ?_⟩
    rcases hbest selected score rfl with hmem | ⟨_, hnone⟩
    · exact Option.some.inj h ▸ hmem
    · cases hnone

theorem selectLeastLoaded_mem {candidates : List ProxyMetadata} {best : ProxyMetadata}
    (h : selectLeastLoaded env configuration candidates s = some best) : best ∈ candidates :=
  List.mem_mergeSort.1 (List.mem_of_head? h)

theorem selectCandidate_spec {requestedProxyId : Option String} {first : ProxyMetadata}
    {rest : List ProxyMetadata} {selected : Option ProxyMetadata}
    (h : selectCandidate env configuration requestedProxyId first rest s = (selected, t)) :
    Quiet configuration s t ∧ ∀ best, selected = some best → best ∈ first :: rest := by
  unfold selectCandidate at h
  split_ifs at h
  · cases h
    exact ⟨Quiet.refl _, fun best hbest => by cases hbest; exact List.mem_cons_self⟩
  · cases h
    exact ⟨Quiet.refl _, fun best hbest => selectLeastLoaded_mem hbest⟩
  · have hspec := selectWeighted_spec env configuration (first :: rest) s
    rw [h] at hspec
    exact hspec

/-- The breaker of a proxy after a reservation. -/
def ProxyCircuitBreaker.begun (c : ProxyCircuitBreaker) : ProxyCircuitBreaker :=
  if c.stateValue = .halfOpen then { c with probeInFlight := c.probeInFlight + 1 } else c

/-- A proxy with room is not refused. -/
theorem beginSelected_eq {proxy : ProxyMetadata} (h : HasRoom configuration s proxy) :
    beginSelected configuration proxy clock s =
      ((some proxy, (s.proxies proxy.id).circuit.stateValue == .halfOpen),
        s.setCircuit proxy.id (s.proxies proxy.id).circuit.begun) := by
  have hadmits := h.admits
  unfold beginSelected
  simp only [ProxyCircuitBreaker.beginProbe, ProxyCircuitBreaker.canSchedule,
    ProxyCircuitBreaker.lapse_of_admits hadmits, hadmits, ProxyCircuitBreaker.begun]
  by_cases hhalf : (s.proxies proxy.id).circuit.stateValue = .halfOpen
  · have hfree : (s.proxies proxy.id).circuit.probeInFlight < configuration.circuitBreaker.halfOpenMaxProbes := by
      simpa [ProxyCircuitBreaker.admits, hhalf] using hadmits
    simp [hhalf, Nat.not_le.2 hfree]
  · simp [hhalf]

/-- The proxy that a job asks for, by its session or by itself. -/
def SchedulerJob.requestedProxyId (job : SchedulerJob) : Option String := (job.session.bind (·.proxyId)).or job.proxyId

/-- How `selectProxy` ends. -/
inductive Selection (configuration : WorkerPoolConfiguration) (input : ReserveInput) (s : Pool) :
    Except SchedulerError (Option ProxyMetadata × Bool) → Pool → Prop
  | failed {t : Pool} (e : SchedulerError) (quiet : Quiet configuration s t) : Selection configuration input s (.error e) t
  | direct (mode : configuration.connectionMode = .direct) (unbound : input.job.requestedProxyId = none) :
    Selection configuration input s (.ok (none, false)) s
  | nothing {t : Pool} (mode : configuration.connectionMode ≠ .direct) (quiet : Quiet configuration s t) :
    Selection configuration input s (.ok (none, false)) t
  | chosen {t : Pool} {proxy : ProxyMetadata} (mode : configuration.connectionMode ≠ .direct)
    (requested : input.job.requestedProxyId.all (proxy.id == ·) = true) (quiet : Quiet configuration s t)
    (room : HasRoom configuration t proxy) :
    Selection configuration input s (.ok (some proxy, (t.proxies proxy.id).circuit.stateValue == .halfOpen))
      (t.setCircuit proxy.id (t.proxies proxy.id).circuit.begun)

theorem selectProxy_spec {result} (h : selectProxy env configuration input clock s = (result, t)) :
    Selection configuration input s result t := by
  unfold selectProxy at h
  simp only at h
  split_ifs at h with hconflict hdirect hbound
  · cases h
    exact .failed _ (Quiet.refl s)
  · cases h
    exact .failed _ (Quiet.refl s)
  · cases h
    exact .direct hdirect (by simpa [SchedulerJob.requestedProxyId] using hbound)
  · split at h
    · rename_i e t' heligible
      cases h
      exact .failed e (eligibleProxies_spec heligible).1
    · rename_i t' heligible
      cases h
      exact .nothing hdirect (eligibleProxies_spec heligible).1
    · rename_i first rest t' heligible
      obtain ⟨hq, hcandidates⟩ := eligibleProxies_spec heligible
      split at h
      · rename_i u hselect
        cases h
        exact .nothing hdirect (hq.trans (selectCandidate_spec hselect).1)
      · rename_i selected u hselect
        obtain ⟨hq', hmem⟩ := selectCandidate_spec hselect
        obtain ⟨-, hnamed, hroom⟩ := hcandidates _ rfl selected (hmem selected rfl)
        rw [beginSelected_eq (hroom.quiet hq')] at h
        cases h
        exact .chosen hdirect hnamed (hq.trans hq') (hroom.quiet hq')

/-- How `tryReserveWorker` grants `r`, from a state that the search for a proxy has left. -/
structure Granted (configuration : WorkerPoolConfiguration) (input : ReserveInput) (s : Pool)
    (r : WorkerReservation) (t : Pool) : Prop where
  worker : r.workerId = input.workerId
  job : r.job = { input.job with origin := some r.origin }
  fresh : s.has r.workerId = false
  workers_lt : s.workers.length < configuration.globalWorkerConcurrency
  pages_lt : s.originPages r.origin < configuration.perOriginPageConcurrency
  selection : ∃ u, Selection configuration input s (.ok (r.proxy, r.halfOpenProbe)) u ∧ t = u.reserve r
  proxied : configuration.connectionMode ≠ .direct → r.proxy ≠ none

/-- **A call reserves a worker, or is quiet.** -/
theorem tryReserveWorker_cases {runId : String} {isPaused : String → ℤ → Bool} {result}
    (h : tryReserveWorker env configuration runId input isPaused clock s = (result, t)) :
    ((∀ r, result ≠ .ok (some r)) ∧ Quiet configuration s t) ∨
      ∃ r, result = .ok (some r) ∧ Granted configuration input s r t := by
  have hquiet : result = .ok none ∨ (∃ e, result = .error e) → Quiet configuration s t →
      ((∀ r, result ≠ .ok (some r)) ∧ Quiet configuration s t) ∨
        ∃ r, result = .ok (some r) ∧ Granted configuration input s r t := by
    rintro (rfl | ⟨e, rfl⟩) hq
    · exact .inl ⟨fun r hr => (by cases hr), hq⟩
    · exact .inl ⟨fun r hr => (by cases hr), hq⟩
  unfold tryReserveWorker at h
  by_cases hid : (!matchesSafeIdentifier input.workerId) = true
  · rw [if_pos hid] at h
    cases h
    exact hquiet (.inr ⟨_, rfl⟩) (Quiet.refl s)
  rw [if_neg hid] at h
  split at h
  · cases h
    exact hquiet (.inr ⟨_, rfl⟩) (Quiet.refl s)
  rename_i origin horigin
  by_cases hhas : s.has input.workerId = true
  · rw [if_pos hhas] at h
    cases h
    exact hquiet (.inr ⟨_, rfl⟩) (Quiet.refl s)
  by_cases hfull : configuration.globalWorkerConcurrency ≤ s.workers.length ∨
      configuration.perOriginPageConcurrency ≤ s.originPages origin ∨ isPaused origin (clock 0) = true
  · have hstop : (Except.ok none, s) = (result, t) := by
      rw [if_neg hhas] at h
      split_ifs at h with h1 h2 h3
      · exact h
      · exact h
      · exact h
      · exact absurd hfull (by simp only [not_or]; exact ⟨h1, h2, h3⟩)
    cases hstop
    exact hquiet (.inl rfl) (Quiet.refl s)
  obtain ⟨hglobal, hpages, hpaused⟩ : ¬_ ∧ ¬_ ∧ ¬_ := by simpa only [not_or] using hfull
  rw [if_neg hhas, if_neg hglobal, if_neg hpages, if_neg hpaused] at h
  split at h
  · rename_i e u hselect
    cases h
    cases selectProxy_spec hselect with
    | failed _ hq => exact hquiet (.inr ⟨_, rfl⟩) hq
  · rename_i proxy probe u hselect
    have hspec := selectProxy_spec hselect
    by_cases hnone : configuration.connectionMode ≠ .direct ∧ proxy = none
    · rw [if_pos hnone] at h
      cases h
      rw [hnone.2] at hspec
      cases hspec with
      | direct hmode _ => exact absurd hmode hnone.1
      | nothing _ hq => exact hquiet (.inl rfl) hq
    · rw [if_neg hnone] at h
      cases h
      exact .inr ⟨_, rfl, rfl, rfl, by simpa using hhas, Nat.not_le.1 hglobal, Nat.not_le.1 hpages, ⟨u, hspec, rfl⟩,
        fun hmode hp => hnone ⟨hmode, hp⟩⟩

end OfflineWebArchiver.Scheduler
