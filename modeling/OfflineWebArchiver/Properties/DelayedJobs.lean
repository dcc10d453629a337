import OfflineWebArchiver.Properties.JobAccounting

/-!
# Jobs behind a cooldown

A job whose origin cools down is not reserved. The loop decides by one reading of the clock that
every job is paused, and by later ones whether it has something to wait for. A cooldown that
ends between them leaves it with jobs that it blocks.

* `pausedAt_isSome_iff`: when the later readings find a paused job.
* `tryReserveWorker_direct`: a direct worker is reserved or not, without an error.
* `rate_limited_jobs_handed`: **no job is blocked while a cooldown outlasts the readings, and every
  job that is not cancelled is handed out.**
* `Scheduler.Sample.cooldown_between_readings`: a cooldown that ends between two readings.
-/

namespace OfflineWebArchiver

open Scheduler RunState

variable {α : Type} {env : RunEnv} {configuration : RunConfiguration} {options : RunOptions}
  {s t : RunState env α} {e : RunEvent α} {clock : ℕ → ℤ}

/-! ### What the later readings find -/

namespace Scheduler.RunState

/-- The origin of the pending job at the place `k` cools down longer than the reading. -/
def Cools (s : RunState env α) (k : ℕ) (nowMs : ℤ) : Prop :=
  ∃ job ∈ s.pending[k]?, ∃ c ∈ s.budget.cooldown job.origin, (nowMs : ℚ) < c

/-- Some pending job is still paused: the first one whose cooldown outlasts the reading that
looks for it, and this cooldown outlasts the last reading as well. The `n` jobs have the readings
`n`, `n + 1`, …, and the last one is `2 * n`. -/
def Outlasts (s : RunState env α) (clock : ℕ → ℤ) : Prop :=
  ∃ k, s.Cools k (clock (2 * s.pending.length)) ∧ ∀ j < k, ¬s.Cools j (clock (s.pending.length + j))

end Scheduler.RunState

/-- **The later readings find a paused job** exactly when a cooldown outlasts them. -/
theorem pausedAt_isSome_iff (hclock : Monotone clock) :
    (s.pausedAt configuration clock).isSome = true ↔ s.Outlasts clock := by
  have hat {k : ℕ} {job : NormalizedJob env} (hjob : s.pending[k]? = some job) :
      ∃ found, (takeSnapshots configuration clock s.pending 0 s.budget.states).1[k]? = some found ∧
        ∀ i, k ≤ i → (found.cooling (clock i) = true ↔ s.Cools k (clock i)) := by
    obtain ⟨found, hfound, hshows⟩ := takeSnapshots_getElem (i := 0) (b := s.budget.states) hclock hjob
    refine ⟨found, hfound, fun i hi => ?_⟩
    have hle : (clock (0 + k) : ℚ) ≤ clock i := Int.cast_le.2 (hclock (by omega))
    unfold OriginRateLimitSnapshot.cooling Cools
    rw [Option.any_eq_true, hjob]
    constructor
    · rintro ⟨c, hc, hlater⟩
      exact ⟨job, rfl, c, ((hshows c).1 hc).1, by simpa using hlater⟩
    · rintro ⟨other, hsame, c, hc, hlater⟩
      obtain rfl := Option.some.inj hsame
      exact ⟨c, (hshows c).2 ⟨hc, hle.trans_lt hlater⟩, by simpa using hlater⟩
  have hplace {k : ℕ} {found : OriginRateLimitSnapshot}
      (h : (takeSnapshots configuration clock s.pending 0 s.budget.states).1[k]? = some found) :
      ∃ job, s.pending[k]? = some job ∧ k < s.pending.length := by
    obtain ⟨hlt, -⟩ := List.getElem?_eq_some_iff.1 h
    rw [takeSnapshots_length] at hlt
    exact ⟨_, List.getElem?_eq_getElem hlt, hlt⟩
  unfold pausedAt
  rw [Option.isSome_iff_exists]
  simp only [Option.filter_eq_some_iff, findPaused_eq_some]
  constructor
  · rintro ⟨found, ⟨k, hk, -, hbefore⟩, hlast⟩
    obtain ⟨job, hjob, hlt⟩ := hplace hk
    obtain ⟨same, hsame, hcools⟩ := hat hjob
    obtain rfl := Option.some.inj (hk.symm.trans hsame)
    refine ⟨k, (hcools _ (by omega)).1 hlast, fun j hj hearlier => ?_⟩
    obtain ⟨other, hother, -⟩ := id hearlier
    obtain ⟨snapshot, hsnapshot, hcools'⟩ := hat hother
    exact absurd ((hcools' _ (by omega)).2 hearlier) (by simp [hbefore j hj snapshot hsnapshot])
  · rintro ⟨k, hlast, hbefore⟩
    obtain ⟨job, hjob, -⟩ := id hlast
    obtain ⟨found, hfound, hcools⟩ := hat hjob
    have hlt := (List.getElem?_eq_some_iff.1 hjob).1
    refine ⟨found, ⟨k, hfound, (hcools _ (by omega)).2 ?_, fun j hj other hother => ?_⟩, (hcools _ (by omega)).2 hlast⟩
    · -- the look at this snapshot comes before the last reading
      obtain ⟨_, hsame, c, hc, hlater⟩ := hlast
      have hle : (clock (s.pending.length + k) : ℚ) ≤ clock (2 * s.pending.length) := Int.cast_le.2 (hclock (by omega))
      exact ⟨_, hsame, c, hc, hle.trans_lt hlater⟩
    · obtain ⟨job', hjob', -⟩ := hplace hother
      obtain ⟨same, hsame, hcools'⟩ := hat hjob'
      obtain rfl := Option.some.inj (hother.symm.trans hsame)
      simpa using fun hcooling => hbefore j hj ((hcools' _ (by omega)).1 hcooling)

/-! ### Direct workers -/

theorem toString_injective {m n : ℕ} (h : toString m = toString n) : m = n := by
  have hdigits := congrArg (fun s => Nat.ofDigitChars 10 s.toList 0) h
  simpa [Nat.toString_eq_ofList_toDigits] using hdigits

/-- A direct worker with a new identifier is reserved or not. -/
theorem tryReserveWorker_direct {runId : String} {job : NormalizedJob env} {sequence : ℕ} {isPaused : String → ℤ → Bool}
    {pool pool' : Scheduler.Pool} {error : SchedulerError} (hdirect : configuration.connectionMode = .direct)
    (hunbound : job.job.requestedProxyId = none)
    (hsafe : matchesSafeIdentifier (options.workerIdPrefix ++ "-" ++ toString sequence) = true)
    (hnew : pool.has (options.workerIdPrefix ++ "-" ++ toString sequence) = false) :
    tryReserveWorker env.toSchedulerEnv configuration.toWorkerPoolConfiguration runId (reserveInput options job sequence)
      isPaused clock pool ≠ (.error error, pool') := by
  have hselect : selectProxy env.toSchedulerEnv configuration.toWorkerPoolConfiguration (reserveInput options job sequence)
      clock pool = (.ok (none, false), pool) := by
    obtain ⟨hsession, hproxy⟩ : job.job.session.bind (·.proxyId) = none ∧ job.job.proxyId = none := by
      simpa [SchedulerJob.requestedProxyId] using hunbound
    unfold selectProxy
    simp [reserveInput, hsession, hproxy, hdirect]
  have hnormal : normalizeSchedulerJob env.toSchedulerEnv (reserveInput options job sequence).job = .ok job.origin :=
    job.normal
  intro h
  unfold tryReserveWorker at h
  rw [hnormal, hselect] at h
  simp only [reserveInput, hsafe, hnew, Bool.not_true, Bool.false_eq_true, if_false, hdirect, ne_eq, not_true_eq_false,
    false_and] at h
  split_ifs at h <;> cases h

/-! ### Runs -/

/-- The steps that leave every job where it can be handed out: the worker gets a safe identifier,
`onWait` does not throw, and while nothing runs a cooldown outlasts the readings. -/
def KeepsJobs (options : RunOptions) (s : RunState env α) : RunEvent α → Prop
  | .advance clock =>
    matchesSafeIdentifier (options.workerIdPrefix ++ "-" ++ toString (s.sequence + 1)) = true ∧
      (s.phase = .scheduled → s.active = [] → s.pending ≠ [] → s.cancelled = false → s.Outlasts clock)
  | .waited rejected => rejected = false
  | _ => True

/-- Nothing is blocked, and nothing has thrown. -/
structure Unblocked (s : RunState env α) : Prop where
  blocked : s.blocked = []
  phase : s.phase ≠ .threw
  unbound : ∀ job ∈ s.pending, job.job.requestedProxyId = none

theorem rescan_threw (s : RunState env α) : (s.rescan configuration).phase ≠ .threw := by
  unfold rescan
  dsimp only
  split_ifs <;> simp

/-- **One step.** -/
theorem Unblocked.step {ids : List String} (h : Unblocked s) (hsound : RunSound configuration options ids s)
    (hdirect : configuration.connectionMode = .direct) (hclock : ∀ clock, e = .advance clock → Monotone clock)
    (hkeeps : KeepsJobs options s e) : Unblocked (s.step configuration options e) := by
  have hunbound : ∀ job ∈ (s.step configuration options e).pending, job.job.requestedProxyId = none :=
    fun job hjob => h.unbound job (pending_subset hjob)
  have hcases := RunState.step_cases configuration options s e
  generalize s.step configuration options e = t at hcases hunbound ⊢
  cases hcases with
  | idle => exact ⟨h.blocked, h.phase, hunbound⟩
  | finished => exact ⟨h.blocked, by simp, hunbound⟩
  | cancelled => exact ⟨h.blocked, by simp, hunbound⟩
  | begun => exact ⟨h.blocked, rescan_threw _, hunbound⟩
  | scanned => exact ⟨h.blocked, by simp, hunbound⟩
  | refused => exact ⟨h.blocked, by simp, hunbound⟩
  | started => exact ⟨h.blocked, rescan_threw _, hunbound⟩
  | rejected clock states _ hjob herror _ =>
    -- identifiers grow with the sequence, so no running worker has the new one
    have hnew : s.ledger.pool.has (options.workerIdPrefix ++ "-" ++ toString (s.sequence + 1)) = false := by
      rw [Bool.eq_false_iff]
      intro hhas
      have hid := has_iff.1 hhas
      rw [hsound.load.workers] at hid
      unfold Tickets.keys at hid
      rw [hsound.live, List.map_map] at hid
      obtain ⟨task, htask, hname⟩ := List.mem_map.1 hid
      obtain ⟨k, hk, hold⟩ := hsound.named task htask
      have hsame : options.workerIdPrefix ++ "-" ++ toString k = options.workerIdPrefix ++ "-" ++ toString (s.sequence + 1) :=
        hold.symm.trans hname
      rw [String.append_right_inj] at hsame
      have := toString_injective hsame
      omega
    exact absurd herror (tryReserveWorker_direct hdirect (h.unbound _ (List.mem_of_getElem? hjob)) hkeeps.1 hnew)
  | raced => exact ⟨h.blocked, by simp, hunbound⟩
  | paused => exact ⟨h.blocked, by simp, hunbound⟩
  | exhausted clock states reason hphase hactive hpending hlive hpaused =>
    have hsome : (s.pausedAt configuration clock).isSome = true :=
      (pausedAt_isSome_iff (hclock clock rfl)).2 (hkeeps.2 hphase hactive hpending hlive)
    rw [hpaused] at hsome
    cases hsome
  | resumed => exact ⟨h.blocked, by simp, hunbound⟩
  | woken => exact ⟨h.blocked, by simp, hunbound⟩
  | waited rejected _ =>
    obtain rfl : rejected = false := hkeeps
    exact ⟨h.blocked, by simp, hunbound⟩
  | slept => exact ⟨h.blocked, by simp, hunbound⟩
  | aborted => exact ⟨h.blocked, h.phase, hunbound⟩
  | settled outcome nowMs _ _ =>
    unfold RunState.settle at hunbound ⊢
    cases outcome with
    | returned value => exact ⟨h.blocked, h.phase, hunbound⟩
    | thrown error =>
      simp only [record] at hunbound ⊢
      split_ifs at hunbound ⊢
      · exact ⟨h.blocked, h.phase, hunbound⟩
      · exact ⟨h.blocked, h.phase, hunbound⟩
  | forgot => exact ⟨h.blocked, h.phase, hunbound⟩
  | budgeted => exact ⟨h.blocked, h.phase, hunbound⟩

theorem normalizeJob_ok {job : SchedulerJob} {normalized : NormalizedJob env} (h : normalizeJob env job = .ok normalized) :
    normalized.job = { job with origin := some normalized.origin } := by
  unfold normalizeJob at h
  split at h
  · cases h
  · cases h
    rfl

theorem unblocked_start {jobs : List SchedulerJob} {ledger : Ledger} {budget : BudgetSystem}
    (hvalid : ∀ job ∈ jobs, ∃ origin, normalizeSchedulerJob env.toSchedulerEnv job = .ok origin)
    (hunbound : ∀ job ∈ jobs, job.requestedProxyId = none) :
    Unblocked (RunState.start (α := α) env jobs ledger budget) := by
  obtain ⟨pending, hjobs⟩ : ∃ pending, jobs.mapM (normalizeJob env) = .ok pending := by
    clear hunbound
    induction jobs with
    | nil => exact ⟨[], rfl⟩
    | cons job jobs ih =>
      obtain ⟨rest, hrest⟩ := ih fun job hjob => hvalid job (List.mem_cons_of_mem _ hjob)
      obtain ⟨origin, horigin⟩ := hvalid job List.mem_cons_self
      obtain ⟨normalized, hnormalized⟩ : ∃ normalized, normalizeJob env job = .ok normalized := by
        unfold normalizeJob
        split
        · rename_i herror
          cases herror.symm.trans horigin
        · exact ⟨_, rfl⟩
      exact ⟨normalized :: rest, by rw [List.mapM_cons, hnormalized, hrest]; rfl⟩
  have hmem := (Checks.mapM_mem hjobs).2
  unfold RunState.start
  rw [hjobs]
  refine ⟨rfl, by simp, fun normalized hnormalized => ?_⟩
  obtain ⟨job, hjob, hok⟩ := hmem normalized hnormalized
  rw [normalizeJob_ok hok]
  exact hunbound job hjob

/-- **A rate-limited job is delayed, not dropped**, while a cooldown outlasts the readings: no job
is blocked, and every job that is not cancelled is handed to the executor. -/
theorem rate_limited_jobs_handed (env : RunEnv) (configuration : RunConfiguration) (options : RunOptions)
    {jobs : List SchedulerJob} {ledger : Ledger} (budget : BudgetSystem) {es : ℕ → RunEvent α}
    (hload : LoadExact configuration.toWorkerPoolConfiguration ledger) (hidle : ledger.tickets.live = [])
    (hdirect : configuration.connectionMode = .direct) (hunbound : ∀ job ∈ jobs, job.requestedProxyId = none)
    (hvalid : ∀ job ∈ jobs, ∃ origin, normalizeSchedulerJob env.toSchedulerEnv job = .ok origin)
    (hclock : ∀ n clock, es n = .advance clock → Monotone clock)
    (hkeeps : ∀ n, KeepsJobs options (poolRunAt env configuration options jobs ledger budget es n) (es n)) :
    (∀ n, ∀ job ∈ (poolRunAt env configuration options jobs ledger budget es n).blocked,
        job.reason ≠ "CAPACITY_EXHAUSTED") ∧
      (Fair (poolRunAt env configuration options jobs ledger budget es) es →
        CooldownsEnd (poolRunAt env configuration options jobs ledger budget es) es →
        ∃ n, (poolRunAt env configuration options jobs ledger budget es n).phase = .returned ∧
          ((poolRunAt env configuration options jobs ledger budget es n).handed ++
            (poolRunAt env configuration options jobs ledger budget es n).dropped).Perm (jobs.map (·.jobId))) := by
  have hsound := @sound_poolRunAt α env configuration options jobs ledger budget es hload hidle
  have hstart := @unblocked_start α env jobs ledger budget hvalid hunbound
  have hunblocked (n : ℕ) : Unblocked (poolRunAt env configuration options jobs ledger budget es n) := by
    induction n with
    | zero => exact hstart
    | succ n ih => exact ih.step (hsound n) hdirect (hclock n) (hkeeps n)
  have hids : (RunState.start (α := α) env jobs ledger budget).pendingIds = jobs.map (·.jobId) :=
    (start_cases).resolve_left hstart.phase
  refine ⟨fun n job hjob => ?_, fun hfair hcool => ?_⟩
  · rw [(hunblocked n).blocked] at hjob
    cases hjob
  · obtain ⟨n, hended⟩ := run_ends (fun _ => rfl) hsound hfair hcool
    have hphase := hended.resolve_right (hunblocked n).phase
    refine ⟨n, hphase, List.perm_iff_count.2 fun id => ?_⟩
    have hhanded := (hsound n).handed id
    rw [hids] at hhanded
    unfold pendingIds at hhanded
    rw [((hsound n).returned hphase).1, (hunblocked n).blocked] at hhanded
    rw [List.count_append]
    simpa using hhanded

namespace Scheduler.Sample

/-- The response of the one URL asks for a second. -/
def tooMany (ms : ℚ) : RunEvent Unit := .budget ⟨ms, .recordResponse ⟨"https://a.test/", 429, some "1"⟩⟩

/-- The first job gets the response. The second one is paused at 999 ms, and at 1000 ms the loop
finds nothing to wait for. -/
def lateReading : List (RunEvent Unit) :=
  [goes 0, goes 0, goes 0, tooMany 0, .settle 0 (.returned ()) 0, .forget 0, goes 0, goes 500, goes 999, goes 999,
    goes 1000, goes 1000]

/-- What the clock says at an event of a sample run. -/
def reading : RunEvent Unit → Option ℚ
  | .advance clock => some (clock 0)
  | .settle _ _ nowMs => some nowMs
  | .budget event => some event.nowMs
  | _ => none

/-- **A cooldown ends between two readings**: the job behind it is blocked, and the run returns. -/
theorem cooldown_between_readings : (lateReading.filterMap reading).Pairwise (· ≤ ·) ∧
    (runOf ["a", "b"] lateReading 1000 8).budget.cooldown "https://a.test" = some 1000 ∧
    (runOf ["a", "b"] lateReading 1000 12).phase = .returned ∧
    (runOf ["a", "b"] lateReading 1000 12).handed = ["a"] ∧
    (runOf ["a", "b"] lateReading 1000 12).blocked = [⟨"b", "CAPACITY_EXHAUSTED"⟩] ∧
    ¬∀ n, ∀ job ∈ (runOf ["a", "b"] lateReading 1000 n).blocked, job.reason ≠ "CAPACITY_EXHAUSTED" := by
  have hblocked : (runOf ["a", "b"] lateReading 1000 12).blocked = [⟨"b", "CAPACITY_EXHAUSTED"⟩] := by decide +kernel
  refine ⟨by decide +kernel, by decide +kernel, by decide +kernel, by decide +kernel, hblocked, fun h => ?_⟩
  exact h 12 ⟨"b", "CAPACITY_EXHAUSTED"⟩ (hblocked ▸ List.mem_cons_self) rfl

/-- A job waits for a second and is handed out. -/
def delayed : List (RunEvent Unit) :=
  [tooMany 0, goes 0, goes 0, goes 0, goes 0, .waited false, .woke false, goes 1000, goes 1000, goes 1000,
    .settle 0 (.returned ()) 1000, .forget 0, goes 1000, goes 1000]

/-- In the sample run the clock stands still during a step, and `onWait` does not throw. -/
theorem delayed_events {n : ℕ} : (∀ clock, thenGoes delayed 1000 n = .advance clock → ∃ ms : ℤ, clock = fun _ => ms) ∧
    ∀ rejected, thenGoes delayed 1000 n = .waited rejected → rejected = false := by
  rcases Nat.lt_or_ge n delayed.length with hlt | hge
  · have hmem : thenGoes delayed 1000 n ∈ delayed := by
      unfold thenGoes
      rw [List.getElem?_eq_getElem hlt, Option.getD_some]
      exact List.getElem_mem hlt
    generalize thenGoes delayed 1000 n = e at hmem ⊢
    simp only [delayed, List.mem_cons, List.not_mem_nil, or_false] at hmem
    rcases hmem with rfl | rfl | rfl | rfl | rfl | rfl | rfl | rfl | rfl | rfl | rfl | rfl | rfl | rfl
    all_goals
      refine ⟨fun clock h => ?_, fun rejected h => ?_⟩
      · cases h
        try exact ⟨_, rfl⟩
      · cases h
        try rfl
  · rw [thenGoes_later hge]
    refine ⟨fun clock h => ⟨1000, (RunEvent.advance.inj h).symm⟩, fun rejected h => by cases h⟩

/-- Every step of the wait keeps the job. -/
theorem delayed_keeps (n : ℕ) : KeepsJobs ⟨"r", "worker", [], fun _ => false⟩ (runOf ["a"] delayed 1000 n)
    (thenGoes delayed 1000 n) := by
  -- the loop comes to its wait once with nothing running, at the fifth event
  have hcheck : (List.range 15).all (fun n =>
      matchesSafeIdentifier ("worker" ++ "-" ++ toString ((runOf ["a"] delayed 1000 n).sequence + 1)) &&
        (n == 4 || (runOf ["a"] delayed 1000 n).phase != .scheduled ||
          !(runOf ["a"] delayed 1000 n).active.isEmpty)) = true := by decide +kernel
  have hwait : (runOf ["a"] delayed 1000 4).Outlasts fun _ => 0 := by
    have hcool : (runOf ["a"] delayed 1000 4).pending.map (fun job =>
        (runOf ["a"] delayed 1000 4).budget.cooldown job.origin) = [some 1000] := by decide +kernel
    obtain ⟨job, hjob, hcooldown⟩ : ∃ job, (runOf ["a"] delayed 1000 4).pending = [job] ∧
        (runOf ["a"] delayed 1000 4).budget.cooldown job.origin = some 1000 := by
      obtain ⟨job, hjob, hcooldown⟩ := List.map_eq_singleton_iff.1 hcool
      exact ⟨job, hjob, hcooldown⟩
    have hfirst : job ∈ (runOf ["a"] delayed 1000 4).pending[0]? := by
      rw [hjob]
      rfl
    have hlater : (((0 : ℤ) : ℚ)) < 1000 := by decide
    exact ⟨0, ⟨job, hfirst, 1000, hcooldown, hlater⟩, fun j hj => absurd hj (Nat.not_lt_zero j)⟩
  have hstays (n : ℕ) (hn : 14 ≤ n) : runOf ["a"] delayed 1000 n = runOf ["a"] delayed 1000 14 :=
    (@fair_of_returned _ _ defaultRun ⟨"r", "worker", [], fun _ => false⟩ (thenGoes delayed 1000)
      (runOf ["a"] delayed 1000) 14 (fun _ => rfl) (fun n hn => ⟨_, thenGoes_later hn⟩) (by decide +kernel)
      (List.isEmpty_iff.1 (by decide +kernel))).2 n hn
  obtain ⟨m, hm, hsame, hwhen⟩ : ∃ m < 15, runOf ["a"] delayed 1000 n = runOf ["a"] delayed 1000 m ∧ (m = 4 → n = 4) := by
    rcases Nat.lt_or_ge n 15 with hlt | hge
    · exact ⟨n, hlt, rfl, id⟩
    · exact ⟨14, by decide, hstays n (by omega), by omega⟩
  have hone := List.all_eq_true.1 hcheck m (List.mem_range.2 hm)
  simp only [Bool.and_eq_true, Bool.or_eq_true, beq_iff_eq, bne_iff_ne, Bool.not_eq_true', List.isEmpty_eq_false_iff,
    ne_eq] at hone
  cases he : thenGoes delayed 1000 n with
  | advance clock =>
    rw [hsame]
    refine ⟨hone.1, fun hphase hactive _ _ => ?_⟩
    rcases hone.2 with (rfl | hnot) | hnot
    · obtain rfl := hwhen rfl
      obtain rfl : (fun _ => 0) = clock := RunEvent.advance.inj he
      exact hwait
    · exact absurd hphase hnot
    · exact absurd hactive hnot
  | waited rejected => exact delayed_events.2 rejected he
  | _ => trivial

/-- **The delayed job is handed out.** -/
theorem delayed_handed : (∀ n, ∀ job ∈ (runOf ["a"] delayed 1000 n).blocked, job.reason ≠ "CAPACITY_EXHAUSTED") ∧
    ∃ n, (runOf ["a"] delayed 1000 n).phase = .returned ∧
      ((runOf ["a"] delayed 1000 n).handed ++ (runOf ["a"] delayed 1000 n).dropped).Perm ["a"] := by
  obtain ⟨hfair, hcool⟩ := @runOf_fair ["a"] delayed 1000 (by decide +kernel) (by decide +kernel) (by decide +kernel)
  have hvalid : ∀ job ∈ ["a"].map page, ∃ origin, normalizeSchedulerJob runEnv.toSchedulerEnv job = .ok origin := by
    intro job hjob
    obtain rfl : job = page "a" := by simpa using hjob
    exact ⟨"https://a.test", by decide⟩
  have hclock (n : ℕ) (clock : ℕ → ℤ) (h : thenGoes delayed 1000 n = .advance clock) : Monotone clock := by
    obtain ⟨ms, rfl⟩ := delayed_events.1 clock h
    exact monotone_const
  obtain ⟨hblocked, hhanded⟩ := rate_limited_jobs_handed runEnv defaultRun ⟨"r", "worker", [], fun _ => false⟩ .start
    (LoadExact.start _) rfl rfl (by decide) hvalid hclock delayed_keeps
  exact ⟨hblocked, hhanded hfair hcool⟩

end Scheduler.Sample

end OfflineWebArchiver
