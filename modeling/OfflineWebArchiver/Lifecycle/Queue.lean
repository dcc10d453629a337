import OfflineWebArchiver.Lifecycle.View

/-!
# What the queue calls do

Each call of the page queue takes a sound pool along a path of `Work`: jobs go on,
none is set aside and none is put back from being set aside.
-/

namespace OfflineWebArchiver

open Relational Program Function Relation

variable {env : Env} {s : Call} {T : Job → Job → Prop}

/-- The state that callers see is a stored state only when the job is not set aside. -/
theorem rowToJob_state {a : PageJobRow} (state : StoredState) :
    (rowToJob a).state = state.toJobState ↔ a.state = state ∧ a.recoveryState = none := by
  show (a.recoveryState.map RecoveryState.toJobState).getD a.state.toJobState = _ ↔ _
  cases hr : a.recoveryState with
  | none =>
    have hinj : a.state.toJobState = state.toJobState ↔ a.state = state := by
      constructor
      · intro h; cases hs : a.state <;> cases state <;> rw [hs] at h <;> first | rfl | cases h
      · rintro rfl; rfl
    simpa using hinj
  | some r => cases r <;> cases state <;> simp [RecoveryState.toJobState, StoredState.toJobState]

/-- One job turns and its lease, if it had one, is closed. -/
theorem did_turn {jobs : Table pageJobs} {leases : Table jobLeases} {a : PageJobRow}
    {p : PageJobRow → Bool} {f : PageJobRow → PageJobRow} (ha : a ∈ s.db.pageJobs.rows)
    (hu : s.db.pageJobs.update p f = some jobs) (hpa : p a = true)
    (hp : ∀ b, p b = true → b.jobId = a.jobId) (hid : (f a).jobId = a.jobId)
    (hT : T (jobOf a) (jobOf (f a)))
    (hl : ∀ jobs, (poolOf jobs leases).held = update (poolOf jobs s.db.jobLeases).held a.jobId none) :
    Did T s.db.core { s.db.core with pageJobs := jobs, jobLeases := leases } := by
  refine Did.of_pool ?_
  rw [pool_put hu ha hpa hp hid (hl _)]
  exact ReflTransGen.single (.turned a.jobId (jobOf a) _ (jobs_mem ha) hT)

/-- One job without a lease turns. -/
theorem did_turn_idle (hs : Sound env.hashText s.db.pool) {jobs : Table pageJobs} {a : PageJobRow}
    {p : PageJobRow → Bool} {f : PageJobRow → PageJobRow} (ha : a ∈ s.db.pageJobs.rows)
    (hu : s.db.pageJobs.update p f = some jobs) (hpa : p a = true)
    (hp : ∀ b, p b = true → b.jobId = a.jobId) (hid : (f a).jobId = a.jobId)
    (hT : T (jobOf a) (jobOf (f a))) (hidle : a.state ≠ .processing ∨ a.recoveryState ≠ none) :
    Did T s.db.core { s.db.core with pageJobs := jobs } := by
  have hheld : ∀ jobs, (poolOf jobs s.db.jobLeases).held =
      update (poolOf jobs s.db.jobLeases).held a.jobId none :=
    fun _ => held_update_none (hs.no_lease ha hidle)
  exact did_turn ha hu hpa hp hid hT hheld

/-- Columns that the pool does not see. -/
theorem did_touch {jobs : Table pageJobs} {p : PageJobRow → Bool} {f : PageJobRow → PageJobRow}
    (hu : s.db.pageJobs.update p f = some jobs) (hid : ∀ a, (f a).jobId = a.jobId)
    (hf : ∀ a, jobOf (f a) = jobOf a) : Did T s.db.core { s.db.core with pageJobs := jobs } := by
  refine Did.of_jobs ?_
  rw [jobs_touch hu hid hf]
  exact .refl

/-- A new job enters the queue. -/
theorem did_insert {jobs : Table pageJobs} {a : PageJobRow} (hu : s.db.pageJobs.insert a = some jobs)
    (ha : (jobOf a).IsNew) (hs : Sound env.hashText s.db.pool) :
    Did T s.db.core { s.db.core with pageJobs := jobs } := by
  have hnew : s.db.pool.jobs a.jobId = none ∧ _ := jobs_insert hu
  refine Did.of_jobs ?_
  have hnone : s.db.pool.held a.jobId = none := by
    cases hh : s.db.pool.held a.jobId with
    | none => rfl
    | some l =>
      obtain ⟨j, hj, -⟩ := hs.lease _ _ hh
      rw [hnew.1] at hj; cases hj
  have hpool : poolOf jobs s.db.jobLeases = s.db.pool.put a.jobId (jobOf a) :=
    Pool.ext' hnew.2 (held_update_none hnone)
  show Path T _ (poolOf jobs s.db.jobLeases)
  rw [hpool]
  exact ReflTransGen.single (.enqueued a.jobId (jobOf a) hnew.1 ha)

/-! ### Enqueue -/

theorem insertDiscovery_spec {input : QueueEnqueueInput} {childJobId : String}
    {timestamp : Timestamp} :
    safe (Queue.insertDiscovery env input childJobId timestamp)
      (fun _ t => t.db.core = s.db.core) s := by
  simp [Queue.insertDiscovery, Db.core]

theorem validateEnqueue_spec {input : QueueEnqueueInput} :
    safe (Queue.validateEnqueue input)
      (fun _ t => t = s ∧ assertAttemptPolicy 0 input.maxAttempts = .ok ()) s := by
  unfold Queue.validateEnqueue Queue.validateOwnership
  simp only [safe, wp_bind, wp_database, wp_require, wp_check, wp_orThrow, implies_true, and_true]
  intro _ _ _ hpolicy _ _ _ _ _ _ _ _
  split
  · simp only [wp_bind, wp_pure]
    exact safe_mono getJobRow_spec fun _ _ h => ⟨h.1, hpolicy⟩
  · exact ⟨rfl, hpolicy⟩

theorem lowerDepth_spec {job : PageJob} {depth : ℕ} {timestamp : Timestamp} :
    safe (Queue.lowerDepth job depth timestamp) (fun _ t => Did Work s.db.core t.db.core) s := by
  unfold Queue.lowerDepth
  simp only [safe, wp_ite, wp_bind, wp_updateJobs, wp_pure, implies_true, and_true]
  exact ⟨fun _ jobs h => did_touch h (fun _ => rfl) fun _ => rfl, fun _ => Did.refl⟩

theorem withinPageLimit_spec {input : QueueEnqueueInput} :
    safe (Queue.withinPageLimit input) (fun _ t => t = s) s := by
  unfold Queue.withinPageLimit
  split <;> simp

/-- The attempt policy leaves a new job at least one attempt. -/
theorem newJobRow_isNew {input : QueueEnqueueInput} {queueSequence : ℕ}
    {jobId normalizedUrl identityUrl identityHash safeDisplayUrl : String}
    {priority : ℕ × PrioritySource} {timestamp : Timestamp}
    (h : assertAttemptPolicy 0 input.maxAttempts = .ok ()) :
    (jobOf (Queue.newJobRow input queueSequence jobId normalizedUrl identityUrl identityHash
      safeDisplayUrl priority timestamp)).IsNew := by
  refine ⟨rfl, rfl, ?_, rfl⟩
  show 0 < input.maxAttempts.toNat
  by_cases hm : 1 ≤ input.maxAttempts
  · omega
  · exfalso
    unfold assertAttemptPolicy ensure at h
    simp [hm, bind, Except.bind] at h

theorem enqueueInTransaction_did {input : QueueEnqueueInput} (hs : Sound env.hashText s.db.pool) :
    safe (Queue.enqueueInTransaction env input) (fun _ t => Did Work s.db.core t.db.core) s := by
  unfold Queue.enqueueInTransaction
  refine safe_bind validateEnqueue_spec fun _ t ht => ?_
  obtain ⟨rfl, hpolicy⟩ := ht
  simp only [safe, wp_bind, wp_now, wp_insertScopeDecision]
  split
  · exact Did.refl
  · simp only [wp_bind, wp_database]
    split
    · simp only [wp_bind, wp_check, implies_true, and_true]
      intro depth _
      refine safe_mono lowerDepth_spec fun _ t ht => ?_
      refine safe_mono insertDiscovery_spec fun _ t' ht' => ?_
      refine safe_mono getJobRow_spec fun _ t'' ht'' => ?_
      rw [wp_pure, ht''.1, ht']
      exact ht
    · rw [wp_bind]
      refine safe_mono withinPageLimit_spec fun _ t ht => ?_
      subst ht
      rw [wp_ite]
      refine ⟨fun _ => Did.refl, fun _ => ?_⟩
      simp only [wp_bind, wp_check, wp_freshId, wp_database, wp_require, wp_insertJob, implies_true,
        and_true]
      intro _ _ _ jobs hjobs
      refine safe_mono queue_transition_spec fun _ t ht => ?_
      refine safe_mono insertDiscovery_spec fun _ t' ht' => ?_
      refine safe_mono getJobRow_spec fun _ t'' ht'' => ?_
      rw [wp_pure, ht''.1, ht', ht]
      exact did_insert hjobs (newJobRow_isNew hpolicy) hs

theorem enqueue_did {input : QueueEnqueueInput} (hs : Sound env.hashText s.db.pool) :
    safe (Queue.enqueue env input) (fun _ t => Did Work s.db.core t.db.core) s := by
  unfold Queue.enqueue Queue.queueTransaction transaction
  rw [safe, wp_mapError]
  exact idempotent_did (safe_bind (enqueueInTransaction_did hs) fun _ _ h => h)

/-! ### Claiming -/

/-- The candidate of a claim. -/
theorem head_select {t : Table pageJobs} {p : PageJobRow → Bool} {le : PageJobRow → PageJobRow → Prop}
    [DecidableRel le] {a : PageJobRow} (h : (t.select p le).head? = some a) :
    a ∈ t.rows ∧ p a = true := Table.mem_select.1 (List.mem_of_head? h)

theorem claimNext_did {input : ClaimNextInput} (hs : Sound env.hashText s.db.pool) :
    safe (Queue.claimNext env input) (fun _ t => Did Work s.db.core t.db.core) s := by
  unfold Queue.claimNext Queue.queueTransaction transaction Queue.validateOwnership
  simp only [safe, wp_mapError, wp_bind, wp_database, wp_require, implies_true, and_true]
  intro _ _
  refine idempotent_did ?_
  simp only [safe, wp_bind, wp_now, wp_database]
  split
  · exact Did.refl
  · rename_i row hrow
    obtain ⟨hmem, hp⟩ := head_select hrow
    simp only [Bool.and_eq_true, beq_iff_eq, decide_eq_true_eq] at hp
    obtain ⟨⟨-, hpending⟩, -⟩ := hp
    have hne : row.state ≠ .processing := by rw [hpending]; decide
    simp only [wp_bind, wp_require, wp_freshId, wp_updateJobs, wp_insertAttempt, implies_true, and_true]
    intro _ jobs hjobs _ _ _
    refine safe_mono queue_transition_spec fun _ t ht => ?_
    refine safe_mono getJobRow_spec fun _ t' ht' => ?_
    rw [wp_pure, ht'.1, ht]
    refine did_turn_idle hs hmem hjobs (by simp [rowToJob, hpending]) (fun b hb => ?_) rfl
      (Work.claimed _ hpending (hs.recovery_none hmem hne)) (Or.inl hne)
    simp only [Bool.and_eq_true, beq_iff_eq] at hb; exact hb.1

/-! ### Finishing -/

/-- The claim of a job that was ever leased is the active lease. -/
def FencedBy (env : Env) (db : Db) (job : PageJob) (claimToken : String) : Prop :=
  job.fencingGeneration = 0 ∨ ∃ l ∈ db.jobLeases.rows, l.jobId = job.jobId ∧ l.status = .active ∧
    l.leaseTokenHash = env.hashText claimToken ∧ l.fencingGeneration = job.fencingGeneration

theorem validateFencedClaim_spec {job : PageJob} {claimToken : String} :
    safe (Queue.validateFencedClaim env job claimToken)
      (fun _ t => t.db = s.db ∧ FencedBy env s.db job claimToken) s := by
  unfold Queue.validateFencedClaim
  simp only [safe, wp_ite, wp_pure, wp_bind, wp_database, wp_orThrow, wp_require, wp_now, implies_true,
    and_true, true_and]
  refine ⟨fun h => Or.inl h, fun _ l hl hp _ => Or.inr ?_⟩
  obtain ⟨hmem, hl⟩ := Table.find_mem hl
  simp only [Bool.and_eq_true, beq_iff_eq] at hl hp
  exact ⟨l, hmem, hl.1.1, hl.2, hp.1, hp.2⟩

/-- Closing the lease of a job that has just turned. -/
theorem releaseJobLease_did {t : Call} (hs : Sound env.hashText s.db.pool) {jobs : Table pageJobs}
    {a : PageJobRow} {f : PageJobRow → PageJobRow} {releasedAt : Timestamp}
    {releaseReason operationId : String} (ha : a ∈ s.db.pageJobs.rows)
    (hu : s.db.pageJobs.update (fun b => b.jobId == a.jobId) f = some jobs)
    (hid : (f a).jobId = a.jobId) (hT : Work (jobOf a) (jobOf (f a)))
    (ht : t.db.core = { s.db.core with pageJobs := jobs }) :
    safe (Queue.releaseJobLease (rowToJob a) releasedAt releaseReason operationId)
      (fun _ t' => Did Work s.db.core t'.db.core) t := by
  have hleases : t.db.jobLeases = s.db.jobLeases := congrArg Core.jobLeases ht
  refine safe_mono (releaseJobLease_spec fun l hl hst hj => ?_) fun _ t' ht' => ?_
  · rw [hleases] at hl
    exact hs.generation ha hl hst hj
  · obtain ⟨leases, hcore, hheld⟩ := ht'
    rw [hcore, ht]
    rw [hleases] at hheld
    exact did_turn ha hu (by simp) (fun b hb => by simpa using hb) hid hT hheld

/-- The token is the claim of the job's active lease, if the job was ever leased. -/
def Fenced (env : Env) (db : Db) (jobId claimToken : String) : Prop :=
  ∃ a ∈ db.pageJobs.rows, a.jobId = jobId ∧ FencedBy env db (rowToJob a) claimToken

/-- The job is already completed. -/
def Settled (db : Db) (jobId : String) : Prop :=
  ∃ a ∈ db.pageJobs.rows, a.jobId = jobId ∧ a.state = .completed

theorem complete_did {input : CompleteInput} (hs : Sound env.hashText s.db.pool) :
    safe (Queue.complete env input) (fun _ t => Did Work s.db.core t.db.core ∧
      (recorded s.db .complete input.idempotencyKey = true ∨
        Settled s.db input.jobId ∨ Fenced env s.db input.jobId input.claimToken)) s := by
  unfold Queue.complete Queue.queueTransaction transaction Queue.validateOwnership
  simp only [safe, wp_mapError, wp_bind, wp_database, wp_require, wp_check, implies_true, and_true]
  intro _ _ _ _ _ _ _ _
  refine idempotent_did_or (safe_bind getJobRow_spec fun a t ht => ?_)
  obtain ⟨rfl, hmem, hid, -⟩ := ht
  simp only [safe, wp_ite, wp_bind, wp_database, wp_require, wp_pure, implies_true, and_true]
  refine ⟨fun hdone _ => ⟨Did.refl, Or.inl ⟨a, hmem, hid, ((rowToJob_state .completed).1 hdone).1⟩⟩,
    fun _ hstate _ => ?_⟩
  obtain ⟨hst, hr⟩ := (rowToJob_state .processing).1 (beq_iff_eq.1 hstate)
  refine safe_mono validateFencedClaim_spec fun _ t' ht' => ?_
  obtain ⟨hdb, hfenced⟩ := ht'
  simp only [wp_updateJobs, implies_true, and_true]
  intro jobs hjobs
  rw [hdb] at hjobs ⊢
  refine safe_mono finishAttempt_spec fun _ t₁ h₁ => ?_
  refine safe_mono (releaseJobLease_did hs hmem hjobs rfl
    (.ended .completed trivial (Or.inr hst) hr) h₁) fun _ t₂ h₂ => ?_
  refine safe_mono queue_transition_spec fun _ t₃ h₃ => ?_
  refine safe_mono getJobRow_spec fun _ t₄ h₄ => ?_
  rw [h₄.1, h₃]
  exact ⟨h₂, Or.inr ⟨a, hmem, hid, hfenced⟩⟩

theorem fail_did {input : FailInput} (hs : Sound env.hashText s.db.pool) :
    safe (Queue.fail env input) (fun _ t => Did Work s.db.core t.db.core ∧
      (recorded s.db .fail input.idempotencyKey = true ∨
        Fenced env s.db input.jobId input.claimToken)) s := by
  unfold Queue.fail Queue.queueTransaction transaction Queue.validateOwnership
  simp only [safe, wp_mapError, wp_bind, wp_database, wp_require, wp_check, implies_true, and_true]
  intro _ _ _ _ _ _ _ _
  refine idempotent_did_or (safe_bind getJobRow_spec fun a t ht => ?_)
  obtain ⟨rfl, hmem, hid, -⟩ := ht
  simp only [safe, wp_bind, wp_require, implies_true, and_true]
  intro hstate _
  obtain ⟨hst, hr⟩ := (rowToJob_state .processing).1 (beq_iff_eq.1 hstate)
  refine safe_mono validateFencedClaim_spec fun _ t' ht' => ?_
  obtain ⟨hdb, hfenced⟩ := ht'
  simp only [wp_check, wp_updateJobs, implies_true, and_true]
  intro retry hretry _ jobs hjobs
  rw [hdb] at hjobs ⊢
  -- the turn is a retry when attempts remain, and the end of the job otherwise
  have hturn : Work (jobOf a) { jobOf a with
      state := if retry then .retrying else .failed, token := none } := by
    cases retry with
    | true => exact .retried hst hr (shouldRetry_lt hretry)
    | false => exact .ended .failed trivial (Or.inr hst) hr
  refine safe_mono finishAttempt_spec fun _ t₁ h₁ => ?_
  refine safe_mono (releaseJobLease_did hs hmem hjobs rfl hturn h₁) fun _ t₂ h₂ => ?_
  refine safe_mono queue_transition_spec fun _ t₃ h₃ => ?_
  refine safe_mono getJobRow_spec fun _ t₄ h₄ => ?_
  rw [wp_pure, h₄.1, h₃]
  exact ⟨h₂, a, hmem, hid, hfenced⟩

theorem assertTerminalClaim_spec {job : PageJob} {claimToken : Option String} :
    safe (Queue.assertTerminalClaim env job claimToken) (fun _ t => t.db = s.db) s := by
  unfold Queue.assertTerminalClaim
  simp only [safe, wp_ite, wp_bind, wp_orThrow, wp_require, wp_pure, implies_true, and_true]
  exact fun _ _ _ _ => safe_mono validateFencedClaim_spec fun _ _ h => h.1

/-- Closing what a processing job leaves open. -/
theorem endProcessing_did {t : Call} (hs : Sound env.hashText s.db.pool) {jobs : Table pageJobs}
    {a : PageJobRow} {f : PageJobRow → PageJobRow} {target : Queue.TerminalTarget}
    {reasonCode message operationId : String} {timestamp : Timestamp}
    (ha : a ∈ s.db.pageJobs.rows)
    (hu : s.db.pageJobs.update (fun b => b.jobId == a.jobId) f = some jobs)
    (hid : (f a).jobId = a.jobId) (hT : Work (jobOf a) (jobOf (f a)))
    (ht : t.db.core = { s.db.core with pageJobs := jobs }) :
    safe (Queue.endProcessing target (rowToJob a) reasonCode message timestamp operationId)
      (fun _ t' => Did Work s.db.core t'.db.core) t := by
  unfold Queue.endProcessing
  simp only [safe, wp_ite, wp_bind, wp_pure]
  constructor
  · intro _
    refine safe_mono finishAttempt_spec fun _ t₁ h₁ => ?_
    exact releaseJobLease_did hs ha hu hid hT (h₁.trans ht)
  · intro hne
    have hidle : a.state ≠ .processing ∨ a.recoveryState ≠ none := by
      by_contra hc
      push Not at hc
      exact hne ((rowToJob_state .processing).2 hc)
    rw [ht]
    exact did_turn_idle hs ha hu (by simp) (fun b hb => by simpa using hb) hid hT hidle

theorem terminalAction_did {target : Queue.TerminalTarget} {input : TerminalActionInput}
    (hs : Sound env.hashText s.db.pool) :
    safe (Queue.terminalAction env target input) (fun _ t => Did Work s.db.core t.db.core) s := by
  unfold Queue.terminalAction Queue.queueTransaction transaction Queue.validateOwnership
  simp only [safe, wp_mapError, wp_bind, wp_database, wp_require, implies_true, and_true]
  intro _ _
  refine idempotent_did (safe_bind getJobRow_spec fun a t ht => ?_)
  obtain ⟨rfl, hmem, -, -⟩ := ht
  simp only [safe, wp_bind, wp_require, implies_true, and_true]
  intro hstate
  refine safe_mono assertTerminalClaim_spec fun _ t' hdb => ?_
  simp only [wp_now, wp_updateJobs, implies_true, and_true]
  intro jobs hjobs
  rw [hdb] at hjobs ⊢
  have hturn : Work (jobOf a) { jobOf a with state := target.state, token := none } := by
    simp only [Bool.or_eq_true, beq_iff_eq] at hstate
    have hterm : target.state.terminal := by cases target <;> trivial
    rcases hstate with h | h
    · obtain ⟨hst, hr⟩ := (rowToJob_state .pending).1 h
      exact .ended _ hterm (Or.inl hst) hr
    · obtain ⟨hst, hr⟩ := (rowToJob_state .processing).1 h
      exact .ended _ hterm (Or.inr hst) hr
  refine safe_mono (endProcessing_did hs hmem hjobs rfl hturn rfl) fun _ t₂ h₂ => ?_
  refine safe_mono queue_transition_spec fun _ t₃ h₃ => ?_
  refine safe_mono getJobRow_spec fun _ t₄ h₄ => ?_
  rw [wp_pure, h₄.1, h₃]
  exact h₂

/-! ### Retries and clearing -/

theorem scheduleRetry_did {input : ScheduleRetryInput} :
    safe (Queue.scheduleRetry env input) (fun _ t => Did Work s.db.core t.db.core) s := by
  unfold Queue.scheduleRetry Queue.queueTransaction transaction Queue.validateOwnership
  simp only [safe, wp_mapError, wp_bind, wp_database, wp_require, wp_check, implies_true, and_true]
  intro _ _ _ _
  refine idempotent_did (safe_bind getJobRow_spec fun a t ht => ?_)
  obtain ⟨rfl, -, -, -⟩ := ht
  simp only [safe, wp_bind, wp_require, wp_now, wp_updateJobs, implies_true, and_true]
  intro _ _ jobs hjobs
  refine safe_mono getJobRow_spec fun _ t' ht' => ?_
  rw [wp_pure, ht'.1]
  exact did_touch hjobs (fun _ => rfl) fun _ => rfl

theorem Work.turn {j j' : Job} (h : Work j j') : Turn j j' := Or.inl h

theorem Did.sound {c : Core} {db : Db} (h : Did T c db.core) (hT : ∀ j j', T j j' → Turn j j')
    {hash : String → String} (hs : Sound hash c.pool) : Sound hash db.pool := h.path.sound hT hs

/-- An update of the row `a`, wherever it is guarded by a state that `a` may have left. -/
theorem did_turn_if {jobs : Table pageJobs} {a : PageJobRow} {state : StoredState}
    {f : PageJobRow → PageJobRow} (hs : Sound env.hashText s.db.pool)
    (hu : s.db.pageJobs.update (fun b => b.jobId == a.jobId && b.state == state) f = some jobs)
    (hstate : state ≠ .processing) (hid : ∀ b, (f b).jobId = b.jobId)
    (hT : ∀ b, b ∈ s.db.pageJobs.rows → b.jobId = a.jobId → b.state = state →
      T (jobOf b) (jobOf (f b))) :
    Did T s.db.core { s.db.core with pageJobs := jobs } := by
  by_cases hb : ∃ b ∈ s.db.pageJobs.rows, b.jobId = a.jobId ∧ b.state = state
  · obtain ⟨b, hb, hba, hbs⟩ := hb
    refine did_turn_idle hs hb hu (by simp [hba, hbs]) (fun b' hb' => ?_) (hid b) (hT b hb hba hbs)
      (Or.inl (by rw [hbs]; exact hstate))
    simp only [Bool.and_eq_true, beq_iff_eq] at hb'
    rw [hb'.1, hba]
  · have hnone : ∀ b ∈ s.db.pageJobs.rows, (b.jobId == a.jobId && b.state == state) = false := by
      intro b hmem
      by_contra hc
      exact hb ⟨b, hmem, by simpa using hc⟩
    refine Did.of_jobs ?_
    have hsame : poolOf jobs s.db.jobLeases = s.db.core.pool := by
      refine Pool.ext' (Index.lookup_update_same hu fun b hmem hb' => ?_) rfl
      rw [hnone b hmem] at hb'; cases hb'
    show Path T _ (poolOf jobs s.db.jobLeases)
    rw [hsame]

/-- The rows that a batch selected keep their attempts while it goes on. -/
theorem releaseRetry_did {input : ReleaseDueRetriesInput} {jobs : List PageJob} {row : PageJobRow}
    (hs : Sound env.hashText s.db.pool)
    (hlt : ∀ b ∈ s.db.pageJobs.rows, b.jobId = row.jobId → b.attemptCount < b.maxAttempts) :
    safe (Queue.releaseRetry input jobs row) (fun _ t => Did Work s.db.core t.db.core ∧
      ∀ b' ∈ t.db.pageJobs.rows, ∃ b ∈ s.db.pageJobs.rows, b'.jobId = b.jobId ∧
        b'.attemptCount = b.attemptCount ∧ b'.maxAttempts = b.maxAttempts) s := by
  simp only [Queue.releaseRetry, safe, wp_bind, wp_updateJobs, implies_true, and_true]
  intro jobs' hjobs
  refine safe_mono queue_transition_spec fun _ t ht => ?_
  refine safe_mono getJobRow_spec fun _ t' ht' => ?_
  rw [wp_pure, ht'.1, ht]
  refine ⟨did_turn_if hs hjobs (by decide) (fun _ => rfl) fun b hb hid hst => ?_, fun b' hb' => ?_⟩
  · exact .released hst (hs.recovery_none hb (by rw [hst]; decide)) (hlt b hb hid)
  · have hrows : t.db.pageJobs = jobs' := congrArg Core.pageJobs ht
    rw [hrows, Table.update_rows hjobs] at hb'
    obtain ⟨b, hb, rfl⟩ := List.mem_map.1 hb'
    unfold rewrite
    split <;> exact ⟨b, hb, rfl, rfl, rfl⟩

theorem releaseDueRetries_did {input : ReleaseDueRetriesInput} (hs : Sound env.hashText s.db.pool) :
    safe (Queue.releaseDueRetries env input) (fun _ t => Did Work s.db.core t.db.core) s := by
  unfold Queue.releaseDueRetries Queue.queueTransaction transaction Queue.validateOwnership
  simp only [safe, wp_mapError, wp_bind, wp_database, wp_require, wp_check, implies_true, and_true]
  intro _ _ _ _ _
  refine idempotent_did ?_
  simp only [safe, wp_bind, wp_database, wp_pure]
  set rows := (s.db.pageJobs.select (fun a => a.runId == input.runId && a.state == .retrying &&
    a.nextEligibleAt ≤ input.dueAt && a.attemptCount < a.maxAttempts) Queue.retryOrder).take
      input.limit.toNat with hrows
  have hsel : ∀ row ∈ rows, row ∈ s.db.pageJobs.rows ∧ row.attemptCount < row.maxAttempts := by
    intro row hrow
    obtain ⟨hmem, hp⟩ := Table.mem_select.1 (List.mem_of_mem_take hrow)
    simp only [Bool.and_eq_true, decide_eq_true_eq] at hp
    exact ⟨hmem, hp.2⟩
  have hstart : ∀ row ∈ rows, ∀ b ∈ s.db.pageJobs.rows, b.jobId = row.jobId →
      b.attemptCount < b.maxAttempts := by
    intro row hrow b hb hid
    obtain ⟨hmem, hlt⟩ := hsel row hrow
    rw [job_eq hb hmem hid]; exact hlt
  refine safe_mono (wp_foldlM (I := fun _ t => Did Work s.db.core t.db.core ∧
    ∀ row ∈ rows, ∀ b ∈ t.db.pageJobs.rows, b.jobId = row.jobId → b.attemptCount < b.maxAttempts)
    (fun row hrow jobs t ht => ?_) ⟨Did.refl, hstart⟩) fun _ _ h => h.1
  obtain ⟨hdid, hlt⟩ := ht
  have hst := hdid.sound (fun _ _ => Work.turn) hs
  refine safe_mono (releaseRetry_did hst (hlt row hrow)) fun _ t' ht' => ⟨hdid.trans ht'.1, ?_⟩
  intro row' hrow' b' hb' hid
  obtain ⟨b, hb, h1, h2, h3⟩ := ht'.2 b' hb'
  rw [h2, h3]
  exact hlt row' hrow' b hb (h1 ▸ hid)

theorem clearPending_did {input : ClearPendingInput} (hs : Sound env.hashText s.db.pool) :
    safe (Queue.clearPending env input) (fun _ t => Did Work s.db.core t.db.core) s := by
  unfold Queue.clearPending Queue.queueTransaction transaction Queue.validateOwnership
  simp only [safe, wp_mapError, wp_bind, wp_database, wp_require, implies_true, and_true]
  intro _ _ _
  refine idempotent_did ?_
  simp only [safe, wp_bind, wp_now, wp_database, wp_pure]
  refine wp_forM (I := fun t : Call => Did Work s.db.core t.db.core) (fun row _ t ht => ?_) Did.refl
  simp only [Queue.clearJob, wp_bind, wp_updateJobs, implies_true, and_true]
  intro jobs hjobs
  have hst := ht.sound (fun _ _ => Work.turn) hs
  refine safe_mono queue_transition_spec fun _ t' ht' => ?_
  rw [ht']
  refine ht.trans (did_turn_if hst hjobs (by decide) (fun _ => rfl) fun b hb _ hbs => ?_)
  have hne : b.state ≠ .processing := by rw [hbs]; decide
  have hr : (jobOf b).recovery = none := hst.recovery_none hb hne
  have hended := Work.ended .skipped trivial (Or.inl hbs) hr
  rw [← token_none hb hne] at hended
  exact hended

end OfflineWebArchiver
