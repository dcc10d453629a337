import OfflineWebArchiver.Lifecycle.Books
import OfflineWebArchiver.Lifecycle.Lease

/-!
# What queue calls and lease holders record

Each call leaves the books longer by trails of allowed moves, or does not touch them.
-/

namespace OfflineWebArchiver

open Relational Program Function

variable {env : Env} {s : Call}

/-! ### The queue -/

theorem lowerDepth_logged {job : PageJob} {depth : ℕ} {timestamp : Timestamp} :
    safe (Queue.lowerDepth job depth timestamp) (fun _ t => Logged s.db.books t.db.books) s := by
  unfold Queue.lowerDepth
  simp only [safe, wp_ite, wp_bind, wp_updateJobs, wp_pure, implies_true, and_true]
  exact ⟨fun _ jobs hu => logged_touch hu (fun _ => rfl) fun _ => rfl, fun _ => .refl⟩

theorem enqueueInTransaction_logged {input : QueueEnqueueInput} :
    safe (Queue.enqueueInTransaction env input) (fun _ t => Logged s.db.books t.db.books) s := by
  unfold Queue.enqueueInTransaction
  refine safe_bind validateEnqueue_spec fun _ t ht => ?_
  obtain ⟨rfl, -⟩ := ht
  simp only [safe, wp_bind, wp_now, wp_insertScopeDecision]
  split
  · exact .refl
  · simp only [wp_bind, wp_database]
    split
    · simp only [wp_bind, wp_check, implies_true, and_true]
      intro depth _
      refine safe_mono lowerDepth_logged fun _ t ht => ?_
      refine safe_mono insertDiscovery_books fun _ t' ht' => ?_
      refine safe_mono getJobRow_spec fun _ t'' ht'' => ?_
      rw [wp_pure, ht''.1, ht']
      exact ht
    · rw [wp_bind]
      refine safe_mono withinPageLimit_spec fun _ t ht => ?_
      subst ht
      rw [wp_ite]
      refine ⟨fun _ => .refl, fun _ => ?_⟩
      simp only [wp_bind, wp_check, wp_freshId, wp_database, wp_require, wp_insertJob, implies_true,
        and_true]
      intro _ _ _ jobs hjobs
      refine safe_mono queue_transition_recorded fun _ t ht => ?_
      refine safe_mono insertDiscovery_books fun _ t' ht' => ?_
      refine safe_mono getJobRow_spec fun _ t'' ht'' => ?_
      rw [wp_pure, ht''.1, ht']
      exact logged_insert hjobs rfl ht.1

theorem enqueue_logged {input : QueueEnqueueInput} :
    safe (Queue.enqueue env input) (fun _ t => Logged s.db.books t.db.books) s := by
  unfold Queue.enqueue Queue.queueTransaction transaction
  rw [safe, wp_mapError]
  exact idempotent_logged (safe_bind enqueueInTransaction_logged fun _ _ h => h)

theorem claimNext_logged {input : ClaimNextInput} (hs : Sound env.hashText s.db.pool) :
    safe (Queue.claimNext env input) (fun _ t => Logged s.db.books t.db.books) s := by
  unfold Queue.claimNext Queue.queueTransaction transaction Queue.validateOwnership
  simp only [safe, wp_mapError, wp_bind, wp_database, wp_require, implies_true, and_true]
  intro _ _
  refine idempotent_logged ?_
  simp only [safe, wp_bind, wp_now, wp_database]
  split
  · exact .refl
  · rename_i row hrow
    obtain ⟨hmem, hp⟩ := head_select hrow
    simp only [Bool.and_eq_true, beq_iff_eq, decide_eq_true_eq] at hp
    obtain ⟨⟨-, hpending⟩, -⟩ := hp
    have hnone := hs.recovery_none hmem (by rw [hpending]; decide)
    have hstate : (rowToJob row).state = .pending := (rowToJob_state .pending).2 ⟨hpending, hnone⟩
    simp only [wp_bind, wp_require, wp_freshId, wp_updateJobs, wp_insertAttempt, implies_true, and_true]
    intro _ jobs hjobs _ _ _
    refine safe_mono queue_transition_recorded fun _ t ht => ?_
    refine safe_mono getJobRow_spec fun _ t' ht' => ?_
    rw [wp_pure, ht'.1]
    refine (logged_turn (b := s.db.books) hmem hjobs (by simp [rowToJob, hpending]) (fun b hb => ?_) rfl hstate
      ((rowToJob_state .processing).2 ⟨rfl, hnone⟩) rfl ht.1).logged
    simp only [Bool.and_eq_true, beq_iff_eq] at hb
    exact hb.1

/-! ### Finishing -/

theorem complete_logged {input : CompleteInput} :
    safe (Queue.complete env input) (fun _ t => Logged s.db.books t.db.books) s := by
  unfold Queue.complete Queue.queueTransaction transaction Queue.validateOwnership
  simp only [safe, wp_mapError, wp_bind, wp_database, wp_require, wp_check, implies_true, and_true]
  intro _ _ _ _ _ _ _ _
  refine idempotent_logged (safe_bind getJobRow_spec fun a t ht => ?_)
  obtain ⟨rfl, hmem, -, -⟩ := ht
  simp only [safe, wp_ite, wp_bind, wp_database, wp_require, wp_pure, implies_true, and_true]
  refine ⟨fun _ _ => .refl, fun _ hstate _ => ?_⟩
  have hsource : (rowToJob a).state = .processing := beq_iff_eq.1 hstate
  obtain ⟨-, hr⟩ := (rowToJob_state .processing).1 hsource
  refine safe_mono validateFencedClaim_spec fun _ t' ht' => ?_
  have hdb : t'.db = t.db := ht'.1
  simp only [wp_updateJobs, implies_true, and_true]
  intro jobs hjobs
  rw [hdb] at hjobs ⊢
  refine safe_mono finishAttempt_books fun _ t₁ h₁ => ?_
  refine safe_mono releaseJobLease_books fun _ t₂ h₂ => ?_
  refine safe_mono queue_transition_recorded fun _ t₃ h₃ => ?_
  refine safe_mono getJobRow_spec fun _ t₄ h₄ => ?_
  rw [h₂, h₁] at h₃
  rw [h₄.1]
  exact (logged_turn (b := t.db.books) hmem hjobs (by simp [rowToJob])
    (fun b hb => by simpa [rowToJob] using hb) rfl hsource ((rowToJob_state .completed).2 ⟨rfl, hr⟩) rfl h₃.1).logged

theorem fail_logged {input : FailInput} :
    safe (Queue.fail env input) (fun _ t => Logged s.db.books t.db.books) s := by
  unfold Queue.fail Queue.queueTransaction transaction Queue.validateOwnership
  simp only [safe, wp_mapError, wp_bind, wp_database, wp_require, wp_check, implies_true, and_true]
  intro _ _ _ _ _ _ _ _
  refine idempotent_logged (safe_bind getJobRow_spec fun a t ht => ?_)
  obtain ⟨rfl, hmem, -, -⟩ := ht
  simp only [safe, wp_bind, wp_require, implies_true, and_true]
  intro hstate _
  have hsource : (rowToJob a).state = .processing := beq_iff_eq.1 hstate
  obtain ⟨-, hr⟩ := (rowToJob_state .processing).1 hsource
  refine safe_mono validateFencedClaim_spec fun _ t' ht' => ?_
  have hdb : t'.db = t.db := ht'.1
  simp only [wp_check, wp_updateJobs, implies_true, and_true]
  intro retry _ _ jobs hjobs
  rw [hdb] at hjobs ⊢
  refine safe_mono finishAttempt_books fun _ t₁ h₁ => ?_
  refine safe_mono releaseJobLease_books fun _ t₂ h₂ => ?_
  refine safe_mono queue_transition_recorded fun _ t₃ h₃ => ?_
  refine safe_mono getJobRow_spec fun _ t₄ h₄ => ?_
  rw [h₂, h₁] at h₃
  rw [wp_pure, h₄.1]
  exact (logged_turn (b := t.db.books) hmem hjobs (by simp [rowToJob])
    (fun b hb => by simpa [rowToJob] using hb) rfl hsource ((rowToJob_state _).2 ⟨rfl, hr⟩) (by cases retry <;> rfl) h₃.1).logged

theorem endProcessing_books {target : Queue.TerminalTarget} {job : PageJob}
    {reasonCode message operationId : String} {timestamp : Timestamp} :
    safe (Queue.endProcessing target job reasonCode message timestamp operationId)
      (fun _ t => t.db.books = s.db.books) s := by
  unfold Queue.endProcessing
  simp only [safe, wp_ite, wp_bind, wp_pure, implies_true, and_true]
  intro _
  refine safe_mono finishAttempt_books fun _ t ht => ?_
  exact safe_mono releaseJobLease_books fun _ t' ht' => ht'.trans ht

theorem terminalAction_logged {target : Queue.TerminalTarget} {input : TerminalActionInput} :
    safe (Queue.terminalAction env target input) (fun _ t => Logged s.db.books t.db.books) s := by
  unfold Queue.terminalAction Queue.queueTransaction transaction Queue.validateOwnership
  simp only [safe, wp_mapError, wp_bind, wp_database, wp_require, implies_true, and_true]
  intro _ _
  refine idempotent_logged (safe_bind getJobRow_spec fun a t ht => ?_)
  obtain ⟨rfl, hmem, -, -⟩ := ht
  simp only [safe, wp_bind, wp_require, implies_true, and_true]
  intro hstate
  refine safe_mono assertTerminalClaim_spec fun _ t' hdb => ?_
  simp only [wp_now, wp_updateJobs, implies_true, and_true]
  intro jobs hjobs
  rw [hdb] at hjobs ⊢
  refine safe_mono endProcessing_books fun _ t₂ h₂ => ?_
  refine safe_mono queue_transition_recorded fun _ t₃ h₃ => ?_
  refine safe_mono getJobRow_spec fun _ t₄ h₄ => ?_
  rw [h₂] at h₃
  rw [wp_pure, h₄.1]
  -- a job that is set aside is neither pending nor processing
  have hr : a.recoveryState = none := by
    simp only [Bool.or_eq_true, beq_iff_eq] at hstate
    rcases hstate with h | h
    · exact ((rowToJob_state .pending).1 h).2
    · exact ((rowToJob_state .processing).1 h).2
  have hallowed : canTransition (rowToJob a).state target.state.toJobState = true := by
    simp only [Bool.or_eq_true, beq_iff_eq] at hstate
    rcases hstate with h | h <;> rw [h] <;> cases target <;> rfl
  exact (logged_turn (b := t.db.books) hmem hjobs (by simp [rowToJob])
    (fun b hb => by simpa [rowToJob] using hb) rfl rfl ((rowToJob_state _).2 ⟨rfl, hr⟩) hallowed h₃.1).logged

theorem scheduleRetry_logged {input : ScheduleRetryInput} :
    safe (Queue.scheduleRetry env input) (fun _ t => Logged s.db.books t.db.books) s := by
  unfold Queue.scheduleRetry Queue.queueTransaction transaction Queue.validateOwnership
  simp only [safe, wp_mapError, wp_bind, wp_database, wp_require, wp_check, implies_true, and_true]
  intro _ _ _ _
  refine idempotent_logged (safe_bind getJobRow_spec fun a t ht => ?_)
  obtain ⟨rfl, -, -, -⟩ := ht
  simp only [safe, wp_bind, wp_require, wp_now, wp_updateJobs, implies_true, and_true]
  intro _ _ jobs hjobs
  refine safe_mono getJobRow_spec fun _ t' ht' => ?_
  rw [wp_pure, ht'.1]
  exact logged_touch hjobs (fun _ => rfl) fun _ => rfl

/-! ### Retries and clearing -/

theorem releaseRetry_passed {input : ReleaseDueRetriesInput} {jobs : List PageJob} {row : PageJobRow}
    (hmem : row ∈ s.db.pageJobs.rows) (hst : row.state = .retrying) (hr : row.recoveryState = none) :
    safe (Queue.releaseRetry input jobs row) (fun _ t => Passed [row.jobId] s.db.books t.db.books) s := by
  simp only [Queue.releaseRetry, safe, wp_bind, wp_updateJobs, implies_true, and_true]
  intro jobs' hu
  refine safe_mono queue_transition_recorded fun _ t ht => ?_
  refine safe_mono getJobRow_spec fun _ t' ht' => ?_
  rw [wp_pure, ht'.1]
  refine logged_turn (b := s.db.books) hmem hu (by simp [rowToJob, hst]) (fun b hb => ?_) rfl
    ((rowToJob_state .retrying).2 ⟨hst, hr⟩) ((rowToJob_state .pending).2 ⟨rfl, hr⟩) rfl ht.1
  simp only [Bool.and_eq_true, beq_iff_eq] at hb
  exact hb.1

theorem releaseDueRetries_logged {input : ReleaseDueRetriesInput} (hs : Sound env.hashText s.db.pool) :
    safe (Queue.releaseDueRetries env input) (fun _ t => Logged s.db.books t.db.books) s := by
  unfold Queue.releaseDueRetries Queue.queueTransaction transaction Queue.validateOwnership
  simp only [safe, wp_mapError, wp_bind, wp_database, wp_require, wp_check, implies_true, and_true]
  intro _ _ _ _ _
  refine idempotent_logged ?_
  simp only [safe, wp_bind, wp_database, wp_pure]
  set rows := (s.db.pageJobs.select (fun a => a.runId == input.runId && a.state == .retrying &&
    a.nextEligibleAt ≤ input.dueAt && a.attemptCount < a.maxAttempts) Queue.retryOrder).take
      input.limit.toNat with hrows
  have hsel : ∀ row ∈ rows, row ∈ s.db.pageJobs.rows ∧ row.state = .retrying := by
    intro row hrow
    obtain ⟨hmem, hp⟩ := Table.mem_select.1 (List.mem_of_mem_take hrow)
    simp only [Bool.and_eq_true, beq_iff_eq] at hp
    exact ⟨hmem, hp.1.1.2⟩
  have hpair : rows.Pairwise fun x y => x.jobId ≠ y.jobId :=
    List.Pairwise.sublist (List.take_sublist ..) (jobIndex.select_pairwise.imp fun {x y} h hxy =>
      h x.jobId rfl (congrArg some hxy.symm))
  refine safe_mono (wp_foldlM_done (I := fun before _ t =>
    Passed (before.map fun row => row.jobId) s.db.books t.db.books)
    (fun before row rest hl jobs t ht => ?_) .refl) fun _ _ h => h.logged
  obtain ⟨hmem, hst⟩ := hsel row (by rw [hl]; simp)
  have hr := hs.recovery_none hmem (by rw [hst]; decide)
  have hthere := ht.reached hl (fun y hy => (hsel y hy).1) hpair
  exact safe_mono (releaseRetry_passed hthere hst hr) fun _ t' ht' => ht.next ht'

theorem clearJob_passed {input : ClearPendingInput} {timestamp : Timestamp} {row : PageJobRow}
    (hmem : row ∈ s.db.pageJobs.rows) (hst : row.state = .pending) (hr : row.recoveryState = none) :
    safe (Queue.clearJob input timestamp row)
      (fun _ t => Passed [row.jobId] s.db.books t.db.books) s := by
  simp only [Queue.clearJob, safe, wp_bind, wp_updateJobs, implies_true, and_true]
  intro jobs hu
  refine safe_mono queue_transition_recorded fun _ t ht => ?_
  refine logged_turn (b := s.db.books) hmem hu (by simp [hst]) (fun b hb => ?_) rfl
    ((rowToJob_state .pending).2 ⟨hst, hr⟩) ((rowToJob_state .skipped).2 ⟨rfl, hr⟩) rfl ht.1
  simp only [Bool.and_eq_true, beq_iff_eq] at hb
  exact hb.1

theorem clearPending_logged {input : ClearPendingInput} (hs : Sound env.hashText s.db.pool) :
    safe (Queue.clearPending env input) (fun _ t => Logged s.db.books t.db.books) s := by
  unfold Queue.clearPending Queue.queueTransaction transaction Queue.validateOwnership
  simp only [safe, wp_mapError, wp_bind, wp_database, wp_require, implies_true, and_true]
  intro _ _ _
  refine idempotent_logged ?_
  simp only [safe, wp_bind, wp_now, wp_database, wp_pure]
  set rows := s.db.pageJobs.select (fun a => a.runId == input.runId && a.state == .pending)
    fun a b => a.queueSequence ≤ b.queueSequence with hrows
  have hsel : ∀ row ∈ rows, row ∈ s.db.pageJobs.rows ∧ row.state = .pending := by
    intro row hrow
    obtain ⟨hmem, hp⟩ := Table.mem_select.1 hrow
    simp only [Bool.and_eq_true, beq_iff_eq] at hp
    exact ⟨hmem, hp.2⟩
  have hpair : rows.Pairwise fun x y => x.jobId ≠ y.jobId :=
    jobIndex.select_pairwise.imp fun {x y} h hxy => h x.jobId rfl (congrArg some hxy.symm)
  refine safe_mono (wp_forM_done (I := fun before t =>
    Passed (before.map fun row => row.jobId) s.db.books t.db.books)
    (fun before row rest hl t ht => ?_) .refl) fun _ _ h => h.logged
  obtain ⟨hmem, hst⟩ := hsel row (by rw [hl]; simp)
  have hr := hs.recovery_none hmem (by rw [hst]; decide)
  have hthere := ht.reached hl (fun y hy => (hsel y hy).1) hpair
  exact safe_mono (clearJob_passed hthere hst hr) fun _ t' ht' => ht.next ht'

/-! ### Leased claims -/

theorem recordClaim_books {input : ClaimNextWithLeaseInput} {operationType : OperationType}
    {requestHash : String} {jobId : Option String} {createdAt : Timestamp} :
    safe (Recovery.recordClaim input operationType requestHash jobId createdAt)
      (fun _ t => t.db.books = s.db.books) s := by
  simp [Recovery.recordClaim, Db.books]

theorem grantLease_logged {kind : Recovery.ClaimKind} {input : ClaimNextWithLeaseInput}
    {requestHash : String} {timestamp : Timestamp} {a : PageJobRow} (hmem : a ∈ s.db.pageJobs.rows)
    (hst : a.state = .pending) (hr : a.recoveryState = none) :
    safe (Recovery.grantLease env kind input requestHash timestamp (rowToJob a))
      (fun _ t => Logged s.db.books t.db.books) s := by
  unfold Recovery.grantLease
  simp only [safe, wp_bind, wp_require, wp_freshId, wp_check, wp_updateJobs, wp_insertAttempt,
    wp_insertLease, wp_insertTransition, wp_database, wp_orThrow, implies_true, and_true]
  intro _ expiresAt _ jobs hu _ attempts _ leases _ transitions hi
  refine safe_mono recordClaim_books fun _ t₁ h₁ lease _ => ?_
  refine safe_mono getJobRow_spec fun _ t₂ h₂ => ?_
  rw [wp_pure, h₂.1, h₁]
  have hrec : Recorded a.jobId (some .pending) .processing ⟨jobs, s.db.jobTransitions⟩
      ⟨jobs, transitions⟩ := ⟨⟨_, hi, rfl, rfl⟩, rfl⟩
  refine (logged_turn (b := s.db.books) hmem hu (by simp [rowToJob, hst, hr]) (fun b hb => ?_) rfl
    ((rowToJob_state .pending).2 ⟨hst, hr⟩) ((rowToJob_state .processing).2 ⟨rfl, rfl⟩) rfl
    hrec).logged
  simp only [Bool.and_eq_true, beq_iff_eq] at hb
  exact hb.1.1.1

theorem claimNextWithLease_logged {input : ClaimNextWithLeaseInput} :
    safe (Recovery.claimNextWithLease env input) (fun _ t => Logged s.db.books t.db.books) s := by
  unfold Recovery.claimNextWithLease Recovery.recoveryTransaction transaction
  simp only [safe, wp_bind, wp_check, wp_mapError, implies_true, and_true]
  intro _ _
  refine safe_mono validateOwnership_spec fun _ t ht => ?_
  obtain ⟨rfl, -⟩ := ht
  refine safe_mono assertRunActive_spec fun _ t' ht' => ?_
  obtain ⟨rfl, -⟩ := ht'
  rw [wp_database]
  split
  · simp only [wp_bind, wp_require, implies_true, and_true]
    intro _
    split
    · exact .refl
    · rw [wp_bind]
      refine safe_mono replayLease_spec fun _ t ht => ?_
      rw [wp_pure, ht]
      exact .refl
    · trivial
  · simp only [wp_bind, wp_now]
    split
    · rw [wp_bind]
      refine safe_mono recordClaim_books fun _ t ht => ?_
      rw [wp_pure, ht]
      exact .refl
    · rename_i row hrow
      obtain ⟨hmem, hp⟩ := head_select hrow
      simp only [Bool.and_eq_true, beq_iff_eq, decide_eq_true_eq] at hp
      rw [wp_bind]
      exact safe_mono (grantLease_logged hmem hp.1.1.2 hp.1.2) fun _ _ h => h

theorem claimJobWithLease_logged {input : ClaimJobWithLeaseInput} :
    safe (Recovery.claimJobWithLease env input) (fun _ t => Logged s.db.books t.db.books) s := by
  unfold Recovery.claimJobWithLease Recovery.recoveryTransaction transaction
  simp only [safe, wp_bind, wp_check, wp_mapError, implies_true, and_true]
  intro _ _
  refine safe_mono validateOwnership_spec fun _ t ht => ?_
  obtain ⟨rfl, -⟩ := ht
  refine safe_mono assertRunActive_spec fun _ t' ht' => ?_
  obtain ⟨rfl, -⟩ := ht'
  rw [wp_database]
  split
  · simp only [wp_bind, wp_require, implies_true, and_true]
    intro _
    split
    · simp only [wp_bind, wp_require, implies_true, and_true]
      intro _
      refine safe_mono replayLease_spec fun _ t ht => ?_
      rw [ht]
      exact .refl
    · trivial
  · simp only [wp_bind, wp_now]
    refine safe_mono getJobRow_spec fun row t ht => ?_
    obtain ⟨rfl, hmem, -, -⟩ := ht
    simp only [wp_require, implies_true, and_true, Bool.and_eq_true, beq_iff_eq]
    intro hp
    exact grantLease_logged hmem hp.1.1 hp.1.2

/-! ### Calls of a lease holder -/

theorem heartbeatLease_books {input : LeaseHolder} :
    safe (Recovery.heartbeatLease env input) (fun _ t => t.db.books = s.db.books) s := by
  unfold Recovery.heartbeatLease Recovery.recoveryTransaction transaction
  rw [safe, wp_mapError]
  refine safe_bind assertLease_spec fun l t ht => ?_
  simp only [safe, wp_bind, wp_now, wp_updateLeases, implies_true, and_true]
  intro leases _
  refine safe_mono readLease_spec fun _ t' ht' => ?_
  rw [ht', ← ht.1]
  rfl

theorem renewLease_books {input : RenewLeaseInput} :
    safe (Recovery.renewLease env input) (fun _ t => t.db.books = s.db.books) s := by
  unfold Recovery.renewLease Recovery.recoveryTransaction transaction
  simp only [safe, wp_bind, wp_check, wp_mapError, implies_true, and_true]
  intro _ _
  refine safe_mono assertLease_spec fun l t ht => ?_
  simp only [wp_now, wp_updateLeases, implies_true, and_true]
  intro _ _ leases _
  refine safe_mono readLease_spec fun _ t' ht' => ?_
  rw [ht', ← ht.1]
  rfl

theorem releaseLease_books {input : ReleaseLeaseInput} :
    safe (Recovery.releaseLease env input) (fun _ t => t.db.books = s.db.books) s := by
  unfold Recovery.releaseLease Recovery.recoveryTransaction transaction
  rw [safe, wp_mapError]
  refine safe_bind assertLease_spec fun l t ht => ?_
  simp only [safe, wp_bind, wp_now]
  refine safe_mono closeLease_books fun _ t' ht' => ?_
  refine safe_mono readLease_spec fun _ t'' ht'' => ?_
  rw [ht'', ht', ← ht.1]

theorem saveJobCheckpoint_books {input : SaveJobCheckpointInput} :
    safe (Recovery.saveJobCheckpoint env input) (fun _ t => t.db.books = s.db.books) s := by
  unfold Recovery.saveJobCheckpoint Recovery.recoveryTransaction transaction
  rw [safe, wp_mapError]
  refine safe_bind assertLease_spec fun l t ht => ?_
  simp only [safe, wp_bind, wp_now]
  refine safe_mono getJobRow_spec fun a t' ht' => ?_
  obtain ⟨rfl, -⟩ := ht'
  simp only [wp_check, wp_database, wp_freshId, wp_insertCheckpoint, wp_pure, implies_true, and_true]
  intro _ _ _ _ _ _ checkpoints _
  rw [← ht.1]
  rfl

end OfflineWebArchiver
