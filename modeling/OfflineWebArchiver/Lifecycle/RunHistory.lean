import OfflineWebArchiver.Lifecycle.History
import OfflineWebArchiver.Lifecycle.Recovery

/-!
# What recovery, pausing and rendering record

Recovery moves a job twice in one pass, and the second move begins where the first has ended.

* `run_logged`: **every call records what it does to the jobs.**
-/

namespace OfflineWebArchiver

open Relational Program Function

variable {env : Env} {s : Call}

/-! ### Recovery -/

theorem setControl_books {r : String} {target : RunControlState} {pausedAt : Option Timestamp}
    {timestamp : Timestamp} {operationId : String} :
    safe (Recovery.setControl r target pausedAt timestamp operationId)
      (fun _ t => t.db.books = s.db.books) s := by
  simp [Recovery.setControl, Db.books]

theorem openRecovery_books {input : RecoverInput} {requestHash : String} {timestamp : Timestamp}
    {existing : Option RecoveryOperationRow} :
    safe (Recovery.openRecovery input requestHash timestamp existing)
      (fun _ t => t.db.books = s.db.books) s := by
  unfold Recovery.openRecovery
  split <;> simp [Recovery.newRecoveryOperation, Db.books]

theorem closeRecovery_books {operation : RecoveryOperationRow}
    {selected : List (PageJobRow × Option JobLeaseRow)} {hasMore : Bool}
    {tally : Recovery.RecoveryTally} {timestamp : Timestamp} :
    safe (Recovery.closeRecovery operation selected hasMore tally timestamp)
      (fun _ t => t.db.books = s.db.books) s := by
  simp [Recovery.closeRecovery, Db.books]

theorem recoverLease_books {input : RecoverInput} {timestamp : Timestamp} {jobId : String} :
    safe (Recovery.recoverLease input timestamp jobId) (fun _ t => t.db.books = s.db.books) s := by
  unfold Recovery.recoverLease
  rw [safe, wp_bind, wp_database]
  split
  · exact closeLease_books
  · rfl

theorem requeueOrFail_passed {input : RecoverInput} {timestamp : Timestamp}
    {initial : RecoveryInspectionItem} {job : PageJob} {a : PageJobRow} {tally : Recovery.RecoveryTally}
    (hmem : a ∈ s.db.pageJobs.rows) (hid : a.jobId = job.jobId) (hst : a.state = .processing)
    (hr : a.recoveryState = some .interrupted) :
    safe (Recovery.requeueOrFail input timestamp initial job tally)
      (fun _ t => Passed [a.jobId] s.db.books t.db.books) s := by
  have hsource : (rowToJob a).state = .interrupted := by
    show (a.recoveryState.map RecoveryState.toJobState).getD _ = _
    rw [hr]
    rfl
  have honly : ∀ x : PageJobRow, (x.jobId == job.jobId && x.state == .processing) = true →
      x.jobId = a.jobId := by
    intro x hx
    simp only [Bool.and_eq_true, beq_iff_eq] at hx
    rw [hx.1, hid]
  unfold Recovery.requeueOrFail
  rw [safe, wp_ite]
  constructor
  · intro _
    simp only [wp_bind, wp_updateJobs, implies_true, and_true]
    intro jobs hu
    refine safe_mono transition_recorded fun _ t ht => ?_
    rw [← hid] at ht
    exact logged_turn (b := s.db.books) hmem hu (by simp [hid, hst]) honly rfl hsource
      ((rowToJob_state .pending).2 ⟨rfl, rfl⟩) rfl ht
  · intro _
    simp only [wp_bind, wp_updateJobs, implies_true, and_true]
    intro jobs hu
    refine safe_mono transition_recorded fun _ t ht => ?_
    rw [← hid] at ht
    exact logged_turn (b := s.db.books) hmem hu (by simp [hid, hst]) honly rfl hsource
      ((rowToJob_state .failed).2 ⟨rfl, rfl⟩) rfl ht

theorem recoverJob_passed {input : RecoverInput} {prior : RunControlState} {timestamp : Timestamp}
    {tally : Recovery.RecoveryTally} {a : PageJobRow} {lease : Option JobLeaseRow}
    (hmem : a ∈ s.db.pageJobs.rows) (hr : a.recoveryState = none)
    (hst : a.state = .processing ∨ a.state = .completed) :
    safe (Recovery.recoverJob input prior timestamp tally (a, lease))
      (fun _ t => Passed [a.jobId] s.db.books t.db.books) s := by
  unfold Recovery.recoverJob
  simp only [safe, wp_ite, wp_bind]
  refine ⟨fun _ => .refl, fun hopen => ?_⟩
  have hst : a.state = .processing := by
    rcases hst with h | h
    · exact h
    · exact absurd ((rowToJob_state .completed).2 ⟨h, hr⟩) hopen
  refine safe_mono recoverLease_books fun _ t ht => ?_
  refine safe_mono finishAttempt_books fun _ t' ht' => ?_
  have hbooks : t'.db.books = s.db.books := ht'.trans ht
  have hjobs : t'.db.pageJobs = s.db.pageJobs := congrArg Books.jobs hbooks
  simp only [wp_updateJobs, implies_true, and_true]
  intro jobs hu
  rw [← hjobs] at hmem
  refine safe_mono transition_recorded fun _ t₁ h₁ => ?_
  have hfirst : Passed [a.jobId] s.db.books t₁.db.books := by
    rw [← hbooks]
    refine logged_turn (b := t'.db.books) hmem hu (by simp [rowToJob, hst]) (fun b hb => ?_) rfl
      ((rowToJob_state .processing).2 ⟨hst, hr⟩) rfl ?_ h₁
    · simp only [Bool.and_eq_true, beq_iff_eq] at hb
      exact hb.1
    · cases Recovery.pauseRequested prior <;> rfl
  refine ⟨fun _ => hfirst, fun hpause => ?_⟩
  -- the row that the second move begins with is the one that the first move has left
  have hrow : { a with recoveryState := some .interrupted, updatedAt := timestamp } ∈
      t₁.db.pageJobs.rows := by
    have hjobs₁ : t₁.db.pageJobs = jobs := h₁.jobs
    rw [if_neg hpause] at hu
    rw [hjobs₁, Table.update_rows hu]
    exact List.mem_map.2 ⟨a, hmem, rewrite_pos (by simp [rowToJob, hst])⟩
  refine safe_mono (requeueOrFail_passed hrow rfl hst rfl) fun _ t₂ h₂ => ?_
  exact (hfirst.trans h₂).mono (by simp)

theorem recoverLoop_logged {input : RecoverInput} {prior : RunControlState} {timestamp : Timestamp}
    {tally : Recovery.RecoveryTally} {selected : List (PageJobRow × Option JobLeaseRow)}
    (hsel : ∀ x ∈ selected, x.1 ∈ s.db.pageJobs.rows ∧ x.1.recoveryState = none ∧
      (x.1.state = .processing ∨ x.1.state = .completed))
    (hpair : selected.Pairwise fun x y => x.1.jobId ≠ y.1.jobId) :
    safe (selected.foldlM (Recovery.recoverJob input prior timestamp) tally)
      (fun _ t => Logged s.db.books t.db.books) s := by
  refine safe_mono (wp_foldlM_done (I := fun before _ t =>
    Passed (before.map fun x => x.1.jobId) s.db.books t.db.books)
    (fun before x rest hl tally t ht => ?_) .refl) fun _ _ h => h.logged
  obtain ⟨-, hr, hst⟩ := hsel x (by rw [hl]; simp)
  have hthere := Passed.reached ht hl (fun y hy => (hsel y hy).1) hpair
  exact safe_mono (recoverJob_passed hthere hr hst) fun _ t' ht' => ht.next ht'

theorem recoverBatch_logged {input : RecoverInput} {requestHash : String}
    {existing : Option RecoveryOperationRow} (hs : Sound env.hashText s.db.pool) :
    safe (Recovery.recoverBatch input requestHash existing)
      (fun _ t => Logged s.db.books t.db.books) s := by
  unfold Recovery.recoverBatch
  rw [safe, wp_bind, wp_now, wp_bind]
  refine safe_mono openRecovery_books fun operation t₁ h₁ => ?_
  rw [wp_bind]
  refine safe_mono runState_spec fun control t₂ h₂ => ?_
  obtain ⟨rfl, -⟩ := h₂
  rw [wp_bind, wp_require]
  refine ⟨fun _ => ?_, fun _ => trivial⟩
  rw [wp_bind]
  refine safe_mono setControl_books fun _ t₃ h₃ => ?_
  rw [wp_bind, wp_database, wp_bind]
  have hbooks : t₃.db.books = s.db.books := h₃.trans h₁
  have hjobs : t₃.db.pageJobs = s.db.pageJobs := congrArg Books.jobs hbooks
  have hsel : ∀ x ∈ (Recovery.candidateRows t₃.db input.runId input.evaluationTime operation.cursor
      input.limit.toNat).take input.limit.toNat, x.1 ∈ t₃.db.pageJobs.rows ∧
      x.1.recoveryState = none ∧ (x.1.state = .processing ∨ x.1.state = .completed) := by
    intro x hx
    obtain ⟨hmem, -, hst⟩ := candidate_mem (List.mem_of_mem_take hx)
    refine ⟨hmem, ?_, hst.imp_left And.left⟩
    rcases hst with h | h
    · exact h.2
    · exact hs.recovery_none (hjobs ▸ hmem) (by rw [h]; decide)
  refine safe_mono (recoverLoop_logged hsel ?_) fun tally t₄ h₄ => ?_
  · exact List.Pairwise.sublist (List.take_sublist ..) (candidateRows_pairwise ..)
  rw [wp_bind, wp_database, wp_bind]
  refine safe_mono setControl_books fun _ t₅ h₅ => ?_
  rw [wp_bind]
  refine safe_mono closeRecovery_books fun _ t₆ h₆ => ?_
  rw [wp_bind]
  refine safe_mono saveRunCheckpoint_spec fun _ t₇ h₇ => ?_
  rw [wp_bind, wp_database, wp_orThrow]
  refine ⟨fun _ _ => ?_, fun _ => trivial⟩
  rw [h₇, h₆, h₅, ← hbooks]
  exact h₄

theorem recover_logged {input : RecoverInput} (hs : Sound env.hashText s.db.pool) :
    safe (Recovery.recover env input) (fun _ t => Logged s.db.books t.db.books) s := by
  unfold Recovery.recover Recovery.recoveryTransaction transaction
  simp only [safe, wp_bind, wp_check, wp_require, wp_mapError, implies_true, and_true]
  intro _ _ _ _ _
  refine safe_mono validateOwnership_spec fun _ t ht => ?_
  obtain ⟨rfl, -⟩ := ht
  rw [wp_database]
  intro _
  split
  · exact .refl
  · exact recoverBatch_logged hs

/-! ### Pausing and resuming -/

theorem requestPause_books {input : RequestPauseInput} :
    safe (Recovery.requestPause input) (fun _ t => t.db.books = s.db.books) s := by
  unfold Recovery.requestPause Recovery.recoveryTransaction transaction
  rw [safe, wp_mapError, wp_bind]
  refine safe_mono validateOwnership_spec fun _ t ht => ?_
  obtain ⟨rfl, -⟩ := ht
  rw [wp_bind]
  refine safe_mono runState_spec fun control t' ht' => ?_
  obtain ⟨rfl, -⟩ := ht'
  simp only [wp_bind, wp_require, wp_ite, wp_now, wp_database, wp_check, wp_updateControl, implies_true,
    and_true]
  refine fun _ => ⟨fun _ => safe_mono pauseStatus_spec fun _ _ h => by rw [h], fun _ _ _ table _ => ?_⟩
  refine safe_mono saveRunCheckpoint_spec fun _ t₁ h₁ => ?_
  refine safe_mono pauseStatus_spec fun _ t₂ h₂ => ?_
  rw [h₂, h₁]
  rfl

theorem completePause_books {input : AcknowledgePauseInput} {timestamp : Timestamp} :
    safe (Recovery.completePause input timestamp) (fun _ t => t.db.books = s.db.books) s := by
  unfold Recovery.completePause
  rw [safe, wp_bind, wp_database, wp_ite]
  refine ⟨fun _ => ?_, fun _ => rfl⟩
  rw [wp_bind]
  refine safe_mono runState_spec fun control t ht => ?_
  obtain ⟨rfl, -⟩ := ht
  simp only [wp_bind, wp_check, wp_updateControl, implies_true, and_true]
  exact fun _ _ table _ => rfl

theorem acknowledgePause_logged {input : AcknowledgePauseInput} (hs : Sound env.hashText s.db.pool) :
    safe (Recovery.acknowledgePause env input) (fun _ t => Logged s.db.books t.db.books) s := by
  unfold Recovery.acknowledgePause Recovery.recoveryTransaction transaction
  rw [safe, wp_mapError, wp_bind]
  refine safe_mono runState_spec fun control t ht => ?_
  obtain ⟨rfl, -⟩ := ht
  rw [wp_bind, wp_require]
  refine ⟨fun _ => ?_, fun _ => trivial⟩
  rw [wp_bind]
  refine safe_mono assertLease_spec fun l t₁ h₁ => ?_
  obtain ⟨hdb₁, hl⟩ := h₁
  rw [wp_bind, wp_now, wp_bind]
  refine safe_mono getJobRow_spec fun a t₂ h₂ => ?_
  obtain ⟨rfl, hmem, hid, -⟩ := h₂
  rw [show ({ t₁ with ticks := t₁.ticks + 1 } : Call).db = t.db from hdb₁] at hmem
  -- the presented lease stands on a job in work
  obtain ⟨j, hj, hst, hr, -⟩ := hs.lease l.jobId (holdOf l) (held_mem hl.mem hl.active)
  have hja : t.db.pool.jobs l.jobId = some (jobOf a) := by rw [hl.job, ← hid]; exact jobs_mem hmem
  rw [hja] at hj
  obtain rfl := Option.some.inj hj
  have hst' : a.state = .processing := hst
  simp only [wp_bind, wp_freshId, wp_insertCheckpoint, implies_true, and_true]
  intro checkpoints _
  refine safe_mono closeLease_books fun _ t₃ h₃ => ?_
  refine safe_mono finishAttempt_books fun _ t₄ h₄ => ?_
  have hbooks : t₄.db.books = t.db.books := by
    rw [h₄, h₃, ← hdb₁]
    rfl
  have hjobs : t₄.db.pageJobs = t.db.pageJobs := congrArg Books.jobs hbooks
  simp only [wp_updateJobs, implies_true, and_true]
  intro jobs hu
  rw [← hjobs] at hmem
  refine safe_mono transition_recorded fun _ t₅ h₅ => ?_
  refine safe_mono completePause_books fun _ t₆ h₆ => ?_
  refine safe_mono saveRunCheckpoint_spec fun _ t₇ h₇ => ?_
  refine safe_mono getJobRow_spec fun _ t₈ h₈ => ?_
  rw [wp_pure, h₈.1, h₇, h₆, ← hbooks]
  refine (logged_turn (b := t₄.db.books) hmem hu (by simp [rowToJob, hst']) (fun b hb => ?_) rfl
    ((rowToJob_state .processing).2 ⟨hst', hr⟩) rfl rfl h₅).logged
  simp only [Bool.and_eq_true, beq_iff_eq] at hb
  exact hb.1

theorem resumeJob_passed {input : ResumeRunInput} {timestamp : Timestamp} {a : PageJobRow}
    (hmem : a ∈ s.db.pageJobs.rows) (hr : a.recoveryState ≠ none) :
    safe (Recovery.resumeJob input timestamp a)
      (fun _ t => Passed [a.jobId] s.db.books t.db.books) s := by
  simp only [Recovery.resumeJob, safe, wp_bind, wp_updateJobs, implies_true, and_true]
  intro jobs hu
  refine safe_mono transition_recorded fun _ t ht => ?_
  have hallowed : canTransition (rowToJob a).state .pending = true := by
    obtain ⟨r, hr⟩ := Option.ne_none_iff_exists'.1 hr
    show canTransition ((a.recoveryState.map RecoveryState.toJobState).getD _) _ = _
    rw [hr]
    cases r <;> rfl
  exact logged_turn (b := s.db.books) hmem hu (by simp [rowToJob])
    (fun b hb => by simpa [rowToJob] using hb) rfl rfl ((rowToJob_state .pending).2 ⟨rfl, rfl⟩)
    hallowed ht

theorem resumeRun_logged {input : ResumeRunInput} :
    safe (Recovery.resumeRun input) (fun _ t => Logged s.db.books t.db.books) s := by
  unfold Recovery.resumeRun Recovery.recoveryTransaction transaction
  rw [safe, wp_mapError, wp_bind]
  refine safe_mono validateOwnership_spec fun _ t ht => ?_
  obtain ⟨rfl, -⟩ := ht
  rw [wp_bind]
  refine safe_mono runState_spec fun control t' ht' => ?_
  obtain ⟨rfl, -⟩ := ht'
  rw [wp_ite]
  refine ⟨fun _ => safe_mono pauseStatus_spec fun _ t ht => ?_, fun _ => ?_⟩
  · rw [ht]
    exact .refl
  simp only [wp_bind, wp_require, wp_now, implies_true, and_true]
  intro _
  refine safe_mono setControl_books fun _ t₁ h₁ => ?_
  rw [wp_database]
  set rows := t₁.db.pageJobs.select (fun a => a.runId == input.runId && a.state == .processing &&
    a.recoveryState.isSome) fun a b => a.queueSequence ≤ b.queueSequence with hrows
  have hsel : ∀ a ∈ rows, a ∈ t₁.db.pageJobs.rows ∧ a.recoveryState ≠ none := by
    intro a ha
    obtain ⟨hmem, hp⟩ := Table.mem_select.1 ha
    simp only [Bool.and_eq_true] at hp
    exact ⟨hmem, Option.isSome_iff_ne_none.1 hp.2⟩
  have hpair : rows.Pairwise fun x y => x.jobId ≠ y.jobId :=
    jobIndex.select_pairwise.imp fun {x y} h hxy => h x.jobId rfl (congrArg some hxy.symm)
  refine safe_mono (wp_forM_done (I := fun before t =>
    Passed (before.map fun a => a.jobId) t₁.db.books t.db.books)
    (fun before a rest hl t ht => ?_) .refl) fun _ t₂ h₂ => ?_
  · obtain ⟨-, hr⟩ := hsel a (by rw [hl]; simp)
    have hthere := ht.reached hl (fun y hy => (hsel y hy).1) hpair
    exact safe_mono (resumeJob_passed hthere hr) fun _ t' ht' => ht.next ht'
  refine safe_mono runState_spec fun control₂ t₃ h₃ => ?_
  obtain ⟨rfl, -⟩ := h₃
  simp only [wp_check, wp_updateControl, implies_true, and_true]
  intro _ _ table' _
  refine safe_mono saveRunCheckpoint_spec fun _ t₄ h₄ => ?_
  refine safe_mono pauseStatus_spec fun _ t₅ h₅ => ?_
  rw [h₅, h₄]
  have hlogged := h₂.logged
  rw [h₁] at hlogged
  exact hlogged

theorem setRunState_books {input : SetRunStateInput} :
    safe (Recovery.setRunState input) (fun _ t => t.db.books = s.db.books) s := by
  unfold Recovery.setRunState Recovery.recoveryTransaction transaction
  rw [safe, wp_mapError, wp_bind]
  refine safe_mono validateOwnership_spec fun _ t ht => ?_
  obtain ⟨rfl, -⟩ := ht
  rw [wp_bind]
  refine safe_mono runState_spec fun control t' ht' => ?_
  obtain ⟨rfl, -⟩ := ht'
  simp only [wp_bind, wp_now, wp_check, wp_updateControl, implies_true, and_true]
  intro _ _ table _
  refine safe_mono saveRunCheckpoint_spec fun _ t₁ h₁ => ?_
  refine safe_mono pauseStatus_spec fun _ t₂ h₂ => ?_
  rw [h₂, h₁]
  rfl

/-! ### Rendering -/

theorem commitOwned_logged {input : CommitRenderResultInput} :
    safe (Render.commitOwned env input) (fun _ t => Logged s.db.books t.db.books) s := by
  unfold Render.commitOwned
  refine safe_bind assertOwnership_spec fun o t ht => ?_
  obtain ⟨hdb, ho⟩ := ht
  simp only [safe, wp_bind, wp_freshId, wp_now, wp_check, wp_insertRenderResult, implies_true, and_true]
  intro _ _ results _
  refine safe_mono insertArtifact_spec fun _ t₁ h₁ => ?_
  obtain ⟨outputs₁, _, hdb₁, -⟩ := h₁
  refine safe_mono insertScreenshot_spec fun _ t₂ h₂ => ?_
  obtain ⟨outputs₂, _, hdb₂, -⟩ := h₂
  simp only [wp_updateJobs, wp_updateAttempts, wp_insertTransition, implies_true, and_true]
  intro jobs hu attempts _ transitions hi
  refine safe_mono closeLease_books fun _ t₃ h₃ => ?_
  refine safe_mono insertEvent_spec fun _ t₄ h₄ => ?_
  rw [wp_pure, h₄, h₃]
  have hbooks : t₂.db.books = s.db.books := by
    rw [hdb₂, hdb₁, ← hdb]
    rfl
  have hjobs : t₂.db.pageJobs = s.db.pageJobs := congrArg Books.jobs hbooks
  have hrec : Recorded input.jobId (some .processing) .completed ⟨jobs, t₂.db.jobTransitions⟩
      ⟨jobs, transitions⟩ := ⟨⟨_, hi, rfl, rfl⟩, rfl⟩
  have hmem := ho.job
  rw [← hjobs] at hmem
  rw [← ho.jobId] at hrec
  rw [← hbooks]
  refine (logged_turn (b := t₂.db.books) hmem hu
    (by simp [ho.jobId, ho.state, ho.generation]) (fun b hb => ?_) rfl
    ((rowToJob_state .processing).2 ⟨ho.state, ho.recovery⟩)
    ((rowToJob_state .completed).2 ⟨rfl, ho.recovery⟩) rfl hrec).logged
  simp only [Bool.and_eq_true, beq_iff_eq] at hb
  rw [hb.1.1, ho.jobId]

theorem commitTransaction_logged {input : CommitRenderResultInput} :
    safe (Render.commitTransaction env input) (fun _ t => Logged s.db.books t.db.books) s := by
  unfold Render.commitTransaction Render.renderTransaction transaction
  rw [safe, wp_mapError, wp_bind, wp_database]
  split
  · simp only [wp_bind, wp_require, wp_pure, implies_true, and_true]
    exact fun _ => .refl
  · exact commitOwned_logged

theorem recordRenderFailure_logged {input : RecordRenderFailureInput} :
    safe (Render.recordRenderFailure env input) (fun _ t => Logged s.db.books t.db.books) s := by
  unfold Render.recordRenderFailure Render.renderTransaction transaction
  rw [safe, wp_mapError]
  refine safe_bind assertOwnership_spec fun o t ht => ?_
  obtain ⟨hdb, ho⟩ := ht
  rw [safe, wp_bind, wp_database]
  rw [← hdb] at ho ⊢
  split
  · exact .refl
  · simp only [wp_bind, wp_freshId, wp_insertRenderFailure, wp_updateJobs, wp_updateAttempts,
      wp_insertTransition, implies_true, and_true]
    intro failures _ jobs hu attempts _ transitions hi
    refine safe_mono closeLease_books fun _ t₁ h₁ => ?_
    refine safe_mono insertEvent_spec fun _ t₂ h₂ => ?_
    rw [wp_pure, h₂, h₁]
    set retry := (input.retryable && decide (o.job.attemptCount < o.job.maxAttempts)) with hretry
    have hrec : Recorded input.jobId (some .processing)
        (if retry = true then StoredState.retrying else StoredState.failed).toJobState
        ⟨jobs, t.db.jobTransitions⟩ ⟨jobs, transitions⟩ := ⟨⟨_, hi, rfl, rfl⟩, rfl⟩
    rw [← ho.jobId] at hrec
    refine (logged_turn (b := t.db.books) ho.job hu (by simp [ho.jobId, ho.state, ho.generation])
      (fun b hb => ?_) rfl ((rowToJob_state .processing).2 ⟨ho.state, ho.recovery⟩)
      ((rowToJob_state _).2 ⟨rfl, ho.recovery⟩) ?_ hrec).logged
    · simp only [Bool.and_eq_true, beq_iff_eq] at hb
      rw [hb.1.1, ho.jobId]
    · cases retry <;> rfl

/-! ### All calls -/

theorem safe_logged {α : Type} {m : M α} (h : safe m (fun _ t => t.db.books = s.db.books) s) :
    safe m (fun _ t => Logged s.db.books t.db.books) s := by
  refine safe_mono h fun _ t ht => ?_
  rw [ht]
  exact .refl

/-- **Every call records what it does to the jobs**, one case for each operation. -/
theorem run_logged (hs : Sound env.hashText s.db.pool) (op : Op) :
    safe (op.run env) (fun _ t => Logged s.db.books t.db.books) s := by
  cases op <;> simp only [Op.run, safe, wp_map]
  case enqueue i => exact enqueue_logged
  case claimNext i => exact claimNext_logged hs
  case claimNextWithLease i => exact claimNextWithLease_logged
  case claimJobWithLease i => exact claimJobWithLease_logged
  case heartbeatLease i => exact safe_logged heartbeatLease_books
  case renewLease i => exact safe_logged renewLease_books
  case releaseLease i => exact safe_logged releaseLease_books
  case saveJobCheckpoint i => exact safe_logged saveJobCheckpoint_books
  case complete i => exact complete_logged
  case fail i => exact fail_logged
  case scheduleRetry i => exact scheduleRetry_logged
  case releaseDueRetries i => exact releaseDueRetries_logged hs
  case skip i => exact terminalAction_logged
  case block i => exact terminalAction_logged
  case clearPending i => exact clearPending_logged hs
  case recover i => exact recover_logged hs
  case requestPause i => exact safe_logged requestPause_books
  case acknowledgePause i => exact acknowledgePause_logged hs
  case resumeRun i => exact resumeRun_logged
  case setRunState i => exact safe_logged setRunState_books
  case commitRenderResult i => exact commitTransaction_logged
  case recordRenderFailure i => exact recordRenderFailure_logged

/-- A call that throws has written nothing, and any other has recorded what it did. -/
theorem step_logged {db : Db} (e : Event) (hs : Sound env.hashText db.pool) :
    Logged db.books (step env db e).books := by
  cases he : exec env db e with
  | error t =>
    rw [step_error he]
    exact .refl
  | ok p =>
    obtain ⟨a, db'⟩ := p
    rw [step_ok he]
    exact exec_of_wp (Q := fun _ db' => Logged db.books db'.books)
      (run_logged (s := e.start db) hs e.op) he

end OfflineWebArchiver
