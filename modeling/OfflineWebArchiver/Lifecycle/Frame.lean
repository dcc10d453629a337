import OfflineWebArchiver.Lib.Program
import OfflineWebArchiver.Persistence.Step

/-!
# What only an enqueue changes

`entryOf` reads off a job what it enters the queue with. No call but `enqueue` adds a job, moves
its place in the queue, changes what it stands for or records how it was discovered.

* `Calm`: the jobs and discoveries stay, and the ledger only grows.
* `run_calm`, `step_calm`: every call but `enqueue` is calm.
-/

namespace OfflineWebArchiver

open Relational Program

/-- What a job enters the queue with. -/
structure JobEntry where
  queueSequence : ℕ
  jobId : String
  runId : String
  profileRevisionId : String
  engineVersion : ℕ
  identityHash : String
  depth : ℕ

def entryOf (a : PageJobRow) : JobEntry where
  queueSequence := a.queueSequence
  jobId := a.jobId
  runId := a.runId
  profileRevisionId := a.profileRevisionId
  engineVersion := a.normalizationEngineVersion
  identityHash := a.identityHash
  depth := a.depth

/-- No job enters and none changes what it entered with. -/
structure Calm (db db' : Db) : Prop where
  project : db'.project = db.project
  entries : db'.pageJobs.rows.map entryOf = db.pageJobs.rows.map entryOf
  discoveries : db'.jobDiscoveries = db.jobDiscoveries
  ledger : db.queueOperations.rows <+: db'.queueOperations.rows

theorem Calm.refl (db : Db) : Calm db db := ⟨rfl, rfl, rfl, List.prefix_rfl⟩

theorem Calm.trans {db db' db'' : Db} (h : Calm db db') (h' : Calm db' db'') : Calm db db'' :=
  ⟨h'.project.trans h.project, h'.entries.trans h.entries, h'.discoveries.trans h.discoveries,
    h.ledger.trans h'.ledger⟩

def Calmly (s t : Call) : Prop := Calm s.db t.db

instance : IsPreorder Call Calmly where
  refl s := Calm.refl s.db
  trans _ _ _ h h' := Calm.trans h h'

variable {env : Env}

/-! ### Statements -/

@[simp] theorem calm_now : Respects Calmly now := fun _ => ⟨rfl, rfl, rfl, List.prefix_rfl⟩

@[simp] theorem calm_freshId : Respects Calmly freshId := fun _ => ⟨rfl, rfl, rfl, List.prefix_rfl⟩

@[simp] theorem calm_database : Respects Calmly database := fun s => Calm.refl s.db

/-- A statement on tables that `Calm` does not read. -/
theorem calm_statement {α : Type} {run : Db → Option (α × Db)}
    (h : ∀ db a db', run db = some (a, db') → db'.project = db.project ∧ db'.pageJobs = db.pageJobs ∧
      db'.jobDiscoveries = db.jobDiscoveries ∧ db'.queueOperations = db.queueOperations) :
    Respects Calmly (statement run) := by
  intro s
  rw [safe, wp_statement]
  refine ⟨fun a db hrun => ?_, fun _ => trivial⟩
  obtain ⟨hproject, hjobs, hdiscoveries, hledger⟩ := h s.db a db hrun
  exact ⟨hproject, congrArg (·.rows.map entryOf) hjobs, hdiscoveries,
    hledger ▸ List.prefix_rfl⟩

/-- A statement that replaces one such table. -/
theorem calm_statement_map {α β : Type} {g : Db → Option β} {h : Db → α} {put : Db → β → Db}
    (hput : ∀ db b, (put db b).project = db.project ∧ (put db b).pageJobs = db.pageJobs ∧
      (put db b).jobDiscoveries = db.jobDiscoveries ∧ (put db b).queueOperations = db.queueOperations) :
    Respects Calmly (statement fun db => (g db).map fun t => (h db, put db t)) := by
  refine calm_statement fun db a db' hrun => ?_
  obtain ⟨b, -, hb⟩ := Option.map_eq_some_iff.1 hrun
  obtain ⟨-, rfl⟩ := Prod.mk.inj hb
  exact hput db b

@[simp] theorem calm_updateLeases (p : JobLeaseRow → Bool) (f : JobLeaseRow → JobLeaseRow) :
    Respects Calmly (updateLeases p f) := calm_statement_map fun _ _ => ⟨rfl, rfl, rfl, rfl⟩

@[simp] theorem calm_insertLease (row : JobLeaseRow) : Respects Calmly (insertLease row) :=
  calm_statement_map fun _ _ => ⟨rfl, rfl, rfl, rfl⟩

@[simp] theorem calm_updateAttempts (p : JobAttemptRow → Bool) (f : JobAttemptRow → JobAttemptRow) :
    Respects Calmly (updateAttempts p f) := calm_statement_map fun _ _ => ⟨rfl, rfl, rfl, rfl⟩

@[simp] theorem calm_insertAttempt (row : JobAttemptRow) : Respects Calmly (insertAttempt row) :=
  calm_statement_map fun _ _ => ⟨rfl, rfl, rfl, rfl⟩

@[simp] theorem calm_insertTransition (row : JobTransitionRow) : Respects Calmly (insertTransition row) :=
  calm_statement_map fun _ _ => ⟨rfl, rfl, rfl, rfl⟩

@[simp] theorem calm_updateControl (p : RunControlRow → Bool) (f : RunControlRow → RunControlRow) :
    Respects Calmly (updateControl p f) := calm_statement_map fun _ _ => ⟨rfl, rfl, rfl, rfl⟩

@[simp] theorem calm_insertCheckpoint (row : JobCheckpointRow) : Respects Calmly (insertCheckpoint row) :=
  calm_statement_map fun _ _ => ⟨rfl, rfl, rfl, rfl⟩

@[simp] theorem calm_insertOutput (row : CompletedOutputRow) : Respects Calmly (insertOutput row) :=
  calm_statement_map fun _ _ => ⟨rfl, rfl, rfl, rfl⟩

@[simp] theorem calm_insertRecoveryOperation (row : RecoveryOperationRow) :
    Respects Calmly (insertRecoveryOperation row) := calm_statement_map fun _ _ => ⟨rfl, rfl, rfl, rfl⟩

@[simp] theorem calm_updateRecoveryOperations (p : RecoveryOperationRow → Bool)
    (f : RecoveryOperationRow → RecoveryOperationRow) :
    Respects Calmly (updateRecoveryOperations p f) := calm_statement_map fun _ _ => ⟨rfl, rfl, rfl, rfl⟩

@[simp] theorem calm_insertRenderResult (row : RenderResultRow) : Respects Calmly (insertRenderResult row) :=
  calm_statement_map fun _ _ => ⟨rfl, rfl, rfl, rfl⟩

@[simp] theorem calm_insertRenderFailure (row : RenderFailureRow) :
    Respects Calmly (insertRenderFailure row) := calm_statement_map fun _ _ => ⟨rfl, rfl, rfl, rfl⟩

/-- An update that keeps what a job entered with. -/
theorem calm_updateJobs {p : PageJobRow → Bool} {f : PageJobRow → PageJobRow}
    (hf : ∀ a, entryOf (f a) = entryOf a) : Respects Calmly (updateJobs p f) := by
  intro s
  rw [safe, wp_updateJobs]
  refine ⟨fun jobs hjobs => ⟨rfl, ?_, rfl, List.prefix_rfl⟩, fun _ => trivial⟩
  show jobs.rows.map entryOf = _
  rw [Table.update_rows hjobs, List.map_map]
  refine List.map_congr_left fun a _ => ?_
  show entryOf (rewrite p f a) = entryOf a
  unfold rewrite
  split
  · exact hf a
  · rfl

@[simp] theorem calm_insertOperation (row : QueueOperationRow) : Respects Calmly (insertOperation row) := by
  intro s
  rw [safe, wp_insertOperation]
  refine ⟨fun ops hops => ⟨rfl, rfl, rfl, ?_⟩, fun _ => trivial⟩
  show _ <+: ops.rows
  rw [Table.insert_rows hops]
  exact List.prefix_append _ _

/-! ### Parts of the calls -/

@[simp] theorem calm_getJobRow (projectId runId jobId : String) :
    Respects Calmly (getJobRow projectId runId jobId) := by
  simp [getJobRow]

@[simp] theorem calm_queue_validateOwnership (projectId runId : String) :
    Respects Calmly (Queue.validateOwnership projectId runId) := by
  unfold Queue.validateOwnership
  refine .bind (by simp) fun _ => .bind (by simp) fun _ => ?_
  simp

@[simp] theorem calm_validateFencedClaim (job : PageJob) (claimToken : String) :
    Respects Calmly (Queue.validateFencedClaim env job claimToken) := by
  unfold Queue.validateFencedClaim
  repeat' first
    | with_reducible refine .ite ?_ ?_
    | with_reducible refine .bind ?_ fun _ => ?_
  all_goals simp

@[simp] theorem calm_queue_transition (jobId : String) (source : Option PageJobState)
    (target : PageJobState) (reasonCode operationId correlationId : String) (occurredAt : Timestamp)
    (metadata : Json) : Respects Calmly
      (Queue.transition jobId source target reasonCode operationId correlationId occurredAt metadata) := by
  unfold Queue.transition
  repeat' first
    | with_reducible refine .ite ?_ ?_
    | with_reducible refine .bind ?_ fun _ => ?_
  all_goals simp

/-- A call through the ledger is calm when its operation is. -/
@[simp] theorem calm_idempotent {projectId runId key : String} {ty : OperationType} {request : Json}
    {operation : M StoredResult} (hop : Respects Calmly operation) :
    Respects Calmly (Queue.idempotent env projectId runId ty key request operation) := by
  unfold Queue.idempotent
  repeat' first
    | with_reducible refine .ite ?_ ?_
    | with_reducible refine .bind ?_ fun _ => ?_
    | split
    | dsimp only
  all_goals simp [hop]

@[simp] theorem calm_finishAttempt (jobId : String) (claimToken : Option String)
    (f : JobAttemptRow → JobAttemptRow) : Respects Calmly (Queue.finishAttempt jobId claimToken f) := by
  unfold Queue.finishAttempt
  simp

@[simp] theorem calm_releaseJobLease (job : PageJob) (releasedAt : Timestamp)
    (releaseReason operationId : String) :
    Respects Calmly (Queue.releaseJobLease job releasedAt releaseReason operationId) := by
  unfold Queue.releaseJobLease
  exact .ite (by simp) (by simp)

@[simp] theorem calm_validateOwnership (projectId runId : String) :
    Respects Calmly (Recovery.validateOwnership projectId runId) := by
  unfold Recovery.validateOwnership
  exact .bind (by simp) fun _ => by simp

@[simp] theorem calm_assertLease (input : LeaseHolder) :
    Respects Calmly (Recovery.assertLease env input) := by
  unfold Recovery.assertLease
  repeat' first
    | with_reducible refine .ite ?_ ?_
    | with_reducible refine .bind ?_ fun _ => ?_
  all_goals simp

@[simp] theorem calm_transition (jobId : String) (source target : PageJobState)
    (reasonCode operationId correlationId : String) (occurredAt : Timestamp) : Respects Calmly
      (Recovery.transition jobId source target reasonCode operationId correlationId occurredAt) := by
  unfold Recovery.transition
  repeat' first
    | with_reducible refine .ite ?_ ?_
    | with_reducible refine .bind ?_ fun _ => ?_
  all_goals simp

@[simp] theorem calm_runState (projectId runId : String) :
    Respects Calmly (Recovery.runState projectId runId) := by
  unfold Recovery.runState
  exact .bind (by simp) fun _ => by simp

@[simp] theorem calm_pauseStatus (projectId runId : String) :
    Respects Calmly (Recovery.pauseStatus projectId runId) := by
  unfold Recovery.pauseStatus
  exact .bind (by simp) fun _ => .bind (by simp) fun _ => by simp

@[simp] theorem calm_saveRunCheckpoint (projectId runId : String) :
    Respects Calmly (Recovery.saveRunCheckpoint projectId runId) := by
  unfold Recovery.saveRunCheckpoint
  exact .bind (by simp) fun _ => .bind (by simp) fun _ => by simp

@[simp] theorem calm_readLease (leaseId : String) : Respects Calmly (Recovery.readLease leaseId) := by
  unfold Recovery.readLease
  exact .bind (by simp) fun _ => .bind (by simp) fun _ => by simp

@[simp] theorem calm_closeLease (leaseId : String) (status : JobLeaseStatus) (releasedAt : Timestamp)
    (releaseReason operationId : String) :
    Respects Calmly (Recovery.closeLease leaseId status releasedAt releaseReason operationId) := by
  unfold Recovery.closeLease
  simp

@[simp] theorem calm_setControl (runId : String) (target : RunControlState) (pausedAt : Option Timestamp)
    (timestamp : Timestamp) (operationId : String) :
    Respects Calmly (Recovery.setControl runId target pausedAt timestamp operationId) := by
  unfold Recovery.setControl
  simp

@[simp] theorem calm_queueTransaction {α : Type} {operation : M α} (h : Respects Calmly operation) :
    Respects Calmly (Queue.queueTransaction operation) := .mapError h

@[simp] theorem calm_recoveryTransaction {α : Type} {operation : M α} (h : Respects Calmly operation) :
    Respects Calmly (Recovery.recoveryTransaction operation) := .mapError h

@[simp] theorem calm_renderTransaction {α : Type} {operation : M α} (h : Respects Calmly operation) :
    Respects Calmly (Render.renderTransaction operation) := .mapError h

/-! ### Claims -/

@[simp] theorem calm_claimNext (input : ClaimNextInput) :
    Respects Calmly (Queue.claimNext env input) := by
  unfold Queue.claimNext
  repeat' first
    | with_reducible refine .ite ?_ ?_
    | with_reducible refine .bind ?_ fun _ => ?_
    | with_reducible refine calm_queueTransaction ?_
    | with_reducible refine calm_idempotent ?_
    | with_reducible refine calm_updateJobs fun _ => ?_
    | split
    | dsimp only
  all_goals simp [entryOf]

@[simp] theorem calm_assertTerminalClaim (job : PageJob) (claimToken : Option String) :
    Respects Calmly (Queue.assertTerminalClaim env job claimToken) := by
  unfold Queue.assertTerminalClaim
  repeat' first
    | with_reducible refine .ite ?_ ?_
    | with_reducible refine .bind ?_ fun _ => ?_
  all_goals simp

@[simp] theorem calm_endProcessing (target : Queue.TerminalTarget) (job : PageJob)
    (reasonCode message : String) (timestamp : Timestamp) (operationId : String) :
    Respects Calmly (Queue.endProcessing target job reasonCode message timestamp operationId) := by
  unfold Queue.endProcessing
  repeat' first
    | with_reducible refine .ite ?_ ?_
    | with_reducible refine .bind ?_ fun _ => ?_
  all_goals simp

@[simp] theorem calm_complete (input : CompleteInput) :
    Respects Calmly (Queue.complete env input) := by
  unfold Queue.complete
  repeat' first
    | with_reducible refine .ite ?_ ?_
    | with_reducible refine .bind ?_ fun _ => ?_
    | with_reducible refine calm_queueTransaction ?_
    | with_reducible refine calm_idempotent ?_
    | with_reducible refine calm_updateJobs fun _ => ?_
    | split
    | dsimp only
  all_goals simp [entryOf]

@[simp] theorem calm_fail (input : FailInput) :
    Respects Calmly (Queue.fail env input) := by
  unfold Queue.fail
  repeat' first
    | with_reducible refine .ite ?_ ?_
    | with_reducible refine .bind ?_ fun _ => ?_
    | with_reducible refine calm_queueTransaction ?_
    | with_reducible refine calm_idempotent ?_
    | with_reducible refine calm_updateJobs fun _ => ?_
    | split
    | dsimp only
  all_goals simp [entryOf]

@[simp] theorem calm_terminalAction (target : Queue.TerminalTarget) (input : TerminalActionInput) :
    Respects Calmly (Queue.terminalAction env target input) := by
  unfold Queue.terminalAction
  repeat' first
    | with_reducible refine .ite ?_ ?_
    | with_reducible refine .bind ?_ fun _ => ?_
    | with_reducible refine calm_queueTransaction ?_
    | with_reducible refine calm_idempotent ?_
    | with_reducible refine calm_updateJobs fun _ => ?_
    | split
    | dsimp only
  all_goals simp [entryOf]

@[simp] theorem calm_scheduleRetry (input : ScheduleRetryInput) :
    Respects Calmly (Queue.scheduleRetry env input) := by
  unfold Queue.scheduleRetry
  repeat' first
    | with_reducible refine .ite ?_ ?_
    | with_reducible refine .bind ?_ fun _ => ?_
    | with_reducible refine calm_queueTransaction ?_
    | with_reducible refine calm_idempotent ?_
    | with_reducible refine calm_updateJobs fun _ => ?_
    | split
    | dsimp only
  all_goals simp [entryOf]

@[simp] theorem calm_releaseRetry (input : ReleaseDueRetriesInput) (jobs : List PageJob) (row : PageJobRow) :
    Respects Calmly (Queue.releaseRetry input jobs row) := by
  unfold Queue.releaseRetry
  repeat' first
    | with_reducible refine .ite ?_ ?_
    | with_reducible refine .bind ?_ fun _ => ?_
    | with_reducible refine calm_updateJobs fun _ => ?_
    | split
    | dsimp only
  all_goals simp [entryOf]

@[simp] theorem calm_releaseDueRetries (input : ReleaseDueRetriesInput) :
    Respects Calmly (Queue.releaseDueRetries env input) := by
  unfold Queue.releaseDueRetries
  repeat' first
    | with_reducible refine .ite ?_ ?_
    | with_reducible refine .bind ?_ fun _ => ?_
    | with_reducible refine calm_queueTransaction ?_
    | with_reducible refine calm_idempotent ?_
    | with_reducible refine .foldlM (fun _ _ => ?_) _
    | split
    | dsimp only
  all_goals simp

@[simp] theorem calm_clearJob (input : ClearPendingInput) (timestamp : Timestamp) (row : PageJobRow) :
    Respects Calmly (Queue.clearJob input timestamp row) := by
  unfold Queue.clearJob
  repeat' first
    | with_reducible refine .ite ?_ ?_
    | with_reducible refine .bind ?_ fun _ => ?_
    | with_reducible refine calm_updateJobs fun _ => ?_
    | split
    | dsimp only
  all_goals simp [entryOf]

@[simp] theorem calm_clearPending (input : ClearPendingInput) :
    Respects Calmly (Queue.clearPending env input) := by
  unfold Queue.clearPending
  repeat' first
    | with_reducible refine .ite ?_ ?_
    | with_reducible refine .bind ?_ fun _ => ?_
    | with_reducible refine calm_queueTransaction ?_
    | with_reducible refine calm_idempotent ?_
    | with_reducible refine .forM fun _ => ?_
    | split
    | dsimp only
  all_goals simp

@[simp] theorem calm_replayLease (projectId runId jobId message : String) :
    Respects Calmly (Recovery.replayLease env projectId runId jobId message) := by
  unfold Recovery.replayLease
  repeat' first
    | with_reducible refine .ite ?_ ?_
    | with_reducible refine .bind ?_ fun _ => ?_
    | split
    | dsimp only
  all_goals simp

@[simp] theorem calm_recordClaim (input : ClaimNextWithLeaseInput) (operationType : OperationType)
    (requestHash : String) (jobId : Option String) (createdAt : Timestamp) :
    Respects Calmly (Recovery.recordClaim input operationType requestHash jobId createdAt) := by
  unfold Recovery.recordClaim
  repeat' first
    | with_reducible refine .ite ?_ ?_
    | with_reducible refine .bind ?_ fun _ => ?_
  all_goals simp

@[simp] theorem calm_grantLease (kind : Recovery.ClaimKind) (input : ClaimNextWithLeaseInput) (requestHash : String)
    (timestamp : Timestamp) (job : PageJob) :
    Respects Calmly (Recovery.grantLease env kind input requestHash timestamp job) := by
  unfold Recovery.grantLease
  repeat' first
    | with_reducible refine .ite ?_ ?_
    | with_reducible refine .bind ?_ fun _ => ?_
    | with_reducible refine calm_updateJobs fun _ => ?_
    | split
    | dsimp only
  all_goals simp [entryOf]

@[simp] theorem calm_assertRunActive (projectId runId : String) :
    Respects Calmly (Recovery.assertRunActive projectId runId) := by
  unfold Recovery.assertRunActive
  repeat' first
    | with_reducible refine .ite ?_ ?_
    | with_reducible refine .bind ?_ fun _ => ?_
  all_goals simp

@[simp] theorem calm_claimNextWithLease (input : ClaimNextWithLeaseInput) :
    Respects Calmly (Recovery.claimNextWithLease env input) := by
  unfold Recovery.claimNextWithLease
  repeat' first
    | with_reducible refine .ite ?_ ?_
    | with_reducible refine .bind ?_ fun _ => ?_
    | with_reducible refine calm_recoveryTransaction ?_
    | split
    | dsimp only
  all_goals simp

@[simp] theorem calm_claimJobWithLease (input : ClaimJobWithLeaseInput) :
    Respects Calmly (Recovery.claimJobWithLease env input) := by
  unfold Recovery.claimJobWithLease
  repeat' first
    | with_reducible refine .ite ?_ ?_
    | with_reducible refine .bind ?_ fun _ => ?_
    | with_reducible refine calm_recoveryTransaction ?_
    | split
    | dsimp only
  all_goals simp

@[simp] theorem calm_heartbeatLease (input : LeaseHolder) :
    Respects Calmly (Recovery.heartbeatLease env input) := by
  unfold Recovery.heartbeatLease
  repeat' first
    | with_reducible refine .ite ?_ ?_
    | with_reducible refine .bind ?_ fun _ => ?_
    | with_reducible refine calm_recoveryTransaction ?_
  all_goals simp

@[simp] theorem calm_renewLease (input : RenewLeaseInput) :
    Respects Calmly (Recovery.renewLease env input) := by
  unfold Recovery.renewLease
  repeat' first
    | with_reducible refine .ite ?_ ?_
    | with_reducible refine .bind ?_ fun _ => ?_
    | with_reducible refine calm_recoveryTransaction ?_
  all_goals simp

@[simp] theorem calm_releaseLease (input : ReleaseLeaseInput) :
    Respects Calmly (Recovery.releaseLease env input) := by
  unfold Recovery.releaseLease
  repeat' first
    | with_reducible refine .ite ?_ ?_
    | with_reducible refine .bind ?_ fun _ => ?_
    | with_reducible refine calm_recoveryTransaction ?_
  all_goals simp

@[simp] theorem calm_saveJobCheckpoint (input : SaveJobCheckpointInput) :
    Respects Calmly (Recovery.saveJobCheckpoint env input) := by
  unfold Recovery.saveJobCheckpoint
  repeat' first
    | with_reducible refine .ite ?_ ?_
    | with_reducible refine .bind ?_ fun _ => ?_
    | with_reducible refine calm_recoveryTransaction ?_
    | split
    | dsimp only
  all_goals simp

@[simp] theorem calm_recoverLease (input : RecoverInput) (timestamp : Timestamp) (jobId : String) :
    Respects Calmly (Recovery.recoverLease input timestamp jobId) := by
  unfold Recovery.recoverLease
  repeat' first
    | with_reducible refine .ite ?_ ?_
    | with_reducible refine .bind ?_ fun _ => ?_
    | split
    | dsimp only
  all_goals simp

@[simp] theorem calm_requeueOrFail (input : RecoverInput) (timestamp : Timestamp)
    (initial : RecoveryInspectionItem) (job : PageJob) (tally : Recovery.RecoveryTally) :
    Respects Calmly (Recovery.requeueOrFail input timestamp initial job tally) := by
  unfold Recovery.requeueOrFail
  repeat' first
    | with_reducible refine .ite ?_ ?_
    | with_reducible refine .bind ?_ fun _ => ?_
    | with_reducible refine calm_updateJobs fun _ => ?_
    | split
    | dsimp only
  all_goals simp [entryOf]

@[simp] theorem calm_recoverJob (input : RecoverInput) (priorControl : RunControlState) (timestamp : Timestamp)
    (tally : Recovery.RecoveryTally) (candidate : PageJobRow × Option JobLeaseRow) :
    Respects Calmly (Recovery.recoverJob input priorControl timestamp tally candidate) := by
  unfold Recovery.recoverJob
  repeat' first
    | with_reducible refine .ite ?_ ?_
    | with_reducible refine .bind ?_ fun _ => ?_
    | with_reducible refine calm_updateJobs fun _ => ?_
    | split
    | dsimp only
  all_goals simp [entryOf]

@[simp] theorem calm_openRecovery (input : RecoverInput) (requestHash : String) (timestamp : Timestamp)
    (existing : Option RecoveryOperationRow) :
    Respects Calmly (Recovery.openRecovery input requestHash timestamp existing) := by
  unfold Recovery.openRecovery
  repeat' first
    | with_reducible refine .ite ?_ ?_
    | with_reducible refine .bind ?_ fun _ => ?_
    | split
    | dsimp only
  all_goals simp

@[simp] theorem calm_closeRecovery (operation : RecoveryOperationRow)
    (selected : List (PageJobRow × Option JobLeaseRow)) (hasMore : Bool) (tally : Recovery.RecoveryTally)
    (timestamp : Timestamp) :
    Respects Calmly (Recovery.closeRecovery operation selected hasMore tally timestamp) := by
  unfold Recovery.closeRecovery
  simp

@[simp] theorem calm_recoverBatch (input : RecoverInput) (requestHash : String)
    (existing : Option RecoveryOperationRow) :
    Respects Calmly (Recovery.recoverBatch input requestHash existing) := by
  unfold Recovery.recoverBatch
  repeat' first
    | with_reducible refine .ite ?_ ?_
    | with_reducible refine .bind ?_ fun _ => ?_
    | with_reducible refine .foldlM (fun _ _ => ?_) _
    | split
    | dsimp only
  all_goals simp

@[simp] theorem calm_recover (input : RecoverInput) :
    Respects Calmly (Recovery.recover env input) := by
  unfold Recovery.recover
  repeat' first
    | with_reducible refine .ite ?_ ?_
    | with_reducible refine .bind ?_ fun _ => ?_
    | with_reducible refine calm_recoveryTransaction ?_
    | split
    | dsimp only
  all_goals simp

@[simp] theorem calm_requestPause (input : RequestPauseInput) :
    Respects Calmly (Recovery.requestPause input) := by
  unfold Recovery.requestPause
  repeat' first
    | with_reducible refine .ite ?_ ?_
    | with_reducible refine .bind ?_ fun _ => ?_
    | with_reducible refine calm_recoveryTransaction ?_
    | split
    | dsimp only
  all_goals simp

@[simp] theorem calm_completePause (input : AcknowledgePauseInput) (timestamp : Timestamp) :
    Respects Calmly (Recovery.completePause input timestamp) := by
  unfold Recovery.completePause
  repeat' first
    | with_reducible refine .ite ?_ ?_
    | with_reducible refine .bind ?_ fun _ => ?_
    | split
    | dsimp only
  all_goals simp

@[simp] theorem calm_acknowledgePause (input : AcknowledgePauseInput) :
    Respects Calmly (Recovery.acknowledgePause env input) := by
  unfold Recovery.acknowledgePause
  repeat' first
    | with_reducible refine .ite ?_ ?_
    | with_reducible refine .bind ?_ fun _ => ?_
    | with_reducible refine calm_recoveryTransaction ?_
    | with_reducible refine calm_updateJobs fun _ => ?_
    | split
    | dsimp only
  all_goals simp [entryOf]

@[simp] theorem calm_resumeJob (input : ResumeRunInput) (timestamp : Timestamp) (row : PageJobRow) :
    Respects Calmly (Recovery.resumeJob input timestamp row) := by
  unfold Recovery.resumeJob
  repeat' first
    | with_reducible refine .ite ?_ ?_
    | with_reducible refine .bind ?_ fun _ => ?_
    | with_reducible refine calm_updateJobs fun _ => ?_
    | split
    | dsimp only
  all_goals simp [entryOf]

@[simp] theorem calm_resumeRun (input : ResumeRunInput) :
    Respects Calmly (Recovery.resumeRun input) := by
  unfold Recovery.resumeRun
  repeat' first
    | with_reducible refine .ite ?_ ?_
    | with_reducible refine .bind ?_ fun _ => ?_
    | with_reducible refine calm_recoveryTransaction ?_
    | with_reducible refine .forM fun _ => ?_
    | split
    | dsimp only
  all_goals simp

@[simp] theorem calm_setRunState (input : SetRunStateInput) :
    Respects Calmly (Recovery.setRunState input) := by
  unfold Recovery.setRunState
  repeat' first
    | with_reducible refine .ite ?_ ?_
    | with_reducible refine .bind ?_ fun _ => ?_
    | with_reducible refine calm_recoveryTransaction ?_
  all_goals simp

@[simp] theorem calm_assertOwnership (input : LeaseHolder) :
    Respects Calmly (Render.assertOwnership env input) := by
  unfold Render.assertOwnership
  repeat' first
    | with_reducible refine .ite ?_ ?_
    | with_reducible refine .bind ?_ fun _ => ?_
  all_goals simp

@[simp] theorem calm_insertEvent (safeMetadata : Json) :
    Respects Calmly (Render.insertEvent safeMetadata) := by
  unfold Render.insertEvent
  repeat' first
    | with_reducible refine .ite ?_ ?_
    | with_reducible refine .bind ?_ fun _ => ?_
  all_goals simp

@[simp] theorem calm_insertArtifact (jobId : String) (artifact : RenderArtifactDescriptor) :
    Respects Calmly (Render.insertArtifact jobId artifact) := by
  unfold Render.insertArtifact
  repeat' first
    | with_reducible refine .ite ?_ ?_
    | with_reducible refine .bind ?_ fun _ => ?_
  all_goals simp

@[simp] theorem calm_insertScreenshot (jobId : String) (artifact : Option RenderArtifactDescriptor) :
    Respects Calmly (Render.insertScreenshot jobId artifact) := by
  unfold Render.insertScreenshot
  repeat' first
    | with_reducible refine .ite ?_ ?_
    | with_reducible refine .bind ?_ fun _ => ?_
    | split
    | dsimp only
  all_goals simp

@[simp] theorem calm_commitOwned (input : CommitRenderResultInput) :
    Respects Calmly (Render.commitOwned env input) := by
  unfold Render.commitOwned
  repeat' first
    | with_reducible refine .ite ?_ ?_
    | with_reducible refine .bind ?_ fun _ => ?_
    | with_reducible refine calm_updateJobs fun _ => ?_
    | split
    | dsimp only
  all_goals simp [entryOf]

@[simp] theorem calm_commitTransaction (input : CommitRenderResultInput) :
    Respects Calmly (Render.commitTransaction env input) := by
  unfold Render.commitTransaction
  repeat' first
    | with_reducible refine .ite ?_ ?_
    | with_reducible refine .bind ?_ fun _ => ?_
    | with_reducible refine calm_renderTransaction ?_
    | split
    | dsimp only
  all_goals simp

@[simp] theorem calm_recordRenderFailure (input : RecordRenderFailureInput) :
    Respects Calmly (Render.recordRenderFailure env input) := by
  unfold Render.recordRenderFailure
  repeat' first
    | with_reducible refine .ite ?_ ?_
    | with_reducible refine .bind ?_ fun _ => ?_
    | with_reducible refine calm_renderTransaction ?_
    | with_reducible refine calm_updateJobs fun _ => ?_
    | split
    | dsimp only
  all_goals simp [entryOf]

/-- The input of an enqueue. -/
def Op.enqueue? : Op → Option QueueEnqueueInput
  | .enqueue input => some input
  | _ => none

/-- **Only an enqueue lets a job in.** -/
theorem run_calm {op : Op} (h : op.enqueue? = none) : Respects Calmly (op.run env) := by
  cases op with
  | enqueue input => cases h
  | skip input => exact .map (calm_terminalAction .skipped input)
  | block input => exact .map (calm_terminalAction .blocked input)
  | _ => exact .map (by simp)

theorem step_calm {db : Db} {e : Event} (h : e.op.enqueue? = none) : Calm db (step env db e) := by
  unfold step
  cases hx : exec env db e with
  | error t => exact Calm.refl db
  | ok p => exact exec_of_wp (Q := fun _ db' => Calm db db') (run_calm h (e.start db)) hx

end OfflineWebArchiver
