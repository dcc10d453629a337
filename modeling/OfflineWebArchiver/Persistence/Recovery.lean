import OfflineWebArchiver.Persistence.Queue

/-!
# Leases, recovery and run control

`createSqliteRecoveryRepository`: leased claims with a fencing generation, the
calls of a lease holder, recovery of jobs whose owner ended, and the pausing and
resuming of a run.

* `grantLease`: the new claim that `claimNextWithLease` and `claimJobWithLease` make.
* `assertLease`: what every call of a lease holder is checked against.
* `recoverJob`: one job of a recovery batch.
-/

namespace OfflineWebArchiver

open Relational Program

/-- `PauseStatus`. -/
structure PauseStatus where
  projectId : String
  runId : String
  controlState : RunControlState
  runState : CrawlRunState
  requestedAt : Option Timestamp
  pausedAt : Option Timestamp
  activeLeaseCount : ℕ

namespace Recovery

variable (env : Env)

def recoveryTransaction {α : Type} : M α → M α :=
  transaction (fun | .queue .. => true | .recovery .. => true | _ => false)
    fun _ => .recovery .recoveryTransactionFailed "The recovery transaction failed safely" true

/-- `validateOwnership(projectId, runId)`. -/
def validateOwnership (projectId runId : String) : M Unit := do
  let db ← database
  require (projectId == db.project.projectId && db.project.runs.contains runId)
    (recoveryError .recoveryInputInvalid "The Project and Run ownership boundary is invalid")

/-- `assertLease(input)`. -/
def assertLease (input : LeaseHolder) : M JobLeaseRow := do
  let evaluationTime ← now
  validateOwnership input.projectId input.runId
  let db ← database
  let lease ← orThrow (activeLease db input.projectId input.runId input.jobId)
    (recoveryError .leaseNotFound "No active Lease owns the Page Job")
  require (env.hashText input.leaseToken == lease.leaseTokenHash)
    (recoveryError .leaseTokenInvalid "The Lease Token is invalid")
  require (input.ownerId == lease.ownerId)
    (recoveryError .leaseOwnerMismatch "The Lease owner does not match")
  require (input.fencingGeneration == lease.fencingGeneration)
    (recoveryError .fencingGenerationStale "The Fencing Generation is stale")
  let row ← getJobRow input.projectId input.runId input.jobId
  let job := rowToJob row
  require (job.fencingGeneration == input.fencingGeneration)
    (recoveryError .fencingGenerationStale "The Page Job has advanced to a newer owner")
  let expired ← check (isLeaseExpired lease.status lease.expiresAt evaluationTime)
  require (!expired) (recoveryError .leaseExpired "The Lease has expired")
  return lease

/-- The recovery column of a state. -/
def recoveryColumn : PageJobState → Option RecoveryState
  | .interrupted => some .interrupted
  | .paused => some .paused
  | _ => none

/-- `physicalFrom`, `physicalTo`: a job that is set aside is stored as processing. -/
def physicalState : PageJobState → PageJobState
  | .interrupted | .paused => .processing
  | state => state

/-- `transition({ jobId, from, to, reasonCode, … })`. The second id is that of the
`recovery_events` row, which nothing here reads. -/
def transition (jobId : String) (source target : PageJobState)
    (reasonCode operationId correlationId : String) (occurredAt : Timestamp) : M Unit := do
  let transitionId ← freshId
  insertTransition { transitionId, jobId, fromState := some (physicalState source),
                     toState := physicalState target, reasonCode, operationId, correlationId,
                     occurredAt, safeMetadata := .obj [], recoveryFromState := recoveryColumn source,
                     recoveryToState := recoveryColumn target }
  let _ ← freshId

/-- `runState(projectId, runId)`. -/
def runState (projectId runId : String) : M RunControlRow := do
  let db ← database
  orThrow (if projectId = db.project.projectId then db.runControl.find (·.runId == runId) else none)
    (recoveryError .recoveryInputInvalid "Run control state is missing")

/-- `pauseStatus(projectId, runId)`. -/
def pauseStatus (projectId runId : String) : M PauseStatus := do
  let row ← runState projectId runId
  let db ← database
  return { projectId, runId, controlState := row.controlState, runState := row.runState
           requestedAt := row.requestedAt, pausedAt := row.pausedAt
           activeLeaseCount := activeLeaseCount db runId }

/-- `saveRunCheckpoint(projectId, runId, …)`. Nothing here reads the rows of
`run_checkpoints`. -/
def saveRunCheckpoint (projectId runId : String) : M Unit := do
  let _ ← freshId
  let _ ← runState projectId runId

/-! ### Leased claims -/

/-- The lease that a repeated claim request returns. -/
def replayLease (projectId runId jobId message : String) : M LeaseClaim := do
  let db ← database
  let row ← getJobRow projectId runId jobId
  match activeLease db projectId runId jobId, row.claimToken with
  | some lease, some storedClaimToken =>
    require (env.hashText storedClaimToken == lease.leaseTokenHash) (recoveryError .leaseNotFound message)
    return { job := rowToJob row, lease := rowToLease lease, leaseToken := storedClaimToken }
  | _, _ => throw (recoveryError .leaseNotFound message)

/-- The ledger row of a claim. -/
def recordClaim (input : ClaimNextWithLeaseInput) (operationType : OperationType)
    (requestHash : String) (jobId : Option String) (createdAt : Timestamp) : M Unit := do
  let operationRecordId ← freshId
  insertOperation { operationRecordId, runId := input.runId, operationType
                    idempotencyKey := input.idempotencyKey, requestHash, result := .claimed jobId
                    createdAt }

/-- What tells the two leased claims apart in what they write. -/
structure ClaimKind where
  operationType : OperationType
  conflictMessage : String
  reasonCode : String
  metadata : List (String × Json)

/-- Lease a pending job: the part that `claimNextWithLease` and `claimJobWithLease` share. -/
def grantLease (kind : ClaimKind) (input : ClaimNextWithLeaseInput) (requestHash : String)
    (timestamp : Timestamp) (job : PageJob) : M LeaseClaim := do
  require (job.attemptCount < job.maxAttempts)
    (queueError .maxAttemptsReached "The selected Job has exhausted its attempts")
  let leaseToken ← freshId
  let leaseId ← freshId
  let generation := job.fencingGeneration + 1
  let attemptNumber := job.attemptCount + 1
  let expiresAt ← check (calculateLeaseExpiry timestamp input.leaseDurationMs)
  let changes ← updateJobs (fun a => a.jobId == job.jobId && a.state == .pending &&
      a.recoveryState == none && a.fencingGeneration == job.fencingGeneration) fun a =>
    { a with state := .processing, recoveryState := none, claimToken := some leaseToken
             claimedBy := some input.ownerId, claimedAt := some timestamp
             lastAttemptAt := some timestamp, attemptCount := attemptNumber
             fencingGeneration := generation, updatedAt := timestamp }
  require (changes == 1) (queueError .claimConflict kind.conflictMessage)
  let attemptId ← freshId
  insertAttempt
    { attemptId, jobId := job.jobId, attemptNumber, claimToken := leaseToken, startedAt := timestamp
      finishedAt := none, outcome := .processing, recoveryOutcome := none, errorCode := none
      errorCategory := none, safeErrorMessage := none
      metadata := .obj ([("fencingGeneration", .num generation), ("leaseId", .str leaseId)] ++
        kind.metadata) }
  insertLease
    { leaseId, jobId := job.jobId, runId := input.runId, ownerId := input.ownerId
      leaseTokenHash := env.hashText leaseToken, fencingGeneration := generation, status := .active
      acquiredAt := timestamp, heartbeatAt := timestamp, expiresAt, releasedAt := none
      releaseReason := none, lastOperationId := input.operationId }
  let transitionId ← freshId
  insertTransition
    { transitionId, jobId := job.jobId, fromState := some .pending, toState := .processing
      reasonCode := kind.reasonCode, operationId := input.operationId
      correlationId := input.correlationId, occurredAt := timestamp
      safeMetadata := .obj [("attemptNumber", .num attemptNumber),
        ("fencingGeneration", .num generation), ("leaseId", .str leaseId)] }
  recordClaim input kind.operationType requestHash (some job.jobId) timestamp
  let db ← database
  let lease ← orThrow (activeLease db input.projectId input.runId job.jobId)
    (.error "Cannot read properties of undefined")
  let row ← getJobRow input.projectId input.runId job.jobId
  return { job := rowToJob row, lease := rowToLease lease, leaseToken }

/-- A leased claim is refused unless the run is active. -/
def assertRunActive (projectId runId : String) : M Unit := do
  let control ← runState projectId runId
  require (control.controlState == .active)
    (recoveryError .runNotActive "New claims are blocked while the Run is not active")

/-- The request of `claimNextWithLease` without its operation and correlation ids. -/
def claimNextRequest (input : ClaimNextWithLeaseInput) : Json :=
  .obj [("projectId", .str input.projectId), ("runId", .str input.runId),
    ("ownerId", .str input.ownerId), ("leaseDurationMs", .num input.leaseDurationMs),
    ("idempotencyKey", .str input.idempotencyKey)]

/-- The request of `claimJobWithLease` without its operation and correlation ids. -/
def claimJobRequest (input : ClaimJobWithLeaseInput) : Json :=
  .obj [("projectId", .str input.projectId), ("runId", .str input.runId),
    ("jobId", .str input.jobId), ("ownerId", .str input.ownerId),
    ("leaseDurationMs", .num input.leaseDurationMs), ("idempotencyKey", .str input.idempotencyKey)]

/-- `claimNextWithLease(input)`. -/
def claimNextWithLease (input : ClaimNextWithLeaseInput) : M (Option LeaseClaim) := do
  let _ ← check (validateLeaseDuration input.leaseDurationMs)
  recoveryTransaction do
    validateOwnership input.projectId input.runId
    assertRunActive input.projectId input.runId
    let requestHash := env.hash (claimNextRequest input)
    let db ← database
    match db.queueOperations.find fun o => o.operationType == .claimNextWithLease &&
        o.idempotencyKey == input.idempotencyKey with
    | some existing =>
      require (existing.requestHash == requestHash) (queueError .operationIdempotencyConflict
        "The idempotency key was already used for another Lease claim")
      match existing.result with
      | .claimed none => return none
      | .claimed (some jobId) =>
        let claim ← replayLease env input.projectId input.runId jobId
          "The replayed Lease is no longer active"
        return some claim
      | _ => throw (.error "Unexpected stored result")
    | none =>
      let timestamp ← now
      match (db.pageJobs.select (fun a => a.runId == input.runId && a.state == .pending &&
          a.recoveryState == none && a.nextEligibleAt ≤ timestamp) Queue.claimOrder).head? with
      | none =>
        recordClaim input .claimNextWithLease requestHash none timestamp
        return none
      | some row =>
        let claim ← grantLease env
          { operationType := .claimNextWithLease
            conflictMessage := "Another owner claimed the Page Job"
            reasonCode := "LEASE_CLAIMED", metadata := [] }
          input requestHash timestamp (rowToJob row)
        return some claim

/-- `claimJobWithLease(input)`. -/
def claimJobWithLease (input : ClaimJobWithLeaseInput) : M LeaseClaim := do
  let _ ← check (validateLeaseDuration input.leaseDurationMs)
  recoveryTransaction do
    validateOwnership input.projectId input.runId
    assertRunActive input.projectId input.runId
    let requestHash := env.hash (claimJobRequest input)
    let db ← database
    match db.queueOperations.find fun o => o.operationType == .claimJobWithLease &&
        o.idempotencyKey == input.idempotencyKey with
    | some existing =>
      require (existing.requestHash == requestHash) (queueError .operationIdempotencyConflict
        "The idempotency key was already used for another Job Lease claim")
      match existing.result with
      | .claimed jobId =>
        require (jobId == some input.jobId) (queueError .operationIdempotencyConflict
          "The idempotent Job Lease claim references another Job")
        replayLease env input.projectId input.runId input.jobId
          "The replayed Job Lease is no longer active"
      | _ => throw (.error "Unexpected stored result")
    | none =>
      let timestamp ← now
      let row ← getJobRow input.projectId input.runId input.jobId
      require (row.state == .pending && row.recoveryState == none && row.nextEligibleAt ≤ timestamp)
        (queueError .jobStateConflict
          "The selected Page Job is not pending and eligible for Render claim")
      grantLease env
        { operationType := .claimJobWithLease
          conflictMessage := "Another owner claimed the selected Page Job"
          reasonCode := "RENDER_LEASE_CLAIMED", metadata := [("purpose", .str "render")] }
        input.toClaimNextWithLeaseInput requestHash timestamp (rowToJob row)

/-! ### Calls of a lease holder -/

/-- `SELECT * FROM job_leases WHERE lease_id = ?`. -/
def readLease (leaseId : String) : M JobLease := do
  let db ← database
  let lease ← orThrow (db.jobLeases.find (·.leaseId == leaseId))
    (.error "Cannot read properties of undefined")
  return rowToLease lease

/-- `heartbeatLease(input)`. -/
def heartbeatLease (input : LeaseHolder) : M JobLease :=
  recoveryTransaction do
    let lease ← assertLease env input
    let timestamp ← now
    updateLeases (fun l => l.leaseId == lease.leaseId && l.status == .active) fun l =>
      { l with heartbeatAt := timestamp, lastOperationId := input.operationId }
    readLease lease.leaseId

/-- `renewLease(input)`. -/
def renewLease (input : RenewLeaseInput) : M JobLease := do
  let _ ← check (validateLeaseDuration input.extensionMs)
  recoveryTransaction do
    let lease ← assertLease env input.toLeaseHolder
    let timestamp ← now
    let expiresAt ← check (nextLeaseExpiry lease.status lease.expiresAt timestamp input.extensionMs)
    updateLeases (fun l => l.leaseId == lease.leaseId && l.status == .active) fun l =>
      { l with heartbeatAt := timestamp, expiresAt := expiresAt, lastOperationId := input.operationId }
    readLease lease.leaseId

/-- Close a lease by its id. -/
def closeLease (leaseId : String) (status : JobLeaseStatus) (releasedAt : Timestamp)
    (releaseReason operationId : String) : M Unit :=
  updateLeases (fun l => l.leaseId == leaseId && l.status == .active) fun l =>
    { l with status := status, releasedAt := some releasedAt, releaseReason := some releaseReason
             lastOperationId := operationId }

/-- `releaseLease(input)`. -/
def releaseLease (input : ReleaseLeaseInput) : M JobLease :=
  recoveryTransaction do
    let lease ← assertLease env input.toLeaseHolder
    let timestamp ← now
    closeLease lease.leaseId .released timestamp input.reasonCode input.operationId
    readLease lease.leaseId

/-- `validatePortableRelativePath(value)`. -/
def validatePortableRelativePath (value : String) : Checked String :=
  match env.validateCanonicalRelativePath value with
  | .ok normalized =>
    if utf16Length value.toList ≤ 2048 then .ok normalized
    else .error (recoveryError .artifactCheckpointInvalid
      "Artifact paths must be bounded portable relative paths")
  | .error message => .error (recoveryError .artifactCheckpointInvalid
      (if message = "" then "Artifact paths must be bounded portable relative paths" else message))

/-- `if (relativePath !== null) validatePortableRelativePath(relativePath)`. -/
def validateOptionalPath (relativePath : Option String) : Checked Unit :=
  match relativePath with
  | none => .ok ()
  | some path => do
    let _ ← validatePortableRelativePath env path

/-- The latest committed checkpoint of a job. -/
def latestCheckpoint (db : Db) (jobId : String) : Option JobCheckpointRow :=
  (db.jobCheckpoints.rows.filter fun c => c.jobId == jobId && c.committed).getLast?

/-- `saveJobCheckpoint(input)`. -/
def saveJobCheckpoint (input : SaveJobCheckpointInput) : M JobCheckpointRow :=
  recoveryTransaction do
    let _ ← assertLease env input.toLeaseHolder
    let timestamp ← now
    let row ← getJobRow input.projectId input.runId input.jobId
    let job := rowToJob row
    let payloadJson ← check (validateCheckpointPayload input.payload)
    let progress ← check (validateCheckpointProgress input.progress)
    let relativePath := input.relativePath.orNull
    check (validateOptionalPath env relativePath)
    let db ← database
    let checkpointId ← freshId
    let checkpoint : JobCheckpointRow :=
      { checkpointId, jobId := input.jobId, attemptNumber := job.attemptCount, checkpointVersion := 1
        fencingGeneration := input.fencingGeneration, ownerId := input.ownerId, phase := input.phase
        progress, relativePath, payloadJson, committed := true
        supersedesCheckpointId := (latestCheckpoint db input.jobId).map (·.checkpointId)
        operationId := input.operationId, createdAt := timestamp }
    insertCheckpoint checkpoint
    return checkpoint

/-! ### Recovery -/

/-- The active lease that `candidateRows` joins to a job. -/
def joinedLease (db : Db) (jobId : String) : Option JobLeaseRow :=
  db.jobLeases.find fun l => l.jobId == jobId && l.status == .active

/-- The rows that `candidateRows` selects. -/
def isCandidate (db : Db) (evaluationTime : Timestamp) (row : PageJobRow) : Bool :=
  (row.state == .processing && row.recoveryState == none &&
    (joinedLease db row.jobId).all fun l => l.expiresAt ≤ evaluationTime) ||
  (row.state == .completed &&
    0 < db.completedOutputs.count fun o => o.jobId == row.jobId && o.verificationStatus != .valid)

/-- `candidateRows(projectId, runId, evaluationTime, afterSequence, limit)`. -/
def candidateRows (db : Db) (runId : String) (evaluationTime : Timestamp) (afterSequence limit : ℕ) :
    List (PageJobRow × Option JobLeaseRow) :=
  ((db.pageJobs.select (fun a => a.runId == runId && afterSequence < a.queueSequence &&
    isCandidate db evaluationTime a) fun a b => a.queueSequence ≤ b.queueSequence).take (limit + 1)).map
      fun a => (a, joinedLease db a.jobId)

/-- `inspectionItem(row, evaluationTime)`. -/
def inspectionItem (row : PageJobRow) (lease : Option JobLeaseRow) (evaluationTime : Timestamp) :
    RecoveryInspectionItem :=
  let job := rowToJob row
  let outputIssue := job.state == .completed
  let expired := lease.any fun l => l.expiresAt ≤ evaluationTime
  { jobId := job.jobId, queueSequence := job.queueSequence, currentState := job.state
    reasonCode := if outputIssue then "COMPLETED_OUTPUT_REQUIRES_VERIFICATION"
      else if expired then "LEASE_EXPIRED" else "LEASE_MISSING"
    action := if outputIssue then .reportOutput else .requeue
    leaseId := lease.map (·.leaseId), fencingGeneration := job.fencingGeneration }

/-- What a recovery batch counts. -/
structure RecoveryTally where
  items : List RecoveryInspectionItem
  interrupted : ℕ
  requeued : ℕ
  paused : ℕ
  outputIssues : ℕ

/-- The run was pausing or paused when recovery began. -/
def pauseRequested (priorControl : RunControlState) : Bool :=
  priorControl == .pauseRequested || priorControl == .paused

/-- Close the active lease of a recovered job, if there is one. -/
def recoverLease (input : RecoverInput) (timestamp : Timestamp) (jobId : String) : M Unit := do
  let db ← database
  match activeLease db input.projectId input.runId jobId with
  | some lease =>
    closeLease lease.leaseId .recovered timestamp "LEASE_EXPIRED_RECOVERY" input.operationId
  | none => pure ()

/-- Put an interrupted job back into the queue, or fail it when no attempt is left. -/
def requeueOrFail (input : RecoverInput) (timestamp : Timestamp) (initial : RecoveryInspectionItem)
    (job : PageJob) (tally : RecoveryTally) : M RecoveryTally := do
  if job.attemptCount < job.maxAttempts then
    let _ ← updateJobs (fun a => a.jobId == job.jobId && a.state == .processing) fun a =>
      { a with state := .pending, recoveryState := none, claimToken := none, claimedBy := none
               claimedAt := none, updatedAt := timestamp }
    transition job.jobId .interrupted .pending "RECOVERY_REQUEUED" input.operationId
      input.correlationId timestamp
    return { tally with
      requeued := tally.requeued + 1
      items := tally.items ++ [{ initial with action := .requeue, reasonCode := "RECOVERY_REQUEUED" }] }
  else
    let _ ← updateJobs (fun a => a.jobId == job.jobId && a.state == .processing) fun a =>
      { a with state := .failed, recoveryState := none, claimToken := none, claimedBy := none
               claimedAt := none, failedAt := some timestamp
               lastErrorCode := some "RECOVERY_ATTEMPTS_EXHAUSTED"
               lastErrorCategory := some .platform
               lastErrorMessage := some "Recovery could not requeue an exhausted Job."
               updatedAt := timestamp }
    transition job.jobId .interrupted .failed "RECOVERY_ATTEMPTS_EXHAUSTED" input.operationId
      input.correlationId timestamp
    return { tally with
      items := tally.items ++
        [{ initial with action := .none, reasonCode := "RECOVERY_ATTEMPTS_EXHAUSTED" }] }

/-- One pass of the loop of `recover`. -/
def recoverJob (input : RecoverInput) (priorControl : RunControlState) (timestamp : Timestamp)
    (tally : RecoveryTally) (candidate : PageJobRow × Option JobLeaseRow) : M RecoveryTally := do
  let initial := inspectionItem candidate.1 candidate.2 input.evaluationTime
  let job := rowToJob candidate.1
  if job.state = .completed then
    return { tally with items := tally.items ++ [initial], outputIssues := tally.outputIssues + 1 }
  recoverLease input timestamp job.jobId
  let paused := pauseRequested priorControl
  let effectiveState : RecoveryState := if paused then .paused else .interrupted
  let reasonCode := if paused then "PAUSE_ACKNOWLEDGED_BY_RECOVERY" else "LEASE_EXPIRED"
  Queue.finishAttempt job.jobId job.claimToken fun t =>
    { t with finishedAt := some timestamp, outcome := .failed, recoveryOutcome := some effectiveState
             errorCode := some reasonCode, errorCategory := some .platform
             safeErrorMessage := some "The prior owner ended before committing a terminal result." }
  let _ ← updateJobs (fun a => a.jobId == job.jobId && a.state == .processing) fun a =>
    { a with recoveryState := some effectiveState, updatedAt := timestamp }
  transition job.jobId .processing effectiveState.toJobState reasonCode input.operationId
    input.correlationId timestamp
  if paused then
    return { tally with
      paused := tally.paused + 1
      items := tally.items ++
        [{ initial with action := .pause, reasonCode := "PAUSE_ACKNOWLEDGED_BY_RECOVERY" }] }
  requeueOrFail input timestamp initial job { tally with interrupted := tally.interrupted + 1 }

/-- The control state that recovery leaves. -/
def restoredControl (priorControl : RunControlState) (activeCount : ℕ) : RunControlState :=
  if pauseRequested priorControl ∧ activeCount = 0 then .paused
  else if priorControl = .pauseRequested then .pauseRequested
  else .active

/-- The request that `recover` hashes. -/
def recoverRequest (input : RecoverInput) : Json :=
  .obj [("projectId", .str input.projectId), ("runId", .str input.runId),
    ("evaluationTime", .str input.evaluationTime), ("limit", .num input.limit),
    ("confirmation", .str input.confirmation)]

/-- The row of a recovery operation that has just begun. -/
def newRecoveryOperation (input : RecoverInput) (requestHash recoveryOperationId : String)
    (timestamp : Timestamp) : RecoveryOperationRow where
  recoveryOperationId := recoveryOperationId
  runId := input.runId
  idempotencyKey := input.idempotencyKey
  requestHash := requestHash
  status := .inProgress
  dryRun := false
  evaluationTime := input.evaluationTime
  batchLimit := input.limit.toNat
  cursor := 0
  scanned := 0
  interrupted := 0
  requeued := 0
  paused := 0
  outputIssues := 0
  hasMore := false
  items := []
  ownerOperationId := input.operationId
  startedAt := timestamp
  completedAt := none

/-- The recovery operation that this call begins or continues. -/
def openRecovery (input : RecoverInput) (requestHash : String) (timestamp : Timestamp)
    (existing : Option RecoveryOperationRow) : M RecoveryOperationRow :=
  match existing with
  | none => do
    let recoveryOperationId ← freshId
    let operation := newRecoveryOperation input requestHash recoveryOperationId timestamp
    insertRecoveryOperation operation
    return operation
  | some operation => do
    updateRecoveryOperations (·.recoveryOperationId == operation.recoveryOperationId) fun o =>
      { o with status := .inProgress, ownerOperationId := input.operationId }
    return operation

/-- Save what the batch did. -/
def closeRecovery (operation : RecoveryOperationRow) (selected : List (PageJobRow × Option JobLeaseRow))
    (hasMore : Bool) (tally : RecoveryTally) (timestamp : Timestamp) : M Unit :=
  let combinedItems := operation.items ++ tally.items
  updateRecoveryOperations (·.recoveryOperationId == operation.recoveryOperationId) fun o =>
    { o with
      status := .completed
      cursor := (selected.getLast?.map fun c => c.1.queueSequence).getD operation.cursor
      scanned := operation.scanned + tally.items.length
      interrupted := operation.interrupted + tally.interrupted
      requeued := operation.requeued + tally.requeued
      paused := operation.paused + tally.paused
      outputIssues := operation.outputIssues + tally.outputIssues
      hasMore := hasMore
      items := combinedItems.drop (combinedItems.length - 500)
      completedAt := some timestamp }

/-- `UPDATE run_control SET control_state = …` of one run. -/
def setControl (runId : String) (controlState : RunControlState) (pausedAt : Option Timestamp)
    (timestamp : Timestamp) (operationId : String) : M Unit :=
  updateControl (·.runId == runId) fun c =>
    { c with controlState := controlState, pausedAt := pausedAt.or c.pausedAt, updatedAt := timestamp
             operationId := operationId }

/-- The batch of `recover`, when the call is not answered from an earlier one. -/
def recoverBatch (input : RecoverInput) (requestHash : String)
    (existing : Option RecoveryOperationRow) : M RecoveryOperationRow := do
  let timestamp ← now
  let operation ← openRecovery input requestHash timestamp existing
  let prior ← runState input.projectId input.runId
  let priorControl := prior.controlState
  require (priorControl != .recovering)
    (recoveryError .recoveryAlreadyRunning "Another Recovery Operation owns this Run")
  setControl input.runId .recovering none timestamp input.operationId
  let db ← database
  let limit := input.limit.toNat
  let rows := candidateRows db input.runId input.evaluationTime operation.cursor limit
  let selected := rows.take limit
  let tally ← selected.foldlM (recoverJob input priorControl timestamp)
    { items := [], interrupted := 0, requeued := 0, paused := 0, outputIssues := 0 }
  let db ← database
  let restored := restoredControl priorControl (activeLeaseCount db input.runId)
  setControl input.runId restored (if restored = .paused then some timestamp else none) timestamp
    input.operationId
  closeRecovery operation selected (limit < rows.length) tally timestamp
  saveRunCheckpoint input.projectId input.runId
  let db ← database
  orThrow (db.recoveryOperations.find fun o => o.runId == input.runId &&
      o.recoveryOperationId == operation.recoveryOperationId)
    (recoveryError .recoveryOperationNotFound "The Recovery Operation was not found")

/-- `recover(input)`. -/
def recover (input : RecoverInput) : M RecoveryOperationRow := do
  require (input.confirmation == "APPLY-RECOVERY") (recoveryError .recoveryConfirmationRequired
    "Applying recovery requires explicit confirmation")
  let _ ← check (parseUtcField input.evaluationTime "evaluationTime")
  check (validateRecoveryLimit input.limit)
  recoveryTransaction do
    validateOwnership input.projectId input.runId
    let requestHash := env.hash (recoverRequest input)
    let db ← database
    let existing := db.recoveryOperations.find fun o =>
      o.runId == input.runId && o.idempotencyKey == input.idempotencyKey
    require (existing.all (·.requestHash == requestHash)) (queueError .operationIdempotencyConflict
      "The Recovery idempotency key was used for another request")
    match existing.filter fun o => !o.hasMore && o.status == .completed with
    | some operation => return operation
    | none => recoverBatch input requestHash existing

/-! ### Pausing, resuming and run states -/

/-- `requestPause(input)`. -/
def requestPause (input : RequestPauseInput) : M PauseStatus :=
  recoveryTransaction do
    validateOwnership input.projectId input.runId
    let control ← runState input.projectId input.runId
    let current := control.controlState
    require (!(current == .completed || current == .failed || current == .stopped ||
        current == .recovering))
      (recoveryError .runPauseConflict "The current Run state cannot accept a pause request")
    if current = .paused ∨ current = .pauseRequested then
      pauseStatus input.projectId input.runId
    else
      let timestamp ← now
      let db ← database
      let active := activeLeaseCount db input.runId
      let target : RunControlState := if active = 0 then .paused else .pauseRequested
      let targetRunState : CrawlRunState := if active = 0 then .paused else .pausing
      check (assertCrawlRunTransition control.runState targetRunState)
      updateControl (·.runId == input.runId) fun c =>
        { c with controlState := target, runState := targetRunState, requestedAt := some timestamp
                 pausedAt := if active = 0 then some timestamp else none, updatedAt := timestamp
                 operationId := input.operationId }
      saveRunCheckpoint input.projectId input.runId
      pauseStatus input.projectId input.runId

/-- When no lease of the run is left, the pause is complete. -/
def completePause (input : AcknowledgePauseInput) (timestamp : Timestamp) : M Unit := do
  let db ← database
  if activeLeaseCount db input.runId = 0 then
    let control ← runState input.projectId input.runId
    check (assertCrawlRunTransition control.runState .paused)
    updateControl (·.runId == input.runId) fun c =>
      { c with controlState := .paused, runState := .paused, pausedAt := some timestamp
               updatedAt := timestamp, operationId := input.operationId }

/-- `acknowledgePause(input)`. -/
def acknowledgePause (input : AcknowledgePauseInput) : M PageJob :=
  recoveryTransaction do
    let control ← runState input.projectId input.runId
    require (control.controlState == .pauseRequested)
      (recoveryError .runPauseConflict "The Run has no pending pause request")
    let lease ← assertLease env input.toLeaseHolder
    let timestamp ← now
    let row ← getJobRow input.projectId input.runId input.jobId
    let job := rowToJob row
    let checkpointId ← freshId
    insertCheckpoint
      { checkpointId, jobId := job.jobId, attemptNumber := job.attemptCount, checkpointVersion := 1
        fencingGeneration := input.fencingGeneration, ownerId := input.ownerId, phase := "pause"
        progress := 1, relativePath := none
        payloadJson := Json.canonicalJson (.obj [("reason", .str "cooperative-pause")])
        committed := true, supersedesCheckpointId := none, operationId := input.operationId
        createdAt := timestamp }
    closeLease lease.leaseId .released timestamp "PAUSE_ACKNOWLEDGED" input.operationId
    Queue.finishAttempt job.jobId (some input.leaseToken) fun t =>
      { t with finishedAt := some timestamp, outcome := .failed, recoveryOutcome := some .paused
               errorCode := some "PAUSE_ACKNOWLEDGED", errorCategory := some .application
               safeErrorMessage := some
                 "The owner cooperatively paused after a committed checkpoint." }
    let _ ← updateJobs (fun a => a.jobId == job.jobId && a.state == .processing) fun a =>
      { a with recoveryState := some .paused, updatedAt := timestamp }
    transition job.jobId .processing .paused "PAUSE_ACKNOWLEDGED" input.operationId
      input.correlationId timestamp
    completePause input timestamp
    saveRunCheckpoint input.projectId input.runId
    let row ← getJobRow input.projectId input.runId input.jobId
    return rowToJob row

/-- One pass of the loop of `resumeRun`. -/
def resumeJob (input : ResumeRunInput) (timestamp : Timestamp) (row : PageJobRow) : M Unit := do
  let job := rowToJob row
  let _ ← updateJobs (fun a => a.jobId == job.jobId) fun a =>
    { a with state := .pending, recoveryState := none, claimToken := none, claimedBy := none
             claimedAt := none, updatedAt := timestamp }
  transition job.jobId job.state .pending "RUN_RESUMED" input.operationId input.correlationId timestamp

/-- `resumeRun(input)`. -/
def resumeRun (input : ResumeRunInput) : M PauseStatus :=
  recoveryTransaction do
    validateOwnership input.projectId input.runId
    let control ← runState input.projectId input.runId
    let current := control.controlState
    if current = .active then
      pauseStatus input.projectId input.runId
    else
      require (!(current == .recovering || current == .completed || current == .failed ||
          current == .stopped))
        (recoveryError .runPauseConflict "The current Run state cannot resume")
      let timestamp ← now
      setControl input.runId .resuming none timestamp input.operationId
      let db ← database
      let rows := db.pageJobs.select (fun a => a.runId == input.runId && a.state == .processing &&
        a.recoveryState.isSome) fun a b => a.queueSequence ≤ b.queueSequence
      rows.forM (resumeJob input timestamp)
      let control ← runState input.projectId input.runId
      check (assertCrawlRunTransition control.runState .running)
      updateControl (·.runId == input.runId) fun c =>
        { c with controlState := .active, runState := .running, requestedAt := none, pausedAt := none
                 updatedAt := timestamp, operationId := input.operationId }
      saveRunCheckpoint input.projectId input.runId
      pauseStatus input.projectId input.runId

/-- The control state that `setRunState` writes beside a run state. -/
def controlStateOf : CrawlRunState → RunControlState
  | .pausing => .pauseRequested
  | .paused => .paused
  | .cancelling | .cancelled => .stopped
  | .completed => .completed
  | .failed => .failed
  | .running | .waitingForNetwork | .waitingForAuth | .waitingForRateLimit => .active

/-- `setRunState(input)`. -/
def setRunState (input : SetRunStateInput) : M PauseStatus :=
  recoveryTransaction do
    validateOwnership input.projectId input.runId
    let control ← runState input.projectId input.runId
    check (assertCrawlRunTransition control.runState input.state)
    let timestamp ← now
    updateControl (·.runId == input.runId) fun c =>
      { c with runState := input.state, controlState := controlStateOf input.state
               requestedAt := if input.state = .pausing then c.requestedAt.or (some timestamp)
                 else c.requestedAt
               pausedAt := if input.state = .paused then some timestamp else c.pausedAt
               updatedAt := timestamp, operationId := input.operationId }
    saveRunCheckpoint input.projectId input.runId
    pauseStatus input.projectId input.runId

end Recovery

end OfflineWebArchiver

/-!
## Inspecting what recovery would find

Two checks look for jobs whose owner is gone without touching them: the summary that opening and
closing a project writes, and the dry run of a recovery batch.

* `inspectProjectRecovery`: the counters of the current run and the status that they give.
* `inspectRecovery`: one page of what `recover` would do.
-/

namespace OfflineWebArchiver

open Relational Program

/-- A row of `execution_sessions`: its run and whether it was found unclosed. -/
structure ExecutionSessionRow where
  runId : String
  uncleanDetected : Bool

/-- `ProjectSummary["recoverySummary"]`. -/
structure RecoverySummary where
  processingJobs : ℕ
  activeLeases : ℕ
  expiredLeases : ℕ
  abandonedJobs : ℕ
  outputIssues : ℕ
  uncleanSessions : ℕ

/-- The states of `ProjectSummary["recoveryStatus"]` that the check gives. -/
inductive ProjectRecoveryStatus
  | clean | recoveryAvailable | recoveryRequired
  deriving DecidableEq

/-- The query of `inspectProjectRecovery`. The join keeps each job once: a job has at most one
active lease. -/
def recoverySummary (db : Db) (sessions : List ExecutionSessionRow) (runId : String)
    (evaluationTime : Timestamp) : RecoverySummary where
  processingJobs := db.pageJobs.count fun a => a.runId == runId && a.state == .processing &&
    a.recoveryState == none
  activeLeases := db.jobLeases.count fun l => l.runId == runId && l.status == .active &&
    evaluationTime < l.expiresAt
  expiredLeases := db.jobLeases.count fun l => l.runId == runId && l.status == .active &&
    l.expiresAt ≤ evaluationTime
  abandonedJobs := db.pageJobs.count fun a => a.runId == runId && a.state == .processing &&
    a.recoveryState == none && (Recovery.joinedLease db a.jobId).isNone
  outputIssues := db.completedOutputs.count fun o => o.verificationStatus != .valid &&
    db.pageJobs.rows.any fun a => a.jobId == o.jobId && a.runId == runId
  uncleanSessions := sessions.countP fun s => s.runId == runId && s.uncleanDetected

/-- `inspectProjectRecovery(database, projectId, runId, evaluationTime)`, on the project's own id. -/
def inspectProjectRecovery (db : Db) (sessions : List ExecutionSessionRow) (runId : String)
    (evaluationTime : Timestamp) : ProjectRecoveryStatus × RecoverySummary :=
  let summary := recoverySummary db sessions runId evaluationTime
  (if 0 < summary.expiredLeases || 0 < summary.abandonedJobs then .recoveryRequired
    else if 0 < summary.uncleanSessions || 0 < summary.outputIssues || 0 < summary.processingJobs then
      .recoveryAvailable
    else .clean, summary)

end OfflineWebArchiver
