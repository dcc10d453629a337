import OfflineWebArchiver.Persistence.Recovery

/-!
# Committing rendered pages

`createSqliteRenderRepository`: the database transactions of a rendered page. The
files of `commitRenderResult` are written before its transaction begins.

* `assertOwnership`: the caller still holds the lease of the job.
* `commitTransaction`, `recordRenderFailure`: the two ways a render ends.
-/

namespace OfflineWebArchiver

open Relational Program

namespace Render

variable (env : Env)

def renderTransaction {α : Type} : M α → M α :=
  transaction (fun | .error _ => false | _ => true) fun
    | .error detail => .render .renderCommitFailed
        ("The Render persistence transaction failed safely: " ++ detail) true
    | e => e

/-- `/(?:cookie|authorization|password|token|secret|set-cookie)"?\s*:/i.test(text)`. -/
def hasSensitiveKey (text : String) : Bool :=
  text.toList.tails.any fun cs =>
    ["cookie", "authorization", "password", "token", "secret"].any fun word =>
      match matchWord word.toList cs with
      | some rest =>
        let rest := match rest with
          | '"' :: rest' => rest'
          | _ => rest
        (rest.dropWhile isJsSpace).head? == some ':'
      | none => false

/-- `safeJson(value)`. -/
def safeJson (value : Json) : Checked String := do
  ensure (value.stringify.utf8ByteSize ≤ 131072)
    (renderError "Render evidence exceeds the approved persistence limit")
  ensure (!hasSensitiveKey value.stringify)
    (renderError "Render metadata contains a prohibited sensitive key")
  return value.stringify

/-- What `assertOwnership` returns. -/
structure Ownership where
  job : PageJobRow
  lease : JobLeaseRow
  attempt : JobAttemptRow

/-- `assertOwnership(input)`. -/
def assertOwnership (input : LeaseHolder) : M Ownership := do
  let db ← database
  let job ← orThrow (if input.projectId = db.project.projectId then
      db.pageJobs.find fun a => a.runId == input.runId && a.jobId == input.jobId
    else none)
    (queueError .jobNotFound "The Render Page Job was not found")
  require (job.state == .processing && job.recoveryState == none)
    (queueError .jobStateConflict "The Render Page Job is not actively processing")
  require (job.fencingGeneration == input.fencingGeneration)
    (recoveryError .fencingGenerationStale "A newer Render owner fenced this write")
  let lease ← orThrow (activeLease db input.projectId input.runId input.jobId)
    (recoveryError .leaseNotFound "The Render Page Job has no active Lease")
  require (lease.ownerId == input.ownerId)
    (recoveryError .leaseOwnerMismatch "The Render Lease belongs to another owner")
  require (lease.fencingGeneration == input.fencingGeneration)
    (recoveryError .fencingGenerationStale "The Render Lease generation is stale")
  require (env.hashText input.leaseToken == lease.leaseTokenHash)
    (recoveryError .leaseTokenInvalid "The Render Lease Token is invalid")
  let time ← now
  require (time < lease.expiresAt)
    (recoveryError .leaseExpired "The Render Lease expired before the write")
  let attempt ← orThrow (db.jobAttempts.find fun t => t.jobId == input.jobId &&
      t.attemptNumber == job.attemptCount && t.outcome == .processing)
    (renderError "The active Render attempt ledger is missing")
  return { job, lease, attempt }

/-- `insertEvent(ownership, stage, eventType, safeMetadata, occurredAt)`: nothing
here reads the rows of `render_events`. -/
def insertEvent (safeMetadata : Json) : M Unit := do
  let _ ← freshId
  let _ ← check (safeJson safeMetadata)

/-- The path of a job's page, relative to the project. -/
def htmlRelativePath (jobId : String) : String := "pages/" ++ jobId ++ "/rendered.html"

/-- The path of a job's screenshot, relative to the project. -/
def screenshotRelativePath (jobId : String) : String := "pages/" ++ jobId ++ "/screenshot.png"

/-- What the call records of a file. -/
def artifactOf (relativePath : String) (bytes : List UInt8) : RenderArtifactDescriptor where
  relativePath := relativePath
  byteLength := bytes.length
  sha256 := env.sha256 bytes

def htmlArtifact (input : CommitRenderResultInput) : RenderArtifactDescriptor :=
  artifactOf env (htmlRelativePath input.jobId) (utf8 input.html.toList)

def screenshotArtifact (input : CommitRenderResultInput) : Option RenderArtifactDescriptor :=
  input.screenshot.map (artifactOf env (screenshotRelativePath input.jobId))

/-- The `completed_outputs` row of a file. -/
def insertArtifact (jobId : String) (artifact : RenderArtifactDescriptor) : M Unit := do
  let descriptorId ← freshId
  insertOutput { descriptorId, jobId, relativePath := artifact.relativePath
                 byteLength := artifact.byteLength, sha256 := artifact.sha256, verifiedAt := none
                 verificationStatus := .valid }

/-- The rows of a screenshot, when there is one. -/
def insertScreenshot (jobId : String) (artifact : Option RenderArtifactDescriptor) : M Unit :=
  match artifact with
  | some artifact => insertArtifact jobId artifact
  | none => pure ()

/-- The earlier result that was committed under the same operation id. -/
def replayedResult (db : Db) (input : CommitRenderResultInput) : Option RenderResultRow :=
  if input.projectId = db.project.projectId then
    db.renderResults.find (·.operationId == input.operationId)
  else none

/-- The part of the transaction after the replay check. -/
def commitOwned (input : CommitRenderResultInput) : M RenderResultRow := do
  let ownership ← assertOwnership env input.toLeaseHolder
  let renderResultId ← freshId
  let createdAt ← now
  let safeSummaryJson ← check (safeJson (.obj [("evidence", input.result.evidence)]))
  let row : RenderResultRow :=
    { input.result with
      renderResultId, jobId := input.jobId, attemptId := ownership.attempt.attemptId
      leaseId := ownership.lease.leaseId, fencingGeneration := input.fencingGeneration
      runId := input.runId, htmlArtifact := htmlArtifact env input
      screenshotArtifact := screenshotArtifact env input, safeSummaryJson
      operationId := input.operationId, createdAt }
  insertRenderResult row
  insertArtifact input.jobId (htmlArtifact env input)
  insertScreenshot input.jobId (screenshotArtifact env input)
  let _ ← updateJobs (fun a => a.jobId == input.jobId && a.state == .processing &&
      a.fencingGeneration == input.fencingGeneration) fun a =>
    { a with state := .completed, completedAt := some input.result.renderCompletedAt
             resultVersion := some 1
             resultSummary := some (.render input.result.httpStatus renderResultId
               (htmlArtifact env input).sha256 (htmlRelativePath input.jobId))
             completionKey := some input.operationId, claimToken := none, claimedBy := none
             updatedAt := createdAt }
  updateAttempts (fun t => t.attemptId == ownership.attempt.attemptId && t.outcome == .processing)
    fun t => { t with finishedAt := some input.result.renderCompletedAt, outcome := .completed }
  let transitionId ← freshId
  insertTransition
    { transitionId, jobId := input.jobId, fromState := some .processing, toState := .completed
      reasonCode := "RENDER_RESULT_COMMITTED", operationId := input.operationId
      correlationId := input.operationId, occurredAt := input.result.renderCompletedAt
      safeMetadata := .obj [("renderResultId", .str renderResultId),
        ("fencingGeneration", .num input.fencingGeneration)] }
  Recovery.closeLease ownership.lease.leaseId .released input.result.renderCompletedAt
    "RENDER_COMPLETED" input.operationId
  insertEvent (.obj [("renderResultId", .str renderResultId),
    ("htmlBytes", .num (utf8 input.html.toList).length), ("screenshot", .bool input.screenshot.isSome)])
  return row

/-- The transaction of `commitRenderResult(input)`. -/
def commitTransaction (input : CommitRenderResultInput) : M RenderResultRow :=
  renderTransaction do
    let db ← database
    match replayedResult db input with
    | some replay =>
      require (replay.jobId == input.jobId)
        (renderError "The Render operation ID was already used for another Job")
      return replay
    | none => commitOwned env input

/-- The error category that a failed render leaves on the job. -/
def errorCategoryOf (category : RenderFailureCategory) : QueueFailureCategory :=
  if category = .security then .validation else .application

/-- The first 800 code units of a message. -/
def safeSlice (message : String) : String := String.ofList (utf16Take 800 message.toList)

/-- `recordRenderFailure(input)`. -/
def recordRenderFailure (input : RecordRenderFailureInput) : M RenderFailureRow :=
  renderTransaction do
    let ownership ← assertOwnership env input.toLeaseHolder
    let db ← database
    match db.renderFailures.find fun f => f.jobId == input.jobId &&
        f.attemptId == ownership.attempt.attemptId with
    | some existing => return existing
    | none =>
      let renderFailureId ← freshId
      let row : RenderFailureRow :=
        { renderFailureId, jobId := input.jobId, attemptId := ownership.attempt.attemptId
          leaseId := ownership.lease.leaseId, fencingGeneration := input.fencingGeneration
          failureCode := input.failureCode, failureCategory := input.failureCategory
          retryable := input.retryable, safeMessage := safeSlice input.safeMessage
          occurredAt := input.occurredAt }
      insertRenderFailure row
      let attemptsRemain := ownership.job.attemptCount < ownership.job.maxAttempts
      let retry := input.retryable && attemptsRemain
      let nextState : StoredState := if retry then .retrying else .failed
      let outcome : AttemptOutcome := if retry then .retrying else .failed
      let _ ← updateJobs (fun a => a.jobId == input.jobId && a.state == .processing &&
          a.fencingGeneration == input.fencingGeneration) fun a =>
        { a with state := nextState, nextEligibleAt := input.occurredAt
                 failedAt := if retry then none else some input.occurredAt
                 lastErrorCode := some input.failureCode.text
                 lastErrorCategory := some (errorCategoryOf input.failureCategory)
                 lastErrorMessage := some (safeSlice input.safeMessage), claimToken := none
                 claimedBy := none, updatedAt := input.occurredAt }
      updateAttempts (fun t => t.attemptId == ownership.attempt.attemptId && t.outcome == .processing)
        fun t => { t with finishedAt := some input.occurredAt, outcome := outcome
                          errorCode := some input.failureCode.text
                          errorCategory := some (errorCategoryOf input.failureCategory)
                          safeErrorMessage := some (safeSlice input.safeMessage) }
      let transitionId ← freshId
      insertTransition
        { transitionId, jobId := input.jobId, fromState := some .processing
          toState := nextState.toJobState, reasonCode := input.failureCode.text
          operationId := input.operationId, correlationId := input.operationId
          occurredAt := input.occurredAt
          safeMetadata := .obj [("retryable", .bool input.retryable),
            ("fencingGeneration", .num input.fencingGeneration)] }
      Recovery.closeLease ownership.lease.leaseId .released input.occurredAt input.failureCode.text
        input.operationId
      insertEvent (.obj [("failureCode", .str input.failureCode.text),
        ("retryable", .bool input.retryable)])
      return row

end Render

end OfflineWebArchiver
