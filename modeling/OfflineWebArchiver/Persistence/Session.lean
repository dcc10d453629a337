import OfflineWebArchiver.Base.JsString
import OfflineWebArchiver.Lib.Program
import OfflineWebArchiver.Persistence.Tables

/-!
# Pure rules of the queue and of recovery

The validators and small decisions that the repositories share. A validator
throws the error of the package it comes from or returns.

* `shouldRetry`, `calculatePriority`, `minimumDepth`: decisions of the queue.
* `calculateLeaseExpiry`, `isLeaseExpired`, `nextLeaseExpiry`: the life of a lease.
-/

namespace OfflineWebArchiver

/-- Throw `e` unless `b`. -/
def ensure (b : Bool) (e : Thrown) : Checked Unit := if b then .ok () else .error e

/-- `assertTransition(from, to)`. -/
def assertTransition (source target : PageJobState) : Checked Unit :=
  ensure (canTransition source target) <| queueError .invalidTransition
    ("Page Job transition " ++ source.text ++ " -> " ++ target.text ++ " is not allowed")

/-- `if (from !== null) assertTransition(from, to)`. -/
def assertTransitionFrom (source : Option PageJobState) (target : PageJobState) : Checked Unit :=
  match source with
  | some source => assertTransition source target
  | none => .ok ()

/-- `assertCrawlRunTransition(from, to)`. -/
def assertCrawlRunTransition (source target : CrawlRunState) : Checked Unit :=
  ensure (canTransitionCrawlRunState source target) <| .error
    ("Crawl Run state transition " ++ source.text ++ " -> " ++ target.text ++ " is not permitted")

/-- `assertUtcTimestamp(value, field)`. -/
def assertUtcTimestamp (value : Timestamp) (field : String) : Checked Unit :=
  ensure (parseUtc value).isSome <|
    queueError .inputInvalid (field ++ " must be a UTC timestamp with milliseconds")

/-- `if (value !== undefined) assertUtcTimestamp(value, field)`. -/
def assertOptionalUtcTimestamp (value : Option Timestamp) (field : String) : Checked Unit :=
  match value with
  | some value => assertUtcTimestamp value field
  | none => .ok ()

/-- `assertIdempotencyKey(value, field)`. -/
def assertIdempotencyKey (value field : String) : Checked Unit :=
  ensure (isIdempotencyKey value) (queueError .inputInvalid (field ++ " is invalid"))

/-- `assertPriority(priority)`. -/
def assertPriority (priority : ℤ) : Checked Unit :=
  ensure (0 ≤ priority && priority ≤ 1000)
    (queueError .inputInvalid "Priority must be an integer from 0 to 1000")

/-- `if (priority !== undefined) assertPriority(priority)`. -/
def assertOptionalPriority (priority : Option ℤ) : Checked Unit :=
  match priority with
  | some priority => assertPriority priority
  | none => .ok ()

/-- `assertAttemptPolicy(attemptCount, maxAttempts)`. -/
def assertAttemptPolicy (attemptCount maxAttempts : ℤ) : Checked Unit := do
  ensure (0 ≤ attemptCount)
    (queueError .inputInvalid "Attempt count must be a non-negative integer")
  ensure (1 ≤ maxAttempts && maxAttempts ≤ 100)
    (queueError .inputInvalid "Maximum attempts must be from 1 to 100")
  ensure (attemptCount ≤ maxAttempts)
    (queueError .maxAttemptsReached "Attempt count exceeds the maximum-attempt policy")

/-- `calculatePriority({ discoveryType, requestedPriority })`. -/
def calculatePriority (discoveryType : PageJobDiscoveryType) (requestedPriority : Option ℤ) :
    Checked (ℕ × PrioritySource) :=
  match requestedPriority with
  | some priority => do
    assertPriority priority
    return (priority.toNat, .explicit)
  | none =>
    match discoveryType with
    | .seed => return (1000, .policy)
    | .manual => return (750, .policy)
    | .sitemap => return (600, .policy)
    | .canonical | .redirect => return (625, .policy)
    | _ => return (500, .policy)

/-- `shouldRetry(attemptCount, maxAttempts, retryable)`. -/
def shouldRetry (attemptCount maxAttempts : ℕ) (retryable : Bool) : Checked Bool := do
  assertAttemptPolicy attemptCount maxAttempts
  return retryable && attemptCount < maxAttempts

/-- `minimumDepth(currentDepth, discoveredDepth)`. -/
def minimumDepth (currentDepth : ℕ) (discoveredDepth : ℤ) : Checked ℕ := do
  ensure (0 ≤ discoveredDepth)
    (queueError .inputInvalid "Discovery depth must be a non-negative integer")
  return min currentDepth discoveredDepth.toNat

/-- `validateResultSummary(value)`. -/
def validateResultSummary (value : QueueResultSummary) : Checked Unit :=
  match value with
  | .render .. =>
    .error (queueError .inputInvalid "Phase 6 accepts queue-test result metadata only")
  | .queueTest statusCode _ => do
    ensure (statusCode.all fun s => 100 ≤ s && s ≤ 599)
      (queueError .inputInvalid "Result status code is invalid")
    ensure (value.toJson.stringify.utf8ByteSize ≤ 4096)
      (queueError .resultTooLarge "Result metadata exceeds the Phase 6 limit")
    ensure (Json.metadataDepth 0 value.toJson ≤ 4)
      (queueError .resultTooLarge "Result metadata is nested too deeply")

/-- `parseUtc(value, field)` of the recovery package. -/
def parseUtcField (value : Timestamp) (field : String) : Checked ℤ :=
  if matchesUtcPattern value then
    match dateParse value with
    | some instant => .ok instant
    | none => .error (recoveryError .recoveryInputInvalid (field ++ " is not a valid timestamp"))
  else
    .error (recoveryError .recoveryInputInvalid (field ++ " must be a UTC timestamp with milliseconds"))

/-- `validateLeaseDuration(milliseconds)`. -/
def validateLeaseDuration (milliseconds : ℤ) : Checked ℤ := do
  ensure (5000 ≤ milliseconds && milliseconds ≤ 86400000) <| recoveryError .recoveryInputInvalid
    "Lease duration must be from 5000 to 86400000 milliseconds"
  return milliseconds

/-- `validateRecoveryLimit(limit)`. -/
def validateRecoveryLimit (limit : ℤ) : Checked Unit :=
  ensure (1 ≤ limit && limit ≤ 500)
    (recoveryError .recoveryInputInvalid "Recovery batch size must be from 1 to 500")

/-- `calculateLeaseExpiry(baseTime, durationMs)`. -/
def calculateLeaseExpiry (baseTime : Timestamp) (durationMs : ℤ) : Checked Timestamp := do
  let base ← parseUtcField baseTime "Lease base time"
  let duration ← validateLeaseDuration durationMs
  return toISOString (base + duration)

/-- `isLeaseExpired(lease, evaluationTime)`. -/
def isLeaseExpired (status : JobLeaseStatus) (expiresAt evaluationTime : Timestamp) : Checked Bool :=
  if status = .active then do
    let evaluation ← parseUtcField evaluationTime "evaluationTime"
    let expiry ← parseUtcField expiresAt "expiresAt"
    return expiry ≤ evaluation
  else return false

/-- `nextLeaseExpiry(lease, renewalTime, extensionMs)`. -/
def nextLeaseExpiry (status : JobLeaseStatus) (expiresAt renewalTime : Timestamp) (extensionMs : ℤ) :
    Checked Timestamp := do
  ensure (status == .active)
    (recoveryError .leaseRenewalInvalid "Only an active Lease can be renewed")
  let expired ← isLeaseExpired status expiresAt renewalTime
  ensure (!expired) (recoveryError .leaseExpired "An expired Lease cannot be renewed")
  calculateLeaseExpiry renewalTime extensionMs

/-- `/api[-_]?key/i` at the front. -/
def startsWithApiKey (cs : List Char) : Bool :=
  match matchWord "api".toList cs with
  | some rest =>
    (matchWord "key".toList rest).isSome ||
      match rest with
      | c :: rest' => (c == '-' || c == '_') && (matchWord "key".toList rest').isSome
      | [] => false
  | none => false

/-- `SECRET_KEY_PATTERN.test(key)`. -/
def isSecretKey (key : String) : Bool :=
  key.toList.tails.any fun cs =>
    (["token", "secret", "password", "cookie", "authorization", "credential"].any fun word =>
      (matchWord word.toList cs).isSome) || startsWithApiKey cs

mutual

/-- Some object key of the value is a secret key. -/
def hasSecretKey : Json → Bool
  | .arr xs => hasSecretKeyList xs
  | .obj fields => hasSecretKeyFields fields
  | _ => false

def hasSecretKeyList : List Json → Bool
  | [] => false
  | x :: xs => hasSecretKey x || hasSecretKeyList xs

def hasSecretKeyFields : List (String × Json) → Bool
  | [] => false
  | (k, v) :: fields => isSecretKey k || hasSecretKey v || hasSecretKeyFields fields

end

/-- `validateCheckpointPayload(payload)`. -/
def validateCheckpointPayload (payload : Json) : Checked String := do
  ensure (!hasSecretKey payload) <|
    recoveryError .checkpointInvalid "Checkpoint payload keys cannot contain credential material"
  ensure (Json.metadataDepth 0 payload ≤ 6)
    (recoveryError .checkpointTooLarge "Checkpoint payload is nested too deeply")
  ensure (payload.canonicalJson.utf8ByteSize ≤ 16384)
    (recoveryError .checkpointTooLarge "Checkpoint payload exceeds its byte limit")
  return payload.canonicalJson

/-- `validateCheckpointProgress(progress)`. -/
def validateCheckpointProgress (progress : Option Rat) : Checked Rat :=
  match progress with
  | some p =>
    if 0 ≤ p && p ≤ 1 then .ok p
    else .error (recoveryError .checkpointInvalid "Checkpoint progress must be from zero to one")
  | none => .error (recoveryError .checkpointInvalid "Checkpoint progress must be from zero to one")

/-- A retry is allowed only while attempts remain. -/
theorem shouldRetry_lt {attemptCount maxAttempts : ℕ} {retryable : Bool}
    (h : shouldRetry attemptCount maxAttempts retryable = .ok true) : attemptCount < maxAttempts := by
  unfold shouldRetry at h
  cases hp : assertAttemptPolicy attemptCount maxAttempts with
  | error e => rw [hp] at h; cases h
  | ok u =>
    rw [hp] at h
    have h' : (retryable && decide (attemptCount < maxAttempts)) = true := by
      simpa [bind, Except.bind, pure, Except.pure] using h
    simp only [Bool.and_eq_true, decide_eq_true_eq] at h'
    exact h'.2

example : (shouldRetry 3 3 true).toOption = some false := by decide

end OfflineWebArchiver

/-!
## Calls on the store

A repository call runs on the database with a clock and a source of fresh ids.
`Env` holds what the code takes from outside: SHA-256 and the portable-path check.

* `transaction`: a call commits as a whole or leaves the database as it was.
* `idempotent`: the answer of an earlier call with the same key and request.
* the `update…`, `insert…` statements: one for each table that is written.
-/

namespace OfflineWebArchiver

open Relational

/-- What the code takes from outside the store. -/
structure Env where
  /-- SHA-256, as lower-case hexadecimal text. -/
  sha256 : List UInt8 → String
  /-- `validateCanonicalRelativePath(value)`: the normalized path, or the message of the
  rejection. -/
  validateCanonicalRelativePath : String → Except String String

/-- The bytes of a text in UTF-8. -/
def utf8 (text : List Char) : List UInt8 := text.flatMap String.utf8EncodeChar

/-- `hash(value)` of a text. -/
def Env.hashText (env : Env) (text : String) : String := env.sha256 (utf8 text.toList)

/-- `hash(value)` of an object: of the characters of its `canonicalJson`. -/
def Env.hash (env : Env) (value : Json) : String := env.sha256 (utf8 value.ordered.chars)

/-- A running call: the database, the readings of `now()` and the results of
`id()` that it will get, and how many of them it has used. -/
structure Call where
  db : Db
  clock : ℕ → Timestamp
  ids : ℕ → String
  ticks : ℕ
  drawn : ℕ

/-- A program of the store. -/
abbrev M (α : Type) := Program Call Thrown α

/-- `now()`. -/
def now : M Timestamp := fun s => .ok (s.clock s.ticks, { s with ticks := s.ticks + 1 })

/-- `id()`. -/
def freshId : M String := fun s => .ok (s.ids s.drawn, { s with drawn := s.drawn + 1 })

/-- The database that the next statement sees. -/
def database : M Db := fun s => .ok (s.db, s)

/-- Run a statement, which fails when it breaks a constraint. -/
def statement {α : Type} (run : Db → Option (α × Db)) : M α := fun s =>
  match run s.db with
  | some (a, db) => .ok (a, { s with db := db })
  | none => .error (.error "constraint failed")

/-- `UPDATE page_jobs`: the number of changed rows. -/
def updateJobs (p : PageJobRow → Bool) (f : PageJobRow → PageJobRow) : M ℕ :=
  statement fun db => (db.pageJobs.update p f).map fun t =>
    (db.pageJobs.count p, { db with pageJobs := t })

def insertJob (row : PageJobRow) : M Unit :=
  statement fun db => (db.pageJobs.insert row).map fun t => ((), { db with pageJobs := t })

def updateLeases (p : JobLeaseRow → Bool) (f : JobLeaseRow → JobLeaseRow) : M Unit :=
  statement fun db => (db.jobLeases.update p f).map fun t => ((), { db with jobLeases := t })

def insertLease (row : JobLeaseRow) : M Unit :=
  statement fun db => (db.jobLeases.insert row).map fun t => ((), { db with jobLeases := t })

def updateAttempts (p : JobAttemptRow → Bool) (f : JobAttemptRow → JobAttemptRow) : M Unit :=
  statement fun db => (db.jobAttempts.update p f).map fun t => ((), { db with jobAttempts := t })

def insertAttempt (row : JobAttemptRow) : M Unit :=
  statement fun db => (db.jobAttempts.insert row).map fun t => ((), { db with jobAttempts := t })

def insertTransition (row : JobTransitionRow) : M Unit :=
  statement fun db => (db.jobTransitions.insert row).map fun t => ((), { db with jobTransitions := t })

/-- `INSERT OR IGNORE INTO scope_decisions`. -/
def insertScopeDecision (row : ScopeDecisionRow) : M Unit :=
  statement fun db => some ((), { db with
    scopeDecisions := (db.scopeDecisions.insert row).getD db.scopeDecisions })

/-- `INSERT OR IGNORE INTO job_discoveries`. -/
def insertJobDiscovery (row : JobDiscoveryRow) : M Unit :=
  statement fun db => some ((), { db with
    jobDiscoveries := (db.jobDiscoveries.insert row).getD db.jobDiscoveries })

def insertOperation (row : QueueOperationRow) : M Unit :=
  statement fun db => (db.queueOperations.insert row).map fun t =>
    ((), { db with queueOperations := t })

def updateControl (p : RunControlRow → Bool) (f : RunControlRow → RunControlRow) : M Unit :=
  statement fun db => (db.runControl.update p f).map fun t => ((), { db with runControl := t })

def insertCheckpoint (row : JobCheckpointRow) : M Unit :=
  statement fun db => (db.jobCheckpoints.insert row).map fun t => ((), { db with jobCheckpoints := t })

def insertOutput (row : CompletedOutputRow) : M Unit :=
  statement fun db => (db.completedOutputs.insert row).map fun t =>
    ((), { db with completedOutputs := t })

def insertRecoveryOperation (row : RecoveryOperationRow) : M Unit :=
  statement fun db => (db.recoveryOperations.insert row).map fun t =>
    ((), { db with recoveryOperations := t })

def updateRecoveryOperations (p : RecoveryOperationRow → Bool)
    (f : RecoveryOperationRow → RecoveryOperationRow) : M Unit :=
  statement fun db => (db.recoveryOperations.update p f).map fun t =>
    ((), { db with recoveryOperations := t })

def insertRenderResult (row : RenderResultRow) : M Unit :=
  statement fun db => (db.renderResults.insert row).map fun t => ((), { db with renderResults := t })

def insertRenderFailure (row : RenderFailureRow) : M Unit :=
  statement fun db => (db.renderFailures.insert row).map fun t => ((), { db with renderFailures := t })

section Wp

open Program

variable {α : Type} {Q : α → Call → Prop} {R : Thrown → Prop} {s : Call}

@[simp] theorem wp_now {Q : Timestamp → Call → Prop} :
    wp now Q R s ↔ Q (s.clock s.ticks) { s with ticks := s.ticks + 1 } := Iff.rfl

@[simp] theorem wp_freshId {Q : String → Call → Prop} :
    wp freshId Q R s ↔ Q (s.ids s.drawn) { s with drawn := s.drawn + 1 } := Iff.rfl

@[simp] theorem wp_database {Q : Db → Call → Prop} : wp database Q R s ↔ Q s.db s := Iff.rfl

@[simp] theorem wp_statement (run : Db → Option (α × Db)) :
    wp (statement run) Q R s ↔ (∀ a db, run s.db = some (a, db) → Q a { s with db := db }) ∧
      (run s.db = none → R (.error "constraint failed")) := by
  unfold wp statement StateT.run
  cases h : run s.db with
  | none => simp [h]
  | some p => obtain ⟨a, db⟩ := p; simp [h]

/-- A statement on one table. -/
theorem wp_statement_map {β : Type} (g : Db → Option β) (h : Db → α) (put : Db → β → Db) :
    wp (statement fun db => (g db).map fun t => (h db, put db t)) Q R s ↔
      (∀ t, g s.db = some t → Q (h s.db) { s with db := put s.db t }) ∧
      (g s.db = none → R (.error "constraint failed")) := by
  rw [wp_statement]
  cases hg : g s.db with
  | none => simp
  | some t => simp [eq_comm]

variable {Q : Unit → Call → Prop}

@[simp] theorem wp_updateJobs {Q : ℕ → Call → Prop} (p : PageJobRow → Bool)
    (f : PageJobRow → PageJobRow) :
    wp (updateJobs p f) Q R s ↔
      (∀ t, s.db.pageJobs.update p f = some t →
        Q (s.db.pageJobs.count p) { s with db := { s.db with pageJobs := t } }) ∧
      (s.db.pageJobs.update p f = none → R (.error "constraint failed")) :=
  wp_statement_map (fun db => db.pageJobs.update p f) _ _

@[simp] theorem wp_insertJob (row : PageJobRow) :
    wp (insertJob row) Q R s ↔
      (∀ t, s.db.pageJobs.insert row = some t → Q () { s with db := { s.db with pageJobs := t } }) ∧
      (s.db.pageJobs.insert row = none → R (.error "constraint failed")) :=
  wp_statement_map (fun db => db.pageJobs.insert row) _ _

@[simp] theorem wp_insertLease (row : JobLeaseRow) :
    wp (insertLease row) Q R s ↔
      (∀ t, s.db.jobLeases.insert row = some t → Q () { s with db := { s.db with jobLeases := t } }) ∧
      (s.db.jobLeases.insert row = none → R (.error "constraint failed")) :=
  wp_statement_map (fun db => db.jobLeases.insert row) _ _

@[simp] theorem wp_insertAttempt (row : JobAttemptRow) :
    wp (insertAttempt row) Q R s ↔
      (∀ t, s.db.jobAttempts.insert row = some t → Q () { s with db := { s.db with jobAttempts := t } }) ∧
      (s.db.jobAttempts.insert row = none → R (.error "constraint failed")) :=
  wp_statement_map (fun db => db.jobAttempts.insert row) _ _

@[simp] theorem wp_insertTransition (row : JobTransitionRow) :
    wp (insertTransition row) Q R s ↔
      (∀ t, s.db.jobTransitions.insert row = some t → Q () { s with db := { s.db with jobTransitions := t } }) ∧
      (s.db.jobTransitions.insert row = none → R (.error "constraint failed")) :=
  wp_statement_map (fun db => db.jobTransitions.insert row) _ _

@[simp] theorem wp_insertOperation (row : QueueOperationRow) :
    wp (insertOperation row) Q R s ↔
      (∀ t, s.db.queueOperations.insert row = some t → Q () { s with db := { s.db with queueOperations := t } }) ∧
      (s.db.queueOperations.insert row = none → R (.error "constraint failed")) :=
  wp_statement_map (fun db => db.queueOperations.insert row) _ _

@[simp] theorem wp_insertCheckpoint (row : JobCheckpointRow) :
    wp (insertCheckpoint row) Q R s ↔
      (∀ t, s.db.jobCheckpoints.insert row = some t → Q () { s with db := { s.db with jobCheckpoints := t } }) ∧
      (s.db.jobCheckpoints.insert row = none → R (.error "constraint failed")) :=
  wp_statement_map (fun db => db.jobCheckpoints.insert row) _ _

@[simp] theorem wp_insertOutput (row : CompletedOutputRow) :
    wp (insertOutput row) Q R s ↔
      (∀ t, s.db.completedOutputs.insert row = some t → Q () { s with db := { s.db with completedOutputs := t } }) ∧
      (s.db.completedOutputs.insert row = none → R (.error "constraint failed")) :=
  wp_statement_map (fun db => db.completedOutputs.insert row) _ _

@[simp] theorem wp_insertRecoveryOperation (row : RecoveryOperationRow) :
    wp (insertRecoveryOperation row) Q R s ↔
      (∀ t, s.db.recoveryOperations.insert row = some t → Q () { s with db := { s.db with recoveryOperations := t } }) ∧
      (s.db.recoveryOperations.insert row = none → R (.error "constraint failed")) :=
  wp_statement_map (fun db => db.recoveryOperations.insert row) _ _

@[simp] theorem wp_insertRenderResult (row : RenderResultRow) :
    wp (insertRenderResult row) Q R s ↔
      (∀ t, s.db.renderResults.insert row = some t → Q () { s with db := { s.db with renderResults := t } }) ∧
      (s.db.renderResults.insert row = none → R (.error "constraint failed")) :=
  wp_statement_map (fun db => db.renderResults.insert row) _ _

@[simp] theorem wp_insertRenderFailure (row : RenderFailureRow) :
    wp (insertRenderFailure row) Q R s ↔
      (∀ t, s.db.renderFailures.insert row = some t → Q () { s with db := { s.db with renderFailures := t } }) ∧
      (s.db.renderFailures.insert row = none → R (.error "constraint failed")) :=
  wp_statement_map (fun db => db.renderFailures.insert row) _ _

@[simp] theorem wp_updateLeases (p : JobLeaseRow → Bool) (f : JobLeaseRow → JobLeaseRow) :
    wp (updateLeases p f) Q R s ↔
      (∀ t, s.db.jobLeases.update p f = some t → Q () { s with db := { s.db with jobLeases := t } }) ∧
      (s.db.jobLeases.update p f = none → R (.error "constraint failed")) :=
  wp_statement_map (fun db => db.jobLeases.update p f) _ _

@[simp] theorem wp_updateAttempts (p : JobAttemptRow → Bool) (f : JobAttemptRow → JobAttemptRow) :
    wp (updateAttempts p f) Q R s ↔
      (∀ t, s.db.jobAttempts.update p f = some t → Q () { s with db := { s.db with jobAttempts := t } }) ∧
      (s.db.jobAttempts.update p f = none → R (.error "constraint failed")) :=
  wp_statement_map (fun db => db.jobAttempts.update p f) _ _

@[simp] theorem wp_updateControl (p : RunControlRow → Bool) (f : RunControlRow → RunControlRow) :
    wp (updateControl p f) Q R s ↔
      (∀ t, s.db.runControl.update p f = some t → Q () { s with db := { s.db with runControl := t } }) ∧
      (s.db.runControl.update p f = none → R (.error "constraint failed")) :=
  wp_statement_map (fun db => db.runControl.update p f) _ _

@[simp] theorem wp_updateRecoveryOperations (p : RecoveryOperationRow → Bool) (f : RecoveryOperationRow → RecoveryOperationRow) :
    wp (updateRecoveryOperations p f) Q R s ↔
      (∀ t, s.db.recoveryOperations.update p f = some t → Q () { s with db := { s.db with recoveryOperations := t } }) ∧
      (s.db.recoveryOperations.update p f = none → R (.error "constraint failed")) :=
  wp_statement_map (fun db => db.recoveryOperations.update p f) _ _

@[simp] theorem wp_insertScopeDecision (row : ScopeDecisionRow) :
    wp (insertScopeDecision row) Q R s ↔ Q () { s with db := { s.db with
      scopeDecisions := (s.db.scopeDecisions.insert row).getD s.db.scopeDecisions } } := Iff.rfl

@[simp] theorem wp_insertJobDiscovery (row : JobDiscoveryRow) :
    wp (insertJobDiscovery row) Q R s ↔ Q () { s with db := { s.db with
      jobDiscoveries := (s.db.jobDiscoveries.insert row).getD s.db.jobDiscoveries } } := Iff.rfl

end Wp

/-- `BEGIN IMMEDIATE`, the operation, `COMMIT`. A throw rolls everything back, and
what is not one of the kept errors is thrown as `failure`. -/
def transaction {α : Type} (keeps : Thrown → Bool) (failure : Thrown → Thrown) (operation : M α) :
    M α :=
  Program.mapError (fun e => if keeps e then e else failure e) operation

/-- `getJobRow(projectId, runId, jobId)`. -/
def getJobRow (projectId runId jobId : String) : M PageJobRow := do
  let db ← database
  Program.orThrow (if projectId = db.project.projectId then
      db.pageJobs.find fun a => a.runId == runId && a.jobId == jobId
    else none)
    (queueError .jobNotFound "The Page Job was not found in the selected Project and Run")

/-- The lease that `job_leases` holds as active for the job. -/
def activeLease (db : Db) (projectId runId jobId : String) : Option JobLeaseRow :=
  if projectId = db.project.projectId then
    db.jobLeases.find fun l => l.runId == runId && l.jobId == jobId && l.status == .active
  else none

/-- `SELECT COUNT(*) FROM job_leases WHERE run_id = ? AND status = 'active'`. -/
def activeLeaseCount (db : Db) (runId : String) : ℕ :=
  db.jobLeases.count fun l => l.runId == runId && l.status == .active

end OfflineWebArchiver
