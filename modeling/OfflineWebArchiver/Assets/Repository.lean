import OfflineWebArchiver.Assets.Tables

/-!
# The asset repository

`createSqliteAssetRepository`: a page job registers the assets it needs, a worker that
holds the job's lease claims one, saves its progress, and completes or interrupts it. The
repository reads the jobs and leases of the store and writes the asset tables.

* `assertLease`, `assertClaim`: who may act on a source.
* `AssetOp`, `assetStep`: a call, and what it leaves of the asset tables.
-/

namespace OfflineWebArchiver

open Relational Program

/-- A running call: the store it reads, the asset tables, and the readings of `now()` and
results of `id()` that it gets, with how many of them it has used. -/
structure AssetCall where
  db : Db
  assets : AssetDb
  clock : ℕ → Timestamp
  ids : ℕ → String
  ticks : ℕ
  drawn : ℕ

/-- A program of the repository. -/
abbrev AssetM (α : Type) := Program AssetCall AssetThrown α

namespace Assets

/-- `now()`. -/
def now : AssetM Timestamp := fun s => .ok (s.clock s.ticks, { s with ticks := s.ticks + 1 })

/-- `id()`. -/
def freshId : AssetM String := fun s => .ok (s.ids s.drawn, { s with drawn := s.drawn + 1 })

def database : AssetM Db := fun s => .ok (s.db, s)

def tables : AssetM AssetDb := fun s => .ok (s.assets, s)

/-- Run a statement on the asset tables, which fails when it breaks a constraint. -/
def statement (run : AssetDb → Option AssetDb) : AssetM Unit := fun s =>
  match run s.assets with
  | some assets => .ok ((), { s with assets := assets })
  | none => .error (.error "constraint failed")

def updateSources (p : AssetSourceRow → Bool) (f : AssetSourceRow → AssetSourceRow) : AssetM Unit :=
  statement fun a => (a.assetSources.update p f).map fun t => { a with assetSources := t }

/-- `INSERT OR IGNORE INTO page_asset_relations`. -/
def insertRelation (row : PageAssetRelation) : AssetM Unit :=
  statement fun a => some { a with
    pageAssetRelations := (a.pageAssetRelations.insert row).getD a.pageAssetRelations }

/-- `INSERT INTO asset_sources`: false when a unique key forbids the row. -/
def insertSource (row : AssetSourceRow) : AssetM Bool := fun s =>
  match s.assets.assetSources.insert row with
  | some t => .ok (true, { s with assets := { s.assets with assetSources := t } })
  | none => if assetSourceCheck row then .ok (false, s) else .error (.error "CHECK constraint failed")

/-- `INSERT INTO asset_contents`: false when a unique key forbids the row. -/
def insertContent (row : AssetContent) : AssetM Bool := fun s =>
  match s.assets.assetContents.insert row with
  | some t => .ok (true, { s with assets := { s.assets with assetContents := t } })
  | none =>
    if assetContents.check row then .ok (false, s) else .error (.error "CHECK constraint failed")

/-- `transaction(operation)`. -/
def transaction {α : Type} (operation : AssetM α) : AssetM α :=
  Program.mapError (fun
    | .asset code message retryable => .asset code message retryable
    | .error _ => .asset .persistenceFailed "The Asset persistence transaction failed safely" true) operation

/-- `AssetLeaseInput`, with the source it is about. -/
structure AssetLeaseInput where
  projectId : String
  runId : String
  jobId : String
  leaseToken : String
  fencingGeneration : ℕ
  ownerId : String
  assetSourceId : String

/-- `AssetSourceInput`. -/
structure AssetSourceInput where
  identity : AssetIdentityInput
  assetType : AssetType
  pageJobId : String
  projectId : String
  runId : String
  projectRevisionId : String
  relationKind : String

structure SaveProgressInput extends AssetLeaseInput where
  partialRelativePath : String
  bytesWritten : ℤ
  expectedBytes : Option ℤ
  validator : Option String
  etag : Nullish String
  lastModified : Nullish String
  resumeOffset : ℤ

structure FinalizeInput extends AssetLeaseInput where
  statusCode : ℤ
  finalUrl : String
  redirectChain : List String
  contentType : Option String
  byteLength : ℤ
  sha256 : String
  completedAt : Timestamp

structure InterruptInput extends AssetLeaseInput where
  errorCode : String

/-- `requireProjectRun(projectId, runId)`. -/
def requireProjectRun (projectId runId : String) : AssetM Unit := do
  let db ← database
  require (projectId == db.project.projectId && db.project.runs.contains runId)
    (assetError .notFound "The Asset Project or Run was not found")

/-- The rows that `WHERE project_id = ? AND run_id = ? AND asset_source_id = ?` selects. -/
def isSource (projectId runId assetSourceId : String) (row : AssetSourceRow) : Bool :=
  row.projectId == projectId && row.runId == runId && row.assetSourceId == assetSourceId

/-- `requireSourceRow(projectId, runId, assetSourceId)`. -/
def requireSourceRow (projectId runId assetSourceId : String) : AssetM AssetSourceRow := do
  let assets ← tables
  orThrow (assets.assetSources.find (isSource projectId runId assetSourceId))
    (assetError .notFound "The Asset source was not found")

/-- The row of a source as callers see it. -/
def readSource (projectId runId assetSourceId : String) : AssetM AssetSource := do
  let row ← requireSourceRow projectId runId assetSourceId
  let assets ← tables
  return rowToSource assets.assetContents row

/-- `SELECT ... FROM page_jobs WHERE project_id = ? AND run_id = ? AND job_id = ?`. -/
def pageJob (db : Db) (projectId runId jobId : String) : Option PageJobRow :=
  if projectId = db.project.projectId then
    db.pageJobs.find fun a => a.runId == runId && a.jobId == jobId
  else none

/-- `requirePageJob({ projectId, runId, pageJobId, projectRevisionId })`. -/
def requirePageJob (projectId runId pageJobId projectRevisionId : String) : AssetM Unit := do
  let db ← database
  let invalid := assetError .notFound "The Asset Page Job ownership boundary is invalid"
  let row ← orThrow (pageJob db projectId runId pageJobId) invalid
  require (row.projectRevisionId == projectRevisionId) invalid

variable (env : AssetEnv)

/-- `assertLease(input)`. -/
def assertLease (input : AssetLeaseInput) : AssetM JobLeaseRow := do
  requireProjectRun input.projectId input.runId
  let db ← database
  let lease ← orThrow (activeLease db input.projectId input.runId input.jobId)
    (assetError .leaseInvalid "No active Lease owns the Asset Page Job")
  require (env.hashText input.leaseToken == lease.leaseTokenHash)
    (assetError .leaseInvalid "The Asset Lease Token is invalid")
  require (input.ownerId == lease.ownerId)
    (assetError .leaseInvalid "The Asset Lease owner is invalid")
  require (input.fencingGeneration == lease.fencingGeneration)
    (assetError .staleGeneration "The Asset fencing generation is stale")
  let job ← orThrow (pageJob db input.projectId input.runId input.jobId)
    (assetError .notFound "The Asset Page Job was not found")
  require (job.fencingGeneration == input.fencingGeneration)
    (assetError .staleGeneration "The Asset Page Job has advanced to a newer generation")
  let time ← now
  require (!instantPassed lease.expiresAt time)
    (.asset .leaseInvalid "The Asset Lease has expired" true)
  return lease

/-- The claim columns name the caller. -/
def isClaimedBy (row : AssetSourceRow) (input : AssetLeaseInput) : Bool :=
  row.claimJobId == some input.jobId && row.claimedBy == some input.ownerId &&
    row.fencingGeneration == input.fencingGeneration

/-- `assertClaim(input)`. -/
def assertClaim (input : AssetLeaseInput) : AssetM AssetSourceRow := do
  let _ ← assertLease env input
  let row ← requireSourceRow input.projectId input.runId input.assetSourceId
  require (isClaimedBy row input)
    (assetError .staleGeneration "The Asset source is owned by a newer or different worker")
  return row

/-- The columns that `ensureAssetSource` inserts, over the defaults of the others. -/
def newSourceRow (input : AssetSourceInput) (identity : AssetIdentityInput)
    (assetSourceId sourceRelativePath : String) (createdAt updatedAt : Timestamp) : AssetSourceRow where
  assetSourceId := assetSourceId
  projectId := input.projectId
  runId := input.runId
  projectRevisionId := input.projectRevisionId
  pageJobId := input.pageJobId
  originalUrl := identity.originalUrl
  normalizedUrl := identity.normalizedUrl
  identityHash := identity.identityHash
  assetType := input.assetType
  sourceRelativePath := sourceRelativePath
  state := .pending
  statusCode := none
  contentType := none
  byteLength := none
  sha256 := none
  storageRelativePath := none
  etag := none
  lastModified := none
  validator := none
  expectedBytes := none
  resumeOffset := 0
  partialRelativePath := none
  redirectChain := []
  claimJobId := none
  claimedBy := none
  fencingGeneration := 0
  errorCode := none
  createdAt := createdAt
  updatedAt := updatedAt
  completedAt := none
  contentId := none

/-- `/^[a-z0-9][a-z0-9._:-]*$/i.test(relationKind)`. -/
def isRelationKind (relationKind : String) : Bool :=
  match relationKind.toList with
  | [] => false
  | c :: cs => c.isAlphanum && cs.all fun c => c.isAlphanum || c == '.' || c == '_' || c == ':' || c == '-'

/-- The row of a run with this URL. -/
def sourceOfUrl (assets : AssetDb) (projectId runId normalizedUrl : String) : Option AssetSourceRow :=
  assets.assetSources.find fun row =>
    row.projectId == projectId && row.runId == runId && row.normalizedUrl == normalizedUrl

/-- The id of the source with the URL of the input, which is inserted unless it is there. -/
def findOrInsertSource (input : AssetSourceInput) (identity : AssetIdentityInput)
    (sourceRelativePath : String) : AssetM String := do
  let assets ← tables
  match sourceOfUrl assets input.projectId input.runId identity.normalizedUrl with
  | none =>
    let assetSourceId ← freshId
    let createdAt ← now
    let updatedAt ← now
    let inserted ← insertSource (newSourceRow input identity assetSourceId sourceRelativePath createdAt updatedAt)
    if inserted then return assetSourceId
    let assets ← tables
    let raced ← orThrow (sourceOfUrl assets input.projectId input.runId identity.normalizedUrl)
      (.error "UNIQUE constraint failed")
    return raced.assetSourceId
  | some existing =>
    let current ← requireSourceRow input.projectId input.runId existing.assetSourceId
    require (current.identityHash == identity.identityHash && current.assetType == input.assetType)
      (assetError .contentConflict "The normalized Asset URL has conflicting identity metadata")
    return existing.assetSourceId

/-- `ensureAssetSource(input)`. -/
def ensureAssetSource (input : AssetSourceInput) : AssetM AssetSource := do
  let identity ← check (canonicalAssetIdentity env input.identity)
  check (assertAssetText input.relationKind "The Asset relation kind" 120)
  require (isRelationKind input.relationKind) (invalidAsset "The Asset relation kind is invalid")
  transaction do
    requireProjectRun input.projectId input.runId
    requirePageJob input.projectId input.runId input.pageJobId input.projectRevisionId
    let sourceRelativePath ← check (canonicalAssetSourcePath env input.assetType identity.identityHash)
    let assetSourceId ← findOrInsertSource input identity sourceRelativePath
    let createdAt ← now
    insertRelation { projectId := input.projectId, runId := input.runId, pageJobId := input.pageJobId
                     assetSourceId, relationKind := input.relationKind, createdAt }
    readSource input.projectId input.runId assetSourceId

/-- The lease of the job that another claim names is still running. -/
def assertNotInProgress (row : AssetSourceRow) : AssetM Unit := do
  match row.state, row.claimJobId with
  | .downloading, some claimJobId =>
    let db ← database
    match db.jobLeases.find fun l => l.jobId == claimJobId && l.status == .active with
    | none => return
    | some active =>
      let time ← now
      -- `Date.parse(expires_at) > Date.parse(now())`, which `NaN` fails
      let running := match instantOf active.expiresAt, instantOf time with
        | some expiry, some time => decide (time < expiry)
        | _, _ => false
      require (!running)
        (.asset .alreadyInProgress "Another active worker owns this Asset source" true)
  | _, _ => return

/-- `beginAssetDownload(input)`. -/
def beginAssetDownload (input : AssetLeaseInput) : AssetM AssetSource :=
  transaction do
    let currentRow ← requireSourceRow input.projectId input.runId input.assetSourceId
    let assets ← tables
    if currentRow.state = .completed then return rowToSource assets.assetContents currentRow
    if currentRow.state = .downloading ∧ isClaimedBy currentRow input then
      return rowToSource assets.assetContents currentRow
    let _ ← assertLease env input
    assertNotInProgress currentRow
    let partialRelativePath ← check (canonicalAssetPartialPath env input.assetSourceId input.fencingGeneration)
    let updatedAt ← now
    updateSources (isSource input.projectId input.runId input.assetSourceId) fun row =>
      { row with state := .downloading, claimJobId := some input.jobId, claimedBy := some input.ownerId
                 fencingGeneration := input.fencingGeneration
                 partialRelativePath := some partialRelativePath, errorCode := none, updatedAt }
    readSource input.projectId input.runId input.assetSourceId

/-- `saveAssetProgress(input)`. -/
def saveAssetProgress (input : SaveProgressInput) : AssetM AssetSource :=
  transaction do
    let _ ← assertClaim env input.toAssetLeaseInput
    let partialPath ← check (canonicalAssetPartialPath env input.assetSourceId input.fencingGeneration)
    require (partialPath == input.partialRelativePath && isSafeInteger input.bytesWritten &&
        0 ≤ input.bytesWritten && isSafeInteger input.resumeOffset && 0 ≤ input.resumeOffset &&
        input.resumeOffset ≤ input.bytesWritten && input.expectedBytes.all (input.bytesWritten ≤ ·))
      (invalidAsset "The Asset progress checkpoint is invalid")
    let validator ← check (normalizeAssetValidator (some input.validator))
    let etag ← check (normalizeAssetValidator input.etag)
    let lastModified ← check (normalizeAssetValidator input.lastModified)
    let updatedAt ← now
    updateSources (isSource input.projectId input.runId input.assetSourceId) fun row =>
      { row with resumeOffset := input.resumeOffset, expectedBytes := input.expectedBytes
                 validator, etag, lastModified, updatedAt }
    readSource input.projectId input.runId input.assetSourceId

/-- The content with this hash. -/
def contentOf (assets : AssetDb) (projectId sha256 : String) : Option AssetContent :=
  assets.assetContents.find fun c => c.projectId == projectId && c.sha256 == sha256

/-- The content of a finished download, which is inserted unless its hash is there, and
whether it was there. -/
def findOrInsertContent (input : FinalizeInput) (storageRelativePath : String) (contentType : Option String) :
    AssetM (AssetContent × Bool) := do
  let assets ← tables
  match contentOf assets input.projectId input.sha256 with
  | none =>
    let contentId ← freshId
    let createdAt ← now
    let _ ← insertContent
      { contentId, projectId := input.projectId, sha256 := input.sha256, byteLength := input.byteLength
        storageRelativePath, contentType, createdAt, verifiedAt := some input.completedAt }
    let assets ← tables
    let content ← orThrow (contentOf assets input.projectId input.sha256)
      (.asset .contentConflict "The Asset content object could not be persisted" true)
    return (content, content.contentId != contentId)
  | some content =>
    require (content.byteLength == input.byteLength && content.storageRelativePath == storageRelativePath)
      (assetError .contentConflict
        "The persisted Asset content identity conflicts with the downloaded bytes")
    return (content, true)

/-- `finalizeAssetDownload(input)`. -/
def finalizeAssetDownload (input : FinalizeInput) : AssetM (AssetSource × AssetContent × Bool) :=
  transaction do
    let _ ← assertClaim env input.toAssetLeaseInput
    let finalUrl ← check (canonicalAssetRedirectUrl env input.finalUrl)
    check (validateAssetRedirectLimit input.redirectChain.length)
    let redirectChain ← check (input.redirectChain.mapM (canonicalAssetRedirectUrl env))
    let storageRelativePath ← check (canonicalAssetContentPath env input.sha256)
    let contentType ← check (normalizeAssetContentType env (some input.contentType))
    require (isSafeInteger input.byteLength && 0 ≤ input.byteLength && isSha256Text input.sha256)
      (invalidAsset "The Asset finalization metadata is invalid")
    let (content, deduplicated) ← findOrInsertContent input storageRelativePath contentType
    updateSources (isSource input.projectId input.runId input.assetSourceId) fun row =>
      { row with state := .completed, statusCode := some input.statusCode, contentType
                 byteLength := some input.byteLength, sha256 := some input.sha256
                 contentId := some content.contentId, storageRelativePath := some storageRelativePath
                 redirectChain := finalUrl :: redirectChain, resumeOffset := input.byteLength
                 partialRelativePath := none, claimJobId := none, claimedBy := none, errorCode := none
                 updatedAt := input.completedAt, completedAt := some input.completedAt }
    let source ← readSource input.projectId input.runId input.assetSourceId
    return (source, content, deduplicated)

/-- `markAssetInterrupted(input)`. -/
def markAssetInterrupted (input : InterruptInput) : AssetM AssetSource :=
  transaction do
    let _ ← assertClaim env input.toAssetLeaseInput
    check (assertAssetText input.errorCode "The Asset error code" 120)
    let updatedAt ← now
    updateSources (isSource input.projectId input.runId input.assetSourceId) fun row =>
      { row with state := .interrupted, errorCode := some input.errorCode, claimJobId := none
                 claimedBy := none, updatedAt }
    readSource input.projectId input.runId input.assetSourceId

end Assets

end OfflineWebArchiver
