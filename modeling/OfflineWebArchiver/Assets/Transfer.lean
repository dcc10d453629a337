import OfflineWebArchiver.Assets.Download
import OfflineWebArchiver.Scheduler.Budget

/-!
# The proxy of a download

`assertProxyAffinity`: before the downloader touches anything it checks that the reservation
of its worker has the proxy that the job asks for.
-/

namespace OfflineWebArchiver.Assets

open Scheduler

/-- `throw new AssetOperationError("ASSET_NETWORK_FAILED", message)`. -/
structure AffinityError where
  message : String
  deriving DecidableEq

/-- `assertProxyAffinity(reservation)`. -/
def assertProxyAffinity (reservation : WorkerReservation) : Except AffinityError Unit :=
  let requestedProxy := (reservation.job.session.bind (·.proxyId)).or reservation.job.proxyId
  let selectedProxy := reservation.proxy.map (·.id)
  if requestedProxy ≠ selectedProxy then
    .error ⟨"The Scheduler Proxy affinity was not preserved"⟩
  else if reservation.job.session.any (·.proxyId != selectedProxy) then
    .error ⟨"The authenticated Session Proxy affinity was not preserved"⟩
  else .ok ()

end OfflineWebArchiver.Assets

/-!
## The transfer of an asset

`downloadAsset` as a procedure. What it calls (the network, its budget, the repository, the file
store) are the ports, on a state `W` of everything outside; any call may throw, or never answer.

* `handleResponse`: the body of the second `try` of the loop.
* `transferRound`: one round of the loop; it goes on with the variables or ends.
* `downloadAsset`: the whole call, with `transferRounds` as a bound for the loop.
-/

namespace OfflineWebArchiver.Assets

open Procedure Checks

structure AssetUrlAuthorization where
  allowed : Bool
  reasonCode : Option String

structure AssetNetworkRequest where
  url : String
  headers : List (String × String)
  proxyId : Option String
  sessionId : Option String

/-- What the recovery is told of a partial file. -/
structure ArtifactCheckpoint where
  artifactKey : String
  relativePath : String
  bytesWritten : ℤ
  expectedBytes : Option ℤ
  sha256 : Option String
  validator : Option String
  resumeOffset : ℤ
  committed : Bool
  operationId : String

/-- The lease of the page job. -/
structure DownloadLease where
  projectId : String
  runId : String
  jobId : String
  leaseToken : String
  fencingGeneration : ℕ
  ownerId : String

/-- `{ ...input.lease, assetSourceId }`. -/
def DownloadLease.source (lease : DownloadLease) (assetSourceId : String) : AssetLeaseInput :=
  { projectId := lease.projectId, runId := lease.runId, jobId := lease.jobId, leaseToken := lease.leaseToken
    fencingGeneration := lease.fencingGeneration, ownerId := lease.ownerId, assetSourceId }

/-- `AssetDownloadInput`, without its ports. -/
structure AssetDownloadInput where
  asset : AssetSourceInput
  lease : DownloadLease
  reservation : Scheduler.WorkerReservation
  /-- `recovery !== undefined` -/
  recovery : Bool
  maximumBytes : Option ℤ
  checkpointIntervalBytes : Option ℤ
  operationId : String

/-- The ports of a download, on the state of everything outside. -/
structure DownloadPorts (W : Type) where
  /-- `signal?.aborted` -/
  aborted : W → Bool
  /-- `now()` -/
  now : W → Timestamp
  authorizeUrl : String → Procedure W DownloadThrown AssetUrlAuthorization
  /-- `networkBudget.acquire({ origin, signal })`; a permit is named by a number. -/
  acquire : String → Procedure W DownloadThrown ℕ
  /-- `permit.release()` -/
  release : ℕ → W → W
  request : AssetNetworkRequest → Procedure W DownloadThrown AssetNetworkResponse
  observeResponse : Scheduler.OriginResponseObservation → Procedure W DownloadThrown Unit
  /-- The wait for the next chunk of a body, or for its end. -/
  nextChunk : Procedure W DownloadThrown Unit
  /-- `return()` of a body that is left before its end. -/
  cancelBody : Procedure W DownloadThrown Unit
  heartbeat : Procedure W DownloadThrown Unit
  saveArtifactCheckpoint : ArtifactCheckpoint → Procedure W DownloadThrown Unit
  saveCompletedOutputs : String → ℤ → String → Procedure W DownloadThrown Unit
  ensureAssetSource : AssetSourceInput → Procedure W DownloadThrown AssetSource
  beginAssetDownload : AssetLeaseInput → Procedure W DownloadThrown AssetSource
  saveAssetProgress : SaveProgressInput → Procedure W DownloadThrown Unit
  assertAssetFinalizationOwnership : AssetLeaseInput → Procedure W DownloadThrown Unit
  getAssetContent : String → String → Procedure W DownloadThrown (Option AssetContent)
  finalizeAssetDownload : FinalizeInput → Procedure W DownloadThrown (AssetSource × AssetContent × Bool)
  markAssetInterrupted : InterruptInput → Procedure W DownloadThrown Unit
  /-- `hashFile(fileStore, projectRoot, relativePath, maximumBytes)`: the hash and the length. -/
  hashFile : String → ℤ → Procedure W DownloadThrown (String × ℤ)
  /-- `preparePartial`: the length of the partial file. -/
  preparePartial : String → Option String → ℤ → Procedure W DownloadThrown ℤ
  /-- `stat(...) !== null` -/
  exists_ : String → Procedure W DownloadThrown Bool
  openFile : String → Procedure W DownloadThrown Unit
  truncate : ℤ → Procedure W DownloadThrown Unit
  write : Chunk → ℤ → ℤ → ℤ → Procedure W DownloadThrown ℤ
  sync : Procedure W DownloadThrown Unit
  close : Procedure W DownloadThrown Unit
  promote : String → String → Procedure W DownloadThrown Unit
  remove : String → Procedure W DownloadThrown Unit
  acquireContentLock : String → Procedure W DownloadThrown Unit
  releaseContentLock : Procedure W DownloadThrown Unit

variable {W : Type} (env : DownloadEnv) (input : AssetDownloadInput) (ports : DownloadPorts W)

/-! ### The file -/

/-- `openFile`, `truncate(0)` and `close`. -/
def truncatePartial (relativePath : String) : Procedure W DownloadThrown Unit := do
  ports.openFile relativePath
  ports.truncate 0
  ports.close

/-- The loop of `writeChunk`. A round accepts a byte at least, so `n` rounds are enough for `n` bytes. -/
def writeRest (bytes : Chunk) (filePosition : ℤ) : ℕ → ℤ → Procedure W DownloadThrown ℤ
  | 0, bufferOffset => pure bufferOffset
  | n + 1, bufferOffset =>
    if bufferOffset < bytes.length then do
      let written ← ports.write bytes bufferOffset (bytes.length - bufferOffset) (filePosition + bufferOffset)
      raiseIf (failedRetryable .networkFailed "The Asset partial file did not accept bytes") (written ≤ 0)
      writeRest bytes filePosition n (bufferOffset + written)
    else pure bufferOffset

/-- `writeChunk(handle, bytes, filePosition)`. -/
def writeChunk (bytes : Chunk) (filePosition : ℤ) : Procedure W DownloadThrown ℤ :=
  writeRest ports bytes filePosition bytes.length 0

/-- `checkpoint(...)`. -/
def checkpoint (assetSourceId : String) (c : ArtifactCheckpoint) : Procedure W DownloadThrown Unit :=
  if input.recovery then
    ports.saveArtifactCheckpoint { c with
      artifactKey := "asset:" ++ assetSourceId
      operationId := input.operationId ++ ":" ++ assetSourceId ++ ":" ++ toString c.resumeOffset ++ ":" ++
        (if c.committed then "committed" else "progress") }
  else pure ()

/-- What a transfer works on: the source that is claimed and its partial file. -/
structure TransferTarget where
  assetSourceId : String
  partialRelativePath : String
  maximumBytes : ℤ
  checkpointInterval : ℤ

variable (target : TransferTarget)

/-- The input of `saveAssetProgress`. -/
def progressInput (st : TransferState) (written : ℤ) : SaveProgressInput :=
  { input.lease.source target.assetSourceId with
    partialRelativePath := target.partialRelativePath, bytesWritten := written, expectedBytes := st.expectedBytes
    validator := st.validator, etag := some st.etag, lastModified := some st.lastModified, resumeOffset := written }

/-- `saveAssetProgress` and `checkpoint` of an unfinished file. -/
def saveProgress (st : TransferState) (written : ℤ) : Procedure W DownloadThrown Unit := do
  ports.saveAssetProgress (progressInput input target st written)
  checkpoint input ports target.assetSourceId
    { artifactKey := "", relativePath := target.partialRelativePath, bytesWritten := written
      expectedBytes := st.expectedBytes, sha256 := none, validator := st.validator, resumeOffset := written
      committed := false, operationId := "" }

/-! ### The body -/

def cancelled : DownloadThrown := failed .cancelled "The Asset operation was cancelled"

/-- `if (signal?.aborted) throw`. -/
def throwIfAborted : Procedure W DownloadThrown Unit := do
  let w ← Procedure.read
  raiseIf cancelled (ports.aborted w = true)

/-- `drain(body)`. -/
def drain (ending : Result DownloadThrown Unit) : List Chunk → Procedure W DownloadThrown Unit
  | [] => do
    ports.nextChunk
    ofResult ending
  | _ :: chunks => do
    ports.nextChunk
    drain ending chunks

/-- What the loop over the body does with a chunk: how much is written, and at how much the last
checkpoint was. -/
def storeChunk (st : TransferState) (chunk : Chunk) (written checkpointAt : ℤ) :
    Procedure W DownloadThrown (ℤ × ℤ) := do
  throwIfAborted ports
  raiseIf (failed .sizeMismatch "The Asset response exceeded its declared size")
    (target.maximumBytes < written + chunk.length ∨ st.expectedBytes.any (· < written + chunk.length))
  let count ← writeChunk ports chunk written
  if target.checkpointInterval ≤ written + count - checkpointAt then do
    ports.sync
    saveProgress input ports target st (written + count)
    ports.heartbeat
    pure (written + count, written + count)
  else pure (written + count, checkpointAt)

/-- `for await (const rawChunk of response.body)`. A chunk that fails leaves the body, and what
`return()` then throws is dropped. -/
def storeBody (st : TransferState) (ending : Result DownloadThrown Unit) :
    List Chunk → ℤ → ℤ → Procedure W DownloadThrown (ℤ × ℤ)
  | [], written, checkpointAt => do
    ports.nextChunk
    ofResult ending
    return (written, checkpointAt)
  | chunk :: chunks, written, checkpointAt => do
    ports.nextChunk
    let (written, checkpointAt) ← catching (storeChunk input ports target st chunk written checkpointAt) fun e => do
      catching ports.cancelBody fun _ => pure ()
      raise e
    storeBody st ending chunks written checkpointAt

/-! ### A response -/

/-- What `new URL` throws. -/
def invalidUrl : DownloadThrown := .error "Invalid URL"

/-- The branch of a redirect. -/
def followRedirect (st : TransferState) (permit : ℕ) (response : AssetNetworkResponse) :
    Procedure W DownloadThrown TransferState := do
  drain ports response.ending response.chunks
  match header env response.headers "location" with
  | none => raise (failed .redirectBlocked "The Asset redirect did not provide a Location")
  | some location =>
    raiseIf (failed (.repository .redirectLimit) "The Asset redirect chain exceeded its bounded limit")
      (20 ≤ st.redirectChain.length)
    let resolved ← orRaise (env.resolveUrl location st.finalUrl) invalidUrl
    let nextUrl ← check (ofAsset (safeUrl env.toAssetEnv resolved))
    let nextAuthorization ← ports.authorizeUrl nextUrl
    raiseIf (failed .redirectBlocked
      (nextAuthorization.reasonCode.getD "The Asset redirect target is not authorized"))
      (nextAuthorization.allowed = false)
    Procedure.modify (ports.release permit)
    return { st with redirectChain := st.redirectChain ++ [st.finalUrl], finalUrl := nextUrl }

/-- `restarted = true; offset = 0`, and the truncated file. -/
def restart (st : TransferState) : Procedure W DownloadThrown TransferState := do
  truncatePartial ports target.partialRelativePath
  return { st with restarted := true, offset := 0 }

/-- The branch of a `416`. -/
def rejectedRange (st : TransferState) (permit : ℕ) (response : AssetNetworkResponse) :
    Procedure W DownloadThrown TransferState := do
  drain ports response.ending response.chunks
  raiseIf (failedRetryable .rangeInvalid "The Asset server rejected the bounded Range request")
    (st.offset = 0 ∨ st.restarted = true)
  let st ← restart ports target st
  Procedure.modify (ports.release permit)
  return st

/-- From the opened file to the end of the loop. -/
def receiveBody (st : TransferState) (response : AssetNetworkResponse) : Procedure W DownloadThrown TransferState := do
  ports.openFile target.partialRelativePath
  ports.truncate st.offset
  let (written, checkpointAt) ← ensuring (do
    let stored ← storeBody input ports target st response.ending response.chunks st.offset st.checkpointAt
    ports.sync
    return stored) ports.close
  raiseIf (failedRetryable .sizeMismatch ("The Asset size " ++ toString written ++ " did not match the expected " ++
    toString (st.expectedBytes.getD 0))) (st.expectedBytes.any (written ≠ ·) = true)
  saveProgress input ports target st written
  return { st with offset := written, statusCode := response.status, checkpointAt }

/-- From the `Content-Length` to the end of the loop. -/
def storeResponse (st : TransferState) (response : AssetNetworkResponse) (m : ResponseMetadata) :
    Procedure W DownloadThrown TransferState := do
  have st := { st with expectedBytes := declaredBytes st.offset st.expectedBytes response.status m }
  raiseIf (failed .maximumSizeExceeded "The Asset response exceeds the configured maximum size")
    (st.expectedBytes.any (target.maximumBytes < ·) = true)
  receiveBody input ports target (st.received m) response

/-- The branch of a successful response. -/
def handleSuccess (st : TransferState) (permit : ℕ) (response : AssetNetworkResponse) :
    Procedure W DownloadThrown (TransferState ⊕ TransferState) := do
  let m ← check (readHeaders env response)
  let st := { st with contentType := m.contentType }
  let decision ← check (decideRange st response.status m)
  match decision with
  | .again => do
    let st ← restart ports target st
    Procedure.modify (ports.release permit)
    return .inl st
  | .ignored => do
    let st ← restart ports target st
    let st ← storeResponse input ports target { st with expectedBytes := none } response m
    return .inr st
  | .follows expectedBytes => do
    let st ← storeResponse input ports target { st with expectedBytes } response m
    return .inr st

/-- The body of the second `try`: the loop goes on with the variables or ends with them. -/
def handleResponse (st : TransferState) (permit : ℕ) (response : AssetNetworkResponse) :
    Procedure W DownloadThrown (TransferState ⊕ TransferState) :=
  if isAssetRedirectStatus response.status then Sum.inl <$> followRedirect env ports st permit response
  else if response.status = 416 then Sum.inl <$> rejectedRange ports target st permit response
  else if response.status < 200 ∨ 300 ≤ response.status then do
    drain ports response.ending response.chunks
    raise (.asset .networkFailed ("The Asset server returned HTTP " ++ toString response.status)
      (response.status == 429 || response.status == 503))
  else handleSuccess env input ports target st permit response

/-! ### The loop -/

/-- `requestHeaders`. -/
def requestHeaders (st : TransferState) : List (String × String) :=
  if 0 < st.offset then
    ("Range", "bytes=" ++ toString st.offset ++ "-") :: (st.validator.map fun v => ("If-Range", v)).toList
  else []

/-- `network.request` and `observeResponse`, in the first `try`. -/
def sendRequest (st : TransferState) (origin : String) (permit : ℕ) :
    Procedure W DownloadThrown AssetNetworkResponse :=
  catching (do
    let response ← ports.request
      { url := st.finalUrl, headers := requestHeaders st, proxyId := input.reservation.proxy.map (·.id)
        sessionId := input.reservation.job.session.map (·.sessionId) }
    ports.observeResponse ⟨origin, response.status, header env response.headers "retry-after"⟩
    return response) fun e => do
    Procedure.modify (ports.release permit)
    throwIfAborted ports
    raise (failedRetryable .networkFailed (e.message "The Asset request failed"))

/-- `catch (error)` of the second `try`. -/
def streamFailure : DownloadThrown → DownloadThrown
  | .asset code message retryable => .asset code message retryable
  | e => failedRetryable .networkFailed (e.message "The Asset response stream failed")

/-- One round of the loop. -/
def transferRound (st : TransferState) : Procedure W DownloadThrown (TransferState ⊕ TransferState) := do
  throwIfAborted ports
  let authorization ← ports.authorizeUrl st.finalUrl
  raiseIf (failed .scopeBlocked (authorization.reasonCode.getD "The Asset URL is not authorized"))
    (authorization.allowed = false)
  let origin ← orRaise (env.originOf st.finalUrl) invalidUrl
  let permit ← ports.acquire origin
  let response ← sendRequest env input ports st origin permit
  ensuring (catching (handleResponse env input ports target st permit response) fun e => raise (streamFailure e))
    (Procedure.modify (ports.release permit))

/-- The loop, with a bound on its rounds. -/
def transfer (transferRounds : ℕ) (st : TransferState) : Procedure W DownloadThrown TransferState :=
  rounds (transferRound env input ports target) transferRounds st

/-! ### The call -/

/-- `safeInteger(value ?? otherwise, label, 1)`. -/
def positiveInteger (value : Option ℤ) (otherwise : ℤ) (label : String) : Except DownloadThrown ℤ :=
  let value := value.getD otherwise
  if !isSafeInteger value || value < 1 then .error (failed (.repository .inputInvalid) (label ++ " is invalid"))
  else .ok value

/-- The checks before the first call of the repository. -/
def checkInput : Except DownloadThrown Unit := do
  failIf (failed (.repository .leaseInvalid) "The Asset descriptor and Lease do not belong to the same Page Job")
    (input.lease.projectId ≠ input.asset.projectId ∨ input.lease.runId ≠ input.asset.runId ∨
      input.lease.jobId ≠ input.asset.pageJobId)
  (assertProxyAffinity input.reservation).mapError fun e => failed .networkFailed e.message
  match env.originOf input.asset.identity.normalizedUrl with
  | none => .error invalidUrl
  | some initialOrigin =>
    failIf (failed .networkFailed "The Asset request origin does not match the Scheduler reservation")
      (input.reservation.origin ≠ initialOrigin)

/-- `source.partialRelativePath ?? canonicalAssetPartialPath(...)`. -/
def partialPathOf (source : AssetSource) : Except DownloadThrown String :=
  match source.partialRelativePath with
  | some path => .ok path
  | none => ofAsset (canonicalAssetPartialPath env.toAssetEnv source.assetSourceId source.fencingGeneration)

/-- `ensurePartialFile(fileStore, projectRoot, source, previous)`. -/
def ensurePartialFile (source previous : AssetSource) : Procedure W DownloadThrown (String × ℤ) := do
  let relativePath ← check (partialPathOf env source)
  let byteLength ← ports.preparePartial relativePath previous.partialRelativePath previous.resumeOffset
  return (relativePath, byteLength)

/-- The variables of the loop at its start. -/
def TransferState.start (claimed : AssetSource) (offset : ℤ) : TransferState where
  offset := offset
  expectedBytes := claimed.expectedBytes
  validator := claimed.validator
  etag := claimed.etag
  lastModified := claimed.lastModified
  contentType := none
  finalUrl := claimed.normalizedUrl
  redirectChain := []
  statusCode := 200
  restarted := false
  checkpointAt := offset

/-- What a download of a claimed source resumes from its partial file of `localBytes`. -/
def resumeInput (claimed : AssetSource) (localBytes : ℤ) : ResumeInput where
  localBytes := if localBytes < claimed.resumeOffset then 0 else localBytes
  durableBytes := if localBytes < claimed.resumeOffset then 0 else claimed.resumeOffset
  expectedBytes := claimed.expectedBytes
  rangeSupported := true
  storedValidator := claimed.validator
  remoteValidator := claimed.validator
  storedSha256 := claimed.sha256
  actualSha256 := none

/-- The bytes that are not resumed. -/
def discardPartial (relativePath : String) (localBytes : ℤ) : Procedure W DownloadThrown Unit :=
  if localBytes ≠ 0 then truncatePartial ports relativePath else pure ()

/-- From `beginAssetDownload` to the loop: the source, the partial file and the variables. -/
def prepareTransfer (before : AssetSource) : Procedure W DownloadThrown (AssetSource × String × TransferState) := do
  let claimed ← ports.beginAssetDownload (input.lease.source before.assetSourceId)
  let (relativePath, byteLength) ← ensurePartialFile env ports claimed before
  let decided ← check (decideAssetResume (resumeInput claimed byteLength))
  if decided.1 = .resume then pure (claimed, relativePath, .start claimed decided.2.2)
  else do
    discardPartial ports relativePath (resumeInput claimed byteLength).localBytes
    pure (claimed, relativePath, .start claimed 0)

/-- The content path holds the bytes of the hash, or is free. -/
def contentPresent (contentPath : String) (maximumBytes : ℤ) (hashed : String × ℤ) : Procedure W DownloadThrown Bool := do
  let exists_ ← ports.exists_ contentPath
  if exists_ then do
    let existing ← ports.hashFile contentPath maximumBytes
    raiseIf (failed (.repository .contentConflict) "The Asset content path already contains different bytes")
      (existing ≠ hashed)
    pure true
  else pure false

/-- The partial file becomes the content, or is one copy too many. -/
def placePartial (contentPath : String) (finalExists : Bool) : Procedure W DownloadThrown Unit :=
  if finalExists then ports.remove target.partialRelativePath
  else ports.promote target.partialRelativePath contentPath

/-- `input.recovery.saveCompletedOutputs`. -/
def saveOutputs (contentPath : String) (hashed : String × ℤ) : Procedure W DownloadThrown Unit :=
  if input.recovery then ports.saveCompletedOutputs contentPath hashed.2 hashed.1 else pure ()

/-- What `withContentLock` runs. -/
def finalizeTransfer (st : TransferState) (hashed : String × ℤ) (contentPath : String) :
    Procedure W DownloadThrown (AssetSource × AssetContent × Bool) := do
  let known ← ports.getAssetContent input.lease.projectId hashed.1
  raiseIf (failed (.repository .contentConflict)
    "The Asset content path conflicts with the persisted content identity")
    (known.any (·.storageRelativePath != contentPath) = true)
  let finalExists ← contentPresent ports contentPath target.maximumBytes hashed
  placePartial ports target contentPath finalExists
  let w ← Procedure.read
  let contentResult ← ports.finalizeAssetDownload
    { input.lease.source target.assetSourceId with
      statusCode := st.statusCode, finalUrl := st.finalUrl, redirectChain := st.redirectChain
      contentType := st.contentType, byteLength := hashed.2, sha256 := hashed.1, completedAt := ports.now w }
  checkpoint input ports contentResult.1.assetSourceId
    { artifactKey := "", relativePath := contentPath, bytesWritten := hashed.2, expectedBytes := some hashed.2
      sha256 := some hashed.1, validator := st.validator, resumeOffset := hashed.2, committed := true, operationId := "" }
  saveOutputs input ports contentPath hashed
  return contentResult

/-- From the loop to the result. -/
def completeTransfer (st : TransferState) : Procedure W DownloadThrown AssetDownloadResult := do
  raiseIf (failed .sizeMismatch "The Asset final size is not complete") (st.expectedBytes.any (st.offset ≠ ·) = true)
  let hashed ← ports.hashFile target.partialRelativePath target.maximumBytes
  let contentPath ← check (ofAsset (canonicalAssetContentPath env.toAssetEnv hashed.1))
  ports.assertAssetFinalizationOwnership (input.lease.source target.assetSourceId)
  ports.acquireContentLock hashed.1
  let (source, content, deduplicated) ←
    ensuring (finalizeTransfer input ports target st hashed contentPath) ports.releaseContentLock
  return { source, content, reused := false, deduplicated, finalUrl := st.finalUrl
           redirectChain := st.redirectChain, byteLength := hashed.2 }

/-- `downloadAssetInternal(input)`. -/
def downloadAssetInternal (transferRounds : ℕ) : Procedure W DownloadThrown AssetDownloadResult := do
  let maximumBytes ← check (positiveInteger input.maximumBytes 536870912 "The Asset maximum size")
  let checkpointInterval ← check (positiveInteger input.checkpointIntervalBytes 1048576 "The Asset checkpoint interval")
  check (checkInput env input)
  let before ← ports.ensureAssetSource input.asset
  match before.finished with
  | some (content, storageRelativePath) => do
    let stored ← ports.hashFile storageRelativePath maximumBytes
    check (ofAsset (reuseAsset before content stored))
  | none => do
    let (claimed, partialRelativePath, st) ← prepareTransfer env input ports before
    let target : TransferTarget :=
      { assetSourceId := claimed.assetSourceId, partialRelativePath, maximumBytes, checkpointInterval }
    let st ← transfer env input ports target transferRounds st
    completeTransfer env input ports target st

/-- `errorCode` of an interruption, as its text. -/
def DownloadErrorCode.text : DownloadErrorCode → String
  | .repository .inputInvalid => "ASSET_INPUT_INVALID"
  | .repository .redirectLimit => "ASSET_REDIRECT_LIMIT"
  | .repository .pathUnsafe => "ASSET_PATH_UNSAFE"
  | .repository .contentConflict => "ASSET_CONTENT_CONFLICT"
  | .repository .alreadyInProgress => "ASSET_ALREADY_IN_PROGRESS"
  | .repository .notFound => "ASSET_NOT_FOUND"
  | .repository .leaseInvalid => "ASSET_LEASE_INVALID"
  | .repository .staleGeneration => "ASSET_STALE_GENERATION"
  | .repository .persistenceFailed => "ASSET_PERSISTENCE_FAILED"
  | .scopeBlocked => "ASSET_SCOPE_BLOCKED"
  | .redirectBlocked => "ASSET_REDIRECT_BLOCKED"
  | .rangeInvalid => "ASSET_RANGE_INVALID"
  | .validatorChanged => "ASSET_VALIDATOR_CHANGED"
  | .sizeMismatch => "ASSET_SIZE_MISMATCH"
  | .networkFailed => "ASSET_NETWORK_FAILED"
  | .cancelled => "ASSET_CANCELLED"
  | .maximumSizeExceeded => "ASSET_MAXIMUM_SIZE_EXCEEDED"

/-- `error instanceof AssetOperationError ? error.code : "ASSET_NETWORK_FAILED"`. -/
def DownloadThrown.errorCode : DownloadThrown → String
  | .asset code _ _ => code.text
  | _ => "ASSET_NETWORK_FAILED"

/-- The attempt to interrupt the source of a call that has failed. -/
def interruptSource (e : DownloadThrown) : Procedure W DownloadThrown Unit := do
  let source ← ports.ensureAssetSource input.asset
  if source.state = .downloading ∧ source.claimJobId = some input.lease.jobId ∧
      source.claimedBy = some input.lease.ownerId then
    ports.markAssetInterrupted { input.lease.source source.assetSourceId with errorCode := e.errorCode }
  else pure ()

/-- `downloadAsset(input)`. -/
def downloadAsset (transferRounds : ℕ) : Procedure W DownloadThrown AssetDownloadResult :=
  catching (downloadAssetInternal env input ports transferRounds) fun e => do
    catching (interruptSource input ports e) fun _ => pure ()
    match e with
    | .asset code message retryable => raise (.asset code message retryable)
    | e => raise (failedRetryable .networkFailed (e.message "The Asset download failed"))

end OfflineWebArchiver.Assets
