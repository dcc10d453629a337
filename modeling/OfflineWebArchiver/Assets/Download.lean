import OfflineWebArchiver.Assets.Calls
import OfflineWebArchiver.Lib.Procedure

/-!
# Downloading an asset

`downloadAssetInternal`, as far as it decides its result: a completed source is
answered from its row, and any other is claimed, transferred and finalized.

* `reuseAsset`: the answer from a completed source.
* `followRedirects`: the final URL and the redirect chain of a transfer.
* `Downloads`: the calls of `downloadAsset` in a run, with their results.
-/

namespace OfflineWebArchiver

open Relational Program Checks

/-- `AssetDownloadResult`. -/
structure AssetDownloadResult where
  source : AssetSource
  content : AssetContent
  reused : Bool
  deduplicated : Bool
  finalUrl : String
  redirectChain : List String
  byteLength : ℤ

/-- The content and the path of a source that is `completed` and has both. -/
def AssetSource.finished (before : AssetSource) : Option (AssetContent × String) :=
  match before.state, before.content, before.storageRelativePath with
  | .completed, some content, some storageRelativePath => some (content, storageRelativePath)
  | _, _, _ => none

/-- The answer from a completed source. `stored` is what `hashFile` makes of the file at its
path: the hash and the length. -/
def reuseAsset (before : AssetSource) (content : AssetContent) (stored : String × ℤ) :
    Except AssetThrown AssetDownloadResult := do
  failIf (assetError .contentConflict "The completed Asset does not match its persisted content hash")
    (some stored.1 ≠ before.sha256 ∨ stored.1 ≠ content.sha256 ∨ stored.2 ≠ content.byteLength)
  return { source := before, content, reused := true, deduplicated := false,
           finalUrl := before.redirectChain.head?.getD before.normalizedUrl,
           redirectChain := before.redirectChain, byteLength := stored.2 }

/-- A redirect of the transfer: `location` is the target, resolved against the URL so far. -/
def redirectTo (env : AssetEnv) (s : String × List String) (location : String) :
    Except AssetThrown (String × List String) := do
  failIf (assetError .redirectLimit "The Asset redirect chain exceeded its bounded limit")
    (20 ≤ s.2.length)
  let nextUrl ← safeUrl env location
  return (nextUrl, s.2 ++ [s.1])

/-- The `finalUrl` and the `redirectChain` after the redirects of a transfer. -/
def followRedirects (env : AssetEnv) (normalizedUrl : String) (locations : List String) :
    Except AssetThrown (String × List String) := locations.foldlM (redirectTo env) (normalizedUrl, [])

/-- What else the transfer knows when its response is read: the status, the content type,
and the hash and the length of the partial file. -/
structure Transfer where
  statusCode : ℤ
  contentType : Option String
  hashed : String × ℤ
  completedAt : Timestamp

/-- The input of the finalization. -/
def finalizeInput (lease : Assets.AssetLeaseInput) (transfer : Transfer) (finalUrl : String)
    (redirectChain : List String) : Assets.FinalizeInput :=
  { lease with
    statusCode := transfer.statusCode, finalUrl, redirectChain, contentType := transfer.contentType
    byteLength := transfer.hashed.2, sha256 := transfer.hashed.1, completedAt := transfer.completedAt }

section Runs

variable (env : AssetEnv) (s₀ : ArchiveStore) (es : List ArchiveEvent)

/-- The store and its assets after the first `n` events of a run from `s₀`. -/
def assetStoreAt (n : ℕ) : ArchiveStore := Run.stAt (archiveStep env) s₀ es n

/-- Event `n` of the run is this call, and it returns the answer. -/
def AssetAnswered (n : ℕ) (op : AssetOp) (a : AssetAnswer) : Prop :=
  ∃ e assets, es[n]? = some (.asset e) ∧ e.op = op ∧
    assetExec env (assetStoreAt env s₀ es n) e = .ok (a, assets)

/-- A call of `downloadAsset` for a descriptor. Its `ensureAssetSource` is event `m` and finds
the source `before`, its last call on the repository is event `n`, and it returns `r`. -/
inductive Downloads (input : Assets.AssetSourceInput) :
    ℕ → ℕ → AssetSource → AssetDownloadResult → Prop
  | reused {m : ℕ} {before : AssetSource} {content : AssetContent} {path : String}
      {stored : String × ℤ} {r : AssetDownloadResult}
      (hfound : AssetAnswered env s₀ es m (.ensureAssetSource input) (.source before))
      (hfinished : before.finished = some (content, path))
      (hreuse : reuseAsset before content stored = .ok r) : Downloads input m m before r
  | transferred {m k n : ℕ} {before claimed source : AssetSource} {content : AssetContent}
      {deduplicated : Bool} {lease : Assets.AssetLeaseInput} {locations : List String}
      {finalUrl : String} {redirectChain : List String} {transfer : Transfer}
      (hfound : AssetAnswered env s₀ es m (.ensureAssetSource input) (.source before))
      (hopen : before.finished = none) (hmk : m < k)
      (hclaimed : AssetAnswered env s₀ es k
        (.beginAssetDownload { lease with assetSourceId := before.assetSourceId }) (.source claimed))
      (hredirects : followRedirects env claimed.normalizedUrl locations = .ok (finalUrl, redirectChain))
      (hkn : k < n)
      (hfinal : AssetAnswered env s₀ es n
        (.finalizeAssetDownload (finalizeInput { lease with assetSourceId := claimed.assetSourceId }
          transfer finalUrl redirectChain)) (.finalized source content deduplicated)) :
      Downloads input m n before
        { source, content, reused := false, deduplicated, finalUrl, redirectChain,
          byteLength := transfer.hashed.2 }

end Runs

namespace Assets

variable {env : AssetEnv} {s : AssetCall}

/-! ### What the calls answer -/

/-- The row of the URL of a descriptor. -/
structure SourceRowOf (assets : AssetDb) (i : AssetSourceInput) (normalizedUrl : String) (row : AssetSourceRow) :
    Prop where
  mem : row ∈ assets.assetSources.rows
  project : row.projectId = i.projectId
  run : row.runId = i.runId
  url : row.normalizedUrl = normalizedUrl

theorem sourceOfUrl_some {assets : AssetDb} {i : AssetSourceInput} {normalizedUrl : String}
    {row : AssetSourceRow} (h : sourceOfUrl assets i.projectId i.runId normalizedUrl = some row) :
    SourceRowOf assets i normalizedUrl row := by
  obtain ⟨hrow, hp⟩ := Table.find_mem h
  simp only [Bool.and_eq_true, beq_iff_eq] at hp
  exact ⟨hrow, hp.1.1, hp.1.2, hp.2⟩

theorem findOrInsertSource_row {i : AssetSourceInput} {identity : AssetIdentityInput} {path : String} :
    safe (findOrInsertSource i identity path) (fun id t =>
      ∃ row, SourceRowOf t.assets i identity.normalizedUrl row ∧ row.assetSourceId = id) s := by
  unfold findOrInsertSource
  simp only [safe, wp_bind, wp_tables]
  cases hfound : sourceOfUrl s.assets i.projectId i.runId identity.normalizedUrl with
  | some row =>
    simp only [wp_bind]
    refine safe_mono requireSourceRow_spec fun current t ht => ?_
    obtain ⟨ht, -⟩ := ht
    subst t
    simp only [wp_require, wp_pure]
    exact ⟨fun _ => ⟨row, sourceOfUrl_some hfound, rfl⟩, fun _ => trivial⟩
  | none =>
    simp only [wp_bind, wp_freshId, wp_now, wp_insertSource, wp_ite, wp_pure, wp_tables, wp_orThrow]
    refine ⟨fun t ht => ⟨fun _ => ?_, fun h => absurd trivial h⟩,
      fun _ _ => ⟨fun h => absurd h Bool.false_ne_true, fun _ =>
        ⟨fun raced hraced => ⟨raced, sourceOfUrl_some hraced, rfl⟩, fun _ => trivial⟩⟩, fun _ _ => trivial⟩
    have hrows := Table.insert_rows ht
    refine ⟨newSourceRow i identity (s.ids s.drawn) path (s.clock s.ticks) (s.clock (s.ticks + 1)),
      ⟨?_, rfl, rfl, rfl⟩, rfl⟩
    show _ ∈ t.rows
    rw [hrows]
    exact List.mem_append_right _ (List.mem_singleton_self _)

/-- `ensureAssetSource` answers with the row of the canonical URL. -/
theorem ensureAssetSource_row {i : AssetSourceInput} : safe (ensureAssetSource env i) (fun a t =>
    ∃ identity row, canonicalAssetIdentity env i.identity = .ok identity ∧
      SourceRowOf t.assets i identity.normalizedUrl row ∧ a = rowToSource t.assets.assetContents row) s := by
  unfold ensureAssetSource
  simp only [safe, wp_bind, wp_check, wp_require]
  refine ⟨fun identity hidentity => ⟨fun _ _ => ⟨fun _ => ?_, fun _ => trivial⟩, fun _ _ => trivial⟩,
    fun _ _ => trivial⟩
  refine (wp_transaction _).2 ?_
  unfold requireProjectRun requirePageJob
  simp only [safe, wp_bind, wp_database, wp_require, wp_orThrow, wp_check]
  refine ⟨fun _ => ⟨fun _ _ => ⟨fun _ => ⟨fun path _ => ?_, fun _ _ => trivial⟩, fun _ => trivial⟩,
    fun _ => trivial⟩, fun _ => trivial⟩
  refine safe_mono findOrInsertSource_row fun id t ht => ?_
  obtain ⟨row, hrow, hid⟩ := ht
  simp only [wp_now, wp_insertRelation]
  unfold readSource
  refine safe_bind requireSourceRow_spec fun found u hu => ?_
  obtain ⟨rfl, hfound, hsource⟩ := hu
  simp only [safe, wp_bind, wp_tables, wp_pure]
  -- the id picks the row
  obtain rfl : found = row := source_eq hfound hrow.mem ((isSource_iff.1 hsource).2.2.trans hid.symm)
  exact ⟨identity, found, hidentity, ⟨hrow.mem, hrow.project, hrow.run, hrow.url⟩, rfl⟩

/-- **The stored chain is one longer than the chain of the transfer**: the final URL is its head. -/
theorem finalizeAssetDownload_chain {i : FinalizeInput} : safe (finalizeAssetDownload env i) (fun r _ =>
    r.1.redirectChain.length = i.redirectChain.length + 1) s := by
  unfold finalizeAssetDownload
  rw [wp_transaction]
  refine safe_bind assertClaim_spec fun row t ht => ?_
  obtain ⟨hclaimed, rfl⟩ := ht
  simp only [safe, wp_bind, wp_check, wp_require]
  refine ⟨fun finalUrl _ => ⟨fun _ _ => ⟨fun chain hchain => ⟨fun path _ => ⟨fun contentType _ => ⟨fun _ => ?_,
    fun _ => trivial⟩, fun _ _ => trivial⟩, fun _ _ => trivial⟩, fun _ _ => trivial⟩, fun _ _ => trivial⟩,
    fun _ _ => trivial⟩
  refine safe_mono findOrInsertContent_spec fun r t ht => ?_
  obtain ⟨c, deduplicated⟩ := r
  obtain ⟨-, hsources⟩ := ht
  simp only [wp_updateSources]
  refine ⟨fun t' ht' => ?_, fun _ => trivial⟩
  rw [hsources] at ht'
  have hrows := updated hclaimed.mem hclaimed.source ht'
  refine safe_mono (readSource_updated hrows (isSource_iff.1 hclaimed.source).2.2) fun a u hu => ?_
  obtain ⟨rfl, rfl⟩ := hu
  have hlength : i.redirectChain.length = chain.length := (mapM_ok.1 hchain).length_eq
  exact (congrArg (· + 1) hlength).symm

end Assets

end OfflineWebArchiver

/-!
## The responses of an asset download

The pure part of the transfer in `downloadAssetInternal`: where a download begins, and what it
makes of the status and the headers of a response.

* `decideAssetResume`: whether the bytes of an earlier download are used.
* `decideRange`: what a successful response is to a download that stands at an offset.
* `declaredBytes`: the size that the transfer expects after the headers.
-/

namespace OfflineWebArchiver.Assets

open Procedure Checks

/-- The codes of an `AssetOperationError` that a download throws. -/
inductive DownloadErrorCode
  | repository (code : AssetOperationErrorCode)
  | scopeBlocked | redirectBlocked | rangeInvalid | validatorChanged | sizeMismatch | networkFailed | cancelled
  | maximumSizeExceeded
  deriving DecidableEq

/-- What a download throws. `error` is any `Error` of another class, `other` is no `Error`. -/
inductive DownloadThrown
  | asset (code : DownloadErrorCode) (message : String) (retryable : Bool)
  | error (message : String)
  | other
  deriving DecidableEq

def AssetThrown.download : AssetThrown → DownloadThrown
  | .asset code message retryable => .asset (.repository code) message retryable
  | .error message => .error message

/-- `new AssetOperationError(code, message)`. -/
def failed (code : DownloadErrorCode) (message : String) : DownloadThrown := .asset code message false

/-- `new AssetOperationError(code, message, true)`. -/
def failedRetryable (code : DownloadErrorCode) (message : String) : DownloadThrown := .asset code message true

/-- `error instanceof Error ? error.message : otherwise`. -/
def DownloadThrown.message (otherwise : String) : DownloadThrown → String
  | .asset _ message _ => message
  | .error message => message
  | .other => otherwise

/-- A check of the repository, in a download. -/
def ofAsset {α : Type} : Except AssetThrown α → Except DownloadThrown α := Except.mapError AssetThrown.download

/-- What a download takes from outside. -/
structure DownloadEnv extends AssetEnv where
  /-- `new URL(url).origin`, or `none` where it throws. -/
  originOf : String → Option String
  /-- `new URL(location, base).toString()`, or `none` where it throws. -/
  resolveUrl : String → String → Option String
  /-- `Number(text)`, where it is an integer. -/
  integerOf : String → Option ℤ

/-- A chunk of a body. -/
abbrev Chunk := List UInt8

/-- `ResponseHeaders`. The body is its chunks and what comes after the last of them. -/
structure AssetNetworkResponse where
  status : ℤ
  headers : List (String × String)
  chunks : List Chunk
  ending : Result DownloadThrown Unit

/-- `header(headers, name)` of a name in lower case. -/
def header (env : DownloadEnv) (headers : List (String × String)) (name : String) : Option String :=
  (headers.find? fun entry => env.unicode.lower entry.1.toList == name.toList).map (·.2)

/-- `isAssetRedirectStatus(status)`. -/
def isAssetRedirectStatus (status : ℤ) : Bool := [301, 302, 303, 307, 308].contains status

structure AssetContentRange where
  start : ℤ
  last : ℤ
  total : Option ℤ
  deriving DecidableEq

/-- The number that a list of digits writes. -/
def decimalValue (digits : List Char) : ℤ :=
  digits.foldl (fun (n : ℤ) c => 10 * n + (c.toNat - '0'.toNat : ℕ)) 0

/-- The text after a character that it has to begin with. -/
def afterChar (c : Char) : List Char → Option (List Char)
  | [] => none
  | d :: rest => if d = c then some rest else none

/-- `parseAssetContentRange(value)`. -/
def parseAssetContentRange (value : Option String) : Option AssetContentRange := do
  let text := jsTrim (← value).toList
  guard ((text.take 6).map Char.toLower = "bytes ".toList)
  let first := (text.drop 6).takeWhile Char.isDigit
  let rest ← afterChar '-' ((text.drop 6).dropWhile Char.isDigit)
  let last := rest.takeWhile Char.isDigit
  let size ← afterChar '/' (rest.dropWhile Char.isDigit)
  guard (first ≠ [] ∧ last ≠ [] ∧ (size = ['*'] ∨ size ≠ [] ∧ size.all Char.isDigit))
  let total := if size = ['*'] then none else some (decimalValue size)
  guard (isSafeInteger (decimalValue first) ∧ isSafeInteger (decimalValue last) ∧
    decimalValue first ≤ decimalValue last ∧ total.all fun total => isSafeInteger total && decimalValue last < total)
  return ⟨decimalValue first, decimalValue last, total⟩

example : parseAssetContentRange (some " Bytes 5-9/10") = some ⟨5, 9, some 10⟩ ∧
    parseAssetContentRange (some "bytes 5-9/9") = none := by decide

/-! ### Where a download begins -/

inductive AssetResumeDecision
  | resume | restart | discard | complete
  deriving DecidableEq

structure ResumeInput where
  localBytes : ℤ
  durableBytes : ℤ
  expectedBytes : Option ℤ
  rangeSupported : Bool
  storedValidator : Option String
  remoteValidator : Option String
  storedSha256 : Option String
  actualSha256 : Option String

/-- `decideAssetResume(input)`: the decision, its reason and the offset. -/
def decideAssetResume (input : ResumeInput) : Except DownloadThrown (AssetResumeDecision × String × ℤ) :=
  let values := [some input.localBytes, some input.durableBytes, input.expectedBytes].reduceOption
  if values.any (fun value => !isSafeInteger value || value < 0) ∨ input.localBytes < input.durableBytes then
    .error (failed (.repository .inputInvalid) "Asset resume byte counters are invalid")
  else if input.expectedBytes.any (· < input.localBytes) then .ok (.discard, "PARTIAL_SIZE_EXCEEDED", 0)
  else if input.expectedBytes = some input.durableBytes ∧ input.storedSha256.isSome ∧
      input.actualSha256 = input.storedSha256 then .ok (.complete, "PARTIAL_ALREADY_COMPLETE", input.durableBytes)
  else if input.durableBytes = 0 then .ok (.restart, "PARTIAL_EMPTY", 0)
  else if !input.rangeSupported then .ok (.restart, "RANGE_NOT_SUPPORTED", 0)
  else if input.storedValidator = none ∨ input.remoteValidator = none ∨ input.storedValidator ≠ input.remoteValidator then
    .ok (.restart, "REMOTE_VALIDATOR_CHANGED", 0)
  else .ok (.resume, "RANGE_RESUME_SAFE", input.durableBytes)

/-! ### What a response is -/

/-- The variables of the loop. -/
structure TransferState where
  offset : ℤ
  expectedBytes : Option ℤ
  validator : Option String
  etag : Option String
  lastModified : Option String
  contentType : Option String
  finalUrl : String
  redirectChain : List String
  statusCode : ℤ
  restarted : Bool
  checkpointAt : ℤ

/-- What the headers of a successful response say. -/
structure ResponseMetadata where
  etag : Option String
  lastModified : Option String
  contentType : Option String
  contentRange : Option AssetContentRange
  contentLength : Option ℤ

/-- `responseValidator`. -/
def ResponseMetadata.validator (m : ResponseMetadata) : Option String := m.etag.or m.lastModified

/-- The headers of a successful response. -/
def readHeaders (env : DownloadEnv) (response : AssetNetworkResponse) : Except DownloadThrown ResponseMetadata := do
  let etag ← ofAsset (normalizeAssetValidator (some (header env response.headers "etag")))
  let lastModified ← ofAsset (normalizeAssetValidator (some (header env response.headers "last-modified")))
  let contentType ← ofAsset (normalizeAssetContentType env.toAssetEnv (some (header env response.headers "content-type")))
  return { etag, lastModified, contentType
           contentRange := parseAssetContentRange (header env response.headers "content-range")
           contentLength := ((header env response.headers "content-length").bind env.integerOf).filter isSafeInteger
             |>.filter (0 ≤ ·) }

/-- What a successful response is to the download. -/
inductive RangeDecision
  /-- The validator has changed: the download begins again with another request. -/
  | again
  /-- The range was ignored: the download begins again with this response. -/
  | ignored
  /-- The body goes on at the offset. -/
  | follows (expectedBytes : Option ℤ)
  deriving DecidableEq

/-- The branches on the range and the validators of a successful response. -/
def decideRange (st : TransferState) (status : ℤ) (m : ResponseMetadata) : Except DownloadThrown RangeDecision :=
  if 0 < st.offset ∧ status = 206 then
    match m.contentRange.filter (·.start = st.offset) with
    | none => .error (failedRetryable .rangeInvalid "The Asset server returned an incompatible Content-Range")
    | some range =>
      if st.validator.isSome ∧ m.validator.isSome ∧ st.validator ≠ m.validator then
        if st.restarted then
          .error (failed .validatorChanged "The Asset validator changed during Asset resume")
        else .ok .again
      else .ok (.follows (range.total.or st.expectedBytes))
  else if 0 < st.offset ∧ status = 200 then
    if st.restarted then
      .error (failedRetryable .rangeInvalid "The Asset server repeatedly ignored the bounded Range request")
    else .ok .ignored
  else if status = 206 then
    match m.contentRange.filter (·.start = 0) with
    | none => .error (failed .rangeInvalid "The initial Asset response returned an invalid Content-Range")
    | some range => .ok (.follows range.total)
  else .ok (.follows st.expectedBytes)

/-- `expectedBytes` after the `Content-Length`. -/
def declaredBytes (offset : ℤ) (expectedBytes : Option ℤ) (status : ℤ) (m : ResponseMetadata) : Option ℤ :=
  match m.contentLength with
  | some length => if status ≠ 206 ∨ expectedBytes = none then some (offset + length) else expectedBytes
  | none => expectedBytes

/-- The validators of a response replace those that are known. -/
def TransferState.received (st : TransferState) (m : ResponseMetadata) : TransferState :=
  { st with validator := m.validator.or st.validator, etag := m.etag.or st.etag
            lastModified := m.lastModified.or st.lastModified }

end OfflineWebArchiver.Assets
