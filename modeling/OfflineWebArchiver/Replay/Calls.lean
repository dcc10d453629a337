import Mathlib.Data.List.Dedup
import OfflineWebArchiver.Replay.Handlers
import OfflineWebArchiver.Replay.Headers

/-!
# The store of captured responses

The table `replay_snapshots` with the body files, and the calls of the repository on them. The
columns that hold one value only (`capture_version`, `method`, `state`) are left out, and the
header columns hold records in place of their JSON texts.

* `capture`: stores a response, or finds that its row is taken.
* `lookup`, `readBody`: what a replay asks.
-/

namespace OfflineWebArchiver.Replay

open Checks

def MAX_REPLAY_BODY_BYTES : ℕ := 8 * 1024 * 1024

inductive ProjectErrorCode
  | databaseInvalid | importLimitExceeded | validationFailed
  deriving DecidableEq

/-- What the repository throws: an `Error` of the request rules or a `ProjectOperationError`. -/
inductive ReplayThrown
  | plain (message : String)
  | operation (code : ProjectErrorCode) (message : String)
  deriving DecidableEq

structure ReplaySnapshotRow where
  snapshotId : String
  projectId : JsString
  runId : JsString
  projectRevisionId : JsString
  originalUrl : JsString
  normalizedUrl : JsString
  requestHeaders : Headers
  requestIdentityKey : JsString
  status : ℤ
  contentType : JsString
  responseHeaders : Headers
  bodySha256 : JsString
  bodyBytes : ℕ
  bodyRelativePath : JsString
  capturedAt : JsString
  pageId : Option JsString
  workerId : Option JsString
  deriving DecidableEq

/-- The run and the request that a row is about. -/
structure RequestKey where
  projectId : JsString
  runId : JsString
  projectRevisionId : JsString
  key : JsString
  deriving DecidableEq

def ReplaySnapshotRow.request (row : ReplaySnapshotRow) : RequestKey :=
  ⟨row.projectId, row.runId, row.projectRevisionId, row.requestIdentityKey⟩

/-- The columns of the `UNIQUE` constraint. -/
def ReplaySnapshotRow.slot (row : ReplaySnapshotRow) : RequestKey × JsString := (row.request, row.bodySha256)

/-- `length(text)` of SQLite. -/
def sqliteLength (text : JsString) : ℕ := (text.takeWhile fun c => c.toNat != 0).length

/-- The `CHECK` constraints. -/
def ReplaySnapshotRow.fits (row : ReplaySnapshotRow) : Bool :=
  let within (text : JsString) (maximum : ℕ) : Bool := 1 ≤ sqliteLength text && sqliteLength text ≤ maximum
  within row.originalUrl 8192 && within row.normalizedUrl 8192 && within row.requestIdentityKey 32768 &&
    100 ≤ row.status && row.status ≤ 599 && within row.contentType 512 && sqliteLength row.bodySha256 == 64 &&
    within row.bodyRelativePath 2048

structure ReplayStore where
  rows : List ReplaySnapshotRow
  unique : (rows.map (·.slot)).Nodup
  ids : (rows.map (·.snapshotId)).Nodup
  files : JsString → Option (List UInt8)

def ReplayStore.empty : ReplayStore := ⟨[], List.nodup_nil, List.nodup_nil, fun _ => none⟩

/-- A list stays without duplicates when a new element is appended. -/
theorem nodup_map_append {α β : Type} {f : α → β} {l : List α} {a : α} (h : (l.map f).Nodup) (hnew : f a ∉ l.map f) :
    ((l ++ [a]).map f).Nodup := by
  rw [List.map_append]
  refine List.nodup_append.2 ⟨h, List.nodup_singleton _, ?_⟩
  rintro b hb c hc rfl
  rw [List.map_singleton, List.mem_singleton] at hc
  exact hnew (hc ▸ hb)

/-- `INSERT OR IGNORE`: a row that breaks a constraint is left out. -/
def ReplayStore.insertOrIgnore (s : ReplayStore) (row : ReplaySnapshotRow) : ReplayStore :=
  if hnew : row.slot ∉ s.rows.map (·.slot) ∧ row.snapshotId ∉ s.rows.map (·.snapshotId) then
    if row.fits then
      { s with
        rows := s.rows ++ [row]
        unique := nodup_map_append s.unique hnew.1
        ids := nodup_map_append s.ids hnew.2 }
    else s
  else s

/-- `safeText(value, maximum)`. -/
def safeText (value : JsString) (maximum : ℕ) : JsString :=
  utf16Take maximum (value.map fun c => if isControl c then ' ' else c)

/-- `parseHeaders(value)` of the text of a record. -/
def parseHeaders (record : Headers) : Except ReplayThrown Headers :=
  if record.any fun h => 128 < utf16Length h.1 || 4096 < utf16Length h.2 then
    .error (.operation .databaseInvalid "Replay header metadata is malformed")
  else .ok record

variable (env : ReplayEnv)

def bodyPath (bodySha256 : JsString) : JsString := "api/responses/".toList ++ bodySha256 ++ ".bin".toList

/-- `canonicalReplayRequestIdentity(input)`, as the repository calls it. -/
def requestIdentity (input : ReplayRequestIdentityInput) : Except ReplayThrown ReplayRequestIdentity :=
  match canonicalReplayRequestIdentity env input with
  | .ok identity => .ok identity
  | .error message => .error (.plain message)

/-- `snapshotFromRow(row)`. -/
def snapshotFromRow (row : ReplaySnapshotRow) : Except ReplayThrown ReplaySnapshotDescriptor := do
  let requestHeaders ← parseHeaders row.requestHeaders
  let stored ← parseHeaders row.responseHeaders
  let responseHeaders := sanitizeReplayResponseHeaders env stored
  let identity ← requestIdentity env
    { projectId := row.projectId, runId := row.runId, projectRevisionId := row.projectRevisionId, method := .get,
      url := row.normalizedUrl, headers := requestHeaders }
  failIf (.operation .databaseInvalid "Replay snapshot identity is inconsistent")
    (identity.key ≠ row.requestIdentityKey)
  .ok
    { snapshotId := row.snapshotId
      identity := identity
      originalUrl := safeReplayUrl env row.originalUrl
      status := row.status
      contentType := row.contentType
      responseHeaders := responseHeaders
      bodySha256 := row.bodySha256
      bodyBytes := row.bodyBytes
      bodyRelativePath := row.bodyRelativePath
      capturedAt := row.capturedAt
      pageId := row.pageId
      workerId := row.workerId }

/-- The request of a capture. -/
def ReplayCaptureInput.identityInput (input : ReplayCaptureInput) : ReplayRequestIdentityInput where
  projectId := input.projectId
  runId := input.runId
  projectRevisionId := input.projectRevisionId
  method := .get
  url := input.url
  headers := input.requestHeaders
  ignoredKeys := input.ignoredKeys

/-- The row that a capture offers. -/
def captureRow (input : ReplayCaptureInput) (id : String) (identity : ReplayRequestIdentity) : ReplaySnapshotRow where
  snapshotId := id
  projectId := input.projectId
  runId := input.runId
  projectRevisionId := input.projectRevisionId
  originalUrl := safeReplayUrl env input.originalUrl
  normalizedUrl := identity.normalizedUrl
  requestHeaders := identity.selectedHeaders
  requestIdentityKey := identity.key
  status := input.status
  contentType := safeText (mediaType env input.contentType) 512
  responseHeaders := sanitizeReplayResponseHeaders env input.responseHeaders
  bodySha256 := env.sha256 input.body
  bodyBytes := input.body.length
  bodyRelativePath := bodyPath (env.sha256 input.body)
  capturedAt := safeText input.capturedAt 64
  pageId := input.pageId
  workerId := input.workerId

/-- The checks of `capture` before the body is stored. `owned` is the answer of
`assertReplayScope`. -/
def captureChecks (input : ReplayCaptureInput) (owned : Bool) : Except ReplayThrown ReplayRequestIdentity := do
  failIf (.operation .importLimitExceeded "Replay response exceeds the configured body limit")
    (MAX_REPLAY_BODY_BYTES < input.body.length)
  failIf (.operation .databaseInvalid "Only GET responses may become replay snapshots") (input.method ≠ "GET".toList)
  failIf (.operation .validationFailed "Replay Project/Run/Revision scope is not owned by the active Project")
    (owned = false)
  let identity ← requestIdentity env input.identityInput
  failIf (.operation .databaseInvalid "Replay response metadata is invalid")
    (safeText (mediaType env input.contentType) 512 = [] ∨ input.status < 100 ∨ 599 < input.status)
  return identity

/-- The body file of a capture, which must be absent or have the bytes' length and digest. -/
def storeBody (input : ReplayCaptureInput) (s : ReplayStore) : Except ReplayThrown ReplayStore :=
  let path := bodyPath (env.sha256 input.body)
  match s.files path with
  | some existing =>
    if existing.length ≠ input.body.length ∨ env.sha256 existing ≠ env.sha256 input.body then
      .error (.operation .databaseInvalid "A replay body path is occupied by different bytes")
    else .ok s
  | none => .ok { s with files := Function.update s.files path (some input.body) }

/-- The row that is read after the insertion; the `UNIQUE` constraint leaves at most one. -/
def ReplayStore.rowAt (s : ReplayStore) (slot : RequestKey × JsString) : Option ReplaySnapshotRow :=
  s.rows.find? (·.slot == slot)

/-- `capture(input)`; `id` is the fresh identifier. -/
def capture (input : ReplayCaptureInput) (id : String) (owned : Bool) (s : ReplayStore) :
    Except ReplayThrown ReplaySnapshotDescriptor × ReplayStore :=
  match captureChecks env input owned with
  | .error e => (.error e, s)
  | .ok identity =>
    match storeBody env input s with
    | .error e => (.error e, s)
    | .ok s =>
      let row := captureRow env input id identity
      let s := s.insertOrIgnore row
      match s.rowAt row.slot with
      | none => (.error (.operation .databaseInvalid "Replay snapshot was not committed"), s)
      | some row => (snapshotFromRow env row, s)

/-- `ORDER BY captured_at ASC, snapshot_id ASC`, as "not after". -/
def capturedNotAfter (left right : ReplaySnapshotRow) : Bool :=
  left.capturedAt < right.capturedAt ||
    (left.capturedAt == right.capturedAt && decide (left.snapshotId ≤ right.snapshotId))

/-- The rows of a request, as the lookup selects them. -/
def ReplayStore.rowsOf (s : ReplayStore) (request : RequestKey) : List ReplaySnapshotRow :=
  (s.rows.filter (·.request == request)).mergeSort capturedNotAfter

/-- The run and the request that an identity names. -/
def ReplayRequestIdentity.request (identity : ReplayRequestIdentity) : RequestKey :=
  ⟨identity.projectId, identity.runId, identity.projectRevisionId, identity.key⟩

/-- `/sensitive query/i.test(message)`. -/
def mentionsSensitiveQuery (message : String) : Bool :=
  message.toList.tails.any fun text => (matchWord "sensitive query".toList text).isSome

/-- `lookup(input)`. -/
def lookup (input : ReplayRequestIdentityInput) (s : ReplayStore) : ReplayLookupResult :=
  match canonicalReplayRequestIdentity env input with
  | .error message => .miss (if mentionsSensitiveQuery message then .sensitiveRequest else .unsupportedProtocol)
  | .ok identity =>
    if s.rowsOf identity.request = [] then .miss .noCapture
    else
      match (s.rowsOf identity.request).mapM (snapshotFromRow env) with
      | .error _ => .miss .integrityFailure
      | .ok snapshots =>
        if 1 < (snapshots.map (·.bodySha256)).dedup.length then .ambiguous snapshots
        else
          match snapshots with
          | snapshot :: _ => .matched snapshot
          | [] => .miss .noCapture

/-- `/^[a-f0-9]{64}$/.test(digest)`. -/
def isDigestText (digest : JsString) : Bool :=
  digest.length == 64 && digest.all fun c => c.isDigit || ('a' ≤ c && c ≤ 'f')

/-- `readValidatedBody(snapshot)`. -/
def readValidatedBody (snapshot : ReplaySnapshotDescriptor) (s : ReplayStore) :
    Except ReplayThrown (List UInt8) :=
  if snapshot.identity.projectId = [] ∨ MAX_REPLAY_BODY_BYTES < snapshot.bodyBytes ∨
      isDigestText snapshot.bodySha256 = false ∨ snapshot.bodyRelativePath ≠ bodyPath snapshot.bodySha256 then
    .error (.operation .databaseInvalid "Replay body metadata is invalid")
  else
    match s.files snapshot.bodyRelativePath with
    | none => .error (.plain "ENOENT: no such file or directory")
    | some bytes =>
      if bytes.length ≠ snapshot.bodyBytes ∨ env.sha256 bytes ≠ snapshot.bodySha256 then
        .error (.operation .databaseInvalid "Replay response integrity verification failed")
      else .ok bytes

/-- `readBody(snapshot)`. -/
def readBody (snapshot : ReplaySnapshotDescriptor) (owned : Bool) (s : ReplayStore) :
    Except ReplayThrown (List UInt8) :=
  if !owned then
    .error (.operation .validationFailed "Replay Project/Run/Revision scope is not owned by the active Project")
  else
    match s.rows.find? (·.snapshotId == snapshot.snapshotId) with
    | none => .error (.operation .databaseInvalid "Replay snapshot ownership or state is invalid")
    | some row =>
      if row.projectId ≠ snapshot.identity.projectId ∨ row.runId ≠ snapshot.identity.runId ∨
          row.projectRevisionId ≠ snapshot.identity.projectRevisionId ∨
          row.requestIdentityKey ≠ snapshot.identity.key ∨ row.bodySha256 ≠ snapshot.bodySha256 ∨
          row.bodyBytes ≠ snapshot.bodyBytes ∨ row.bodyRelativePath ≠ snapshot.bodyRelativePath then
        .error (.operation .databaseInvalid "Replay snapshot ownership or state is invalid")
      else readValidatedBody env snapshot s

end OfflineWebArchiver.Replay

/-!
## What the calls of the repository do

* `capture_kept`: nothing that is stored changes.
* `capture_ok`: the row that a capture returns.
* `lookup_matched`: the row that a lookup finds, the only one with its request.
-/

namespace OfflineWebArchiver.Replay

open Checks

variable {env : ReplayEnv} {s s' : ReplayStore} {row : ReplaySnapshotRow} {d : ReplaySnapshotDescriptor}
  {input : ReplayCaptureInput} {id : String} {owned : Bool}

/-- What `snapshotFromRow` returns has the fields of the row. -/
structure FromRow (env : ReplayEnv) (row : ReplaySnapshotRow) (d : ReplaySnapshotDescriptor) : Prop where
  identity : canonicalReplayRequestIdentity env
    { projectId := row.projectId, runId := row.runId, projectRevisionId := row.projectRevisionId, method := .get,
      url := row.normalizedUrl, headers := row.requestHeaders } = .ok d.identity
  key : d.identity.key = row.requestIdentityKey
  snapshotId : d.snapshotId = row.snapshotId
  status : d.status = row.status
  responseHeaders : d.responseHeaders = sanitizeReplayResponseHeaders env row.responseHeaders
  bodySha256 : d.bodySha256 = row.bodySha256
  bodyBytes : d.bodyBytes = row.bodyBytes
  bodyRelativePath : d.bodyRelativePath = row.bodyRelativePath

theorem parseHeaders_ok {record parsed : Headers} (h : parseHeaders record = .ok parsed) : parsed = record := by
  unfold parseHeaders at h
  split_ifs at h
  exact (Except.ok.inj h).symm

theorem requestIdentity_ok {request : ReplayRequestIdentityInput} {identity : ReplayRequestIdentity} :
    requestIdentity env request = .ok identity ↔ canonicalReplayRequestIdentity env request = .ok identity := by
  unfold requestIdentity
  cases canonicalReplayRequestIdentity env request with
  | ok i => simp
  | error e => simp

/-- What an identity says of the request. -/
structure Names (env : ReplayEnv) (request : ReplayRequestIdentityInput) (identity : ReplayRequestIdentity) : Prop where
  projectId : identity.projectId = request.projectId
  runId : identity.runId = request.runId
  projectRevisionId : identity.projectRevisionId = request.projectRevisionId
  method : identity.method = request.method
  url : normalizeReplayUrlInternal env request.url request.ignoredKeys = .ok identity.normalizedUrl
  headers : identity.selectedHeaders = selectReplayMatchHeaders env request.headers

theorem replayScopeValue_ok {value found : JsString} {label : String} (h : replayScopeValue value label = .ok found) :
    found = value := by
  unfold replayScopeValue at h
  split_ifs at h
  exact (Except.ok.inj h).symm

theorem canonicalReplayRequestIdentity_ok {request : ReplayRequestIdentityInput} {identity : ReplayRequestIdentity}
    (h : canonicalReplayRequestIdentity env request = .ok identity) : Names env request identity := by
  unfold canonicalReplayRequestIdentity at h
  obtain ⟨projectId, hproject, h⟩ := bind_ok.1 h
  obtain ⟨runId, hrun, h⟩ := bind_ok.1 h
  obtain ⟨projectRevisionId, hrevision, h⟩ := bind_ok.1 h
  obtain ⟨normalizedUrl, hurl, h⟩ := bind_ok.1 h
  obtain rfl := pure_ok.1 h
  exact ⟨replayScopeValue_ok hproject, replayScopeValue_ok hrun, replayScopeValue_ok hrevision, rfl, hurl, rfl⟩

theorem snapshotFromRow_ok (h : snapshotFromRow env row = .ok d) : FromRow env row d := by
  unfold snapshotFromRow at h
  obtain ⟨requestHeaders, hrequest, h⟩ := bind_ok.1 h
  obtain ⟨stored, hstored, h⟩ := bind_ok.1 h
  obtain ⟨identity, hidentity, h⟩ := bind_ok.1 h
  rw [parseHeaders_ok hrequest, requestIdentity_ok] at hidentity
  rw [parseHeaders_ok hstored] at h
  obtain ⟨hkey, h⟩ := failIf_bind_ok.1 h
  cases h
  exact ⟨hidentity, not_not.1 hkey, rfl, rfl, rfl, rfl, rfl, rfl⟩

/-! ### The store only grows -/

/-- Rows and files stay. -/
structure Kept (s s' : ReplayStore) : Prop where
  rows : s.rows ⊆ s'.rows
  files : ∀ path bytes, s.files path = some bytes → s'.files path = some bytes

theorem Kept.refl (s : ReplayStore) : Kept s s := ⟨fun _ h => h, fun _ _ h => h⟩

theorem Kept.trans {s'' : ReplayStore} (h : Kept s s') (h' : Kept s' s'') : Kept s s'' :=
  ⟨fun _ hrow => h'.rows (h.rows hrow), fun path bytes hfile => h'.files path bytes (h.files path bytes hfile)⟩

/-- `INSERT OR IGNORE` adds the row or nothing. -/
theorem insertOrIgnore_rows (s : ReplayStore) (row : ReplaySnapshotRow) :
    (s.insertOrIgnore row).rows = s.rows ∨
      (s.insertOrIgnore row).rows = s.rows ++ [row] ∧ row.slot ∉ s.rows.map (·.slot) := by
  unfold ReplayStore.insertOrIgnore
  by_cases hnew : row.slot ∉ s.rows.map (·.slot) ∧ row.snapshotId ∉ s.rows.map (·.snapshotId)
  · rw [dif_pos hnew]
    split_ifs
    · exact .inr ⟨rfl, hnew.1⟩
    · exact .inl rfl
  · rw [dif_neg hnew]
    exact .inl rfl

theorem insertOrIgnore_files (s : ReplayStore) (row : ReplaySnapshotRow) : (s.insertOrIgnore row).files = s.files := by
  unfold ReplayStore.insertOrIgnore
  split_ifs <;> rfl

theorem insertOrIgnore_kept (s : ReplayStore) (row : ReplaySnapshotRow) : Kept s (s.insertOrIgnore row) := by
  refine ⟨?_, fun path bytes hfile => by rwa [insertOrIgnore_files]⟩
  rcases insertOrIgnore_rows s row with hrows | ⟨hrows, -⟩
  · rw [hrows]
    exact List.Subset.refl _
  · rw [hrows]
    exact List.subset_append_left _ _

/-- The body file of a capture is there afterwards, with the body or with what was there. -/
theorem storeBody_ok (h : storeBody env input s = .ok s') :
    Kept s s' ∧ s'.rows = s.rows ∧
      ∃ bytes, s'.files (bodyPath (env.sha256 input.body)) = some bytes ∧
        (s.files (bodyPath (env.sha256 input.body)) = some bytes ∨ bytes = input.body) := by
  unfold storeBody at h
  simp only at h
  cases hfile : s.files (bodyPath (env.sha256 input.body)) with
  | some existing =>
    rw [hfile] at h
    simp only at h
    split_ifs at h
    cases h
    exact ⟨Kept.refl s, rfl, existing, hfile, .inl rfl⟩
  | none =>
    rw [hfile] at h
    cases h
    refine ⟨⟨fun _ hrow => hrow, fun path bytes hbytes => ?_⟩, rfl, input.body, Function.update_self .., .inr rfl⟩
    have hother : path ≠ bodyPath (env.sha256 input.body) := by
      rintro rfl
      rw [hfile] at hbytes
      cases hbytes
    simpa [Function.update_of_ne hother] using hbytes

theorem captureChecks_ok {identity : ReplayRequestIdentity} (h : captureChecks env input owned = .ok identity) :
    canonicalReplayRequestIdentity env input.identityInput = .ok identity ∧ 100 ≤ input.status ∧ input.status ≤ 599 ∧
      input.body.length ≤ MAX_REPLAY_BODY_BYTES ∧ owned = true := by
  unfold captureChecks at h
  obtain ⟨hlength, h⟩ := failIf_bind_ok.1 h
  obtain ⟨-, h⟩ := failIf_bind_ok.1 h
  obtain ⟨howned, h⟩ := failIf_bind_ok.1 h
  obtain ⟨found, hidentity, h⟩ := bind_ok.1 h
  obtain ⟨hstatus, h⟩ := failIf_bind_ok.1 h
  obtain rfl := pure_ok.1 h
  simp only [not_or, not_lt] at hlength hstatus
  exact ⟨requestIdentity_ok.1 hidentity, hstatus.2.1, hstatus.2.2, hlength, by simpa using howned⟩

/-! ### Captures -/

/-- The slot of a capture whose request has this identity. -/
def captureSlot (env : ReplayEnv) (input : ReplayCaptureInput) (identity : ReplayRequestIdentity) :
    RequestKey × JsString :=
  (⟨input.projectId, input.runId, input.projectRevisionId, identity.key⟩, env.sha256 input.body)

/-- What every capture leaves behind. -/
structure CaptureLeaves (env : ReplayEnv) (input : ReplayCaptureInput) (id : String) (s s' : ReplayStore) : Prop where
  kept : Kept s s'
  rows : ∀ row ∈ s'.rows, row ∈ s.rows ∨ ∃ identity, row = captureRow env input id identity

/-- What a capture that returns has found. -/
structure CaptureFinds (env : ReplayEnv) (input : ReplayCaptureInput) (id : String) (s s' : ReplayStore)
    (identity : ReplayRequestIdentity) (row : ReplaySnapshotRow) (d : ReplaySnapshotDescriptor) : Prop where
  named : canonicalReplayRequestIdentity env input.identityInput = .ok identity
  mem : row ∈ s'.rows
  slot : row.slot = captureSlot env input identity
  snapshot : snapshotFromRow env row = .ok d
  origin : row ∈ s.rows ∨ row = captureRow env input id identity
  body : ∃ bytes, s'.files (bodyPath (env.sha256 input.body)) = some bytes ∧
    (s.files (bodyPath (env.sha256 input.body)) = some bytes ∨ bytes = input.body)

/-- **A capture keeps what is stored**, and returns the row of its slot or fails. -/
theorem capture_spec {result : Except ReplayThrown ReplaySnapshotDescriptor}
    (h : capture env input id owned s = (result, s')) :
    CaptureLeaves env input id s s' ∧
      ∀ d, result = .ok d → ∃ identity row, CaptureFinds env input id s s' identity row d := by
  have hfailed (e : ReplayThrown) (hstop : (Except.error e, s) = (result, s')) :
      CaptureLeaves env input id s s' ∧
        ∀ d, result = .ok d → ∃ identity row, CaptureFinds env input id s s' identity row d := by
    cases hstop
    exact ⟨⟨Kept.refl s, fun row hrow => .inl hrow⟩, fun d hd => by cases hd⟩
  unfold capture at h
  cases hchecks : captureChecks env input owned with
  | error e =>
    rw [hchecks] at h
    exact hfailed e h
  | ok identity =>
    rw [hchecks] at h
    simp only at h
    cases hstore : storeBody env input s with
    | error e =>
      rw [hstore] at h
      exact hfailed e h
    | ok u =>
      rw [hstore] at h
      simp only at h
      obtain ⟨hkept, hsame, bytes, hbytes, horigin⟩ := storeBody_ok hstore
      have hinserted := insertOrIgnore_kept u (captureRow env input id identity)
      have hrows : ∀ row ∈ (u.insertOrIgnore (captureRow env input id identity)).rows,
          row ∈ s.rows ∨ row = captureRow env input id identity := by
        intro row hrow
        rcases insertOrIgnore_rows u (captureRow env input id identity) with heq | ⟨heq, -⟩
        · rw [heq, hsame] at hrow
          exact .inl hrow
        · rw [heq, hsame] at hrow
          exact (List.mem_append.1 hrow).imp_right List.mem_singleton.1
      have hleaves : CaptureLeaves env input id s (u.insertOrIgnore (captureRow env input id identity)) :=
        ⟨hkept.trans hinserted, fun row hrow => (hrows row hrow).imp_right fun heq => ⟨identity, heq⟩⟩
      cases hrow : (u.insertOrIgnore (captureRow env input id identity)).rowAt
          (captureRow env input id identity).slot with
      | none =>
        rw [hrow] at h
        cases h
        exact ⟨hleaves, fun d hd => by cases hd⟩
      | some row =>
        rw [hrow] at h
        cases h
        refine ⟨hleaves, fun d hd => ⟨identity, row, (captureChecks_ok hchecks).1, ?_, ?_, hd, ?_, bytes, ?_, horigin⟩⟩
        · exact List.mem_of_find?_eq_some hrow
        · have hslot := List.find?_some hrow
          exact beq_iff_eq.1 hslot
        · exact hrows row (List.mem_of_find?_eq_some hrow)
        · exact hinserted.files _ _ hbytes

/-! ### Lookups -/

theorem mem_rowsOf {request : RequestKey} : row ∈ s.rowsOf request ↔ row ∈ s.rows ∧ row.request = request := by
  unfold ReplayStore.rowsOf
  rw [List.mem_mergeSort, List.mem_filter, beq_iff_eq]

theorem eq_of_dedup_short {l : List JsString} (h : ¬1 < l.dedup.length) {a b : JsString} (ha : a ∈ l) (hb : b ∈ l) :
    a = b := by
  rw [← List.mem_dedup] at ha hb
  match hdedup : l.dedup with
  | [] =>
    rw [hdedup] at ha
    cases ha
  | [x] =>
    rw [hdedup, List.mem_singleton] at ha hb
    rw [ha, hb]
  | x :: y :: rest =>
    rw [hdedup] at h
    simp at h

/-- **A match is the only row of its request.** -/
theorem lookup_matched {request : ReplayRequestIdentityInput} (h : lookup env request s = .matched d) :
    ∃ identity row, canonicalReplayRequestIdentity env request = .ok identity ∧ row ∈ s.rows ∧
      row.request = identity.request ∧ snapshotFromRow env row = .ok d ∧
      ∀ other ∈ s.rows, other.request = identity.request → other = row := by
  unfold lookup at h
  cases hidentity : canonicalReplayRequestIdentity env request with
  | error message =>
    rw [hidentity] at h
    cases h
  | ok identity =>
    rw [hidentity] at h
    simp only at h
    have hmem (row : ReplaySnapshotRow) : row ∈ s.rowsOf identity.request ↔ _ := mem_rowsOf
    generalize s.rowsOf identity.request = rows at h hmem
    split_ifs at h
    cases hsnapshots : rows.mapM (snapshotFromRow env) with
    | error e =>
      rw [hsnapshots] at h
      cases h
    | ok snapshots =>
      rw [hsnapshots] at h
      simp only at h
      split_ifs at h with hbodies
      have hforall := mapM_ok.1 hsnapshots
      cases hforall with
      | nil => cases h
      | @cons row first rest ds hfirst hrest =>
        cases h
        have hrow := (hmem row).1 List.mem_cons_self
        refine ⟨identity, row, rfl, hrow.1, hrow.2, hfirst, fun other hother hrequest => ?_⟩
        -- all rows of the request have one body, and the constraint leaves one row for it
        have hmine := (hmem other).2 ⟨hother, hrequest⟩
        obtain ⟨d', hd', hsnapshot⟩ := (mapM_mem hsnapshots).1 other hmine
        have hbody : d'.bodySha256 = d.bodySha256 :=
          eq_of_dedup_short hbodies (List.mem_map_of_mem hd') (List.mem_map_of_mem List.mem_cons_self)
        rw [(snapshotFromRow_ok hsnapshot).bodySha256, (snapshotFromRow_ok hfirst).bodySha256] at hbody
        refine List.inj_on_of_nodup_map s.unique hother hrow.1 (Prod.ext ?_ hbody)
        exact hrequest.trans hrow.2.symm

end OfflineWebArchiver.Replay
