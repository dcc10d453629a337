import OfflineWebArchiver.Lib.Table
import OfflineWebArchiver.ProxyManager.Metadata

/-!
# The proxy repository

The table `proxies` of a project and the calls that write it.

* `createProxy`, `updateProxy`: one proxy, in a transaction of its own.
* `importProxies`: a list of proxies in one transaction, each with its own verdict.
-/

namespace OfflineWebArchiver.ProxyManager

open Relational

/-- Text length in characters between two bounds, as SQL counts it. -/
def lengthWithin (low high : ℕ) (t : Text) : Bool :=
  low ≤ (scalarsOf t).length && (scalarsOf t).length ≤ high

/-- The `CHECK` constraints of `proxies`. -/
def proxyCheck (row : ProxyMetadata) : Bool :=
  lengthWithin 1 128 row.id && lengthWithin 1 253 row.host && (1 ≤ row.port && row.port ≤ 65535) &&
    (1 ≤ row.weight && row.weight ≤ 1000) && (0 ≤ row.priority && row.priority ≤ 1000) &&
    (1 ≤ row.maxConcurrency && row.maxConcurrency ≤ 1000) &&
    row.latencyMs.all (fun ms => 0 ≤ ms && ms ≤ 86400000) && 0 ≤ row.successCount && 0 ≤ row.failureCount &&
    0 ≤ row.consecutiveFailureCount && (0 ≤ row.successRate && row.successRate ≤ 1) &&
    row.lastErrorSummary.all (lengthWithin 0 240) && 0 < row.revision

/-- The columns of `UNIQUE (project_id, protocol, host, port)`. -/
def sameEndpoint (a b : ProxyMetadata) : Bool :=
  a.protocol = b.protocol && a.host = b.host && a.port = b.port

/-- The table `proxies` of one project. -/
def proxies : Schema ProxyMetadata where
  check := proxyCheck
  conflict a b := a.id = b.id || sameEndpoint a b

abbrev ProxyTable := Table proxies

variable (env : ProxyEnv)

/-- What `rowToProxy` throws: a `ProxyOperationError` as it is, any other error as a report. -/
def rowError : ProxyThrow → ProxyOperationError
  | .operation e => e
  | .secret _ => invalid "The persisted Proxy configuration is invalid"

/-- The reference that `rowToProxy` reads from a row. -/
def rowCredentialRef (row : ProxyMetadata) : Except ProxyOperationError (Option Text) :=
  match row.credentialRef with
  | none => .ok none
  | some ref =>
    match parseSecretRef (scalarsOf ref) with
    | .ok parsed => .ok (some (unitsOf parsed.serialized))
    | .error _ => .error (invalid "The persisted Proxy configuration is invalid")

def rowToProxy (row : ProxyMetadata) : Except ProxyOperationError ProxyMetadata := do
  let credentialRef ← rowCredentialRef row
  let proxy := { row with credentialRef }
  match assertProxyMetadata env proxy with
  | .ok () => return proxy
  | .error e => .error (rowError e)

def alreadyExists (message : String) : ProxyOperationError := ⟨.alreadyExists, message⟩

def persistenceFailed : ProxyOperationError := invalid "The Proxy persistence operation failed safely"

/-- What a statement on `row` fails with: `CHECK` constraints come before unique keys. -/
def statementError (row : ProxyMetadata) : ProxyOperationError :=
  if proxyCheck row then alreadyExists "A Proxy with the same identity already exists" else persistenceFailed

/-- `getRow(projectId, proxyId)`. -/
def getRow (db : ProxyTable) (proxyId : Text) : Except ProxyOperationError ProxyMetadata :=
  match db.find fun r => r.id = proxyId with
  | some row => .ok row
  | none => .error ⟨.notFound, "The Proxy was not found"⟩

/-- `createProxy`: the new table and what the call returns. -/
def createProxy (metadata : ProxyMetadata) (db : ProxyTable) : Except ProxyThrow (ProxyMetadata × ProxyTable) := do
  assertProxyMetadata env metadata
  match db.insert metadata with
  | none => .error (.operation (statementError metadata))
  | some db' =>
    let row ← operation (getRow db' metadata.id)
    let proxy ← operation (rowToProxy env row)
    return (proxy, db')

/-- `UPDATE_SQL`: every column but the key. -/
def updateRow (db : ProxyTable) (proxyId : Text) (expectedRevision : ℤ) (metadata : ProxyMetadata) :
    Option ProxyTable :=
  db.update (fun r => r.id = proxyId && r.revision = expectedRevision) fun r => { metadata with id := r.id }

def revisionConflict (message : String) : ProxyOperationError := ⟨.revisionConflict, message⟩

def updateProxy (proxyId : Text) (expectedRevision : ℤ) (metadata : ProxyMetadata) (db : ProxyTable) :
    Except ProxyThrow (ProxyMetadata × ProxyTable) := do
  assertProxyMetadata env metadata
  if metadata.id ≠ proxyId ∨ metadata.revision ≠ expectedRevision + 1 then
    .error (.operation (revisionConflict "The Proxy revision is invalid"))
  else
    let row ← operation (getRow db proxyId)
    let current ← operation (rowToProxy env row)
    if current.revision ≠ expectedRevision then
      .error (.operation (revisionConflict "The Proxy changed after it was read"))
    else
      match updateRow db proxyId expectedRevision metadata with
      | none => .error (.operation (statementError metadata))
      | some db' =>
        if db.count (fun r => r.id = proxyId && r.revision = expectedRevision) ≠ 1 then
          .error (.operation (revisionConflict "The Proxy changed during the update"))
        else
          let row ← operation (getRow db' proxyId)
          let proxy ← operation (rowToProxy env row)
          return (proxy, db')

/-! ### Imports -/

structure ImportItem where
  record : ℕ
  metadata : ProxyMetadata

structure ProxyImportPersistenceError where
  record : ℕ
  code : ProxyOperationErrorCode
  message : String
deriving DecidableEq

/-- The counters of `ProxyImportPersistenceResult`, and the loop's own variables. -/
structure ImportState where
  imported : ℕ := 0
  updated : ℕ := 0
  skipped : ℕ := 0
  failed : ℕ := 0
  errors : List ProxyImportPersistenceError := []
  seenIds : List Text := []
  seenIdentities : List Text := []
  db : ProxyTable

def ImportState.skip (s : ImportState) (record : ℕ) (message : String) : ImportState :=
  { s with skipped := s.skipped + 1, errors := s.errors ++ [⟨record, .alreadyExists, message⟩] }

/-- The branch of the `catch` block for an error that is no `PROXY_ALREADY_EXISTS`. -/
def ImportState.fail (s : ImportState) (record : ℕ) : ImportState :=
  { s with
    failed := s.failed + 1
    errors := s.errors ++ [⟨record, .configInvalid, "The Proxy import record could not be persisted"⟩] }

/-- The `catch` block. -/
def ImportState.reject (s : ImportState) (record : ℕ) : ProxyThrow → ImportState
  | .operation e => if e.code = .alreadyExists then s.skip record e.message else s.fail record
  | .secret _ => s.fail record

/-- An item whose identifier has a row. -/
def importExisting (item : ImportItem) (identity : Text) (row : ProxyMetadata) (s : ImportState) : ImportState :=
  match rowToProxy env row with
  | .error e => s.reject item.record (.operation e)
  | .ok current =>
    match canonicalProxyIdentity env current.protocol current.host current.port with
    | .error e => s.reject item.record (.operation e)
    | .ok currentIdentity =>
      if currentIdentity ≠ identity then
        s.skip item.record "The Proxy identifier is already used by another identity"
      else
        let metadata := { item.metadata with createdAt := current.createdAt, revision := current.revision + 1 }
        match updateRow s.db metadata.id current.revision metadata with
        | none => s.fail item.record
        | some db => { s with updated := s.updated + 1, db }

/-- An item that is new to the batch. -/
def importUnseen (item : ImportItem) (identity : Text) (s : ImportState) : ImportState :=
  match s.db.find fun r => r.id = item.metadata.id with
  | some row => importExisting env item identity row s
  | none =>
    match s.db.find fun r => sameEndpoint r item.metadata with
    | some _ => s.skip item.record "A Proxy with the same identity already exists"
    | none =>
      match s.db.insert item.metadata with
      | none => s.fail item.record
      | some db => { s with imported := s.imported + 1, db }

/-- What an item is identified by: `assertProxyMetadata`, then `canonicalProxyIdentity`. -/
def itemIdentity (item : ImportItem) : Except ProxyThrow Text := do
  assertProxyMetadata env item.metadata
  operation (canonicalProxyIdentity env item.metadata.protocol item.metadata.host item.metadata.port)

/-- One item of the loop. -/
def importItem (s : ImportState) (item : ImportItem) : ImportState :=
  match itemIdentity env item with
  | .error e => s.reject item.record e
  | .ok identity =>
    if item.metadata.id ∈ s.seenIds ∨ identity ∈ s.seenIdentities then
      s.skip item.record "The import contains a duplicate Proxy identity"
    else
      importUnseen env item identity
        { s with seenIds := item.metadata.id :: s.seenIds, seenIdentities := identity :: s.seenIdentities }

/-- `importProxies`: the result, with the table it leaves behind. -/
def importProxies (items : List ImportItem) (db : ProxyTable) : ImportState :=
  items.foldl (importItem env) { db }

end OfflineWebArchiver.ProxyManager
