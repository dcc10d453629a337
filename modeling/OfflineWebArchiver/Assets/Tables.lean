import OfflineWebArchiver.Archive.PathSafety
import OfflineWebArchiver.Persistence.Session

/-!
# Assets: errors, paths and values

The pure rules of the asset pipeline. `AssetEnv` adds to the environment of the store
what the rules take from outside: the Unicode tables and the URL parser.

* `canonicalAssetContentPath`, `canonicalAssetPartialPath`: where the bytes of an asset
  are stored, finished and unfinished.
* `instantOf`: `Date.parse`, also for the years that `toISOString` writes with six digits.
* `instantPassed`: the asset repository's check for expiry.
-/

namespace OfflineWebArchiver

/-- The codes of an `AssetOperationError` that the repository throws. -/
inductive AssetOperationErrorCode
  | inputInvalid | redirectLimit | pathUnsafe | contentConflict | alreadyInProgress | notFound
  | leaseInvalid | staleGeneration | persistenceFailed
  deriving DecidableEq

/-- What the repository throws. `error` is any `Error` of another class. -/
inductive AssetThrown
  | asset (code : AssetOperationErrorCode) (message : String) (retryable : Bool)
  | error (message : String)
  deriving DecidableEq

def assetError (code : AssetOperationErrorCode) (message : String) : AssetThrown := .asset code message false

/-- `invalid(message)`. -/
def invalidAsset (message : String) : AssetThrown := assetError .inputInvalid message

/-- `AssetType`. -/
inductive AssetType
  | css | javascript | image | svg | font | audio | video | json | manifest | favicon | binary
  deriving DecidableEq

def AssetType.text : AssetType → String
  | css => "css" | javascript => "javascript" | image => "image" | svg => "svg" | font => "font"
  | audio => "audio" | video => "video" | json => "json" | manifest => "manifest"
  | favicon => "favicon" | binary => "binary"

/-- `AssetSourceState`. -/
inductive AssetSourceState
  | pending | downloading | interrupted | completed | failed
  deriving DecidableEq

/-- What the code reads from `new URL(value)`. `text` is `toString()` once the fragment is
removed and the parameters are appended to an empty query. -/
structure ParsedUrl where
  protocol : String
  username : String
  password : String
  searchParams : List (String × String)
  text : List (String × String) → String

/-- What the assets take from outside. -/
structure AssetEnv extends Env where
  unicode : Unicode
  /-- `new URL(value)`, or `none` where it throws. -/
  parseUrl : String → Option ParsedUrl

/-- `HASH_PATTERN.test(value)`. -/
def isSha256Text (value : String) : Bool :=
  value.toList.length == 64 && value.toList.all fun c => c.isDigit || ('a' ≤ c && c ≤ 'f')

/-- `Number.isSafeInteger(value)`. -/
def isSafeInteger (value : ℤ) : Bool := -9007199254740991 ≤ value && value ≤ 9007199254740991

/-- `CONTROL_CHARACTER.test(value)`. -/
def hasControl (value : String) : Bool := value.toList.any isControl

/-- `assertHash(value, label)`. -/
def assertHash (value label : String) : Except AssetThrown Unit :=
  if isSha256Text value then .ok ()
  else .error (invalidAsset (label ++ " must be a lowercase SHA-256 value"))

/-- `assertIdentifier(value, label)`. -/
def assertIdentifier (value label : String) : Except AssetThrown Unit :=
  if matchesSafeIdentifier value then .ok () else .error (invalidAsset (label ++ " is invalid"))

/-- `assertText(value, label, maximum)`. -/
def assertAssetText (value label : String) (maximum : ℕ) : Except AssetThrown Unit :=
  if (jsTrim value.toList).isEmpty || utf16Length value.toList > maximum || hasControl value then
    .error (invalidAsset (label ++ " is invalid"))
  else .ok ()

/-- The names of `SENSITIVE_QUERY_KEY`, with a `-` where `_`, `-` or nothing may stand. -/
def sensitiveQueryKeys : List String :=
  ["access-token", "api-key", "authorization", "auth", "code", "cookie", "credential", "csrf", "jwt",
    "otp", "pass", "password", "secret", "session", "token"]

/-- The whole of the text is the name, ignoring case. -/
def isQueryKey : List Char → List Char → Bool
  | [], [] => true
  | '-' :: name, c :: text =>
    if c == '-' || c == '_' then isQueryKey name text else isQueryKey name (c :: text)
  | n :: name, c :: text => c.toLower == n && isQueryKey name text
  | _, _ => false

/-- `SENSITIVE_QUERY_KEY.test(key)`. -/
def isSensitiveQueryKey (key : String) : Bool :=
  sensitiveQueryKeys.any fun name => isQueryKey name.toList key.toList

example : isSensitiveQueryKey "Access_Token" ∧ isSensitiveQueryKey "apikey" ∧
    ¬isSensitiveQueryKey "page" := by decide

section

variable (env : AssetEnv)

/-- `safeUrl(value)`. -/
def safeUrl (value : String) : Except AssetThrown String := do
  if value.isEmpty || utf16Length value.toList > 8192 || hasControl value || value.toList.contains '\\' then
    throw (invalidAsset "The asset URL is invalid")
  match env.parseUrl value with
  | none => throw (invalidAsset "The asset URL is invalid")
  | some parsed =>
    if parsed.protocol ≠ "http:" ∧ parsed.protocol ≠ "https:" then
      throw (invalidAsset "Asset URLs must use HTTP or HTTPS")
    if parsed.username ≠ "" ∨ parsed.password ≠ "" then
      throw (invalidAsset "Asset URLs cannot contain credentials")
    let result := parsed.text (parsed.searchParams.map fun p =>
      (p.1, if isSensitiveQueryKey p.1 then "[redacted]" else p.2))
    if utf16Length result.toList > 8192 then throw (invalidAsset "The asset URL is too long")
    return result

/-- `canonicalAssetRedirectUrl(value)`. -/
def canonicalAssetRedirectUrl (value : String) : Except AssetThrown String := safeUrl env value

/-- `AssetIdentityInput`. -/
structure AssetIdentityInput where
  originalUrl : String
  normalizedUrl : String
  identityHash : String

/-- `canonicalAssetIdentity(input)`, without the version and the origin. -/
def canonicalAssetIdentity (input : AssetIdentityInput) : Except AssetThrown AssetIdentityInput := do
  let originalUrl ← safeUrl env input.originalUrl
  let normalizedUrl ← safeUrl env input.normalizedUrl
  assertHash input.identityHash "The Asset identity hash"
  return { originalUrl, normalizedUrl, identityHash := input.identityHash }

/-- `canonicalPath(value)`. -/
def canonicalPath (value : String) : Except AssetThrown String :=
  match canonicalRelativePath env.unicode value.toList with
  | .ok normalized => .ok (String.ofList normalized)
  | .error message => .error (assetError .pathUnsafe message)

/-- `hash.slice(0, 2)`. -/
def hashFolder (hash : String) : String := String.ofList (hash.toList.take 2)

/-- `canonicalAssetSourcePath({ assetType, identityHash })`. -/
def canonicalAssetSourcePath (assetType : AssetType) (identityHash : String) : Except AssetThrown String := do
  assertHash identityHash "The Asset identity hash"
  canonicalPath env ("assets/sources/" ++ assetType.text ++ "/" ++ hashFolder identityHash ++ "/" ++
    identityHash ++ ".json")

/-- `canonicalAssetContentPath(sha256)`. -/
def canonicalAssetContentPath (sha256 : String) : Except AssetThrown String := do
  assertHash sha256 "The Asset content hash"
  canonicalPath env ("assets/objects/sha256/" ++ hashFolder sha256 ++ "/" ++ sha256)

/-- `canonicalAssetPartialPath(assetSourceId, fencingGeneration)`. -/
def canonicalAssetPartialPath (assetSourceId : String) (fencingGeneration : ℕ) : Except AssetThrown String := do
  assertIdentifier assetSourceId "The Asset source identifier"
  if !isSafeInteger fencingGeneration || fencingGeneration < 1 then
    throw (invalidAsset "The Asset fencing generation is invalid")
  canonicalPath env ("temp/assets/" ++ assetSourceId ++ "." ++ toString fencingGeneration ++ ".part")

/-- `normalizeAssetContentType(value)`. -/
def normalizeAssetContentType (value : Nullish String) : Except AssetThrown (Option String) :=
  match value.orNull with
  | none => .ok none
  | some value =>
    if (jsTrim value.toList).isEmpty then .ok none
    else if hasControl value || utf16Length value.toList > 240 then
      .error (invalidAsset "The Asset Content-Type is invalid")
    else
      let media := (jsTrim value.toList).takeWhile (· != ';')
      let result := utf16Take 240 (env.unicode.lower media)
      .ok (if result.isEmpty then none else some (String.ofList result))

end

/-- `normalizeAssetValidator(value)`. -/
def normalizeAssetValidator (value : Nullish String) : Except AssetThrown (Option String) :=
  match value.orNull with
  | none => .ok none
  | some value =>
    if value.isEmpty then .ok none
    else if hasControl value || utf16Length value.toList > 512 then
      .error (invalidAsset "The Asset validator is invalid")
    else .ok (some value)

/-- `validateAssetRedirectLimit(value)` of a length. -/
def validateAssetRedirectLimit (value : ℕ) : Except AssetThrown Unit :=
  if value > 20 then
    .error (assetError .redirectLimit "The Asset redirect chain exceeds its bounded limit")
  else .ok ()

/-! ### Instants -/

/-- The instant of a text whose year is written with a sign and six digits. -/
def expandedInstant (sign : ℤ) (cs : List Char) : Option ℤ :=
  let year := sign * digitsAt cs 0 6
  let short := cs.drop 2
  let days := daysFromCivil year (digitsAt short 5 2) (digitsAt short 8 2) -
    daysFromCivil (digitsAt short 0 4) (digitsAt short 5 2) (digitsAt short 8 2)
  if (cs.take 2).all Char.isDigit ∧ ¬(sign = -1 ∧ year = 0) then
    ((parseUtc (String.ofList short)).map (· + days * 86400000)).filter fun n =>
      -8640000000000000 ≤ n && n ≤ 8640000000000000
  else none

/-- `Date.parse(value)` of the texts that `toISOString` and `UTC_PATTERN` allow; any other
text is `NaN` here. -/
def instantOf (value : Timestamp) : Option ℤ :=
  match value.toList with
  | '+' :: rest => expandedInstant 1 rest
  | '-' :: rest => expandedInstant (-1) rest
  | _ => parseUtc value

/-- `Date.parse(expiresAt) <= Date.parse(now())`, which `NaN` fails. -/
def instantPassed (expiresAt time : Timestamp) : Bool :=
  match instantOf expiresAt, instantOf time with
  | some expiry, some time => expiry ≤ time
  | _, _ => false

example : instantOf "+010000-01-01T00:00:00.000Z" = some 253402300800000 := by decide

end OfflineWebArchiver

/-!
## The tables of the assets

A source is an asset's URL in one run, with the claim of whoever downloads it. A content
is a stored file, named by the hash of its bytes, that many sources may share.

* `AssetDb`: the three tables, with the `CHECK`s and unique keys of the migration.
* `rowToSource`: what callers see of a source, with its content joined.
-/

namespace OfflineWebArchiver

open Relational

/-- `AssetContent`, a row of `asset_contents`. -/
structure AssetContent where
  contentId : String
  projectId : String
  sha256 : String
  byteLength : ℤ
  storageRelativePath : String
  contentType : Option String
  createdAt : Timestamp
  verifiedAt : Option Timestamp

def assetContents : Schema AssetContent where
  check row := row.sha256.length == 64 && 0 ≤ row.byteLength && lengthBetween 1 2048 row.storageRelativePath
  conflict a b := a.contentId == b.contentId || (a.projectId == b.projectId && a.sha256 == b.sha256) ||
    (a.projectId == b.projectId && a.storageRelativePath == b.storageRelativePath)

/-- The columns of `asset_sources` that callers see as they are. -/
structure AssetSourceColumns where
  assetSourceId : String
  projectId : String
  runId : String
  projectRevisionId : String
  pageJobId : String
  originalUrl : String
  normalizedUrl : String
  identityHash : String
  assetType : AssetType
  sourceRelativePath : String
  state : AssetSourceState
  statusCode : Option ℤ
  contentType : Option String
  byteLength : Option ℤ
  sha256 : Option String
  storageRelativePath : Option String
  etag : Option String
  lastModified : Option String
  validator : Option String
  expectedBytes : Option ℤ
  resumeOffset : ℤ
  partialRelativePath : Option String
  redirectChain : List String
  claimJobId : Option String
  claimedBy : Option String
  fencingGeneration : ℕ
  errorCode : Option String
  createdAt : Timestamp
  updatedAt : Timestamp
  completedAt : Option Timestamp

/-- A row of `asset_sources`. -/
structure AssetSourceRow extends AssetSourceColumns where
  contentId : Option String

/-- `AssetSource`. -/
structure AssetSource extends AssetSourceColumns where
  content : Option AssetContent

def assetSourceCheck (row : AssetSourceRow) : Bool :=
  lengthBetween 1 8192 row.originalUrl && lengthBetween 1 8192 row.normalizedUrl &&
  row.identityHash.length == 64 && lengthBetween 1 2048 row.sourceRelativePath &&
  row.statusCode.all (fun s => 100 ≤ s && s ≤ 599) && row.byteLength.all (0 ≤ ·) &&
  row.sha256.all (·.length == 64) && row.storageRelativePath.all (lengthBetween 1 2048) &&
  row.expectedBytes.all (0 ≤ ·) && 0 ≤ row.resumeOffset &&
  row.partialRelativePath.all (lengthBetween 1 2048)

def assetSources : Schema AssetSourceRow where
  check := assetSourceCheck
  conflict a b := a.assetSourceId == b.assetSourceId ||
    (a.projectId == b.projectId && a.runId == b.runId && a.normalizedUrl == b.normalizedUrl) ||
    (a.projectId == b.projectId && a.sourceRelativePath == b.sourceRelativePath)

/-- A row of `page_asset_relations`. -/
structure PageAssetRelation where
  projectId : String
  runId : String
  pageJobId : String
  assetSourceId : String
  relationKind : String
  createdAt : Timestamp

def pageAssetRelations : Schema PageAssetRelation where
  check row := lengthBetween 1 120 row.relationKind
  conflict a b := a.projectId == b.projectId && a.runId == b.runId && a.pageJobId == b.pageJobId &&
    a.assetSourceId == b.assetSourceId && a.relationKind == b.relationKind

/-- The asset tables of a project. -/
structure AssetDb where
  assetSources : Table assetSources
  assetContents : Table assetContents
  pageAssetRelations : Table pageAssetRelations

def AssetDb.empty : AssetDb := ⟨.empty _, .empty _, .empty _⟩

/-- `rowToSource(row)` of a row with its `LEFT JOIN`. -/
def rowToSource (contents : Table OfflineWebArchiver.assetContents) (row : AssetSourceRow) : AssetSource :=
  { row.toAssetSourceColumns with
    content := row.contentId.bind fun id => contents.find fun c => c.contentId == id }

/-- The key of an asset source. -/
def sourceIndex : Index assetSources String where
  key row := some row.assetSourceId
  unique a b k ha hb := by
    have h : a.assetSourceId = b.assetSourceId := Option.some.inj (ha.trans hb.symm)
    simp [assetSources, h]

end OfflineWebArchiver
