import Mathlib.Data.List.Sort
import Mathlib.Data.Rat.Floor
import OfflineWebArchiver.Archive.PathSafety
import OfflineWebArchiver.Base.JsonText
import OfflineWebArchiver.Lib.Grouping
import OfflineWebArchiver.Lib.Zip

/-!
# Project archives

Export packs the portable files of a project, a snapshot of its database and an inventory
into a ZIP archive. Import inspects the central directory, unpacks, and compares every
file with the inventory. The packer is a parameter, and so are the digest and the
collation that orders the files.

* `createProjectArchive`, `extractAndVerifyProjectArchive`: export and import.
* `inspectZipArchive`: the rules for the central directory.
* `archiveEntries`: what goes into the archive.
-/

namespace OfflineWebArchiver.ProjectArchive

open Checks (failIf)
open Zip (Bytes)

inductive ErrorCode
  | PROJECT_IMPORT_UNSAFE_ARCHIVE | PROJECT_IMPORT_LIMIT_EXCEEDED | PROJECT_EXPORT_FAILED
deriving DecidableEq

structure ProjectOperationError where
  code : ErrorCode
  message : String
deriving DecidableEq

abbrev Result (α : Type) := Except ProjectOperationError α

def refused (message : String) : ProjectOperationError :=
  { code := .PROJECT_IMPORT_UNSAFE_ARCHIVE, message }

def exceeded (message : String) : ProjectOperationError :=
  { code := .PROJECT_IMPORT_LIMIT_EXCEEDED, message }

def exportFailed (message : String) : ProjectOperationError :=
  { code := .PROJECT_EXPORT_FAILED, message }

structure ArchiveLimits where
  maximumArchiveBytes : ℕ
  maximumEntries : ℕ
  maximumExpandedBytes : ℕ
  maximumSingleEntryBytes : ℕ
  maximumCompressionRatio : ℚ

/-- `DEFAULT_ARCHIVE_LIMITS`. -/
def defaultArchiveLimits : ArchiveLimits where
  maximumArchiveBytes := 256 * 1024 * 1024
  maximumEntries := 5000
  maximumExpandedBytes := 512 * 1024 * 1024
  maximumSingleEntryBytes := 128 * 1024 * 1024
  maximumCompressionRatio := 100

/-- A map from paths to contents, in insertion order. -/
abbrev Files := List (JsString × Bytes)

/-- What the code takes from its surroundings. -/
structure Env where
  unicode : Unicode
  /-- `fflate`. -/
  zipSync : Files → Bytes
  /-- The size of a content as `zipSync` packs it. -/
  deflatedSize : Bytes → ℕ
  unzipSync : Bytes → Option Files
  strToU8 : JsString → Bytes
  strFromU8 : Bytes → JsString
  sha256 : Bytes → JsString
  /-- `left.localeCompare(right, "en") <= 0`. -/
  localeLe : JsString → JsString → Bool

/-! ### The central directory -/

def readUInt16 (data : Bytes) (offset : ℕ) : ℕ := Zip.read data 2 offset

def readUInt32 (data : Bytes) (offset : ℕ) : ℕ := Zip.read data 4 offset

/-- The search for the end record, from an index down to the minimum. -/
def searchEnd (data : Bytes) (minimum : ℕ) : ℕ → Option ℕ
  | 0 => if 0 < minimum then none else if readUInt32 data 0 = 0x06054b50 then some 0 else none
  | index + 1 =>
    if index + 1 < minimum then none
    else if readUInt32 data (index + 1) = 0x06054b50 then some (index + 1)
    else searchEnd data minimum index

def findEndOfCentralDirectory (data : Bytes) : Result ℕ :=
  let found := if data.length < 22 then none else searchEnd data (data.length - 65557) (data.length - 22)
  match found with
  | some index => .ok index
  | none => .error (refused "ZIP end-of-directory record is missing")

/-- `new TextDecoder("utf-8", fatal).decode(bytes)`; a leading byte order mark is dropped. -/
def decodeFatal (bytes : Bytes) : Option JsString :=
  (ByteArray.mk bytes.toArray).utf8Decode?.map fun chars =>
    match chars.toList with
    | c :: rest => if c.toNat = 0xfeff then rest else c :: rest
    | [] => []

def decodeEntryName (bytes : Bytes) (utf8 : Bool) : Result JsString :=
  if utf8 = false ∧ bytes.any (fun value => decide (0x7f < value)) = true then
    .error (refused "Non-UTF-8 archive names are not accepted")
  else
    match decodeFatal bytes with
    | some name => .ok name
    | none => .error (refused "An archive entry name has invalid UTF-8")

variable (u : Unicode)

/-- `normalizeArchiveEntry(value)`; it throws the message. -/
def normalizeArchiveEntry (value : JsString) : Except String JsString :=
  let validation := validateCanonicalRelativePath u value
  if validation.valid then canonicalRelativePath u value else .error validation.message

def safeArchiveName (value : JsString) : Result JsString :=
  match normalizeArchiveEntry u value with
  | .ok name => .ok name
  | .error message => .error (refused message)

/-- `portablePathCollisionKey(value)`. -/
def portablePathCollisionKey (value : JsString) : Result JsString :=
  match canonicalPathCollisionKey u value with
  | .ok key => .ok key
  | .error message => .error (refused message)

/-- The double nearest to `m / n`, ties to even. -/
def divide (m n : ℕ) : ℚ :=
  if m = 0 ∨ n = 0 then 0
  else
    let q : ℚ := (m : ℚ) / n
    let k : ℤ := (Nat.log2 m : ℤ) - Nat.log2 n
    let unit : ℚ := (2 : ℚ) ^ (if q < (2 : ℚ) ^ k then k - 53 else k - 52)
    let floor := (q / unit).floor
    let half := q / unit - floor
    if half < 1 / 2 ∨ (half = 1 / 2 ∧ floor % 2 = 0) then floor * unit else (floor + 1) * unit

/-- `expandedSize === 0 ? 0 : expandedSize / Math.max(1, compressedSize)`. -/
def compressionRatio (expandedSize compressedSize : ℕ) : ℚ :=
  if expandedSize = 0 then 0 else divide expandedSize (max 1 compressedSize)

structure InspectedArchiveEntry where
  name : JsString
  compressedSize : ℕ
  expandedSize : ℕ
  crc32 : ℕ
deriving DecidableEq

structure InspectedArchive where
  entries : List InspectedArchiveEntry
  expandedBytes : ℕ

/-- The variables of the loop over the central directory. -/
structure Inspection where
  cursor : ℕ
  expandedBytes : ℕ
  names : List JsString
  collisionKeys : List JsString
  entries : List InspectedArchiveEntry

/-- One header of the central directory, and the rules for it. -/
def inspectEntry (limits : ArchiveLimits) (data : Bytes) (s : Inspection) : Result Inspection := do
  let cursor := s.cursor
  failIf (refused "The ZIP central directory entry is invalid")
    (data.length < cursor + 46 ∨ readUInt32 data cursor ≠ 0x02014b50)
  let versionMadeBy := readUInt16 data (cursor + 4)
  let flags := readUInt16 data (cursor + 8)
  let method := readUInt16 data (cursor + 10)
  let crc32 := readUInt32 data (cursor + 16)
  let compressedSize := readUInt32 data (cursor + 20)
  let expandedSize := readUInt32 data (cursor + 24)
  let nameLength := readUInt16 data (cursor + 28)
  let extraLength := readUInt16 data (cursor + 30)
  let commentLength := readUInt16 data (cursor + 32)
  let diskStart := readUInt16 data (cursor + 34)
  let externalAttributes := readUInt32 data (cursor + 38)
  let endOfEntry := cursor + 46 + nameLength + extraLength + commentLength
  failIf (refused "The ZIP entry bounds are invalid") (data.length < endOfEntry ∨ nameLength = 0)
  failIf (refused "Encrypted ZIP entries are not supported") (flags.testBit 0)
  failIf (refused "The ZIP compression method is unsupported") (method ≠ 0 ∧ method ≠ 8)
  failIf (refused "A ZIP entry references another disk") (diskStart ≠ 0)
  let decoded ← decodeEntryName ((data.drop (cursor + 46)).take nameLength) (flags.testBit 11)
  let name ← safeArchiveName u decoded
  failIf (refused "Directory entries are not accepted") (name.getLast? = some '/')
  let host := versionMadeBy / 0x100
  let unixType := externalAttributes / 0x10000 / 0x1000
  failIf (refused "Symbolic links and special archive entries are forbidden")
    (host = 3 ∧ unixType ≠ 0 ∧ unixType ≠ 8)
  let collisionKey ← portablePathCollisionKey u name
  failIf (refused "Duplicate or cross-platform-colliding archive paths are forbidden")
    (name ∈ s.names ∨ collisionKey ∈ s.collisionKeys)
  failIf (exceeded s!"Archive entry {String.ofList name} exceeds the per-file limit")
    (limits.maximumSingleEntryBytes < expandedSize)
  failIf (exceeded s!"Archive entry {String.ofList name} exceeds the compression-ratio limit")
    (limits.maximumCompressionRatio < compressionRatio expandedSize compressedSize)
  let expandedBytes := s.expandedBytes + expandedSize
  failIf (exceeded "The archive exceeds the expanded-size limit")
    (limits.maximumExpandedBytes < expandedBytes)
  return {
    cursor := endOfEntry
    expandedBytes
    names := s.names ++ [name]
    collisionKeys := s.collisionKeys ++ [collisionKey]
    entries := s.entries ++ [{ name, compressedSize, expandedSize, crc32 }] }

/-- The loop over the entries. -/
def inspectEntries (limits : ArchiveLimits) (data : Bytes) : ℕ → Inspection → Result Inspection
  | 0, s => .ok s
  | count + 1, s => inspectEntry u limits data s >>= inspectEntries limits data count

def inspectZipArchive (limits : ArchiveLimits) (data : Bytes) : Result InspectedArchive := do
  failIf (exceeded "The archive exceeds the compressed-size limit")
    (limits.maximumArchiveBytes < data.length)
  let endRecord ← findEndOfCentralDirectory data
  let disk := readUInt16 data (endRecord + 4)
  let centralDisk := readUInt16 data (endRecord + 6)
  let entryCount := readUInt16 data (endRecord + 10)
  let centralSize := readUInt32 data (endRecord + 12)
  let centralOffset := readUInt32 data (endRecord + 16)
  failIf (refused "Multi-disk ZIP archives are not supported") (disk ≠ 0 ∨ centralDisk ≠ 0)
  failIf (exceeded "ZIP64 archives exceed the Phase 4 container policy")
    (entryCount = 0xffff ∨ centralSize = 0xffffffff ∨ centralOffset = 0xffffffff)
  failIf (exceeded "The archive entry count is outside the allowed range")
    (entryCount = 0 ∨ limits.maximumEntries < entryCount)
  failIf (refused "The ZIP central directory is inconsistent")
    (endRecord < centralOffset + centralSize ∨ data.length < centralOffset + centralSize)
  let s ← inspectEntries u limits data entryCount
    { cursor := centralOffset, expandedBytes := 0, names := [], collisionKeys := [], entries := [] }
  failIf (refused "The ZIP central directory size does not match its entries")
    (s.cursor ≠ centralOffset + centralSize)
  return { entries := s.entries, expandedBytes := s.expandedBytes }

/-! ### Export -/

def exportMetadataFile : JsString := ".offline-archive-export.json".toList
def projectManifestFile : JsString := "project.json".toList
def projectDatabasePath : JsString := "database/crawl.db".toList

/-- `EXPORT_EXCLUDED_PREFIXES`. -/
def exportExcludedPrefixes : List JsString :=
  ["temp/".toList, "logs/".toList, "database/backups/".toList, "auth/".toList, "proxies/".toList,
    "secrets/".toList, "secure-exports/".toList, "diagnostics/".toList]

def exportedPrefixes : List JsString :=
  ["profile/".toList, "pages/".toList, "assets/".toList, "api/".toList, "runtime/".toList,
    "reports/".toList]

def exportPathIsAllowed (relativePath : JsString) : Bool :=
  if relativePath = projectManifestFile ∨ relativePath = projectDatabasePath then true
  else if exportExcludedPrefixes.any (·.isPrefixOf relativePath) then false
  else exportedPrefixes.any (·.isPrefixOf relativePath)

/-- What a directory entry is. -/
inductive Node
  | file (data : Bytes)
  | directory (children : List (JsString × Node))
  | symbolicLink
  | special

/-- `files.set(name, data)`. -/
def setFile (files : Files) (f : JsString × Bytes) : Files := Grouping.upsert f.1 (fun _ => f.2) files

/-- The path of an entry of the directory `current`. -/
def portableEntry (current name : JsString) : Result JsString :=
  let relativePath := if current = [] then name else current ++ '/' :: name
  match normalizeArchiveEntry u relativePath with
  | .ok portable => .ok portable
  | .error message => .error (exportFailed message)

mutual

/-- What is collected from the entry at this path. -/
def collectNode (portable : JsString) : Node → Result Files
  | .symbolicLink => .error (exportFailed "Symbolic links cannot be exported")
  | .directory children => collectFiles portable [] children
  | .file data => .ok (if exportPathIsAllowed portable then [(portable, data)] else [])
  | .special => .ok []

/-- `collectFiles(root, current)`, the files of the entries before in hand. -/
def collectFiles (current : JsString) (files : Files) : List (JsString × Node) → Result Files
  | [] => .ok files
  | (name, node) :: rest => do
    let portable ← portableEntry u current name
    let found ← collectNode portable node
    collectFiles current (found.foldl setFile files) rest

end

structure ExportInput where
  projectRoot : List (JsString × Node)
  projectId : JsString
  exportedAt : JsString
  databaseSnapshot : Bytes
  limits : ArchiveLimits

structure ExportedArchive where
  data : Bytes
  entryCount : ℕ
  expandedBytes : ℕ

/-- The files of the project that are exported, with the database snapshot. -/
def exportFiles (input : ExportInput) : Result Files := do
  let files ← collectFiles u [] [] input.projectRoot
  return setFile files (projectDatabasePath, input.databaseSnapshot)

variable (env : Env)

/-- The files in the order of their names. -/
def ordered (files : Files) : Files := files.insertionSort fun a b => env.localeLe a.1 b.1

/-- A line break and an indentation. -/
def lineBreak (width : ℕ) : JsString := '\n' :: List.replicate width ' '

open JsonText in
/-- One file of the inventory. -/
def inventoryItem (f : JsString × Bytes) : JsString :=
  printObject (lineBreak 6) (lineBreak 4)
    [("path".toList, quote f.1), ("bytes".toList, printNat f.2.length),
      ("sha256".toList, quote (env.sha256 f.2))]

open JsonText in
/-- `JSON.stringify(metadata, null, 2)`. -/
def metadataText (input : ExportInput) (files : Files) : JsString :=
  printObject (lineBreak 2) (lineBreak 0)
    [("container".toList, quote "offline-web-archive-export".toList),
      ("version".toList, quote "1.0.0".toList), ("projectId".toList, quote input.projectId),
      ("exportedAt".toList, quote input.exportedAt),
      ("files".toList, printArray (lineBreak 4) (lineBreak 2) (files.map (inventoryItem env)))]

/-- The inventory and the files. -/
def archiveEntries (input : ExportInput) (files : Files) : Files :=
  (ordered env files).foldl setFile
    [(exportMetadataFile, env.strToU8 (metadataText env input (ordered env files) ++ ['\n']))]

/-- `createProjectArchive(input)`. -/
def createProjectArchive (input : ExportInput) : Result ExportedArchive := do
  let files ← exportFiles env.unicode input
  let entries := archiveEntries env input files
  let expandedBytes := (entries.map fun e => e.2.length).sum
  failIf (exportFailed "The Project exceeds the Phase 4 ZIP export limits")
    (input.limits.maximumEntries < entries.length ∨ input.limits.maximumExpandedBytes < expandedBytes)
  forM entries fun e =>
    failIf (exportFailed s!"Export entry {String.ofList e.1} exceeds the per-file limit")
      (input.limits.maximumSingleEntryBytes < e.2.length)
  let data := env.zipSync entries
  failIf (exportFailed "The compressed Project exceeds the Phase 4 ZIP limit")
    (input.limits.maximumArchiveBytes < data.length)
  return { data, entryCount := entries.length, expandedBytes }

/-! ### Import -/

open JsonText (Value)

structure ExportMetadata where
  projectId : JsString
  exportedAt : JsString
  files : List Value

def parseExportMetadata (data : Bytes) : Result ExportMetadata :=
  match JsonText.parse (env.strFromU8 data) with
  | none => .error (refused "The export metadata is invalid JSON")
  | some value =>
    match value.get? "container".toList, value.get? "version".toList, value.get? "projectId".toList,
      value.get? "exportedAt".toList, value.get? "files".toList with
    | some (.text container), some (.text version), some (.text projectId), some (.text exportedAt),
      some (.array files) =>
      if container = "offline-web-archive-export".toList ∧ version = "1.0.0".toList then
        .ok { projectId, exportedAt, files }
      else .error (refused "The export metadata contract is invalid")
    | _, _, _, _, _ => .error (refused "The export metadata contract is invalid")

/-- `unzipped[name]`. -/
def payload? (unzipped : Files) (name : JsString) : Option Bytes :=
  (unzipped.find? fun e => e.1 = name).map Prod.snd

/-- `unzipSync(data)`, and its error. -/
def unpack (data : Bytes) : Result Files :=
  match env.unzipSync data with
  | some unzipped => .ok unzipped
  | none => .error (refused "The ZIP payload is corrupt")

/-- The inventory among the unpacked files. -/
def readMetadata (unzipped : Files) : Result ExportMetadata :=
  match payload? unzipped exportMetadataFile with
  | some metadataData => parseExportMetadata env metadataData
  | none => .error (refused "The export metadata entry is missing")

/-- One file of the inventory; the names of `files` are the declared ones. -/
def verifyItem (unzipped : Files) (files : Files) (item : Value) : Result Files :=
  match item.get? "path".toList, item.get? "bytes".toList, item.get? "sha256".toList with
  | some (.text path), some (.number bytes), some (.text digest) => do
    let name ← safeArchiveName env.unicode path
    failIf (refused s!"The export contains a non-portable Project entry: {String.ofList name}")
      (exportPathIsAllowed name = false)
    failIf (refused "The export file inventory contains a duplicate")
      (name = exportMetadataFile ∨ name ∈ files.map Prod.fst)
    match payload? unzipped name with
    | some payload =>
      failIf (refused s!"Export checksum validation failed for {String.ofList name}")
        ((payload.length : ℚ) ≠ bytes ∨ env.sha256 payload ≠ digest)
      return setFile files (name, payload)
    | none => .error (refused s!"Export checksum validation failed for {String.ofList name}")
  | _, _, _ => .error (refused "The export file inventory is invalid")

structure ImportedArchive where
  files : Files
  projectId : JsString
  entryCount : ℕ

/-- `extractAndVerifyProjectArchive(data, limits)`. -/
def extractAndVerifyProjectArchive (data : Bytes) (limits : ArchiveLimits) : Result ImportedArchive := do
  let inspected ← inspectZipArchive env.unicode limits data
  let unzipped ← unpack env data
  failIf (refused "The ZIP parser views disagree on the entry set")
    (unzipped.length ≠ inspected.entries.length)
  let metadata ← readMetadata env unzipped
  let files ← metadata.files.foldlM (verifyItem env unzipped) []
  let actualPayloadNames := (unzipped.map Prod.fst).filter (· ≠ exportMetadataFile)
  failIf (refused "The ZIP contains undeclared payload entries")
    (actualPayloadNames.length ≠ files.length ∨ ∃ name ∈ actualPayloadNames, name ∉ files.map Prod.fst)
  failIf (refused "The archive is missing the Project manifest or database")
    (projectManifestFile ∉ files.map Prod.fst ∨ projectDatabasePath ∉ files.map Prod.fst)
  return { files, projectId := metadata.projectId, entryCount := inspected.entries.length }

end OfflineWebArchiver.ProjectArchive
