import OfflineWebArchiver.Archive.Inspect

/-!
# Inspecting with guarded reads

`inspectZipArchive` once more, byte by byte: a read outside of the data goes wrong, and so does an
error that is not one of the archive's own. A limit is any number of the language here.

* `Limits`: limits that need not be integers, or finite.
* `Reading.inspectZipArchive`: the inspection with guards.
* `Reading.inspectZipArchive_eq`: **with integer limits, the guards change nothing.**
-/

namespace OfflineWebArchiver.ProjectArchive

open Zip (Bytes)
open Guarded (throwIf ofOption ofExcept expect)

/-- Limits. `none` is a limit that no number exceeds, `Infinity` or `NaN`; `-Infinity` is like `-1`. -/
structure Limits where
  maximumArchiveBytes : Option ℚ
  maximumEntries : Option ℚ
  maximumExpandedBytes : Option ℚ
  maximumSingleEntryBytes : Option ℚ
  maximumCompressionRatio : Option ℚ

def ArchiveLimits.numbers (limits : ArchiveLimits) : Limits where
  maximumArchiveBytes := some limits.maximumArchiveBytes
  maximumEntries := some limits.maximumEntries
  maximumExpandedBytes := some limits.maximumExpandedBytes
  maximumSingleEntryBytes := some limits.maximumSingleEntryBytes
  maximumCompressionRatio := some limits.maximumCompressionRatio

/-- `value > limit`. -/
def exceeds (value : ℚ) (limit : Option ℚ) : Prop := ∃ most ∈ limit, most < value

instance (value : ℚ) (limit : Option ℚ) : Decidable (exceeds value limit) :=
  inferInstanceAs (Decidable (∃ most ∈ limit, most < value))

theorem not_exceeds {value : ℚ} {limit : Option ℚ} : ¬exceeds value limit ↔ ∀ most ∈ limit, value ≤ most := by
  simp [exceeds]

@[simp] theorem exceeds_some {value most : ℚ} : exceeds value (some most) ↔ most < value := by
  simp [exceeds]

/-! ### Reads -/

namespace Reading

/-- `data[offset]!`, which has to be there. -/
def byteAt (data : Bytes) (offset : ℕ) : Guarded ProjectOperationError UInt8 := ofOption data[offset]?

/-- The number in the `w` bytes from `offset` on. -/
def read (data : Bytes) : ℕ → ℕ → Guarded ProjectOperationError ℕ
  | 0, _ => pure 0
  | w + 1, offset => do
    let byte ← byteAt data offset
    let high ← read data w (offset + 1)
    return byte.toNat + 256 * high

def readUInt16 (data : Bytes) (offset : ℕ) : Guarded ProjectOperationError ℕ := read data 2 offset

def readUInt32 (data : Bytes) (offset : ℕ) : Guarded ProjectOperationError ℕ := read data 4 offset

/-- `data.subarray(start, start + length)`, which has to be inside. -/
def slice (data : Bytes) (start length : ℕ) : Guarded ProjectOperationError Bytes :=
  ofOption (if start + length ≤ data.length then some ((data.drop start).take length) else none)

variable {data : Bytes} {w offset start length : ℕ}

/-- A read inside of the data is the read without guards. -/
theorem read_eq (h : offset + w ≤ data.length) : read data w offset = .ok (Zip.read data w offset) := by
  induction w generalizing offset with
  | zero => rfl
  | succ w ih =>
    have hlt : offset < data.length := by omega
    have hbyte : byteAt data offset = .ok (data.getD offset 0) := by
      rw [byteAt, List.getD_eq_getElem?_getD, List.getElem?_eq_getElem hlt]
      rfl
    rw [read, hbyte, Checks.ok_bind, ih (by omega), Checks.ok_bind]
    rfl

/-- A read of at least one byte does not go wrong exactly inside of the data. -/
theorem wp_read {P : ℕ → Prop} {R : ProjectOperationError → Prop} (hw : 0 < w) :
    Guarded.wp (read data w offset) P R ↔ offset + w ≤ data.length ∧ P (Zip.read data w offset) := by
  by_cases h : offset + w ≤ data.length
  · rw [read_eq h]
    simp [h]
  · refine ⟨fun hwp => absurd ?_ h, fun hin => absurd hin.1 h⟩
    clear h
    induction w generalizing offset P with
    | zero => omega
    | succ w ih =>
      rw [read, Guarded.wp_bind, byteAt, Guarded.wp_ofOption] at hwp
      obtain ⟨byte, hbyte, hrest⟩ := hwp
      have hlt : offset < data.length := (List.getElem?_eq_some_iff.1 hbyte).1
      rw [Guarded.wp_bind] at hrest
      rcases Nat.eq_zero_or_pos w with rfl | hpos
      · omega
      · have := ih hpos hrest
        omega

@[simp] theorem wp_readUInt16 {P : ℕ → Prop} {R : ProjectOperationError → Prop} :
    Guarded.wp (readUInt16 data offset) P R ↔
      offset + 2 ≤ data.length ∧ P (ProjectArchive.readUInt16 data offset) := wp_read (by decide)

@[simp] theorem wp_readUInt32 {P : ℕ → Prop} {R : ProjectOperationError → Prop} :
    Guarded.wp (readUInt32 data offset) P R ↔
      offset + 4 ≤ data.length ∧ P (ProjectArchive.readUInt32 data offset) := wp_read (by decide)

@[simp] theorem wp_slice {P : Bytes → Prop} {R : ProjectOperationError → Prop} :
    Guarded.wp (slice data start length) P R ↔
      start + length ≤ data.length ∧ P ((data.drop start).take length) := by
  unfold slice
  rw [Guarded.wp_ofOption]
  by_cases h : start + length ≤ data.length
  · simp [h]
  · simp [h]

theorem readUInt16_eq (h : offset + 2 ≤ data.length) :
    readUInt16 data offset = .ok (ProjectArchive.readUInt16 data offset) := read_eq h

theorem readUInt32_eq (h : offset + 4 ≤ data.length) :
    readUInt32 data offset = .ok (ProjectArchive.readUInt32 data offset) := read_eq h

theorem slice_eq (h : start + length ≤ data.length) : slice data start length = .ok ((data.drop start).take length) := by
  rw [slice, if_pos h]
  rfl

/-! ### The inspection -/

/-- The search for the end record, from an index down to the minimum. -/
def searchEnd (data : Bytes) (minimum : ℕ) : ℕ → Guarded ProjectOperationError (Option ℕ)
  | 0 =>
    if 0 < minimum then pure none
    else do
      let signature ← readUInt32 data 0
      return if signature = 0x06054b50 then some 0 else none
  | index + 1 =>
    if index + 1 < minimum then pure none
    else do
      let signature ← readUInt32 data (index + 1)
      if signature = 0x06054b50 then return some (index + 1) else searchEnd data minimum index

def findEndOfCentralDirectory (data : Bytes) : Guarded ProjectOperationError ℕ := do
  let found ← if data.length < 22 then pure none else searchEnd data (data.length - 65557) (data.length - 22)
  match found with
  | some index => return index
  | none => throw (some (refused "ZIP end-of-directory record is missing"))

variable (u : Unicode)

/-- One header of the central directory, and the rules for it. -/
def inspectEntry (limits : Limits) (data : Bytes) (s : Inspection) : Guarded ProjectOperationError Inspection := do
  let cursor := s.cursor
  throwIf (refused "The ZIP central directory entry is invalid") (data.length < cursor + 46)
  let signature ← readUInt32 data cursor
  throwIf (refused "The ZIP central directory entry is invalid") (signature ≠ 0x02014b50)
  let versionMadeBy ← readUInt16 data (cursor + 4)
  let flags ← readUInt16 data (cursor + 8)
  let method ← readUInt16 data (cursor + 10)
  let crc32 ← readUInt32 data (cursor + 16)
  let compressedSize ← readUInt32 data (cursor + 20)
  let expandedSize ← readUInt32 data (cursor + 24)
  let nameLength ← readUInt16 data (cursor + 28)
  let extraLength ← readUInt16 data (cursor + 30)
  let commentLength ← readUInt16 data (cursor + 32)
  let diskStart ← readUInt16 data (cursor + 34)
  let externalAttributes ← readUInt32 data (cursor + 38)
  let endOfEntry := cursor + 46 + nameLength + extraLength + commentLength
  throwIf (refused "The ZIP entry bounds are invalid") (data.length < endOfEntry ∨ nameLength = 0)
  throwIf (refused "Encrypted ZIP entries are not supported") (flags.testBit 0)
  throwIf (refused "The ZIP compression method is unsupported") (method ≠ 0 ∧ method ≠ 8)
  throwIf (refused "A ZIP entry references another disk") (diskStart ≠ 0)
  let bytes ← slice data (cursor + 46) nameLength
  let decoded ← ofExcept (decodeEntryName bytes (flags.testBit 11))
  let name ← ofExcept (safeArchiveName u decoded)
  throwIf (refused "Directory entries are not accepted") (name.getLast? = some '/')
  let host := versionMadeBy / 0x100
  let unixType := externalAttributes / 0x10000 / 0x1000
  throwIf (refused "Symbolic links and special archive entries are forbidden")
    (host = 3 ∧ unixType ≠ 0 ∧ unixType ≠ 8)
  -- no error of this call is expected, and it is not caught
  let collisionKey ← expect (canonicalPathCollisionKey u name)
  throwIf (refused "Duplicate or cross-platform-colliding archive paths are forbidden")
    (name ∈ s.names ∨ collisionKey ∈ s.collisionKeys)
  throwIf (exceeded s!"Archive entry {String.ofList name} exceeds the per-file limit")
    (exceeds expandedSize limits.maximumSingleEntryBytes)
  throwIf (exceeded s!"Archive entry {String.ofList name} exceeds the compression-ratio limit")
    (exceeds (compressionRatio expandedSize compressedSize) limits.maximumCompressionRatio)
  let expandedBytes := s.expandedBytes + expandedSize
  throwIf (exceeded "The archive exceeds the expanded-size limit")
    (exceeds expandedBytes limits.maximumExpandedBytes)
  return {
    cursor := endOfEntry
    expandedBytes
    names := s.names ++ [name]
    collisionKeys := s.collisionKeys ++ [collisionKey]
    entries := s.entries ++ [{ name, compressedSize, expandedSize, crc32 }] }

/-- The loop over the entries. -/
def inspectEntries (limits : Limits) (data : Bytes) : ℕ → Inspection → Guarded ProjectOperationError Inspection
  | 0, s => pure s
  | count + 1, s => inspectEntry u limits data s >>= inspectEntries limits data count

def inspectZipArchive (limits : Limits) (data : Bytes) : Guarded ProjectOperationError InspectedArchive := do
  throwIf (exceeded "The archive exceeds the compressed-size limit")
    (exceeds data.length limits.maximumArchiveBytes)
  let endRecord ← findEndOfCentralDirectory data
  let disk ← readUInt16 data (endRecord + 4)
  let centralDisk ← readUInt16 data (endRecord + 6)
  let entryCount ← readUInt16 data (endRecord + 10)
  let centralSize ← readUInt32 data (endRecord + 12)
  let centralOffset ← readUInt32 data (endRecord + 16)
  throwIf (refused "Multi-disk ZIP archives are not supported") (disk ≠ 0 ∨ centralDisk ≠ 0)
  throwIf (exceeded "ZIP64 archives exceed the Phase 4 container policy")
    (entryCount = 0xffff ∨ centralSize = 0xffffffff ∨ centralOffset = 0xffffffff)
  throwIf (exceeded "The archive entry count is outside the allowed range")
    (entryCount = 0 ∨ exceeds entryCount limits.maximumEntries)
  throwIf (refused "The ZIP central directory is inconsistent")
    (endRecord < centralOffset + centralSize ∨ data.length < centralOffset + centralSize)
  let s ← inspectEntries u limits data entryCount
    { cursor := centralOffset, expandedBytes := 0, names := [], collisionKeys := [], entries := [] }
  throwIf (refused "The ZIP central directory size does not match its entries")
    (s.cursor ≠ centralOffset + centralSize)
  return { entries := s.entries, expandedBytes := s.expandedBytes }

/-! ### Without guards -/

variable {u}

theorem searchEnd_eq {minimum index : ℕ} (h : index + 4 ≤ data.length) :
    searchEnd data minimum index = .ok (ProjectArchive.searchEnd data minimum index) := by
  induction index with
  | zero =>
    rw [searchEnd, ProjectArchive.searchEnd, readUInt32_eq h, Checks.ok_bind]
    by_cases hmin : 0 < minimum
    · rw [if_pos hmin, if_pos hmin]
      rfl
    · rw [if_neg hmin, if_neg hmin]
      rfl
  | succ index ih =>
    rw [searchEnd, ProjectArchive.searchEnd, readUInt32_eq h, Checks.ok_bind]
    split_ifs
    · rfl
    · rfl
    · exact ih (by omega)

theorem findEndOfCentralDirectory_eq :
    findEndOfCentralDirectory data = ofExcept (ProjectArchive.findEndOfCentralDirectory data) := by
  unfold findEndOfCentralDirectory ProjectArchive.findEndOfCentralDirectory
  by_cases h : data.length < 22
  · simp only [if_pos h]
    rfl
  · simp only [if_neg h]
    rw [searchEnd_eq (by omega), Checks.ok_bind]
    cases ProjectArchive.searchEnd data (data.length - 65557) (data.length - 22) with
    | none => rfl
    | some index => rfl

/-- An accepted name is canonical, and returned as it is. -/
theorem safeArchiveName_ok_iff {decoded name : JsString} :
    safeArchiveName u decoded = .ok name ↔ Canonical u decoded ∧ name = decoded := by
  by_cases hc : Canonical u decoded
  · rw [safeArchiveName_ok hc]
    simp [hc, eq_comm]
  · have hvalid : (validateCanonicalRelativePath u decoded).valid = false := by simpa [Canonical] using hc
    simp [safeArchiveName, normalizeArchiveEntry, hvalid, hc]

/-- An accepted name has a collision key. -/
theorem expect_collisionKey {decoded name : JsString} (h : safeArchiveName u decoded = .ok name) :
    (expect (canonicalPathCollisionKey u name) : Guarded ProjectOperationError JsString) =
      ofExcept (portablePathCollisionKey u name) := by
  obtain ⟨hc, rfl⟩ := safeArchiveName_ok_iff.1 h
  rw [portablePathCollisionKey_ok hc, canonicalPathCollisionKey_ok.2 ⟨hc, rfl⟩]
  rfl

/-- **With integer limits the guards change nothing**, header by header. -/
theorem inspectEntry_eq (limits : ArchiveLimits) (s : Inspection) :
    inspectEntry u limits.numbers data s = ofExcept (ProjectArchive.inspectEntry u limits data s) := by
  unfold inspectEntry ProjectArchive.inspectEntry
  simp only [Guarded.ofExcept_bind, Guarded.ofExcept_failIf, Guarded.throwIf_or, bind_assoc, ArchiveLimits.numbers,
    exceeds_some, Nat.cast_lt]
  refine Guarded.throwIf_bind_congr fun hheader => ?_
  simp (disch := omega) only [readUInt32_eq, readUInt16_eq, Checks.ok_bind]
  refine Guarded.throwIf_bind_congr fun _ => Guarded.throwIf_bind_congr fun hbounds => ?_
  rw [slice_eq (by omega), Checks.ok_bind]
  iterate 4 refine Guarded.throwIf_bind_congr fun _ => ?_
  refine Guarded.ofExcept_bind_congr fun decoded _ => Guarded.ofExcept_bind_congr fun name hname => ?_
  rw [expect_collisionKey hname]
  rfl

theorem inspectEntries_eq (limits : ArchiveLimits) (count : ℕ) (s : Inspection) :
    inspectEntries u limits.numbers data count s = ofExcept (ProjectArchive.inspectEntries u limits data count s) := by
  induction count generalizing s with
  | zero => rfl
  | succ count ih =>
    rw [inspectEntries, ProjectArchive.inspectEntries, inspectEntry_eq, Guarded.ofExcept_bind]
    exact Guarded.ofExcept_bind_congr fun s' _ => ih s'

/-- The search finds the last signature in its range. -/
theorem searchEnd_some {minimum index found : ℕ} (h : ProjectArchive.searchEnd data minimum index = some found) :
    found ≤ index ∧ ProjectArchive.readUInt32 data found = 0x06054b50 ∧
      ∀ i, found < i → i ≤ index → ProjectArchive.readUInt32 data i ≠ 0x06054b50 := by
  induction index with
  | zero =>
    rw [ProjectArchive.searchEnd] at h
    split_ifs at h with _ hsig
    obtain rfl := Option.some.inj h
    exact ⟨le_rfl, hsig, fun i hi hle => by omega⟩
  | succ index ih =>
    rw [ProjectArchive.searchEnd] at h
    split_ifs at h with _ hsig
    · obtain rfl := Option.some.inj h
      exact ⟨le_rfl, hsig, fun i hi hle => by omega⟩
    · obtain ⟨hle, hfound, hlast⟩ := ih h
      refine ⟨by omega, hfound, fun i hi hi' => ?_⟩
      rcases Nat.lt_or_ge index i with hlt | hge
      · obtain rfl : i = index + 1 := by omega
        exact hsig
      · exact hlast i hi hge

/-- The end record is the last one that fits. -/
structure IsEndRecord (data : Bytes) (endRecord : ℕ) : Prop where
  inside : endRecord + 22 ≤ data.length
  signature : ProjectArchive.readUInt32 data endRecord = 0x06054b50
  last : ∀ i, endRecord < i → i + 22 ≤ data.length → ProjectArchive.readUInt32 data i ≠ 0x06054b50

theorem findEndOfCentralDirectory_ok {endRecord : ℕ}
    (h : ProjectArchive.findEndOfCentralDirectory data = .ok endRecord) : IsEndRecord data endRecord := by
  unfold ProjectArchive.findEndOfCentralDirectory at h
  by_cases hlength : data.length < 22
  · simp [if_pos hlength] at h
  · simp only [if_neg hlength] at h
    cases hsearch : ProjectArchive.searchEnd data (data.length - 65557) (data.length - 22) with
    | none =>
      rw [hsearch] at h
      cases h
    | some found =>
      rw [hsearch] at h
      obtain rfl := Except.ok.inj h
      obtain ⟨hle, hsig, hlast⟩ := searchEnd_some hsearch
      exact ⟨by omega, hsig, fun i hi hlt => hlast i hi (by omega)⟩

/-- **With integer limits the guards change nothing.** -/
theorem inspectZipArchive_eq (limits : ArchiveLimits) :
    inspectZipArchive u limits.numbers data = ofExcept (ProjectArchive.inspectZipArchive u limits data) := by
  unfold inspectZipArchive ProjectArchive.inspectZipArchive
  simp only [Guarded.ofExcept_bind, Guarded.ofExcept_failIf, Guarded.throwIf_or, ArchiveLimits.numbers, exceeds_some,
    Nat.cast_lt, findEndOfCentralDirectory_eq]
  refine Guarded.throwIf_bind_congr fun _ => Guarded.ofExcept_bind_congr fun endRecord hend => ?_
  have hinside := (findEndOfCentralDirectory_ok hend).inside
  simp (disch := omega) only [readUInt32_eq, readUInt16_eq, Checks.ok_bind]
  simp only [← inspectEntries_eq]
  rfl

end Reading

end OfflineWebArchiver.ProjectArchive
