import OfflineWebArchiver.Archive.GuardedInspect
import OfflineWebArchiver.Archive.Sample

/-!
# What an inspection guarantees

The inspection of an archive reads the end record and the central directory, and nothing else.

* `Tiles`: pieces that lie one after the other.
* `HeaderAt`: an entry is what the header at a place says.
* `inspection_exact`: **every inspection stays inside of the bytes, throws only its own errors, and
  reports the directory that the end record declares.**
* `Sample.no_local_header`: an archive whose one local header is not there.
-/

namespace OfflineWebArchiver.ProjectArchive

open Checks (bind_ok)
open Zip (Bytes)
open OfflineWebArchiver.Sample (ascii)

/-! ### Pieces -/

/-- The pieces lie one after the other from `start` to `stop`. -/
def Tiles {α : Type} (piece : ℕ → ℕ → α → Prop) : ℕ → List α → ℕ → Prop
  | start, [], stop => start = stop
  | start, a :: rest, stop => ∃ next, piece start next a ∧ Tiles piece next rest stop

variable {α : Type} {piece : ℕ → ℕ → α → Prop} {start stop next : ℕ} {as : List α} {a : α}

/-- One more piece at the end. -/
theorem Tiles.concat (h : Tiles piece start as stop) (ha : piece stop next a) : Tiles piece start (as ++ [a]) next := by
  induction as generalizing start with
  | nil =>
    obtain rfl : start = stop := h
    exact ⟨next, ha, rfl⟩
  | cons b as ih =>
    obtain ⟨middle, hb, hrest⟩ := h
    exact ⟨middle, hb, ih hrest⟩

/-- Every piece has its place. -/
theorem Tiles.exists_place (h : Tiles piece start as stop) (ha : a ∈ as) : ∃ i j, piece i j a := by
  induction as generalizing start with
  | nil => cases ha
  | cons b as ih =>
    obtain ⟨middle, hb, hrest⟩ := h
    rcases List.mem_cons.1 ha with rfl | ha
    · exact ⟨start, middle, hb⟩
    · exact ih hrest ha

/-! ### Entries -/

variable {u : Unicode} {limits : Limits} {data : Bytes} {s : Inspection}

/-- The entry is what the header from `start` to `next` says. -/
structure HeaderAt (u : Unicode) (data : Bytes) (start next : ℕ) (e : InspectedArchiveEntry) : Prop where
  inside : next ≤ data.length
  next : next = start + 46 + readUInt16 data (start + 28) + readUInt16 data (start + 30) + readUInt16 data (start + 32)
  signature : readUInt32 data start = 0x02014b50
  name : decodeEntryName ((data.drop (start + 46)).take (readUInt16 data (start + 28)))
    ((readUInt16 data (start + 8)).testBit 11) = .ok e.name
  canonical : Canonical u e.name
  crc32 : e.crc32 = readUInt32 data (start + 16)
  compressedSize : e.compressedSize = readUInt32 data (start + 20)
  expandedSize : e.expandedSize = readUInt32 data (start + 24)

/-- The errors of the inspection. -/
def Own (e : ProjectOperationError) : Prop :=
  e.code = .PROJECT_IMPORT_UNSAFE_ARCHIVE ∨ e.code = .PROJECT_IMPORT_LIMIT_EXCEEDED

theorem own_refused (message : String) : Own (refused message) := .inl rfl

theorem own_exceeded (message : String) : Own (exceeded message) := .inr rfl

theorem decodeEntryName_own {bytes : Bytes} {utf8 : Bool} {e : ProjectOperationError}
    (h : decodeEntryName bytes utf8 = .error e) : Own e := by
  unfold decodeEntryName at h
  split_ifs at h
  · rw [← Except.error.inj h]
    exact own_refused _
  · split at h
    · cases h
    · rw [← Except.error.inj h]
      exact own_refused _

theorem safeArchiveName_own {name : JsString} {e : ProjectOperationError} (h : safeArchiveName u name = .error e) :
    Own e := by
  unfold safeArchiveName at h
  split at h
  · cases h
  · rw [← Except.error.inj h]
    exact own_refused _

theorem findEndOfCentralDirectory_own {e : ProjectOperationError} (h : findEndOfCentralDirectory data = .error e) :
    Own e := by
  unfold findEndOfCentralDirectory at h
  generalize (if data.length < 22 then none else searchEnd data (data.length - 65557) (data.length - 22)) = found at h
  cases found with
  | none =>
    rw [← Except.error.inj h]
    exact own_refused _
  | some index => cases h

/-- What the rules ask of an entry behind the ones in hand. -/
structure EntryWithin (u : Unicode) (limits : Limits) (s : Inspection) (e : InspectedArchiveEntry) : Prop where
  freshKey : u.lower e.name ∉ s.collisionKeys
  single : ∀ most ∈ limits.maximumSingleEntryBytes, (e.expandedSize : ℚ) ≤ most
  ratio : ∀ most ∈ limits.maximumCompressionRatio, compressionRatio e.expandedSize e.compressedSize ≤ most
  total : ∀ most ∈ limits.maximumExpandedBytes, ((s.expandedBytes + e.expandedSize : ℕ) : ℚ) ≤ most

/-- The state behind an entry that ends at `next`. -/
def Inspection.behind (u : Unicode) (s : Inspection) (e : InspectedArchiveEntry) (next : ℕ) : Inspection where
  cursor := next
  expandedBytes := s.expandedBytes + e.expandedSize
  names := s.names ++ [e.name]
  collisionKeys := s.collisionKeys ++ [u.lower e.name]
  entries := s.entries ++ [e]

/-- **One header**: its entry is what the bytes say, and keeps to the rules. -/
theorem wp_inspectEntry (u : Unicode) (limits : Limits) (data : Bytes) (s : Inspection) :
    Guarded.wp (Reading.inspectEntry u limits data s) (fun t => ∃ e next, HeaderAt u data s.cursor next e ∧
      EntryWithin u limits s e ∧ t = s.behind u e next) Own := by
  unfold Reading.inspectEntry
  simp only [Guarded.wp_bind, Guarded.wp_throwIf, Guarded.wp_ofExcept, Guarded.wp_expect, Reading.wp_readUInt16,
    Reading.wp_readUInt32, Reading.wp_slice, Guarded.wp_pure, own_refused, own_exceeded, implies_true, true_and,
    not_exceeds]
  intro hheader
  refine ⟨by omega, fun hsignature => ?_⟩
  -- the fixed part of the header is inside
  iterate 11 refine ⟨by omega, ?_⟩
  intro hbounds _ _ _
  refine ⟨by omega, ⟨fun decoded hdecoded => ⟨fun name hname => ?_, fun e he => safeArchiveName_own he⟩,
    fun e he => decodeEntryName_own he⟩⟩
  obtain ⟨hcanonical, rfl⟩ := Reading.safeArchiveName_ok_iff.1 hname
  intro _ _
  refine ⟨_, canonicalPathCollisionKey_ok.2 ⟨hcanonical, rfl⟩, fun hfresh hsingle hratio htotal => ?_⟩
  rw [not_or] at hfresh hbounds
  exact ⟨⟨name, _, _, _⟩, _, ⟨by omega, rfl, not_not.1 hsignature, hdecoded, hcanonical, rfl, rfl, rfl⟩,
    ⟨hfresh.2, hsingle, hratio, htotal⟩, rfl⟩

/-! ### The directory -/

/-- What holds of the entries in hand. -/
structure Seen (u : Unicode) (limits : Limits) (data : Bytes) (start : ℕ) (s : Inspection) : Prop where
  tiles : Tiles (HeaderAt u data) start s.entries s.cursor
  keys : s.collisionKeys = s.entries.map fun e => u.lower e.name
  nodup : s.collisionKeys.Nodup
  single : ∀ e ∈ s.entries, ∀ most ∈ limits.maximumSingleEntryBytes, (e.expandedSize : ℚ) ≤ most
  ratio : ∀ e ∈ s.entries, ∀ most ∈ limits.maximumCompressionRatio,
    compressionRatio e.expandedSize e.compressedSize ≤ most
  expanded : s.expandedBytes = (s.entries.map (·.expandedSize)).sum
  total : s.entries ≠ [] → ∀ most ∈ limits.maximumExpandedBytes, (s.expandedBytes : ℚ) ≤ most

theorem seen_start (u : Unicode) (limits : Limits) (data : Bytes) (start : ℕ) : Seen u limits data start (.start start) where
  tiles := rfl
  keys := rfl
  nodup := List.nodup_nil
  single := fun e he => by cases he
  ratio := fun e he => by cases he
  expanded := rfl
  total := fun h => absurd rfl h

/-- **One more entry.** -/
theorem Seen.behind {e : InspectedArchiveEntry} (h : Seen u limits data start s) (hat : HeaderAt u data s.cursor next e)
    (hwithin : EntryWithin u limits s e) : Seen u limits data start (s.behind u e next) where
  tiles := h.tiles.concat hat
  keys := by simp [Inspection.behind, h.keys]
  nodup := by
    refine List.nodup_append.2 ⟨h.nodup, List.nodup_singleton _, fun key hkey other hother hsame => ?_⟩
    rw [List.mem_singleton.1 hother] at hsame
    exact hwithin.freshKey (hsame ▸ hkey)
  single := fun x hx => by
    rcases List.mem_append.1 hx with hx | hx
    · exact h.single x hx
    · rw [List.mem_singleton.1 hx]
      exact hwithin.single
  ratio := fun x hx => by
    rcases List.mem_append.1 hx with hx | hx
    · exact h.ratio x hx
    · rw [List.mem_singleton.1 hx]
      exact hwithin.ratio
  expanded := by simp [Inspection.behind, h.expanded]
  total := fun _ => hwithin.total

/-- **The loop over the entries.** -/
theorem wp_inspectEntries (u : Unicode) (limits : Limits) (data : Bytes) {start : ℕ} (count : ℕ)
    (h : Seen u limits data start s) : Guarded.wp (Reading.inspectEntries u limits data count s)
      (fun t => Seen u limits data start t ∧ t.entries.length = s.entries.length + count) Own := by
  induction count generalizing s with
  | zero => exact ⟨h, rfl⟩
  | succ count ih =>
    rw [Reading.inspectEntries, Guarded.wp_bind]
    refine Guarded.wp_mono (wp_inspectEntry u limits data s) ?_
    rintro t ⟨e, next, hat, hwithin, rfl⟩
    refine Guarded.wp_mono (ih (h.behind hat hwithin)) fun t ht => ⟨ht.1, ?_⟩
    have hone : (s.behind u e next).entries.length = s.entries.length + 1 := by
      rw [Inspection.behind, List.length_append]
      rfl
    rw [ht.2, hone]
    omega

/-- The archive is what the inspection reports, and keeps to the limits. -/
structure Inspected (u : Unicode) (limits : Limits) (data : Bytes) (r : InspectedArchive) : Prop where
  directory : ∃ endRecord, Reading.IsEndRecord data endRecord ∧
    r.entries.length = readUInt16 data (endRecord + 10) ∧
    readUInt32 data (endRecord + 16) + readUInt32 data (endRecord + 12) ≤ endRecord ∧
    Tiles (HeaderAt u data) (readUInt32 data (endRecord + 16)) r.entries
      (readUInt32 data (endRecord + 16) + readUInt32 data (endRecord + 12))
  distinct : (r.entries.map (·.name)).Nodup
  distinctKeys : (r.entries.map fun e => u.lower e.name).Nodup
  safe : ∀ e ∈ r.entries, Canonical u e.name
  nonempty : r.entries ≠ []
  bytes : ∀ most ∈ limits.maximumArchiveBytes, (data.length : ℚ) ≤ most
  count : ∀ most ∈ limits.maximumEntries, (r.entries.length : ℚ) ≤ most
  single : ∀ e ∈ r.entries, ∀ most ∈ limits.maximumSingleEntryBytes, (e.expandedSize : ℚ) ≤ most
  ratio : ∀ e ∈ r.entries, ∀ most ∈ limits.maximumCompressionRatio,
    compressionRatio e.expandedSize e.compressedSize ≤ most
  expanded : r.expandedBytes = (r.entries.map (·.expandedSize)).sum
  total : ∀ most ∈ limits.maximumExpandedBytes, (r.expandedBytes : ℚ) ≤ most

theorem wp_inspectZipArchive (u : Unicode) (limits : Limits) (data : Bytes) :
    Guarded.wp (Reading.inspectZipArchive u limits data) (Inspected u limits data) Own := by
  unfold Reading.inspectZipArchive
  simp only [Guarded.wp_bind, Guarded.wp_throwIf, Reading.findEndOfCentralDirectory_eq, Guarded.wp_ofExcept,
    Reading.wp_readUInt16, Reading.wp_readUInt32, Guarded.wp_pure, own_refused, own_exceeded, implies_true, true_and,
    not_or, not_exceeds, not_not]
  refine fun hbytes => ⟨fun endRecord hend => ?_, fun e he => findEndOfCentralDirectory_own he⟩
  have hrecord := Reading.findEndOfCentralDirectory_ok hend
  have hinside := hrecord.inside
  iterate 5 refine ⟨by omega, ?_⟩
  intro _ _ hcount hdirectory
  refine Guarded.wp_mono (wp_inspectEntries u limits data _ (seen_start u limits data _)) fun s hs => ?_
  obtain ⟨hseen, hlength⟩ := hs
  have hcard : s.entries.length = readUInt16 data (endRecord + 10) := hlength.trans (Nat.zero_add _)
  have hnonempty : s.entries ≠ [] := fun hnil => hcount.1 (by rw [← hcard, hnil]; rfl)
  intro hcursor
  have hkeys : (s.entries.map fun e => u.lower e.name).Nodup := hseen.keys ▸ hseen.nodup
  refine ⟨⟨endRecord, hrecord, hcard, not_lt.1 hdirectory.1, hcursor ▸ hseen.tiles⟩, ?_, hkeys, fun e he => ?_,
    hnonempty, hbytes, ?_, hseen.single, hseen.ratio, hseen.expanded, hseen.total hnonempty⟩
  · -- names with different keys are different
    have hmap : (s.entries.map fun e => u.lower e.name) = (s.entries.map (·.name)).map u.lower := by simp
    rw [hmap] at hkeys
    exact hkeys.of_map
  · obtain ⟨i, j, hat⟩ := hseen.tiles.exists_place he
    exact hat.canonical
  · rw [hcard]
    exact hcount.2

/-- **Inspection is total, in bounds and exact.** For all bytes and limits it returns, or throws one of its
own errors; it never reads outside of the bytes; and what it reports is the directory that the end
record declares, within the limits. -/
theorem inspection_exact (u : Unicode) (limits : Limits) (data : Bytes) :
    (∃ r, Reading.inspectZipArchive u limits data = .ok r ∧ Inspected u limits data r) ∨
      ∃ e, Reading.inspectZipArchive u limits data = .error (some e) ∧ Own e :=
  Guarded.wp_iff.1 (wp_inspectZipArchive u limits data)

/-! ### A local header that is not there -/

/-- The local header that the central header at `start` refers to lies inside of the bytes. -/
def LocalInside (data : Bytes) (start : ℕ) : Prop := readUInt32 data (start + 42) + 30 ≤ data.length

namespace Sample

/-- An empty file `a`, with a local header at 1000. -/
def strayHeader : Zip.CentralHeader where
  versionMadeBy := 20
  versionNeeded := 20
  flags := 0
  method := 0
  modified := 0
  crc32 := 0
  compressedSize := 0
  expandedSize := 0
  diskStart := 0
  internalAttributes := 0
  externalAttributes := 0
  localOffset := 1000
  name := encodeUtf8 ['a']
  extra := []
  comment := []

/-- An archive of 69 bytes. -/
def stray : Bytes := Zip.container [] [strayHeader]

theorem stray_reported : ∀ p ∈ [(['a'], strayHeader)], Reported ascii p := by
  intro p hp
  obtain rfl := List.mem_singleton.1 hp
  have hfits : ∀ f ∈ strayHeader.fields, f.2 < 256 ^ f.1 := by decide
  have hmark : ∀ c ∈ ['a'].head?, c.toNat ≠ 0xfeff := by
    rintro c ⟨⟩
    decide
  exact ⟨⟨hfits, rfl, by decide, .inl rfl, rfl, by decide, rfl, rfl⟩, rfl, ⟨by decide, hmark⟩⟩

/-- **The local header is not looked at.** -/
theorem no_local_header : ∃ r, Reading.inspectZipArchive ascii defaultArchiveLimits.numbers stray = .ok r ∧
    stray.length = 69 ∧ readUInt32 stray 42 = 1000 ∧
    ¬Tiles (fun i j e => HeaderAt ascii stray i j e ∧ LocalInside stray i) 0 r.entries 47 := by
  have hlimits : stray.length ≤ defaultArchiveLimits.maximumArchiveBytes := by decide
  have hadmitted : AdmittedAll ascii defaultArchiveLimits (.start 0) [(['a'], strayHeader)] :=
    ⟨⟨by simp [Inspection.start], by simp [Inspection.start], by decide, by decide, by decide⟩, trivial⟩
  obtain ⟨r, hr⟩ := (@inspectZipArchive_container ascii defaultArchiveLimits _ stray_reported (by decide) []
    (by decide)).2 ⟨hlimits, by decide, by decide, hadmitted⟩
  refine ⟨r, ?_, by decide, by decide, fun htiles => ?_⟩
  · rw [Reading.inspectZipArchive_eq]
    exact congrArg Guarded.ofExcept hr
  · have hfar : ¬LocalInside stray 0 := by
      unfold LocalInside
      decide
    cases hentries : r.entries with
    | nil =>
      rw [hentries] at htiles
      cases htiles
    | cons e rest =>
      rw [hentries] at htiles
      obtain ⟨next, ⟨-, hinside⟩, -⟩ := htiles
      exact hfar hinside

end Sample

end OfflineWebArchiver.ProjectArchive
