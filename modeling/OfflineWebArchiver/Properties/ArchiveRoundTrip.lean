import OfflineWebArchiver.Archive.Inventory
import OfflineWebArchiver.Archive.Sample
import OfflineWebArchiver.Lib.Sha256

/-!
# The round trip of a project archive

Export and import check an archive with different code. Import also looks at the ratio of
every entry, at paths that differ only by case, at the manifest and at the fields that
only ZIP64 can hold.

* `Restorable`: what import asks of an exported archive beyond the limits of export.
* `import_exported_iff`: **an exported archive is imported, with exactly its files, exactly when
  it is restorable.**
* `export_not_imported`: an archive of two pages whose paths differ by case is written and
  then refused.
-/

namespace OfflineWebArchiver.ProjectArchive

open Checks (bind_ok failIf_ok)
open Zip (Bytes)

variable {env : Env} {input : ExportInput} {files : Files} {archive : ExportedArchive}

/-- What export checks. -/
structure Written (env : Env) (input : ExportInput) (files : Files) (archive : ExportedArchive) : Prop where
  collected : exportFiles env.unicode input = .ok files
  count : (archiveEntries env input files).length ≤ input.limits.maximumEntries
  total : ((archiveEntries env input files).map fun e => e.2.length).sum ≤ input.limits.maximumExpandedBytes
  single : ∀ e ∈ archiveEntries env input files, e.2.length ≤ input.limits.maximumSingleEntryBytes
  bytes : archive.data.length ≤ input.limits.maximumArchiveBytes
  data : archive.data = env.zipSync (archiveEntries env input files)

theorem createProjectArchive_ok (h : createProjectArchive env input = .ok archive) :
    ∃ files, Written env input files archive := by
  obtain ⟨files, hfiles, h⟩ := bind_ok.1 h
  obtain ⟨_, hcounts, h⟩ := bind_ok.1 h
  obtain ⟨_, hsingle, h⟩ := bind_ok.1 h
  obtain ⟨_, hbytes, h⟩ := bind_ok.1 h
  have hlimits := not_or.1 (failIf_ok.1 hcounts)
  have hdata : archive.data = env.zipSync (archiveEntries env input files) := by
    rw [← Checks.pure_ok.1 h]
  refine ⟨files, hfiles, not_lt.1 hlimits.1, not_lt.1 hlimits.2, ?_, ?_, hdata⟩
  · intro e he
    exact not_lt.1 (failIf_ok.1 (Checks.forM_ok.1 hsingle e he))
  · rw [hdata]
    exact not_lt.1 (failIf_ok.1 hbytes)

/-- What import asks of an exported archive beyond the limits of export. -/
structure Restorable (env : Env) (limits : ArchiveLimits) (files entries : Files) : Prop where
  manifest : projectManifestFile ∈ files.map Prod.fst
  ratio : ∀ e ∈ entries,
    compressionRatio e.2.length (env.deflatedSize e.2) ≤ limits.maximumCompressionRatio
  keys : (entries.map fun e => env.unicode.lower e.1).Nodup
  count : entries.length < 0xffff
  offset : Zip.bodyLength (listing env entries) ≠ 0xffffffff

/-! ### The entries of an exported archive -/

/-- An exported path begins with an ASCII letter. -/
theorem noMark_of_allowed {path : JsString} (h : exportPathIsAllowed path = true) :
    ∀ c ∈ path.head?, c.toNat ≠ 0xfeff := by
  have hprefix : ∃ p ∈ projectManifestFile :: projectDatabasePath :: exportedPrefixes, p <+: path := by
    unfold exportPathIsAllowed at h
    split_ifs at h with hfile
    · rcases hfile with rfl | rfl
      · exact ⟨_, List.mem_cons_self, List.prefix_rfl⟩
      · exact ⟨_, List.mem_cons_of_mem _ List.mem_cons_self, List.prefix_rfl⟩
    · obtain ⟨p, hp, hpre⟩ := List.any_eq_true.1 h
      exact ⟨p, List.mem_cons_of_mem _ (List.mem_cons_of_mem _ hp), List.isPrefixOf_iff_prefix.1 hpre⟩
  obtain ⟨p, hp, rest, rfl⟩ := hprefix
  have hheads : (projectManifestFile :: projectDatabasePath :: exportedPrefixes).all
      (fun p => p.head?.any fun c => c.toNat < 0x80) = true := by decide
  obtain ⟨a, ha, hlow⟩ := (Option.any_eq_true _ _).1 (List.all_eq_true.1 hheads p hp)
  intro c hc
  rw [List.head?_append, ha] at hc
  obtain rfl : a = c := by simpa using hc
  have := of_decide_eq_true hlow
  omega

variable (henv : env.Lawful)
include henv

theorem archiveEntries_portable (h : Exported env.unicode files) (input : ExportInput) :
    ∀ e ∈ archiveEntries env input files, Portable env.unicode e.1 := by
  have hcanonical : Canonical env.unicode exportMetadataFile :=
    canonical_ascii henv (by decide) (by decide)
  rw [archiveEntries_eq env h]
  refine List.forall_mem_cons.2 ⟨⟨hcanonical, ?_⟩, ?_⟩
  · intro c hc
    have hhead : exportMetadataFile.head? = some '.' := by decide
    obtain rfl : '.' = c := Option.some.inj (hhead.symm.trans hc)
    decide
  · intro f hf
    have hpath := (h.ordered env).paths f hf
    exact ⟨hpath.canonical, noMark_of_allowed hpath.allowed⟩

/-- **Import, on an exported archive**: the directory is accepted, every entry is counted, and
the manifest is there. The inventory always fits. -/
theorem extract_iff (hfiles : exportFiles env.unicode input = .ok files)
    (hpack : env.Packs (archiveEntries env input files)) {limits : ArchiveLimits} {r : ImportedArchive} :
    extractAndVerifyProjectArchive env (env.zipSync (archiveEntries env input files)) limits = .ok r ↔
      ∃ a, inspectZipArchive env.unicode limits (env.zipSync (archiveEntries env input files)) = .ok a ∧
        (archiveEntries env input files).length = a.entries.length ∧
        projectManifestFile ∈ files.map Prod.fst ∧
        r = { files := ordered env files, projectId := input.projectId, entryCount := a.entries.length } := by
  obtain ⟨hexported, hdatabase⟩ := exportFiles_exported henv hfiles
  have hsorted := hexported.ordered env
  have hentries := archiveEntries_eq env hexported input
  have hkeys : ((archiveEntries env input files).map Prod.fst).Nodup := by
    rw [hentries]
    exact List.nodup_cons.2 ⟨metadata_not_mem hsorted, hsorted.nodup⟩
  have hmetadataIn : (exportMetadataFile, metadataBytes env input files) ∈ archiveEntries env input files := by
    rw [hentries]
    exact List.mem_cons_self
  have hunpack : unpack env (env.zipSync (archiveEntries env input files)) =
      .ok (archiveEntries env input files) := by
    rw [unpack, hpack.unzip]
  have hmetadata : readMetadata env (archiveEntries env input files) =
      .ok { projectId := input.projectId, exportedAt := input.exportedAt,
            files := (ordered env files).map (inventoryValue env) } := by
    have hfind := payload?_of_mem hkeys hmetadataIn
    rw [readMetadata, hfind]
    exact parseExportMetadata_eq henv input files
  have hverify : ((ordered env files).map (inventoryValue env)).foldlM
      (verifyItem env (archiveEntries env input files)) [] = .ok (ordered env files) := by
    refine verifyItems hsorted (fun f hf => ?_) hsorted.nodup
    refine payload?_of_mem hkeys ?_
    rw [hentries]
    exact List.mem_cons_of_mem _ hf
  have hnames : ((archiveEntries env input files).map Prod.fst).filter (· ≠ exportMetadataFile) =
      (ordered env files).map Prod.fst := by
    rw [hentries, List.map_cons, List.filter_cons_of_neg (by simp)]
    refine List.filter_eq_self.2 fun name hname => ?_
    have hne : name ≠ exportMetadataFile := fun he => metadata_not_mem hsorted (he ▸ hname)
    simpa using hne
  have hdeclared : ¬(((ordered env files).map Prod.fst).length ≠ (ordered env files).length ∨
      ∃ name ∈ (ordered env files).map Prod.fst, name ∉ (ordered env files).map Prod.fst) := by
    rintro (hlen | ⟨name, hin, hout⟩)
    · exact hlen (List.length_map _)
    · exact hout hin
  have hmem : ∀ name, name ∈ (ordered env files).map Prod.fst ↔ name ∈ files.map Prod.fst := fun name =>
    ((ordered_perm files).map Prod.fst).mem_iff
  unfold extractAndVerifyProjectArchive
  constructor
  · intro h
    obtain ⟨a, ha, h⟩ := bind_ok.1 h
    rw [hunpack, Checks.ok_bind] at h
    obtain ⟨_, hcount, h⟩ := bind_ok.1 h
    rw [hmetadata, Checks.ok_bind] at h
    obtain ⟨done, hdone, h⟩ := bind_ok.1 h
    obtain rfl := Except.ok.inj (hverify.symm.trans hdone)
    obtain ⟨_, -, h⟩ := bind_ok.1 h
    obtain ⟨_, hmanifest, h⟩ := bind_ok.1 h
    refine ⟨a, ha, not_not.1 (failIf_ok.1 hcount), ?_, (Checks.pure_ok.1 h).symm⟩
    have hboth := not_or.1 (failIf_ok.1 hmanifest)
    exact (hmem _).1 (not_not.1 hboth.1)
  · rintro ⟨a, ha, hcount, hmanifest, rfl⟩
    refine bind_ok.2 ⟨a, ha, ?_⟩
    rw [hunpack, Checks.ok_bind]
    refine bind_ok.2 ⟨(), failIf_ok.2 (not_not.2 hcount), ?_⟩
    rw [hmetadata, Checks.ok_bind]
    refine bind_ok.2 ⟨ordered env files, hverify, ?_⟩
    refine bind_ok.2 ⟨(), failIf_ok.2 (by rw [hnames]; exact hdeclared), ?_⟩
    refine bind_ok.2 ⟨(), failIf_ok.2 (not_or.2 ⟨not_not.2 ?_, not_not.2 ?_⟩), rfl⟩
    · exact (hmem _).2 hmanifest
    · exact (hmem _).2 hdatabase

/-- An exported archive is accepted exactly when what is asked beyond the limits of export holds. -/
theorem inspect_written_iff (hw : Written env input files archive)
    (hpack : env.Packs (archiveEntries env input files)) :
    (∃ a, inspectZipArchive env.unicode input.limits (env.zipSync (archiveEntries env input files)) = .ok a ∧
        (archiveEntries env input files).length = a.entries.length) ↔
      (∀ e ∈ archiveEntries env input files,
        compressionRatio e.2.length (env.deflatedSize e.2) ≤ input.limits.maximumCompressionRatio) ∧
      ((archiveEntries env input files).map fun e => env.unicode.lower e.1).Nodup ∧
      (archiveEntries env input files).length < 0xffff ∧
      Zip.bodyLength (listing env (archiveEntries env input files)) ≠ 0xffffffff := by
  obtain ⟨hexported, -⟩ := exportFiles_exported henv hw.collected
  have hportable := archiveEntries_portable henv hexported input
  have hiff := inspectZipArchive_iff input.limits hpack.describes hportable
  constructor
  · rintro ⟨a, ha, hcount⟩
    have hreported := inspectZipArchive_length hpack.describes ha
    have hsmall : (archiveEntries env input files).length < 2 ^ 16 := by omega
    have hacc := (hiff hsmall).1 ⟨a, ha⟩
    have hmax := hacc.countZip64
    exact ⟨hacc.ratio, hacc.keys, by omega, hacc.offsetZip64⟩
  · rintro ⟨hratio, hkeys, hcount, hoffset⟩
    have hsmall : (archiveEntries env input files).length < 2 ^ 16 := by omega
    have hne : archiveEntries env input files ≠ [] := by
      rw [archiveEntries_eq env hexported]
      exact List.cons_ne_nil _ _
    obtain ⟨a, ha⟩ := (hiff hsmall).2 ⟨by rw [← hw.data]; exact hw.bytes, hne, hw.count, hw.single, hw.total,
      hratio, hkeys, by omega, hoffset⟩
    have hreported := inspectZipArchive_length hpack.describes ha
    exact ⟨a, ha, by omega⟩

/-- **An exported archive is imported, with exactly its files and its project, exactly when it is
restorable.** -/
theorem import_exported_iff (hfiles : exportFiles env.unicode input = .ok files)
    (h : createProjectArchive env input = .ok archive) (hpack : env.Packs (archiveEntries env input files)) :
    (∃ r, extractAndVerifyProjectArchive env archive.data input.limits = .ok r ∧
        r.projectId = input.projectId ∧ r.files.Perm files) ↔
      Restorable env input.limits files (archiveEntries env input files) := by
  obtain ⟨files', hw⟩ := createProjectArchive_ok h
  obtain rfl := Except.ok.inj (hfiles.symm.trans hw.collected)
  have hinspect := inspect_written_iff henv hw hpack
  rw [hw.data]
  constructor
  · rintro ⟨r, hr, -⟩
    obtain ⟨a, ha, hcount, hmanifest, -⟩ := (extract_iff henv hfiles hpack).1 hr
    obtain ⟨hratio, hkeys, hlen, hoffset⟩ := hinspect.1 ⟨a, ha, hcount⟩
    exact ⟨hmanifest, hratio, hkeys, hlen, hoffset⟩
  · intro hr
    obtain ⟨a, ha, hcount⟩ := hinspect.2 ⟨hr.ratio, hr.keys, hr.count, hr.offset⟩
    exact ⟨_, (extract_iff henv hfiles hpack).2 ⟨a, ha, hcount, hr.manifest, rfl⟩, rfl, ordered_perm files⟩

omit henv

/-! ### A packer

Every content is one stored deflate block. -/

def crcRound (c : UInt32) : UInt32 := if c &&& 1 = 1 then (c >>> 1) ^^^ 0xedb88320 else c >>> 1

def crcByte (c : UInt32) (b : UInt8) : UInt32 := crcRound^[8] (c ^^^ b.toUInt32)

def crc32 (data : Bytes) : UInt32 := data.foldl crcByte 0xffffffff ^^^ 0xffffffff

def storedBlock (data : Bytes) : Bytes :=
  Zip.record [(1, 1), (2, data.length), (2, 0xffff - data.length)] ++ data

/-- Bit 11 marks a name outside ASCII. -/
def nameFlags (name : Bytes) : ℕ := if name.any (fun b => decide (0x7f < b)) then 0x800 else 0

def localRecord (e : JsString × Bytes) : Bytes :=
  Zip.record [(4, 0x04034b50), (2, 20), (2, nameFlags (encodeUtf8 e.1)), (2, 8), (4, 0x00216000),
    (4, (crc32 e.2).toNat), (4, e.2.length + 5), (4, e.2.length), (2, (encodeUtf8 e.1).length), (2, 0)] ++
    (encodeUtf8 e.1 ++ storedBlock e.2)

def centralHeader (start : ℕ) (e : JsString × Bytes) : Zip.CentralHeader where
  versionMadeBy := 20
  versionNeeded := 20
  flags := nameFlags (encodeUtf8 e.1)
  method := 8
  modified := 0x00216000
  crc32 := (crc32 e.2).toNat
  compressedSize := e.2.length + 5
  expandedSize := e.2.length
  diskStart := 0
  internalAttributes := 0
  externalAttributes := 0
  localOffset := start
  name := encodeUtf8 e.1
  extra := []
  comment := []

def centralHeaders : ℕ → Files → List Zip.CentralHeader
  | _, [] => []
  | start, e :: entries => centralHeader start e :: centralHeaders (start + (localRecord e).length) entries

def packStored (entries : Files) : Bytes :=
  Zip.container (entries.flatMap localRecord) (centralHeaders 0 entries)

/-- The packer that knows how to unpack one archive. -/
def storedEnv (entries : Files) : Env where
  unicode := Sample.ascii
  zipSync := packStored
  deflatedSize := fun data => data.length + 5
  unzipSync := fun data => if data = packStored entries then some entries else none
  strToU8 := encodeUtf8
  strFromU8 := fun bytes => (decodeFatal bytes).getD []
  sha256 := fun data => (Sha256.digest data).toList
  localeLe := fun a b => !jsLt b a

theorem storedEnv_lawful (entries : Files) : (storedEnv entries).Lawful where
  text := fun s hs => by
    show (decodeFatal (encodeUtf8 s)).getD [] = s
    rw [decodeFatal_encode hs, Option.getD_some]
  ascii := fun _ _ => rfl

/-- `storedEnv`, with digests that reduce quickly. -/
def quickEnv (entries : Files) : Env := { storedEnv entries with sha256 := Sha256.digestChars }

theorem storedEnv_eq (entries : Files) : storedEnv entries = quickEnv entries := by
  have hsha : (fun data => (Sha256.digest data).toList) = Sha256.digestChars := by
    funext data
    rw [Sha256.digest_eq, String.toList_ofList]
  unfold quickEnv storedEnv
  rw [hsha]

theorem localRecord_length (e : JsString × Bytes) :
    (localRecord e).length = 30 + (encodeUtf8 e.1).length + (e.2.length + 5) := by
  rw [localRecord, storedBlock, List.length_append, List.length_append, List.length_append,
    Zip.record_length, Zip.record_length]
  show 30 + ((encodeUtf8 e.1).length + (5 + e.2.length)) = _
  omega

theorem body_length (all entries : Files) :
    (entries.flatMap localRecord).length = Zip.bodyLength (listing (storedEnv all) entries) := by
  induction entries with
  | nil => rfl
  | cons e entries ih =>
    have hcons : Zip.bodyLength (listing (storedEnv all) (e :: entries)) =
        30 + (encodeUtf8 e.1).length + (e.2.length + 5) + Zip.bodyLength (listing (storedEnv all) entries) := rfl
    rw [List.flatMap_cons, List.length_append, localRecord_length, hcons, ih]

theorem centralHeaders_plain {entries : Files} {start : ℕ}
    (hnames : ∀ e ∈ entries, (encodeUtf8 e.1).length < 2 ^ 16)
    (hsize : start + (entries.flatMap localRecord).length < 2 ^ 32) :
    ∀ h ∈ centralHeaders start entries, h.Plain := by
  induction entries generalizing start with
  | nil => intro h hh; cases hh
  | cons e entries ih =>
    rw [List.forall_mem_cons] at hnames
    rw [List.flatMap_cons, List.length_append] at hsize
    have hlocal := localRecord_length e
    refine List.forall_mem_cons.2 ⟨?_, ih hnames.2 (by omega)⟩
    have hflags : nameFlags (encodeUtf8 e.1) < 2 ^ 16 := by
      unfold nameFlags
      split <;> decide
    have hcrc := (crc32 e.2).toNat_lt
    refine ⟨?_, ?_, ?_, .inr rfl, rfl, by show 20 < 256; decide, rfl, rfl⟩
    · have hname := hnames.1
      simp only [Zip.CentralHeader.Fits, Zip.CentralHeader.fields, centralHeader, Zip.centralSignature,
        List.forall_mem_cons, List.length_nil]
      refine ⟨by decide, by decide, by decide, hflags, by decide, by decide, hcrc, by omega, by omega,
        hname, by decide, by decide, by decide, by decide, by decide, by omega, fun f hf => by cases hf⟩
    · show (nameFlags (encodeUtf8 e.1)).testBit 0 = false
      unfold nameFlags
      split <;> decide
    · intro hany
      have hset : nameFlags (encodeUtf8 e.1) = 0x800 := if_pos hany
      show (nameFlags (encodeUtf8 e.1)).testBit 11 = true
      rw [hset]
      decide

theorem centralHeaders_listing (all entries : Files) (start : ℕ) :
    (centralHeaders start entries).map (fun h => (h.name, h.compressedSize, h.expandedSize)) =
      listing (storedEnv all) entries := by
  induction entries generalizing start with
  | nil => rfl
  | cons e entries ih =>
    rw [centralHeaders, List.map_cons, ih]
    rfl

/-- **The packer reports truly what it packs.** -/
theorem packStored_packs {entries : Files} (hnames : ∀ e ∈ entries, (encodeUtf8 e.1).length < 2 ^ 16)
    (hsize : (entries.flatMap localRecord).length < 2 ^ 32) : (storedEnv entries).Packs entries where
  unzip := if_pos rfl
  describes := {
    layout := ⟨entries.flatMap localRecord, centralHeaders 0 entries, rfl, body_length _ _,
      centralHeaders_plain hnames (by rw [Nat.zero_add]; exact hsize), centralHeaders_listing _ _ _⟩
    offset := by rw [← body_length]; exact hsize }

/-- A project with these pages. -/
def projectInput (pages : List (JsString × Node)) : ExportInput where
  projectRoot := [("project.json".toList, .file [123, 125]), ("logs".toList, .directory [("a.log".toList, .file [1])]),
    ("pages".toList, .directory pages)]
  projectId := "p".toList
  exportedAt := "2026-01-01T00:00:00.000Z".toList
  databaseSnapshot := [83, 81, 76]
  limits := defaultArchiveLimits

/-- The packer for the archive of a project. -/
def projectEnv (input : ExportInput) (files : Files) : Env :=
  storedEnv (archiveEntries (storedEnv []) input files)

/-- What is packed does not depend on what the packer can unpack. -/
theorem archiveEntries_project (input : ExportInput) (files : Files) :
    archiveEntries (projectEnv input files) input files = archiveEntries (storedEnv []) input files := rfl

/-- Names that fit and a total that fits. -/
def Fits (entries : Files) : Prop :=
  (∀ e ∈ entries, (encodeUtf8 e.1).length < 2 ^ 16) ∧ (entries.flatMap localRecord).length < 2 ^ 32

instance (entries : Files) : Decidable (Fits entries) := by unfold Fits; infer_instance

def onePage : ExportInput := projectInput [("a.html".toList, .file [72, 105])]

def onePageFiles : Files :=
  [("project.json".toList, [123, 125]), ("pages/a.html".toList, [72, 105]), ("database/crawl.db".toList, [83, 81, 76])]

theorem project_packs {input : ExportInput} {files : Files}
    (h : Fits (archiveEntries (storedEnv []) input files)) :
    (projectEnv input files).Packs (archiveEntries (projectEnv input files) input files) := by
  rw [archiveEntries_project]
  exact packStored_packs h.1 h.2

theorem project_restorable {input : ExportInput} {files : Files} {limits : ArchiveLimits}
    (hmanifest : projectManifestFile ∈ files.map Prod.fst)
    (hratio : ∀ e ∈ archiveEntries (storedEnv []) input files,
      compressionRatio e.2.length (e.2.length + 5) ≤ limits.maximumCompressionRatio)
    (hkeys : ((archiveEntries (storedEnv []) input files).map fun e => Sample.ascii.lower e.1).Nodup)
    (hcount : (archiveEntries (storedEnv []) input files).length < 0xffff)
    (hoffset : Zip.bodyLength (listing (storedEnv []) (archiveEntries (storedEnv []) input files)) ≠ 0xffffffff) :
    Restorable (projectEnv input files) limits files
      (archiveEntries (projectEnv input files) input files) := by
  rw [archiveEntries_project]
  exact ⟨hmanifest, hratio, hkeys, hcount, hoffset⟩

theorem onePage_runs : exportFiles Sample.ascii onePage = .ok onePageFiles ∧
    Fits (archiveEntries (storedEnv []) onePage onePageFiles) ∧
    (createProjectArchive (projectEnv onePage onePageFiles) onePage).toOption.isSome = true ∧
    (∀ e ∈ archiveEntries (storedEnv []) onePage onePageFiles,
      compressionRatio e.2.length (e.2.length + 5) ≤ defaultArchiveLimits.maximumCompressionRatio) ∧
    ((archiveEntries (storedEnv []) onePage onePageFiles).map fun e => Sample.ascii.lower e.1).Nodup ∧
    (archiveEntries (storedEnv []) onePage onePageFiles).length < 0xffff ∧
    Zip.bodyLength (listing (storedEnv []) (archiveEntries (storedEnv []) onePage onePageFiles)) ≠ 0xffffffff := by
  simp only [projectEnv, storedEnv_eq]
  refine ⟨?_, ?_, ?_, ?_, ?_, ?_, ?_⟩ <;> decide +kernel

theorem exists_archive {env : Env} {input : ExportInput}
    (h : (createProjectArchive env input).toOption.isSome = true) :
    ∃ archive, createProjectArchive env input = .ok archive := by
  cases hc : createProjectArchive env input with
  | ok archive => exact ⟨archive, rfl⟩
  | error e => rw [hc] at h; cases h

theorem onePage_imported :
    ∃ archive, createProjectArchive (projectEnv onePage onePageFiles) onePage = .ok archive ∧
      ∃ r, extractAndVerifyProjectArchive (projectEnv onePage onePageFiles) archive.data onePage.limits = .ok r ∧
        r.projectId = onePage.projectId ∧ r.files.Perm onePageFiles := by
  obtain ⟨hfiles, hfits, hsome, hratio, hkeys, hcount, hoffset⟩ := onePage_runs
  obtain ⟨archive, harchive⟩ := exists_archive hsome
  have hmanifest : projectManifestFile ∈ onePageFiles.map Prod.fst := by decide
  exact ⟨archive, harchive, (import_exported_iff (storedEnv_lawful _) hfiles harchive
    (project_packs hfits)).2 (project_restorable hmanifest hratio hkeys hcount hoffset)⟩

/-- Two pages whose paths differ by case. -/
def twoPages : ExportInput :=
  projectInput [("A.html".toList, .file [72, 105]), ("a.html".toList, .file [72, 111])]

def twoPagesFiles : Files :=
  [("project.json".toList, [123, 125]), ("pages/A.html".toList, [72, 105]), ("pages/a.html".toList, [72, 111]),
    ("database/crawl.db".toList, [83, 81, 76])]

theorem twoPages_runs : exportFiles Sample.ascii twoPages = .ok twoPagesFiles ∧
    Fits (archiveEntries (storedEnv []) twoPages twoPagesFiles) ∧
    (createProjectArchive (projectEnv twoPages twoPagesFiles) twoPages).toOption.isSome = true ∧
    ¬((archiveEntries (storedEnv []) twoPages twoPagesFiles).map fun e => Sample.ascii.lower e.1).Nodup := by
  simp only [projectEnv, storedEnv_eq]
  decide +kernel

/-- **Export writes an archive that import refuses.** -/
theorem export_not_imported :
    ¬∀ (env : Env) (input : ExportInput) (files : Files) (archive : ExportedArchive), env.Lawful →
      exportFiles env.unicode input = .ok files → createProjectArchive env input = .ok archive →
      env.Packs (archiveEntries env input files) →
      ∃ r, extractAndVerifyProjectArchive env archive.data input.limits = .ok r ∧
        r.projectId = input.projectId ∧ r.files.Perm files := by
  intro hall
  obtain ⟨hfiles, hfits, hsome, hkeys⟩ := twoPages_runs
  obtain ⟨archive, harchive⟩ := exists_archive hsome
  have hlawful := storedEnv_lawful (archiveEntries (storedEnv []) twoPages twoPagesFiles)
  have hpack : (projectEnv twoPages twoPagesFiles).Packs
      (archiveEntries (projectEnv twoPages twoPagesFiles) twoPages twoPagesFiles) :=
    project_packs hfits
  obtain ⟨r, hr, -⟩ := hall _ twoPages twoPagesFiles archive hlawful hfiles harchive hpack
  obtain ⟨files, hw⟩ := createProjectArchive_ok harchive
  obtain rfl := Except.ok.inj (hfiles.symm.trans hw.collected)
  rw [hw.data] at hr
  obtain ⟨a, ha, hcount, -⟩ := (extract_iff hlawful hfiles hpack).1 hr
  exact hkeys ((inspect_written_iff hlawful hw hpack).1 ⟨a, ha, hcount⟩).2.1

end OfflineWebArchiver.ProjectArchive
