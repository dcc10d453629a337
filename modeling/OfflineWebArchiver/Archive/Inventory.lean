import OfflineWebArchiver.Archive.Inspect

/-!
# What is exported, and its inventory

* `Exported`: the files that export collects are canonical, allowed and have different names.
* `exportFiles_exported`: **export collects such files only.**
* `archiveEntries_eq`: the archive holds the inventory and these files.
* `parseExportMetadata_eq`: **the inventory is read back as it was written.**
* `verifyItems`: **every file passes the check against the inventory.**
-/

namespace OfflineWebArchiver.ProjectArchive

open Checks (bind_ok failIf_bind_ok failIf_ok)
open Zip (Bytes)
open JsonText (Value Reads Blank)

/-! ### Maps -/

theorem setFile_of_not_mem {files : Files} {f : JsString × Bytes} (h : f.1 ∉ files.map Prod.fst) :
    setFile files f = files ++ [f] := by
  induction files with
  | nil => rfl
  | cons g files ih =>
    rw [List.map_cons, List.mem_cons, not_or] at h
    have hne : ¬g.1 = f.1 := fun he => h.1 he.symm
    have hrest := ih h.2
    unfold setFile at hrest ⊢
    obtain ⟨gname, gdata⟩ := g
    rw [Grouping.upsert, if_neg hne, hrest, List.cons_append]

/-- Files with new names are appended. -/
theorem foldl_setFile {files found : Files} (h : (files.map Prod.fst ++ found.map Prod.fst).Nodup) :
    found.foldl setFile files = files ++ found := by
  induction found generalizing files with
  | nil => rw [List.foldl_nil, List.append_nil]
  | cons f found ih =>
    have hnew : f.1 ∉ files.map Prod.fst := fun hmem =>
      (List.nodup_append.1 h).2.2 _ hmem _ (by rw [List.map_cons]; exact List.mem_cons_self) rfl
    rw [List.foldl_cons, setFile_of_not_mem hnew, ih, List.append_assoc, List.singleton_append]
    rw [List.map_append, List.append_assoc]
    exact h

/-- Looking a file up finds it. -/
theorem payload?_of_mem {files : Files} (hnodup : (files.map Prod.fst).Nodup) {f : JsString × Bytes}
    (h : f ∈ files) : payload? files f.1 = some f.2 := by
  induction files with
  | nil => cases h
  | cons g files ih =>
    rw [List.map_cons, List.nodup_cons] at hnodup
    unfold payload? at ih ⊢
    rcases List.mem_cons.1 h with rfl | h
    · rw [List.find?_cons_of_pos (by simp)]
      rfl
    · have hne : g.1 ≠ f.1 := fun he => hnodup.1 (by rw [he]; exact List.mem_map_of_mem h)
      rw [List.find?_cons_of_neg (by simpa using hne)]
      exact ih hnodup.2 h

/-! ### Collecting -/

/-- A path that may be exported. -/
structure Exportable (u : Unicode) (path : JsString) : Prop where
  canonical : Canonical u path
  allowed : exportPathIsAllowed path = true

/-- Files that may be exported, each name once. -/
structure Exported (u : Unicode) (files : Files) : Prop where
  paths : ∀ f ∈ files, Exportable u f.1
  nodup : (files.map Prod.fst).Nodup

variable {u : Unicode} {files found : Files} {path : JsString}

theorem Exported.nil : Exported u [] := ⟨fun _ h => absurd h List.not_mem_nil, List.nodup_nil⟩

theorem mem_setFile {f g : JsString × Bytes} (h : g ∈ setFile files f) : g ∈ files ∨ g = f := by
  induction files with
  | nil => exact .inr (List.mem_singleton.1 h)
  | cons a files ih =>
    obtain ⟨name, data⟩ := a
    unfold setFile at h ih
    rw [Grouping.upsert] at h
    split at h
    · next heq =>
      rcases List.mem_cons.1 h with rfl | h
      · exact .inr (by rw [heq])
      · exact .inl (List.mem_cons_of_mem _ h)
    · rcases List.mem_cons.1 h with rfl | h
      · exact .inl List.mem_cons_self
      · exact (ih h).imp_left (List.mem_cons_of_mem _)

theorem Exported.setFile (h : Exported u files) {f : JsString × Bytes} (hf : Exportable u f.1) :
    Exported u (setFile files f) where
  paths := fun g hg => by
    rcases mem_setFile hg with hg | rfl
    · exact h.paths g hg
    · exact hf
  nodup := Grouping.nodup_upsert h.nodup

theorem Exported.setFiles (h : Exported u files) (hf : Exported u found) :
    Exported u (found.foldl ProjectArchive.setFile files) := by
  have hpaths := hf.paths
  clear hf
  induction found generalizing files with
  | nil => exact h
  | cons f found ih =>
    rw [List.forall_mem_cons] at hpaths
    exact ih (h.setFile hpaths.1) hpaths.2

theorem portableEntry_canonical {current name portable : JsString}
    (h : portableEntry u current name = .ok portable) : Canonical u portable := by
  unfold portableEntry at h
  dsimp only at h
  generalize (if current = [] then name else current ++ '/' :: name) = path at h
  cases hvalue : normalizeArchiveEntry u path with
  | error message => rw [hvalue] at h; cases h
  | ok value =>
    rw [hvalue] at h
    simp only [normalizeArchiveEntry] at hvalue
    split at hvalue
    · obtain ⟨hc, rfl⟩ := canonicalRelativePath_ok.1 hvalue
      rw [← Except.ok.inj h]
      exact hc
    · cases hvalue

mutual

theorem collectNode_exported {portable : JsString} (hp : Canonical u portable) :
    ∀ {node : Node} {found : Files}, collectNode u portable node = .ok found → Exported u found
  | .symbolicLink, _, h => by rw [collectNode] at h; cases h
  | .special, _, h => by
    rw [collectNode] at h
    rw [← Except.ok.inj h]
    exact .nil
  | .file data, _, h => by
    rw [collectNode] at h
    rw [← Except.ok.inj h]
    split
    · next hallowed =>
      refine ⟨fun f hf => ?_, List.nodup_singleton _⟩
      rw [List.mem_singleton.1 hf]
      exact ⟨hp, hallowed⟩
    · exact .nil
  | .directory children, _, h => by
    rw [collectNode] at h
    exact collectFiles_exported .nil h

theorem collectFiles_exported {current : JsString} :
    ∀ {children : List (JsString × Node)} {files found : Files}, Exported u files →
      collectFiles u current files children = .ok found → Exported u found
  | [], _, _, hfiles, h => by
    rw [collectFiles] at h
    rw [← Except.ok.inj h]
    exact hfiles
  | (name, node) :: rest, _, _, hfiles, h => by
    rw [collectFiles, bind_ok] at h
    obtain ⟨portable, hportable, h⟩ := h
    obtain ⟨inner, hinner, h⟩ := bind_ok.1 h
    have hcanonical := portableEntry_canonical hportable
    exact collectFiles_exported (hfiles.setFiles (collectNode_exported hcanonical hinner)) h

end

/-! ### What goes into the archive -/

/-- What the code relies on. -/
structure Env.Lawful (env : Env) : Prop where
  /-- Text without a byte order mark is decoded as it was encoded. -/
  text : ∀ s : JsString, (∀ c ∈ s.head?, c.toNat ≠ 0xfeff) → env.strFromU8 (env.strToU8 s) = s
  /-- ASCII text is in normal form. -/
  ascii : ∀ s : JsString, (∀ c ∈ s, c.toNat < 0x80) → env.unicode.nfc s = s

/-- The packer packs these entries: they are unpacked again, and reported truly. -/
structure Env.Packs (env : Env) (entries : Files) : Prop where
  unzip : env.unzipSync (env.zipSync entries) = some entries
  describes : Zip.Describes (env.zipSync entries) (listing env entries)

/-- A path with no part that depends on the Unicode tables. -/
theorem canonical_ascii {env : Env} (h : env.Lawful) {s : JsString} (hascii : s.all (·.toNat < 0x80) = true)
    (hp : Canonical { nfc := id, lower := id } s) : Canonical env.unicode s := by
  have hnfc := h.ascii s (by simpa using hascii)
  have hrest := pathProblem_eq_none.1 (canonical_iff.1 hp)
  exact canonical_iff.2 (pathProblem_eq_none.2
    ⟨hrest.1, hrest.2.1, hnfc.symm, hrest.2.2.2⟩)

variable {env : Env} (henv : env.Lawful)
include henv

theorem exportable_database : Exportable env.unicode projectDatabasePath :=
  ⟨canonical_ascii henv (by decide) (by decide), by decide⟩

/-- **Export collects exportable files only**, and the database is among them. -/
theorem exportFiles_exported {input : ExportInput} (h : exportFiles env.unicode input = .ok files) :
    Exported env.unicode files ∧ projectDatabasePath ∈ files.map Prod.fst := by
  obtain ⟨collected, hcollected, h⟩ := bind_ok.1 h
  rw [← Except.ok.inj h]
  refine ⟨(collectFiles_exported .nil hcollected).setFile (exportable_database henv), ?_⟩
  exact Grouping.mem_upsert_keys.2 (.inr rfl)

omit henv in
theorem ordered_perm (files : Files) : (ordered env files).Perm files := List.perm_insertionSort _ _

variable (env) in
omit henv in
theorem Exported.ordered (h : Exported u files) : Exported u (ordered env files) where
  paths := fun f hf => h.paths f ((ordered_perm files).mem_iff.1 hf)
  nodup := ((ordered_perm files).map Prod.fst).nodup_iff.2 h.nodup

/-- The bytes of the inventory. -/
def metadataBytes (env : Env) (input : ExportInput) (files : Files) : Bytes :=
  env.strToU8 (metadataText env input (ordered env files) ++ ['\n'])

omit henv in
theorem metadata_not_mem (h : Exported u files) : exportMetadataFile ∉ files.map Prod.fst := by
  intro hmem
  obtain ⟨f, hf, hname⟩ := List.mem_map.1 hmem
  have hallowed := (h.paths f hf).allowed
  rw [hname] at hallowed
  exact absurd hallowed (by decide)

variable (env) in
omit henv in
/-- **The archive holds the inventory and the files.** -/
theorem archiveEntries_eq (h : Exported u files) (input : ExportInput) :
    archiveEntries env input files = (exportMetadataFile, metadataBytes env input files) :: ordered env files := by
  unfold archiveEntries
  rw [foldl_setFile]
  · rfl
  · exact List.nodup_cons.2 ⟨metadata_not_mem (h.ordered env), (h.ordered env).nodup⟩

/-! ### The inventory -/

/-- What the inventory says about a file. -/
def inventoryValue (env : Env) (f : JsString × Bytes) : Value :=
  .object [("path".toList, .text f.1), ("bytes".toList, .number f.2.length),
    ("sha256".toList, .text (env.sha256 f.2))]

def metadataValue (env : Env) (input : ExportInput) (files : Files) : Value :=
  .object [("container".toList, .text "offline-web-archive-export".toList),
    ("version".toList, .text "1.0.0".toList), ("projectId".toList, .text input.projectId),
    ("exportedAt".toList, .text input.exportedAt),
    ("files".toList, .array (files.map (inventoryValue env)))]

omit henv in
theorem blank_lineBreak (width : ℕ) : Blank (lineBreak width) := by
  intro c hc
  rcases List.mem_cons.1 hc with rfl | hc
  · decide
  · rw [List.eq_of_mem_replicate hc]
    decide

variable (env) in
omit henv in
theorem reads_inventoryItem (f : JsString × Bytes) : Reads (inventoryItem env f) (inventoryValue env f) := by
  refine .object (blank_lineBreak 6) (blank_lineBreak 4) (.cons ⟨rfl, .quote f.1⟩ (.cons ⟨rfl, .nat _⟩
    (.cons ⟨rfl, .quote _⟩ .nil)))

variable (env) in
omit henv in
theorem reads_metadata (input : ExportInput) (files : Files) :
    Reads (metadataText env input files) (metadataValue env input files) := by
  have hitems : List.Forall₂ Reads (files.map (inventoryItem env)) (files.map (inventoryValue env)) :=
    List.forall₂_map_left_iff.2 (List.forall₂_map_right_iff.2
      (List.forall₂_same.2 fun f _ => reads_inventoryItem env f))
  exact .object (blank_lineBreak 2) (blank_lineBreak 0) (.cons ⟨rfl, .quote _⟩ (.cons ⟨rfl, .quote _⟩
    (.cons ⟨rfl, .quote _⟩ (.cons ⟨rfl, .quote _⟩
      (.cons ⟨rfl, .array (blank_lineBreak 4) (blank_lineBreak 2) hitems⟩ .nil)))))

/-- **The inventory is read back as it was written.** -/
theorem parseExportMetadata_eq (input : ExportInput) (files : Files) :
    parseExportMetadata env (metadataBytes env input files) =
      .ok { projectId := input.projectId, exportedAt := input.exportedAt,
            files := (ordered env files).map (inventoryValue env) } := by
  have hblank : Blank ['\n'] := by simp [Blank, JsonText.isJsonSpace]
  have hparse := (reads_metadata env input (ordered env files)).parse hblank
    (JsonText.stops_of (by decide))
  have htext : env.strFromU8 (metadataBytes env input files) =
      metadataText env input (ordered env files) ++ ['\n'] := by
    refine henv.text _ fun c hc => ?_
    have hhead : (metadataText env input (ordered env files) ++ ['\n']).head? = some JsonText.leftBrace := rfl
    obtain rfl : JsonText.leftBrace = c := by simpa [hhead] using hc
    decide
  unfold parseExportMetadata
  rw [htext, hparse]
  rfl

omit henv in
/-- A file that is there and new passes its check. -/
theorem verifyItem_ok {unzipped done : Files} {f : JsString × Bytes} (hf : Exportable env.unicode f.1)
    (hpayload : payload? unzipped f.1 = some f.2) (hmeta : f.1 ≠ exportMetadataFile)
    (hnew : f.1 ∉ done.map Prod.fst) :
    verifyItem env unzipped done (inventoryValue env f) = .ok (done ++ [f]) := by
  have hpath : (inventoryValue env f).get? "path".toList = some (.text f.1) := rfl
  have hbytes : (inventoryValue env f).get? "bytes".toList = some (.number f.2.length) := rfl
  have hdigest : (inventoryValue env f).get? "sha256".toList = some (.text (env.sha256 f.2)) := rfl
  have hallowed : ¬exportPathIsAllowed f.1 = false := by rw [hf.allowed]; decide
  have hdeclared : ¬(f.1 = exportMetadataFile ∨ f.1 ∈ done.map Prod.fst) := not_or.2 ⟨hmeta, hnew⟩
  have hequal : ¬((f.2.length : ℚ) ≠ f.2.length ∨ env.sha256 f.2 ≠ env.sha256 f.2) := by simp
  unfold verifyItem
  rw [hpath, hbytes, hdigest]
  simp only [safeArchiveName_ok hf.canonical, Checks.ok_bind, Checks.failIf_bind, if_neg hallowed,
    if_neg hdeclared, hpayload, if_neg hequal, setFile_of_not_mem hnew]
  rfl

omit henv in
/-- **Every file passes the check against the inventory**, in turn. -/
theorem verifyItems {unzipped done rest : Files} (hrest : Exported env.unicode rest)
    (hpayload : ∀ f ∈ rest, payload? unzipped f.1 = some f.2)
    (hnodup : (done.map Prod.fst ++ rest.map Prod.fst).Nodup) :
    (rest.map (inventoryValue env)).foldlM (verifyItem env unzipped) done = .ok (done ++ rest) := by
  have hmeta := metadata_not_mem hrest
  have hpaths := hrest.paths
  clear hrest
  induction rest generalizing done with
  | nil => rw [List.append_nil]; rfl
  | cons f rest ih =>
    rw [List.forall_mem_cons] at hpaths hpayload
    rw [List.map_cons, List.mem_cons, not_or] at hmeta
    have hnew : f.1 ∉ done.map Prod.fst := fun hmem =>
      (List.nodup_append.1 hnodup).2.2 _ hmem _ (by rw [List.map_cons]; exact List.mem_cons_self) rfl
    have hnext : ((done ++ [f]).map Prod.fst ++ rest.map Prod.fst).Nodup := by
      rw [List.map_append, List.append_assoc]
      exact hnodup
    rw [List.map_cons, List.foldlM_cons,
      verifyItem_ok hpaths.1 hpayload.1 (fun he => hmeta.1 he.symm) hnew, Checks.ok_bind,
      ih hpayload.2 hnext hmeta.2 hpaths.2, List.append_assoc, List.singleton_append]

end OfflineWebArchiver.ProjectArchive
