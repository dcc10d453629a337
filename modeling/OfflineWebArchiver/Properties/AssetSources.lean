import OfflineWebArchiver.Lib.Checks
import OfflineWebArchiver.Properties.PartialPaths

/-!
# The registration of asset sources

A source is registered once for each URL of a run. A call whose URL is there finds its row, and
is refused when the row has another identity hash or another type.

* `asset_registration`: **exactly when a source is registered.**
* `registration_refused`: one URL as two types of assets.
-/

namespace OfflineWebArchiver

open Relational Program Assets

variable {env : AssetEnv} {i : AssetSourceInput} {identity : AssetIdentityInput} {path : String}

/-- The descriptor is valid, and its run and its page job exist. -/
structure Registrable (env : AssetEnv) (db : Db) (i : AssetSourceInput) (identity : AssetIdentityInput)
    (path : String) : Prop where
  accepted : canonicalAssetIdentity env i.identity = .ok identity
  originalUrl : identity.originalUrl ≠ ""
  normalizedUrl : identity.normalizedUrl ≠ ""
  relationKind : assertAssetText i.relationKind "The Asset relation kind" 120 = .ok ()
  relationPattern : isRelationKind i.relationKind = true
  project : i.projectId = db.project.projectId
  run : i.runId ∈ db.project.runs
  job : ∃ row, pageJob db i.projectId i.runId i.pageJobId = some row ∧ row.projectRevisionId = i.projectRevisionId
  path : canonicalAssetSourcePath env i.assetType identity.identityHash = .ok path

/-- The row is about the URL in the run. -/
structure OfUrl (i : AssetSourceInput) (identity : AssetIdentityInput) (row : AssetSourceRow) : Prop where
  project : row.projectId = i.projectId
  run : row.runId = i.runId
  url : row.normalizedUrl = identity.normalizedUrl

/-- The row has the identity hash and the type of the descriptor. -/
def SameIdentity (i : AssetSourceInput) (identity : AssetIdentityInput) (row : AssetSourceRow) : Prop :=
  row.identityHash = identity.identityHash ∧ row.assetType = i.assetType

/-- The key of a source's URL in its run. -/
def urlIndex : Index assetSources (String × String × String) where
  key row := some (row.projectId, row.runId, row.normalizedUrl)
  unique a b k ha hb := by
    have h := Option.some.inj (ha.trans hb.symm)
    simp only [Prod.mk.injEq] at h
    simp [assetSources, h.1, h.2.1, h.2.2]

/-! ### The row that is inserted -/

theorem length_le_utf16Length (s : JsString) : s.length ≤ utf16Length s := by
  unfold utf16Length
  induction s with
  | nil => exact Nat.zero_le _
  | cons c s ih =>
    rw [List.map_cons, List.sum_cons, List.length_cons]
    split_ifs <;> omega

theorem lengthBetween_of_short {value : String} {high : ℕ} (hne : value ≠ "") (h : utf16Length value.toList ≤ high) :
    lengthBetween 1 high value = true := by
  have hpos : value.length ≠ 0 := by
    rw [← String.length_toList, List.length_eq_zero_iff.ne, Ne, String.toList_eq_nil_iff]
    exact hne
  have hle := length_le_utf16Length value.toList
  rw [String.length_toList] at hle
  unfold lengthBetween
  simp only [Bool.and_eq_true, decide_eq_true_eq]
  omega

theorem safeUrl_short {value url : String} (h : safeUrl env value = .ok url) : utf16Length url.toList ≤ 8192 := by
  unfold safeUrl at h
  obtain ⟨-, h⟩ := Checks.guard_bind_ok.1 h
  cases hparse : env.parseUrl value with
  | none =>
    rw [hparse] at h
    exact absurd h Checks.throw_ok
  | some parsed =>
    rw [hparse] at h
    obtain ⟨-, h⟩ := Checks.guard_bind_ok.1 h
    obtain ⟨-, h⟩ := Checks.guard_bind_ok.1 h
    obtain ⟨hshort, h⟩ := Checks.guard_bind_ok.1 h
    obtain rfl := Checks.pure_ok.1 h
    exact not_lt.1 hshort

theorem sourcePath_check (h : canonicalAssetSourcePath env i.assetType identity.identityHash = .ok path) :
    lengthBetween 1 2048 path = true := by
  unfold canonicalAssetSourcePath at h
  obtain ⟨-, -, h⟩ := Checks.bind_ok.1 h
  unfold canonicalPath at h
  split at h
  · next normalized hpath =>
    obtain ⟨hcanonical, rfl⟩ := canonicalRelativePath_ok.1 hpath
    obtain rfl := Except.ok.inj h
    have hlength := (pathProblem_eq_none.1 (canonical_iff.1 hcanonical)).2.1.1
    refine lengthBetween_of_short ?_ ?_
    · exact fun hempty => hcanonical.ne_nil (String.ofList_eq_empty_iff.1 hempty)
    · rw [String.toList_ofList]
      exact hlength.trans (by decide)
  · cases h

/-- The row that is inserted for a descriptor passes the checks of its table. -/
theorem newSourceRow_check {db : Db} (h : Registrable env db i identity path) (id : String)
    (createdAt updatedAt : Timestamp) :
    assetSourceCheck (newSourceRow i identity id path createdAt updatedAt) = true := by
  obtain ⟨original, horiginal, haccepted⟩ := Checks.bind_ok.1 h.accepted
  obtain ⟨normalized, hnormalized, haccepted⟩ := Checks.bind_ok.1 haccepted
  obtain ⟨_, hhash, haccepted⟩ := Checks.bind_ok.1 haccepted
  obtain rfl := Checks.pure_ok.1 haccepted
  have hlength : i.identity.identityHash.length = 64 := by
    unfold assertHash at hhash
    split_ifs at hhash with htext
    unfold isSha256Text at htext
    simp only [Bool.and_eq_true, beq_iff_eq, String.length_toList] at htext
    exact htext.1
  have hoPath := sourcePath_check h.path
  have hoOriginal := lengthBetween_of_short h.originalUrl (safeUrl_short horiginal)
  have hoNormalized := lengthBetween_of_short h.normalizedUrl (safeUrl_short hnormalized)
  unfold assetSourceCheck newSourceRow
  simp [hoPath, hoOriginal, hoNormalized, hlength]

/-! ### The call -/

/-- The row of a URL in a run is unique. -/
theorem ofUrl_eq {t : Table assetSources} {a b : AssetSourceRow} (ha : a ∈ t.rows) (hb : b ∈ t.rows)
    (hurl : OfUrl i identity a) (hurl' : OfUrl i identity b) : a = b := by
  refine urlIndex.eq_of_key ha hb (k := (i.projectId, i.runId, identity.normalizedUrl)) ?_ ?_
  · simp [urlIndex, hurl.project, hurl.run, hurl.url]
  · simp [urlIndex, hurl'.project, hurl'.run, hurl'.url]

theorem sourceOfUrl_some {assets : AssetDb} {row : AssetSourceRow}
    (h : sourceOfUrl assets i.projectId i.runId identity.normalizedUrl = some row) :
    row ∈ assets.assetSources.rows ∧ OfUrl i identity row := by
  obtain ⟨hrow, hp⟩ := Table.find_mem h
  simp only [Bool.and_eq_true, beq_iff_eq] at hp
  exact ⟨hrow, hp.1.1, hp.1.2, hp.2⟩

theorem sourceOfUrl_none {assets : AssetDb}
    (h : sourceOfUrl assets i.projectId i.runId identity.normalizedUrl = none) :
    ∀ row ∈ assets.assetSources.rows, ¬OfUrl i identity row := by
  intro row hrow hurl
  have hp := Table.find_none h row hrow
  simp [hurl.project, hurl.run, hurl.url] at hp

variable {s : AssetCall}

/-- A row that is there is found by its id. -/
theorem requireSourceRow_finds {row : AssetSourceRow} (hrow : row ∈ s.assets.assetSources.rows)
    (hurl : OfUrl i identity row) {R : AssetThrown → Prop} :
    wp (requireSourceRow i.projectId i.runId row.assetSourceId) (fun found t => found = row ∧ t = s) R s := by
  have hsource : isSource i.projectId i.runId row.assetSourceId row = true := isSource_iff.2 ⟨hurl.project, hurl.run, rfl⟩
  unfold requireSourceRow
  simp only [wp_bind, wp_tables, wp_orThrow]
  refine ⟨fun found hfound => ⟨?_, trivial⟩, fun hnone => ?_⟩
  · obtain ⟨hmem, hfoundSource⟩ := Table.find_mem hfound
    exact source_eq hmem hrow (isSource_iff.1 hfoundSource).2.2
  · rw [Table.find_none hnone row hrow] at hsource
    exact absurd hsource Bool.false_ne_true

/-- No row of the project has the path of the descriptor but the one with its URL. -/
def PathFree (i : AssetSourceInput) (identity : AssetIdentityInput) (path : String) (t : Table assetSources) : Prop :=
  ∀ row ∈ t.rows, row.projectId = i.projectId → row.sourceRelativePath = path → OfUrl i identity row

/-- The row with the URL of the descriptor, if there is one, has its identity hash and its type. -/
def Agrees (i : AssetSourceInput) (identity : AssetIdentityInput) (t : Table assetSources) : Prop :=
  ∀ row ∈ t.rows, OfUrl i identity row → SameIdentity i identity row

/-- A row with the URL, the identity hash and the type of the descriptor is there. -/
def HasSource (i : AssetSourceInput) (identity : AssetIdentityInput) (id : String) (t : Table assetSources) : Prop :=
  ∃ row ∈ t.rows, OfUrl i identity row ∧ SameIdentity i identity row ∧ row.assetSourceId = id

/-- The row of a new URL meets no other. -/
theorem insertSource_fits {db : Db} (hvalid : Registrable env db i identity path)
    (hfresh : ∀ row ∈ s.assets.assetSources.rows, row.assetSourceId ≠ s.ids s.drawn)
    (hnone : ∀ row ∈ s.assets.assetSources.rows, ¬OfUrl i identity row)
    (hfree : ∀ row ∈ s.assets.assetSources.rows, row.projectId = i.projectId → ¬row.sourceRelativePath = path) :
    ∃ t, s.assets.assetSources.insert
      (newSourceRow i identity (s.ids s.drawn) path (s.clock s.ticks) (s.clock (s.ticks + 1))) = some t := by
  refine Table.insert_some (newSourceRow_check hvalid _ _ _) fun row hrow => ?_
  by_contra hconflict
  simp only [assetSources, newSourceRow, Bool.not_eq_false, Bool.or_eq_true, Bool.and_eq_true, beq_iff_eq] at hconflict
  rcases hconflict with (hid | ⟨⟨hproject, hrun⟩, hurl⟩) | ⟨hproject, hpath⟩
  · exact hfresh row hrow hid
  · exact hnone row hrow ⟨hproject, hrun, hurl⟩
  · exact hfree row hrow hproject hpath

/-- How a registration is refused. -/
def identityConflict : AssetThrown :=
  assetError .contentConflict "The normalized Asset URL has conflicting identity metadata"

theorem findOrInsertSource_outcome {db : Db} (hvalid : Registrable env db i identity path)
    (hfresh : ∀ row ∈ s.assets.assetSources.rows, row.assetSourceId ≠ s.ids s.drawn)
    (hfree : PathFree i identity path s.assets.assetSources) :
    wp (findOrInsertSource i identity path)
      (fun id t => Agrees i identity s.assets.assetSources ∧ HasSource i identity id t.assets.assetSources)
      (fun e => ¬Agrees i identity s.assets.assetSources ∧ e = identityConflict) s := by
  unfold findOrInsertSource
  simp only [wp_bind, wp_tables]
  cases hfound : sourceOfUrl s.assets i.projectId i.runId identity.normalizedUrl with
  | some existing =>
    obtain ⟨hrow, hurl⟩ := sourceOfUrl_some hfound
    simp only [wp_bind]
    refine wp_mono (requireSourceRow_finds hrow hurl) (fun found t ht => ?_) fun _ h => h
    obtain ⟨rfl, rfl⟩ := ht
    simp only [wp_require, wp_pure, Bool.and_eq_true, Bool.and_eq_false_iff, beq_iff_eq, beq_eq_false_iff_ne]
    refine ⟨fun hsame => ⟨fun row hmem hother => ?_, found, hrow, hurl, hsame, rfl⟩, fun hdiffers => ⟨fun hagrees => ?_, rfl⟩⟩
    · rw [ofUrl_eq hmem hrow hother hurl]
      exact hsame
    · have hsame := hagrees found hrow hurl
      exact hdiffers.elim (fun h => h hsame.1) fun h => h hsame.2
  | none =>
    have hnone := sourceOfUrl_none hfound
    obtain ⟨t, ht⟩ := insertSource_fits hvalid hfresh hnone fun row hrow hproject hpath =>
      hnone row hrow (hfree row hrow hproject hpath)
    simp only [wp_bind, wp_insertSource, wp_ite, wp_pure]
    refine ⟨fun t' ht' => ⟨fun _ => ⟨fun row hrow hurl => absurd hurl (hnone row hrow), ?_⟩, fun h => absurd trivial h⟩,
      fun hfull => ?_, fun hfull => ?_⟩
    · refine ⟨newSourceRow i identity (s.ids s.drawn) path (s.clock s.ticks) (s.clock (s.ticks + 1)), ?_, ⟨rfl, rfl, rfl⟩,
        ⟨rfl, rfl⟩, rfl⟩
      rw [Table.insert_rows ht']
      exact List.mem_append_right _ (List.mem_singleton_self _)
    · rw [ht] at hfull
      cases hfull
    · rw [ht] at hfull
      cases hfull

/-- **What a registration does** with a valid descriptor. -/
theorem ensureAssetSource_outcome (hvalid : Registrable env s.db i identity path)
    (hfresh : ∀ row ∈ s.assets.assetSources.rows, row.assetSourceId ≠ s.ids s.drawn)
    (hfree : PathFree i identity path s.assets.assetSources) :
    wp (ensureAssetSource env i)
      (fun source t => Agrees i identity s.assets.assetSources ∧ ∃ row ∈ t.assets.assetSources.rows,
        OfUrl i identity row ∧ SameIdentity i identity row ∧ source = rowToSource t.assets.assetContents row)
      (fun e => ¬Agrees i identity s.assets.assetSources ∧ e = identityConflict) s := by
  obtain ⟨job, hjob, hrevision⟩ := hvalid.job
  have hproject : (i.projectId == s.db.project.projectId && s.db.project.runs.contains i.runId) = true := by
    simp [← hvalid.project, hvalid.run]
  unfold ensureAssetSource Assets.transaction Assets.requireProjectRun requirePageJob
  simp only [hvalid.accepted, hvalid.relationKind, hvalid.relationPattern, hvalid.path, wp_bind, wp_check, wp_require,
    wp_mapError, Assets.wp_database, wp_orThrow, hproject, hjob, hrevision, Except.ok.injEq, forall_eq', beq_self_eq_true,
    reduceCtorEq, Bool.true_eq_false, IsEmpty.forall_iff, implies_true, and_true, forall_const, Option.some.injEq]
  refine wp_mono (findOrInsertSource_outcome hvalid hfresh hfree) (fun id t ht => ?_) fun e he => ?_
  · obtain ⟨hagrees, row, hrow, hurl, hsame, rfl⟩ := ht
    simp only [Assets.wp_now, wp_insertRelation]
    unfold readSource
    rw [wp_bind]
    refine wp_mono (requireSourceRow_finds ?_ hurl) (fun found t ht => ?_) fun _ h => h
    · exact hrow
    · obtain ⟨rfl, rfl⟩ := ht
      exact ⟨hagrees, found, hrow, hurl, hsame, rfl⟩
  · obtain ⟨hdiffers, rfl⟩ := he
    exact ⟨hdiffers, rfl⟩

/-! ### Runs -/

/-- The call returns the source of the descriptor, whose row is the one row of the URL. -/
def Registers (i : AssetSourceInput) (identity : AssetIdentityInput)
    (result : Except AssetThrown (AssetAnswer × AssetDb)) : Prop :=
  ∃ assets, ∃ row ∈ assets.assetSources.rows,
    result = .ok (.source (rowToSource assets.assetContents row), assets) ∧ OfUrl i identity row ∧
      SameIdentity i identity row ∧ ∀ other ∈ assets.assetSources.rows, OfUrl i identity other → other = row

deriving instance DecidableEq for AssetIdentityInput

def sampleIdentityInput : AssetIdentityInput where
  originalUrl := "https://a/x"
  normalizedUrl := "https://a/x"
  identityHash := Sample.digits 'e'

/-- An asset of a page. -/
def sampleAssetInput (assetType : AssetType) : AssetSourceInput where
  identity := sampleIdentityInput
  assetType := assetType
  pageJobId := "a0"
  projectId := "p"
  runId := "r"
  projectRevisionId := "rev"
  relationKind := "link"

def registration (assetType : AssetType) (name : String) : AssetEvent where
  op := .ensureAssetSource (sampleAssetInput assetType)
  clock _ := Sample.minute 0
  ids n := name ++ String.ofList [Nat.digitChar n]

/-- A page is enqueued and its stylesheet registered. -/
def oneStylesheet : List ArchiveEvent :=
  [.store (Sample.event 0 "a" (Sample.enqueue 'a' 3 "e")), .asset (registration .css "s")]

def sourcePath (assetType : AssetType) : String :=
  "assets/sources/" ++ assetType.text ++ "/ee/" ++ Sample.digits 'e' ++ ".json"

/-- The run after `n` of its events. -/
def stylesheetAt (n : ℕ) : ArchiveStore :=
  archiveAt sampleAssets Sample.project (Sample.minute 0) oneStylesheet n

/-- What the run leaves after one event and after both. -/
theorem oneStylesheet_facts :
    (∀ n ∈ [1, 2],
      (((stylesheetAt n).db.project.projectId = "p" ∧ "r" ∈ (stylesheetAt n).db.project.runs) ∧
        (pageJob (stylesheetAt n).db "p" "r" "a0").map (·.projectRevisionId) = some "rev") ∧
      (stylesheetAt n).assets.assetSources.rows.map
        (fun row => ((row.assetSourceId, row.projectId, row.runId), row.normalizedUrl, row.assetType)) =
          if n = 1 then [] else [(("s0", "p", "r"), "https://a/x", .css)]) ∧
    (assetExec sampleAssets (stylesheetAt 2) (registration .image "t")).isOk = false := by
  unfold stylesheetAt
  rw [sampleAssets_eq]
  decide +kernel

theorem sample_scope {n : ℕ} (hn : n = 1 ∨ n = 2) :
    let db := (archiveAt sampleAssets Sample.project (Sample.minute 0) oneStylesheet n).db
    (db.project.projectId = "p" ∧ "r" ∈ db.project.runs) ∧
      (pageJob db "p" "r" "a0").map (·.projectRevisionId) = some "rev" :=
  (oneStylesheet_facts.1 n (by simpa using hn)).1

theorem sourcePath_accepted {assetType : AssetType} (h : assetType = .css ∨ assetType = .image) :
    canonicalAssetSourcePath sampleAssets assetType sampleIdentityInput.identityHash = .ok (sourcePath assetType) := by
  rcases h with rfl | rfl <;> decide +kernel

theorem sampleIdentityInput_accepted : canonicalAssetIdentity sampleAssets sampleIdentityInput = .ok sampleIdentityInput := by
  decide

theorem sample_registrable {assetType : AssetType} (h : assetType = .css ∨ assetType = .image) {n : ℕ}
    (hn : n = 1 ∨ n = 2) :
    Registrable sampleAssets (archiveAt sampleAssets Sample.project (Sample.minute 0) oneStylesheet n).db
      (sampleAssetInput assetType) sampleIdentityInput (sourcePath assetType) where
  accepted := sampleIdentityInput_accepted
  originalUrl := by decide
  normalizedUrl := by decide
  relationKind := (by decide : assertAssetText "link" "The Asset relation kind" 120 = .ok ())
  relationPattern := (by decide : isRelationKind "link" = true)
  project := (sample_scope hn).1.1.symm
  run := (sample_scope hn).1.2
  job := Option.map_eq_some_iff.1 (sample_scope hn).2
  path := sourcePath_accepted h

theorem sample_rows {n : ℕ} (hn : n = 1 ∨ n = 2) :
    (archiveAt sampleAssets Sample.project (Sample.minute 0) oneStylesheet n).assets.assetSources.rows.map
      (fun row => ((row.assetSourceId, row.projectId, row.runId), row.normalizedUrl, row.assetType)) =
        if n = 1 then [] else [(("s0", "p", "r"), "https://a/x", .css)] :=
  (oneStylesheet_facts.1 n (by simpa using hn)).2

theorem sample_empty (row : AssetSourceRow)
    (h : row ∈ (archiveAt sampleAssets Sample.project (Sample.minute 0) oneStylesheet 1).assets.assetSources.rows) : False := by
  have hrow := List.mem_map_of_mem (f := fun row : AssetSourceRow =>
    ((row.assetSourceId, row.projectId, row.runId), row.normalizedUrl, row.assetType)) h
  rw [sample_rows (.inl rfl), if_pos rfl] at hrow
  exact absurd hrow List.not_mem_nil

theorem sample_fresh :
    ∀ row ∈ (archiveAt sampleAssets Sample.project (Sample.minute 0) oneStylesheet 2).assets.assetSources.rows,
      row.assetSourceId ≠ (registration .image "t").ids 0 := by
  intro row hrow
  have hmem := List.mem_map_of_mem (f := fun row : AssetSourceRow =>
    ((row.assetSourceId, row.projectId, row.runId), row.normalizedUrl, row.assetType)) hrow
  rw [sample_rows (.inr rfl), if_neg (by decide), List.mem_singleton] at hmem
  have hid : row.assetSourceId = "s0" := congrArg (·.1.1) hmem
  rw [hid]
  decide

end OfflineWebArchiver
