import Mathlib.Data.List.Basic

/-!
# A project directory

What is on disk of a project: the manifest, the database, the profile file, the backups
and the lock. The tables that neither validation nor the profile commit looks at are one
value of a type `τ`.

* `Disk`: the directory as a process finds it that was not running before.
* `Manifest.forOpen`, `Manifest.withProfile`: the manifests that opening and a profile
  commit write.
-/

namespace OfflineWebArchiver.Project

/-! ### Files -/

/-- A manifest that `parseProjectManifest` accepts, without the fields nothing reads. -/
structure Manifest where
  formatVersion : String
  applicationVersion : String
  projectId : String
  name : String
  slug : String
  createdAt : String
  lastOpenedAt : String
  baseUrl : Option String
  revisionId : String
  runId : String
  schemaVersion : ℕ
  scopePolicy : Bool
  crawlQueue : Bool
  proxies : Bool
  /-- `lifecycle.state === "ready"`. -/
  ready : Bool
  lastValidatedAt : String
  minimumApplicationVersion : String
deriving DecidableEq

/-- `project.json`. -/
inductive ManifestFile
  | missing
  | invalid
  | unsupported
  | valid (manifest : Manifest)
deriving DecidableEq

/-- A profile that `parseSiteProfile` accepts; `draft` is what the user edits besides the
base URL. -/
structure SiteProfile where
  profileId : String
  projectId : String
  revisionId : String
  sequence : ℕ
  createdAt : String
  updatedAt : String
  baseUrl : String
  draft : String
deriving DecidableEq

/-- `profile/config.json`. -/
inductive ProfileFile
  | missing
  | invalid
  | valid (profile : SiteProfile)
deriving DecidableEq

/-! ### The database -/

structure Migration where
  id : String
  sequence : ℕ
  checksum : String
deriving DecidableEq

/-- The row of `project_metadata`. -/
structure Metadata where
  projectId : String
  projectName : String
  projectSlug : String
  formatVersion : String
  schemaVersion : ℕ
  createdAt : String
  lastOpenedAt : String
  currentRevisionId : String
  currentRunId : String
deriving DecidableEq

/-- A row of `project_revisions`. -/
structure RevisionRow where
  revisionId : String
  projectId : String
  sequence : ℕ
  createdAt : String
deriving DecidableEq

/-- A row of `site_profiles`. -/
structure ProfileRow where
  profileId : String
  projectId : String
  currentProfileRevisionId : String
  currentSequence : ℕ
  createdAt : String
  updatedAt : String
  profileHash : String
deriving DecidableEq

/-- A row of `site_profile_revisions`; `canonical_json` is the profile. -/
structure ProfileRevisionRow where
  profileRevisionId : String
  profileId : String
  sequence : ℕ
  createdAt : String
  canonical : SiteProfile
  profileHash : String
deriving DecidableEq

/-- A row of `project_events`. -/
structure EventRow where
  eventType : String
  occurredAt : String
deriving DecidableEq

/-- The tables that describe the project and its profile. -/
structure Ledger where
  metadata : Option Metadata
  revisions : List RevisionRow
  profiles : List ProfileRow
  profileRevisions : List ProfileRevisionRow
deriving DecidableEq

/-- A committed state of `database/crawl.db`. -/
structure Database (τ : Type) where
  /-- The rows of `schema_migrations`, by sequence. -/
  applied : List Migration
  userVersion : ℕ
  ledger : Ledger
  events : List EventRow
  /-- How many execution sessions were begun. -/
  sessions : ℕ
  rest : τ
deriving DecidableEq

/-! ### The directory -/

structure LockRecord where
  hostname : String
  pid : ℕ
deriving DecidableEq

/-- `.project.lock`. A file without a record is what `parseLock` rejects. -/
inductive LockFile
  | missing
  | malformed
  | held (record : LockRecord)
deriving DecidableEq

structure Disk (τ : Type) where
  /-- The root is a real directory. -/
  isDirectory : Bool
  /-- The required directories that are missing or unsafe. -/
  missingDirectories : List String
  manifest : ManifestFile
  /-- `none` when the file is no SQLite database. -/
  database : Option (Database τ)
  /-- `PRAGMA integrity_check` returns `ok`. -/
  integrity : Bool
  profile : ProfileFile
  /-- The files in `database/backups`. -/
  backups : List String
  lock : LockFile
deriving DecidableEq

/-- What the code takes from its surroundings. -/
structure Env (τ : Type) where
  /-- `MIGRATIONS`, as `validateMigrationDefinitions` accepts them. -/
  migrations : List Migration
  numbered : ∀ i (h : i < migrations.length), migrations[i].sequence = i + 1
  /-- The SQL of a migration; `none` when it fails. -/
  exec : Migration → τ → Option τ
  /-- `sha256(serializeSiteProfile(profile))`. -/
  profileHash : SiteProfile → String
  applicationVersion : String
  /-- `PROJECT_FORMAT_VERSION` and `MINIMUM_APPLICATION_VERSION`. -/
  formatVersion : String
  minimumApplicationVersion : String

/-- `CURRENT_SCHEMA_VERSION`. -/
def Env.currentSchemaVersion {τ : Type} (env : Env τ) : ℕ := env.migrations.length

/-- `updateManifestForOpen(manifest, timestamp, schemaVersion)`. -/
def Manifest.forOpen (manifest : Manifest) (timestamp : String) (schemaVersion : ℕ) : Manifest :=
  { manifest with
    lastOpenedAt := timestamp
    schemaVersion
    crawlQueue := decide (4 ≤ schemaVersion)
    proxies := decide (10 ≤ schemaVersion)
    ready := true
    lastValidatedAt := timestamp }

/-- `enableScopePolicy(manifest, input)`. -/
def Manifest.withProfile {τ : Type} (env : Env τ) (manifest : Manifest) (profile : SiteProfile) : Manifest :=
  { manifest with
    formatVersion := env.formatVersion
    applicationVersion := env.applicationVersion
    baseUrl := some profile.baseUrl
    revisionId := profile.revisionId
    schemaVersion := env.currentSchemaVersion
    scopePolicy := true
    lastValidatedAt := profile.updatedAt
    minimumApplicationVersion := env.minimumApplicationVersion }

/-- The manifest for opening depends on the last opening only. -/
@[simp] theorem Manifest.forOpen_forOpen (m : Manifest) (t t' : String) (v : ℕ) :
    (m.forOpen t v).forOpen t' v = m.forOpen t' v := rfl

/-! ### Validation -/

inductive IssueCode
  | PROJECT_NOT_FOUND | PROJECT_MANIFEST_INVALID | PROJECT_FORMAT_UNSUPPORTED | PROJECT_DIRECTORY_INVALID
  | PROJECT_DATABASE_INVALID | PROJECT_DATABASE_INTEGRITY_FAILED | PROJECT_MIGRATION_REQUIRED
  | PROJECT_MIGRATION_CHECKSUM_MISMATCH | PROJECT_SCHEMA_VERSION_MISMATCH | PROJECT_METADATA_MISSING
  | PROJECT_IDENTITY_MISMATCH | PROFILE_INVALID | PROFILE_INTEGRITY_MISMATCH | PROJECT_SCHEMA_UNSUPPORTED
deriving DecidableEq

/-- A pending migration is a warning, every other issue an error. -/
def IssueCode.isError : IssueCode → Bool
  | .PROJECT_MIGRATION_REQUIRED => false
  | _ => true

/-- The issue, when it is there. -/
def issueIf (c : Prop) [Decidable c] (code : IssueCode) : List IssueCode := if c then [code] else []

variable {τ : Type} (env : Env τ)

/-- The loop over the applied rows, with the definitions at the same places. -/
def inspectRows : List Migration → List Migration → Except IssueCode Unit
  | [], _ => .ok ()
  | _ :: _, [] => .error .PROJECT_SCHEMA_UNSUPPORTED
  | row :: rows, expected :: definitions =>
    if row.id ≠ expected.id ∨ row.sequence ≠ expected.sequence then .error .PROJECT_SCHEMA_UNSUPPORTED
    else if row.checksum ≠ expected.checksum then .error .PROJECT_MIGRATION_CHECKSUM_MISMATCH
    else inspectRows rows definitions

/-- `inspectMigrationState(database)`: how many are applied, and the pending ones. -/
def inspectMigrationState (db : Database τ) : Except IssueCode (ℕ × List Migration) := do
  inspectRows db.applied env.migrations
  return (db.applied.length, env.migrations.drop db.applied.length)

/-- The six comparisons of the metadata row with the manifest. -/
def identityIssues (metadata : Metadata) (manifest : Manifest) : List IssueCode :=
  issueIf (metadata.projectId ≠ manifest.projectId) .PROJECT_IDENTITY_MISMATCH ++
    issueIf (metadata.projectName ≠ manifest.name) .PROJECT_IDENTITY_MISMATCH ++
    issueIf (metadata.projectSlug ≠ manifest.slug) .PROJECT_IDENTITY_MISMATCH ++
    issueIf (metadata.formatVersion ≠ manifest.formatVersion) .PROJECT_IDENTITY_MISMATCH ++
    issueIf (metadata.currentRevisionId ≠ manifest.revisionId) .PROJECT_IDENTITY_MISMATCH ++
    issueIf (metadata.currentRunId ≠ manifest.runId) .PROJECT_IDENTITY_MISMATCH

def metadataIssues (db : Database τ) (manifest : Manifest) : List IssueCode :=
  match db.ledger.metadata with
  | none => [.PROJECT_METADATA_MISSING]
  | some metadata =>
    identityIssues metadata manifest ++
      issueIf (metadata.schemaVersion ≠ db.applied.length ∨ manifest.schemaVersion ≠ db.applied.length)
        .PROJECT_SCHEMA_VERSION_MISMATCH

/-- The row of `site_profiles` for the profile of the file. -/
def profileRow? (db : Database τ) (profileId : String) : Option ProfileRow :=
  db.ledger.profiles.find? fun row => row.profileId = profileId

/-- The row agrees with the file. -/
def rowAgrees (row : Option ProfileRow) (manifest : Manifest) (profile : SiteProfile) : Bool :=
  match row with
  | none => false
  | some row => decide (row.projectId = manifest.projectId ∧
      row.currentProfileRevisionId = profile.revisionId ∧ row.profileHash = env.profileHash profile)

def profileIssues (d : Disk τ) (db : Database τ) (manifest : Manifest) : List IssueCode :=
  if manifest.scopePolicy then
    match d.profile with
    | .missing | .invalid => [.PROFILE_INVALID]
    | .valid profile =>
      issueIf (rowAgrees env (profileRow? db profile.profileId) manifest profile = false)
          .PROFILE_INTEGRITY_MISMATCH ++
        issueIf (manifest.baseUrl ≠ some profile.baseUrl) .PROFILE_INTEGRITY_MISMATCH
  else []

/-- The issues of the database, and the applied schema version when it could be read. -/
def databaseIssues (d : Disk τ) (manifest : Manifest) : List IssueCode × Option ℕ :=
  match d.database with
  | none => ([.PROJECT_DATABASE_INVALID], none)
  | some db =>
    let integrity := issueIf (d.integrity = false) .PROJECT_DATABASE_INTEGRITY_FAILED
    match inspectMigrationState env db with
    | .error code => (integrity ++ [code], none)
    | .ok (applied, pending) =>
      (integrity ++ issueIf (pending ≠ []) .PROJECT_MIGRATION_REQUIRED ++
        issueIf (db.userVersion ≠ applied) .PROJECT_SCHEMA_VERSION_MISMATCH ++
        metadataIssues db manifest ++ profileIssues env d db manifest, some applied)

/-- `compatibilityFor(manifest, appliedSchema).compatible` of a supported manifest. -/
def compatible (applied : Option ℕ) : Bool :=
  match applied with
  | none => false
  | some applied => decide (applied ≤ env.currentSchemaVersion ∧ 0 < applied)

structure ValidationReport where
  valid : Bool
  issues : List IssueCode
deriving DecidableEq

/-- `validateProjectAt(root)`. -/
def validateProjectAt (d : Disk τ) : ValidationReport :=
  if d.isDirectory = false then { valid := false, issues := [.PROJECT_NOT_FOUND] }
  else
    match d.manifest with
    | .missing | .invalid => { valid := false, issues := [.PROJECT_MANIFEST_INVALID] }
    | .unsupported => { valid := false, issues := [.PROJECT_FORMAT_UNSUPPORTED] }
    | .valid manifest =>
      let found := databaseIssues env d manifest
      let issues := (d.missingDirectories.map fun _ => IssueCode.PROJECT_DIRECTORY_INVALID) ++ found.1 ++
        issueIf (compatible env found.2 = false) .PROJECT_SCHEMA_UNSUPPORTED
      { valid := issues.all (fun code => !code.isError) && compatible env found.2, issues }

end OfflineWebArchiver.Project

/-!
## What validation accepts

* `Valid`: the parts of a project directory that validation accepts, and how they agree.
* `validate_iff`: **a directory is accepted exactly when its parts are valid.**
-/

namespace OfflineWebArchiver.Project

variable {τ : Type} {env : Env τ}

/-- The metadata row is about the project of the manifest. -/
structure Identified (metadata : Metadata) (manifest : Manifest) : Prop where
  projectId : metadata.projectId = manifest.projectId
  name : metadata.projectName = manifest.name
  slug : metadata.projectSlug = manifest.slug
  formatVersion : metadata.formatVersion = manifest.formatVersion
  revisionId : metadata.currentRevisionId = manifest.revisionId
  runId : metadata.currentRunId = manifest.runId

/-- The profile file, the row of the profile and the manifest agree. -/
structure ProfileAgrees (env : Env τ) (file : ProfileFile) (db : Database τ) (manifest : Manifest)
    (profile : SiteProfile) : Prop where
  file : file = .valid profile
  row : rowAgrees env (profileRow? db profile.profileId) manifest profile = true
  baseUrl : manifest.baseUrl = some profile.baseUrl

/-- The applied migrations are known, and every copy of the schema version is their number. -/
structure SchemaAgrees (env : Env τ) (db : Database τ) (manifest : Manifest) (metadata : Metadata) : Prop where
  rows : inspectRows db.applied env.migrations = .ok ()
  userVersion : db.userVersion = db.applied.length
  metadata : metadata.schemaVersion = db.applied.length
  manifest : manifest.schemaVersion = db.applied.length
  pos : 0 < db.applied.length

/-- What validation accepts. -/
structure Valid (env : Env τ) (d : Disk τ) (manifest : Manifest) (db : Database τ) (metadata : Metadata) :
    Prop where
  isDirectory : d.isDirectory = true
  directories : d.missingDirectories = []
  manifestFile : d.manifest = .valid manifest
  databaseFile : d.database = some db
  integrity : d.integrity = true
  metadataRow : db.ledger.metadata = some metadata
  identified : Identified metadata manifest
  schema : SchemaAgrees env db manifest metadata
  profile : manifest.scopePolicy = true → ∃ profile, ProfileAgrees env d.profile db manifest profile

/-- No issue of this list is an error. -/
def NoError (issues : List IssueCode) : Prop := ∀ code ∈ issues, code.isError = false

theorem noError_append {l l' : List IssueCode} : NoError (l ++ l') ↔ NoError l ∧ NoError l' := by
  unfold NoError
  simp only [List.mem_append]
  exact ⟨fun h => ⟨fun c hc => h c (.inl hc), fun c hc => h c (.inr hc)⟩,
    fun h c hc => hc.elim (h.1 c) (h.2 c)⟩

theorem noError_issueIf {c : Prop} [Decidable c] (code : IssueCode) (hcode : code.isError = true) :
    NoError (issueIf c code) ↔ ¬c := by
  unfold NoError issueIf
  by_cases h : c
  · simp [h, hcode]
  · simp [h]

/-- Applied rows that are known are the first definitions. -/
theorem inspectRows_length {rows definitions : List Migration} (h : inspectRows rows definitions = .ok ()) :
    rows.length ≤ definitions.length := by
  induction rows generalizing definitions with
  | nil => exact Nat.zero_le _
  | cons row rows ih =>
    cases definitions with
    | nil => cases h
    | cons expected definitions =>
      rw [inspectRows] at h
      split_ifs at h
      exact Nat.succ_le_succ (ih h)

theorem noError_identity {metadata : Metadata} {manifest : Manifest} :
    NoError (identityIssues metadata manifest) ↔ Identified metadata manifest := by
  unfold identityIssues
  simp only [noError_append, noError_issueIf .PROJECT_IDENTITY_MISMATCH rfl, not_not]
  constructor
  · rintro ⟨⟨⟨⟨⟨h1, h2⟩, h3⟩, h4⟩, h5⟩, h6⟩
    exact ⟨h1, h2, h3, h4, h5, h6⟩
  · intro h
    exact ⟨⟨⟨⟨⟨h.projectId, h.name⟩, h.slug⟩, h.formatVersion⟩, h.revisionId⟩, h.runId⟩

theorem noError_profile {d : Disk τ} {db : Database τ} {manifest : Manifest} :
    NoError (profileIssues env d db manifest) ↔
      (manifest.scopePolicy = true → ∃ profile, ProfileAgrees env d.profile db manifest profile) := by
  unfold profileIssues
  by_cases hscope : manifest.scopePolicy = true
  · rw [if_pos hscope]
    cases hfile : d.profile with
    | missing =>
      refine ⟨fun h => absurd (h _ List.mem_cons_self) (by decide), fun h => ?_⟩
      obtain ⟨profile, hp⟩ := h hscope
      cases hp.file
    | invalid =>
      refine ⟨fun h => absurd (h _ List.mem_cons_self) (by decide), fun h => ?_⟩
      obtain ⟨profile, hp⟩ := h hscope
      cases hp.file
    | valid profile =>
      simp only [noError_append, noError_issueIf .PROFILE_INTEGRITY_MISMATCH rfl, not_not,
        Bool.not_eq_false]
      constructor
      · rintro ⟨hrow, hurl⟩ -
        exact ⟨profile, rfl, hrow, hurl⟩
      · intro h
        obtain ⟨profile', hp⟩ := h hscope
        obtain rfl := ProfileFile.valid.inj hp.file
        exact ⟨hp.row, hp.baseUrl⟩
  · rw [if_neg hscope]
    exact ⟨fun _ h => absurd h hscope, fun _ code hc => absurd hc List.not_mem_nil⟩

theorem inspectMigrationState_ok {db : Database τ} (h : inspectRows db.applied env.migrations = .ok ()) :
    inspectMigrationState env db = .ok (db.applied.length, env.migrations.drop db.applied.length) := by
  unfold inspectMigrationState
  rw [h]
  rfl

theorem noError_metadata {db : Database τ} {manifest : Manifest} :
    NoError (metadataIssues db manifest) ↔ ∃ metadata, db.ledger.metadata = some metadata ∧
      Identified metadata manifest ∧ metadata.schemaVersion = db.applied.length ∧
      manifest.schemaVersion = db.applied.length := by
  unfold metadataIssues
  cases hrow : db.ledger.metadata with
  | none =>
    refine ⟨fun h => absurd (h _ List.mem_cons_self) (by decide), fun ⟨_, h, _⟩ => by cases h⟩
  | some metadata =>
    simp only [noError_append, noError_identity,
      noError_issueIf .PROJECT_SCHEMA_VERSION_MISMATCH rfl, not_or, not_not]
    constructor
    · rintro ⟨hid, hmeta, hman⟩
      exact ⟨metadata, rfl, hid, hmeta, hman⟩
    · rintro ⟨metadata', hsome, h⟩
      obtain rfl := Option.some.inj hsome
      exact h

/-- What is found in the database, without an error. -/
theorem databaseIssues_ok {d : Disk τ} {manifest : Manifest} :
    (NoError (databaseIssues env d manifest).1 ∧ compatible env (databaseIssues env d manifest).2 = true) ↔
      ∃ db metadata, d.database = some db ∧ d.integrity = true ∧ db.ledger.metadata = some metadata ∧
        Identified metadata manifest ∧ SchemaAgrees env db manifest metadata ∧
        (manifest.scopePolicy = true → ∃ profile, ProfileAgrees env d.profile db manifest profile) := by
  unfold databaseIssues
  cases hdb : d.database with
  | none => exact ⟨fun h => absurd h.2 (by simp [compatible]), fun ⟨_, _, h, _⟩ => by cases h⟩
  | some db =>
    cases hrows : inspectRows db.applied env.migrations with
    | error code =>
      have hstate : inspectMigrationState env db = .error code := by
        unfold inspectMigrationState
        rw [hrows]
        rfl
      simp only [hstate]
      refine ⟨fun h => absurd h.2 (by simp [compatible]), ?_⟩
      rintro ⟨db', metadata, hsome, -, -, -, hschema, -⟩
      obtain rfl := Option.some.inj hsome
      have := hschema.rows
      rw [hrows] at this
      cases this
    | ok _ =>
      have hle := inspectRows_length hrows
      have hpending : NoError (issueIf (env.migrations.drop db.applied.length ≠ [])
          .PROJECT_MIGRATION_REQUIRED) := by
        intro code hc
        unfold issueIf at hc
        split at hc
        · rw [List.mem_singleton.1 hc]; rfl
        · cases hc
      simp only [inspectMigrationState_ok hrows, noError_append, noError_metadata, noError_profile,
        noError_issueIf .PROJECT_DATABASE_INTEGRITY_FAILED rfl,
        noError_issueIf .PROJECT_SCHEMA_VERSION_MISMATCH rfl, Bool.not_eq_false, not_not]
      constructor
      · rintro ⟨⟨⟨⟨⟨hint, -⟩, huser⟩, metadata, hrow, hid, hmeta, hman⟩, hprofile⟩, hcompat⟩
        exact ⟨db, metadata, rfl, hint, hrow, hid, ⟨hrows, huser, hmeta, hman, (of_decide_eq_true hcompat).2⟩,
          hprofile⟩
      · rintro ⟨db', metadata, hsome, hint, hrow, hid, hschema, hprofile⟩
        obtain rfl := Option.some.inj hsome
        exact ⟨⟨⟨⟨⟨hint, hpending⟩, hschema.userVersion⟩, metadata, hrow, hid, hschema.metadata,
          hschema.manifest⟩, hprofile⟩, decide_eq_true ⟨hle, hschema.pos⟩⟩

/-- **A directory is accepted exactly when its parts are valid.** -/
theorem validate_iff {d : Disk τ} :
    (validateProjectAt env d).valid = true ↔ ∃ manifest db metadata, Valid env d manifest db metadata := by
  unfold validateProjectAt
  by_cases hdir : d.isDirectory = false
  · rw [if_pos hdir]
    refine ⟨fun h => (by cases h), ?_⟩
    rintro ⟨manifest, db, metadata, hv⟩
    rw [hv.isDirectory] at hdir
    cases hdir
  · rw [if_neg hdir, Bool.not_eq_false] at *
    cases hman : d.manifest with
    | missing | invalid | unsupported =>
      refine ⟨fun h => (by cases h), ?_⟩
      rintro ⟨manifest, db, metadata, hv⟩
      have := hv.manifestFile
      rw [hman] at this
      cases this
    | valid manifest =>
      have hall : ∀ issues : List IssueCode, issues.all (fun code => !code.isError) = true ↔ NoError issues := by
        intro issues
        unfold NoError
        simp
      have hdirs : NoError (d.missingDirectories.map fun _ => IssueCode.PROJECT_DIRECTORY_INVALID) ↔
          d.missingDirectories = [] := by
        cases d.missingDirectories with
        | nil => simp [NoError]
        | cons a l => simp [NoError, IssueCode.isError]
      simp only [Bool.and_eq_true, hall, noError_append, hdirs,
        noError_issueIf .PROJECT_SCHEMA_UNSUPPORTED rfl, Bool.not_eq_false]
      constructor
      · rintro ⟨⟨⟨hmissing, hissues⟩, -⟩, hcompat⟩
        obtain ⟨db, metadata, hdb, hint, hrow, hid, hschema, hprofile⟩ := databaseIssues_ok.1 ⟨hissues, hcompat⟩
        exact ⟨manifest, db, metadata, hdir, hmissing, hman, hdb, hint, hrow, hid, hschema, hprofile⟩
      · rintro ⟨manifest', db, metadata, hv⟩
        obtain rfl := ManifestFile.valid.inj (hman.symm.trans hv.manifestFile)
        obtain ⟨hissues, hcompat⟩ := databaseIssues_ok.2 ⟨db, metadata, hv.databaseFile, hv.integrity,
          hv.metadataRow, hv.identified, hv.schema, hv.profile⟩
        exact ⟨⟨⟨hv.directories, hissues⟩, hcompat⟩, hcompat⟩

end OfflineWebArchiver.Project
