import OfflineWebArchiver.Project.Open

/-!
# Opening a project after a crash

Opening commits every migration for itself and replaces the manifest last, and validation
refuses a manifest whose schema version is not that of the database.

* `open_recovers_iff`: **after a crash the project is opened, as if nothing had happened,
  exactly when the crash left no migrated database with the old manifest and no lock that
  the later process cannot take over.**
* `stopped_refused`: a project that is refused after a crash between two migrations.
-/

namespace OfflineWebArchiver.Project

variable {τ : Type} {env : Env τ} {d d' s : Disk τ} {o o' : Opener}
variable {manifest : Manifest} {db : Database τ} {metadata : Metadata}

/-- The later process can take over what is left of the lock: there is none, or it has its
record and its process is gone from this host. -/
def LockLeft (o o' : Opener) (done : List Effect) : Prop :=
  .createLock ∈ done → .writeLock o.lockRecord ∈ done ∧ o'.takesOver o.lockRecord = true

/-- No migration is committed, or the manifest says so. -/
def Recorded (done : List Effect) : Prop :=
  (∀ migration, .migrate migration ∉ done) ∨ ∃ manifest, .replaceManifest manifest ∈ done

/-! ### The lock -/

theorem openEffects_take (o : Opener) (manifest : Manifest) (db : Database τ) (n : ℕ) :
    .createLock ∉ (openEffects env o manifest db).take n ∧
      ∀ record, .writeLock record ∉ (openEffects env o manifest db).take n := by
  constructor
  · intro h
    have := openEffects_lock o manifest db _ (List.mem_of_mem_take h) .missing
    cases this
  · intro record h
    have := openEffects_lock o manifest db _ (List.mem_of_mem_take h) .missing
    cases this

/-- What a process leaves of its lock. -/
theorem lockLeft_iff {l : LockFile} {lock lock' : List Effect} (hacq : acquireProjectLock o l = .ok lock)
    (hacq' : acquireProjectLock o' l = .ok lock') (n : ℕ) :
    (∃ left, acquireProjectLock o' ((lock.take n).foldl (fun l e => e.onLock l) l) = .ok left) ↔
      LockLeft o o' (lock.take n) := by
  have hheld : (∃ left, acquireProjectLock o' (.held o.lockRecord) = .ok left) ↔
      o'.takesOver o.lockRecord = true := by
    rw [acquireProjectLock]
    by_cases h : o'.takesOver o.lockRecord = true
    · simp [h]
    · simp [h]
  unfold LockLeft
  rcases acquire_effects hacq with rfl | rfl
  · rcases n with _ | _ | n
    · simp [hacq']
    · simp [createLock, Effect.onLock, acquireProjectLock]
    · simpa [createLock, Effect.onLock] using hheld
  · rcases n with _ | _ | _ | n
    · simp [hacq']
    · simp [createLock, Effect.onLock, acquireProjectLock]
    · simp [createLock, Effect.onLock, acquireProjectLock]
    · simpa [createLock, Effect.onLock] using hheld

/-! ### The project -/

/-- What is opened is determined by the project and by the lock. -/
theorem Valid.opens_of_core (hv : Valid env d manifest db metadata) (hcore : s.core = d.core)
    {lock : List Effect} (hacq : acquireProjectLock o s.lock = .ok lock) {rest : τ}
    (hrest : Effects.runAll env.exec (env.migrations.drop db.applied.length) db.rest = some rest) :
    ∃ s', openProject env o s = (s', .ok ()) ∧ s'.core = openedCore env o d manifest db rest ∧
      s'.lock = .held o.lockRecord := by
  obtain ⟨isDirectory, missing, manifestFile, database, integrity, profile, backups, lockFile⟩ := s
  have hd := hv.databaseFile
  simp only [Disk.core, hd, Option.map_some, Disk.mk.injEq, Option.map_eq_some_iff] at hcore
  obtain ⟨rfl, rfl, rfl, ⟨db', rfl, hdb⟩, rfl, rfl, -, -⟩ := hcore
  obtain ⟨applied, userVersion, ledger, events, sessions, rest'⟩ := db'
  obtain ⟨applied', userVersion', ledger', events', sessions', rest''⟩ := db
  simp only [Database.mk.injEq] at hdb
  obtain ⟨rfl, rfl, rfl, -, -, rfl⟩ := hdb
  have hvs : Valid env (Disk.mk d.isDirectory d.missingDirectories d.manifest
      (some ⟨applied, userVersion, ledger, events, sessions, rest'⟩) d.integrity d.profile backups lockFile)
      manifest ⟨applied, userVersion, ledger, events, sessions, rest'⟩ metadata :=
    ⟨hv.isDirectory, hv.directories, hv.manifestFile, rfl, hv.integrity, hv.metadataRow, hv.identified,
      ⟨hv.schema.rows, hv.schema.userVersion, hv.schema.metadata, hv.schema.manifest, hv.schema.pos⟩,
      fun hscope => by
        obtain ⟨p, hp⟩ := hv.profile hscope
        exact ⟨p, hp.file, hp.row, hp.baseUrl⟩⟩
  exact hvs.opens hacq hrest

/-- A manifest with another schema version than the database is refused. -/
theorem refused_of_schema {db' : Database τ} (hman : s.core.manifest = .valid manifest)
    (hdb : s.core.database = some db') (hne : manifest.schemaVersion ≠ db'.applied.length) (s' : Disk τ) :
    openProject env o s ≠ (s', .ok ()) := by
  intro h
  obtain ⟨effects, hplan, -⟩ := openProject_ok.1 h
  obtain ⟨manifest', db'', metadata', hv⟩ := valid_of_plan hplan
  obtain rfl := ManifestFile.valid.inj (hman.symm.trans hv.manifestFile)
  have hcore : s.core.database = some { db'' with events := [], sessions := 0 } := by
    simp [Disk.core, hv.databaseFile]
  rw [hdb] at hcore
  rw [Option.some.inj hcore] at hne
  exact hne hv.schema.manifest

/-- An opened project is valid. -/
theorem Valid.openedCore_valid (hv : Valid env d manifest db metadata) (o : Opener) (rest : τ) :
    ∃ db', Valid env (openedCore env o d manifest db rest)
      (manifest.forOpen o.timestamp env.currentSchemaVersion) db' (metadata.opened env o.timestamp) ∧
      db'.applied = env.migrations ∧ db'.rest = rest ∧ db'.ledger = db.ledger.opened env o.timestamp := by
  have hlen := inspectRows_length hv.schema.rows
  have hpos := hv.schema.pos
  refine ⟨_, ⟨hv.isDirectory, hv.directories, rfl, rfl, hv.integrity, ?_, ?_, ?_, ?_⟩, rfl, rfl, rfl⟩
  · simp [Ledger.opened, hv.metadataRow]
  · exact ⟨hv.identified.projectId, hv.identified.name, hv.identified.slug, hv.identified.formatVersion,
      hv.identified.revisionId, hv.identified.runId⟩
  · refine ⟨?_, rfl, rfl, rfl, show 0 < env.migrations.length by omega⟩
    have := inspectRows_of_take env.migrations env.migrations.length
    rwa [List.take_length] at this
  · intro hscope
    obtain ⟨p, hp⟩ := hv.profile hscope
    exact ⟨p, hp.file, hp.row, hp.baseUrl⟩

/-! ### The crash -/

theorem prefix_append_pair {α : Type} {p l : List α} {a b : α} (h : p <+: l ++ [a, b]) :
    p <+: l ∨ p = l ++ [a] ∨ p = l ++ [a, b] := by
  have hsplit : l ++ [a, b] = l ++ [a] ++ [b] := by simp
  rw [hsplit, List.prefix_concat_iff, List.prefix_concat_iff, ← hsplit] at h
  rcases h with h | h | h
  · exact .inr (.inr h)
  · exact .inr (.inl h)
  · exact .inl h

/-- The project between two migrations. -/
def migratedCore (d : Disk τ) (db : Database τ) (ms : List Migration) (rest : τ) : Disk τ :=
  { d.core with database := some ({ db with events := [], sessions := 0 }.migrated ms rest) }

/-- The project between the metadata row and the manifest. -/
def updatedCore (env : Env τ) (o : Opener) (d : Disk τ) (db : Database τ) (ms : List Migration) (rest : τ) :
    Disk τ :=
  (migratedCore d db ms rest).onDatabase fun db => { db with ledger := db.ledger.opened env o.timestamp }

/-- A project of the current schema stays valid when its metadata row is updated. -/
theorem Valid.updated (hv : Valid env d manifest db metadata)
    (hcurrent : db.applied.length = env.currentSchemaVersion) (o : Opener) :
    ∃ db', Valid env (updatedCore env o d db [] db.rest) manifest db' (metadata.opened env o.timestamp) ∧
      db'.applied = db.applied ∧ db'.rest = db.rest ∧ db'.ledger = db.ledger.opened env o.timestamp := by
  refine ⟨{ db with ledger := db.ledger.opened env o.timestamp, events := [], sessions := 0 },
    ⟨hv.isDirectory, hv.directories, hv.manifestFile, ?_, hv.integrity, ?_, ?_, ?_, ?_⟩, rfl, rfl, rfl⟩
  · simp [updatedCore, migratedCore, Disk.onDatabase, Database.migrated]
  · simp [Ledger.opened, hv.metadataRow]
  · exact ⟨hv.identified.projectId, hv.identified.name, hv.identified.slug, hv.identified.formatVersion,
      hv.identified.revisionId, hv.identified.runId⟩
  · exact ⟨hv.schema.rows, hv.schema.userVersion, hcurrent.symm, hv.schema.manifest, hv.schema.pos⟩
  · intro hscope
    obtain ⟨p, hp⟩ := hv.profile hscope
    exact ⟨p, hp.file, hp.row, hp.baseUrl⟩

/-- What of the project a crash finds done, and what it leaves. -/
inductive Stopped (env : Env τ) (o : Opener) (d : Disk τ) (manifest : Manifest) (db : Database τ) (rest : τ)
    (done : List Effect) (s : Disk τ) : Prop
  | migrating (k : ℕ) (rest' : τ) (hdone : done = ((env.migrations.drop db.applied.length).take k).map .migrate)
      (hcore : s.core = migratedCore d db ((env.migrations.drop db.applied.length).take k) rest')
      (hstart : (env.migrations.drop db.applied.length).take k = [] → rest' = db.rest)
  | updated (hdone : done = (env.migrations.drop db.applied.length).map .migrate ++ [.updateMetadata o.timestamp])
      (hcore : s.core = updatedCore env o d db (env.migrations.drop db.applied.length) rest)
  | opened (hdone : .replaceManifest (manifest.forOpen o.timestamp env.currentSchemaVersion) ∈ done)
      (hcore : s.core = openedCore env o d manifest db rest)

/-- **What a crash leaves of a project.** -/
theorem Valid.stopped (hv : Valid env d manifest db metadata) {lock : List Effect}
    (hacq : acquireProjectLock o d.lock = .ok lock) {rest : τ}
    (hrest : Effects.runAll env.exec (env.migrations.drop db.applied.length) db.rest = some rest) (n : ℕ)
    (hrun : Effects.runAll (Effect.run env) ((lock ++ openEffects env o manifest db).take n) d = some s) :
    Stopped env o d manifest db rest
      (((lock ++ openEffects env o manifest db).take n).filter Effect.concernsCore) s := by
  have hview := Effects.runAll_view (@run_core _ env) run_aside ((lock ++ openEffects env o manifest db).take n) d
  have hpre : ((lock ++ openEffects env o manifest db).take n).filter Effect.concernsCore <+:
      (lock ++ openEffects env o manifest db).filter Effect.concernsCore := (List.take_prefix n _).filter _
  rw [filter_openEffects _ _ _ _ (acquire_aside hacq)] at hpre
  have hdb : d.core.database = some { db with events := [], sessions := 0 } := by
    simp [Disk.core, hv.databaseFile]
  rw [hrun, Option.map_some] at hview
  rcases prefix_append_pair hpre with h | h | h
  · -- some of the migrations
    rw [List.prefix_iff_eq_take, ← List.map_take] at h
    rw [h] at hview ⊢
    generalize (((lock ++ openEffects env o manifest db).take n).filter Effect.concernsCore).length = k at *
    rw [runAll_migrate _ hdb] at hview
    obtain ⟨rest', hrest', hcore⟩ := Option.map_eq_some_iff.1 hview.symm
    refine .migrating k rest' rfl hcore.symm fun hnil => ?_
    rw [hnil] at hrest'
    exact (Option.some.inj hrest').symm
  · -- the metadata row
    rw [h] at hview ⊢
    rw [Effects.runAll_append, runAll_migrate _ hdb] at hview
    simp only [hrest, Option.map_some, Option.bind_some, Effects.runAll, Effect.run, Option.some.injEq] at hview
    exact .updated rfl hview
  · -- everything
    rw [h] at hview ⊢
    rw [hv.runAll_core, hrest, Option.map_some] at hview
    exact .opened (by simp) (Option.some.inj hview)

theorem recorded_filter {done : List Effect} : Recorded (done.filter Effect.concernsCore) ↔ Recorded done := by
  unfold Recorded
  simp [List.mem_filter, Effect.concernsCore]

theorem not_recorded {ms : List Migration} (hne : ms ≠ []) {es : List Effect}
    (hes : ∀ manifest, .replaceManifest manifest ∉ es) : ¬Recorded (ms.map .migrate ++ es) := by
  rintro (h | ⟨m, h⟩)
  · obtain ⟨migration, hm⟩ := List.exists_mem_of_ne_nil ms hne
    exact h migration (List.mem_append_left _ (List.mem_map_of_mem hm))
  · rcases List.mem_append.1 h with h | h
    · obtain ⟨_, -, h⟩ := List.mem_map.1 h
      cases h
    · exact hes m h

/-- A database that is ahead of the manifest is refused. -/
theorem Valid.ahead_refused (hv : Valid env d manifest db metadata) {ms : List Migration} (hne : ms ≠ [])
    {db' : Database τ} (happlied : db'.applied = db.applied ++ ms) (hman : s.core.manifest = d.manifest)
    (hdb : s.core.database = some db') (s' : Disk τ) : openProject env o s ≠ (s', .ok ()) := by
  refine refused_of_schema (hman.trans hv.manifestFile) hdb ?_ s'
  have hpos := List.length_pos_of_ne_nil hne
  rw [hv.schema.manifest, happlied, List.length_append]
  omega

/-- **The project can be opened again exactly when the manifest is that of the database.** -/
theorem Stopped.opens_iff (hv : Valid env d manifest db metadata) {done : List Effect} {rest : τ}
    (hrest : Effects.runAll env.exec (env.migrations.drop db.applied.length) db.rest = some rest)
    (hs : Stopped env o d manifest db rest done s) :
    (∃ s', openProject env o' s = (s', .ok ()) ∧ s'.core = openedCore env o' d manifest db rest ∧
      s'.lock = .held o'.lockRecord) ↔ (∃ lock, acquireProjectLock o' s.lock = .ok lock) ∧ Recorded done := by
  have hlock : ∀ s', openProject env o' s = (s', .ok ()) → ∃ lock, acquireProjectLock o' s.lock = .ok lock := by
    intro s' h
    obtain ⟨effects, hplan, -⟩ := openProject_ok.1 h
    obtain ⟨_, _, _, hvs⟩ := valid_of_plan hplan
    exact (hvs.opened h).1
  have hempty : env.migrations.drop db.applied.length = [] → rest = db.rest := by
    intro hnil
    rw [hnil] at hrest
    exact (Option.some.inj hrest).symm
  cases hs with
  | migrating k rest' hdone hcore hstart =>
    by_cases hnil : (env.migrations.drop db.applied.length).take k = []
    · -- nothing has happened yet
      have hsame : s.core = d.core := by
        rw [hcore, hnil, hstart hnil]
        simp [migratedCore, Database.migrated, Disk.core, hv.databaseFile]
      have hrecorded : Recorded done := by
        left
        rw [hdone, hnil]
        exact fun _ => List.not_mem_nil
      constructor
      · rintro ⟨s', h, -⟩
        exact ⟨hlock s' h, hrecorded⟩
      · rintro ⟨⟨lock, hacq⟩, -⟩
        exact hv.opens_of_core hsame hacq hrest
    · -- the manifest is that of an older schema
      have hrefused := @Valid.ahead_refused _ env d s o' _ _ _ hv _ hnil _ rfl (by rw [hcore]; rfl) (by rw [hcore]; rfl)
      constructor
      · rintro ⟨s', h, -⟩
        exact absurd h (hrefused s')
      · rintro ⟨-, h⟩
        rw [hdone, ← List.append_nil (List.map _ _)] at h
        exact absurd h (not_recorded hnil fun _ => List.not_mem_nil)
  | updated hdone hcore =>
    by_cases hnil : env.migrations.drop db.applied.length = []
    · -- there was nothing to migrate
      have hcurrent : db.applied.length = env.currentSchemaVersion := by
        have := List.drop_eq_nil_iff.1 hnil
        have := inspectRows_length hv.schema.rows
        unfold Env.currentSchemaVersion
        omega
      have hrecorded : Recorded done := by
        left
        rw [hdone, hnil]
        simp
      rw [hnil, hempty hnil] at hcore
      obtain ⟨db', hv', happlied, hrest', hledger⟩ := hv.updated hcurrent o
      constructor
      · rintro ⟨s', h, -⟩
        exact ⟨hlock s' h, hrecorded⟩
      · rintro ⟨⟨lock, hacq⟩, -⟩
        have hcore' : s.core = (updatedCore env o d db [] db.rest).core := by
          rw [hcore]
          simp [updatedCore, migratedCore, Database.migrated, Disk.onDatabase, Disk.core]
        obtain ⟨s', h, hs', hl⟩ := hv'.opens_of_core hcore' hacq (by rw [happlied, hrest']; exact hrest)
        refine ⟨s', h, ?_, hl⟩
        rw [hs']
        simp [openedCore, updatedCore, migratedCore, Disk.onDatabase, Disk.core, hledger, Ledger.opened,
          Metadata.opened, Function.comp_def]
    · have hrefused := @Valid.ahead_refused _ env d s o' _ _ _ hv _ hnil _ rfl (by rw [hcore]; rfl) (by rw [hcore]; rfl)
      constructor
      · rintro ⟨s', h, -⟩
        exact absurd h (hrefused s')
      · rintro ⟨-, h⟩
        rw [hdone] at h
        exact absurd h (not_recorded hnil fun _ => by simp)
  | opened hdone hcore =>
    obtain ⟨db', hv', happlied, hrest', hledger⟩ := hv.openedCore_valid o rest
    have hnone : env.migrations.drop db'.applied.length = [] := by rw [happlied, List.drop_length]
    constructor
    · rintro ⟨s', h, -⟩
      exact ⟨hlock s' h, .inr ⟨_, hdone⟩⟩
    · rintro ⟨⟨lock, hacq⟩, -⟩
      have hcore' : s.core = (openedCore env o d manifest db rest).core := hcore
      have hran : Effects.runAll env.exec (env.migrations.drop db'.applied.length) db'.rest = some rest := by
        rw [hnone, hrest']
        rfl
      obtain ⟨s', h, hs', hl⟩ := hv'.opens_of_core hcore' hacq hran
      refine ⟨s', h, ?_, hl⟩
      rw [hs']
      simp [openedCore, hledger, Ledger.opened, Metadata.opened, Function.comp_def]

/-- **A project is opened after a crash, and is then what it would have been without the
crash, if and only if** the lock file was not there yet or the later process can take it over,
and no migration was committed yet or the manifest was already replaced. -/
theorem open_recovers_iff {effects : List Effect} (hplan : openPlan env o d = .ok effects)
    (hopen : openProject env o' d = (d', .ok ())) (n : ℕ) :
    (∃ s', openProject env o' (Effects.stopAfter (Effect.run env) n effects d) = (s', .ok ()) ∧
      s'.core = d'.core ∧ s'.lock = d'.lock) ↔
    LockLeft o o' (effects.take n) ∧ Recorded (effects.take n) := by
  obtain ⟨manifest, db, metadata, hv⟩ := valid_of_plan hplan
  obtain ⟨lock, hacq, rfl⟩ := hv.plan.1 hplan
  obtain ⟨⟨lock', hacq'⟩, hheld, rest, hrest, hcore⟩ := hv.opened hopen
  -- the first process would have got to its end
  obtain ⟨t, ht, -⟩ := hv.opens hacq hrest
  obtain ⟨effects, hplan', hall⟩ := openProject_ok.1 ht
  obtain ⟨lock'', hacq'', rfl⟩ := hv.plan.1 hplan'
  obtain rfl : lock = lock'' := Except.ok.inj (hacq.symm.trans hacq'')
  have hrun := Effects.runAll_take hall n
  have hstopped := hv.stopped hacq hrest n hrun
  rw [hcore, hheld, hstopped.opens_iff hv hrest, recorded_filter]
  refine and_congr_left' ?_
  -- only the part that takes the lock concerns the lock
  rw [runAll_lock hrun, List.take_append, List.foldl_append,
    foldl_onLock (fun e he => openEffects_lock o manifest db e (List.mem_of_mem_take he)), lockLeft_iff hacq hacq' n]
  obtain ⟨hcreate, hwrite⟩ := @openEffects_take _ env o manifest db (n - lock.length)
  unfold LockLeft
  simp [List.mem_append, hcreate, hwrite]

/-! ### A project of an older schema

Three migrations, each of which adds a table, and a project in which the first is applied. -/

def threeMigrations : Env ℕ where
  migrations := [⟨"001_create_project", 1, "a"⟩, ⟨"002_add_queue", 2, "b"⟩, ⟨"003_add_leases", 3, "c"⟩]
  numbered := by
    intro i h
    match i, h with
    | 0, _ | 1, _ | 2, _ => rfl
  exec _ tables := some (tables + 1)
  profileHash _ := ""
  applicationVersion := "2"
  formatVersion := "1"
  minimumApplicationVersion := "1"

def olderProject : Disk ℕ where
  isDirectory := true
  missingDirectories := []
  manifest := .valid
    { formatVersion := "1", applicationVersion := "1", projectId := "p", name := "n", slug := "s",
      createdAt := "0", lastOpenedAt := "1", baseUrl := none, revisionId := "r", runId := "u",
      schemaVersion := 1, scopePolicy := false, crawlQueue := false, proxies := false, ready := false,
      lastValidatedAt := "1", minimumApplicationVersion := "1" }
  database := some
    { applied := [⟨"001_create_project", 1, "a"⟩]
      userVersion := 1
      ledger :=
        { metadata := some
            { projectId := "p", projectName := "n", projectSlug := "s", formatVersion := "1", schemaVersion := 1,
              createdAt := "0", lastOpenedAt := "1", currentRevisionId := "r", currentRunId := "u" }
          revisions := []
          profiles := []
          profileRevisions := [] }
      events := []
      sessions := 0
      rest := 1 }
  integrity := true
  profile := .missing
  backups := []
  lock := .missing

/-- The process that stops, and the one that opens the project later. -/
def firstOpener : Opener := ⟨"host", 1, fun pid => pid = 1, "5", "a"⟩

def laterOpener : Opener := ⟨"host", 2, fun pid => pid = 2, "9", "b"⟩

/-- What the first process is about to do. -/
def firstPlan : List Effect :=
  createLock firstOpener ++
    (createMigrationBackup firstOpener 1 3 ++
      [.migrate ⟨"002_add_queue", 2, "b"⟩, .migrate ⟨"003_add_leases", 3, "c"⟩] ++
      settleEffects threeMigrations firstOpener
        { formatVersion := "1", applicationVersion := "1", projectId := "p", name := "n", slug := "s",
          createdAt := "0", lastOpenedAt := "1", baseUrl := none, revisionId := "r", runId := "u",
          schemaVersion := 1, scopePolicy := false, crawlQueue := false, proxies := false, ready := false,
          lastValidatedAt := "1", minimumApplicationVersion := "1" })

/-- The lock of a process that has ended is taken over. -/
example : laterOpener.takesOver firstOpener.lockRecord = true := by decide

theorem openPlan_older : openPlan threeMigrations firstOpener olderProject = .ok firstPlan := by
  decide

theorem openProject_older :
    ∃ d', openProject threeMigrations laterOpener olderProject = (d', .ok ()) := by
  refine ⟨(openProject threeMigrations laterOpener olderProject).1, Prod.ext rfl ?_⟩
  decide

/-- The first process stops before its first migration. -/
theorem stopped_opens : ∃ s' d', openProject threeMigrations laterOpener olderProject = (d', .ok ()) ∧
    openProject threeMigrations laterOpener
      (Effects.stopAfter (Effect.run threeMigrations) 6 firstPlan olderProject) = (s', .ok ()) ∧
    s'.core = d'.core ∧ s'.lock = d'.lock := by
  obtain ⟨d', hd'⟩ := openProject_older
  obtain ⟨s', hs', hsame⟩ := (open_recovers_iff openPlan_older hd' 6).2
    ⟨fun _ => by decide, .inl fun m => by simp [firstPlan, createLock, createMigrationBackup]⟩
  exact ⟨s', d', hd', hs', hsame⟩

/-- The first process stops between its two migrations. -/
theorem stopped_refused : (∃ d', openProject threeMigrations laterOpener olderProject = (d', .ok ())) ∧
    openPlan threeMigrations firstOpener olderProject = .ok firstPlan ∧
    openProject threeMigrations laterOpener
        (Effects.stopAfter (Effect.run threeMigrations) 7 firstPlan olderProject) =
      (Effects.stopAfter (Effect.run threeMigrations) 7 firstPlan olderProject,
        .error (.validationFailure [.PROJECT_MIGRATION_REQUIRED, .PROJECT_SCHEMA_VERSION_MISMATCH])) :=
  ⟨openProject_older, openPlan_older, by decide⟩

end OfflineWebArchiver.Project
