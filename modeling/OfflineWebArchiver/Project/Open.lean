import OfflineWebArchiver.Lib.Checks
import OfflineWebArchiver.Lib.Effects
import OfflineWebArchiver.Project.Types

/-!
# Opening a project

`open(projectPath)` in a process that has no project open, as the list of its durable
effects: the lock, the backup, one commit for each pending migration, the metadata row, the
event, the manifest and the session.

* `openPlan`, `openProject`: the effects, and what they leave.
* `Disk.core`: the project without what every opening leaves behind of itself.
* `Valid.opened`, `Valid.opens`: **when opening succeeds, and with which project.**
-/

namespace OfflineWebArchiver.Project

variable {τ : Type}

/-! ### The effects -/

inductive Effect
  /-- `unlink(lockPath)` of a stale lock. -/
  | unlinkLock
  /-- `open(lockPath, "wx")`: the file has no record yet. -/
  | createLock
  /-- `handle.writeFile(...)` -/
  | writeLock (record : LockRecord)
  | addBackup (file : String)
  | removeBackup (file : String)
  /-- The transaction of one migration. -/
  | migrate (migration : Migration)
  /-- `UPDATE project_metadata SET schema_version = ?, last_opened_at = ?` -/
  | updateMetadata (timestamp : String)
  | recordEvent (event : EventRow)
  | replaceManifest (manifest : Manifest)
  | beginExecutionSession
deriving DecidableEq

/-- A statement on the database. -/
def Disk.onDatabase (d : Disk τ) (f : Database τ → Database τ) : Disk τ :=
  { d with database := d.database.map f }

variable (env : Env τ)

/-- The transaction of one migration; it fails with its SQL. -/
def Database.migrate (db : Database τ) (migration : Migration) : Option (Database τ) :=
  (env.exec migration db.rest).map fun rest =>
    { db with applied := db.applied ++ [migration], userVersion := migration.sequence, rest }

def Metadata.opened (metadata : Metadata) (timestamp : String) : Metadata :=
  { metadata with schemaVersion := env.currentSchemaVersion, lastOpenedAt := timestamp }

def Ledger.opened (ledger : Ledger) (timestamp : String) : Ledger :=
  { ledger with metadata := ledger.metadata.map fun metadata => metadata.opened env timestamp }

def Effect.run : Effect → Disk τ → Option (Disk τ)
  | .unlinkLock, d => some { d with lock := .missing }
  | .createLock, d => some { d with lock := .malformed }
  | .writeLock record, d => some { d with lock := .held record }
  | .addBackup file, d => some { d with backups := d.backups ++ [file] }
  | .removeBackup file, d => some { d with backups := d.backups.filter (· ≠ file) }
  | .migrate migration, d =>
    match d.database with
    | none => none
    | some db => (db.migrate env migration).map fun db => { d with database := some db }
  | .updateMetadata timestamp, d =>
    some (d.onDatabase fun db => { db with ledger := db.ledger.opened env timestamp })
  | .recordEvent event, d => some (d.onDatabase fun db => { db with events := db.events ++ [event] })
  | .replaceManifest manifest, d => some { d with manifest := .valid manifest }
  | .beginExecutionSession, d => some (d.onDatabase fun db => { db with sessions := db.sessions + 1 })

/-! ### The procedure -/

/-- A process that opens the project. -/
structure Opener where
  hostname : String
  pid : ℕ
  processIsAlive : ℕ → Bool
  /-- `now()`. -/
  timestamp : String
  /-- The end of the names of its backup files: a stamp and a new id. -/
  backupId : String

def Opener.lockRecord (o : Opener) : LockRecord := { hostname := o.hostname, pid := o.pid }

inductive OpenError
  | validationFailure (issues : List IssueCode)
  | PROJECT_LOCK_INVALID
  | PROJECT_LOCKED
  | PROJECT_MIGRATION_FAILED
deriving DecidableEq

/-- `createLock(lockPath, operation, now)`. -/
def createLock (o : Opener) : List Effect := [.createLock, .writeLock o.lockRecord]

/-- The lock of a process of this host that is gone. -/
def Opener.takesOver (o : Opener) (existing : LockRecord) : Bool :=
  !(existing.hostname ≠ o.hostname || o.processIsAlive existing.pid)

/-- `acquireProjectLock(root, "open", now)`, without another process in between. -/
def acquireProjectLock (o : Opener) : LockFile → Except OpenError (List Effect)
  | .missing => .ok (createLock o)
  | .malformed => .error .PROJECT_LOCK_INVALID
  | .held existing =>
    if o.takesOver existing then .ok (.unlinkLock :: createLock o) else .error .PROJECT_LOCKED

/-- The files of `createMigrationBackup`: the copy is made beside its place and then moved. -/
def createMigrationBackup (o : Opener) (fromSchema toSchema : ℕ) : List Effect :=
  let basename := s!"pre-migration-v{fromSchema}-to-v{toSchema}-{o.backupId}"
  [.addBackup s!".{basename}.db.tmp", .addBackup s!"{basename}.db", .removeBackup s!".{basename}.db.tmp",
    .addBackup s!"{basename}.json"]

/-- The backup and the transactions of `applyPendingMigrations`. -/
def migrationEffects (o : Opener) (applied : ℕ) (pending : List Migration) : List Effect :=
  if pending = [] then []
  else createMigrationBackup o applied env.currentSchemaVersion ++ pending.map .migrate

/-- What follows the migrations. -/
def settleEffects (o : Opener) (manifest : Manifest) : List Effect :=
  [.updateMetadata o.timestamp, .recordEvent { eventType := "project.opened", occurredAt := o.timestamp },
    .replaceManifest (manifest.forOpen o.timestamp env.currentSchemaVersion), .beginExecutionSession]

/-- The effects of opening this project, once its lock is held. -/
def openEffects (o : Opener) (manifest : Manifest) (db : Database τ) : List Effect :=
  migrationEffects env o db.applied.length (env.migrations.drop db.applied.length) ++
    settleEffects env o manifest

/-- What opening is about to do, after its checks. -/
def openPlan (o : Opener) (d : Disk τ) : Except OpenError (List Effect) :=
  let report := validateProjectAt env d
  match report.valid, d.manifest, d.database with
  | true, .valid manifest, some db => do
    let lock ← acquireProjectLock o d.lock
    return lock ++ openEffects env o manifest db
  | _, _, _ => .error (.validationFailure report.issues)

/-- `open(projectPath)`: the directory that it leaves, and its outcome. -/
def openProject (o : Opener) (d : Disk τ) : Disk τ × Except OpenError Unit :=
  match openPlan env o d with
  | .error e => (d, .error e)
  | .ok effects =>
    match Effects.perform (Effect.run env) effects d with
    | (d', true) => (d', .ok ())
    | (d', false) => ({ d' with lock := .missing }, .error .PROJECT_MIGRATION_FAILED)

/-! ### The project in the directory -/

/-- The project without the backups, the lock, the events and the sessions. -/
def Disk.core (d : Disk τ) : Disk τ :=
  { d with
    backups := []
    lock := .missing
    database := d.database.map fun db => { db with events := [], sessions := 0 } }

/-- The effects that change the project. -/
def Effect.concernsCore : Effect → Bool
  | .migrate _ | .updateMetadata _ | .replaceManifest _ => true
  | _ => false

def Effect.onLock : Effect → LockFile → LockFile
  | .unlinkLock, _ => .missing
  | .createLock, _ => .malformed
  | .writeLock record, _ => .held record
  | _, l => l

variable {env} {d d' : Disk τ} {o o' : Opener}

theorem run_core (e : Effect) (d : Disk τ) (he : e.concernsCore = true) :
    e.run env d.core = (e.run env d).map Disk.core := by
  cases e with
  | migrate m =>
    unfold Effect.run
    cases h : d.database with
    | none => simp [Disk.core, h]
    | some db => simp [Disk.core, h, Database.migrate, Function.comp_def]
  | updateMetadata t => simp [Effect.run, Disk.onDatabase, Disk.core, Function.comp_def]
  | replaceManifest m => rfl
  | _ => cases he

theorem run_aside (e : Effect) (d : Disk τ) (he : e.concernsCore = false) :
    (e.run env d).map Disk.core = some d.core := by
  cases e with
  | migrate | updateMetadata | replaceManifest => cases he
  | recordEvent | beginExecutionSession => simp [Effect.run, Disk.onDatabase, Disk.core, Function.comp_def]
  | _ => rfl

theorem run_lock (e : Effect) (d : Disk τ) : ∀ d', e.run env d = some d' → d'.lock = e.onLock d.lock := by
  intro d' h
  cases e with
  | migrate m =>
    unfold Effect.run at h
    cases hdb : d.database with
    | none => simp [hdb] at h
    | some db =>
      simp only [hdb, Option.map_eq_some_iff] at h
      obtain ⟨db', -, rfl⟩ := h
      rfl
  | _ => cases h; rfl

/-- The statements that concern the project, in their order. -/
theorem filter_openEffects (o : Opener) (manifest : Manifest) (db : Database τ) (lock : List Effect)
    (hlock : ∀ e ∈ lock, e.concernsCore = false) :
    (lock ++ openEffects env o manifest db).filter Effect.concernsCore =
      (env.migrations.drop db.applied.length).map .migrate ++
        [.updateMetadata o.timestamp,
          .replaceManifest (manifest.forOpen o.timestamp env.currentSchemaVersion)] := by
  have hnone : lock.filter Effect.concernsCore = [] := List.filter_eq_nil_iff.2 fun e he => by simp [hlock e he]
  have hall : ∀ ms : List Migration, (ms.map Effect.migrate).filter Effect.concernsCore = ms.map .migrate := by
    intro ms
    exact List.filter_eq_self.2 fun e he => by
      obtain ⟨m, -, rfl⟩ := List.mem_map.1 he
      rfl
  rw [List.filter_append, hnone, List.nil_append, openEffects, List.filter_append]
  congr 1
  unfold migrationEffects
  split
  next h => rw [h]; rfl
  next => rw [List.filter_append, hall]; rfl

theorem acquire_effects {l : LockFile} {lock : List Effect} (h : acquireProjectLock o l = .ok lock) :
    lock = createLock o ∨ lock = .unlinkLock :: createLock o := by
  unfold acquireProjectLock at h
  split at h
  · exact .inl (Except.ok.inj h).symm
  · cases h
  · split at h
    · exact .inr (Except.ok.inj h).symm
    · cases h

theorem acquire_aside {l : LockFile} {lock : List Effect} (h : acquireProjectLock o l = .ok lock) :
    ∀ e ∈ lock, e.concernsCore = false := by
  intro e he
  rcases acquire_effects h with rfl | rfl
  · simp only [createLock, List.mem_cons, List.not_mem_nil, or_false] at he
    rcases he with rfl | rfl <;> rfl
  · simp only [createLock, List.mem_cons, List.not_mem_nil, or_false] at he
    rcases he with rfl | rfl | rfl <;> rfl

/-! ### The migrations -/

/-- The database after these migrations. -/
def Database.migrated (db : Database τ) (ms : List Migration) (rest : τ) : Database τ :=
  { db with
    applied := db.applied ++ ms
    userVersion := ms.getLast?.elim db.userVersion Migration.sequence
    rest }

/-- The migrations take place one by one. -/
theorem runAll_migrate (ms : List Migration) {db : Database τ} (hdb : d.database = some db) :
    Effects.runAll (Effect.run env) (ms.map .migrate) d =
      (Effects.runAll env.exec ms db.rest).map fun rest => { d with database := some (db.migrated ms rest) } := by
  induction ms generalizing d db with
  | nil =>
    rw [List.map_nil, Effects.runAll, Effects.runAll, Option.map_some]
    have : db.migrated [] db.rest = db := by simp [Database.migrated]
    rw [this, ← hdb]
  | cons m ms ih =>
    rw [List.map_cons, Effects.runAll, Effects.runAll, Effect.run, hdb]
    simp only [Database.migrate]
    cases hexec : env.exec m db.rest with
    | none => rfl
    | some rest =>
      simp only [Option.map_some, Option.bind_some]
      rw [ih rfl]
      congr 1
      funext rest'
      cases ms with
      | nil => simp [Database.migrated]
      | cons m' ms =>
        obtain ⟨last, hlast⟩ : ∃ last, (m' :: ms).getLast? = some last := ⟨_, List.getLast?_cons⟩
        simp [Database.migrated, List.getLast?_cons_cons, hlast]

/-- Rows that pass the inspection are the first definitions. -/
theorem inspectRows_take {rows definitions : List Migration} (h : inspectRows rows definitions = .ok ()) :
    rows = definitions.take rows.length := by
  induction rows generalizing definitions with
  | nil => rfl
  | cons row rows ih =>
    cases definitions with
    | nil => cases h
    | cons expected definitions =>
      rw [inspectRows] at h
      split_ifs at h with hid hsum
      rw [not_or, not_not, not_not] at hid
      rw [List.length_cons, List.take_succ_cons, ← ih h]
      obtain ⟨id, sequence, checksum⟩ := row
      obtain ⟨id', sequence', checksum'⟩ := expected
      simp only [not_not] at hid hsum
      obtain ⟨rfl, rfl⟩ := hid
      rw [hsum]

theorem inspectRows_of_take (definitions : List Migration) (n : ℕ) :
    inspectRows (definitions.take n) definitions = .ok () := by
  induction definitions generalizing n with
  | nil => rw [List.take_nil, inspectRows]
  | cons m ms ih =>
    cases n with
    | zero => rw [List.take_zero, inspectRows]
    | succ n => rw [List.take_succ_cons, inspectRows, if_neg (by simp), if_neg (by simp), ih n]

/-- After some of the pending migrations the user version is their number again. -/
theorem migrated_userVersion {db : Database τ} (h : inspectRows db.applied env.migrations = .ok ())
    (huser : db.userVersion = db.applied.length) (n : ℕ) (rest : τ) :
    (db.migrated ((env.migrations.drop db.applied.length).take n) rest).userVersion =
      (db.migrated ((env.migrations.drop db.applied.length).take n) rest).applied.length := by
  have hle := inspectRows_length h
  set ms := (env.migrations.drop db.applied.length).take n with hms
  unfold Database.migrated
  simp only [List.length_append]
  cases hlast : ms.getLast? with
  | none =>
    rw [List.getLast?_eq_none_iff] at hlast
    rw [hlast, huser]
    rfl
  | some m =>
    have hne : ms ≠ [] := by intro hnil; rw [hnil] at hlast; cases hlast
    have hpos : 0 < ms.length := List.length_pos_of_ne_nil hne
    have hlen : ms.length = min n (env.migrations.length - db.applied.length) := by
      rw [hms, List.length_take, List.length_drop]
    rw [List.getLast?_eq_getElem?] at hlast
    nth_rewrite 1 [hms] at hlast
    rw [List.getElem?_take_of_lt (by omega), List.getElem?_drop, List.getElem?_eq_some_iff] at hlast
    obtain ⟨hlt, rfl⟩ := hlast
    have := env.numbered _ hlt
    simp only [Option.elim_some]
    omega

/-! ### The outcome -/

/-- The project that opening leaves. -/
def openedCore (env : Env τ) (o : Opener) (d : Disk τ) (manifest : Manifest) (db : Database τ) (rest : τ) :
    Disk τ :=
  { d with
    manifest := .valid (manifest.forOpen o.timestamp env.currentSchemaVersion)
    database := some
      { applied := env.migrations
        userVersion := env.currentSchemaVersion
        ledger := db.ledger.opened env o.timestamp
        events := []
        sessions := 0
        rest }
    backups := []
    lock := .missing }

variable {manifest : Manifest} {db : Database τ} {metadata : Metadata}

/-- All the migrations of a valid project. -/
theorem Valid.runAll_core (hv : Valid env d manifest db metadata) :
    Effects.runAll (Effect.run env) ((env.migrations.drop db.applied.length).map .migrate ++
        [.updateMetadata o.timestamp,
          .replaceManifest (manifest.forOpen o.timestamp env.currentSchemaVersion)]) d.core =
      (Effects.runAll env.exec (env.migrations.drop db.applied.length) db.rest).map
        (openedCore env o d manifest db) := by
  have hdb : d.core.database = some { db with events := [], sessions := 0 } := by
    simp [Disk.core, hv.databaseFile]
  have htake := inspectRows_take hv.schema.rows
  have hall : db.applied ++ env.migrations.drop db.applied.length = env.migrations := by
    conv_lhs => rw [htake]
    rw [List.length_take, Nat.min_eq_left (inspectRows_length hv.schema.rows)]
    exact List.take_append_drop _ _
  have huser := migrated_userVersion hv.schema.rows hv.schema.userVersion env.migrations.length
  rw [List.take_of_length_le (by rw [List.length_drop]; omega)] at huser
  rw [Effects.runAll_append, runAll_migrate _ hdb]
  cases Effects.runAll env.exec (env.migrations.drop db.applied.length) db.rest with
  | none => rfl
  | some rest =>
    have hversion := huser rest
    simp only [Database.migrated, hall] at hversion
    simp only [Option.map_some, Option.bind_some, Effects.runAll, Effect.run, Disk.onDatabase,
      Database.migrated, openedCore, hall, hversion, Env.currentSchemaVersion]
    rfl

theorem runAll_lock {es : List Effect} (h : Effects.runAll (Effect.run env) es d = some d') :
    d'.lock = es.foldl (fun l e => e.onLock l) d.lock := by
  induction es generalizing d with
  | nil => cases h; rfl
  | cons e es ih =>
    rw [Effects.runAll, Option.bind_eq_some_iff] at h
    obtain ⟨t, ht, h⟩ := h
    rw [ih h, run_lock e d t ht, List.foldl_cons]

/-- Only taking the lock concerns the lock. -/
theorem openEffects_lock (o : Opener) (manifest : Manifest) (db : Database τ) :
    ∀ e ∈ openEffects env o manifest db, ∀ l, e.onLock l = l := by
  intro e he l
  rcases List.mem_append.1 he with he | he
  · unfold migrationEffects at he
    split at he
    · cases he
    rcases List.mem_append.1 he with he | he
    · simp only [createMigrationBackup, List.mem_cons, List.not_mem_nil, or_false] at he
      rcases he with rfl | rfl | rfl | rfl <;> rfl
    · obtain ⟨m, -, rfl⟩ := List.mem_map.1 he
      rfl
  · simp only [settleEffects, List.mem_cons, List.not_mem_nil, or_false] at he
    rcases he with rfl | rfl | rfl | rfl <;> rfl

theorem foldl_onLock {es : List Effect} (h : ∀ e ∈ es, ∀ l, e.onLock l = l) (l : LockFile) :
    es.foldl (fun l e => e.onLock l) l = l := by
  induction es generalizing l with
  | nil => rfl
  | cons e es ih =>
    rw [List.foldl_cons, h e List.mem_cons_self l]
    exact ih (fun e' he' => h e' (List.mem_cons_of_mem _ he')) l

theorem Valid.plan (hv : Valid env d manifest db metadata) {effects : List Effect} :
    openPlan env o d = .ok effects ↔ ∃ lock, acquireProjectLock o d.lock = .ok lock ∧
      effects = lock ++ openEffects env o manifest db := by
  have hvalid : (validateProjectAt env d).valid = true := validate_iff.2 ⟨_, _, _, hv⟩
  unfold openPlan
  simp only [hvalid, hv.manifestFile, hv.databaseFile]
  rw [Checks.bind_ok]
  simp only [Checks.pure_ok, @eq_comm _ effects]

/-- Only a valid project is opened. -/
theorem valid_of_plan {effects : List Effect} (h : openPlan env o d = .ok effects) :
    ∃ manifest db metadata, Valid env d manifest db metadata := by
  rw [← validate_iff]
  by_contra hinvalid
  rw [Bool.not_eq_true] at hinvalid
  unfold openPlan at h
  simp only [hinvalid] at h
  cases h

theorem openProject_ok :
    openProject env o d = (d', .ok ()) ↔ ∃ effects, openPlan env o d = .ok effects ∧
      Effects.runAll (Effect.run env) effects d = some d' := by
  unfold openProject
  cases openPlan env o d with
  | error e => simp
  | ok effects =>
    simp only [Except.ok.injEq, exists_eq_left', ← Effects.perform_eq_true]
    cases Effects.perform (Effect.run env) effects d with
    | mk t done => cases done <;> simp

/-- The lock of the opening process and the project that it leaves. -/
theorem Valid.opened (hv : Valid env d manifest db metadata) (h : openProject env o d = (d', .ok ())) :
    (∃ lock, acquireProjectLock o d.lock = .ok lock) ∧ d'.lock = .held o.lockRecord ∧
      ∃ rest, Effects.runAll env.exec (env.migrations.drop db.applied.length) db.rest = some rest ∧
        d'.core = openedCore env o d manifest db rest := by
  obtain ⟨effects, hplan, hrun⟩ := openProject_ok.1 h
  obtain ⟨lock, hacq, rfl⟩ := hv.plan.1 hplan
  refine ⟨⟨lock, hacq⟩, ?_, ?_⟩
  · rw [runAll_lock hrun, List.foldl_append, foldl_onLock (openEffects_lock o manifest db)]
    rcases acquire_effects hacq with rfl | rfl <;> rfl
  · have hview := Effects.runAll_view (@run_core _ env) run_aside (lock ++ openEffects env o manifest db) d
    rw [hrun, filter_openEffects _ _ _ _ (acquire_aside hacq), hv.runAll_core, Option.map_some] at hview
    obtain ⟨rest, hrest, hcore⟩ := Option.map_eq_some_iff.1 hview.symm
    exact ⟨rest, hrest, hcore.symm⟩

/-- **A valid project whose lock is free and whose migrations run is opened.** -/
theorem Valid.opens (hv : Valid env d manifest db metadata) {lock : List Effect}
    (hacq : acquireProjectLock o d.lock = .ok lock) {rest : τ}
    (hrest : Effects.runAll env.exec (env.migrations.drop db.applied.length) db.rest = some rest) :
    ∃ d', openProject env o d = (d', .ok ()) ∧ d'.core = openedCore env o d manifest db rest ∧
      d'.lock = .held o.lockRecord := by
  have hview := Effects.runAll_view (@run_core _ env) run_aside (lock ++ openEffects env o manifest db) d
  rw [filter_openEffects _ _ _ _ (acquire_aside hacq), hv.runAll_core, hrest, Option.map_some] at hview
  obtain ⟨d', hrun, hcore⟩ := Option.map_eq_some_iff.1 hview
  have hopen : openProject env o d = (d', .ok ()) := openProject_ok.2 ⟨_, hv.plan.2 ⟨lock, hacq, rfl⟩, hrun⟩
  exact ⟨d', hopen, hcore, (hv.opened hopen).2.1⟩

end OfflineWebArchiver.Project
