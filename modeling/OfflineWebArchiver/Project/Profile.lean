import Mathlib.Logic.Function.Basic
import Mathlib.Tactic.Simps.Basic
import OfflineWebArchiver.Lib.Checks
import OfflineWebArchiver.Project.Types

/-!
# Profile calls on an open project

`createProfile`, `getProfile` and `updateProfile` on one open project, any number of them
and with any other storage operations in between. All use one connection to the database:
a `BEGIN` inside a transaction fails, and a `ROLLBACK` ends whatever transaction is open.

* `Ledger.persist`: the statements of `persistProfileRevision`.
* `step`: a call begins, a file operation of a call takes place or fails and the call runs
  to its next one, an operation of another repository runs.
-/

namespace OfflineWebArchiver.Project

/-! ### Calls -/

/-- The fields of a draft: the base URL and the rest. -/
structure ProfileDraft where
  baseUrl : String
  draft : String
deriving DecidableEq

inductive Request
  | createProfile (input : ProfileDraft)
  | getProfile
  | updateProfile (expectedRevisionId : String) (input : ProfileDraft)
deriving DecidableEq

/-- A call, with the ids and the time that are drawn for it. -/
structure Call where
  request : Request
  profileId : String
  revisionId : String
  timestamp : String
deriving DecidableEq

def Request.creates : Request → Bool
  | .createProfile _ => true
  | _ => false

inductive ProfileError
  | PROFILE_NOT_FOUND
  | PROFILE_INVALID
  | PROFILE_INTEGRITY_MISMATCH
  | PROFILE_REVISION_CONFLICT
  | PROFILE_NO_CHANGES
  | PROFILE_ALREADY_EXISTS
  /-- The destination of a file exists. -/
  | PROJECT_ALREADY_EXISTS
  /-- A statement breaks a constraint. -/
  | constraint
  /-- `BEGIN` inside a transaction. -/
  | nestedTransaction
  /-- `COMMIT` outside a transaction. -/
  | noTransaction
  /-- A file operation or the database fails. -/
  | fault
deriving DecidableEq

variable {τ : Type} (env : Env τ)

/-- The checks of `readCurrentProfile(active)` on what it has read. -/
def readCurrentProfile (ledger : Ledger) (active : Manifest) : ProfileFile → Except ProfileError SiteProfile
  | .missing => .error .PROFILE_NOT_FOUND
  | .invalid => .error .PROFILE_INVALID
  | .valid profile =>
    match ledger.profiles.find? fun row => row.projectId = active.projectId with
    | none => .error .PROFILE_NOT_FOUND
    | some row => do
      Checks.failIf .PROFILE_INTEGRITY_MISMATCH (row.profileId ≠ profile.profileId ∨
        row.currentProfileRevisionId ≠ profile.revisionId ∨ row.profileHash ≠ env.profileHash profile)
      Checks.failIf .PROFILE_INTEGRITY_MISMATCH (active.baseUrl ≠ some profile.baseUrl)
      return profile

/-- The profile of `createProfile`. -/
def newProfile (active : Manifest) (call : Call) (input : ProfileDraft) : SiteProfile :=
  { profileId := call.profileId
    projectId := active.projectId
    revisionId := call.revisionId
    sequence := 1
    createdAt := call.timestamp
    updatedAt := call.timestamp
    baseUrl := input.baseUrl
    draft := input.draft }

/-- The profile of `updateProfile`, after its checks. -/
def nextProfile (previous : SiteProfile) (call : Call) (expectedRevisionId : String) (input : ProfileDraft) :
    Except ProfileError SiteProfile := do
  Checks.failIf .PROFILE_REVISION_CONFLICT (previous.revisionId ≠ expectedRevisionId)
  Checks.failIf .PROFILE_NO_CHANGES (previous.baseUrl = input.baseUrl ∧ previous.draft = input.draft)
  return { previous with
    baseUrl := input.baseUrl
    draft := input.draft
    revisionId := call.revisionId
    sequence := previous.sequence + 1
    updatedAt := call.timestamp }

/-! ### The statements -/

/-- `COALESCE(MAX(sequence), 0) + 1` over the revisions of the project. -/
def nextSequence (revisions : List RevisionRow) (projectId : String) : ℕ :=
  ((revisions.filter fun row => row.projectId = projectId).map RevisionRow.sequence).foldr max 0 + 1

/-- `INSERT INTO project_revisions`. -/
def insertRevision (profile : SiteProfile) (ledger : Ledger) : Except ProfileError Ledger := do
  Checks.failIf .constraint (∃ row ∈ ledger.revisions, row.revisionId = profile.revisionId)
  return { ledger with
    revisions := ledger.revisions ++
      [{ revisionId := profile.revisionId
         projectId := profile.projectId
         sequence := nextSequence ledger.revisions profile.projectId
         createdAt := profile.updatedAt }] }

/-- `INSERT INTO site_profiles`. -/
def insertProfile (profile : SiteProfile) (ledger : Ledger) : Except ProfileError Ledger := do
  Checks.failIf .constraint (∃ row ∈ ledger.profiles, row.profileId = profile.profileId ∨
    row.projectId = profile.projectId ∨ row.currentProfileRevisionId = profile.revisionId)
  return { ledger with
    profiles := ledger.profiles ++
      [{ profileId := profile.profileId
         projectId := profile.projectId
         currentProfileRevisionId := profile.revisionId
         currentSequence := profile.sequence
         createdAt := profile.createdAt
         updatedAt := profile.updatedAt
         profileHash := env.profileHash profile }] }

/-- `UPDATE site_profiles` for one row. -/
def ProfileRow.updated (profile : SiteProfile) (row : ProfileRow) : ProfileRow :=
  if row.profileId = profile.profileId ∧ row.projectId = profile.projectId then
    { row with
      currentProfileRevisionId := profile.revisionId
      currentSequence := profile.sequence
      updatedAt := profile.updatedAt
      profileHash := env.profileHash profile }
  else row

/-- `UPDATE site_profiles ... WHERE profile_id = ? AND project_id = ?`. -/
def updateProfileRow (profile : SiteProfile) (ledger : Ledger) : Except ProfileError Ledger := do
  Checks.failIf .constraint (∃ row ∈ ledger.profiles,
    ¬(row.profileId = profile.profileId ∧ row.projectId = profile.projectId) ∧
      row.currentProfileRevisionId = profile.revisionId)
  return { ledger with profiles := ledger.profiles.map (ProfileRow.updated env profile) }

/-- The branch on `create`. -/
def writeProfileRow (profile : SiteProfile) (create : Bool) (ledger : Ledger) : Except ProfileError Ledger :=
  if create then insertProfile env profile ledger else updateProfileRow env profile ledger

/-- `INSERT INTO site_profile_revisions`. -/
def insertProfileRevision (profile : SiteProfile) (ledger : Ledger) : Except ProfileError Ledger := do
  Checks.failIf .constraint (∃ row ∈ ledger.profileRevisions, row.profileRevisionId = profile.revisionId ∨
    row.profileId = profile.profileId ∧ row.sequence = profile.sequence)
  Checks.failIf .constraint (¬∃ row ∈ ledger.profiles, row.profileId = profile.profileId)
  return { ledger with
    profileRevisions := ledger.profileRevisions ++
      [{ profileRevisionId := profile.revisionId
         profileId := profile.profileId
         sequence := profile.sequence
         createdAt := profile.updatedAt
         canonical := profile
         profileHash := env.profileHash profile }] }

/-- `UPDATE project_metadata SET format_version = ?, schema_version = ?, current_revision_id = ?`. -/
def updateCurrentRevision (next : Manifest) (profile : SiteProfile) (ledger : Ledger) : Ledger :=
  { ledger with
    metadata := ledger.metadata.map fun metadata =>
      { metadata with
        formatVersion := next.formatVersion
        schemaVersion := env.currentSchemaVersion
        currentRevisionId := profile.revisionId } }

/-- The statements of `persistProfileRevision` on these tables. -/
def Ledger.persist (profile : SiteProfile) (create : Bool) (next : Manifest) (ledger : Ledger) :
    Except ProfileError Ledger := do
  let ledger ← insertRevision profile ledger
  let ledger ← writeProfileRow env profile create ledger
  let ledger ← insertProfileRevision env profile ledger
  return updateCurrentRevision env next profile ledger

/-- The database inside the transaction of a profile commit. -/
def Database.persist (profile : SiteProfile) (create : Bool) (next : Manifest) (db : Database τ) :
    Except ProfileError (Database τ) := do
  let ledger ← db.ledger.persist env profile create next
  return { db with
    ledger
    events := db.events ++
      [{ eventType := if create then "profile.created" else "profile.updated"
         occurredAt := profile.updatedAt }] }

/-! ### The state of an open project -/

/-- What `persistProfileRevision` holds besides its arguments. A call that creates the profile
restores a profile file by removing it. -/
structure Commit where
  call : Call
  profile : SiteProfile
  oldManifest : ManifestFile
  oldProfile : ProfileFile
  next : Manifest
deriving DecidableEq

/-- Where a call stands. The file operation named is the next one. -/
inductive Pc
  | idle
  /-- `pathExists(profile/config.json)` of `createProfile`. -/
  | probe (call : Call) (input : ProfileDraft)
  /-- `readFile(profile/config.json)` of `readCurrentProfile`. -/
  | lookup (call : Call)
  /-- The row is looked up. -/
  | lookupRow (call : Call) (file : ProfileFile)
  /-- `readFile(project.json)`: `persistProfileRevision` begins. -/
  | readManifest (call : Call) (profile : SiteProfile)
  | readProfile (call : Call) (profile : SiteProfile) (oldManifest : ManifestFile)
  /-- `mkdir(profile)`, and then the transaction begins. -/
  | mkdir (k : Commit)
  /-- `pathExists(target)` of `atomicWriteFile`, when the profile is created. -/
  | checkTarget (k : Commit)
  | writeProfile (k : Commit)
  | writeManifest (k : Commit)
  | verifyProfile (k : Commit)
  | verifyManifest (k : Commit) (profile : ProfileFile)
  /-- `COMMIT`, after the comparison of what was read. -/
  | commit (k : Commit) (profile : ProfileFile) (manifest : ManifestFile)
  | restoreManifest (k : Commit) (error : ProfileError)
  | restoreProfile (k : Commit) (error : ProfileError)
  | settled (result : Except ProfileError SiteProfile)
deriving DecidableEq

/-- How an operation of another repository uses the connection. -/
inductive OperationKind
  /-- `BEGIN IMMEDIATE`, and on an error `if (database.isTransaction) ROLLBACK`. -/
  | transaction
  /-- `BEGIN IMMEDIATE`, and on an error `if (inTransaction) ROLLBACK`. -/
  | ownTransaction
  /-- A statement by itself. -/
  | statement
  /-- It writes nothing. -/
  | query
deriving DecidableEq

/-- An operation on the other tables; `none` when it throws by itself. -/
structure Operation (τ : Type) where
  kind : OperationKind
  run : Ledger → τ → Option τ

inductive Answer (τ : Type)
  | operation (o : Operation τ) (result : Except ProfileError Unit)
  | profile (call : Call) (result : Except ProfileError SiteProfile)

structure State (τ : Type) where
  /-- The directory, but for the manifest, the database and the profile. -/
  directory : Disk τ
  committed : Database τ
  /-- The database as the open transaction sees it. -/
  working : Option (Database τ)
  manifestFile : ManifestFile
  profileFile : ProfileFile
  /-- `current.manifest`. -/
  active : Manifest
  pc : ℕ → Pc
  /-- The answers so far. -/
  answers : List (Answer τ)

/-- How a file operation ends: it may fail and have taken place. -/
inductive Outcome
  | ok
  | fault
  | faultAfter
deriving DecidableEq

inductive Event (τ : Type)
  | begin (c : ℕ) (call : Call)
  | next (c : ℕ) (outcome : Outcome)
  | operation (o : Operation τ)

namespace State

variable {env}

/-- The database as a statement on the connection sees it. -/
def database (s : State τ) : Database τ := s.working.getD s.committed

/-- The directory that a process leaves that stops here. -/
def disk (s : State τ) : Disk τ :=
  { s.directory with manifest := s.manifestFile, database := some s.committed, profile := s.profileFile }

@[simps] def goto (s : State τ) (c : ℕ) (pc : Pc) : State τ := { s with pc := Function.update s.pc c pc }

@[simps] def settle (s : State τ) (c : ℕ) (call : Call) (result : Except ProfileError SiteProfile) : State τ :=
  { s.goto c (.settled result) with answers := s.answers ++ [.profile call result] }

/-- The `catch` of `persistProfileRevision`, up to its first file operation. -/
@[simps] def compensate (s : State τ) (c : ℕ) (k : Commit) (error : ProfileError) : State τ :=
  { s.goto c (.restoreManifest k error) with working := none }

@[simps] def answer (s : State τ) (o : Operation τ) (result : Except ProfileError Unit) : State τ :=
  { s with answers := s.answers ++ [.operation o result] }

end State

/-! ### Steps -/

/-- A file operation that takes place and is followed by `next`, or fails and is followed by `fail`. -/
def fileOperation (outcome : Outcome) (effect next fail : State τ → State τ) (s : State τ) : State τ :=
  match outcome with
  | .ok => next (effect s)
  | .fault => fail s
  | .faultAfter => fail (effect s)

/-- The row check of `readCurrentProfile`, and what the call does with the profile. -/
def lookedUp (s : State τ) (c : ℕ) (call : Call) (file : ProfileFile) : State τ :=
  match readCurrentProfile env s.database.ledger s.active file with
  | .error e => s.settle c call (.error e)
  | .ok previous =>
    match call.request with
    | .updateProfile expectedRevisionId input =>
      match nextProfile previous call expectedRevisionId input with
      | .error e => s.settle c call (.error e)
      | .ok profile => s.goto c (.readManifest call profile)
    | _ => s.settle c call (.ok previous)

/-- `BEGIN IMMEDIATE` and the statements. -/
def beginTransaction (s : State τ) (c : ℕ) (k : Commit) : State τ :=
  if s.working.isSome then s.compensate c k .nestedTransaction
  else
    match s.committed.persist env k.profile k.call.request.creates k.next with
    | .error e => s.compensate c k e
    | .ok db =>
      { s.goto c (if k.call.request.creates then .checkTarget k else .writeProfile k) with working := some db }

/-- The comparison before `COMMIT`. -/
def verified (ledger : Ledger) (k : Commit) : ProfileFile → ManifestFile → Bool
  | .valid profile, .valid manifest =>
    decide (profile.revisionId = k.profile.revisionId ∧ manifest.revisionId = k.profile.revisionId ∧
      manifest.baseUrl = some k.profile.baseUrl) &&
    match ledger.profiles.find? fun row => row.profileId = k.profile.profileId with
    | none => false
    | some row => decide (row.currentProfileRevisionId = k.profile.revisionId ∧
        row.profileHash = env.profileHash k.profile)
  | _, _ => false

/-- `COMMIT`, and `active.manifest = nextManifest`. -/
@[simps] def committedWith (s : State τ) (k : Commit) (db : Database τ) : State τ :=
  { s with committed := db, working := none, active := k.next }

/-- The comparison, `COMMIT` and the log. -/
def commitTransaction (s : State τ) (c : ℕ) (k : Commit) (profile : ProfileFile) (manifest : ManifestFile)
    (outcome : Outcome) : State τ :=
  if verified env s.database.ledger k profile manifest then
    match s.working, outcome with
    | none, _ => s.compensate c k .noTransaction
    | some db, .ok => (committedWith s k db).settle c k.call (.ok k.profile)
    | some _, .fault => s.compensate c k .fault
    | some db, .faultAfter => (committedWith s k db).compensate c k .fault
  else s.compensate c k .PROFILE_INTEGRITY_MISMATCH

/-- The next part of a call. -/
def advance (s : State τ) (c : ℕ) (outcome : Outcome) : State τ :=
  match s.pc c with
  | .idle | .settled _ => s
  | .probe call input =>
    fileOperation outcome id (fun s =>
      if s.profileFile = .missing then s.goto c (.readManifest call (newProfile s.active call input))
      else s.settle c call (.error .PROFILE_INTEGRITY_MISMATCH)) (·.settle c call (.error .fault)) s
  | .lookup call =>
    fileOperation outcome id (fun s => s.goto c (.lookupRow call s.profileFile)) (·.settle c call (.error .fault)) s
  | .lookupRow call file => lookedUp env s c call file
  | .readManifest call profile =>
    fileOperation outcome id (fun s =>
      if s.manifestFile = .missing then s.settle c call (.error .fault)
      else if call.request.creates then
        s.goto c (.mkdir ⟨call, profile, s.manifestFile, .missing, s.active.withProfile env profile⟩)
      else s.goto c (.readProfile call profile s.manifestFile)) (·.settle c call (.error .fault)) s
  | .readProfile call profile oldManifest =>
    fileOperation outcome id (fun s =>
      if s.profileFile = .missing then s.settle c call (.error .fault)
      else s.goto c (.mkdir ⟨call, profile, oldManifest, s.profileFile, s.active.withProfile env profile⟩))
      (·.settle c call (.error .fault)) s
  | .mkdir k => fileOperation outcome id (beginTransaction env · c k) (·.compensate c k .fault) s
  | .checkTarget k =>
    fileOperation outcome id (fun s =>
      if s.profileFile = .missing then s.goto c (.writeProfile k) else s.compensate c k .PROJECT_ALREADY_EXISTS)
      (·.compensate c k .fault) s
  | .writeProfile k =>
    fileOperation outcome (fun s => { s with profileFile := .valid k.profile }) (·.goto c (.writeManifest k))
      (·.compensate c k .fault) s
  | .writeManifest k =>
    fileOperation outcome (fun s => { s with manifestFile := .valid k.next }) (·.goto c (.verifyProfile k))
      (·.compensate c k .fault) s
  | .verifyProfile k =>
    fileOperation outcome id (fun s => s.goto c (.verifyManifest k s.profileFile)) (·.compensate c k .fault) s
  | .verifyManifest k profile =>
    fileOperation outcome id (fun s => s.goto c (.commit k profile s.manifestFile)) (·.compensate c k .fault) s
  | .commit k profile manifest => commitTransaction env s c k profile manifest outcome
  | .restoreManifest k error =>
    -- a failure is swallowed
    fileOperation outcome (fun s => { s with manifestFile := k.oldManifest }) (·.goto c (.restoreProfile k error))
      (·.goto c (.restoreProfile k error)) s
  | .restoreProfile k error =>
    fileOperation outcome (fun s => { s with profileFile := k.oldProfile }) (·.settle c k.call (.error error))
      (·.settle c k.call (.error error)) s

/-- The synchronous part at the start of a call. -/
def start (s : State τ) (c : ℕ) (call : Call) : State τ :=
  match s.pc c with
  | .idle =>
    match call.request with
    | .createProfile input =>
      if ∃ row ∈ s.database.ledger.profiles, row.projectId = s.active.projectId then
        s.settle c call (.error .PROFILE_ALREADY_EXISTS)
      else s.goto c (.probe call input)
    | _ => s.goto c (.lookup call)
  | _ => s

/-- An operation by itself, on the database outside a transaction. -/
def runCommitted (s : State τ) (o : Operation τ) : State τ :=
  match o.run s.committed.ledger s.committed.rest with
  | none => s.answer o (.error .fault)
  | some rest => { s with committed := { s.committed with rest } }.answer o (.ok ())

/-- An operation of another repository. -/
def operate (s : State τ) (o : Operation τ) : State τ :=
  match o.kind, s.working with
  | .query, _ =>
    match o.run s.database.ledger s.database.rest with
    | none => s.answer o (.error .fault)
    | some _ => s.answer o (.ok ())
  | _, none => runCommitted s o
  | .transaction, some _ => { s with working := none }.answer o (.error .nestedTransaction)
  | .ownTransaction, some _ => s.answer o (.error .nestedTransaction)
  | .statement, some db =>
    match o.run db.ledger db.rest with
    | none => s.answer o (.error .fault)
    | some rest => { s with working := some { db with rest } }.answer o (.ok ())

def step (s : State τ) : Event τ → State τ
  | .begin c call => start s c call
  | .next c outcome => advance env s c outcome
  | .operation o => operate s o

end OfflineWebArchiver.Project
