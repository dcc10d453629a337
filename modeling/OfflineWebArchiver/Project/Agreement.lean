import OfflineWebArchiver.Project.Open
import OfflineWebArchiver.Project.Profile

/-!
# One revision in three places

The database, the manifest and the profile file each say which profile revision is the
current one.

* `Describes`, `Settled`: all three describe the same revision.
* `Settled.opens`: such a directory can be opened, and still describes it then.
* `Describes.persist`: **a profile commit makes all three describe the new revision.**
* `Describes.manifest_refused`, `Describes.profile_refused`: with some of the three only, the
  directory is refused.
-/

namespace OfflineWebArchiver.Project

variable {τ : Type} {env : Env τ} {manifest : Manifest} {db db' : Database τ} {profile : Option SiteProfile}
variable {p q : SiteProfile} {call : Call}

/-- The unique keys of `site_profiles`. -/
def Keyed (rows : List ProfileRow) : Prop :=
  rows.Pairwise fun a b => a.profileId ≠ b.profileId ∧ a.projectId ≠ b.projectId

/-- The row is about this profile of the project. -/
structure RowOf (env : Env τ) (manifest : Manifest) (p : SiteProfile) (row : ProfileRow) : Prop where
  projectId : row.projectId = manifest.projectId
  profileId : row.profileId = p.profileId
  revisionId : row.currentProfileRevisionId = p.revisionId
  hash : row.profileHash = env.profileHash p

/-- The manifest and the database describe one revision, with this profile. -/
structure Describes (env : Env τ) (manifest : Manifest) (db : Database τ) (profile : Option SiteProfile) :
    Prop where
  metadata : ∃ metadata, db.ledger.metadata = some metadata ∧ Identified metadata manifest ∧
    SchemaAgrees env db manifest metadata
  current : db.applied.length = env.currentSchemaVersion
  keyed : Keyed db.ledger.profiles
  known : ∃ row ∈ db.ledger.revisions, row.revisionId = manifest.revisionId
  scopePolicy : manifest.scopePolicy = profile.isSome
  noRow : profile = none → ∀ row ∈ db.ledger.profiles, row.projectId ≠ manifest.projectId
  row : ∀ p, profile = some p → ∃ row ∈ db.ledger.profiles, RowOf env manifest p row
  profile : ∀ p, profile = some p → p.projectId = manifest.projectId ∧ manifest.baseUrl = some p.baseUrl ∧
    manifest.revisionId = p.revisionId

def fileOf : Option SiteProfile → ProfileFile
  | none => .missing
  | some p => .valid p

/-- The three places describe one revision, in a directory without other defects. -/
structure Settled (env : Env τ) (d : Disk τ) (profile : Option SiteProfile) : Prop where
  isDirectory : d.isDirectory = true
  directories : d.missingDirectories = []
  integrity : d.integrity = true
  describes : ∃ manifest db, d.manifest = .valid manifest ∧ d.database = some db ∧
    Describes env manifest db profile
  file : d.profile = fileOf profile

/-! ### Rows -/

/-- A key finds its row. -/
theorem Keyed.find_profileId {rows : List ProfileRow} (h : Keyed rows) {row : ProfileRow} (hr : row ∈ rows) :
    (rows.find? fun r => r.profileId = row.profileId) = some row := by
  induction rows with
  | nil => cases hr
  | cons a rows ih =>
    obtain ⟨ha, hrows⟩ := List.pairwise_cons.1 h
    rcases List.mem_cons.1 hr with rfl | hr
    · rw [List.find?_cons_of_pos (by simp)]
    · rw [List.find?_cons_of_neg (by simpa using (ha row hr).1)]
      exact ih hrows hr

theorem Keyed.find_projectId {rows : List ProfileRow} (h : Keyed rows) {row : ProfileRow} (hr : row ∈ rows) :
    (rows.find? fun r => r.projectId = row.projectId) = some row := by
  induction rows with
  | nil => cases hr
  | cons a rows ih =>
    obtain ⟨ha, hrows⟩ := List.pairwise_cons.1 h
    rcases List.mem_cons.1 hr with rfl | hr
    · rw [List.find?_cons_of_pos (by simp)]
    · rw [List.find?_cons_of_neg (by simpa using (ha row hr).2)]
      exact ih hrows hr

@[simp] theorem updated_profileId (p : SiteProfile) (row : ProfileRow) :
    (row.updated env p).profileId = row.profileId := by
  unfold ProfileRow.updated
  split <;> rfl

@[simp] theorem updated_projectId (p : SiteProfile) (row : ProfileRow) :
    (row.updated env p).projectId = row.projectId := by
  unfold ProfileRow.updated
  split <;> rfl

theorem Keyed.updated {rows : List ProfileRow} (h : Keyed rows) (p : SiteProfile) :
    Keyed (rows.map (ProfileRow.updated env p)) := by
  unfold Keyed at *
  rw [List.pairwise_map]
  simpa using h

/-! ### The statements -/

/-- What the first statement of a commit adds, when the revision is new. -/
theorem insertRevision_ok {ledger ledger' : Ledger} (h : insertRevision p ledger = .ok ledger') :
    (∀ row ∈ ledger.revisions, row.revisionId ≠ p.revisionId) ∧
      (∃ row ∈ ledger'.revisions, row.revisionId = p.revisionId) ∧
      (∀ row ∈ ledger.revisions, row ∈ ledger'.revisions) ∧
      ledger'.metadata = ledger.metadata ∧ ledger'.profiles = ledger.profiles ∧
      ledger'.profileRevisions = ledger.profileRevisions := by
  obtain ⟨hnew, h⟩ := Checks.failIf_bind_ok.1 h
  cases h
  refine ⟨fun row hrow heq => hnew ⟨row, hrow, heq⟩, ⟨_, List.mem_append_right _ (List.mem_singleton.2 rfl), rfl⟩,
    fun row hrow => List.mem_append_left _ hrow, rfl, rfl, rfl⟩

/-- The row of the profile after its insertion. -/
theorem insertProfile_ok {ledger ledger' : Ledger} (h : insertProfile env p ledger = .ok ledger')
    (hkeyed : Keyed ledger.profiles) (hp : p.projectId = manifest.projectId) :
    (∀ row ∈ ledger.profiles, row.profileId ≠ p.profileId) ∧
      (∀ row ∈ ledger.profiles, row.projectId ≠ p.projectId) ∧
      (∀ row ∈ ledger.profiles, ∃ row' ∈ ledger'.profiles, row'.profileId = row.profileId) ∧
      Keyed ledger'.profiles ∧ (∃ row ∈ ledger'.profiles, RowOf env manifest p row) ∧
      ledger'.metadata = ledger.metadata ∧ ledger'.revisions = ledger.revisions ∧
      ledger'.profileRevisions = ledger.profileRevisions := by
  obtain ⟨hnew, h⟩ := Checks.failIf_bind_ok.1 h
  cases h
  refine ⟨fun a ha heq => hnew ⟨a, ha, .inl heq⟩, fun a ha heq => hnew ⟨a, ha, .inr (.inl heq)⟩,
    fun a ha => ⟨a, List.mem_append_left _ ha, rfl⟩, ?_,
    ⟨_, List.mem_append_right _ (List.mem_singleton.2 rfl), hp, rfl, rfl, rfl⟩, rfl, rfl, rfl⟩
  refine List.pairwise_append.2 ⟨hkeyed, List.pairwise_singleton _ _, fun a ha b hb => ?_⟩
  obtain rfl := List.mem_singleton.1 hb
  exact ⟨fun heq => hnew ⟨a, ha, .inl heq⟩, fun heq => hnew ⟨a, ha, .inr (.inl heq)⟩⟩

/-- The row of the profile after its update. -/
theorem updateProfileRow_ok {ledger ledger' : Ledger} (h : updateProfileRow env p ledger = .ok ledger')
    (hkeyed : Keyed ledger.profiles) {row : ProfileRow} (hrow : row ∈ ledger.profiles)
    (hproject : row.projectId = manifest.projectId) (hprofile : row.profileId = p.profileId)
    (hp : p.projectId = manifest.projectId) :
    (∀ row ∈ ledger.profiles, ∃ row' ∈ ledger'.profiles, row'.profileId = row.profileId) ∧
      Keyed ledger'.profiles ∧ (∃ row ∈ ledger'.profiles, RowOf env manifest p row) ∧
      ledger'.metadata = ledger.metadata ∧ ledger'.revisions = ledger.revisions ∧
      ledger'.profileRevisions = ledger.profileRevisions := by
  obtain ⟨-, h⟩ := Checks.failIf_bind_ok.1 h
  cases h
  have hmatch : row.profileId = p.profileId ∧ row.projectId = p.projectId := ⟨hprofile, hproject.trans hp.symm⟩
  refine ⟨fun a ha => ⟨_, List.mem_map_of_mem ha, updated_profileId p a⟩, hkeyed.updated p,
    ⟨_, List.mem_map_of_mem hrow, ?_⟩, rfl, rfl, rfl⟩
  unfold ProfileRow.updated
  rw [if_pos hmatch]
  exact ⟨hproject, hprofile, rfl, rfl⟩

/-- Every sequence of this profile is new. -/
theorem insertProfileRevision_ok {ledger ledger' : Ledger} (h : insertProfileRevision env p ledger = .ok ledger') :
    (∀ row ∈ ledger.profileRevisions, row.profileId = p.profileId → row.sequence ≠ p.sequence) ∧
      (∃ row ∈ ledger'.profileRevisions, row.profileId = p.profileId ∧ row.sequence = p.sequence) ∧
      (∀ row ∈ ledger.profileRevisions, row ∈ ledger'.profileRevisions) ∧
      (∀ row ∈ ledger'.profileRevisions, row ∈ ledger.profileRevisions ∨
        row.profileId = p.profileId ∧ row.sequence = p.sequence) ∧
      ledger'.metadata = ledger.metadata ∧ ledger'.revisions = ledger.revisions ∧
      ledger'.profiles = ledger.profiles := by
  obtain ⟨hnew, h⟩ := Checks.failIf_bind_ok.1 h
  obtain ⟨-, h⟩ := Checks.failIf_bind_ok.1 h
  cases h
  refine ⟨fun row hrow hid hseq => hnew ⟨row, hrow, .inr ⟨hid, hseq⟩⟩,
    ⟨_, List.mem_append_right _ (List.mem_singleton.2 rfl), rfl, rfl⟩,
    fun row hrow => List.mem_append_left _ hrow, fun row hrow => ?_, rfl, rfl, rfl⟩
  rcases List.mem_append.1 hrow with hrow | hrow
  · exact .inl hrow
  · obtain rfl := List.mem_singleton.1 hrow
    exact .inr ⟨rfl, rfl⟩

/-! ### Commits -/

/-- The profile that a call writes, and the one that it has read. -/
structure Derived (projectId : String) (previous : Option SiteProfile) (call : Call) (p : SiteProfile) : Prop where
  creates : call.request.creates = previous.isNone
  projectId : p.projectId = projectId
  profileId : ∀ q, previous = some q → p.profileId = q.profileId
  sequence : p.sequence = previous.elim 1 fun q => q.sequence + 1
  expected : ∀ q, previous = some q → ∃ input, call.request = .updateProfile q.revisionId input
  revisionId : p.revisionId = call.revisionId
  newProfileId : previous = none → p.profileId = call.profileId

theorem newProfile_derived {input : ProfileDraft} (h : call.request = .createProfile input) :
    Derived manifest.projectId none call (newProfile manifest call input) where
  creates := by rw [h]; rfl
  projectId := rfl
  profileId := fun q hq => (by cases hq)
  sequence := rfl
  expected := fun q hq => (by cases hq)
  revisionId := rfl
  newProfileId := fun _ => rfl

theorem nextProfile_derived {expectedRevisionId : String} {input : ProfileDraft}
    (hrequest : call.request = .updateProfile expectedRevisionId input)
    (h : nextProfile q call expectedRevisionId input = .ok p) (hq : q.projectId = manifest.projectId) :
    Derived manifest.projectId (some q) call p := by
  obtain ⟨hexpected, h⟩ := Checks.failIf_bind_ok.1 h
  obtain ⟨-, h⟩ := Checks.failIf_bind_ok.1 h
  rw [not_not] at hexpected
  cases h
  refine ⟨by rw [hrequest]; rfl, hq, ?_, rfl, ?_, rfl, fun hnone => (by cases hnone)⟩
  · rintro q' ⟨⟩
    rfl
  · rintro q' ⟨⟩
    exact ⟨input, by rw [hrequest, hexpected]⟩

/-- What is new after a profile commit. -/
structure Persisted (profile : Option SiteProfile) (p : SiteProfile) (db db' : Database τ) : Prop where
  newRevision : ∀ row ∈ db.ledger.revisions, row.revisionId ≠ p.revisionId
  revisions : ∀ row ∈ db.ledger.revisions, row ∈ db'.ledger.revisions
  newSequence : ∀ row ∈ db.ledger.profileRevisions, row.profileId = p.profileId → row.sequence ≠ p.sequence
  profileRevisions : ∀ row ∈ db.ledger.profileRevisions, row ∈ db'.ledger.profileRevisions
  profileRevision : ∃ row ∈ db'.ledger.profileRevisions, row.profileId = p.profileId ∧ row.sequence = p.sequence
  onlyRevisions : ∀ row ∈ db'.ledger.profileRevisions, row ∈ db.ledger.profileRevisions ∨
    row.profileId = p.profileId ∧ row.sequence = p.sequence
  profiles : ∀ row ∈ db.ledger.profiles, ∃ row' ∈ db'.ledger.profiles, row'.profileId = row.profileId
  newProfile : profile = none → ∀ row ∈ db.ledger.profiles, row.profileId ≠ p.profileId
  applied : db'.applied = db.applied
  userVersion : db'.userVersion = db.userVersion
  rest : db'.rest = db.rest

/-- **A profile commit makes manifest and database describe the new revision.** -/
theorem Describes.persist (h : Describes env manifest db profile)
    (hp : Derived manifest.projectId profile call p)
    (hpersist : db.persist env p call.request.creates (manifest.withProfile env p) = .ok db') :
    Describes env (manifest.withProfile env p) db' (some p) ∧ Persisted profile p db db' := by
  obtain ⟨ledger', hledger, hdb⟩ := Checks.bind_ok.1 hpersist
  cases hdb
  obtain ⟨l₁, h₁, hledger⟩ := Checks.bind_ok.1 hledger
  obtain ⟨l₂, h₂, hledger⟩ := Checks.bind_ok.1 hledger
  obtain ⟨l₃, h₃, hledger⟩ := Checks.bind_ok.1 hledger
  cases hledger
  obtain ⟨hnew, hrevision, hrevisions, hmeta₁, hprofiles₁, hpr₁⟩ := insertRevision_ok h₁
  have hkeyed₁ : Keyed l₁.profiles := by rw [hprofiles₁]; exact h.keyed
  have hrows : (profile = none → ∀ row ∈ l₁.profiles, row.profileId ≠ p.profileId) ∧
      (∀ row ∈ l₁.profiles, ∃ row' ∈ l₂.profiles, row'.profileId = row.profileId) ∧
      Keyed l₂.profiles ∧ (∃ row ∈ l₂.profiles, RowOf env manifest p row) ∧
      l₂.metadata = l₁.metadata ∧ l₂.revisions = l₁.revisions ∧ l₂.profileRevisions = l₁.profileRevisions := by
    cases hprofile : profile with
    | none =>
      rw [hp.creates, hprofile] at h₂
      obtain ⟨hid, -, h⟩ := insertProfile_ok h₂ hkeyed₁ hp.projectId
      exact ⟨fun _ => hid, h⟩
    | some q =>
      rw [hp.creates, hprofile] at h₂
      obtain ⟨row, hrow, hrowOf⟩ := h.row q hprofile
      rw [← hprofiles₁] at hrow
      refine ⟨fun hnone => (by cases hnone), updateProfileRow_ok h₂ hkeyed₁ hrow hrowOf.projectId
        (hrowOf.profileId.trans (hp.profileId q hprofile).symm) hp.projectId⟩
  obtain ⟨hnewId, hids, hkeyed₂, ⟨row, hrow, hrowOf⟩, hmeta₂, hrev₂, hpr₂⟩ := hrows
  obtain ⟨hseq, hsequence, hprs, honly, hmeta₃, hrev₃, hprofiles₃⟩ := insertProfileRevision_ok h₃
  obtain ⟨metadata, hmetadata, hid, hschema⟩ := h.metadata
  have hmetadata' : l₃.metadata = some metadata := by rw [hmeta₃, hmeta₂, hmeta₁, hmetadata]
  refine ⟨⟨⟨{ metadata with
      formatVersion := env.formatVersion
      schemaVersion := env.currentSchemaVersion
      currentRevisionId := p.revisionId }, ?_, ⟨hid.projectId, hid.name, hid.slug, rfl, rfl, hid.runId⟩,
    ⟨hschema.rows, hschema.userVersion, h.current.symm, h.current.symm, hschema.pos⟩⟩, h.current, ?_, ?_, rfl,
    fun hnone => (by cases hnone), ?_, ?_⟩, ?_⟩
  · simp [updateCurrentRevision, hmetadata', Manifest.withProfile]
  · show Keyed l₃.profiles
    rw [hprofiles₃]
    exact hkeyed₂
  · obtain ⟨r, hr, hrid⟩ := hrevision
    refine ⟨r, ?_, hrid⟩
    show r ∈ l₃.revisions
    rw [hrev₃, hrev₂]
    exact hr
  · rintro p' ⟨⟩
    refine ⟨row, ?_, hrowOf.projectId, hrowOf.profileId, hrowOf.revisionId, hrowOf.hash⟩
    show row ∈ l₃.profiles
    rw [hprofiles₃]
    exact hrow
  · rintro p' ⟨⟩
    exact ⟨hp.projectId, rfl, rfl⟩
  · refine ⟨hnew, fun r hr => ?_, fun r hr => ?_, fun r hr => ?_, hsequence, fun r hr => ?_, fun r hr => ?_,
      fun hnone r hr => ?_, rfl, rfl, rfl⟩
    · show r ∈ l₃.revisions
      rw [hrev₃, hrev₂]
      exact hrevisions r hr
    · exact hseq r (by rw [hpr₂, hpr₁]; exact hr)
    · exact hprs r (by rw [hpr₂, hpr₁]; exact hr)
    · have := honly r hr
      rwa [hpr₂, hpr₁] at this
    · obtain ⟨r', hr', hid'⟩ := hids r (by rw [hprofiles₁]; exact hr)
      refine ⟨r', ?_, hid'⟩
      show r' ∈ l₃.profiles
      rw [hprofiles₃]
      exact hr'
    · exact hnewId hnone r (by rw [hprofiles₁]; exact hr)

/-! ### Opening -/

variable {d d' : Disk τ} {o : Opener}

/-- What is described is accepted. -/
theorem Describes.valid (h : Describes env manifest db profile) (hdir : d.isDirectory = true)
    (hmissing : d.missingDirectories = []) (hintegrity : d.integrity = true) (hman : d.manifest = .valid manifest)
    (hdb : d.database = some db) (hfile : d.profile = fileOf profile) :
    ∃ metadata, Valid env d manifest db metadata := by
  obtain ⟨metadata, hrow, hid, hschema⟩ := h.metadata
  refine ⟨metadata, hdir, hmissing, hman, hdb, hintegrity, hrow, hid, hschema, fun hscope => ?_⟩
  rw [h.scopePolicy, Option.isSome_iff_exists] at hscope
  obtain ⟨p, rfl⟩ := hscope
  obtain ⟨row, hmem, hrowOf⟩ := h.row p rfl
  have hfind := h.keyed.find_profileId hmem
  rw [hrowOf.profileId] at hfind
  refine ⟨p, hfile, ?_, (h.profile p rfl).2.1⟩
  unfold rowAgrees profileRow?
  rw [hfind]
  exact decide_eq_true ⟨hrowOf.projectId, hrowOf.revisionId, hrowOf.hash⟩

/-- The other tables do not matter. -/
theorem Describes.with_rest (h : Describes env manifest db profile) (rest : τ) :
    Describes env manifest { db with rest } profile := by
  obtain ⟨metadata, hrow, hid, hschema⟩ := h.metadata
  exact ⟨⟨metadata, hrow, hid, hschema.rows, hschema.userVersion, hschema.metadata, hschema.manifest, hschema.pos⟩,
    h.current, h.keyed, h.known, h.scopePolicy, h.noRow, h.row, h.profile⟩

/-- Nothing but what describes the project matters. -/
theorem Describes.of_opened (h : Describes env manifest db profile) {t : String}
    (happlied : db'.applied = env.migrations) (huser : db'.userVersion = env.currentSchemaVersion)
    (hledger : db'.ledger = db.ledger.opened env t) :
    Describes env (manifest.forOpen t env.currentSchemaVersion) db' profile := by
  obtain ⟨metadata, hrow, hid, hschema⟩ := h.metadata
  have hpos : 0 < env.migrations.length := by
    have := hschema.pos
    have := inspectRows_length hschema.rows
    omega
  refine ⟨⟨metadata.opened env t, ?_, ⟨hid.projectId, hid.name, hid.slug, hid.formatVersion, hid.revisionId,
    hid.runId⟩, ?_, ?_, ?_, ?_, ?_⟩, ?_, ?_, ?_, h.scopePolicy, ?_, ?_, h.profile⟩
  · rw [hledger]
    simp [Ledger.opened, hrow]
  · rw [happlied]
    have := inspectRows_of_take env.migrations env.migrations.length
    rwa [List.take_length] at this
  · rw [huser, happlied]
    rfl
  · rw [happlied]
    rfl
  · rw [happlied]
    rfl
  · rw [happlied]
    exact hpos
  · rw [happlied]
    rfl
  · rw [hledger]
    exact h.keyed
  · rw [hledger]
    exact h.known
  · rw [hledger]
    exact h.noRow
  · rw [hledger]
    intro p hp
    obtain ⟨row, hmem, hrowOf⟩ := h.row p hp
    exact ⟨row, hmem, hrowOf.projectId, hrowOf.profileId, hrowOf.revisionId, hrowOf.hash⟩

/-- A project whose manifest and database agree is opened, and they agree then. -/
theorem Describes.opens (h : Describes env manifest db profile) {metadata : Metadata}
    (hv : Valid env d manifest db metadata) {lock : List Effect} (hacq : acquireProjectLock o d.lock = .ok lock) :
    ∃ d' manifest' db', openProject env o d = (d', .ok ()) ∧ d'.isDirectory = d.isDirectory ∧
      d'.missingDirectories = d.missingDirectories ∧ d'.integrity = d.integrity ∧ d'.profile = d.profile ∧
      d'.manifest = .valid manifest' ∧ d'.database = some db' ∧ Describes env manifest' db' profile := by
  have hnone : env.migrations.drop db.applied.length = [] := by
    rw [h.current]
    exact List.drop_length
  have hran : Effects.runAll env.exec (env.migrations.drop db.applied.length) db.rest = some db.rest := by
    rw [hnone]
    rfl
  obtain ⟨d', hopen, hcore, -⟩ := hv.opens hacq hran
  have hd' : d'.core.database = (openedCore env o d manifest db db.rest).database := by rw [hcore]
  obtain ⟨db', hdb', hcoredb⟩ := Option.map_eq_some_iff.1 hd'
  rw [Database.mk.injEq] at hcoredb
  have hfields : d'.core.isDirectory = d.isDirectory ∧ d'.core.missingDirectories = d.missingDirectories ∧
      d'.core.integrity = d.integrity ∧ d'.core.profile = d.profile ∧
      d'.core.manifest = .valid (manifest.forOpen o.timestamp env.currentSchemaVersion) := by
    rw [hcore]
    exact ⟨rfl, rfl, rfl, rfl, rfl⟩
  obtain ⟨h₁, h₂, h₃, h₄, h₅⟩ := hfields
  exact ⟨d', _, db', hopen, h₁, h₂, h₃, h₄, h₅, hdb', h.of_opened hcoredb.1 hcoredb.2.1 hcoredb.2.2.1⟩

/-- Whoever gets the lock can open the directory, and it describes this profile then. -/
def Opens (env : Env τ) (d : Disk τ) (profile : Option SiteProfile) : Prop :=
  ∀ o lock, acquireProjectLock o d.lock = .ok lock →
    ∃ d', openProject env o d = (d', .ok ()) ∧ Settled env d' profile

/-- **A settled project can be opened, and is settled then.** -/
theorem Settled.opens (h : Settled env d profile) : Opens env d profile := by
  intro o lock hacq
  obtain ⟨manifest, db, hman, hdb, hdescribes⟩ := h.describes
  obtain ⟨metadata, hv⟩ := hdescribes.valid h.isDirectory h.directories h.integrity hman hdb h.file
  obtain ⟨d', manifest', db', hopen, h₁, h₂, h₃, h₄, h₅, h₆, h₇⟩ := hdescribes.opens hv hacq
  exact ⟨d', hopen, h₁.trans h.isDirectory, h₂.trans h.directories, h₃.trans h.integrity,
    ⟨manifest', db', h₅, h₆, h₇⟩, h₄.trans h.file⟩

/-- **A profile file that nothing refers to does not matter**: manifest and database agree that
there is no profile. -/
theorem Settled.opens_leftover (h : Settled env { d with profile := .missing } none) {lock : List Effect}
    (hacq : acquireProjectLock o d.lock = .ok lock) :
    ∃ d', openProject env o d = (d', .ok ()) ∧ Settled env { d' with profile := .missing } none := by
  obtain ⟨manifest, db, hman, hdb, hdescribes⟩ := h.describes
  obtain ⟨metadata, hrow, hid, hschema⟩ := hdescribes.metadata
  have hv : Valid env d manifest db metadata :=
    ⟨h.isDirectory, h.directories, hman, hdb, h.integrity, hrow, hid, hschema, fun hscope => by
      rw [hdescribes.scopePolicy] at hscope
      cases hscope⟩
  obtain ⟨d', manifest', db', hopen, h₁, h₂, h₃, -, h₅, h₆, h₇⟩ := hdescribes.opens hv hacq
  exact ⟨d', hopen, h₁.trans h.isDirectory, h₂.trans h.directories, h₃.trans h.integrity,
    ⟨manifest', db', h₅, h₆, h₇⟩, rfl⟩

/-- The directory is refused. -/
def Refused (env : Env τ) (d : Disk τ) : Prop := (validateProjectAt env d).valid = false

theorem Refused.not_opened (h : Refused env d) (o : Opener) : openProject env o d ≠ (d', .ok ()) := by
  intro hopen
  obtain ⟨effects, hplan, -⟩ := openProject_ok.1 hopen
  have hvalid := validate_iff.2 (valid_of_plan hplan)
  rw [h] at hvalid
  cases hvalid

theorem refused_iff : Refused env d ↔ ∀ manifest db metadata, ¬Valid env d manifest db metadata := by
  unfold Refused
  rw [← Bool.not_eq_true, validate_iff]
  simp

/-- **The manifest of a commit beside the old database is refused.** -/
theorem Describes.manifest_refused (h : Describes env manifest db profile)
    (hnew : ∀ row ∈ db.ledger.revisions, row.revisionId ≠ p.revisionId)
    (hman : d.manifest = .valid (manifest.withProfile env p)) (hdb : d.database = some db) : Refused env d := by
  rw [refused_iff]
  intro manifest' db' metadata' hv
  obtain rfl := ManifestFile.valid.inj (hman.symm.trans hv.manifestFile)
  obtain rfl := Option.some.inj (hdb.symm.trans hv.databaseFile)
  obtain ⟨metadata, hrow, hid, -⟩ := h.metadata
  obtain rfl := Option.some.inj (hrow.symm.trans hv.metadataRow)
  obtain ⟨r, hr, hrid⟩ := h.known
  exact hnew r hr (hrid.trans (hid.revisionId.symm.trans hv.identified.revisionId))

/-- **The profile file of an update beside the old database is refused.** -/
theorem Describes.profile_refused (h : Describes env manifest db (some q)) (hprofile : p.profileId = q.profileId)
    (hnew : ∀ row ∈ db.ledger.revisions, row.revisionId ≠ p.revisionId) (hman : d.manifest = .valid manifest)
    (hdb : d.database = some db) (hfile : d.profile = .valid p) : Refused env d := by
  rw [refused_iff]
  intro manifest' db' metadata' hv
  obtain rfl := ManifestFile.valid.inj (hman.symm.trans hv.manifestFile)
  obtain rfl := Option.some.inj (hdb.symm.trans hv.databaseFile)
  obtain ⟨p', hp'⟩ := hv.profile h.scopePolicy
  obtain rfl := ProfileFile.valid.inj (hfile.symm.trans hp'.file)
  obtain ⟨row, hmem, hrowOf⟩ := h.row q rfl
  have hfind := h.keyed.find_profileId hmem
  rw [hrowOf.profileId, ← hprofile] at hfind
  have hagrees := hp'.row
  unfold rowAgrees profileRow? at hagrees
  rw [hfind] at hagrees
  obtain ⟨-, hrev, -⟩ := of_decide_eq_true hagrees
  obtain ⟨r, hr, hrid⟩ := h.known
  refine hnew r hr (hrid.trans ?_)
  rw [(h.profile q rfl).2.2, ← hrowOf.revisionId, hrev]

end OfflineWebArchiver.Project
