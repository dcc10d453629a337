import OfflineWebArchiver.Assets.Repository
import OfflineWebArchiver.Persistence.Step

/-!
# Runs of the store with its assets

Workers interleave calls on the asset repository with calls on the queue and its leases.
An asset call reads the jobs and leases as they are and writes only the asset tables; a
throw writes nothing.

* `assetExec`: what an asset call answers and the tables it leaves.
* `archiveAt`: the store and its assets after the first events of a run.
-/

namespace OfflineWebArchiver

open Relational Program

/-- The calls that write the asset tables. -/
inductive AssetOp
  | ensureAssetSource (input : Assets.AssetSourceInput)
  | beginAssetDownload (input : Assets.AssetLeaseInput)
  | saveAssetProgress (input : Assets.SaveProgressInput)
  | finalizeAssetDownload (input : Assets.FinalizeInput)
  | markAssetInterrupted (input : Assets.InterruptInput)

/-- What an asset call returns. -/
inductive AssetAnswer
  | source (source : AssetSource)
  | finalized (source : AssetSource) (content : AssetContent) (deduplicated : Bool)

/-- The source in an answer. -/
def AssetAnswer.assetSource : AssetAnswer → AssetSource
  | .source s => s
  | .finalized s _ _ => s

/-- The program of a call. -/
def AssetOp.run (env : AssetEnv) : AssetOp → AssetM AssetAnswer
  | .ensureAssetSource input => .source <$> Assets.ensureAssetSource env input
  | .beginAssetDownload input => .source <$> Assets.beginAssetDownload env input
  | .saveAssetProgress input => .source <$> Assets.saveAssetProgress env input
  | .finalizeAssetDownload input =>
    (fun r => .finalized r.1 r.2.1 r.2.2) <$> Assets.finalizeAssetDownload env input
  | .markAssetInterrupted input => .source <$> Assets.markAssetInterrupted env input

/-- A call, with what it reads from the clock and from the source of ids. -/
structure AssetEvent where
  op : AssetOp
  clock : ℕ → Timestamp
  ids : ℕ → String

/-- The store and its assets. -/
structure ArchiveStore where
  db : Db
  assets : AssetDb

/-- The call at its start. -/
def AssetEvent.start (e : AssetEvent) (s : ArchiveStore) : AssetCall where
  db := s.db
  assets := s.assets
  clock := e.clock
  ids := e.ids
  ticks := 0
  drawn := 0

/-- What the call answers and the asset tables it leaves, or what it throws. -/
def assetExec (env : AssetEnv) (s : ArchiveStore) (e : AssetEvent) : Except AssetThrown (AssetAnswer × AssetDb) :=
  match (e.op.run env).run (e.start s) with
  | .ok (answer, call) => .ok (answer, call.assets)
  | .error thrown => .error thrown

/-- An event of a run: a call on the store or on its assets. -/
inductive ArchiveEvent
  | store (e : Event)
  | asset (e : AssetEvent)

/-- The store and its assets after an event. -/
def archiveStep (env : AssetEnv) (s : ArchiveStore) : ArchiveEvent → ArchiveStore
  | .store e => { s with db := step env.toEnv s.db e }
  | .asset e =>
    match assetExec env s e with
    | .ok (_, assets) => { s with assets := assets }
    | .error _ => s

/-- A new project has no assets. -/
def ArchiveStore.create (project : Project) (createdAt : Timestamp) : ArchiveStore where
  db := .create project createdAt
  assets := .empty

/-- The store and its assets after the first `n` events of a run. -/
def archiveAt (env : AssetEnv) (project : Project) (createdAt : Timestamp) (es : List ArchiveEvent) (n : ℕ) :
    ArchiveStore := Run.stAt (archiveStep env) (.create project createdAt) es n

section Exec

variable {env : AssetEnv} {s : ArchiveStore} {e : AssetEvent} {a : AssetAnswer} {assets : AssetDb}
  {Q : AssetAnswer → AssetDb → Prop} {t : AssetThrown}

theorem assetExec_of_wp (h : safe (e.op.run env) (fun a t => Q a t.assets) (e.start s))
    (he : assetExec env s e = .ok (a, assets)) : Q a assets := by
  unfold assetExec at he
  cases hr : (e.op.run env).run (e.start s) with
  | error t => rw [hr] at he; cases he
  | ok p =>
    obtain ⟨a', t⟩ := p
    rw [hr] at he
    cases he
    have hq := wp_ok h hr
    exact hq

theorem archiveStep_ok (h : assetExec env s e = .ok (a, assets)) :
    archiveStep env s (.asset e) = { s with assets := assets } := by
  simp only [archiveStep, h]

/-- A call that throws writes nothing. -/
theorem archiveStep_error (h : assetExec env s e = .error t) : archiveStep env s (.asset e) = s := by
  simp only [archiveStep, h]

end Exec

end OfflineWebArchiver

/-!
## What the asset calls do

One specification for each call: who may make it and what it leaves of the tables.

* `Holds`: the call presents the current, unexpired lease of its job.
* `Claimed`: besides, the claim columns of the source name the caller.
* `beginAssetDownload_spec`, `finalizeAssetDownload_spec`: the two calls with more than one outcome.
-/

namespace OfflineWebArchiver

open Relational Program

namespace Assets

section Wp

variable {s : AssetCall} {R : AssetThrown → Prop}

@[simp] theorem wp_now {Q : Timestamp → AssetCall → Prop} :
    wp now Q R s ↔ Q (s.clock s.ticks) { s with ticks := s.ticks + 1 } := Iff.rfl

@[simp] theorem wp_freshId {Q : String → AssetCall → Prop} :
    wp freshId Q R s ↔ Q (s.ids s.drawn) { s with drawn := s.drawn + 1 } := Iff.rfl

@[simp] theorem wp_database {Q : Db → AssetCall → Prop} : wp database Q R s ↔ Q s.db s := Iff.rfl

@[simp] theorem wp_tables {Q : AssetDb → AssetCall → Prop} : wp tables Q R s ↔ Q s.assets s := Iff.rfl

@[simp] theorem wp_updateSources {Q : Unit → AssetCall → Prop} (p : AssetSourceRow → Bool)
    (f : AssetSourceRow → AssetSourceRow) : wp (updateSources p f) Q R s ↔
      (∀ t, s.assets.assetSources.update p f = some t →
        Q () { s with assets := { s.assets with assetSources := t } }) ∧
      (s.assets.assetSources.update p f = none → R (.error "constraint failed")) := by
  unfold wp updateSources statement StateT.run
  cases h : s.assets.assetSources.update p f with
  | none => simp [h]
  | some t => simp [h]

@[simp] theorem wp_insertRelation {Q : Unit → AssetCall → Prop} (row : PageAssetRelation) :
    wp (insertRelation row) Q R s ↔ Q () { s with assets := { s.assets with
      pageAssetRelations := (s.assets.pageAssetRelations.insert row).getD s.assets.pageAssetRelations } } :=
  Iff.rfl

@[simp] theorem wp_insertSource {Q : Bool → AssetCall → Prop} (row : AssetSourceRow) :
    wp (insertSource row) Q R s ↔
      (∀ t, s.assets.assetSources.insert row = some t →
        Q true { s with assets := { s.assets with assetSources := t } }) ∧
      (s.assets.assetSources.insert row = none → assetSourceCheck row = true → Q false s) ∧
      (s.assets.assetSources.insert row = none → assetSourceCheck row = false →
        R (.error "CHECK constraint failed")) := by
  unfold wp insertSource StateT.run
  cases h : s.assets.assetSources.insert row with
  | none => cases assetSourceCheck row <;> simp [h]
  | some t => simp [h]

@[simp] theorem wp_insertContent {Q : Bool → AssetCall → Prop} (row : AssetContent) :
    wp (insertContent row) Q R s ↔
      (∀ t, s.assets.assetContents.insert row = some t →
        Q true { s with assets := { s.assets with assetContents := t } }) ∧
      (s.assets.assetContents.insert row = none → assetContents.check row = true → Q false s) ∧
      (s.assets.assetContents.insert row = none → assetContents.check row = false →
        R (.error "CHECK constraint failed")) := by
  unfold wp insertContent StateT.run
  cases h : s.assets.assetContents.insert row with
  | none => cases assetContents.check row <;> simp [h]
  | some t => simp [h]

@[simp] theorem wp_transaction {α : Type} {Q : α → AssetCall → Prop} (m : AssetM α) :
    safe (transaction m) Q s ↔ safe m Q s := wp_mapError _ m

end Wp

variable {env : AssetEnv} {db : Db} {s : AssetCall}

/-! ### Who may act -/

/-- What `assertLease` demands. -/
structure Holds (env : AssetEnv) (db : Db) (time : Timestamp) (i : AssetLeaseInput) : Prop where
  project : i.projectId = db.project.projectId
  run : i.runId ∈ db.project.runs
  lease : ∃ l ∈ db.jobLeases.rows, l.runId = i.runId ∧ l.jobId = i.jobId ∧ l.status = .active ∧
    l.leaseTokenHash = env.hashText i.leaseToken ∧ l.ownerId = i.ownerId ∧
    l.fencingGeneration = i.fencingGeneration ∧ instantPassed l.expiresAt time = false
  job : ∃ a ∈ db.pageJobs.rows, a.runId = i.runId ∧ a.jobId = i.jobId ∧
    a.fencingGeneration = i.fencingGeneration

theorem pageJob_some {projectId runId jobId : String} {a : PageJobRow}
    (h : pageJob db projectId runId jobId = some a) :
    a ∈ db.pageJobs.rows ∧ a.runId = runId ∧ a.jobId = jobId := by
  unfold pageJob at h
  split_ifs at h
  obtain ⟨ha, hp⟩ := Table.find_mem h
  simpa [ha] using hp

theorem activeLease_some {projectId runId jobId : String} {l : JobLeaseRow}
    (h : activeLease db projectId runId jobId = some l) :
    l ∈ db.jobLeases.rows ∧ l.runId = runId ∧ l.jobId = jobId ∧ l.status = .active := by
  unfold activeLease at h
  split_ifs at h
  obtain ⟨hl, hp⟩ := Table.find_mem h
  simp only [Bool.and_eq_true, beq_iff_eq] at hp
  exact ⟨hl, hp.1.1, hp.1.2, hp.2⟩

theorem assertLease_spec {i : AssetLeaseInput} : safe (assertLease env i)
    (fun _ t => Holds env s.db (s.clock s.ticks) i ∧ t = { s with ticks := s.ticks + 1 }) s := by
  unfold assertLease requireProjectRun
  simp only [safe, wp_bind, wp_database, wp_require, wp_orThrow, wp_now, wp_pure]
  refine ⟨fun hproject => ⟨fun l hl => ⟨fun htoken => ⟨fun howner => ⟨fun hgen => ⟨fun a ha => ⟨fun hjob =>
    ⟨fun hlive => ⟨?_, trivial⟩, fun _ => trivial⟩, fun _ => trivial⟩, fun _ => trivial⟩, fun _ => trivial⟩,
    fun _ => trivial⟩, fun _ => trivial⟩, fun _ => trivial⟩, fun _ => trivial⟩
  simp only [Bool.and_eq_true, beq_iff_eq, List.contains_iff_mem, Bool.not_eq_true'] at *
  obtain ⟨hmem, hrun, hjobId, hactive⟩ := activeLease_some hl
  obtain ⟨hrow, hrowRun, hrowId⟩ := pageJob_some ha
  exact ⟨hproject.1, hproject.2, ⟨l, hmem, hrun, hjobId, hactive, htoken.symm, howner.symm, hgen.symm, hlive⟩,
    ⟨a, hrow, hrowRun, hrowId, hjob⟩⟩

/-- What `assertClaim` demands: the lease of the job, and the claim of the source. -/
structure Claimed (env : AssetEnv) (db : Db) (assets : AssetDb) (time : Timestamp) (i : AssetLeaseInput)
    (row : AssetSourceRow) : Prop extends Holds env db time i where
  mem : row ∈ assets.assetSources.rows
  source : isSource i.projectId i.runId i.assetSourceId row = true
  claim : isClaimedBy row i = true

theorem requireSourceRow_spec {projectId runId assetSourceId : String} :
    safe (requireSourceRow projectId runId assetSourceId) (fun row t => t = s ∧
      row ∈ s.assets.assetSources.rows ∧ isSource projectId runId assetSourceId row = true) s := by
  unfold requireSourceRow
  simp only [safe, wp_bind, wp_tables, wp_orThrow]
  exact ⟨fun row hrow => ⟨trivial, Table.find_mem hrow⟩, fun _ => trivial⟩

theorem assertClaim_spec {i : AssetLeaseInput} : safe (assertClaim env i)
    (fun row t => Claimed env s.db s.assets (s.clock s.ticks) i row ∧ t = { s with ticks := s.ticks + 1 }) s := by
  unfold assertClaim
  refine safe_bind assertLease_spec fun _ t ht => ?_
  obtain ⟨hholds, rfl⟩ := ht
  refine safe_bind requireSourceRow_spec fun row t ht => ?_
  obtain ⟨rfl, hrow, hsource⟩ := ht
  simp only [safe, wp_bind, wp_require, wp_pure]
  exact ⟨fun hclaim => ⟨⟨hholds, hrow, hsource, hclaim⟩, trivial⟩, fun _ => trivial⟩

/-! ### The rows of a source -/

variable {projectId runId assetSourceId : String}

theorem isSource_iff {row : AssetSourceRow} : isSource projectId runId assetSourceId row = true ↔
    row.projectId = projectId ∧ row.runId = runId ∧ row.assetSourceId = assetSourceId := by
  simp [isSource, and_assoc]

/-- The id alone picks the row of a source. -/
theorem source_eq {t : Table assetSources} {a b : AssetSourceRow} (ha : a ∈ t.rows) (hb : b ∈ t.rows)
    (h : a.assetSourceId = b.assetSourceId) : a = b :=
  sourceIndex.eq_of_key ha hb (k := b.assetSourceId) (by simp [sourceIndex, h]) rfl

/-- What an update of one source leaves. -/
structure Updated (t₀ t : Table assetSources) (row row' : AssetSourceRow) : Prop where
  old : row ∈ t₀.rows
  new : row' ∈ t.rows
  others : ∀ a ∈ t₀.rows, a ≠ row → a ∈ t.rows
  mem : ∀ a ∈ t.rows, a = row' ∨ a ∈ t₀.rows ∧ a ≠ row

theorem updated {t₀ t : Table assetSources} {row : AssetSourceRow}
    {f : AssetSourceRow → AssetSourceRow} (hrow : row ∈ t₀.rows)
    (hsource : isSource projectId runId assetSourceId row = true)
    (h : t₀.update (isSource projectId runId assetSourceId) f = some t) :
    Updated t₀ t row (f row) := by
  have hrows := Table.update_rows h
  have hother : ∀ a ∈ t₀.rows, isSource projectId runId assetSourceId a = true → a = row :=
    fun a ha has => source_eq ha hrow
      ((isSource_iff.1 has).2.2.trans (isSource_iff.1 hsource).2.2.symm)
  refine ⟨hrow, ?_, fun a ha hne => Table.mem_update h ha ?_, fun a ha => ?_⟩
  · rw [hrows]
    exact List.mem_map.2 ⟨row, hrow, rewrite_pos hsource⟩
  · by_contra hsel
    exact hne (hother a ha (by simpa using hsel))
  · rw [hrows] at ha
    obtain ⟨b, hb, rfl⟩ := List.mem_map.1 ha
    cases hsel : isSource projectId runId assetSourceId b with
    | true =>
      rw [rewrite_pos hsel, hother b hb hsel]
      exact Or.inl rfl
    | false =>
      rw [rewrite_neg hsel]
      refine Or.inr ⟨hb, ?_⟩
      rintro rfl
      rw [hsource] at hsel
      cases hsel

/-- The updated row is what is read back. -/
theorem readSource_updated {row row' : AssetSourceRow} {t₀ : Table assetSources}
    (h : Updated t₀ s.assets.assetSources row row') (hid : row'.assetSourceId = assetSourceId) : safe (readSource projectId runId assetSourceId)
      (fun a t => t = s ∧ a = rowToSource s.assets.assetContents row') s := by
  unfold readSource
  refine safe_bind requireSourceRow_spec fun r t ht => ?_
  obtain ⟨rfl, hr, hsource⟩ := ht
  have heq : r = row' := source_eq hr h.new ((isSource_iff.1 hsource).2.2.trans hid.symm)
  subst heq
  simp only [safe, wp_bind, wp_tables, wp_pure]
  exact ⟨trivial, trivial⟩

/-! ### The calls -/

/-- The row that a claim leaves. -/
def claimRow (i : AssetLeaseInput) (partialRelativePath : String) (updatedAt : Timestamp)
    (row : AssetSourceRow) : AssetSourceRow :=
  { row with state := .downloading, claimJobId := some i.jobId, claimedBy := some i.ownerId
             fencingGeneration := i.fencingGeneration, partialRelativePath := some partialRelativePath
             errorCode := none, updatedAt }

/-- What a `beginAssetDownload` that returns has done. -/
inductive Began (env : AssetEnv) (s : AssetCall) (i : AssetLeaseInput) (row : AssetSourceRow) :
    AssetSource → AssetDb → Prop
  | kept (h : row.state = .completed ∨ row.state = .downloading ∧ isClaimedBy row i = true) :
    Began env s i row (rowToSource s.assets.assetContents row) s.assets
  | claimed {path : String} {updatedAt : Timestamp} {t : Table assetSources} (hopen : row.state ≠ .completed)
      (hholds : Holds env s.db (s.clock s.ticks) i)
      (hpath : canonicalAssetPartialPath env i.assetSourceId i.fencingGeneration = .ok path)
      (hrows : Updated s.assets.assetSources t row (claimRow i path updatedAt row)) :
    Began env s i row (rowToSource s.assets.assetContents (claimRow i path updatedAt row))
      { s.assets with assetSources := t }

theorem assertNotInProgress_spec {row : AssetSourceRow} : safe (assertNotInProgress row)
    (fun _ t => ∃ n, t = { s with ticks := n }) s := by
  unfold assertNotInProgress
  split
  · simp only [safe, wp_bind, wp_database]
    split
    · exact ⟨s.ticks, rfl⟩
    · simp only [wp_bind, wp_now, wp_require]
      exact ⟨fun _ => ⟨_, rfl⟩, fun _ => trivial⟩
  · exact ⟨s.ticks, rfl⟩

theorem beginAssetDownload_spec {i : AssetLeaseInput} : safe (beginAssetDownload env i)
    (fun a t => ∃ row ∈ s.assets.assetSources.rows,
      isSource i.projectId i.runId i.assetSourceId row = true ∧ Began env s i row a t.assets) s := by
  unfold beginAssetDownload
  rw [wp_transaction]
  refine safe_bind requireSourceRow_spec fun row t ht => ?_
  obtain ⟨ht, hrow, hsource⟩ := ht
  subst t
  simp only [safe, wp_bind, wp_tables, wp_ite, wp_pure]
  refine ⟨fun hdone => ⟨row, hrow, hsource, .kept (Or.inl hdone)⟩, fun hopen =>
    ⟨fun hsame => ⟨row, hrow, hsource, .kept (Or.inr hsame)⟩, fun _ => ?_⟩⟩
  refine safe_mono assertLease_spec fun _ t ht => ?_
  obtain ⟨hholds, rfl⟩ := ht
  refine safe_mono assertNotInProgress_spec fun _ t ht => ?_
  obtain ⟨n, rfl⟩ := ht
  simp only [wp_check, wp_now, wp_updateSources]
  refine ⟨fun path hpath => ⟨fun t ht => ?_, fun _ => trivial⟩, fun _ _ => trivial⟩
  have hrows := updated hrow hsource ht
  refine safe_mono (readSource_updated hrows (isSource_iff.1 hsource).2.2) fun a t' ht' => ?_
  obtain ⟨rfl, rfl⟩ := ht'
  exact ⟨row, hrow, hsource, .claimed hopen hholds hpath hrows⟩

/-- The row that a saved progress leaves. -/
def progressRow (i : SaveProgressInput) (validator etag lastModified : Option String) (updatedAt : Timestamp)
    (row : AssetSourceRow) : AssetSourceRow :=
  { row with resumeOffset := i.resumeOffset, expectedBytes := i.expectedBytes
             validator, etag, lastModified, updatedAt }

/-- What a call by the claimant of a source has done, with what it changes of the row. -/
def Acted (env : AssetEnv) (s : AssetCall) (i : AssetLeaseInput) (changes : AssetSourceRow → AssetSourceRow → Prop)
    (a : AssetSource) (assets : AssetDb) : Prop :=
  ∃ row row', Claimed env s.db s.assets (s.clock s.ticks) i row ∧
    Updated s.assets.assetSources assets.assetSources row row' ∧
    changes row row' ∧ a = rowToSource assets.assetContents row'

theorem saveAssetProgress_spec {i : SaveProgressInput} : safe (saveAssetProgress env i) (fun a t =>
    Acted env s i.toAssetLeaseInput (fun row row' => ∃ validator etag lastModified updatedAt,
        row' = progressRow i validator etag lastModified updatedAt row) a t.assets ∧
      t.assets.assetContents = s.assets.assetContents) s := by
  unfold saveAssetProgress
  rw [wp_transaction]
  refine safe_bind assertClaim_spec fun row t ht => ?_
  obtain ⟨hclaimed, rfl⟩ := ht
  simp only [safe, wp_bind, wp_check, wp_require, wp_now, wp_updateSources]
  refine ⟨fun path _ => ⟨fun _ => ⟨fun validator _ => ⟨fun etag _ => ⟨fun modified _ => ⟨fun t ht => ?_,
    fun _ => trivial⟩, fun _ _ => trivial⟩, fun _ _ => trivial⟩, fun _ _ => trivial⟩, fun _ => trivial⟩,
    fun _ _ => trivial⟩
  have hrows := updated hclaimed.mem hclaimed.source ht
  refine safe_mono (readSource_updated hrows (isSource_iff.1 hclaimed.source).2.2)
    fun a t' ht' => ?_
  obtain ⟨rfl, rfl⟩ := ht'
  exact ⟨⟨row, _, hclaimed, hrows, ⟨_, _, _, _, rfl⟩, rfl⟩, rfl⟩

/-- The row that an interruption leaves. -/
def interruptRow (errorCode : String) (updatedAt : Timestamp) (row : AssetSourceRow) : AssetSourceRow :=
  { row with state := .interrupted, errorCode := some errorCode, claimJobId := none, claimedBy := none, updatedAt }

theorem markAssetInterrupted_spec {i : InterruptInput} : safe (markAssetInterrupted env i) (fun a t =>
    Acted env s i.toAssetLeaseInput (fun row row' => ∃ updatedAt, row' = interruptRow i.errorCode updatedAt row)
        a t.assets ∧
      t.assets.assetContents = s.assets.assetContents) s := by
  unfold markAssetInterrupted
  rw [wp_transaction]
  refine safe_bind assertClaim_spec fun row t ht => ?_
  obtain ⟨hclaimed, rfl⟩ := ht
  simp only [safe, wp_bind, wp_check, wp_now, wp_updateSources]
  refine ⟨fun _ _ => ⟨fun t ht => ?_, fun _ => trivial⟩, fun _ _ => trivial⟩
  have hrows := updated hclaimed.mem hclaimed.source ht
  refine safe_mono (readSource_updated hrows (isSource_iff.1 hclaimed.source).2.2)
    fun a t' ht' => ?_
  obtain ⟨rfl, rfl⟩ := ht'
  exact ⟨⟨row, _, hclaimed, hrows, ⟨_, rfl⟩, rfl⟩, rfl⟩

/-- The content that a finished download leaves for its hash. -/
structure Stored (assets assets' : AssetDb) (i : FinalizeInput) (path : String) (c : AssetContent) : Prop where
  mem : c ∈ assets'.assetContents.rows
  project : c.projectId = i.projectId
  sha256 : c.sha256 = i.sha256
  byteLength : c.byteLength = i.byteLength
  path : c.storageRelativePath = path
  kept : ∀ d ∈ assets.assetContents.rows, d ∈ assets'.assetContents.rows
  only : ∀ d ∈ assets'.assetContents.rows, d ∈ assets.assetContents.rows ∨ d = c

/-- The key of a content in its project. -/
def contentIndex : Index assetContents (String × String) where
  key c := some (c.projectId, c.sha256)
  unique a b k ha hb := by
    have h := Option.some.inj (ha.trans hb.symm)
    simp only [Prod.mk.injEq] at h
    simp [assetContents, h.1, h.2]

theorem contentOf_some {assets : AssetDb} {projectId sha256 : String} {c : AssetContent}
    (h : contentOf assets projectId sha256 = some c) :
    c ∈ assets.assetContents.rows ∧ c.projectId = projectId ∧ c.sha256 = sha256 := by
  obtain ⟨hc, hp⟩ := Table.find_mem h
  simpa [hc] using hp

theorem findOrInsertContent_spec {i : FinalizeInput} {path : String} {contentType : Option String} :
    safe (findOrInsertContent i path contentType) (fun r t => Stored s.assets t.assets i path r.1 ∧
      t.assets.assetSources = s.assets.assetSources) s := by
  unfold findOrInsertContent
  simp only [safe, wp_bind, wp_tables]
  cases hfound : contentOf s.assets i.projectId i.sha256 with
  | some c =>
    obtain ⟨hmem, hproject, hsha⟩ := contentOf_some hfound
    simp only [wp_bind, wp_require, wp_pure]
    refine ⟨fun hsame => ⟨?_, trivial⟩, fun _ => trivial⟩
    simp only [Bool.and_eq_true, beq_iff_eq] at hsame
    exact ⟨hmem, hproject, hsha, hsame.1, hsame.2, fun d hd => hd, fun d hd => Or.inl hd⟩
  | none =>
    simp only [wp_bind, wp_freshId, wp_now, wp_insertContent, wp_tables, wp_orThrow, wp_pure]
    refine ⟨fun t ht => ⟨fun c hc => ⟨?_, trivial⟩, fun _ => trivial⟩, fun _ _ => ⟨fun c hc => ?_, fun _ => trivial⟩,
      fun _ _ => trivial⟩
    · have hrows := Table.insert_rows ht
      obtain ⟨hmem, hproject, hsha⟩ := contentOf_some hc
      have hnew := List.mem_append_right s.assets.assetContents.rows (List.mem_singleton_self (a := AssetContent.mk
        (s.ids s.drawn) i.projectId i.sha256 i.byteLength path contentType (s.clock s.ticks) (some i.completedAt)))
      rw [← hrows] at hnew
      -- the hash is a key, so what is found is what was inserted
      obtain rfl := contentIndex.eq_of_key hmem hnew (k := (i.projectId, i.sha256))
        (by rw [← hproject, ← hsha]; rfl) rfl
      refine ⟨hmem, rfl, rfl, rfl, rfl, fun d hd => ?_, fun d hd => ?_⟩
      · rw [hrows]
        exact List.mem_append_left _ hd
      · rw [hrows] at hd
        simpa using hd
    · rw [hfound] at hc
      cases hc

/-- The row that a finished download leaves. -/
structure Completed (i : FinalizeInput) (path : String) (c : AssetContent) (row row' : AssetSourceRow) : Prop where
  state : row'.state = .completed
  claim : row'.claimJobId = none
  contentId : row'.contentId = some c.contentId
  sha256 : row'.sha256 = some i.sha256
  byteLength : row'.byteLength = some i.byteLength
  path : row'.storageRelativePath = some path
  project : row'.projectId = row.projectId
  source : row'.assetSourceId = row.assetSourceId

theorem finalizeAssetDownload_spec {i : FinalizeInput} : safe (finalizeAssetDownload env i) (fun r t =>
    ∃ path c, canonicalAssetContentPath env i.sha256 = .ok path ∧ Stored s.assets t.assets i path c ∧
      Acted env s i.toAssetLeaseInput (Completed i path c) r.1 t.assets ∧ r.2.1 = c) s := by
  unfold finalizeAssetDownload
  rw [wp_transaction]
  refine safe_bind assertClaim_spec fun row t ht => ?_
  obtain ⟨hclaimed, rfl⟩ := ht
  simp only [safe, wp_bind, wp_check, wp_require]
  refine ⟨fun finalUrl _ => ⟨fun _ _ => ⟨fun chain _ => ⟨fun path hpath => ⟨fun contentType _ => ⟨fun _ => ?_,
    fun _ => trivial⟩, fun _ _ => trivial⟩, fun _ _ => trivial⟩, fun _ _ => trivial⟩, fun _ _ => trivial⟩,
    fun _ _ => trivial⟩
  refine safe_mono findOrInsertContent_spec fun r t ht => ?_
  obtain ⟨c, deduplicated⟩ := r
  obtain ⟨hstored, hsources⟩ := ht
  simp only [wp_updateSources]
  refine ⟨fun t' ht' => ?_, fun _ => trivial⟩
  rw [hsources] at ht'
  have hrows := updated hclaimed.mem hclaimed.source ht'
  refine safe_mono (readSource_updated hrows (isSource_iff.1 hclaimed.source).2.2) fun a u hu => ?_
  obtain ⟨rfl, rfl⟩ := hu
  exact ⟨path, c, hpath, ⟨hstored.mem, hstored.project, hstored.sha256, hstored.byteLength, hstored.path,
    hstored.kept, hstored.only⟩, ⟨row, _, hclaimed, hrows, ⟨rfl, rfl, rfl, rfl, rfl, rfl, rfl, rfl⟩, rfl⟩, rfl⟩

/-- What an `ensureAssetSource` that returns has done: it finds the source, or inserts it
unclaimed. -/
structure Ensured (assets assets' : AssetDb) : Prop where
  contents : assets'.assetContents = assets.assetContents
  kept : ∀ row ∈ assets.assetSources.rows, row ∈ assets'.assetSources.rows
  only : ∀ row ∈ assets'.assetSources.rows, row ∈ assets.assetSources.rows ∨
    row.state = .pending ∧ row.claimJobId = none

theorem Ensured.refl (assets : AssetDb) : Ensured assets assets :=
  ⟨rfl, fun _ h => h, fun _ h => Or.inl h⟩

theorem findOrInsertSource_spec {i : AssetSourceInput} {identity : AssetIdentityInput} {path : String} :
    safe (findOrInsertSource i identity path) (fun _ t => Ensured s.assets t.assets) s := by
  unfold findOrInsertSource
  simp only [safe, wp_bind, wp_tables]
  cases sourceOfUrl s.assets i.projectId i.runId identity.normalizedUrl with
  | some row =>
    simp only [wp_bind]
    refine safe_mono requireSourceRow_spec fun current t ht => ?_
    obtain ⟨ht, -⟩ := ht
    subst t
    simp only [wp_require, wp_pure]
    exact ⟨fun _ => Ensured.refl _, fun _ => trivial⟩
  | none =>
    simp only [wp_bind, wp_freshId, wp_now, wp_insertSource, wp_ite, wp_pure, wp_tables, wp_orThrow]
    refine ⟨fun t ht => ⟨fun _ => ?_, fun h => absurd trivial h⟩,
      fun _ _ => ⟨fun h => absurd h Bool.false_ne_true, fun _ =>
        ⟨fun _ _ => Ensured.refl s.assets, fun _ => trivial⟩⟩, fun _ _ => trivial⟩
    have hrows := Table.insert_rows ht
    refine ⟨rfl, fun row hrow => ?_, fun row hrow => ?_⟩
    · show row ∈ t.rows
      rw [hrows]
      exact List.mem_append_left _ hrow
    · have hrow' : row ∈ t.rows := hrow
      rw [hrows] at hrow'
      rcases List.mem_append.1 hrow' with hold | hnew
      · exact Or.inl hold
      · rw [List.mem_singleton.1 hnew]
        exact Or.inr ⟨rfl, rfl⟩

theorem ensureAssetSource_spec {i : AssetSourceInput} :
    safe (ensureAssetSource env i) (fun _ t => Ensured s.assets t.assets) s := by
  unfold ensureAssetSource
  simp only [safe, wp_bind, wp_check, wp_require]
  refine ⟨fun identity _ => ⟨fun _ _ => ⟨fun _ => ?_, fun _ => trivial⟩, fun _ _ => trivial⟩, fun _ _ => trivial⟩
  refine (wp_transaction _).2 ?_
  unfold requireProjectRun requirePageJob
  simp only [safe, wp_bind, wp_database, wp_require, wp_orThrow, wp_check]
  refine ⟨fun _ => ⟨fun row _ => ⟨fun _ => ⟨fun path _ => ?_, fun _ _ => trivial⟩, fun _ => trivial⟩,
    fun _ => trivial⟩, fun _ => trivial⟩
  refine safe_mono findOrInsertSource_spec fun id t ht => ?_
  simp only [wp_now, wp_insertRelation]
  unfold readSource
  refine safe_bind requireSourceRow_spec fun row u hu => ?_
  obtain ⟨rfl, -⟩ := hu
  simp only [safe, wp_bind, wp_tables, wp_pure]
  exact ⟨ht.contents, ht.kept, ht.only⟩

end Assets

end OfflineWebArchiver
