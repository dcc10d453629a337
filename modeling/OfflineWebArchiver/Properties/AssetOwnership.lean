import OfflineWebArchiver.Assets.Calls

/-!
# Who owns an asset source

Workers claim sources, and calls on the store grant, renew, expire and recover their
leases in between. Only the latest claimant of a source acts on it, a completed source
stays as it is, and the contents are keyed by their hashes.

* `Effect`, `run_effect`: what any asset call does.
* `assets_sound`: claims, contents and partial paths fit together in every state.
* `claimed_latest`: the claim columns of a source name its latest claim.
* `asset_ownership`: **ownership, immutability and contents over all runs.**
-/

namespace OfflineWebArchiver

open Relational Program Assets

/-- The claim that a `beginAssetDownload` makes or finds made by the same caller. -/
structure DownloadClaim where
  assetSourceId : String
  jobId : String
  ownerId : String
  fencingGeneration : ℕ
  partialRelativePath : Option String
  deriving DecidableEq

/-- The claim of an event that returns its source as downloading. -/
def downloadClaim (env : AssetEnv) (s : ArchiveStore) : ArchiveEvent → Option DownloadClaim
  | .store _ => none
  | .asset e =>
    match e.op, assetExec env s e with
    | .beginAssetDownload i, .ok (a, _) =>
      if a.assetSource.state = .downloading then
        some { assetSourceId := i.assetSourceId, jobId := i.jobId, ownerId := i.ownerId
               fencingGeneration := i.fencingGeneration
               partialRelativePath := a.assetSource.partialRelativePath }
      else none
    | _, _ => none

/-- The calls that need a claim. -/
def AssetOp.claimant? : AssetOp → Option AssetLeaseInput
  | .saveAssetProgress i => some i.toAssetLeaseInput
  | .finalizeAssetDownload i => some i.toAssetLeaseInput
  | .markAssetInterrupted i => some i.toAssetLeaseInput
  | _ => none

/-! ### What a call does -/

/-- What a call that returns has done. -/
def Effect (env : AssetEnv) (s : AssetCall) : AssetOp → AssetAnswer → AssetDb → Prop
  | .ensureAssetSource _, _, assets => Ensured s.assets assets
  | .beginAssetDownload i, a, assets => ∃ row ∈ s.assets.assetSources.rows,
      isSource i.projectId i.runId i.assetSourceId row = true ∧ Began env s i row a.assetSource assets
  | .saveAssetProgress i, a, assets =>
      Acted env s i.toAssetLeaseInput (fun row row' => ∃ validator etag lastModified updatedAt,
        row' = progressRow i validator etag lastModified updatedAt row) a.assetSource assets ∧
      assets.assetContents = s.assets.assetContents
  | .finalizeAssetDownload i, a, assets => ∃ path c, canonicalAssetContentPath env i.sha256 = .ok path ∧
      Stored s.assets assets i path c ∧
      Acted env s i.toAssetLeaseInput (Completed i path c) a.assetSource assets
  | .markAssetInterrupted i, a, assets =>
      Acted env s i.toAssetLeaseInput (fun row row' => ∃ updatedAt,
        row' = interruptRow i.errorCode updatedAt row) a.assetSource assets ∧
      assets.assetContents = s.assets.assetContents

variable {env : AssetEnv}

theorem run_effect (op : AssetOp) (s : AssetCall) :
    safe (op.run env) (fun a t => Effect env s op a t.assets) s := by
  cases op with
  | ensureAssetSource i => exact (wp_map _ _).2 ensureAssetSource_spec
  | beginAssetDownload i => exact (wp_map _ _).2 beginAssetDownload_spec
  | saveAssetProgress i => exact (wp_map _ _).2 saveAssetProgress_spec
  | finalizeAssetDownload i =>
    refine (wp_map _ _).2 (safe_mono finalizeAssetDownload_spec fun r t h => ?_)
    obtain ⟨path, c, hpath, hstored, hacted, -⟩ := h
    exact ⟨path, c, hpath, hstored, hacted⟩
  | markAssetInterrupted i => exact (wp_map _ _).2 markAssetInterrupted_spec

variable {s : ArchiveStore} {e : AssetEvent} {a : AssetAnswer} {assets : AssetDb}

theorem exec_effect (h : assetExec env s e = .ok (a, assets)) : Effect env (e.start s) e.op a assets :=
  assetExec_of_wp (Q := fun a assets => Effect env (e.start s) e.op a assets) (run_effect e.op (e.start s)) h

/-- The calls that need a claim are made by the claimant. -/
theorem claimant_claimed {i : AssetLeaseInput} (h : assetExec env s e = .ok (a, assets))
    (hi : e.op.claimant? = some i) : ∃ row, Assets.Claimed env s.db s.assets (e.clock 0) i row := by
  have heffect := exec_effect h
  cases hop : e.op with
  | ensureAssetSource _ => rw [hop] at hi; cases hi
  | beginAssetDownload _ => rw [hop] at hi; cases hi
  | saveAssetProgress j =>
    rw [hop] at hi heffect
    obtain rfl := Option.some.inj hi
    obtain ⟨⟨row, -, hclaimed, -⟩, -⟩ := heffect
    exact ⟨row, hclaimed⟩
  | finalizeAssetDownload j =>
    rw [hop] at hi heffect
    obtain rfl := Option.some.inj hi
    obtain ⟨-, -, -, -, row, -, hclaimed, -⟩ := heffect
    exact ⟨row, hclaimed⟩
  | markAssetInterrupted j =>
    rw [hop] at hi heffect
    obtain rfl := Option.some.inj hi
    obtain ⟨⟨row, -, hclaimed, -⟩, -⟩ := heffect
    exact ⟨row, hclaimed⟩

/-! ### The tables -/

/-- A claimed source is downloading, and a downloading one has the partial path of its claim. -/
structure SourceSound (env : AssetEnv) (contents : Table assetContents) (row : AssetSourceRow) : Prop where
  claimed : ∀ jobId, row.claimJobId = some jobId → row.state = .downloading
  unfinished : row.state = .downloading → ∃ path, row.partialRelativePath = some path ∧
    canonicalAssetPartialPath env row.assetSourceId row.fencingGeneration = .ok path
  finished : row.state = .completed → ∃ c ∈ contents.rows, c.projectId = row.projectId ∧
    row.contentId = some c.contentId ∧ row.sha256 = some c.sha256 ∧ row.byteLength = some c.byteLength ∧
    row.storageRelativePath = some c.storageRelativePath

/-- Sources fit the contents, and a content lies where its hash says. -/
structure AssetsSound (env : AssetEnv) (assets : AssetDb) : Prop where
  source : ∀ row ∈ assets.assetSources.rows, SourceSound env assets.assetContents row
  content : ∀ c ∈ assets.assetContents.rows, canonicalAssetContentPath env c.sha256 = .ok c.storageRelativePath

theorem SourceSound.mono {contents contents' : Table assetContents} {row : AssetSourceRow}
    (h : SourceSound env contents row) (hkept : ∀ c ∈ contents.rows, c ∈ contents'.rows) :
    SourceSound env contents' row := by
  refine ⟨h.claimed, h.unfinished, fun hdone => ?_⟩
  obtain ⟨c, hc, hrest⟩ := h.finished hdone
  exact ⟨c, hkept c hc, hrest⟩

/-- Who has no claim and is neither downloading nor completed fits any contents. -/
theorem SourceSound.idle {contents : Table assetContents} {row : AssetSourceRow} (h : row.claimJobId = none)
    (hdown : row.state ≠ .downloading) (hdone : row.state ≠ .completed) : SourceSound env contents row := by
  refine ⟨fun jobId hjob => ?_, fun h' => absurd h' hdown, fun h' => absurd h' hdone⟩
  rw [h] at hjob
  cases hjob

theorem Assets.Updated.forall {t₀ t : Table assetSources} {row row' : AssetSourceRow} (h : Updated t₀ t row row')
    {P : AssetSourceRow → Prop} (hold : ∀ a ∈ t₀.rows, P a) (hnew : P row') : ∀ a ∈ t.rows, P a := by
  intro a ha
  rcases h.mem a ha with rfl | ⟨ha, -⟩
  · exact hnew
  · exact hold a ha

/-- The rows after a call of the claimant, when it leaves its own row sound. -/
theorem Assets.Acted.sources {c : AssetCall} {i : AssetLeaseInput} {changes : AssetSourceRow → AssetSourceRow → Prop}
    {source : AssetSource} (h : Acted env c i changes source assets) (hs : AssetsSound env c.assets)
    (hkept : ∀ d ∈ c.assets.assetContents.rows, d ∈ assets.assetContents.rows)
    (hnew : ∀ row row', Claimed env c.db c.assets (c.clock c.ticks) i row → changes row row' →
      SourceSound env assets.assetContents row → SourceSound env assets.assetContents row') :
    ∀ a ∈ assets.assetSources.rows, SourceSound env assets.assetContents a := by
  obtain ⟨row, row', hclaimed, hrows, hchanges, -⟩ := h
  have hold : ∀ a ∈ c.assets.assetSources.rows, SourceSound env assets.assetContents a :=
    fun a ha => (hs.source a ha).mono hkept
  exact hrows.forall hold (hnew row row' hclaimed hchanges (hold row hclaimed.mem))

/-- **Every call keeps the tables sound.** -/
theorem effect_sound {c : AssetCall} {op : AssetOp} (hs : AssetsSound env c.assets)
    (h : Effect env c op a assets) : AssetsSound env assets := by
  cases op with
  | ensureAssetSource i =>
    obtain ⟨hcontents, -, honly⟩ := h
    refine ⟨fun row hrow => ?_, fun d hd => hs.content d (hcontents ▸ hd)⟩
    rcases honly row hrow with hold | ⟨hstate, hclaim⟩
    · exact (hs.source row hold).mono fun d hd => hcontents ▸ hd
    · exact .idle hclaim (by rw [hstate]; decide) (by rw [hstate]; decide)
  | beginAssetDownload i =>
    obtain ⟨row, hrow, hsource, hbegan⟩ := h
    generalize a.assetSource = source at hbegan
    cases hbegan with
    | kept => exact hs
    | claimed hopen hholds hpath hrows =>
      refine ⟨hrows.forall hs.source ?_, hs.content⟩
      have hid : row.assetSourceId = i.assetSourceId := (isSource_iff.1 hsource).2.2
      refine ⟨fun _ _ => rfl, fun _ => ⟨_, rfl, ?_⟩, fun hdone => by cases hdone⟩
      show canonicalAssetPartialPath env row.assetSourceId i.fencingGeneration = _
      rw [hid]
      exact hpath
  | saveAssetProgress i =>
    obtain ⟨hacted, hcontents⟩ := h
    refine ⟨hacted.sources hs (fun d hd => hcontents ▸ hd) ?_, fun d hd => hs.content d (hcontents ▸ hd)⟩
    rintro row - - ⟨validator, etag, lastModified, updatedAt, rfl⟩ hrow
    exact ⟨hrow.claimed, hrow.unfinished, hrow.finished⟩
  | finalizeAssetDownload i =>
    obtain ⟨path, d, hpath, hstored, hacted⟩ := h
    refine ⟨hacted.sources hs hstored.kept ?_, fun d' hd' => ?_⟩
    · intro row row' hclaimed hdone _
      refine ⟨fun jobId hjob => ?_, fun hdown => ?_, fun _ => ⟨d, hstored.mem, ?_, hdone.contentId, ?_, ?_, ?_⟩⟩
      · rw [hdone.claim] at hjob
        cases hjob
      · rw [hdone.state] at hdown
        cases hdown
      · rw [hstored.project, hdone.project]
        exact (isSource_iff.1 hclaimed.source).1.symm
      · rw [hdone.sha256, hstored.sha256]
      · rw [hdone.byteLength, hstored.byteLength]
      · rw [hdone.path, hstored.path]
    · rcases hstored.only d' hd' with hold | rfl
      · exact hs.content d' hold
      · rw [hstored.sha256, hstored.path]
        exact hpath
  | markAssetInterrupted i =>
    obtain ⟨hacted, hcontents⟩ := h
    refine ⟨hacted.sources hs (fun d hd => hcontents ▸ hd) ?_, fun d hd => hs.content d (hcontents ▸ hd)⟩
    rintro row - - ⟨updatedAt, rfl⟩ -
    exact .idle rfl (by simp [interruptRow]) (by simp [interruptRow])

/-- The claimant's row is not completed. -/
theorem Assets.Claimed.not_completed {db : Db} {assets : AssetDb} {time : Timestamp} {i : AssetLeaseInput}
    {row : AssetSourceRow} (hs : AssetsSound env assets) (h : Claimed env db assets time i row) :
    row.state ≠ .completed := by
  have hclaim := h.claim
  simp only [isClaimedBy, Bool.and_eq_true, beq_iff_eq] at hclaim
  rw [(hs.source row h.mem).claimed _ hclaim.1.1]
  decide

/-- A row that an update does not select is among those after it. -/
theorem Assets.Acted.keeps {c : AssetCall} {i : AssetLeaseInput} {changes : AssetSourceRow → AssetSourceRow → Prop}
    {source : AssetSource} (h : Acted env c i changes source assets) (hs : AssetsSound env c.assets)
    {row : AssetSourceRow} (hrow : row ∈ c.assets.assetSources.rows) (hdone : row.state = .completed) :
    row ∈ assets.assetSources.rows := by
  obtain ⟨own, _, hclaimed, hrows, -⟩ := h
  refine hrows.others row hrow ?_
  rintro rfl
  exact hclaimed.not_completed hs hdone

/-- **A completed source stays as it is.** -/
theorem effect_completed {c : AssetCall} {op : AssetOp} (hs : AssetsSound env c.assets)
    (h : Effect env c op a assets) {row : AssetSourceRow} (hrow : row ∈ c.assets.assetSources.rows)
    (hdone : row.state = .completed) : row ∈ assets.assetSources.rows := by
  cases op with
  | ensureAssetSource i => exact h.kept row hrow
  | beginAssetDownload i =>
    obtain ⟨own, -, -, hbegan⟩ := h
    generalize a.assetSource = source at hbegan
    cases hbegan with
    | kept => exact hrow
    | claimed hopen _ _ hrows =>
      refine hrows.others row hrow ?_
      rintro rfl
      exact hopen hdone
  | saveAssetProgress i => exact h.1.keeps hs hrow hdone
  | finalizeAssetDownload i =>
    obtain ⟨path, d, -, -, hacted⟩ := h
    exact hacted.keeps hs hrow hdone
  | markAssetInterrupted i => exact h.1.keeps hs hrow hdone

/-! ### Runs -/

variable {project : Project} {createdAt : Timestamp} {es : List ArchiveEvent} {n : ℕ}

/-- The claim that the event at a point of the run makes. -/
def claimAt (env : AssetEnv) (project : Project) (createdAt : Timestamp) (es : List ArchiveEvent) (n : ℕ) :
    Option DownloadClaim :=
  es[n]?.bind (downloadClaim env (archiveAt env project createdAt es n))

/-- The claim of a source at `m` that no later one before `n` follows. -/
structure LatestClaim (env : AssetEnv) (project : Project) (createdAt : Timestamp) (es : List ArchiveEvent)
    (n : ℕ) (assetSourceId : String) (c : DownloadClaim) (m : ℕ) : Prop where
  before : m < n
  claimed : claimAt env project createdAt es m = some c
  source : c.assetSourceId = assetSourceId
  latest : ∀ k, m < k → k < n → ∀ d, claimAt env project createdAt es k = some d → d.assetSourceId ≠ assetSourceId

theorem archiveAt_succ {e : ArchiveEvent} (he : es[n]? = some e) :
    archiveAt env project createdAt es (n + 1) = archiveStep env (archiveAt env project createdAt es n) e :=
  Run.stAt_succ he

theorem assets_sound (env : AssetEnv) (project : Project) (createdAt : Timestamp) (es : List ArchiveEvent) :
    ∀ n, AssetsSound env (archiveAt env project createdAt es n).assets := by
  have h0 : AssetsSound env AssetDb.empty := ⟨by simp [AssetDb.empty], by simp [AssetDb.empty]⟩
  refine Run.stAt_induction (P := fun s : ArchiveStore => AssetsSound env s.assets) h0 fun n e _ hs => ?_
  cases e with
  | store e => exact hs
  | asset e =>
    cases hx : assetExec env (Run.stAt (archiveStep env) (.create project createdAt) es n) e with
    | error t => rw [archiveStep_error hx]; exact hs
    | ok r =>
      obtain ⟨a, assets⟩ := r
      rw [archiveStep_ok hx]
      exact effect_sound hs (exec_effect hx)

/-- A completed source stays for the rest of the run. -/
theorem completed_stays {row : AssetSourceRow} {m : ℕ} (hmn : m ≤ n)
    (hrow : row ∈ (archiveAt env project createdAt es m).assets.assetSources.rows)
    (hdone : row.state = .completed) : row ∈ (archiveAt env project createdAt es n).assets.assetSources.rows := by
  have hstep : ∀ k e, es[k]? = some e →
      row ∈ (archiveAt env project createdAt es k).assets.assetSources.rows →
      row ∈ (archiveStep env (archiveAt env project createdAt es k) e).assets.assetSources.rows := by
    intro k e _ hk
    cases e with
    | store e => exact hk
    | asset e =>
      cases hx : assetExec env (archiveAt env project createdAt es k) e with
      | error t => rw [archiveStep_error hx]; exact hk
      | ok r =>
        obtain ⟨a, assets⟩ := r
        rw [archiveStep_ok hx]
        exact effect_completed (assets_sound env project createdAt es k) (exec_effect hx) hk hdone
  exact Run.stAt_trans (r := fun s t : ArchiveStore => row ∈ s.assets.assetSources.rows →
    row ∈ t.assets.assetSources.rows) (fun _ h => h) (fun _ _ _ h h' hs => h' (h hs)) hstep hmn hrow

theorem LatestClaim.extend {id : String} {c : DownloadClaim} {m : ℕ}
    (h : LatestClaim env project createdAt es n id c m)
    (hother : ∀ d, claimAt env project createdAt es n = some d → d.assetSourceId ≠ id) :
    LatestClaim env project createdAt es (n + 1) id c m := by
  refine ⟨by have := h.before; omega, h.claimed, h.source, fun k hk hkn d hd => ?_⟩
  rcases Nat.lt_succ_iff_lt_or_eq.1 hkn with hlt | rfl
  · exact h.latest k hk hlt d hd
  · exact hother d hd

/-- The claim columns of a row name the latest claim of its source. -/
def NamesLatest (env : AssetEnv) (project : Project) (createdAt : Timestamp) (es : List ArchiveEvent) (n : ℕ)
    (row : AssetSourceRow) : Prop :=
  ∀ jobId, row.claimJobId = some jobId → ∃ c m, LatestClaim env project createdAt es n row.assetSourceId c m ∧
    c.jobId = jobId ∧ row.claimedBy = some c.ownerId ∧ row.fencingGeneration = c.fencingGeneration

theorem NamesLatest.stay {row : AssetSourceRow} (h : NamesLatest env project createdAt es n row)
    (hother : ∀ d, claimAt env project createdAt es n = some d → d.assetSourceId ≠ row.assetSourceId) :
    NamesLatest env project createdAt es (n + 1) row := by
  intro jobId hjob
  obtain ⟨c, m, hlatest, hrest⟩ := h jobId hjob
  exact ⟨c, m, hlatest.extend hother, hrest⟩

/-- Without a claim there is nothing to name. -/
theorem NamesLatest.unclaimed {row : AssetSourceRow} (h : row.claimJobId = none) :
    NamesLatest env project createdAt es n row := by
  intro jobId hjob
  rw [h] at hjob
  cases hjob

theorem claimAt_begin {i : AssetLeaseInput} (he : es[n]? = some (.asset e)) (hop : e.op = .beginAssetDownload i)
    (hx : assetExec env (archiveAt env project createdAt es n) e = .ok (a, assets)) :
    claimAt env project createdAt es n = if a.assetSource.state = .downloading then
      some { assetSourceId := i.assetSourceId, jobId := i.jobId, ownerId := i.ownerId
             fencingGeneration := i.fencingGeneration
             partialRelativePath := a.assetSource.partialRelativePath } else none := by
  unfold claimAt
  rw [he, Option.bind_some]
  simp only [downloadClaim, hop, hx]

/-- Only a `beginAssetDownload` claims. -/
theorem claimAt_some {c : DownloadClaim} (h : claimAt env project createdAt es n = some c) :
    ∃ e i a assets, es[n]? = some (.asset e) ∧ e.op = .beginAssetDownload i ∧
      assetExec env (archiveAt env project createdAt es n) e = .ok (a, assets) ∧
      a.assetSource.state = .downloading ∧ c.assetSourceId = i.assetSourceId ∧ c.jobId = i.jobId ∧
      c.ownerId = i.ownerId ∧ c.fencingGeneration = i.fencingGeneration ∧
      c.partialRelativePath = a.assetSource.partialRelativePath := by
  unfold claimAt at h
  obtain ⟨e, he, hclaim⟩ := Option.bind_eq_some_iff.1 h
  cases e with
  | store e => cases hclaim
  | asset e =>
    simp only [downloadClaim] at hclaim
    split at hclaim
    · rename_i i a assets hop hx
      split_ifs at hclaim with hdown
      obtain rfl := Option.some.inj hclaim
      exact ⟨e, i, a, assets, he, hop, hx, hdown, rfl, rfl, rfl, rfl, rfl⟩
    · cases hclaim

/-- An event that is no `beginAssetDownload` claims nothing. -/
theorem claimAt_none (he : es[n]? = some (.asset e)) (hop : ∀ i, e.op ≠ .beginAssetDownload i) :
    claimAt env project createdAt es n = none := by
  cases h : claimAt env project createdAt es n with
  | none => rfl
  | some c =>
    obtain ⟨e', i, -, -, he', hop', -⟩ := claimAt_some h
    rw [he] at he'
    cases he'
    exact absurd hop' (hop i)

/-- After a call of the claimant that claims nothing, its own row still names the latest
claim or no claim. -/
theorem Assets.Acted.namesLatest {c : AssetCall} {i : AssetLeaseInput}
    {changes : AssetSourceRow → AssetSourceRow → Prop} {source : AssetSource}
    (h : Acted env c i changes source assets) (hnone : claimAt env project createdAt es n = none)
    (hnames : ∀ row ∈ c.assets.assetSources.rows, NamesLatest env project createdAt es n row)
    (hnew : ∀ row row', changes row row' → NamesLatest env project createdAt es (n + 1) row →
      NamesLatest env project createdAt es (n + 1) row') :
    ∀ row ∈ assets.assetSources.rows, NamesLatest env project createdAt es (n + 1) row := by
  obtain ⟨row, row', hclaimed, hrows, hchanges, -⟩ := h
  have hstay : ∀ a ∈ c.assets.assetSources.rows, NamesLatest env project createdAt es (n + 1) a :=
    fun a ha => (hnames a ha).stay fun d hd => by rw [hnone] at hd; cases hd
  exact hrows.forall hstay (hnew row row' hchanges (hstay row hclaimed.mem))

/-- The new claim of a `beginAssetDownload` is the latest one. -/
theorem began_namesLatest {i : AssetLeaseInput} {row : AssetSourceRow} (he : es[n]? = some (.asset e))
    (hop : e.op = .beginAssetDownload i)
    (hx : assetExec env (archiveAt env project createdAt es n) e = .ok (a, assets))
    (hdown : a.assetSource.state = .downloading) (hid : row.assetSourceId = i.assetSourceId)
    (hclaim : isClaimedBy row i = true) : NamesLatest env project createdAt es (n + 1) row := by
  intro jobId hjob
  have hat := claimAt_begin he hop hx
  rw [if_pos hdown] at hat
  simp only [isClaimedBy, Bool.and_eq_true, beq_iff_eq] at hclaim
  refine ⟨_, n, ⟨by omega, hat, hid.symm, fun k hk hkn => by omega⟩, ?_, hclaim.1.2, hclaim.2⟩
  exact Option.some.inj (hclaim.1.1.symm.trans hjob)

/-- **The claim columns name the latest claim**, through every event. -/
theorem namesLatest_succ (he : es[n]? = some (.asset e))
    (hx : assetExec env (archiveAt env project createdAt es n) e = .ok (a, assets))
    (hnames : ∀ row ∈ (archiveAt env project createdAt es n).assets.assetSources.rows,
      NamesLatest env project createdAt es n row) :
    ∀ row ∈ assets.assetSources.rows, NamesLatest env project createdAt es (n + 1) row := by
  have heffect := exec_effect hx
  cases hop : e.op with
  | ensureAssetSource i =>
    rw [hop] at heffect
    have hnone : claimAt env project createdAt es n = none := claimAt_none he
      fun j h => by rw [hop] at h; cases h
    intro row hrow
    rcases heffect.only row hrow with hold | ⟨-, hclaim⟩
    · exact (hnames row hold).stay fun d hd => by rw [hnone] at hd; cases hd
    · exact .unclaimed hclaim
  | beginAssetDownload i =>
    rw [hop] at heffect
    obtain ⟨own, hown, hsource, hbegan⟩ := heffect
    have hid := (isSource_iff.1 hsource).2.2
    have hat := claimAt_begin he hop hx
    -- another source keeps its latest claim
    have hother : ∀ row ∈ (archiveAt env project createdAt es n).assets.assetSources.rows, row ≠ own →
        NamesLatest env project createdAt es (n + 1) row := by
      intro row hrow hne
      refine (hnames row hrow).stay fun d hd heq => hne ?_
      obtain ⟨_, j, _, _, he', hop', -, -, hdid, -⟩ := claimAt_some hd
      rw [he] at he'
      cases he'
      rw [hop] at hop'
      cases hop'
      exact source_eq hrow hown (heq.symm.trans (hdid.trans hid.symm))
    generalize hanswer : a.assetSource = source at hbegan
    cases hbegan with
    | kept hkept =>
      have hstate : a.assetSource.state = own.state := by rw [hanswer]; rfl
      intro row hrow
      by_cases hsame : row = own
      · subst hsame
        rcases hkept with hdone | ⟨hdown, hclaim⟩
        · rw [if_neg (by rw [hstate, hdone]; decide)] at hat
          exact (hnames row hrow).stay fun d hd => by rw [hat] at hd; cases hd
        · exact began_namesLatest he hop hx (hstate.trans hdown) hid hclaim
      · exact hother row hrow hsame
    | claimed hopen hholds hpath hrows =>
      intro row hrow
      rcases hrows.mem row hrow with rfl | ⟨hold, hne⟩
      · exact began_namesLatest he hop hx (by rw [hanswer]; rfl) hid (by simp [isClaimedBy, claimRow])
      · exact hother row hold hne
  | saveAssetProgress i =>
    rw [hop] at heffect
    refine heffect.1.namesLatest (claimAt_none he fun j h => by rw [hop] at h; cases h) hnames ?_
    rintro row - ⟨validator, etag, lastModified, updatedAt, rfl⟩ hrow
    exact hrow
  | finalizeAssetDownload i =>
    rw [hop] at heffect
    obtain ⟨path, d, -, -, hacted⟩ := heffect
    exact hacted.namesLatest (claimAt_none he fun j h => by rw [hop] at h; cases h) hnames
      fun row row' hdone _ => .unclaimed hdone.claim
  | markAssetInterrupted i =>
    rw [hop] at heffect
    refine heffect.1.namesLatest (claimAt_none he fun j h => by rw [hop] at h; cases h) hnames ?_
    rintro row - ⟨updatedAt, rfl⟩ -
    exact .unclaimed rfl

/-- **The claim columns of a source name its latest claim**, in every state of every run. -/
theorem claimed_latest (env : AssetEnv) (project : Project) (createdAt : Timestamp) (es : List ArchiveEvent)
    (n : ℕ) : ∀ row ∈ (archiveAt env project createdAt es n).assets.assetSources.rows,
      NamesLatest env project createdAt es n row := by
  induction n with
  | zero =>
    intro row hrow
    simp [archiveAt, ArchiveStore.create, AssetDb.empty] at hrow
  | succ n ih =>
    have hstay : claimAt env project createdAt es n = none →
        ∀ row ∈ (archiveAt env project createdAt es n).assets.assetSources.rows,
          NamesLatest env project createdAt es (n + 1) row :=
      fun hnone row hrow => (ih row hrow).stay fun d hd => by rw [hnone] at hd; cases hd
    cases he : es[n]? with
    | none =>
      have hsame : archiveAt env project createdAt es (n + 1) = archiveAt env project createdAt es n :=
        Run.stAt_succ_none he
      rw [hsame]
      exact hstay (by simp [claimAt, he])
    | some e =>
      rw [archiveAt_succ he]
      cases e with
      | store e => exact hstay (by simp [claimAt, he, downloadClaim])
      | asset e =>
        cases hx : assetExec env (archiveAt env project createdAt es n) e with
        | error t =>
          rw [archiveStep_error hx]
          refine hstay ?_
          cases h : claimAt env project createdAt es n with
          | none => rfl
          | some c =>
            obtain ⟨_, _, _, _, he', -, hx', -⟩ := claimAt_some h
            rw [he] at he'
            cases he'
            rw [hx] at hx'
            cases hx'
        | ok r =>
          obtain ⟨a, assets⟩ := r
          rw [archiveStep_ok hx]
          exact namesLatest_succ he hx ih

/-! ### The law -/

/-- Ownership of sources, immutability of completed ones, and contents by their hashes. -/
structure AssetLaw (env : AssetEnv) (project : Project) (createdAt : Timestamp) (es : List ArchiveEvent) :
    Prop where
  /-- Progress, finalization and interruption are accepted only from the latest claimant, who
  holds the active lease of its job at the current generation, not expired at the call. -/
  owned : ∀ n e i r, es[n]? = some (.asset e) → e.op.claimant? = some i →
    assetExec env (archiveAt env project createdAt es n) e = .ok r →
    (∃ c m, LatestClaim env project createdAt es n i.assetSourceId c m ∧ c.jobId = i.jobId ∧
      c.ownerId = i.ownerId ∧ c.fencingGeneration = i.fencingGeneration) ∧
    Holds env (archiveAt env project createdAt es n).db (e.clock 0) i
  /-- A completed source stays as it is. -/
  immutable : ∀ m n row, m ≤ n → row ∈ (archiveAt env project createdAt es m).assets.assetSources.rows →
    row.state = .completed → row ∈ (archiveAt env project createdAt es n).assets.assetSources.rows
  /-- One content for each project and hash. -/
  unique : ∀ n, ∀ c ∈ (archiveAt env project createdAt es n).assets.assetContents.rows,
    ∀ d ∈ (archiveAt env project createdAt es n).assets.assetContents.rows,
    c.projectId = d.projectId → c.sha256 = d.sha256 → c = d
  /-- A content lies where its hash says. -/
  path : ∀ n, ∀ c ∈ (archiveAt env project createdAt es n).assets.assetContents.rows,
    canonicalAssetContentPath env c.sha256 = .ok c.storageRelativePath
  /-- A completed source has a content with its hash, its length and its path. -/
  stored : ∀ n, ∀ row ∈ (archiveAt env project createdAt es n).assets.assetSources.rows,
    row.state = .completed → ∃ c ∈ (archiveAt env project createdAt es n).assets.assetContents.rows,
      c.projectId = row.projectId ∧ row.contentId = some c.contentId ∧ row.sha256 = some c.sha256 ∧
      row.byteLength = some c.byteLength ∧ row.storageRelativePath = some c.storageRelativePath
  /-- Every source completed with a hash has the length of its content. -/
  byteLength : ∀ n, ∀ c ∈ (archiveAt env project createdAt es n).assets.assetContents.rows,
    ∀ row ∈ (archiveAt env project createdAt es n).assets.assetSources.rows, row.state = .completed →
    row.projectId = c.projectId → row.sha256 = some c.sha256 → row.byteLength = some c.byteLength

/-- **Asset ownership and immutability**, for every interleaving of asset calls with the
calls on the store. -/
theorem asset_ownership (env : AssetEnv) (project : Project) (createdAt : Timestamp) (es : List ArchiveEvent) :
    AssetLaw env project createdAt es := by
  have hsound := assets_sound env project createdAt es
  have hunique : ∀ n, ∀ c ∈ (archiveAt env project createdAt es n).assets.assetContents.rows,
      ∀ d ∈ (archiveAt env project createdAt es n).assets.assetContents.rows,
      c.projectId = d.projectId → c.sha256 = d.sha256 → c = d :=
    fun n c hc d hd hproject hsha => contentIndex.eq_of_key hc hd (k := (c.projectId, c.sha256)) rfl
      (by rw [hproject, hsha]; rfl)
  refine ⟨fun n e i r he hi hx => ?_, fun m n row => completed_stays, hunique, fun n => (hsound n).content,
    fun n row hrow hdone => ((hsound n).source row hrow).finished hdone, fun n c hc row hrow hdone hproject hsha => ?_⟩
  · obtain ⟨a, assets⟩ := r
    obtain ⟨row, hclaimed⟩ := claimant_claimed hx hi
    have hclaim := hclaimed.claim
    simp only [isClaimedBy, Bool.and_eq_true, beq_iff_eq] at hclaim
    obtain ⟨c, m, hlatest, hjob, howner, hgen⟩ :=
      claimed_latest env project createdAt es n row hclaimed.mem i.jobId hclaim.1.1
    rw [(isSource_iff.1 hclaimed.source).2.2] at hlatest
    exact ⟨⟨c, m, hlatest, hjob, Option.some.inj (howner.symm.trans hclaim.1.2), hgen.symm.trans hclaim.2⟩,
      hclaimed.toHolds⟩
  · obtain ⟨d, hd, hdproject, -, hdsha, hdlength, -⟩ := ((hsound n).source row hrow).finished hdone
    obtain rfl := hunique n c hc d hd (hproject.symm.trans hdproject.symm)
      (Option.some.inj (hsha.symm.trans hdsha))
    exact hdlength

end OfflineWebArchiver
