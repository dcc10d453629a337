import OfflineWebArchiver.Assets.Download
import OfflineWebArchiver.Properties.AssetOwnership
import OfflineWebArchiver.Properties.AssetSources

/-!
# Reusing an asset

A completed source and its content stay as they are, so two answers from it are the
same. The answer of the download itself is another one: the store puts the final URL in
front of the redirect chain, and a reuse returns the chain as it is stored.

* `sound_from`, `completed_from`, `contents_from`: runs from any sound store.
* `reuse_same`: two answers by reuse.
* `reuse_equals_download_iff`: **a reuse answers what the first call did exactly when
  that one was answered by reuse, too.**
-/

namespace OfflineWebArchiver

open Relational Program Assets Checks

variable {env : AssetEnv} {s₀ : ArchiveStore} {es : List ArchiveEvent} {m n : ℕ}
  {input : AssetSourceInput}

/-! ### Runs from a sound store -/

/-- Every call keeps the contents. -/
theorem effect_contents {c : AssetCall} {op : AssetOp} {a : AssetAnswer} {assets : AssetDb}
    (h : Effect env c op a assets) {d : AssetContent} (hd : d ∈ c.assets.assetContents.rows) :
    d ∈ assets.assetContents.rows := by
  cases op with
  | ensureAssetSource i => exact h.contents ▸ hd
  | beginAssetDownload i =>
    obtain ⟨own, -, -, hbegan⟩ := h
    generalize a.assetSource = source at hbegan
    cases hbegan with
    | kept => exact hd
    | claimed => exact hd
  | saveAssetProgress i => exact h.2 ▸ hd
  | finalizeAssetDownload i =>
    obtain ⟨path, d', -, hstored, -⟩ := h
    exact hstored.kept d hd
  | markAssetInterrupted i => exact h.2 ▸ hd

/-- What a call that returns makes of the assets, step by step. -/
theorem step_assets {P : AssetDb → AssetDb → Prop} (hrefl : ∀ d, P d d) {s : ArchiveStore}
    (hcall : ∀ e a assets, Effect env (AssetEvent.start e s) e.op a assets → P s.assets assets)
    (e : ArchiveEvent) : P s.assets (archiveStep env s e).assets := by
  cases e with
  | store e => exact hrefl _
  | asset e =>
    cases hx : assetExec env s e with
    | error t => rw [archiveStep_error hx]; exact hrefl _
    | ok r =>
      obtain ⟨a, assets⟩ := r
      rw [archiveStep_ok hx]
      exact hcall e a assets (exec_effect hx)

theorem sound_from (h₀ : AssetsSound env s₀.assets) (n : ℕ) :
    AssetsSound env (assetStoreAt env s₀ es n).assets :=
  Run.stAt_induction (P := fun s : ArchiveStore => AssetsSound env s.assets) h₀
    (fun _ e _ hs => step_assets (P := fun d d' => AssetsSound env d → AssetsSound env d')
      (fun _ h => h) (fun _ _ _ heffect hs => effect_sound hs heffect) e hs) n

theorem storeAt_mono {P : AssetDb → AssetDb → Prop} (hrefl : ∀ d, P d d)
    (htrans : ∀ d d' d'', P d d' → P d' d'' → P d d'') (h₀ : AssetsSound env s₀.assets)
    (hcall : ∀ (c : AssetCall) op a assets, AssetsSound env c.assets → Effect env c op a assets →
      P c.assets assets) (hmn : m ≤ n) :
    P (assetStoreAt env s₀ es m).assets (assetStoreAt env s₀ es n).assets :=
  Run.stAt_trans (r := fun s t : ArchiveStore => P s.assets t.assets) (fun _ => hrefl _)
    (fun _ _ _ => htrans _ _ _)
    (fun k e _ => step_assets hrefl (fun e a assets h =>
      hcall (e.start _) e.op a assets (sound_from h₀ k) h) e) hmn

/-- A completed source stays for the rest of the run. -/
theorem completed_from (h₀ : AssetsSound env s₀.assets) {row : AssetSourceRow} (hmn : m ≤ n)
    (hrow : row ∈ (assetStoreAt env s₀ es m).assets.assetSources.rows) (hdone : row.state = .completed) :
    row ∈ (assetStoreAt env s₀ es n).assets.assetSources.rows :=
  storeAt_mono (P := fun d d' => row ∈ d.assetSources.rows → row ∈ d'.assetSources.rows)
    (fun _ h => h) (fun _ _ _ h h' hd => h' (h hd)) h₀
    (fun _ _ _ _ hs h hr => effect_completed hs h hr hdone) hmn hrow

/-- A content stays for the rest of the run. -/
theorem contents_from (h₀ : AssetsSound env s₀.assets) {c : AssetContent} (hmn : m ≤ n)
    (hc : c ∈ (assetStoreAt env s₀ es m).assets.assetContents.rows) :
    c ∈ (assetStoreAt env s₀ es n).assets.assetContents.rows :=
  storeAt_mono (P := fun d d' => c ∈ d.assetContents.rows → c ∈ d'.assetContents.rows)
    (fun _ h => h) (fun _ _ _ h h' hd => h' (h hd)) h₀ (fun _ _ _ _ _ h hd => effect_contents h hd) hmn hc

/-! ### What the calls of a download answer -/

theorem AssetAnswered.step {op : AssetOp} {a : AssetAnswer} (h : AssetAnswered env s₀ es n op a) :
    ∃ e assets, e.op = op ∧ assetExec env (assetStoreAt env s₀ es n) e = .ok (a, assets) ∧
      (assetStoreAt env s₀ es (n + 1)).assets = assets := by
  obtain ⟨e, assets, he, hop, hx⟩ := h
  refine ⟨e, assets, hop, hx, ?_⟩
  rw [assetStoreAt, Run.stAt_succ he]
  exact congrArg ArchiveStore.assets (archiveStep_ok hx)

/-- The found source is the row of the URL, in the store that the call leaves. -/
theorem found_row {before : AssetSource}
    (h : AssetAnswered env s₀ es n (.ensureAssetSource input) (.source before)) :
    ∃ identity row, canonicalAssetIdentity env input.identity = .ok identity ∧
      SourceRowOf (assetStoreAt env s₀ es (n + 1)).assets input identity.normalizedUrl row ∧
      before = rowToSource (assetStoreAt env s₀ es (n + 1)).assets.assetContents row := by
  obtain ⟨e, assets, hop, hx, hnext⟩ := h.step
  have hspec : safe (e.op.run env) (fun a t => ∀ source, a = .source source → ∃ identity row,
      canonicalAssetIdentity env input.identity = .ok identity ∧
        SourceRowOf t.assets input identity.normalizedUrl row ∧
        source = rowToSource t.assets.assetContents row) (e.start (assetStoreAt env s₀ es n)) := by
    rw [hop]
    refine (wp_map _ _).2 (safe_mono ensureAssetSource_row fun a t h source hsource => ?_)
    obtain rfl := AssetAnswer.source.inj hsource
    exact h
  obtain ⟨identity, row, hid, hrow, hbefore⟩ := assetExec_of_wp (Q := fun a assets =>
    ∀ source, a = .source source → ∃ identity row,
      canonicalAssetIdentity env input.identity = .ok identity ∧
        SourceRowOf assets input identity.normalizedUrl row ∧
        source = rowToSource assets.assetContents row) hspec hx before rfl
  rw [hnext]
  exact ⟨identity, row, hid, hrow, hbefore⟩

/-- The stored chain has the final URL in front. -/
theorem final_chain {i : FinalizeInput} {source : AssetSource} {content : AssetContent}
    {deduplicated : Bool}
    (h : AssetAnswered env s₀ es n (.finalizeAssetDownload i) (.finalized source content deduplicated)) :
    source.redirectChain.length = i.redirectChain.length + 1 := by
  obtain ⟨e, assets, hop, hx, -⟩ := h.step
  have hspec : safe (e.op.run env) (fun a _ =>
      a.assetSource.redirectChain.length = i.redirectChain.length + 1)
      (e.start (assetStoreAt env s₀ es n)) := by
    rw [hop]
    exact (wp_map _ _).2 finalizeAssetDownload_chain
  exact assetExec_of_wp (Q := fun a _ =>
    a.assetSource.redirectChain.length = i.redirectChain.length + 1) hspec hx

theorem reuseAsset_ok {before : AssetSource} {content : AssetContent} {stored : String × ℤ}
    {r : AssetDownloadResult} (h : reuseAsset before content stored = .ok r) :
    stored.2 = content.byteLength ∧
      r = ⟨before, content, true, false, before.redirectChain.head?.getD before.normalizedUrl,
        before.redirectChain, stored.2⟩ := by
  rw [reuseAsset, failIf_bind_ok, pure_ok] at h
  obtain ⟨hsame, rfl⟩ := h
  rw [not_or, not_or, not_not, not_not, not_not] at hsame
  exact ⟨hsame.2.2, rfl⟩

theorem finished_some {before : AssetSource} {content : AssetContent} {path : String}
    (h : before.finished = some (content, path)) :
    before.state = .completed ∧ before.content = some content := by
  unfold AssetSource.finished at h
  split at h
  · next hstate hcontent _ =>
    obtain ⟨rfl, -⟩ := Prod.mk.inj (Option.some.inj h)
    exact ⟨hstate, hcontent⟩
  · cases h

/-! ### Reuse -/

/-- The primary key of a content. -/
def contentIdIndex : Index assetContents String where
  key c := some c.contentId
  unique a b k ha hb := by
    have h : a.contentId = b.contentId := Option.some.inj (ha.trans hb.symm)
    simp [assetContents, h]

/-- A row with its content reads the same as long as the content is there. -/
theorem rowToSource_mono {t t' : Table assetContents} {row : AssetSourceRow} {c : AssetContent}
    (hc : (rowToSource t row).content = some c) (hkept : c ∈ t'.rows) :
    rowToSource t' row = rowToSource t row := by
  obtain ⟨id, hid, hfind⟩ := Option.bind_eq_some_iff.1 hc
  obtain ⟨-, hp⟩ := Table.find_mem hfind
  have hcid : c.contentId = id := by simpa using hp
  have hfind' : t'.find (fun d => d.contentId == id) = some c := by
    cases hd : t'.find (fun d => d.contentId == id) with
    | none => exact absurd hp (by simpa using Table.find_none hd c hkept)
    | some d =>
      obtain ⟨hmem, hdp⟩ := Table.find_mem hd
      have hdid : d.contentId = id := by simpa using hdp
      rw [contentIdIndex.eq_of_key hmem hkept (k := id) (congrArg some hdid) (congrArg some hcid)]
  unfold rowToSource
  rw [hid, Option.bind_some, Option.bind_some, hfind, hfind']

/-- **A completed source is found again as it was.** -/
theorem found_same (h₀ : AssetsSound env s₀.assets) {before before' : AssetSource} {m' : ℕ}
    (h : AssetAnswered env s₀ es m (.ensureAssetSource input) (.source before))
    (h' : AssetAnswered env s₀ es m' (.ensureAssetSource input) (.source before')) (hlater : m < m')
    {content : AssetContent} {path : String} (hdone : before.finished = some (content, path)) :
    before' = before := by
  obtain ⟨identity, row, hid, hrow, rfl⟩ := found_row h
  obtain ⟨identity', row', hid', hrow', rfl⟩ := found_row h'
  obtain rfl := Except.ok.inj (hid.symm.trans hid')
  obtain ⟨hstate, hcontent⟩ := finished_some hdone
  have hstays := completed_from h₀ (n := m' + 1) (by omega) hrow.mem hstate
  obtain rfl : row' = row := urlIndex.eq_of_key hrow'.mem hstays
    (k := (input.projectId, input.runId, identity.normalizedUrl))
    (by simp [urlIndex, hrow'.project, hrow'.run, hrow'.url])
    (by simp [urlIndex, hrow.project, hrow.run, hrow.url])
  obtain ⟨id, -, hfind⟩ := Option.bind_eq_some_iff.1 hcontent
  exact rowToSource_mono hcontent (contents_from h₀ (by omega) (Table.find_mem hfind).1)

/-- The results of two calls agree on what they have downloaded. -/
def SameDownload (r r' : AssetDownloadResult) : Prop :=
  r'.source = r.source ∧ r'.content = r.content ∧ r'.finalUrl = r.finalUrl ∧
    r'.redirectChain = r.redirectChain ∧ r'.byteLength = r.byteLength

/-- **When a reuse equals the call before it.** A later call for the same descriptor that
is answered by reuse returns what the first call returned exactly when the first call had
found the source finished itself. -/
theorem reuse_equals_download_iff (h₀ : AssetsSound env s₀.assets) {m' n' : ℕ}
    {before before' : AssetSource} {r r' : AssetDownloadResult}
    (h : Downloads env s₀ es input m n before r) (h' : Downloads env s₀ es input m' n' before' r')
    (hlater : n < m') (hreused : r'.reused = true) :
    SameDownload r r' ↔ before.finished.isSome = true := by
  obtain ⟨content', path', stored', hfound', hfinished', hreuse'⟩ : ∃ content' path' stored',
      AssetAnswered env s₀ es m' (.ensureAssetSource input) (.source before') ∧
      before'.finished = some (content', path') ∧ reuseAsset before' content' stored' = .ok r' := by
    cases h' with
    | reused hfound hfinished hreuse => exact ⟨_, _, _, hfound, hfinished, hreuse⟩
    | transferred => cases hreused
  obtain ⟨hlength', rfl⟩ := reuseAsset_ok hreuse'
  cases h with
  | reused hfound hfinished hreuse =>
    obtain ⟨hlength, rfl⟩ := reuseAsset_ok hreuse
    obtain rfl := found_same h₀ hfound hfound' hlater hfinished
    obtain ⟨rfl, -⟩ := Prod.mk.inj (Option.some.inj (hfinished.symm.trans hfinished'))
    rw [hfinished]
    exact iff_of_true ⟨rfl, rfl, rfl, rfl, hlength'.trans hlength.symm⟩ rfl
  | transferred hfound hopen _ _ hredirects _ hfinal =>
    rw [hopen]
    refine iff_of_false (fun hsame => ?_) (by simp)
    -- the chain of a reuse is the stored one, with the final URL in front
    obtain ⟨hsource, -, -, hchain, -⟩ := hsame
    have hstored := final_chain hfinal
    simp only at hsource hchain
    rw [← hsource, hchain] at hstored
    simp [finalizeInput] at hstored

/-! ### An asset behind a redirect -/

namespace Sample.Reuse

/-- The small project with its assets; URLs are taken as they are. -/
def quick : AssetEnv :=
  { Sample.quickEnv with
    unicode := { nfc := id, lower := List.map Char.toLower }
    parseUrl := fun value =>
      some { protocol := "https:", username := "", password := "", searchParams := [], text := fun _ => value } }

/-- The page job whose worker downloads. -/
def job : PageJobRow where
  queueSequence := 1
  jobId := "a"
  runId := "r"
  projectRevisionId := "rev"
  profileId := "prof"
  profileRevisionId := "prev"
  normalizationEngineVersion := 1
  normalizedUrl := "u"
  identityUrl := "u"
  safeDisplayUrl := "u"
  identityHash := digits 'a'
  scopeDecisionId := "d"
  scopeReasonCode := "c"
  priority := 0
  prioritySource := .policy
  depth := 0
  discoveryType := .seed
  attemptCount := 1
  fencingGeneration := 1
  maxAttempts := 3
  nextEligibleAt := minute 0
  claimToken := some "t"
  claimedBy := some "w"
  claimedAt := some (minute 0)
  lastAttemptAt := none
  completedAt := none
  failedAt := none
  completionKey := none
  resultVersion := none
  resultSummary := none
  lastErrorCode := none
  lastErrorCategory := none
  lastErrorMessage := none
  createdAt := minute 0
  updatedAt := minute 0
  queuedAt := minute 0
  state := .processing
  recoveryState := none

/-- Its lease, with the hash of the token `t`. -/
def lease : JobLeaseRow where
  leaseId := "l"
  jobId := "a"
  runId := "r"
  ownerId := "w"
  fencingGeneration := 1
  status := .active
  acquiredAt := minute 0
  heartbeatAt := minute 0
  expiresAt := minute 9
  releasedAt := none
  releaseReason := none
  leaseTokenHash := "e3b98a4da31a127d4bde6e43033f66ba274cab0eb7eb1c70ec41402bf6273dd8"
  lastOperationId := "o"

/-- Another page has asked for the asset. -/
def row : AssetSourceRow where
  assetSourceId := "s0"
  projectId := "p"
  runId := "r"
  projectRevisionId := "rev"
  pageJobId := "b"
  originalUrl := "https://a/x"
  normalizedUrl := "https://a/x"
  identityHash := digits 'e'
  assetType := .css
  sourceRelativePath := "s"
  state := .pending
  statusCode := none
  contentType := none
  byteLength := none
  sha256 := none
  storageRelativePath := none
  etag := none
  lastModified := none
  validator := none
  expectedBytes := none
  resumeOffset := 0
  partialRelativePath := none
  redirectChain := []
  claimJobId := none
  claimedBy := none
  fencingGeneration := 0
  errorCode := none
  createdAt := minute 0
  updatedAt := minute 0
  completedAt := none
  contentId := none

def leased : ArchiveStore where
  db := { Db.create project (minute 0) with
    pageJobs := ⟨[job], by decide, by decide⟩
    jobLeases := ⟨[lease], by decide, by decide⟩ }
  assets :=
    { assetSources := ⟨[row], by decide, by decide⟩
      assetContents := .empty _
      pageAssetRelations := .empty _ }

def descriptor : AssetSourceInput where
  identity := { originalUrl := "https://a/x", normalizedUrl := "https://a/x", identityHash := digits 'e' }
  assetType := .css
  pageJobId := "a"
  projectId := "p"
  runId := "r"
  projectRevisionId := "rev"
  relationKind := "link"

def holder : AssetLeaseInput where
  projectId := "p"
  runId := "r"
  jobId := "a"
  leaseToken := "t"
  fencingGeneration := 1
  ownerId := "w"
  assetSourceId := "s0"

def transfer : Transfer where
  statusCode := 200
  contentType := none
  hashed := (digits 'f', 3)
  completedAt := minute 1

def call (name : String) (op : AssetOp) : ArchiveEvent := .asset
  { op := op, clock := fun _ => minute 0, ids := fun n => name ++ String.ofList [Nat.digitChar n] }

/-- The asset redirects once; then it is asked for again. -/
def redirected : List ArchiveEvent :=
  [call "s" (.ensureAssetSource descriptor), call "t" (.beginAssetDownload holder),
    call "u" (.finalizeAssetDownload (finalizeInput holder transfer "https://a/y" ["https://a/x"])),
    call "v" (.ensureAssetSource descriptor)]

/-- What event `n` answers. -/
def answer (n : ℕ) : Option AssetAnswer :=
  match redirected[n]? with
  | some (.asset e) => (assetExec quick (assetStoreAt quick leased redirected n) e).toOption.map (·.1)
  | _ => none


/-- The source that a call has found or claimed. -/
def foundSource : AssetAnswer → Option AssetSource
  | .source s => some s
  | .finalized _ _ _ => none

theorem foundSource_some {a : AssetAnswer} {s : AssetSource} (h : foundSource a = some s) :
    a = .source s := by
  cases a with
  | source s' => exact congrArg _ (Option.some.inj h)
  | finalized => cases h

theorem foundSource_none {a : AssetAnswer} (h : (foundSource a).isNone = true) :
    ∃ s c d, a = .finalized s c d := by
  cases a with
  | source s' => cases h
  | finalized s c d => exact ⟨s, c, d, rfl⟩

/-- The answers, as far as they decide the results. -/
theorem answers :
    ((answer 0).bind foundSource).map (fun s => (s.assetSourceId, s.finished.isNone)) =
        some ("s0", true) ∧
      ((answer 1).bind foundSource).map (fun s => (s.assetSourceId, s.normalizedUrl)) =
        some ("s0", "https://a/x") ∧
      (answer 2).map (fun a => (foundSource a).isNone) = some true ∧
      ((answer 3).bind foundSource).map (fun s => (s.redirectChain, s.sha256,
          s.finished.map fun p => (p.1.sha256, p.1.byteLength))) =
        some (["https://a/y", "https://a/x"], some (digits 'f'), some (digits 'f', 3)) := by
  decide +kernel

theorem answers_of {n : ℕ} {e : AssetEvent} {a : AssetAnswer}
    (he : redirected[n]? = some (.asset e)) (h : answer n = some a) :
    AssetAnswered quick leased redirected n e.op a := by
  unfold answer at h
  rw [he] at h
  cases hx : assetExec quick (assetStoreAt quick leased redirected n) e with
  | error t => simp [hx, Except.toOption] at h
  | ok r =>
    obtain ⟨a', assets⟩ := r
    simp only [hx, Except.toOption, Option.map_some, Option.some.injEq] at h
    subst h
    exact ⟨e, assets, he, rfl, hx⟩

theorem leased_sound : AssetsSound quick leased.assets := by
  refine ⟨fun r hr => ?_, fun c hc => absurd hc List.not_mem_nil⟩
  obtain rfl := List.mem_singleton.1 hr
  exact SourceSound.idle rfl (by decide) (by decide)

/-- The download follows one redirect, and the same descriptor is asked for again. -/
theorem downloads : ∃ before r before' r',
    Downloads quick leased redirected descriptor 0 2 before r ∧
      Downloads quick leased redirected descriptor 3 3 before' r' ∧ before.finished = none ∧
      r'.reused = true ∧ r.redirectChain = ["https://a/x"] ∧
      r'.redirectChain = ["https://a/y", "https://a/x"] := by
  obtain ⟨h0, h1, h2, h3⟩ := answers
  obtain ⟨before, hbefore, hproj⟩ := Option.map_eq_some_iff.1 h0
  obtain ⟨hid, hopen⟩ := Prod.mk.inj hproj
  obtain ⟨a0, ha0, hs0⟩ := Option.bind_eq_some_iff.1 hbefore
  obtain ⟨claimed, hclaimed, hproj⟩ := Option.map_eq_some_iff.1 h1
  obtain ⟨hclaimedId, hurl⟩ := Prod.mk.inj hproj
  obtain ⟨a1, ha1, hs1⟩ := Option.bind_eq_some_iff.1 hclaimed
  obtain ⟨a2, ha2, hs2⟩ := Option.map_eq_some_iff.1 h2
  obtain ⟨before', hbefore', hproj⟩ := Option.map_eq_some_iff.1 h3
  obtain ⟨a3, ha3, hs3⟩ := Option.bind_eq_some_iff.1 hbefore'
  simp only [Prod.mk.injEq] at hproj
  obtain ⟨hchain, hsha, hfinished⟩ := hproj
  obtain ⟨⟨content, path⟩, hfinished, hcontent⟩ := Option.map_eq_some_iff.1 hfinished
  simp only [Prod.mk.injEq] at hcontent
  obtain rfl := foundSource_some hs0
  obtain rfl := foundSource_some hs1
  obtain rfl := foundSource_some hs3
  obtain ⟨source, stored, deduplicated, rfl⟩ := foundSource_none hs2
  have hopen : before.finished = none := by simpa using hopen
  have hbegun : AssetAnswered quick leased redirected 1
      (.beginAssetDownload { holder with assetSourceId := before.assetSourceId }) (.source claimed) := by
    rw [hid]
    exact answers_of rfl ha1
  have hfinal : AssetAnswered quick leased redirected 2
      (.finalizeAssetDownload (finalizeInput { holder with assetSourceId := claimed.assetSourceId }
        transfer "https://a/y" ["https://a/x"])) (.finalized source stored deduplicated) := by
    rw [hclaimedId]
    exact answers_of rfl ha2
  have hredirect : followRedirects quick claimed.normalizedUrl ["https://a/y"] =
      .ok ("https://a/y", ["https://a/x"]) := by
    rw [hurl]
    decide +kernel
  have hreuse : reuseAsset before' content (digits 'f', 3) = .ok
      ⟨before', content, true, false, before'.redirectChain.head?.getD before'.normalizedUrl,
        before'.redirectChain, 3⟩ := by
    rw [reuseAsset, failIf_bind, if_neg (by simp [hsha, hcontent])]
    rfl
  exact ⟨before, _, before', _,
    .transferred (answers_of rfl ha0) hopen Nat.zero_lt_one hbegun hredirect Nat.one_lt_two hfinal,
    .reused (answers_of rfl ha3) hfinished hreuse, hopen, rfl, rfl, hchain⟩

/-- **A reuse returns another redirect chain** than the download it repeats. -/
theorem chain_differs : ∃ before r before' r',
    Downloads quick leased redirected descriptor 0 2 before r ∧
      Downloads quick leased redirected descriptor 3 3 before' r' ∧ r'.reused = true ∧
      ¬SameDownload r r' := by
  obtain ⟨before, r, before', r', hr, hr', -, hreused, hchain, hchain'⟩ := downloads
  refine ⟨before, r, before', r', hr, hr', hreused, fun hsame => ?_⟩
  have := hsame.2.2.2.1
  rw [hchain, hchain'] at this
  simp at this

theorem chain_differs_iff : ∃ before r before' r',
    Downloads quick leased redirected descriptor 0 2 before r ∧
      Downloads quick leased redirected descriptor 3 3 before' r' ∧
      (SameDownload r r' ↔ before.finished.isSome = true) := by
  obtain ⟨before, r, before', r', hr, hr', -, hreused, -, -⟩ := downloads
  exact ⟨before, r, before', r', hr, hr',
    reuse_equals_download_iff leased_sound hr hr' (by decide) hreused⟩

end Sample.Reuse

end OfflineWebArchiver
