import OfflineWebArchiver.Lib.Checks
import OfflineWebArchiver.Properties.AssetOwnership
import OfflineWebArchiver.Properties.Sample

/-!
# Partial files of asset downloads

A claim of a source is given a path for the unfinished file. The path names the source
and the fencing generation of the claimant's job, and generations count within a job: two
jobs that need one source may claim it under the same generation.

* `claim_path`: the path that a claim is given.
* `partial_paths_distinct_iff`: **claims of a source have paths of their own exactly when
  different jobs claim it under different generations.**
* `partial_path_shared`: two jobs with one path.
-/

namespace OfflineWebArchiver

open Relational Program Assets

variable {env : AssetEnv}

/-- The partial path of a source and a generation is the plain text of both. -/
theorem partialPath_ok {assetSourceId path : String} {generation : ℕ}
    (h : canonicalAssetPartialPath env assetSourceId generation = .ok path) :
    path = "temp/assets/" ++ assetSourceId ++ "." ++ toString generation ++ ".part" := by
  unfold canonicalAssetPartialPath at h
  obtain ⟨-, -, h⟩ := Checks.bind_ok.1 h
  dsimp only at h
  split_ifs at h
  · obtain ⟨_, hthrow, -⟩ := Checks.bind_ok.1 h
    exact absurd hthrow Checks.throw_ok
  · unfold canonicalPath at h
    split at h
    · rename_i normalized hpath
      obtain ⟨-, rfl⟩ := canonicalRelativePath_ok.1 hpath
      rw [← Except.ok.inj h, String.ofList_toList]
    · cases h

/-- Different generations have different paths. -/
theorem partialPath_injective {assetSourceId path : String} {generation generation' : ℕ}
    (h : canonicalAssetPartialPath env assetSourceId generation = .ok path)
    (h' : canonicalAssetPartialPath env assetSourceId generation' = .ok path) : generation = generation' := by
  have heq := (partialPath_ok h).symm.trans (partialPath_ok h')
  rw [String.append_left_inj, String.append_right_inj] at heq
  have hdigits := congrArg (fun s => Nat.ofDigitChars 10 s.toList 0) heq
  simpa [Nat.toString_eq_ofList_toDigits] using hdigits

variable {project : Project} {createdAt : Timestamp} {es : List ArchiveEvent} {m n : ℕ}

/-- **The path that a claim is given** is that of its source and generation. -/
theorem claim_path {c : DownloadClaim} (h : claimAt env project createdAt es n = some c) :
    ∃ path, c.partialRelativePath = some path ∧
      canonicalAssetPartialPath env c.assetSourceId c.fencingGeneration = .ok path := by
  obtain ⟨e, i, a, assets, he, hop, hx, hdown, hid, -, -, hgen, hpath⟩ := claimAt_some h
  have heffect := exec_effect hx
  rw [hop] at heffect
  obtain ⟨row, hrow, hsource, hbegan⟩ := heffect
  have hrowId := (isSource_iff.1 hsource).2.2
  rw [hid, hgen, hpath]
  generalize a.assetSource = source at hdown hbegan
  cases hbegan with
  | kept hkept =>
    obtain ⟨path, hpartial, hcanonical⟩ :=
      ((assets_sound env project createdAt es n).source row hrow).unfinished hdown
    rcases hkept with hdone | ⟨-, hclaim⟩
    · rw [show row.state = .downloading from hdown] at hdone
      cases hdone
    · simp only [isClaimedBy, Bool.and_eq_true, beq_iff_eq] at hclaim
      rw [hrowId, hclaim.2] at hcanonical
      exact ⟨path, hpartial, hcanonical⟩
  | claimed _ _ hcanonical _ => exact ⟨_, rfl, hcanonical⟩

/-- Two claims of one source by different claimants have different partial paths. -/
def PartialPathsDistinct (env : AssetEnv) (project : Project) (createdAt : Timestamp) (es : List ArchiveEvent) :
    Prop :=
  ∀ m n c d path path', claimAt env project createdAt es m = some c →
    claimAt env project createdAt es n = some d → c.assetSourceId = d.assetSourceId →
    (c.jobId ≠ d.jobId ∨ c.fencingGeneration ≠ d.fencingGeneration) →
    c.partialRelativePath = some path → d.partialRelativePath = some path' → path ≠ path'

/-- Different jobs claim a source under different generations. -/
def GenerationsDistinct (env : AssetEnv) (project : Project) (createdAt : Timestamp) (es : List ArchiveEvent) :
    Prop :=
  ∀ m n c d, claimAt env project createdAt es m = some c → claimAt env project createdAt es n = some d →
    c.assetSourceId = d.assetSourceId → c.jobId ≠ d.jobId → c.fencingGeneration ≠ d.fencingGeneration

/-- **Claims have partial files of their own exactly when no two jobs claim a source under
one generation.** -/
theorem partial_paths_distinct_iff (env : AssetEnv) (project : Project) (createdAt : Timestamp)
    (es : List ArchiveEvent) : PartialPathsDistinct env project createdAt es ↔
      GenerationsDistinct env project createdAt es := by
  constructor
  · intro hdistinct m n c d hc hd hsource hjob hgen
    obtain ⟨path, hpath, hcanonical⟩ := claim_path hc
    obtain ⟨path', hpath', hcanonical'⟩ := claim_path hd
    rw [hsource, hgen, hcanonical'] at hcanonical
    exact hdistinct m n c d path path' hc hd hsource (Or.inl hjob) hpath hpath' (Except.ok.inj hcanonical).symm
  · intro hdistinct m n c d path path' hc hd hsource hne hpath hpath' heq
    obtain ⟨p, hp, hcanonical⟩ := claim_path hc
    obtain ⟨p', hp', hcanonical'⟩ := claim_path hd
    obtain rfl := Option.some.inj (hpath.symm.trans hp)
    obtain rfl := Option.some.inj (hpath'.symm.trans hp')
    subst heq
    rw [hsource] at hcanonical
    have hgen := partialPath_injective hcanonical hcanonical'
    rcases hne with hjob | hne
    · exact hdistinct m n c d hc hd hsource hjob hgen
    · exact hne hgen

/-! ### Two jobs with one partial file -/

/-- The small project with its assets; URLs are taken as they are. -/
def sampleAssets : AssetEnv :=
  { Sample.env with
    unicode := { nfc := id, lower := List.map Char.toLower }
    parseUrl := fun value =>
      some { protocol := "https:", username := "", password := "", searchParams := [], text := fun _ => value } }

def quickAssets : AssetEnv := { sampleAssets with toEnv := Sample.quickEnv }

theorem sampleAssets_eq : sampleAssets = quickAssets := by
  unfold quickAssets sampleAssets
  rw [Sample.env_eq]

/-- An asset call at minute `m`, whose fresh ids begin with `name`. -/
def assetEvent (m : ℕ) (name : String) (op : AssetOp) : ArchiveEvent := .asset
  { op := op, clock := fun _ => Sample.minute m, ids := fun n => name ++ String.ofList [Nat.digitChar n] }

/-- A worker claims the source under the first generation of a job. -/
def beginFirst (jobId leaseToken : String) : AssetOp := .beginAssetDownload
  { projectId := "p", runId := "r", jobId, leaseToken, fencingGeneration := 1, ownerId := "w", assetSourceId := "s0" }

/-- Two pages need one asset. The worker of the first page claims it, and when its lease of
five seconds is over, the worker of the second page claims it too. -/
def sharedAsset : List ArchiveEvent :=
  [.store (Sample.event 0 "a" (Sample.enqueue 'a' 3 "e")), .store (Sample.event 0 "b" (Sample.enqueue 'b' 3 "f")),
    .store (Sample.event 0 "c" (Sample.claimWithLease "w" "g")),
    assetEvent 0 "s" (.ensureAssetSource
      { identity := { originalUrl := "https://a/x", normalizedUrl := "https://a/x", identityHash := Sample.digits 'e' }
        assetType := .css, pageJobId := "a0", projectId := "p", runId := "r", projectRevisionId := "rev"
        relationKind := "link" }),
    assetEvent 0 "t" (beginFirst "a0" "c0"), .store (Sample.event 1 "d" (Sample.claimWithLease "w" "h")),
    assetEvent 1 "u" (beginFirst "b0" "d0")]

theorem sharedAsset_claims :
    claimAt sampleAssets Sample.project (Sample.minute 0) sharedAsset 4 =
        some ⟨"s0", "a0", "w", 1, some "temp/assets/s0.1.part"⟩ ∧
      claimAt sampleAssets Sample.project (Sample.minute 0) sharedAsset 6 =
        some ⟨"s0", "b0", "w", 1, some "temp/assets/s0.1.part"⟩ := by
  rw [sampleAssets_eq]
  decide +kernel

/-- **Two jobs are given one partial path.** -/
theorem partial_path_shared :
    ¬PartialPathsDistinct sampleAssets Sample.project (Sample.minute 0) sharedAsset := fun h =>
  h 4 6 _ _ _ _ sharedAsset_claims.1 sharedAsset_claims.2 rfl (Or.inl (by decide)) rfl rfl rfl

end OfflineWebArchiver
