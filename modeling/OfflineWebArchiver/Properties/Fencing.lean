import OfflineWebArchiver.Lifecycle.Outcome

/-!
# Fencing of page jobs

An active lease stands only on a job in work and names its current claim, and
only the latest grant of a job gives a token that the job's calls accept.

* `fenced_run`: the invariant, the order of generations and the authority of the
  latest grant, at every point of every run.
-/

namespace OfflineWebArchiver

open Relational Program Function Relation

variable {env : Env} {db db' : Db} {e : Event}

/-- What a call presents to act on a leased job. -/
structure Credential where
  jobId : String
  token : String
  generation : Option ℕ

def LeaseHolder.credential (i : LeaseHolder) : Credential := ⟨i.jobId, i.leaseToken, some i.fencingGeneration⟩

/-- The calls that need the token of a claim. -/
def Op.credential : Op → Option Credential
  | .heartbeatLease i => some i.credential
  | .renewLease i => some i.credential
  | .releaseLease i => some i.credential
  | .saveJobCheckpoint i => some i.credential
  | .acknowledgePause i => some i.credential
  | .commitRenderResult i => some i.credential
  | .recordRenderFailure i => some i.credential
  | .complete i => some ⟨i.jobId, i.claimToken, none⟩
  | .fail i => some ⟨i.jobId, i.claimToken, none⟩
  | _ => none

/-- The call asks to complete a job that is completed. -/
def Op.settled (db : Db) : Op → Prop
  | .complete i => Settled db i.jobId
  | _ => False

/-- The call returns, and not because an earlier one did the same. -/
def NewlyAccepted (env : Env) (db : Db) (e : Event) : Prop :=
  (∃ r, exec env db e = .ok r) ∧ isReplay db e.op = false ∧ ¬e.op.settled db

/-- The credential is that of the active lease of its job. -/
def Credential.current (env : Env) (db : Db) (c : Credential) : Prop :=
  ∃ l ∈ db.jobLeases.rows, l.status = .active ∧ l.jobId = c.jobId ∧
    l.leaseTokenHash = env.hashText c.token ∧ c.generation.all (· = l.fencingGeneration) = true

theorem Presents.current {i : LeaseHolder} {l : JobLeaseRow} (h : Presents env db i l) :
    i.credential.current env db :=
  ⟨l, h.mem, h.active, h.job, h.token, by simp [LeaseHolder.credential, h.generation]⟩

/-- A finishing call on a job that was ever leased presents its active lease. -/
theorem Fenced.current {jobId token : String} (h : Fenced env db jobId token)
    {a : PageJobRow} (ha : a ∈ db.pageJobs.rows) (hid : a.jobId = jobId)
    (hpos : 0 < a.fencingGeneration) : Credential.current env db ⟨jobId, token, none⟩ := by
  obtain ⟨b, hb, hbid, hfenced⟩ := h
  obtain rfl := job_eq hb ha (hbid.trans hid.symm)
  rcases hfenced with hzero | ⟨l, hl, hjob, hact, htoken, -⟩
  · have hzero' : b.fencingGeneration = 0 := hzero
    omega
  · exact ⟨l, hl, hact, hjob.trans hbid, htoken, rfl⟩

/-- A call that needs a token returns only when it presents the active lease. -/
theorem run_current {s : Call} (hs : Sound env.hashText s.db.pool) {op : Op} {c : Credential}
    (hc : op.credential = some c) (hrep : isReplay s.db op = false) (hset : ¬op.settled s.db)
    {a : PageJobRow} (ha : a ∈ s.db.pageJobs.rows) (hid : a.jobId = c.jobId)
    (hpos : 0 < a.fencingGeneration) : safe (op.run env) (fun _ _ => c.current env s.db) s := by
  have hpresents : ∀ {i : LeaseHolder}, i.credential = c → (∃ l, Presents env s.db i l) →
      c.current env s.db := by
    rintro i rfl ⟨l, hl⟩
    exact hl.current
  cases op <;> simp only [Op.run, safe, wp_map] <;> try cases hc
  case heartbeatLease i => exact safe_mono heartbeatLease_did fun _ _ h => hpresents rfl h.2
  case renewLease i => exact safe_mono renewLease_did fun _ _ h => hpresents rfl h.2
  case releaseLease i => exact safe_mono releaseLease_did fun _ _ h => hpresents rfl h.2
  case saveJobCheckpoint i => exact safe_mono saveJobCheckpoint_did fun _ _ h => hpresents rfl h.2
  case complete i =>
    refine safe_mono (complete_did hs) fun _ _ h => ?_
    rcases h.2 with h | h | h
    · exact absurd (h.symm.trans hrep) (by decide)
    · exact absurd h hset
    · exact h.current ha hid hpos
  case fail i =>
    refine safe_mono (fail_did hs) fun _ _ h => ?_
    rcases h.2 with h | h
    · exact absurd (h.symm.trans hrep) (by decide)
    · exact h.current ha hid hpos
  case acknowledgePause i =>
    exact safe_mono (acknowledgePause_spec hs) fun _ _ h => h.elim fun _ h => hpresents rfl h.presents
  case commitRenderResult i =>
    refine safe_mono commitTransaction_spec fun _ _ h => ?_
    rcases h with ⟨h, -⟩ | ⟨-, h⟩
    · exact absurd (h.symm.trans hrep) (by decide)
    · exact hpresents rfl h.presents
  case recordRenderFailure i =>
    exact safe_mono recordRenderFailure_did fun _ _ h => hpresents rfl h.2

/-- **Who is newly accepted presents the active lease.** -/
theorem NewlyAccepted.current (hs : Sound env.hashText db.pool) (h : NewlyAccepted env db e)
    {c : Credential} (hc : e.op.credential = some c) {a : PageJobRow} (ha : a ∈ db.pageJobs.rows)
    (hid : a.jobId = c.jobId) (hpos : 0 < a.fencingGeneration) : c.current env db := by
  obtain ⟨⟨⟨ans, db'⟩, he⟩, hrep, hset⟩ := h
  exact exec_of_wp (Q := fun _ _ => c.current env db)
    (run_current (s := e.start db) hs hc hrep hset ha hid hpos) he

/-! ### Runs -/

variable {project : Project} {createdAt : Timestamp} {es : List Event} {n : ℕ}

/-- The claim that made the active lease of a job, and its place in the run. -/
structure LatestGrant (env : Env) (project : Project) (createdAt : Timestamp)
    (es : List Event) (n : ℕ) (jobId : String) (m : ℕ)
    (claim : LeaseClaim) : Prop where
  before : m < n
  granted : grantAt env project createdAt es m = some claim
  job : claim.job.jobId = jobId
  latest : ∀ i, m < i → i < n → ∀ c, grantAt env project createdAt es i = some c → c.job.jobId ≠ jobId

/-- **The active lease comes from the latest grant.** -/
theorem latestGrant {l : JobLeaseRow}
    (hl : l ∈ (storeAt env project createdAt es n).jobLeases.rows) (hs : l.status = .active) :
    ∃ m claim, LatestGrant env project createdAt es n l.jobId m claim ∧
      claim.lease.fencingGeneration = l.fencingGeneration ∧ claim.lease.ownerId = l.ownerId ∧
      env.hashText claim.leaseToken = l.leaseTokenHash := by
  have hheld : (storeAt env project createdAt es n).pool.held l.jobId = some (holdOf l) :=
    held_mem hl hs
  have hholder : (storeAt env project createdAt es n).pool.fencing.holder l.jobId =
      some (holdOf l, ((storeAt env project createdAt es n).pool.jobs l.jobId).bind (·.token)) := by
    show ((storeAt env project createdAt es n).pool.held l.jobId).map _ = _
    rw [hheld]; rfl
  have h0 : (storeAt env project createdAt es 0).pool.fencing.holder l.jobId = none := rfl
  obtain ⟨m, hm, hlabel, -, hlast⟩ :=
    (fencing_run env project createdAt es).holder_latest h0 hholder
  obtain ⟨claim, hclaim, heq⟩ := Option.map_eq_some_iff.1 hlabel
  simp only [Prod.mk.injEq] at heq
  obtain ⟨hjob, hhold, -⟩ := heq
  refine ⟨m, claim, ⟨hm, hclaim, hjob, fun i hi hi' c hc hcj => ?_⟩, congrArg Hold.generation hhold,
    congrArg Hold.owner hhold, congrArg Hold.hash hhold⟩
  refine hlast i hi hi' (c.hold env, some c.leaseToken) ?_
  show grantLabel env (grantAt env project createdAt es i) = _
  rw [hc, ← hcj]; rfl

/-- The fencing invariant, on the tables. -/
structure FencingInvariant (env : Env) (db : Db) : Prop where
  /-- A job has at most one active lease. -/
  one : ∀ k, db.jobLeases.count (fun l => l.jobId == k && l.status == .active) ≤ 1
  /-- It stands on a job in work, with its generation and the hash of its claim token. -/
  stands : ∀ l ∈ db.jobLeases.rows, l.status = .active → ∃ a ∈ db.pageJobs.rows,
    a.jobId = l.jobId ∧ a.state = .processing ∧ a.recoveryState = none ∧
    l.fencingGeneration = a.fencingGeneration ∧
    ∃ t, a.claimToken = some t ∧ l.leaseTokenHash = env.hashText t

theorem Sound.invariant (hs : Sound env.hashText db.pool) : FencingInvariant env db where
  one k := leaseIndex.count_le_one (k := k) fun l hl => by
    simp only [Bool.and_eq_true, beq_iff_eq] at hl
    exact (if_pos hl.2).trans (congrArg some hl.1)
  stands l hl hact := by
    obtain ⟨j, hj, hst, hr, hgen, -, t, ht, hhash⟩ := hs.lease l.jobId (holdOf l) (held_mem hl hact)
    obtain ⟨a, ha, hid, rfl⟩ := jobs_some hj
    exact ⟨a, ha, hid, hst, hr, hgen.symm, t, ht, hhash.symm⟩

/-- **Fencing of page jobs.** At every point of every run the invariant holds, no
generation has fallen, a leased claim raises the generation of its job, and what is
newly accepted on a leased job comes from the latest grant of the job. -/
theorem fenced_run (env : Env) (project : Project) (createdAt : Timestamp)
    (es : List Event) (n : ℕ) :
    FencingInvariant env (storeAt env project createdAt es n) ∧
    (∀ m ≤ n, ∀ a ∈ (storeAt env project createdAt es m).pageJobs.rows,
      ∃ b ∈ (storeAt env project createdAt es n).pageJobs.rows,
        b.jobId = a.jobId ∧ a.fencingGeneration ≤ b.fencingGeneration) ∧
    (∀ claim, grantAt env project createdAt es n = some claim →
      ∃ a ∈ (storeAt env project createdAt es n).pageJobs.rows,
      ∃ b ∈ (storeAt env project createdAt es (n + 1)).pageJobs.rows,
        a.jobId = claim.job.jobId ∧ b.jobId = claim.job.jobId ∧
        a.fencingGeneration < b.fencingGeneration ∧
        claim.lease.fencingGeneration = b.fencingGeneration) ∧
    (∀ e, es[n]? = some e → NewlyAccepted env (storeAt env project createdAt es n) e →
      ∀ c, e.op.credential = some c →
      ∀ a ∈ (storeAt env project createdAt es n).pageJobs.rows, a.jobId = c.jobId →
      0 < a.fencingGeneration →
      ∃ m claim, LatestGrant env project createdAt es n c.jobId m claim ∧
        env.hashText c.token = env.hashText claim.leaseToken ∧
        claim.lease.fencingGeneration = a.fencingGeneration ∧
        c.generation.all (· = a.fencingGeneration) = true) := by
  have hs : Sound env.hashText (storeAt env project createdAt es n).pool := sound_run n
  refine ⟨hs.invariant, fun m hmn a ha => ?_, fun claim hclaim => ?_, fun e he hnew c hc a ha hid hpos => ?_⟩
  · obtain ⟨b, hb, hid, -, hgen⟩ := rows_run hmn ha
    exact ⟨b, hb, hid, hgen⟩
  · obtain ⟨e, he, hg⟩ := Option.bind_eq_some_iff.1 hclaim
    obtain ⟨q, -, -, -, h⟩ := granted_spec hs hg
    obtain ⟨⟨j, hj, -, -, -, -, hgen, hjobs⟩, -, -⟩ := h.grant
    obtain ⟨a, ha, hid, rfl⟩ := jobs_some hj
    have hj' : (step env (storeAt env project createdAt es n) e).pool.jobs claim.job.jobId =
        some ((jobOf a).leased claim.leaseToken) := (congrFun hjobs _).trans (update_self ..)
    obtain ⟨b, hb, hbid, hbj⟩ := jobs_some hj'
    have hbgen : b.fencingGeneration = a.fencingGeneration + 1 := congrArg Job.generation hbj
    have hcgen : claim.lease.fencingGeneration = a.fencingGeneration + 1 := hgen
    refine ⟨a, ha, b, ?_, hid, hbid, by omega, by omega⟩
    show b ∈ (dbAt env (Db.create project createdAt) es (n + 1)).pageJobs.rows
    rw [dbAt_succ he]
    exact hb
  · obtain ⟨l, hl, hact, hjob, htoken, hgen⟩ := hnew.current hs hc ha hid hpos
    obtain ⟨m, claim, hlatest, hcgen, -, hhash⟩ := latestGrant hl hact
    have hla : l.fencingGeneration = a.fencingGeneration := hs.generation ha hl hact (hjob.trans hid.symm)
    rw [hjob] at hlatest
    exact ⟨m, claim, hlatest, htoken.symm.trans hhash.symm, hcgen.trans hla, hla ▸ hgen⟩

end OfflineWebArchiver
