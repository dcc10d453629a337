import OfflineWebArchiver.Lifecycle.Queue

/-!
# What leased claims and lease holders do

* `assertLease_spec`: whoever passes `assertLease` presents the job's active lease.
* `Granted`: **a new leased claim is a grant of the pool**, recorded in the ledger.
* `claimNextWithLease_did`, `claimJobWithLease_did`: a claim is a repetition, finds
  no job, or is a grant.
-/

namespace OfflineWebArchiver

open Relational Program Function Relation

variable {env : Env} {s : Call} {T : Job → Job → Prop}

/-- The caller presents the active lease `l` of its job. -/
structure Presents (env : Env) (db : Db) (input : LeaseHolder) (l : JobLeaseRow) : Prop where
  mem : l ∈ db.jobLeases.rows
  active : l.status = .active
  job : l.jobId = input.jobId
  run : l.runId = input.runId
  owner : l.ownerId = input.ownerId
  token : l.leaseTokenHash = env.hashText input.leaseToken
  generation : l.fencingGeneration = input.fencingGeneration

theorem assertLease_spec {input : LeaseHolder} :
    safe (Recovery.assertLease env input) (fun l t => t.db = s.db ∧ Presents env s.db input l) s := by
  unfold Recovery.assertLease Recovery.validateOwnership
  simp only [safe, wp_bind, wp_now, wp_database, wp_require, wp_orThrow, wp_check, wp_pure, implies_true,
    and_true]
  intro _ l hl htoken howner hgen
  refine safe_mono getJobRow_spec fun a t ht => ?_
  obtain ⟨rfl, -, -, -⟩ := ht
  intro _ _ _ _
  obtain ⟨hmem, hjob, hrun, hact⟩ := activeLease_mem hl
  exact ⟨rfl, hmem, hact, hjob, hrun, (beq_iff_eq.1 howner).symm, (beq_iff_eq.1 htoken).symm,
    (beq_iff_eq.1 hgen).symm⟩

/-! ### Calls of a lease holder -/

/-- Columns of a lease that the pool does not see. -/
theorem did_leases_touch {leases : Table jobLeases} {p : JobLeaseRow → Bool}
    {f : JobLeaseRow → JobLeaseRow} (hu : s.db.jobLeases.update p f = some leases)
    (hid : ∀ l, (f l).jobId = l.jobId) (hst : ∀ l, (f l).status = l.status)
    (hf : ∀ l, holdOf (f l) = holdOf l) : Did T s.db.core { s.db.core with jobLeases := leases } := by
  have hpath : Path T s.db.core.pool (poolOf s.db.pageJobs leases) := by
    rw [leases_touch hu hid hst hf]
    exact .refl
  exact Did.of_pool hpath

/-- A lease is closed and its job stays as it is. -/
theorem did_drop {c : Core} {leases : Table jobLeases} {k : String}
    (hl : ∀ jobs, (poolOf jobs leases).held = update (poolOf jobs c.jobLeases).held k none) :
    Did T c { c with jobLeases := leases } := by
  have hpool : poolOf c.pageJobs leases = c.pool.drop k := Pool.ext' rfl (hl _)
  have hpath : Path T c.pool (poolOf c.pageJobs leases) := by
    rw [hpool]
    exact ReflTransGen.single (.dropped k)
  exact Did.of_pool hpath

theorem readLease_spec {leaseId : String} : safe (Recovery.readLease leaseId) (fun _ t => t = s) s := by
  simp [Recovery.readLease]

theorem heartbeatLease_did {input : LeaseHolder} :
    safe (Recovery.heartbeatLease env input)
      (fun _ t => Did Work s.db.core t.db.core ∧ ∃ l, Presents env s.db input l) s := by
  unfold Recovery.heartbeatLease Recovery.recoveryTransaction transaction
  rw [safe, wp_mapError]
  refine safe_bind assertLease_spec fun l t ht => ?_
  obtain ⟨hdb, hl⟩ := ht
  simp only [safe, wp_bind, wp_now, wp_updateLeases, implies_true, and_true]
  intro leases hleases
  refine safe_mono readLease_spec fun _ t' ht' => ?_
  rw [ht']
  rw [hdb] at hleases ⊢
  exact ⟨did_leases_touch hleases (fun _ => rfl) (fun _ => rfl) fun _ => rfl, l, hl⟩

theorem renewLease_did {input : RenewLeaseInput} :
    safe (Recovery.renewLease env input)
      (fun _ t => Did Work s.db.core t.db.core ∧ ∃ l, Presents env s.db input.toLeaseHolder l) s := by
  unfold Recovery.renewLease Recovery.recoveryTransaction transaction
  simp only [safe, wp_bind, wp_check, wp_mapError, implies_true, and_true]
  intro _ _
  refine safe_mono assertLease_spec fun l t ht => ?_
  obtain ⟨hdb, hl⟩ := ht
  simp only [wp_now, wp_updateLeases, implies_true, and_true]
  intro _ _ leases hleases
  refine safe_mono readLease_spec fun _ t' ht' => ?_
  rw [ht']
  rw [hdb] at hleases ⊢
  exact ⟨did_leases_touch hleases (fun _ => rfl) (fun _ => rfl) fun _ => rfl, l, hl⟩

theorem releaseLease_did {input : ReleaseLeaseInput} :
    safe (Recovery.releaseLease env input)
      (fun _ t => Did Work s.db.core t.db.core ∧ ∃ l, Presents env s.db input.toLeaseHolder l) s := by
  unfold Recovery.releaseLease Recovery.recoveryTransaction transaction
  rw [safe, wp_mapError]
  refine safe_bind assertLease_spec fun l t ht => ?_
  obtain ⟨hdb, hl⟩ := ht
  simp only [safe, wp_bind, wp_now]
  refine safe_mono (closeLease_spec (hdb ▸ hl.mem) hl.active (by decide)) fun _ t' ht' => ?_
  obtain ⟨leases, hcore, hheld⟩ := ht'
  refine safe_mono readLease_spec fun _ t'' ht'' => ?_
  rw [ht'', hcore]
  simp only [hdb] at hheld ⊢
  exact ⟨did_drop hheld, l, hl⟩

theorem saveJobCheckpoint_did {input : SaveJobCheckpointInput} :
    safe (Recovery.saveJobCheckpoint env input)
      (fun _ t => Did Work s.db.core t.db.core ∧ ∃ l, Presents env s.db input.toLeaseHolder l) s := by
  unfold Recovery.saveJobCheckpoint Recovery.recoveryTransaction transaction
  rw [safe, wp_mapError]
  refine safe_bind assertLease_spec fun l t ht => ?_
  obtain ⟨hdb, hl⟩ := ht
  simp only [safe, wp_bind, wp_now]
  refine safe_mono getJobRow_spec fun a t' ht' => ?_
  obtain ⟨rfl, -, -, -⟩ := ht'
  simp only [wp_check, wp_database, wp_freshId, wp_insertCheckpoint, wp_pure, implies_true, and_true]
  intro _ _ _ _ _ _ checkpoints _
  rw [hdb]
  exact ⟨Did.refl, l, hl⟩

/-! ### Claims with a lease -/

/-- The hold that a claim hands out. -/
def LeaseClaim.hold (env : Env) (claim : LeaseClaim) : Hold where
  run := claim.lease.runId
  owner := claim.lease.ownerId
  hash := env.hashText claim.leaseToken
  generation := claim.lease.fencingGeneration

/-- The request of a leased claim: its input, the type and hash under which the ledger
keeps it, and the job that it names. -/
structure ClaimRequest where
  input : ClaimNextWithLeaseInput
  operationType : OperationType
  requestHash : String
  jobId : Option String

/-- The checks that a claim passes before it looks at the queue. -/
structure ClaimRequest.Admitted (q : ClaimRequest) (project : Project) : Prop where
  duration : ∃ d, validateLeaseDuration q.input.leaseDurationMs = .ok d
  projectId : q.input.projectId = project.projectId
  run : project.runs.contains q.input.runId = true

/-- What a new claim has done. -/
structure Granted (env : Env) (q : ClaimRequest) (claim : LeaseClaim) (c c' : Core) : Prop where
  admitted : q.Admitted c.project
  grant : Grant env.hashText c.pool claim.job.jobId claim.leaseToken (claim.hold env) c'.pool
  run : claim.lease.runId = q.input.runId
  owner : claim.lease.ownerId = q.input.ownerId
  job : ∃ a ∈ c.pageJobs.rows, a.jobId = claim.job.jobId ∧ a.runId = q.input.runId
  named : ∀ k, q.jobId = some k → claim.job.jobId = k
  project : c'.project = c.project
  runControl : c'.runControl = c.runControl
  outputs : c'.completedOutputs = c.completedOutputs
  results : c'.renderResults = c.renderResults
  ledger : ∃ o, c'.queueOperations.rows = c.queueOperations.rows ++ [o] ∧
    o.operationType = q.operationType ∧ o.idempotencyKey = q.input.idempotencyKey ∧
    o.requestHash = q.requestHash ∧ o.result = .claimed (some claim.job.jobId)

/-- The row that the update of a claim changes. -/
theorem jobs_claim {jobs jobs' : Table pageJobs} {a : PageJobRow} {f : PageJobRow → PageJobRow}
    {leases : Table jobLeases} (ha : a ∈ jobs.rows) (hs : a.state = .pending) (hr : a.recoveryState = none)
    (hu : jobs.update (fun b => b.jobId == a.jobId && b.state == .pending && b.recoveryState == none &&
      b.fencingGeneration == a.fencingGeneration) f = some jobs') (hid : (f a).jobId = a.jobId) :
    (poolOf jobs' leases).jobs =
      update (poolOf jobs leases).jobs a.jobId (some (jobOf (f a))) := by
  refine jobs_update hu ha (by simp [hs, hr]) (fun b hb => ?_) hid
  simp only [Bool.and_eq_true, beq_iff_eq] at hb
  exact hb.1.1.1

theorem grantLease_spec {q : ClaimRequest} {kind : Recovery.ClaimKind} {timestamp : Timestamp}
    {a : PageJobRow} (hq : q.Admitted s.db.project) (hkind : kind.operationType = q.operationType)
    (hnamed : ∀ k, q.jobId = some k → a.jobId = k) (ha : a ∈ s.db.pageJobs.rows)
    (hs : a.state = .pending) (hr : a.recoveryState = none) (hrun : a.runId = q.input.runId) :
    safe (Recovery.grantLease env kind q.input q.requestHash timestamp (rowToJob a))
      (fun claim t => Granted env q claim s.db.core t.db.core) s := by
  unfold Recovery.grantLease Recovery.recordClaim
  simp only [safe, wp_bind, wp_require, wp_freshId, wp_check, wp_updateJobs, wp_insertAttempt,
    wp_insertLease, wp_insertTransition, wp_insertOperation, wp_database, wp_orThrow, implies_true,
    and_true]
  intro hlt expiresAt _ jobs hjobs _ attempts _ leases hleases transitions _ ops hops lease hlease
  refine safe_mono getJobRow_spec fun b t ht => ?_
  obtain ⟨rfl, -, hb, -⟩ := ht
  rw [wp_pure]
  obtain ⟨hmem, hjob, -, hact⟩ := activeLease_mem hlease
  -- the lease that is read back is the one just inserted
  have hnew := Table.insert_rows hleases
  obtain rfl := lease_eq hmem (by rw [hnew]; exact List.mem_append_right _ (List.mem_singleton_self _))
    hact rfl hjob
  have hjobs' : (poolOf jobs s.db.jobLeases).jobs = update (poolOf s.db.pageJobs s.db.jobLeases).jobs a.jobId _ :=
    jobs_claim ha hs hr hjobs rfl
  have hheld : (poolOf s.db.pageJobs leases).held = update (poolOf s.db.pageJobs s.db.jobLeases).held a.jobId _ :=
    (leases_insert hleases rfl).2
  refine ⟨hq, ⟨⟨jobOf a, ?_, hs, hr, of_decide_eq_true hlt, hrun.symm, rfl, ?_⟩, ?_, rfl⟩, rfl, rfl,
    ⟨a, ha, hb.symm, hrun⟩, fun k hk => hb.trans (hnamed k hk), rfl, rfl, rfl, rfl,
    ⟨_, Table.insert_rows hops, hkind, rfl, rfl, congrArg (fun k => StoredResult.claimed (some k)) hb.symm⟩⟩
  · show (poolOf s.db.pageJobs s.db.jobLeases).jobs b.jobId = _
    rw [hb]; exact jobs_mem ha
  · show (poolOf jobs s.db.jobLeases).jobs = update _ b.jobId _
    rw [hb]; exact hjobs'
  · show (poolOf s.db.pageJobs leases).held = update _ b.jobId _
    rw [hb]; exact hheld

theorem runState_spec {projectId runId : String} :
    safe (Recovery.runState projectId runId)
      (fun c t => t = s ∧ s.db.control runId = some (controlOf c)) s := by
  simp only [Recovery.runState, safe, wp_bind, wp_database, wp_orThrow, implies_true, and_true, true_and]
  intro c hc
  split at hc
  · obtain ⟨hmem, hrun⟩ := Table.find_mem hc
    rw [← beq_iff_eq.1 hrun]
    exact controls_mem hmem
  · cases hc

theorem assertRunActive_spec {projectId runId : String} :
    safe (Recovery.assertRunActive projectId runId)
      (fun _ t => t = s ∧ ∃ rs, s.db.control runId = some ⟨.active, rs⟩) s := by
  unfold Recovery.assertRunActive
  refine safe_bind runState_spec fun c t ht => ?_
  obtain ⟨rfl, hc⟩ := ht
  simp only [safe, wp_require, implies_true, and_true]
  intro hact
  exact ⟨trivial, c.runState, by rw [hc, controlOf, beq_iff_eq.1 hact]⟩

theorem validateOwnership_spec {projectId runId : String} :
    safe (Recovery.validateOwnership projectId runId)
      (fun _ t => t = s ∧ projectId = s.db.project.projectId ∧
        s.db.project.runs.contains runId = true) s := by
  simp only [Recovery.validateOwnership, safe, wp_bind, wp_database, wp_require, implies_true, and_true,
    true_and, Bool.and_eq_true, beq_iff_eq]
  exact fun h => h

/-! ### The checks that a call passes first -/

theorem validateOwnership_wp {projectId runId : String} {Q : Unit → Call → Prop} {R : Thrown → Prop}
    (hp : projectId = s.db.project.projectId) (hr : s.db.project.runs.contains runId = true)
    (h : Q () s) : wp (Recovery.validateOwnership projectId runId) Q R s := by
  unfold Recovery.validateOwnership
  rw [wp_bind, wp_database, wp_require, hr]
  simp [hp, h]

theorem assertRunActive_wp {projectId runId : String} {Q : Unit → Call → Prop} {R : Thrown → Prop}
    (hp : projectId = s.db.project.projectId)
    (h : (∃ rs, s.db.control runId = some ⟨.active, rs⟩) → Q () s)
    (hn : (∀ rs, s.db.control runId ≠ some ⟨.active, rs⟩) → ∀ e, R e) :
    wp (Recovery.assertRunActive projectId runId) Q R s := by
  unfold Recovery.assertRunActive Recovery.runState
  rw [wp_bind, wp_bind, wp_database, wp_orThrow, if_pos hp]
  constructor
  · intro c hc
    obtain ⟨hmem, hrun⟩ := Table.find_mem hc
    have hcontrol : s.db.control runId = some (controlOf c) := by
      rw [← beq_iff_eq.1 hrun]; exact controls_mem hmem
    rw [wp_require]
    constructor
    · intro hact
      exact h ⟨c.runState, by rw [hcontrol, controlOf, beq_iff_eq.1 hact]⟩
    · intro hact
      refine hn (fun rs hrs => ?_) _
      rw [hcontrol] at hrs
      have : c.controlState = .active := congrArg Control.control (Option.some.inj hrs)
      rw [this] at hact; cases hact
  · intro hnone
    refine hn (fun rs hrs => ?_) _
    obtain ⟨c, hc, hrun, -⟩ := controls_some hrs
    simpa [hrun] using Table.find_none hnone c hc

theorem getJobRow_wp {projectId : String} {a : PageJobRow} {Q : PageJobRow → Call → Prop}
    {R : Thrown → Prop} (hp : projectId = s.db.project.projectId) (ha : a ∈ s.db.pageJobs.rows)
    (h : Q a s) : wp (getJobRow projectId a.runId a.jobId) Q R s := by
  unfold getJobRow
  rw [wp_bind, wp_database, wp_orThrow, if_pos hp]
  constructor
  · intro b hb
    obtain ⟨hmem, hab⟩ := Table.find_mem hb
    simp only [Bool.and_eq_true, beq_iff_eq] at hab
    rw [job_eq hmem ha hab.2]
    exact h
  · intro hnone
    simpa using Table.find_none hnone a ha

/-- A repeated claim returns the lease that the job has now. -/
theorem replayLease_spec {projectId runId jobId message : String} :
    safe (Recovery.replayLease env projectId runId jobId message) (fun _ t => t = s) s := by
  unfold Recovery.replayLease
  simp only [safe, wp_bind, wp_database]
  refine safe_mono getJobRow_spec fun a t ht => ?_
  obtain ⟨rfl, -, -, -⟩ := ht
  split
  · simp
  · simp

/-- A ledger row of a claim. -/
theorem recordClaim_spec {input : ClaimNextWithLeaseInput} {operationType : OperationType}
    {requestHash : String} {jobId : Option String} {createdAt : Timestamp} :
    safe (Recovery.recordClaim input operationType requestHash jobId createdAt)
      (fun _ t => Did T s.db.core t.db.core) s := by
  simp only [Recovery.recordClaim, safe, wp_bind, wp_freshId, wp_insertOperation, implies_true, and_true]
  intro ops hops
  exact Did.refl.record (by rw [Table.insert_rows hops]; exact List.prefix_append _ _)

/-- What a claim that is not a repetition has done: it found no job, or it is a grant
under an active run. -/
def NewClaim (env : Env) (q : ClaimRequest) (s : Call) (claim : Option LeaseClaim) (t : Call) : Prop :=
  match claim with
  | none => Did Work s.db.core t.db.core
  | some claim => (∃ rs, s.db.control q.input.runId = some ⟨.active, rs⟩) ∧
      Granted env q claim s.db.core t.db.core

/-- What a claim has done. -/
structure Claimed (env : Env) (q : ClaimRequest) (s : Call) (claim : Option LeaseClaim) (t : Call) :
    Prop where
  repeated : recorded s.db q.operationType q.input.idempotencyKey = true → t = s
  new : recorded s.db q.operationType q.input.idempotencyKey = false → NewClaim env q s claim t

theorem Claimed.of_recorded {q : ClaimRequest} {claim : Option LeaseClaim} {t : Call}
    (h : recorded s.db q.operationType q.input.idempotencyKey = true) (ht : t = s) :
    Claimed env q s claim t :=
  ⟨fun _ => ht, fun hn => absurd (h.symm.trans hn) (by decide)⟩

theorem Claimed.of_new {q : ClaimRequest} {claim : Option LeaseClaim} {t : Call}
    (h : recorded s.db q.operationType q.input.idempotencyKey = false) (hc : NewClaim env q s claim t) :
    Claimed env q s claim t :=
  ⟨fun hn => absurd (h.symm.trans hn) (by decide), fun _ => hc⟩

/-- The request of `claimNextWithLease`. -/
def nextRequest (env : Env) (input : ClaimNextWithLeaseInput) : ClaimRequest where
  input := input
  operationType := .claimNextWithLease
  requestHash := env.hash (Recovery.claimNextRequest input)
  jobId := none

/-- The request of `claimJobWithLease`. -/
def jobRequest (env : Env) (input : ClaimJobWithLeaseInput) : ClaimRequest where
  input := input.toClaimNextWithLeaseInput
  operationType := .claimJobWithLease
  requestHash := env.hash (Recovery.claimJobRequest input)
  jobId := some input.jobId

theorem claimNextWithLease_did {input : ClaimNextWithLeaseInput} :
    safe (Recovery.claimNextWithLease env input) (Claimed env (nextRequest env input) s) s := by
  unfold Recovery.claimNextWithLease Recovery.recoveryTransaction transaction
  simp only [safe, wp_bind, wp_check, wp_mapError, implies_true, and_true]
  intro duration hduration
  refine safe_mono validateOwnership_spec fun _ t ht => ?_
  obtain ⟨rfl, hproject, hrun⟩ := ht
  have hq : (nextRequest env input).Admitted t.db.project := ⟨⟨duration, hduration⟩, hproject, hrun⟩
  refine safe_mono assertRunActive_spec fun _ t' ht' => ?_
  obtain ⟨rfl, hact⟩ := ht'
  rw [wp_database]
  split
  · rename_i existing hex
    have hrec : recorded t'.db .claimNextWithLease input.idempotencyKey = true := by
      unfold recorded; rw [hex]; rfl
    simp only [wp_bind, wp_require, implies_true, and_true]
    intro _
    split
    · exact .of_recorded hrec rfl
    · rw [wp_bind]
      exact safe_mono replayLease_spec fun _ _ h => .of_recorded hrec h
    · trivial
  · rename_i hnone
    have hrec : recorded t'.db .claimNextWithLease input.idempotencyKey = false := by
      unfold recorded; rw [hnone]; rfl
    simp only [wp_bind, wp_now]
    split
    · rw [wp_bind]
      exact safe_mono recordClaim_spec fun _ _ h => .of_new hrec h
    · rename_i row hrow
      obtain ⟨hmem, hp⟩ := head_select hrow
      simp only [Bool.and_eq_true, beq_iff_eq, decide_eq_true_eq] at hp
      rw [wp_bind]
      exact safe_mono (grantLease_spec (q := nextRequest env input) hq rfl (fun _ h => by cases h) hmem
        hp.1.1.2 hp.1.2 hp.1.1.1) fun _ _ h => .of_new hrec ⟨hact, h⟩

theorem claimJobWithLease_did {input : ClaimJobWithLeaseInput} :
    safe (Recovery.claimJobWithLease env input)
      (fun claim => Claimed env (jobRequest env input) s (some claim)) s := by
  unfold Recovery.claimJobWithLease Recovery.recoveryTransaction transaction
  simp only [safe, wp_bind, wp_check, wp_mapError, implies_true, and_true]
  intro duration hduration
  refine safe_mono validateOwnership_spec fun _ t ht => ?_
  obtain ⟨rfl, hproject, hrun⟩ := ht
  have hq : (jobRequest env input).Admitted t.db.project := ⟨⟨duration, hduration⟩, hproject, hrun⟩
  refine safe_mono assertRunActive_spec fun _ t' ht' => ?_
  obtain ⟨rfl, hact⟩ := ht'
  rw [wp_database]
  split
  · rename_i existing hex
    have hrec : recorded t'.db .claimJobWithLease input.idempotencyKey = true := by
      unfold recorded; rw [hex]; rfl
    simp only [wp_bind, wp_require, implies_true, and_true]
    intro _
    split
    · simp only [wp_bind, wp_require, implies_true, and_true]
      exact fun _ => safe_mono replayLease_spec fun _ _ h => .of_recorded hrec h
    · trivial
  · rename_i hnone
    have hrec : recorded t'.db .claimJobWithLease input.idempotencyKey = false := by
      unfold recorded; rw [hnone]; rfl
    simp only [wp_bind, wp_now]
    refine safe_mono getJobRow_spec fun row t ht => ?_
    obtain ⟨rfl, hmem, hid, hrun⟩ := ht
    simp only [wp_require, implies_true, and_true, Bool.and_eq_true, beq_iff_eq]
    intro hp
    exact safe_mono (grantLease_spec (q := jobRequest env input) hq rfl
      (fun k hk => hid.trans (Option.some.inj hk)) hmem hp.1.1 hp.1.2 hrun)
      fun _ _ h => .of_new hrec ⟨hact, h⟩

end OfflineWebArchiver

/-!
## What the render calls do

* `Committed`: **a new render commit ends a job under its active lease** and records
  its files.
* `recordRenderFailure_did`: a failed render ends its job or lets it wait.
-/

namespace OfflineWebArchiver

open Relational Program Function Relation

variable {env : Env} {s : Call} {T : Job → Job → Prop}

/-- What `assertOwnership` returns is what the database holds. -/
structure Owns (env : Env) (db : Db) (input : LeaseHolder) (o : Render.Ownership) : Prop where
  job : o.job ∈ db.pageJobs.rows
  jobId : o.job.jobId = input.jobId
  runId : o.job.runId = input.runId
  state : o.job.state = .processing
  recovery : o.job.recoveryState = none
  generation : o.job.fencingGeneration = input.fencingGeneration
  presents : Presents env db input o.lease

theorem assertOwnership_spec {input : LeaseHolder} :
    safe (Render.assertOwnership env input)
      (fun o t => t.db = s.db ∧ Owns env s.db input o) s := by
  unfold Render.assertOwnership
  simp only [safe, wp_bind, wp_database, wp_orThrow, wp_require, wp_now, wp_pure, implies_true, and_true,
    true_and]
  intro a ha hstate hgen l hl howner hlgen htoken _ attempt _
  split at ha
  · obtain ⟨hmem, hp⟩ := Table.find_mem ha
    simp only [Bool.and_eq_true, beq_iff_eq] at hp hstate
    obtain ⟨hlmem, hjob, hrun, hact⟩ := activeLease_mem hl
    exact ⟨hmem, hp.2, hp.1, hstate.1, hstate.2, beq_iff_eq.1 hgen, hlmem, hact, hjob, hrun,
      beq_iff_eq.1 howner, (beq_iff_eq.1 htoken).symm, beq_iff_eq.1 hlgen⟩
  · cases ha

theorem insertEvent_spec {safeMetadata : Json} :
    safe (Render.insertEvent safeMetadata) (fun _ t => t.db = s.db) s := by
  simp [Render.insertEvent]

/-- A `completed_outputs` row of a file with these bytes. -/
def Records (env : Env) (jobId relativePath : String) (bytes : List UInt8)
    (o : CompletedOutputRow) : Prop :=
  o.jobId = jobId ∧ o.relativePath = relativePath ∧ o.sha256 = env.sha256 bytes

/-- The files of a commit. -/
def commitFiles (input : CommitRenderResultInput) : List (String × List UInt8) :=
  (Render.htmlRelativePath input.jobId, utf8 input.html.toList) ::
    input.screenshot.toList.map fun bytes => (Render.screenshotRelativePath input.jobId, bytes)

theorem insertArtifact_spec {jobId relativePath : String} {bytes : List UInt8} :
    safe (Render.insertArtifact jobId (Render.artifactOf env relativePath bytes))
      (fun _ t => ∃ outputs o, t.db = { s.db with completedOutputs := outputs } ∧
        outputs.rows = s.db.completedOutputs.rows ++ [o] ∧ Records env jobId relativePath bytes o) s := by
  simp only [Render.insertArtifact, safe, wp_bind, wp_freshId, wp_insertOutput, implies_true, and_true]
  intro outputs hu
  exact ⟨outputs, _, rfl, Table.insert_rows hu, rfl, rfl, rfl⟩

/-- What a new commit has done. -/
structure Committed (env : Env) (input : CommitRenderResultInput) (db db' : Db) : Prop where
  presents : ∃ l, Presents env db input.toLeaseHolder l
  did : Did Work { db.core with completedOutputs := db'.completedOutputs
                                renderResults := db'.renderResults } db'.core
  completed : ∃ a ∈ db'.pageJobs.rows, a.jobId = input.jobId ∧ a.state = .completed
  outputs : ∃ new, db'.completedOutputs.rows = db.completedOutputs.rows ++ new ∧
    List.Forall₂ (fun f o => Records env input.jobId f.1 f.2 o) (commitFiles input) new
  results : ∃ r, db'.renderResults.rows = db.renderResults.rows ++ [r] ∧
    r.operationId = input.operationId

theorem insertScreenshot_spec {input : CommitRenderResultInput} :
    safe (Render.insertScreenshot input.jobId (Render.screenshotArtifact env input))
      (fun _ t => ∃ outputs new, t.db = { s.db with completedOutputs := outputs } ∧
        outputs.rows = s.db.completedOutputs.rows ++ new ∧
        List.Forall₂ (fun f o => Records env input.jobId f.1 f.2 o)
          (input.screenshot.toList.map fun bytes =>
            (Render.screenshotRelativePath input.jobId, bytes)) new) s := by
  unfold Render.insertScreenshot Render.screenshotArtifact
  cases input.screenshot with
  | none => exact ⟨s.db.completedOutputs, [], rfl, by simp, .nil⟩
  | some bytes =>
    refine safe_mono insertArtifact_spec fun _ t ht => ?_
    obtain ⟨outputs, o, hdb, hrows, ho⟩ := ht
    exact ⟨outputs, [o], hdb, hrows, .cons ho .nil⟩

/-- The commit of an owner. -/
theorem commitOwned_spec {input : CommitRenderResultInput} :
    safe (Render.commitOwned env input) (fun _ t => Committed env input s.db t.db) s := by
  unfold Render.commitOwned
  refine safe_bind assertOwnership_spec fun o t ht => ?_
  obtain ⟨hdb, ho⟩ := ht
  simp only [safe, wp_bind, wp_freshId, wp_now, wp_check, wp_insertRenderResult, implies_true, and_true]
  intro _ _ results hresults
  refine safe_mono insertArtifact_spec fun _ t₁ h₁ => ?_
  obtain ⟨outputs₁, o₁, hdb₁, hrows₁, ho₁⟩ := h₁
  refine safe_mono insertScreenshot_spec fun _ t₂ h₂ => ?_
  obtain ⟨outputs₂, new, hdb₂, hrows₂, hnew⟩ := h₂
  simp only [wp_updateJobs, wp_updateAttempts, wp_insertTransition, implies_true, and_true]
  intro jobs hu attempts _ transitions _
  have hcore₂ : t₂.db.core = { s.db.core with completedOutputs := outputs₂, renderResults := results } := by
    rw [hdb₂, hdb₁, ← hdb]; rfl
  have hjobs₂ : t₂.db.pageJobs = s.db.pageJobs := congrArg Core.pageJobs hcore₂
  have hleases₂ : t₂.db.jobLeases = s.db.jobLeases := congrArg Core.jobLeases hcore₂
  rw [hjobs₂] at hu
  refine safe_mono (closeLease_spec (hleases₂ ▸ ho.presents.mem) ho.presents.active (by decide))
    fun _ t₃ h₃ => ?_
  obtain ⟨leases, hcore₃, hheld⟩ := h₃
  refine safe_mono insertEvent_spec fun _ t₄ h₄ => ?_
  rw [wp_pure, h₄]
  have hheld' : ∀ jobs, (poolOf jobs leases).held =
      update (poolOf jobs s.db.jobLeases).held o.job.jobId none := by
    rw [ho.jobId, ← ho.presents.job, ← hleases₂]; exact hheld
  have hpos : (o.job.jobId == input.jobId && o.job.state == .processing &&
      o.job.fencingGeneration == input.fencingGeneration) = true := by
    simp [ho.jobId, ho.state, ho.generation]
  have hcore : t₃.db.core = { s.db.core with pageJobs := jobs, jobLeases := leases,
                                             completedOutputs := outputs₂, renderResults := results } := by
    rw [hcore₃]
    show ({ t₂.db.core with pageJobs := jobs, jobLeases := leases } : Core) = _
    rw [hcore₂]
  have houtputs : t₃.db.completedOutputs = outputs₂ := congrArg Core.completedOutputs hcore
  have hresults₃ : t₃.db.renderResults = results := congrArg Core.renderResults hcore
  have hjobs₃ : t₃.db.pageJobs = jobs := congrArg Core.pageJobs hcore
  refine ⟨⟨o.lease, ho.presents⟩, ?_, ?_, ?_, ?_⟩
  · have hdid := did_turn (T := Work) ho.job hu hpos (fun b hb => by
      simp only [Bool.and_eq_true, beq_iff_eq] at hb; rw [hb.1.1, ho.jobId]) rfl
      (.ended .completed trivial (Or.inr ho.state) ho.recovery) hheld'
    rw [houtputs, hresults₃, hcore]
    exact ⟨hdid.path, rfl, rfl, List.prefix_rfl, rfl, rfl⟩
  · rw [hjobs₃, Table.update_rows hu]
    exact ⟨_, List.mem_map.2 ⟨o.job, ho.job, rewrite_pos hpos⟩, ho.jobId, rfl⟩
  · rw [houtputs]
    refine ⟨[o₁] ++ new, ?_, .cons ho₁ hnew⟩
    rw [hrows₂, show t₁.db.completedOutputs = outputs₁ by rw [hdb₁], hrows₁, List.append_assoc]
    show t.db.completedOutputs.rows ++ _ = _
    rw [hdb]
  · rw [hresults₃, Table.insert_rows hresults]
    show ∃ r, t.db.renderResults.rows ++ _ = _ ∧ _
    rw [hdb]
    exact ⟨_, rfl, rfl⟩

theorem commitTransaction_spec {input : CommitRenderResultInput} :
    safe (Render.commitTransaction env input) (fun _ t =>
      ((Render.replayedResult s.db input).isSome = true ∧ t.db = s.db) ∨
      (Render.replayedResult s.db input = none ∧ Committed env input s.db t.db)) s := by
  unfold Render.commitTransaction Render.renderTransaction transaction
  rw [safe, wp_mapError, wp_bind, wp_database]
  cases hr : Render.replayedResult s.db input with
  | some replay =>
    simp only [wp_bind, wp_require, wp_pure, implies_true, and_true]
    exact fun _ => Or.inl rfl
  | none => exact safe_mono commitOwned_spec fun _ _ h => Or.inr ⟨rfl, h⟩

theorem recordRenderFailure_did {input : RecordRenderFailureInput} :
    safe (Render.recordRenderFailure env input) (fun _ t =>
      (t.db = s.db ∨ Did Work s.db.core t.db.core) ∧ ∃ l, Presents env s.db input.toLeaseHolder l) s := by
  unfold Render.recordRenderFailure Render.renderTransaction transaction
  rw [safe, wp_mapError]
  refine safe_bind assertOwnership_spec fun o t ht => ?_
  obtain ⟨hdb, ho⟩ := ht
  rw [safe, wp_bind, wp_database]
  split
  · exact ⟨Or.inl hdb, o.lease, ho.presents⟩
  · simp only [wp_bind, wp_freshId, wp_insertRenderFailure, wp_updateJobs, wp_updateAttempts,
      wp_insertTransition, implies_true, and_true]
    intro failures _ jobs hu attempts _ transitions _
    rw [hdb] at hu
    refine safe_mono (closeLease_spec (by show o.lease ∈ t.db.jobLeases.rows; rw [hdb]; exact ho.presents.mem)
      ho.presents.active (by decide)) fun _ t₁ h₁ => ?_
    obtain ⟨leases, hcore₁, hheld⟩ := h₁
    refine safe_mono insertEvent_spec fun _ t₂ h₂ => ?_
    rw [wp_pure, h₂]
    have hheld' : ∀ jobs, (poolOf jobs leases).held =
        update (poolOf jobs s.db.jobLeases).held o.job.jobId none := by
      rw [ho.jobId, ← ho.presents.job, ← hdb]; exact hheld
    have hcore : t₁.db.core = { s.db.core with pageJobs := jobs, jobLeases := leases } := by
      rw [hcore₁, ← hdb]; rfl
    rw [hcore]
    refine ⟨Or.inr ?_, o.lease, ho.presents⟩
    refine did_turn ho.job hu (by simp [ho.jobId, ho.state, ho.generation]) (fun b hb => by
      simp only [Bool.and_eq_true, beq_iff_eq] at hb; rw [hb.1.1, ho.jobId]) rfl ?_ hheld'
    -- the job waits for a retry when one is allowed, and ends otherwise
    by_cases hretry : (input.retryable && decide (o.job.attemptCount < o.job.maxAttempts)) = true
    · have hlt : o.job.attemptCount < o.job.maxAttempts := by
        simp only [Bool.and_eq_true, decide_eq_true_eq] at hretry; exact hretry.2
      have hturn : Work (jobOf o.job) { jobOf o.job with state := .retrying, token := none } :=
        .retried ho.state ho.recovery hlt
      simpa [jobOf, hretry] using hturn
    · have hturn : Work (jobOf o.job) { jobOf o.job with state := .failed, token := none } :=
        .ended .failed trivial (Or.inr ho.state) ho.recovery
      simpa [jobOf, hretry] using hturn

end OfflineWebArchiver
