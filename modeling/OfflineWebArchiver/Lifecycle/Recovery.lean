import OfflineWebArchiver.Lifecycle.Lease

/-!
# What recovery, pausing and resuming do

Each call says which jobs it turns and how it leaves the control row of its run.

* `recoverJob_spec`: one job of a batch goes back to the queue, ends, or is set aside.
* `Recovered`: **a recovery batch touches only its own jobs.**
* `Acknowledged`, `PauseRequested`, `Resumed`, `StateSet`: the calls that steer a run.
-/

namespace OfflineWebArchiver

open Relational Program Function Relation

variable {env : Env} {s : Call} {T : Job → Job → Prop}

/-- An update of the control row of one run. -/
theorem control_update {table table' : Table runControl} {r : String}
    {f : RunControlRow → RunControlRow} {v w : Control} (hu : table.update (·.runId == r) f = some table')
    (hv : controlsOf table r = some v) (hid : ∀ c, (f c).runId = c.runId)
    (hf : ∀ c, controlOf c = v → controlOf (f c) = w) :
    controlsOf table' = update (controlsOf table) r (some w) := by
  obtain ⟨c, hc, hr, hcv⟩ := controls_some hv
  rw [controls_update hu hc hr (hid c), hf c hcv]

theorem setControl_spec {r : String} {target : RunControlState} {pausedAt : Option Timestamp}
    {timestamp : Timestamp} {operationId : String} {v : Control} (hv : s.db.control r = some v) :
    safe (Recovery.setControl r target pausedAt timestamp operationId)
      (fun _ t => ∃ table, t.db = { s.db with runControl := table } ∧
        controlsOf table = update s.db.control r (some ⟨target, v.run⟩)) s := by
  simp only [Recovery.setControl, safe, wp_updateControl, implies_true, and_true]
  intro table hu
  exact ⟨table, rfl, control_update hu hv (fun _ => rfl) fun c hc => by rw [← hc]; rfl⟩

theorem saveRunCheckpoint_spec {projectId runId : String} :
    safe (Recovery.saveRunCheckpoint projectId runId) (fun _ t => t.db = s.db) s := by
  unfold Recovery.saveRunCheckpoint
  simp only [safe, wp_bind, wp_freshId]
  refine safe_mono runState_spec fun _ t ht => ?_
  rw [wp_pure, ht.1]

theorem pauseStatus_spec {projectId runId : String} :
    safe (Recovery.pauseStatus projectId runId) (fun _ t => t.db = s.db) s := by
  unfold Recovery.pauseStatus
  rw [safe, wp_bind]
  refine safe_mono runState_spec fun _ t ht => ?_
  rw [wp_bind, wp_database, wp_pure, ht.1]

/-! ### One job of a batch -/

/-- How a batch turns a job of its run: the job is set aside when the run was to pause. -/
def BatchTurn (runId : String) (prior : RunControlState) (j j' : Job) : Prop :=
  j.run = runId ∧ if Recovery.pauseRequested prior then Suspend j j' else Work j j'

theorem BatchTurn.turn {runId : String} {prior : RunControlState} {j j' : Job}
    (h : BatchTurn runId prior j j') : Turn j j' := by
  have h' := h.2
  split at h'
  · exact Or.inr (Or.inl h')
  · exact Or.inl h'

/-- No lease on the job is left. -/
theorem recoverLease_spec {input : RecoverInput} {timestamp : Timestamp} {a : PageJobRow}
    (hs : Sound env.hashText s.db.pool) (hp : input.projectId = s.db.project.projectId)
    (ha : a ∈ s.db.pageJobs.rows) (hr : a.runId = input.runId) :
    safe (Recovery.recoverLease input timestamp a.jobId)
      (fun _ t => ∃ leases, t.db.core = { s.db.core with jobLeases := leases } ∧
        ∀ jobs, (poolOf jobs leases).held =
          update (poolOf jobs s.db.jobLeases).held a.jobId none) s := by
  unfold Recovery.recoverLease
  rw [safe, wp_bind, wp_database]
  cases hl : activeLease s.db input.projectId input.runId a.jobId with
  | some l =>
    obtain ⟨hmem, hjob, -, hact⟩ := activeLease_mem hl
    rw [← hjob]
    exact closeLease_spec hmem hact (by decide)
  | none =>
    -- a lease of the job would be one of its run, and found
    have hnone : ∀ jobs, (poolOf jobs s.db.jobLeases).held a.jobId = none := by
      intro jobs
      refine held_none.2 fun l hmem hact hjob => ?_
      obtain ⟨j, hj, -, -, -, hrun, -⟩ := hs.lease l.jobId (holdOf l) (held_mem hmem hact)
      have hja : s.db.pool.jobs l.jobId = some (jobOf a) := by rw [hjob]; exact jobs_mem ha
      rw [hja] at hj
      obtain rfl := Option.some.inj hj
      have hlr : a.runId = l.runId := hrun
      unfold activeLease at hl
      rw [if_pos hp] at hl
      have := Table.find_none hl l hmem
      simp [hjob, hact, ← hlr, hr] at this
    exact ⟨s.db.jobLeases, rfl, fun jobs => held_update_none (hnone jobs)⟩

/-- What a batch does to one job in work. -/
def BatchStep (runId : String) (prior : RunControlState) (a : PageJobRow) (c c' : Core) : Prop :=
  ∃ jobs leases j', c' = { c with pageJobs := jobs, jobLeases := leases } ∧
    poolOf jobs leases = c.pool.put a.jobId j' ∧ BatchTurn runId prior (jobOf a) j' ∧
    ∀ x ∈ c.pageJobs.rows, x.jobId ≠ a.jobId → x ∈ jobs.rows

theorem requeueOrFail_spec {input : RecoverInput} {timestamp : Timestamp}
    {initial : RecoveryInspectionItem} {a b : PageJobRow} {tally : Recovery.RecoveryTally}
    {jobs : Table pageJobs} {leases : Table jobLeases} {c : Core} {prior : RunControlState}
    (hprior : Recovery.pauseRequested prior = false) (hrun : a.runId = input.runId) (hst : a.state = .processing)
    (hr : a.recoveryState = none) (hb : b ∈ jobs.rows) (hbid : b.jobId = a.jobId)
    (hbj : jobOf b = { jobOf a with recovery := some .interrupted })
    (hpool : poolOf jobs leases = c.pool.put a.jobId (jobOf b))
    (hkeep : ∀ x ∈ c.pageJobs.rows, x.jobId ≠ a.jobId → x ∈ jobs.rows)
    (hcore : s.db.core = { c with pageJobs := jobs, jobLeases := leases }) :
    safe (Recovery.requeueOrFail input timestamp initial (rowToJob a) tally)
      (fun _ t => BatchStep input.runId prior a c t.db.core) s := by
  have hjobs : s.db.pageJobs = jobs := congrArg Core.pageJobs hcore
  have hbst : b.state = .processing := by
    have := congrArg Job.state hbj
    exact this.trans hst
  have hheld : (poolOf jobs leases).held = update (poolOf jobs leases).held b.jobId none :=
    held_update_none (by rw [hpool, hbid]; exact c.pool.put_held_self ..)
  -- the two updates of the row are one turn of the job
  have hput : ∀ {f : PageJobRow → PageJobRow} {jobs' : Table pageJobs},
      jobs.update (fun x => x.jobId == a.jobId && x.state == .processing) f = some jobs' →
      (f b).jobId = b.jobId → BatchTurn input.runId prior (jobOf a) (jobOf (f b)) →
      BatchStep input.runId prior a c { c with pageJobs := jobs', jobLeases := leases } := by
    intro f jobs' hu hid hT
    refine ⟨jobs', leases, jobOf (f b), rfl, ?_, hT, fun x hx hne =>
      Table.mem_update hu (hkeep x hx hne) (by simp [hne])⟩
    have h := pool_put hu hb (by simp [hbid, hbst]) (fun x hx => by
      simp only [Bool.and_eq_true, beq_iff_eq] at hx; rw [hx.1, hbid]) hid hheld
    rw [h, hpool, hbid, Pool.put_put]
  have hback : ∀ target, ({ jobOf b with state := target, recovery := none, token := none } : Job) =
      { jobOf a with state := target, token := none } := by
    intro target
    rw [hbj]
    simp [jobOf, hr]
  have hwork : ∀ {j'}, Work (jobOf a) j' → BatchTurn input.runId prior (jobOf a) j' := by
    intro j' h
    refine ⟨hrun, ?_⟩
    rw [hprior]
    exact h
  have hcore' : ∀ jobs', ({ s.db.core with pageJobs := jobs' } : Core) =
      { c with pageJobs := jobs', jobLeases := leases } := fun jobs' => by rw [hcore]
  unfold Recovery.requeueOrFail
  rw [safe, wp_ite]
  constructor
  · intro hlt
    simp only [wp_bind, wp_updateJobs, implies_true, and_true]
    intro jobs' hu
    rw [hjobs] at hu
    refine safe_mono transition_spec fun _ t ht => ?_
    have ht' : t.db.core = { c with pageJobs := jobs', jobLeases := leases } := ht.trans (hcore' jobs')
    rw [wp_pure, ht']
    have hturn : Work (jobOf a) { jobOf a with state := .pending, token := none } :=
      .requeued hst hr hlt
    rw [← hback] at hturn
    exact hput hu rfl (hwork hturn)
  · intro _
    simp only [wp_bind, wp_updateJobs, implies_true, and_true]
    intro jobs' hu
    rw [hjobs] at hu
    refine safe_mono transition_spec fun _ t ht => ?_
    have ht' : t.db.core = { c with pageJobs := jobs', jobLeases := leases } := ht.trans (hcore' jobs')
    rw [wp_pure, ht']
    have hturn : Work (jobOf a) { jobOf a with state := .failed, token := none } :=
      .ended .failed trivial (Or.inr hst) hr
    rw [← hback] at hturn
    exact hput hu rfl (hwork hturn)

theorem recoverJob_spec {input : RecoverInput} {prior : RunControlState} {timestamp : Timestamp}
    {tally : Recovery.RecoveryTally} {a : PageJobRow} {lease : Option JobLeaseRow}
    (hs : Sound env.hashText s.db.pool) (hp : input.projectId = s.db.project.projectId)
    (ha : a ∈ s.db.pageJobs.rows) (hr : a.runId = input.runId) (hst : a.state = .processing)
    (hnone : a.recoveryState = none) :
    safe (Recovery.recoverJob input prior timestamp tally (a, lease))
      (fun _ t => BatchStep input.runId prior a s.db.core t.db.core) s := by
  have hstate : (rowToJob a).state ≠ .completed := by
    intro h
    have := ((rowToJob_state .completed).1 h).1
    rw [hst] at this; cases this
  unfold Recovery.recoverJob
  simp only [safe, wp_ite, wp_bind]
  refine ⟨fun h => absurd h hstate, fun _ => ?_⟩
  refine safe_mono (recoverLease_spec hs hp ha hr) fun _ t ht => ?_
  obtain ⟨leases, hcore, hheld⟩ := ht
  refine safe_mono finishAttempt_spec fun _ t' ht' => ?_
  have hcore' : t'.db.core = { s.db.core with jobLeases := leases } := ht'.trans hcore
  have hjobs : t'.db.pageJobs = s.db.pageJobs := congrArg Core.pageJobs hcore'
  simp only [wp_updateJobs, implies_true, and_true]
  intro jobs hu
  rw [hjobs] at hu
  have hpool := pool_put hu ha (by simp [rowToJob, hst]) (fun b hb => by
    simp only [Bool.and_eq_true, beq_iff_eq] at hb; exact hb.1) rfl (hheld _)
  have hkeep : ∀ x ∈ s.db.pageJobs.rows, x.jobId ≠ a.jobId → x ∈ jobs.rows := fun x hx hne =>
    Table.mem_update hu hx (by simp [rowToJob, hne])
  refine safe_mono transition_spec fun _ t₁ h₁ => ?_
  have hcore₁ : t₁.db.core = { s.db.core with pageJobs := jobs, jobLeases := leases } := by
    rw [h₁]
    show ({ t'.db.core with pageJobs := jobs } : Core) = _
    rw [hcore']
  cases hpause : Recovery.pauseRequested prior with
  | true =>
    rw [hpause] at hpool
    refine ⟨fun _ => ⟨jobs, leases, _, hcore₁, hpool, ?_, hkeep⟩, fun h => absurd rfl h⟩
    refine ⟨hr, ?_⟩
    rw [if_pos hpause]
    exact ⟨hst, hnone, rfl⟩
  | false =>
    rw [hpause] at hpool
    rw [hpause] at hu
    refine ⟨fun h => absurd h (by decide), fun _ => ?_⟩
    have hrow : { a with recoveryState := some .interrupted, updatedAt := timestamp } ∈ jobs.rows := by
      rw [Table.update_rows hu]
      exact List.mem_map.2 ⟨a, ha, rewrite_pos (by simp [rowToJob, hst])⟩
    exact requeueOrFail_spec hpause hr hst hnone hrow rfl rfl hpool hkeep hcore₁

/-! ### The batch -/

/-- The run is one of the project. -/
def Owned (db : Db) (projectId runId : String) : Prop :=
  projectId = db.project.projectId ∧ db.project.runs.contains runId = true

/-- The recovery operation that a call continues or repeats. -/
def existingRecovery (db : Db) (input : RecoverInput) : Option RecoveryOperationRow :=
  db.recoveryOperations.find fun o => o.runId == input.runId && o.idempotencyKey == input.idempotencyKey

/-- The recovery passes its checks and is not answered from an earlier one. -/
structure RunsBatch (env : Env) (db : Db) (input : RecoverInput) : Prop where
  confirmed : input.confirmation = "APPLY-RECOVERY"
  evaluated : ∃ t, parseUtcField input.evaluationTime "evaluationTime" = .ok t
  limited : validateRecoveryLimit input.limit = .ok ()
  owned : Owned db input.projectId input.runId
  request : ∀ o, existingRecovery db input = some o → o.requestHash = env.hash (Recovery.recoverRequest input)
  unfinished : ∀ o, existingRecovery db input = some o → o.hasMore = true ∨ o.status ≠ .completed

/-- Where the next batch of a recovery begins. -/
def recoveryCursor (db : Db) (input : RecoverInput) : ℕ :=
  ((existingRecovery db input).map (·.cursor)).getD 0

/-- The rows that the next batch of a recovery selects. -/
def recoverySelection (db : Db) (input : RecoverInput) : List (PageJobRow × Option JobLeaseRow) :=
  (Recovery.candidateRows db input.runId input.evaluationTime (recoveryCursor db input)
    input.limit.toNat).take input.limit.toNat

/-- The next batch of a recovery touches the job `k`. -/
def InBatch (db : Db) (input : RecoverInput) (k : String) : Prop :=
  ∃ x ∈ recoverySelection db input, x.1.jobId = k ∧ x.1.state = .processing

theorem candidateRows_congr {db db' : Db} {runId : String} {evaluationTime : Timestamp}
    {afterSequence limit : ℕ} (hj : db'.pageJobs = db.pageJobs) (hl : db'.jobLeases = db.jobLeases)
    (ho : db'.completedOutputs = db.completedOutputs) :
    Recovery.candidateRows db' runId evaluationTime afterSequence limit =
      Recovery.candidateRows db runId evaluationTime afterSequence limit := by
  unfold Recovery.candidateRows Recovery.isCandidate Recovery.joinedLease
  rw [hj, hl, ho]

/-- A candidate is in work and not set aside, or it is completed. -/
theorem candidate_mem {db : Db} {runId : String} {evaluationTime : Timestamp}
    {afterSequence limit : ℕ} {x : PageJobRow × Option JobLeaseRow}
    (hx : x ∈ Recovery.candidateRows db runId evaluationTime afterSequence limit) :
    x.1 ∈ db.pageJobs.rows ∧ x.1.runId = runId ∧
      (x.1.state = .processing ∧ x.1.recoveryState = none ∨ x.1.state = .completed) := by
  obtain ⟨a, ha, rfl⟩ := List.mem_map.1 hx
  obtain ⟨hmem, hp⟩ := Table.mem_select.1 (List.mem_of_mem_take ha)
  simp only [Recovery.isCandidate, Bool.and_eq_true, Bool.or_eq_true, beq_iff_eq,
    decide_eq_true_eq] at hp
  refine ⟨hmem, hp.1.1, ?_⟩
  rcases hp.2 with h | h
  · exact Or.inl h.1
  · exact Or.inr h.1

/-- No job twice among the candidates. -/
theorem candidateRows_pairwise (db : Db) (runId : String) (evaluationTime : Timestamp)
    (afterSequence limit : ℕ) :
    (Recovery.candidateRows db runId evaluationTime afterSequence limit).Pairwise fun x y =>
      x.1.jobId ≠ y.1.jobId := by
  unfold Recovery.candidateRows
  refine List.pairwise_map.2 ?_
  refine List.Pairwise.sublist (List.take_sublist ..) (jobIndex.select_pairwise.imp fun {x y} h => ?_)
  exact fun hxy => h x.jobId rfl (congrArg some hxy.symm)

theorem selection_mem {db : Db} {input : RecoverInput} {x : PageJobRow × Option JobLeaseRow}
    (hx : x ∈ recoverySelection db input) : x.1 ∈ db.pageJobs.rows ∧ x.1.runId = input.runId ∧
      (x.1.state = .processing ∧ x.1.recoveryState = none ∨ x.1.state = .completed) :=
  candidate_mem (List.mem_of_mem_take hx)

/-- No job twice in a selection. -/
theorem selection_pairwise (db : Db) (input : RecoverInput) :
    (recoverySelection db input).Pairwise fun x y => x.1.jobId ≠ y.1.jobId :=
  List.Pairwise.sublist (List.take_sublist ..) (candidateRows_pairwise ..)

theorem openRecovery_spec {input : RecoverInput} {requestHash : String} {timestamp : Timestamp}
    {existing : Option RecoveryOperationRow} :
    safe (Recovery.openRecovery input requestHash timestamp existing)
      (fun o t => t.db.core = s.db.core ∧ o.cursor = (existing.map (·.cursor)).getD 0) s := by
  unfold Recovery.openRecovery
  split <;> simp [Recovery.newRecoveryOperation, Db.core]

theorem closeRecovery_spec {operation : RecoveryOperationRow}
    {selected : List (PageJobRow × Option JobLeaseRow)} {hasMore : Bool}
    {tally : Recovery.RecoveryTally} {timestamp : Timestamp} :
    safe (Recovery.closeRecovery operation selected hasMore tally timestamp)
      (fun _ t => t.db.core = s.db.core) s := by
  simp [Recovery.closeRecovery, Db.core]

/-- What a batch that is not a repetition has done. -/
structure Recovered (input : RecoverInput) (prior : RunControlState) (rs : CrawlRunState)
    (db db' : Db) : Prop where
  control : db.control input.runId = some ⟨prior, rs⟩
  idle : prior ≠ .recovering
  did : Did (BatchTurn input.runId prior) { db.core with runControl := db'.runControl } db'.core
  restored : db'.control = update db.control input.runId
    (some ⟨Recovery.restoredControl prior (activeLeaseCount db' input.runId), rs⟩)
  taken : ∀ k, InBatch db input k → db'.pool.held k = none
  others : ∀ k, ¬InBatch db input k →
    db'.pool.jobs k = db.pool.jobs k ∧ db'.pool.held k = db.pool.held k

/-- **The loop of a batch.** What is done is turned, the rest is untouched. -/
theorem recoverLoop_spec {input : RecoverInput} {prior : RunControlState} {timestamp : Timestamp}
    {tally : Recovery.RecoveryTally} {selected : List (PageJobRow × Option JobLeaseRow)}
    (hs : Sound env.hashText s.db.pool) (hp : input.projectId = s.db.project.projectId)
    (hsel : ∀ x ∈ selected, x.1 ∈ s.db.pageJobs.rows ∧ x.1.runId = input.runId ∧
      (x.1.state = .processing ∧ x.1.recoveryState = none ∨ x.1.state = .completed))
    (hpair : selected.Pairwise fun x y => x.1.jobId ≠ y.1.jobId) :
    safe (selected.foldlM (Recovery.recoverJob input prior timestamp) tally)
      (fun _ t => Did (BatchTurn input.runId prior) s.db.core t.db.core ∧
        (∀ x ∈ selected, x.1.state = .processing → t.db.pool.held x.1.jobId = none) ∧
        ∀ k, (∀ x ∈ selected, x.1.state = .processing → x.1.jobId ≠ k) →
          t.db.pool.jobs k = s.db.pool.jobs k ∧ t.db.pool.held k = s.db.pool.held k) s := by
  refine safe_mono (wp_foldlM_done (I := fun done _ t => Did (BatchTurn input.runId prior) s.db.core t.db.core ∧
    (∀ a ∈ s.db.pageJobs.rows, (∀ x ∈ done, x.1.jobId ≠ a.jobId) → a ∈ t.db.pageJobs.rows) ∧
    (∀ x ∈ done, x.1.state = .processing → t.db.pool.held x.1.jobId = none) ∧
    ∀ k, (∀ x ∈ done, x.1.state = .processing → x.1.jobId ≠ k) →
      t.db.pool.jobs k = s.db.pool.jobs k ∧ t.db.pool.held k = s.db.pool.held k)
    (fun done x rest hl tally t ht => ?_)
    ⟨Did.refl, fun a ha _ => ha, fun x hx => absurd hx List.not_mem_nil, fun k _ => ⟨rfl, rfl⟩⟩)
    fun _ t h => ⟨h.1, h.2.2⟩
  obtain ⟨hdid, hrows, htaken, hframe⟩ := ht
  obtain ⟨hmem, hrun, hstate⟩ := hsel x (by rw [hl]; simp)
  have hfresh : ∀ y ∈ done, y.1.jobId ≠ x.1.jobId := by
    rw [hl] at hpair
    exact fun y hy => (List.pairwise_append.1 hpair).2.2 y hy x (List.mem_cons_self ..)
  rcases hstate with ⟨hst, hnone⟩ | hdone
  · have hst' := hdid.sound (fun _ _ => BatchTurn.turn) hs
    have hp' : input.projectId = t.db.project.projectId := by
      have hproj : t.db.project = s.db.project := hdid.project
      rw [hproj]; exact hp
    refine safe_mono (recoverJob_spec hst' hp' (hrows _ hmem hfresh) hrun hst hnone) fun _ t' ht' => ?_
    obtain ⟨jobs, leases, j', hcore, hpool, hT, hkeep⟩ := ht'
    have hpool' : t'.db.pool = t.db.pool.put x.1.jobId j' := by
      rw [Db.pool_eq, hcore]; exact hpool
    refine ⟨hdid.trans ?_, fun a ha hd => ?_, fun y hy hyst => ?_, fun k hk => ?_⟩
    · rw [hcore]
      refine Did.of_pool ?_
      rw [hpool]
      exact ReflTransGen.single (.turned _ _ _ (jobs_mem (hrows _ hmem hfresh)) hT)
    · have hjobs : t'.db.pageJobs = jobs := congrArg Core.pageJobs hcore
      rw [hjobs]
      refine hkeep a (hrows a ha fun y hy => hd y (List.mem_append_left _ hy)) fun hax => ?_
      exact hd x (by simp) hax.symm
    · rw [hpool']
      rcases List.mem_append.1 hy with hy | hy
      · rw [Pool.put_held_ne _ _ (hfresh y hy)]
        exact htaken y hy hyst
      · rw [List.mem_singleton.1 hy]
        exact Pool.put_held_self ..
    · have hkx : k ≠ x.1.jobId := fun hkx => hk x (by simp) hst hkx.symm
      have hold := hframe k fun y hy => hk y (List.mem_append_left _ hy)
      rw [hpool', Pool.put_jobs_ne _ _ hkx, Pool.put_held_ne _ _ hkx]
      exact hold
  · -- a completed job is only reported
    have hnone := hs.recovery_none hmem (by rw [hdone]; decide)
    have hcomplete : (rowToJob x.1).state = .completed := (rowToJob_state .completed).2 ⟨hdone, hnone⟩
    unfold Recovery.recoverJob
    rw [wp_ite]
    refine ⟨fun _ => ⟨hdid, fun a ha hd => ?_, fun y hy hyst => ?_, fun k hk => ?_⟩,
      fun h => absurd hcomplete h⟩
    · exact hrows a ha fun y hy => hd y (List.mem_append_left _ hy)
    · rcases List.mem_append.1 hy with hy | hy
      · exact htaken y hy hyst
      · rw [List.mem_singleton.1 hy, hdone] at hyst; cases hyst
    · exact hframe k fun y hy => hk y (List.mem_append_left _ hy)

theorem recoverBatch_spec {input : RecoverInput} {requestHash : String}
    {existing : Option RecoveryOperationRow} (hs : Sound env.hashText s.db.pool)
    (hp : input.projectId = s.db.project.projectId)
    (hex : existing = existingRecovery s.db input) :
    safe (Recovery.recoverBatch input requestHash existing)
      (fun _ t => ∃ prior rs, Recovered input prior rs s.db t.db) s := by
  unfold Recovery.recoverBatch
  rw [safe, wp_bind, wp_now, wp_bind]
  refine safe_mono openRecovery_spec fun operation t₁ h₁ => ?_
  obtain ⟨hcore₁, hcursor⟩ := h₁
  rw [wp_bind]
  refine safe_mono runState_spec fun control t₂ h₂ => ?_
  obtain ⟨rfl, hcontrol⟩ := h₂
  have hcontrol₂ : t₂.db.control = s.db.control := congrArg Core.control hcore₁
  rw [wp_bind, wp_require]
  refine ⟨fun hidle => ?_, fun _ => trivial⟩
  rw [wp_bind]
  refine safe_mono (setControl_spec hcontrol) fun _ t₃ h₃ => ?_
  obtain ⟨table, hdb₃, htable⟩ := h₃
  rw [wp_bind, wp_database, wp_bind]
  have hcore₃ : t₃.db.core = { s.db.core with runControl := table } := by
    rw [hdb₃]
    show ({ t₂.db.core with runControl := table } : Core) = _
    rw [hcore₁]
  have hpool₃ : t₃.db.pool = s.db.pool := by
    rw [Db.pool_eq, hcore₃]; rfl
  -- what the batch selects is what the database before the call says
  have hsel : (Recovery.candidateRows t₃.db input.runId input.evaluationTime operation.cursor
      input.limit.toNat).take input.limit.toNat = recoverySelection s.db input := by
    unfold recoverySelection recoveryCursor
    rw [candidateRows_congr (congrArg Core.pageJobs hcore₃) (congrArg Core.jobLeases hcore₃)
      (congrArg Core.completedOutputs hcore₃), hcursor, hex]
  rw [hsel]
  refine safe_mono (recoverLoop_spec (hpool₃ ▸ hs : Sound env.hashText t₃.db.pool) ?_ (fun x hx => ?_)
    (selection_pairwise s.db input)) fun tally t₄ h₄ => ?_
  · have hproj : t₃.db.project = s.db.project := congrArg Core.project hcore₃
    rw [hproj]; exact hp
  · have hjobs : t₃.db.pageJobs = s.db.pageJobs := congrArg Core.pageJobs hcore₃
    rw [hjobs]
    exact selection_mem hx
  obtain ⟨hdid, htaken, hframe⟩ := h₄
  rw [wp_bind, wp_database, wp_bind]
  have hcontrols₄ : t₄.db.control = update s.db.control input.runId
      (some ⟨.recovering, control.runState⟩) := by
    have h1 : t₄.db.runControl = t₃.db.runControl := hdid.runControl
    have h2 : t₃.db.runControl = table := congrArg Core.runControl hcore₃
    show controlsOf t₄.db.runControl = _
    rw [h1, h2, htable, hcontrol₂]
    rfl
  have hv₄ : t₄.db.control input.runId = some ⟨.recovering, control.runState⟩ := by
    rw [hcontrols₄, update_self]
  refine safe_mono (setControl_spec hv₄) fun _ t₅ h₅ => ?_
  obtain ⟨table', hdb₅, htable'⟩ := h₅
  rw [wp_bind]
  refine safe_mono closeRecovery_spec fun _ t₆ h₆ => ?_
  rw [wp_bind]
  refine safe_mono saveRunCheckpoint_spec fun _ t₇ h₇ => ?_
  rw [wp_bind, wp_database, wp_orThrow]
  refine ⟨fun _ _ => ⟨control.controlState, control.runState, ?_⟩, fun _ => trivial⟩
  have hcore₇ : t₇.db.core = { t₄.db.core with runControl := table' } := by
    rw [h₇, h₆, hdb₅]; rfl
  have hleases : t₇.db.jobLeases = t₄.db.jobLeases := congrArg Core.jobLeases hcore₇
  have hcount : activeLeaseCount t₇.db input.runId = activeLeaseCount t₄.db input.runId := by
    unfold activeLeaseCount; rw [hleases]
  have hpool₇ : t₇.db.pool = t₄.db.pool := by
    rw [Db.pool_eq, hcore₇]; rfl
  refine ⟨hcontrol₂ ▸ hcontrol, by simpa using hidle, ?_, ?_, fun k hk => ?_, fun k hk => ?_⟩
  · have hdid' := hdid.withControl table'
    rw [hcore₃, ← hcore₇] at hdid'
    have htable₇ : t₇.db.runControl = table' := congrArg Core.runControl hcore₇
    rw [htable₇]
    exact hdid'
  · rw [hcount, Db.control_eq, hcore₇]
    show controlsOf table' = _
    rw [htable', hcontrols₄, update_idem]
  · obtain ⟨x, hx, rfl, hst⟩ := hk
    rw [hpool₇]
    exact htaken x hx hst
  · have hold := hframe k fun x hx hst hkx => hk ⟨x, hx, hkx, hst⟩
    rw [hpool₃] at hold
    rw [hpool₇]
    exact hold

/-- A recovery is answered from an earlier one, or runs its next batch. -/
theorem recover_spec {input : RecoverInput} (hs : Sound env.hashText s.db.pool) :
    safe (Recovery.recover env input)
      (fun _ t => t.db = s.db ∨
        RunsBatch env s.db input ∧ ∃ prior rs, Recovered input prior rs s.db t.db) s := by
  unfold Recovery.recover Recovery.recoveryTransaction transaction
  simp only [safe, wp_bind, wp_check, wp_require, wp_mapError, implies_true, and_true]
  intro hconfirmed instant hinstant _ hlimit
  refine safe_mono validateOwnership_spec fun _ t ht => ?_
  obtain ⟨rfl, hp, hrun⟩ := ht
  rw [wp_database]
  intro hhash
  split
  · exact Or.inl rfl
  · rename_i hnone
    have hbatch : RunsBatch env t.db input :=
      { confirmed := beq_iff_eq.1 hconfirmed, evaluated := ⟨instant, hinstant⟩, limited := hlimit
        owned := ⟨hp, hrun⟩
        request := fun o ho => by
          unfold existingRecovery at ho
          rw [ho] at hhash
          simpa using hhash
        unfinished := fun o ho => by
          unfold existingRecovery at ho
          rw [ho] at hnone
          simpa [Option.filter_eq_none_iff, Decidable.or_iff_not_imp_left] using hnone }
    exact safe_mono (recoverBatch_spec hs hp rfl) fun _ _ h => Or.inr ⟨hbatch, h⟩

/-! ### Steering a run -/

theorem assertCrawlRunTransition_ok {source target : CrawlRunState}
    (h : assertCrawlRunTransition source target = .ok ()) :
    canTransitionCrawlRunState source target = true := by
  unfold assertCrawlRunTransition ensure at h
  split at h
  · assumption
  · cases h

/-- Nothing but the control rows has changed. -/
def Steered (db db' : Db) : Prop := db'.core = { db.core with runControl := db'.runControl }

/-- What an effective pause request has done. -/
structure PauseRequested (input : RequestPauseInput) (prior : RunControlState) (rs : CrawlRunState)
    (db db' : Db) : Prop where
  control : db.control input.runId = some ⟨prior, rs⟩
  steered : Steered db db'
  allowed : canTransitionCrawlRunState rs
    (if activeLeaseCount db input.runId = 0 then .paused else .pausing) = true
  target : db'.control = update db.control input.runId (some
    (if activeLeaseCount db input.runId = 0 then ⟨.paused, .paused⟩ else ⟨.pauseRequested, .pausing⟩))

theorem requestPause_spec {input : RequestPauseInput} :
    safe (Recovery.requestPause input)
      (fun _ t => t.db = s.db ∨ ∃ prior rs, PauseRequested input prior rs s.db t.db) s := by
  unfold Recovery.requestPause Recovery.recoveryTransaction transaction
  rw [safe, wp_mapError, wp_bind]
  refine safe_mono validateOwnership_spec fun _ t ht => ?_
  obtain ⟨rfl, -⟩ := ht
  rw [wp_bind]
  refine safe_mono runState_spec fun control t' ht' => ?_
  obtain ⟨rfl, hcontrol⟩ := ht'
  simp only [wp_bind, wp_require, wp_ite, wp_now, wp_database, wp_check, wp_updateControl, implies_true,
    and_true]
  refine fun _ => ⟨fun _ => safe_mono pauseStatus_spec fun _ _ h => Or.inl h, fun _ _ hallowed table hu => ?_⟩
  refine safe_mono saveRunCheckpoint_spec fun _ t₁ h₁ => ?_
  refine safe_mono pauseStatus_spec fun _ t₂ h₂ => Or.inr ⟨control.controlState, control.runState, ?_⟩
  rw [h₂, h₁]
  refine ⟨hcontrol, rfl, assertCrawlRunTransition_ok hallowed, ?_⟩
  exact control_update hu hcontrol (fun _ => rfl) fun c _ => by
    show Control.mk _ _ = _
    split <;> rfl

/-- What an effective resume has done. -/
structure Resumed (input : ResumeRunInput) (prior : RunControlState) (rs : CrawlRunState)
    (db db' : Db) : Prop where
  owned : Owned db input.projectId input.runId
  control : db.control input.runId = some ⟨prior, rs⟩
  idle : prior ≠ .active ∧ prior ≠ .recovering ∧ prior ≠ .completed ∧ prior ≠ .failed ∧ prior ≠ .stopped
  allowed : canTransitionCrawlRunState rs .running = true
  did : Did (fun j j' => j.run = input.runId ∧ Resume j j')
    { db.core with runControl := db'.runControl } db'.core
  target : db'.control = update db.control input.runId (some ⟨.active, .running⟩)
  none_aside : ∀ k j, db'.pool.jobs k = some j → j.run = input.runId → j.recovery = none

/-- Put one job that is set aside back into the queue. -/
theorem resumeJob_spec {input : ResumeRunInput} {timestamp : Timestamp} {a : PageJobRow}
    (hs : Sound env.hashText s.db.pool) (ha : a ∈ s.db.pageJobs.rows) (hrun : a.runId = input.runId)
    (hst : a.state = .processing) (hr : a.recoveryState ≠ none) :
    safe (Recovery.resumeJob input timestamp a)
      (fun _ t => Did (fun j j' => j.run = input.runId ∧ Resume j j') s.db.core t.db.core ∧
        (∀ x ∈ s.db.pageJobs.rows, x.jobId ≠ a.jobId → x ∈ t.db.pageJobs.rows) ∧
        ∀ x ∈ t.db.pageJobs.rows, x.recoveryState = none ∨
          x ∈ s.db.pageJobs.rows ∧ x.jobId ≠ a.jobId) s := by
  simp only [Recovery.resumeJob, safe, wp_bind, wp_updateJobs, implies_true, and_true]
  intro jobs hu
  refine safe_mono transition_spec fun _ t ht => ?_
  have hjobs : t.db.pageJobs = jobs := congrArg Core.pageJobs ht
  rw [ht, hjobs]
  refine ⟨did_turn_idle hs ha hu (by simp [rowToJob]) (fun b hb => by simpa [rowToJob] using hb) rfl
    ⟨hrun, hst, hr, rfl⟩ (Or.inr hr), fun x hx hne => ?_, fun x hx => ?_⟩
  · exact Table.mem_update hu hx (by simp [rowToJob, hne])
  · rw [Table.update_rows hu] at hx
    obtain ⟨b, hb, rfl⟩ := List.mem_map.1 hx
    by_cases hba : b.jobId = a.jobId
    · rw [rewrite_pos (by simp [rowToJob, hba])]
      exact Or.inl rfl
    · rw [rewrite_neg (by simp [rowToJob, hba])]
      exact Or.inr ⟨hb, hba⟩

/-- **The loop of a resume** leaves no job of the run set aside. It keeps what each of
its passes keeps, and throws only what they throw. -/
theorem resumeLoop_wp {input : ResumeRunInput} {timestamp : Timestamp} {I : Call → Prop}
    {R : Thrown → Prop} (hs : Sound env.hashText s.db.pool)
    (hI : ∀ t a, I t → a ∈ t.db.pageJobs.rows → a.state = .processing →
      wp (Recovery.resumeJob input timestamp a) (fun _ t => I t) R t) (h : I s) :
    wp ((s.db.pageJobs.select (fun a => a.runId == input.runId && a.state == .processing &&
        a.recoveryState.isSome) fun a b => a.queueSequence ≤ b.queueSequence).forM
          (Recovery.resumeJob input timestamp))
      (fun _ t => I t ∧ Did (fun j j' => j.run = input.runId ∧ Resume j j') s.db.core t.db.core ∧
        ∀ x ∈ t.db.pageJobs.rows, x.runId = input.runId → x.recoveryState = none) R s := by
  set rows := s.db.pageJobs.select (fun a => a.runId == input.runId && a.state == .processing &&
    a.recoveryState.isSome) fun a b => a.queueSequence ≤ b.queueSequence with hrows
  have hsel : ∀ a, a ∈ rows ↔ a ∈ s.db.pageJobs.rows ∧ a.runId = input.runId ∧
      a.state = .processing ∧ a.recoveryState ≠ none := by
    intro a
    rw [hrows, Table.mem_select]
    simp [Option.isSome_iff_ne_none, and_assoc]
  have hpair : rows.Pairwise fun a b => a.jobId ≠ b.jobId :=
    jobIndex.select_pairwise.imp fun {a b} h hab => h a.jobId rfl (congrArg some hab.symm)
  refine wp_mono (wp_forM_done (I := fun done t => I t ∧
    Did (fun j j' => j.run = input.runId ∧ Resume j j') s.db.core t.db.core ∧
    (∀ a ∈ s.db.pageJobs.rows, (∀ x ∈ done, x.jobId ≠ a.jobId) → a ∈ t.db.pageJobs.rows) ∧
    ∀ a ∈ t.db.pageJobs.rows, a.recoveryState = none ∨
      a ∈ s.db.pageJobs.rows ∧ ∀ x ∈ done, x.jobId ≠ a.jobId)
    (fun done a rest hl t ht => ?_) ⟨h, Did.refl, fun a ha _ => ha, fun a ha => Or.inr ⟨ha, by simp⟩⟩)
    (fun _ t h => ⟨h.1, h.2.1, fun x hx hrun => ?_⟩) fun _ h => h
  · obtain ⟨hI', hdid, hkeep, hback⟩ := ht
    obtain ⟨hmem, hrun, hst, hr⟩ := (hsel a).1 (by rw [hl]; simp)
    have hfresh : ∀ y ∈ done, y.jobId ≠ a.jobId := by
      rw [hl] at hpair
      exact fun y hy => (List.pairwise_append.1 hpair).2.2 y hy a (List.mem_cons_self ..)
    have hst' := hdid.sound (fun _ _ h => Or.inr (Or.inr h.2)) hs
    refine wp_mono (wp_and (hI t a hI' (hkeep a hmem hfresh) hst)
      (resumeJob_spec hst' (hkeep a hmem hfresh) hrun hst hr)) (fun _ t' ht' => ?_) fun _ h => h
    obtain ⟨hI'', hdid', hkeep', hback'⟩ := ht'
    refine ⟨hI'', hdid.trans hdid', fun x hx hd => ?_, fun x hx => ?_⟩
    · exact hkeep' x (hkeep x hx fun y hy => hd y (List.mem_append_left _ hy))
        (hd a (by simp)).symm
    · rcases hback' x hx with h | ⟨hx', hne⟩
      · exact Or.inl h
      · rcases hback x hx' with h | ⟨hx'', hd⟩
        · exact Or.inl h
        · refine Or.inr ⟨hx'', fun y hy => ?_⟩
          rcases List.mem_append.1 hy with hy | hy
          · exact hd y hy
          · rw [List.mem_singleton.1 hy]; exact hne.symm
  · rcases h.2.2.2 x hx with hnone | ⟨hx', hd⟩
    · exact hnone
    · -- a row that is still set aside would have been selected
      by_contra hr
      exact hd x ((hsel x).2 ⟨hx', hrun, hs.aside _ _ (jobs_mem hx') hr, hr⟩) rfl

theorem resumeRun_spec {input : ResumeRunInput} (hs : Sound env.hashText s.db.pool) :
    safe (Recovery.resumeRun input)
      (fun _ t => t.db = s.db ∧ (∃ rs, s.db.control input.runId = some ⟨.active, rs⟩) ∨
        ∃ prior rs, Resumed input prior rs s.db t.db) s := by
  unfold Recovery.resumeRun Recovery.recoveryTransaction transaction
  rw [safe, wp_mapError, wp_bind]
  refine safe_mono validateOwnership_spec fun _ t ht => ?_
  obtain ⟨rfl, howned⟩ := ht
  rw [wp_bind]
  refine safe_mono runState_spec fun control t' ht' => ?_
  obtain ⟨rfl, hcontrol⟩ := ht'
  rw [wp_ite]
  refine ⟨fun hact => safe_mono pauseStatus_spec fun _ _ h => Or.inl ⟨h, control.runState, ?_⟩,
    fun hact => ?_⟩
  · rw [hcontrol, controlOf, hact]
  simp only [wp_bind, wp_require, wp_now, implies_true, and_true]
  intro hidle
  refine safe_mono (setControl_spec hcontrol) fun _ t₁ h₁ => ?_
  obtain ⟨table, hdb₁, htable⟩ := h₁
  have hcore₁ : t₁.db.core = { t'.db.core with runControl := table } := by rw [hdb₁]; rfl
  have hpool₁ : t₁.db.pool = t'.db.pool := by rw [Db.pool_eq, hcore₁]; rfl
  rw [wp_database]
  refine safe_mono (resumeLoop_wp (I := fun _ => True) (hpool₁ ▸ hs : Sound env.hashText t₁.db.pool)
    (fun _ _ _ _ _ => safe_of_forall fun _ _ => trivial) trivial) fun _ t₂ h₂ => ?_
  obtain ⟨-, hdid, hnone⟩ := h₂
  have hcontrol₂ : t₂.db.control = update t'.db.control input.runId
      (some ⟨.resuming, control.runState⟩) := by
    have h1 : t₂.db.runControl = t₁.db.runControl := hdid.runControl
    have h2 : t₁.db.runControl = table := congrArg Core.runControl hcore₁
    show controlsOf t₂.db.runControl = _
    rw [h1, h2, htable]
    rfl
  refine safe_mono runState_spec fun control₂ t₃ h₃ => ?_
  obtain ⟨rfl, hcontrol₃⟩ := h₃
  have hv : controlOf control₂ = ⟨.resuming, control.runState⟩ := by
    rw [hcontrol₂, update_self] at hcontrol₃
    exact (Option.some.inj hcontrol₃).symm
  simp only [wp_check, wp_updateControl, implies_true, and_true]
  intro _ hallowed table' hu
  refine safe_mono saveRunCheckpoint_spec fun _ t₄ h₄ => ?_
  refine safe_mono pauseStatus_spec fun _ t₅ h₅ => Or.inr ⟨control.controlState, control.runState, ?_⟩
  rw [h₅, h₄]
  have hrs : control₂.runState = control.runState := congrArg Control.run hv
  have htarget := control_update (w := ⟨.active, .running⟩) hu hcontrol₃ (fun _ => rfl) fun c _ => rfl
  refine ⟨howned, hcontrol, ?_, hrs ▸ assertCrawlRunTransition_ok hallowed, ?_, ?_, fun k j hj hrun => ?_⟩
  · simpa [hact, and_assoc] using hidle
  · have hdid' := hdid.withControl table'
    rw [hcore₁] at hdid'
    exact hdid'
  · show controlsOf table' = _
    rw [htarget]
    show update t₃.db.control _ _ = _
    rw [hcontrol₂, update_idem]
  · obtain ⟨x, hx, -, rfl⟩ := jobs_some hj
    exact hnone x hx hrun

/-- What an acknowledged pause has done. -/
structure Acknowledged (env : Env) (input : AcknowledgePauseInput) (rs : CrawlRunState)
    (db db' : Db) : Prop where
  control : db.control input.runId = some ⟨.pauseRequested, rs⟩
  presents : ∃ l, Presents env db input.toLeaseHolder l
  did : Did (fun j j' => j.run = input.runId ∧ Suspend j j')
    { db.core with runControl := db'.runControl } db'.core
  target : (activeLeaseCount db' input.runId ≠ 0 ∧ db'.control = db.control) ∨
    (activeLeaseCount db' input.runId = 0 ∧ canTransitionCrawlRunState rs .paused = true ∧
      db'.control = update db.control input.runId (some ⟨.paused, .paused⟩))

/-- The pause is complete once no lease of the run is left. -/
theorem completePause_spec {input : AcknowledgePauseInput} {timestamp : Timestamp} {v : Control}
    (hv : s.db.control input.runId = some v) :
    safe (Recovery.completePause input timestamp)
      (fun _ t => ∃ table, t.db = { s.db with runControl := table } ∧
        ((activeLeaseCount s.db input.runId ≠ 0 ∧ table = s.db.runControl) ∨
          (activeLeaseCount s.db input.runId = 0 ∧ canTransitionCrawlRunState v.run .paused = true ∧
            controlsOf table = update s.db.control input.runId (some ⟨.paused, .paused⟩)))) s := by
  unfold Recovery.completePause
  rw [safe, wp_bind, wp_database, wp_ite]
  constructor
  · intro hcount
    rw [wp_bind]
    refine safe_mono runState_spec fun control t ht => ?_
    obtain ⟨rfl, hcontrol⟩ := ht
    have hv' : controlOf control = v := Option.some.inj (hcontrol.symm.trans hv)
    simp only [wp_bind, wp_check, wp_updateControl, implies_true, and_true]
    intro _ hallowed table hu
    refine ⟨table, rfl, Or.inr ⟨hcount, ?_, control_update hu hv (fun _ => rfl) fun _ _ => rfl⟩⟩
    rw [← hv']
    exact assertCrawlRunTransition_ok hallowed
  · intro hcount
    exact ⟨s.db.runControl, rfl, Or.inl ⟨hcount, rfl⟩⟩

theorem acknowledgePause_spec {input : AcknowledgePauseInput} (hs : Sound env.hashText s.db.pool) :
    safe (Recovery.acknowledgePause env input)
      (fun _ t => ∃ rs, Acknowledged env input rs s.db t.db) s := by
  unfold Recovery.acknowledgePause Recovery.recoveryTransaction transaction
  rw [safe, wp_mapError, wp_bind]
  refine safe_mono runState_spec fun control t ht => ?_
  obtain ⟨rfl, hcontrol⟩ := ht
  rw [wp_bind, wp_require]
  refine ⟨fun hpause => ?_, fun _ => trivial⟩
  rw [wp_bind]
  refine safe_mono assertLease_spec fun l t₁ h₁ => ?_
  obtain ⟨hdb₁, hl⟩ := h₁
  rw [wp_bind, wp_now, wp_bind]
  refine safe_mono getJobRow_spec fun a t₂ h₂ => ?_
  obtain ⟨rfl, hmem, hid, hrun⟩ := h₂
  rw [show ({ t₁ with ticks := t₁.ticks + 1 } : Call).db = t.db from hdb₁] at hmem
  simp only [wp_bind, wp_freshId, wp_insertCheckpoint, implies_true, and_true]
  intro checkpoints _
  refine safe_mono (closeLease_spec (by show l ∈ t₁.db.jobLeases.rows; rw [hdb₁]; exact hl.mem)
    hl.active (by decide)) fun _ t₃ h₃ => ?_
  obtain ⟨leases, hcore₃, hheld⟩ := h₃
  refine safe_mono finishAttempt_spec fun _ t₄ h₄ => ?_
  have hcore₄ : t₄.db.core = { t.db.core with jobLeases := leases } := by
    rw [h₄, hcore₃, ← hdb₁]; rfl
  have hjobs₄ : t₄.db.pageJobs = t.db.pageJobs := congrArg Core.pageJobs hcore₄
  have hheld' : ∀ jobs, (poolOf jobs leases).held =
      update (poolOf jobs t.db.jobLeases).held a.jobId none := by
    rw [hid, ← hl.job, ← hdb₁]; exact hheld
  -- the presented lease stands on a job in work
  obtain ⟨j, hj, hst, hr, -⟩ := hs.lease l.jobId (holdOf l) (held_mem hl.mem hl.active)
  have hja : t.db.pool.jobs l.jobId = some (jobOf a) := by rw [hl.job, ← hid]; exact jobs_mem hmem
  rw [hja] at hj
  obtain rfl := Option.some.inj hj
  have hst' : a.state = .processing := hst
  simp only [wp_updateJobs, implies_true, and_true]
  intro jobs hu
  rw [hjobs₄] at hu
  refine safe_mono transition_spec fun _ t₅ h₅ => ?_
  have hdid := did_turn (T := fun j j' => j.run = input.runId ∧ Suspend j j') hmem hu
    (by simp [rowToJob, hst']) (fun b hb => by
      simp only [Bool.and_eq_true, beq_iff_eq] at hb; exact hb.1) rfl ⟨hrun, hst, hr, rfl⟩ hheld'
  have hcore₅ : t₅.db.core = { t.db.core with pageJobs := jobs, jobLeases := leases } := by
    rw [h₅]
    show ({ t₄.db.core with pageJobs := jobs } : Core) = _
    rw [hcore₄]
  have hcontrol₅ : t₅.db.control = t.db.control := by
    rw [Db.control_eq, hcore₅]; rfl
  refine safe_mono (completePause_spec (hcontrol₅ ▸ hcontrol)) fun _ t₆ h₆ => ?_
  obtain ⟨table, hdb₆, htable⟩ := h₆
  refine safe_mono saveRunCheckpoint_spec fun _ t₇ h₇ => ?_
  refine safe_mono getJobRow_spec fun _ t₈ h₈ => ⟨control.runState, ?_⟩
  rw [h₈.1, h₇, hdb₆]
  refine ⟨?_, ⟨l, hl⟩, ?_, ?_⟩
  · rw [hcontrol, controlOf, beq_iff_eq.1 hpause]
  · have hdid' := hdid.withControl table
    have hcore₆ : ({ t₅.db with runControl := table } : Db).core = { t₅.db.core with runControl := table } :=
      rfl
    rw [hcore₆, hcore₅]
    exact hdid'
  · rcases htable with ⟨hcount, rfl⟩ | ⟨hcount, hallowed, htarget⟩
    · exact Or.inl ⟨hcount, hcontrol₅⟩
    · refine Or.inr ⟨hcount, hallowed, ?_⟩
      rw [← hcontrol₅]
      exact htarget

/-- What an effective `setRunState` has done. -/
structure StateSet (input : SetRunStateInput) (prior : RunControlState) (rs : CrawlRunState)
    (db db' : Db) : Prop where
  owned : Owned db input.projectId input.runId
  control : db.control input.runId = some ⟨prior, rs⟩
  steered : Steered db db'
  allowed : canTransitionCrawlRunState rs input.state = true
  target : db'.control = update db.control input.runId
    (some ⟨Recovery.controlStateOf input.state, input.state⟩)

theorem setRunState_spec {input : SetRunStateInput} :
    safe (Recovery.setRunState input)
      (fun _ t => ∃ prior rs, StateSet input prior rs s.db t.db) s := by
  unfold Recovery.setRunState Recovery.recoveryTransaction transaction
  rw [safe, wp_mapError, wp_bind]
  refine safe_mono validateOwnership_spec fun _ t ht => ?_
  obtain ⟨rfl, howned⟩ := ht
  rw [wp_bind]
  refine safe_mono runState_spec fun control t' ht' => ?_
  obtain ⟨rfl, hcontrol⟩ := ht'
  simp only [wp_bind, wp_now, wp_check, wp_updateControl, implies_true, and_true]
  intro _ hallowed table hu
  refine safe_mono saveRunCheckpoint_spec fun _ t₁ h₁ => ?_
  refine safe_mono pauseStatus_spec fun _ t₂ h₂ => ⟨control.controlState, control.runState, ?_⟩
  rw [h₂, h₁]
  exact ⟨howned, hcontrol, rfl, assertCrawlRunTransition_ok hallowed,
    control_update hu hcontrol (fun _ => rfl) fun c _ => rfl⟩

end OfflineWebArchiver
