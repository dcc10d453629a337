import OfflineWebArchiver.Lifecycle.Pool
import OfflineWebArchiver.Persistence.Step

/-!
# The pool of a database

`Db.pool` reads the pool off `page_jobs` and `job_leases`, and `Db.control` the
control and run state of each run. Each kind of statement changes them in one way.

* `putJob`, `dropLease`: an update of one job, the closing of its lease.
* `grant_of_statements`: the two statements of a leased claim.
-/

namespace OfflineWebArchiver

open Relational Function

/-- Jobs by their id. -/
def jobIndex : Index pageJobs String where
  key a := some a.jobId
  unique a b k ha hb := by
    have h : a.jobId = b.jobId := Option.some.inj (ha.trans hb.symm)
    simp [pageJobs, h]

/-- Active leases by their job. -/
def leaseIndex : Index jobLeases String where
  key l := if l.status = .active then some l.jobId else none
  unique a b k ha hb := by
    by_cases hsa : a.status = .active
    · by_cases hsb : b.status = .active
      · rw [if_pos hsa] at ha
        rw [if_pos hsb] at hb
        have h : a.jobId = b.jobId := Option.some.inj (ha.trans hb.symm)
        simp [jobLeases, h, hsa, hsb]
      · rw [if_neg hsb] at hb; cases hb
    · rw [if_neg hsa] at ha; cases ha

/-- All leases by their id. -/
def leaseIdIndex : Index jobLeases String where
  key l := some l.leaseId
  unique a b k ha hb := by
    have h : a.leaseId = b.leaseId := Option.some.inj (ha.trans hb.symm)
    simp [jobLeases, h]

/-- Control rows by their run. -/
def controlIndex : Index runControl String where
  key c := some c.runId
  unique a b k ha hb := by
    have h : a.runId = b.runId := Option.some.inj (ha.trans hb.symm)
    simp [runControl, h]

def jobOf (a : PageJobRow) : Job where
  run := a.runId
  state := a.state
  recovery := a.recoveryState
  token := a.claimToken
  attempts := a.attemptCount
  maxAttempts := a.maxAttempts
  generation := a.fencingGeneration

def holdOf (l : JobLeaseRow) : Hold where
  run := l.runId
  owner := l.ownerId
  hash := l.leaseTokenHash
  generation := l.fencingGeneration

/-- The two states of a run. -/
structure Control where
  control : RunControlState
  run : CrawlRunState

def controlOf (c : RunControlRow) : Control := ⟨c.controlState, c.runState⟩

/-- The pool that the two tables hold. -/
def poolOf (jobs : Table pageJobs) (leases : Table jobLeases) : Pool where
  jobs := jobIndex.lookup jobOf jobs
  held := leaseIndex.lookup holdOf leases

def Db.pool (db : Db) : Pool := poolOf db.pageJobs db.jobLeases

def controlsOf (t : Table runControl) : String → Option Control := controlIndex.lookup controlOf t

def Db.control (db : Db) : String → Option Control := controlsOf db.runControl

section Rows

variable {jobs jobs' : Table pageJobs} {leases leases' : Table jobLeases} {a b : PageJobRow}
  {l : JobLeaseRow} {k : String}

theorem jobs_mem (ha : a ∈ jobs.rows) : (poolOf jobs leases).jobs a.jobId = some (jobOf a) :=
  Index.lookup_mem ha rfl

theorem jobs_some {j : Job} (h : (poolOf jobs leases).jobs k = some j) :
    ∃ a ∈ jobs.rows, a.jobId = k ∧ jobOf a = j := by
  obtain ⟨a, ha, hk, rfl⟩ := Index.lookup_eq_some.1 h
  exact ⟨a, ha, Option.some.inj hk, rfl⟩

theorem job_eq (ha : a ∈ jobs.rows) (hb : b ∈ jobs.rows) (h : a.jobId = b.jobId) : a = b :=
  jobIndex.eq_of_key ha hb rfl (congrArg some h.symm)

/-- The check on claims: exactly the jobs in work have a claim token. -/
theorem token_isSome (ha : a ∈ jobs.rows) : a.claimToken.isSome = true ↔ a.state = .processing := by
  have h := jobs.checked a ha
  simp only [pageJobs, pageJobCheck, Bool.and_eq_true] at h
  have hclaim := h.1.1.2
  by_cases hs : a.state = .processing
  · rw [if_pos hs] at hclaim
    simp only [Bool.and_eq_true] at hclaim
    exact ⟨fun _ => hs, fun _ => hclaim.1.1⟩
  · rw [if_neg hs] at hclaim
    simp only [Bool.and_eq_true, Option.isNone_iff_eq_none] at hclaim
    rw [hclaim.1]
    exact ⟨fun h => by simp at h, fun h => absurd h hs⟩

theorem token_none (ha : a ∈ jobs.rows) (hs : a.state ≠ .processing) : a.claimToken = none := by
  rw [← Option.not_isSome_iff_eq_none, token_isSome ha]
  exact hs

theorem held_mem (hl : l ∈ leases.rows) (hs : l.status = .active) :
    (poolOf jobs leases).held l.jobId = some (holdOf l) :=
  Index.lookup_mem hl (if_pos hs)

theorem held_some {h : Hold} (hh : (poolOf jobs leases).held k = some h) :
    ∃ l ∈ leases.rows, l.jobId = k ∧ l.status = .active ∧ holdOf l = h := by
  obtain ⟨l, hl, hk, rfl⟩ := Index.lookup_eq_some.1 hh
  have hk' : (if l.status = .active then some l.jobId else none) = some k := hk
  by_cases hs : l.status = .active
  · rw [if_pos hs] at hk'
    exact ⟨l, hl, Option.some.inj hk', hs, rfl⟩
  · rw [if_neg hs] at hk'; cases hk'

theorem held_none : (poolOf jobs leases).held k = none ↔
    ∀ l ∈ leases.rows, l.status = .active → l.jobId ≠ k := by
  show leaseIndex.lookup holdOf leases k = none ↔ _
  rw [Index.lookup_eq_none]
  constructor
  · intro h l hl hs hk
    exact h l hl ((if_pos hs).trans (congrArg some hk))
  · intro h l hl hk
    have hk' : (if l.status = .active then some l.jobId else none) = some k := hk
    by_cases hs : l.status = .active
    · rw [if_pos hs] at hk'
      exact h l hl hs (Option.some.inj hk')
    · rw [if_neg hs] at hk'; cases hk'

theorem lease_eq {l' : JobLeaseRow} (hl : l ∈ leases.rows) (hl' : l' ∈ leases.rows)
    (hs : l.status = .active) (hs' : l'.status = .active) (h : l.jobId = l'.jobId) : l = l' :=
  leaseIndex.eq_of_key hl hl' (if_pos hs) ((if_pos hs').trans (congrArg some h.symm))

/-! ### Statements on `page_jobs` -/

section Jobs

variable {p : PageJobRow → Bool} {f : PageJobRow → PageJobRow}

theorem jobs_insert (h : jobs.insert a = some jobs') :
    (poolOf jobs leases).jobs a.jobId = none ∧
      (poolOf jobs' leases).jobs = update (poolOf jobs leases).jobs a.jobId (some (jobOf a)) :=
  Index.lookup_insert h rfl

/-- An update that the pool does not see. -/
theorem jobs_touch (h : jobs.update p f = some jobs') (hid : ∀ a, (f a).jobId = a.jobId)
    (hf : ∀ a, jobOf (f a) = jobOf a) : poolOf jobs' leases = poolOf jobs leases := by
  have : jobIndex.lookup jobOf jobs' = jobIndex.lookup jobOf jobs :=
    Index.lookup_update_same h fun a _ _ => ⟨congrArg some (hid a), hf a⟩
  unfold poolOf
  rw [this]

/-- An update of the row `a` alone. -/
theorem jobs_update (h : jobs.update p f = some jobs') (ha : a ∈ jobs.rows) (hpa : p a = true)
    (hp : ∀ b, p b = true → b.jobId = a.jobId) (hid : (f a).jobId = a.jobId) :
    (poolOf jobs' leases).jobs =
      update (poolOf jobs leases).jobs a.jobId (some (jobOf (f a))) :=
  Index.lookup_update h ha rfl hpa (fun b _ hb => congrArg some (hp b hb)) (congrArg some hid)

end Jobs

/-! ### Statements on `job_leases` -/

section Leases

variable {p : JobLeaseRow → Bool} {f : JobLeaseRow → JobLeaseRow}

theorem leases_insert (h : leases.insert l = some leases') (hs : l.status = .active) :
    (poolOf jobs leases).held l.jobId = none ∧
      (poolOf jobs leases').held = update (poolOf jobs leases).held l.jobId (some (holdOf l)) :=
  Index.lookup_insert h (if_pos hs)

/-- An update that the pool does not see. -/
theorem leases_touch (h : leases.update p f = some leases') (hid : ∀ l, (f l).jobId = l.jobId)
    (hs : ∀ l, (f l).status = l.status) (hf : ∀ l, holdOf (f l) = holdOf l) :
    poolOf jobs leases' = poolOf jobs leases := by
  have hkey : ∀ l, leaseIndex.key (f l) = leaseIndex.key l := fun l => by
    show (if (f l).status = _ then _ else _) = if l.status = _ then _ else _
    rw [hs, hid]
  have : leaseIndex.lookup holdOf leases' = leaseIndex.lookup holdOf leases :=
    Index.lookup_update_same h fun l _ _ => ⟨hkey l, hf l⟩
  unfold poolOf
  rw [this]

/-- An update that closes the active lease of one job. -/
theorem leases_drop (h : leases.update p f = some leases')
    (hp : ∀ l ∈ leases.rows, p l = true → l.status = .active ∧ l.jobId = k)
    (hk : ∀ l ∈ leases.rows, l.status = .active → l.jobId = k → p l = true)
    (hf : ∀ l, (f l).status ≠ .active) :
    (poolOf jobs leases').held = update (poolOf jobs leases).held k none := by
  refine Index.lookup_update_drop h (fun l hl hpl => ?_) fun l hl hkl => ?_
  · obtain ⟨hs, hj⟩ := hp l hl hpl
    exact ⟨(if_pos hs).trans (congrArg some hj), if_neg (hf l)⟩
  · have hkl' : (if l.status = .active then some l.jobId else none) = some k := hkl
    by_cases hs : l.status = .active
    · rw [if_pos hs] at hkl'
      exact hk l hl hs (Option.some.inj hkl')
    · rw [if_neg hs] at hkl'; cases hkl'

/-- Closing the active lease `l` by its id. -/
theorem leases_close (h : leases.update p f = some leases') (hl : l ∈ leases.rows)
    (hs : l.status = .active) (hp : ∀ l', p l' = true ↔ l'.leaseId = l.leaseId ∧ l'.status = .active)
    (hf : ∀ l, (f l).status ≠ .active) :
    (poolOf jobs leases').held = update (poolOf jobs leases).held l.jobId none := by
  refine leases_drop h (fun l' hl' hpl => ?_) (fun l' hl' hs' hj => ?_) hf
  · obtain ⟨hid, hs'⟩ := (hp l').1 hpl
    obtain rfl := leaseIdIndex.eq_of_key hl' hl (congrArg some hid) rfl
    exact ⟨hs', rfl⟩
  · obtain rfl := lease_eq hl' hl hs' hs hj
    exact (hp l').2 ⟨rfl, hs⟩

end Leases

theorem Pool.ext' {P Q : Pool} (hj : P.jobs = Q.jobs) (hh : P.held = Q.held) : P = Q := by
  cases P; cases Q; cases hj; cases hh; rfl

/-- An update of one job whose lease is closed with it. -/
theorem pool_put {p : PageJobRow → Bool} {f : PageJobRow → PageJobRow}
    (h : jobs.update p f = some jobs') (ha : a ∈ jobs.rows) (hpa : p a = true)
    (hp : ∀ b, p b = true → b.jobId = a.jobId) (hid : (f a).jobId = a.jobId)
    (hl : (poolOf jobs leases').held = update (poolOf jobs leases).held a.jobId none) :
    poolOf jobs' leases' = (poolOf jobs leases).put a.jobId (jobOf (f a)) :=
  Pool.ext' (jobs_update h ha hpa hp hid) hl

/-- No lease to close. -/
theorem held_update_none (hn : (poolOf jobs leases).held k = none) :
    (poolOf jobs leases).held = update (poolOf jobs leases).held k none := by
  rw [← hn, update_eq_self]

end Rows

/-! ### Control rows -/

section Controls

variable {t t' : Table runControl} {r : String} {f : RunControlRow → RunControlRow} {c : RunControlRow}

theorem controls_mem (hc : c ∈ t.rows) : controlsOf t c.runId = some (controlOf c) :=
  Index.lookup_mem hc rfl

theorem controls_some {v : Control} (h : controlsOf t r = some v) :
    ∃ c ∈ t.rows, c.runId = r ∧ controlOf c = v := by
  obtain ⟨c, hc, hk, rfl⟩ := Index.lookup_eq_some.1 h
  exact ⟨c, hc, Option.some.inj hk, rfl⟩

/-- An update of the control row of one run. -/
theorem controls_update (h : t.update (·.runId == r) f = some t') (hc : c ∈ t.rows)
    (hr : c.runId = r) (hid : (f c).runId = c.runId) :
    controlsOf t' = update (controlsOf t) r (some (controlOf (f c))) := by
  subst hr
  exact Index.lookup_update h hc rfl (by simp) (fun b _ hb => by simpa [controlIndex] using hb)
    (congrArg some hid)

/-- The runs of a new project are active. -/
theorem controls_create {project : Project} {createdAt : Timestamp} {v : Control}
    (h : (Db.create project createdAt).control r = some v) : v = ⟨.active, .running⟩ := by
  obtain ⟨c, hc, -, rfl⟩ := controls_some h
  obtain ⟨-, -, rfl⟩ := List.mem_map.1 hc
  rfl

end Controls

/-- `COUNT(*)` of the active leases of a run is zero when no hold is of the run. -/
theorem activeLeaseCount_eq_zero {db : Db} {r : String} :
    activeLeaseCount db r = 0 ↔ ∀ k h, db.pool.held k = some h → h.run ≠ r := by
  unfold activeLeaseCount
  rw [Table.count_eq_zero]
  constructor
  · intro h k hd hh hr
    obtain ⟨l, hl, -, hs, rfl⟩ := held_some hh
    have hr' : l.runId = r := hr
    simpa [hs, hr'] using h l hl
  · intro h l hl
    by_contra hc
    have hc' : l.runId = r ∧ l.status = .active := by simpa using hc
    exact h l.jobId (holdOf l) (held_mem hl hc'.2) hc'.1

end OfflineWebArchiver

/-!
## What the steps of a call do

`Db.core` keeps the tables that the invariants read. Most steps of a call leave it
as it is; the others change the pool by one job.

* `Did`: the core changed along a path of turns, and its other tables only grew.
* `idempotent_did`: a call through the ledger does what its operation does.
* `closeLease_spec`, `releaseJobLease_spec`: the two ways a lease is closed.
-/

namespace OfflineWebArchiver

open Relational Program Function

/-- The tables that the invariants read. -/
structure Core where
  project : Project
  pageJobs : Table pageJobs
  jobLeases : Table jobLeases
  runControl : Table runControl
  queueOperations : Table queueOperations
  completedOutputs : Table completedOutputs
  renderResults : Table renderResults

def Db.core (db : Db) : Core where
  project := db.project
  pageJobs := db.pageJobs
  jobLeases := db.jobLeases
  runControl := db.runControl
  queueOperations := db.queueOperations
  completedOutputs := db.completedOutputs
  renderResults := db.renderResults

def Core.pool (c : Core) : Pool := poolOf c.pageJobs c.jobLeases

def Core.control (c : Core) : String → Option Control := controlsOf c.runControl

theorem Db.pool_eq (db : Db) : db.pool = db.core.pool := rfl

theorem Db.control_eq (db : Db) : db.control = db.core.control := rfl

/-- The pool changed along a path of `T`; nothing else but the ledger grew. -/
structure Did (T : Job → Job → Prop) (c c' : Core) : Prop where
  path : Path T c.pool c'.pool
  project : c'.project = c.project
  runControl : c'.runControl = c.runControl
  ledger : c.queueOperations.rows <+: c'.queueOperations.rows
  outputs : c'.completedOutputs = c.completedOutputs
  results : c'.renderResults = c.renderResults

variable {env : Env} {s : Call} {T : Job → Job → Prop} {c c' c'' : Core}

theorem Did.refl : Did T c c := ⟨.refl, rfl, rfl, List.prefix_rfl, rfl, rfl⟩

theorem Did.trans (h : Did T c c') (h' : Did T c' c'') : Did T c c'' :=
  ⟨h.path.trans h'.path, h'.project.trans h.project, h'.runControl.trans h.runControl,
    h.ledger.trans h'.ledger, h'.outputs.trans h.outputs, h'.results.trans h.results⟩

/-- The ledger may grow on the way. -/
theorem Did.record (h : Did T c c') {ops : Table queueOperations}
    (hops : c'.queueOperations.rows <+: ops.rows) : Did T c { c' with queueOperations := ops } :=
  ⟨h.path, h.project, h.runControl, h.ledger.trans hops, h.outputs, h.results⟩

/-- Nothing on the way reads the control rows. -/
theorem Did.withControl (h : Did T c c') (table : Table OfflineWebArchiver.runControl) :
    Did T { c with runControl := table } { c' with runControl := table } :=
  ⟨h.path, h.project, rfl, h.ledger, h.outputs, h.results⟩

/-- One step along the path. -/
theorem Did.of_pool {jobs : Table pageJobs} {leases : Table jobLeases}
    (h : Path T c.pool (poolOf jobs leases)) :
    Did T c { c with pageJobs := jobs, jobLeases := leases } :=
  ⟨h, rfl, rfl, List.prefix_rfl, rfl, rfl⟩

theorem Did.of_jobs {jobs : Table pageJobs} (h : Path T c.pool (poolOf jobs c.jobLeases)) :
    Did T c { c with pageJobs := jobs } :=
  ⟨h, rfl, rfl, List.prefix_rfl, rfl, rfl⟩

/-! ### Steps that the core does not see -/

theorem queue_transition_spec {jobId reasonCode operationId correlationId : String}
    {source : Option PageJobState} {target : PageJobState} {occurredAt : Timestamp} {metadata : Json} :
    safe (Queue.transition jobId source target reasonCode operationId correlationId occurredAt metadata)
      (fun _ t => t.db.core = s.db.core) s := by
  simp [Queue.transition, Db.core]

theorem transition_spec {jobId reasonCode operationId correlationId : String}
    {source target : PageJobState} {occurredAt : Timestamp} :
    safe (Recovery.transition jobId source target reasonCode operationId correlationId occurredAt)
      (fun _ t => t.db.core = s.db.core) s := by
  simp [Recovery.transition, Db.core]

theorem finishAttempt_spec {jobId : String} {claimToken : Option String}
    {f : JobAttemptRow → JobAttemptRow} :
    safe (Queue.finishAttempt jobId claimToken f) (fun _ t => t.db.core = s.db.core) s := by
  simp [Queue.finishAttempt, Db.core]

/-- A row that `getJobRow` returns. -/
theorem getJobRow_spec {projectId runId jobId : String} :
    safe (getJobRow projectId runId jobId)
      (fun a t => t = s ∧ a ∈ s.db.pageJobs.rows ∧ a.jobId = jobId ∧ a.runId = runId) s := by
  simp only [getJobRow, safe, wp_bind, wp_database, wp_orThrow, implies_true, and_true, true_and]
  intro a ha
  split at ha
  · obtain ⟨hmem, hp⟩ := Table.find_mem ha
    simp only [Bool.and_eq_true, beq_iff_eq] at hp
    exact ⟨hmem, hp.2, hp.1⟩
  · cases ha

/-- A row that `activeLease` returns. -/
theorem activeLease_mem {db : Db} {projectId runId jobId : String} {l : JobLeaseRow}
    (h : activeLease db projectId runId jobId = some l) :
    l ∈ db.jobLeases.rows ∧ l.jobId = jobId ∧ l.runId = runId ∧ l.status = .active := by
  unfold activeLease at h
  split at h
  · obtain ⟨hmem, hp⟩ := Table.find_mem h
    simp only [Bool.and_eq_true, beq_iff_eq] at hp
    exact ⟨hmem, hp.1.2, hp.1.1, hp.2⟩
  · cases h

/-- What the ledger row of a key says when the call is repeated. -/
theorem idempotent_spec {projectId runId key : String} {ty : OperationType} {request : Json}
    {operation : M StoredResult} {Q : StoredResult → Core → Prop}
    (hreplay : ∀ o ∈ s.db.queueOperations.rows, o.operationType = ty → o.idempotencyKey = key →
      Q o.result s.db.core)
    (hop : safe operation (fun r t => ∀ ops : Table queueOperations,
      t.db.queueOperations.rows <+: ops.rows → Q r { t.db.core with queueOperations := ops }) s) :
    safe (Queue.idempotent env projectId runId ty key request operation)
      (fun r t => Q r t.db.core) s := by
  unfold Queue.idempotent
  simp only [safe, wp_bind, wp_check, wp_database, implies_true, and_true]
  intro _ _
  split
  · rename_i existing hex
    simp only [wp_bind, wp_require, wp_pure, implies_true, and_true]
    intro _
    split at hex
    · obtain ⟨hmem, hp⟩ := Table.find_mem hex
      simp only [Bool.and_eq_true, beq_iff_eq] at hp
      exact hreplay _ hmem hp.1 hp.2
    · cases hex
  · refine safe_bind hop fun r t h => ?_
    simp only [safe, wp_bind, wp_freshId, wp_now, wp_insertOperation, wp_pure, implies_true, and_true]
    intro ops hops
    exact h ops (by rw [Table.insert_rows hops]; exact List.prefix_append _ _)

/-- A call through the ledger does what its operation does, unless it is repeated. -/
theorem idempotent_did_or {projectId runId key : String} {ty : OperationType} {request : Json}
    {operation : M StoredResult} {P : Prop}
    (hop : safe operation (fun _ t => Did T s.db.core t.db.core ∧ P) s) :
    safe (Queue.idempotent env projectId runId ty key request operation)
      (fun _ t => Did T s.db.core t.db.core ∧ (recorded s.db ty key = true ∨ P)) s := by
  refine idempotent_spec (Q := fun _ c => Did T s.db.core c ∧ (recorded s.db ty key = true ∨ P))
    (fun o ho hty hkey => ⟨Did.refl, Or.inl ?_⟩)
    (safe_mono hop fun _ _ h _ hops => ⟨h.1.record hops, Or.inr h.2⟩)
  unfold recorded Table.find
  rw [List.find?_isSome]
  exact ⟨o, ho, by simp [hty, hkey]⟩

theorem idempotent_did {projectId runId key : String} {ty : OperationType} {request : Json}
    {operation : M StoredResult} (hop : safe operation (fun _ t => Did T s.db.core t.db.core) s) :
    safe (Queue.idempotent env projectId runId ty key request operation)
      (fun _ t => Did T s.db.core t.db.core) s :=
  safe_mono (idempotent_did_or (P := True) (safe_mono hop fun _ _ h => ⟨h, trivial⟩)) fun _ _ h => h.1

/-! ### Closing leases -/

/-- A lease closed by its id. -/
theorem closeLease_spec {l : JobLeaseRow} {status : JobLeaseStatus} {releasedAt : Timestamp}
    {releaseReason operationId : String} (hl : l ∈ s.db.jobLeases.rows) (hs : l.status = .active)
    (hst : status ≠ .active) :
    safe (Recovery.closeLease l.leaseId status releasedAt releaseReason operationId)
      (fun _ t => ∃ leases, t.db.core = { s.db.core with jobLeases := leases } ∧
        ∀ jobs, (poolOf jobs leases).held =
          update (poolOf jobs s.db.jobLeases).held l.jobId none) s := by
  simp only [Recovery.closeLease, safe, wp_updateLeases, implies_true, and_true]
  intro leases h
  exact ⟨leases, rfl, fun jobs => leases_close h hl hs (fun l' => by simp) fun _ => hst⟩

/-- The lease of a job closed by its generation. When the job was never leased
there is none to close. -/
theorem releaseJobLease_spec {job : PageJob} {releasedAt : Timestamp}
    {releaseReason operationId : String}
    (hgen : ∀ l ∈ s.db.jobLeases.rows, l.status = .active → l.jobId = job.jobId →
      l.fencingGeneration = job.fencingGeneration) :
    safe (Queue.releaseJobLease job releasedAt releaseReason operationId)
      (fun _ t => ∃ leases, t.db.core = { s.db.core with jobLeases := leases } ∧
        ∀ jobs, (poolOf jobs leases).held =
          update (poolOf jobs s.db.jobLeases).held job.jobId none) s := by
  unfold Queue.releaseJobLease
  simp only [safe, wp_ite, wp_updateLeases, wp_pure, implies_true, and_true]
  constructor
  · intro _ leases h
    refine ⟨leases, rfl, fun jobs => leases_drop h (fun l _ hp => ?_) (fun l hl hs hj => ?_) fun _ => by simp⟩
    · simp only [Bool.and_eq_true, beq_iff_eq] at hp
      exact ⟨hp.2, hp.1.1⟩
    · simp [hs, hj, hgen l hl hs hj]
  · intro hzero
    refine ⟨s.db.jobLeases, rfl, fun jobs => held_update_none (held_none.2 fun l hl hs hj => ?_)⟩
    have hpos := s.db.jobLeases.checked l hl
    simp only [jobLeases, Bool.and_eq_true, decide_eq_true_eq] at hpos
    have := hgen l hl hs hj
    omega

/-- The active lease of a job has the job's generation. -/
theorem Sound.generation {hash : String → String} {db : Db} (h : Sound hash db.pool) {a : PageJobRow}
    (ha : a ∈ db.pageJobs.rows) {l : JobLeaseRow} (hl : l ∈ db.jobLeases.rows)
    (hs : l.status = .active) (hj : l.jobId = a.jobId) : l.fencingGeneration = a.fencingGeneration := by
  obtain ⟨j, hjob, -, -, hgen, -⟩ := h.lease l.jobId (holdOf l) (held_mem hl hs)
  have hj' : db.pool.jobs l.jobId = some (jobOf a) := by rw [hj]; exact jobs_mem ha
  rw [hj'] at hjob
  obtain rfl := Option.some.inj hjob
  exact hgen.symm

/-- A job that is not in work is not set aside. -/
theorem Sound.recovery_none {hash : String → String} {db : Db} (h : Sound hash db.pool)
    {a : PageJobRow} (ha : a ∈ db.pageJobs.rows) (hs : a.state ≠ .processing) :
    a.recoveryState = none := by
  by_contra hr
  exact hs (h.aside _ _ (jobs_mem ha) hr)

/-- Only a job in work, not set aside, has an active lease. -/
theorem Sound.no_lease {hash : String → String} {db : Db} (h : Sound hash db.pool) {a : PageJobRow}
    (ha : a ∈ db.pageJobs.rows) (hs : a.state ≠ .processing ∨ a.recoveryState ≠ none) :
    db.pool.held a.jobId = none := by
  cases hh : db.pool.held a.jobId with
  | none => rfl
  | some l =>
    obtain ⟨j, hjob, hst, hr, -⟩ := h.lease _ _ hh
    have hj : db.pool.jobs a.jobId = some (jobOf a) := jobs_mem ha
    rw [hj] at hjob
    obtain rfl := Option.some.inj hjob
    rcases hs with hs | hs
    · exact absurd hst hs
    · exact absurd hr hs

end OfflineWebArchiver
