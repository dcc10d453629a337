import OfflineWebArchiver.Lifecycle.Outcome
import OfflineWebArchiver.Properties.Sample

/-!
# Attempts

A job that waits in the queue is to have attempts left, so that a claim never finds
an exhausted job. `resumeRun` puts jobs back into the queue without asking.

* `Fresh`: every waiting job has attempts left.
* `fresh_run`: **it holds along every run in which no exhausted job is resumed, and
  then no claim fails for want of attempts.**
-/

namespace OfflineWebArchiver

open Relational Program Function Relation

variable {env : Env} {db db' : Db} {s : Call} {e : Event}

/-- Every waiting job has attempts left. -/
def Fresh (P : Pool) : Prop :=
  ∀ k j, P.jobs k = some j → j.state = .pending ∨ j.state = .retrying → j.attempts < j.maxAttempts

/-- The turns that put a job into the queue only with attempts left. -/
def Spares (j j' : Job) : Prop :=
  (j.state = .pending ∨ j.state = .retrying → j.attempts < j.maxAttempts) →
    j'.state = .pending ∨ j'.state = .retrying → j'.attempts < j'.maxAttempts

theorem Work.spares {j j' : Job} (h : Work j j') : Spares j j' := by
  intro _ hst
  cases h with
  | claimed => rcases hst with h | h <;> cases h
  | ended target ht =>
    have hst' : target = .pending ∨ target = .retrying := hst
    rcases hst' with rfl | rfl <;> exact ht.elim
  | retried _ _ hlt => exact hlt
  | released _ _ hlt => exact hlt
  | requeued _ _ hlt => exact hlt

theorem Suspend.spares {j j' : Job} (h : Suspend j j') : Spares j j' := by
  obtain ⟨hproc, -, rfl⟩ := h
  intro _ hst
  have hst' : j.state = .pending ∨ j.state = .retrying := hst
  rw [hproc] at hst'
  rcases hst' with h | h <;> cases h

/-- A path of sparing turns keeps the queue fresh. -/
theorem Path.fresh {T : Job → Job → Prop} {P P' : Pool} (hT : ∀ j j', T j j' → Spares j j')
    (h : Path T P P') (hP : Fresh P) : Fresh P' :=
  h.forall_jobs (fun _ _ hj _ => hj.attempts) (fun _ _ _ ht hj => hT _ _ ht hj) hP

theorem Grant.fresh {hash : String → String} {P P' : Pool} {k t : String} {h : Hold}
    (hg : Grant hash P k t h P') (hP : Fresh P) : Fresh P' := by
  obtain ⟨⟨j, -, -, -, -, -, -, hjobs⟩, -, -⟩ := hg
  intro k' j' hj' hst
  rw [hjobs] at hj'
  by_cases hk : k' = k
  · subst hk
    rw [update_self] at hj'
    obtain rfl := Option.some.inj hj'
    rcases hst with h | h <;> cases h
  · rw [update_of_ne hk] at hj'
    exact hP k' j' hj' hst

/-! ### Resuming -/

/-- `resumeRun` would resume the run. -/
def Resumable (db : Db) (i : ResumeRunInput) : Prop :=
  Owned db i.projectId i.runId ∧ ∃ prior rs, db.control i.runId = some ⟨prior, rs⟩ ∧
    (prior ≠ .active ∧ prior ≠ .recovering ∧ prior ≠ .completed ∧ prior ≠ .failed ∧ prior ≠ .stopped) ∧
    canTransitionCrawlRunState rs .running = true

/-- The call puts a job without attempts back into the queue. -/
def ResumesExhausted (db : Db) : Op → Prop
  | .resumeRun i => Resumable db i ∧ ∃ a ∈ db.pageJobs.rows, a.runId = i.runId ∧
      a.state = .processing ∧ a.recoveryState ≠ none ∧ a.maxAttempts ≤ a.attemptCount
  | _ => False

/-- The call is a resume. -/
def Op.resumes : Op → Bool
  | .resumeRun _ => true
  | _ => false

theorem ResumesExhausted.resumes {op : Op} (h : ResumesExhausted db op) : op.resumes = true := by
  cases op with
  | resumeRun => rfl
  | _ => exact h.elim

theorem ResumesExhausted.row {op : Op} (h : ResumesExhausted db op) :
    ∃ a ∈ db.pageJobs.rows, a.maxAttempts ≤ a.attemptCount := by
  cases op with
  | resumeRun i =>
    obtain ⟨-, a, ha, -, -, -, hle⟩ := h
    exact ⟨a, ha, hle⟩
  | _ => exact h.elim

/-- Resuming a run keeps the queue fresh when the jobs it resumes have attempts left. -/
theorem Resumed.fresh {i : ResumeRunInput} {prior : RunControlState} {rs : CrawlRunState}
    (h : Resumed i prior rs db db') (hP : Fresh db.pool)
    (hc : ¬ResumesExhausted db (.resumeRun i)) : Fresh db'.pool := by
  have hall : ∀ a ∈ db.pageJobs.rows, a.runId = i.runId → a.state = .processing →
      a.recoveryState ≠ none → a.attemptCount < a.maxAttempts := by
    intro a ha hrun hst hr
    by_contra hlt
    exact hc ⟨⟨h.owned, prior, rs, h.control, h.idle, h.allowed⟩, a, ha, hrun, hst, hr, by omega⟩
  -- a job that is set aside keeps its attempts until it is resumed
  have hkeep : ∀ k j, db'.pool.jobs k = some j →
      (j.state = .pending ∨ j.state = .retrying → j.attempts < j.maxAttempts) ∧
      (j.run = i.runId → j.state = .processing → j.recovery ≠ none → j.attempts < j.maxAttempts) := by
    refine Path.forall_jobs (I := fun _ j =>
      (j.state = .pending ∨ j.state = .retrying → j.attempts < j.maxAttempts) ∧
      (j.run = i.runId → j.state = .processing → j.recovery ≠ none → j.attempts < j.maxAttempts))
      h.did.path (fun _ j hj => ⟨fun _ => hj.attempts, fun _ _ hr => absurd hj.recovery hr⟩)
      (fun _ j j' ht hj => ?_) fun k j hj => ⟨hP k j hj, fun hrun hst hr => ?_⟩
    · obtain ⟨hrun, hst, hr, rfl⟩ := ht
      exact ⟨fun _ => hj.2 hrun hst hr, fun _ _ hr' => absurd rfl hr'⟩
    · obtain ⟨a, ha, -, rfl⟩ := jobs_some hj
      exact hall a ha hrun hst hr
  exact fun k j hj => (hkeep k j hj).1

/-- A call that does not resume an exhausted job keeps the queue fresh. -/
theorem step_fresh (hs : Sound env.hashText db.pool) (hP : Fresh db.pool)
    (hc : ¬ResumesExhausted db e.op) : Fresh (step env db e).pool := by
  cases he : exec env db e with
  | error t => rw [step_error he]; exact hP
  | ok p =>
    obtain ⟨a, db'⟩ := p
    rw [step_ok he]
    cases exec_outcome hs he with
    | worked h _ _ => exact h.path.fresh (fun _ _ => Work.spares) hP
    | granted _ _ _ _ _ _ h => exact h.grant.fresh hP
    | committed _ _ _ h _ => exact h.did.path.fresh (fun _ _ => Work.spares) hP
    | recovered _ _ _ _ _ h _ =>
      refine h.did.path.fresh (fun j j' ht => ?_) hP
      have ht' := ht.2
      split at ht'
      · exact Suspend.spares ht'
      · exact Work.spares ht'
    | pauseRequested _ _ _ _ h _ => rw [h.steered.pool]; exact hP
    | acknowledged _ _ _ h _ => exact h.did.path.fresh (fun _ _ ht => Suspend.spares ht.2) hP
    | resumed i hop _ _ h _ => rw [hop] at hc; exact h.fresh hP hc
    | stateSet _ _ _ _ h _ => rw [h.steered.pool]; exact hP

/-! ### Claims -/

/-- `QUEUE_MAX_ATTEMPTS_REACHED`. -/
def Thrown.exhausted : Thrown → Bool
  | .queue .maxAttemptsReached _ _ => true
  | _ => false

/-- Whatever the program throws, it is not for want of attempts. -/
abbrev Spared {α : Type} (m : M α) (s : Call) : Prop :=
  wp m (fun _ _ => True) (fun t => t.exhausted = false) s

theorem ensure_spared {b : Bool} {e t : Thrown} (he : e.exhausted = false) (h : ensure b e = .error t) :
    t.exhausted = false := by
  unfold ensure at h
  split at h
  · cases h
  · cases h; exact he

theorem validateLeaseDuration_spared {d : ℤ} {t : Thrown} (h : validateLeaseDuration d = .error t) :
    t.exhausted = false := by
  unfold validateLeaseDuration at h
  cases hd : ensure (5000 ≤ d && d ≤ 86400000) (recoveryError .recoveryInputInvalid
      "Lease duration must be from 5000 to 86400000 milliseconds") with
  | ok u => rw [hd] at h; cases h
  | error e => rw [hd] at h; cases h; exact ensure_spared rfl hd

theorem calculateLeaseExpiry_spared {base : Timestamp} {d : ℤ} {t : Thrown}
    (h : calculateLeaseExpiry base d = .error t) : t.exhausted = false := by
  unfold calculateLeaseExpiry at h
  cases hb : parseUtcField base "Lease base time" with
  | error e =>
    rw [hb] at h
    cases h
    unfold parseUtcField at hb
    split at hb
    · split at hb <;> cases hb; rfl
    · cases hb; rfl
  | ok b =>
    rw [hb] at h
    cases hd : validateLeaseDuration d with
    | ok u => rw [hd] at h; cases h
    | error e => rw [hd] at h; cases h; exact validateLeaseDuration_spared hd

theorem transaction_spared {α : Type} {keeps : Thrown → Bool} {failure : Thrown → Thrown} {m : M α}
    (hf : ∀ e, (failure e).exhausted = false) (h : Spared m s) : Spared (transaction keeps failure m) s := by
  unfold transaction
  rw [Spared, wp_mapError]
  refine wp_mono h (fun _ _ h => h) fun e he => ?_
  split
  · exact he
  · exact hf e

theorem idempotent_spared {projectId runId key : String} {ty : OperationType} {request : Json}
    {operation : M StoredResult} (h : Spared operation s) :
    Spared (Queue.idempotent env projectId runId ty key request operation) s := by
  unfold Queue.idempotent
  simp only [Spared, wp_bind, wp_check, wp_database]
  refine ⟨fun _ _ => ?_, fun t ht => ensure_spared rfl ht⟩
  split
  · rw [wp_bind, wp_require]
    exact ⟨fun _ => trivial, fun _ => rfl⟩
  · rw [wp_bind]
    refine wp_mono h (fun _ t _ => ?_) fun _ h => h
    rw [wp_bind, wp_freshId, wp_bind, wp_now, wp_bind, wp_insertOperation]
    exact ⟨fun _ _ => trivial, fun _ => rfl⟩

theorem assertTransitionFrom_spared {source : Option PageJobState} {target : PageJobState} {t : Thrown}
    (h : assertTransitionFrom source target = .error t) : t.exhausted = false := by
  cases source with
  | none => cases h
  | some source =>
    unfold assertTransitionFrom assertTransition at h
    exact ensure_spared rfl h

theorem getJobRow_spared {projectId runId jobId : String} : Spared (getJobRow projectId runId jobId) s := by
  unfold getJobRow
  rw [Spared, wp_bind, wp_database, wp_orThrow]
  exact ⟨fun _ _ => trivial, fun _ => rfl⟩

/-- A fresh queue lets a pending row pass the check on attempts. -/
theorem Fresh.row {a : PageJobRow} (h : Fresh db.pool) (ha : a ∈ db.pageJobs.rows)
    (hst : a.state = .pending) : ((rowToJob a).attemptCount < (rowToJob a).maxAttempts) :=
  h a.jobId (jobOf a) (jobs_mem ha) (Or.inl hst)

theorem claimNext_spared {i : ClaimNextInput} (h : Fresh s.db.pool) : Spared (Queue.claimNext env i) s := by
  unfold Queue.claimNext Queue.queueTransaction Queue.validateOwnership
  refine transaction_spared (fun _ => rfl) ?_
  simp only [Spared, wp_bind, wp_database, wp_require]
  refine ⟨fun _ => ⟨fun _ => idempotent_spared ?_, fun _ => rfl⟩, fun _ => rfl⟩
  rw [Spared, wp_bind, wp_now, wp_bind, wp_database]
  split
  · trivial
  · rename_i row hrow
    obtain ⟨hmem, hp⟩ := head_select hrow
    simp only [Bool.and_eq_true, beq_iff_eq] at hp
    have hlt := h.row hmem hp.1.2
    unfold Queue.transition
    simp only [wp_bind, wp_require, wp_freshId, wp_updateJobs, wp_insertAttempt, wp_check,
      wp_insertTransition]
    refine ⟨fun _ => ⟨fun _ _ => ⟨fun _ => ⟨fun _ _ => ⟨fun _ _ => ⟨fun _ _ => ?_, fun _ => rfl⟩,
      fun t ht => assertTransitionFrom_spared ht⟩, fun _ => rfl⟩, fun _ => rfl⟩, fun _ => rfl⟩,
      fun hn => absurd hlt (by simpa using hn)⟩
    exact wp_mono getJobRow_spared (fun _ _ _ => trivial) fun _ h => h

theorem replayLease_spared {projectId runId jobId message : String} :
    Spared (Recovery.replayLease env projectId runId jobId message) s := by
  unfold Recovery.replayLease
  simp only [Spared, wp_bind, wp_database]
  refine wp_mono getJobRow_spared (fun _ _ _ => ?_) fun _ h => h
  split
  · simp only [wp_bind, wp_require, wp_pure]
    exact ⟨fun _ => trivial, fun _ => rfl⟩
  · rfl

theorem recordClaim_spared {input : ClaimNextWithLeaseInput} {operationType : OperationType}
    {requestHash : String} {jobId : Option String} {createdAt : Timestamp} :
    Spared (Recovery.recordClaim input operationType requestHash jobId createdAt) s := by
  simp only [Recovery.recordClaim, Spared, wp_bind, wp_freshId, wp_insertOperation]
  exact ⟨fun _ _ => trivial, fun _ => rfl⟩

theorem grantLease_spared {kind : Recovery.ClaimKind} {input : ClaimNextWithLeaseInput}
    {requestHash : String} {timestamp : Timestamp} {job : PageJob}
    (hlt : job.attemptCount < job.maxAttempts) :
    Spared (Recovery.grantLease env kind input requestHash timestamp job) s := by
  unfold Recovery.grantLease
  simp only [Spared, wp_bind, wp_require, wp_freshId, wp_check, wp_updateJobs, wp_insertAttempt,
    wp_insertLease, wp_insertTransition]
  refine ⟨fun _ => ⟨fun expiresAt _ => ⟨fun jobs _ => ⟨fun _ => ⟨fun attempts _ => ⟨fun leases _ =>
    ⟨fun transitions _ => ?_, fun _ => rfl⟩, fun _ => rfl⟩, fun _ => rfl⟩, fun _ => rfl⟩,
    fun _ => rfl⟩, fun t ht => calculateLeaseExpiry_spared ht⟩, fun hn => absurd hlt (by simpa using hn)⟩
  refine wp_mono recordClaim_spared (fun _ t _ => ?_) fun _ h => h
  simp only [wp_database, wp_orThrow]
  refine ⟨fun _ _ => ?_, fun _ => rfl⟩
  exact wp_mono getJobRow_spared (fun _ _ _ => trivial) fun _ h => h

/-- The checks that a leased claim passes first. -/
theorem claim_spared {α : Type} {projectId runId : String} {d : ℤ} {m : M α} (h : Spared m s) :
    Spared (do
      let _ ← check (validateLeaseDuration d)
      Recovery.recoveryTransaction do
        Recovery.validateOwnership projectId runId
        Recovery.assertRunActive projectId runId
        m) s := by
  rw [Spared, wp_bind, wp_check]
  refine ⟨fun _ _ => transaction_spared (fun _ => rfl) ?_, fun t ht => validateLeaseDuration_spared ht⟩
  unfold Recovery.validateOwnership Recovery.assertRunActive Recovery.runState
  simp only [Spared, wp_bind, wp_database, wp_require, wp_orThrow]
  exact ⟨fun _ => ⟨fun _ _ => ⟨fun _ => h, fun _ => rfl⟩, fun _ => rfl⟩, fun _ => rfl⟩

theorem claimNextWithLease_spared {i : ClaimNextWithLeaseInput} (h : Fresh s.db.pool) :
    Spared (Recovery.claimNextWithLease env i) s := by
  unfold Recovery.claimNextWithLease
  refine claim_spared ?_
  simp only [Spared, wp_bind, wp_database]
  split
  · simp only [wp_bind, wp_require]
    refine ⟨fun _ => ?_, fun _ => rfl⟩
    split
    · trivial
    · rw [wp_bind]
      exact wp_mono replayLease_spared (fun _ _ _ => trivial) fun _ h => h
    · rfl
  · simp only [wp_bind, wp_now]
    split
    · rw [wp_bind]
      exact wp_mono recordClaim_spared (fun _ _ _ => trivial) fun _ h => h
    · rename_i row hrow
      obtain ⟨hmem, hp⟩ := head_select hrow
      simp only [Bool.and_eq_true, beq_iff_eq] at hp
      rw [wp_bind]
      exact wp_mono (grantLease_spared (h.row hmem hp.1.1.2)) (fun _ _ _ => trivial) fun _ h => h

theorem claimJobWithLease_spared {i : ClaimJobWithLeaseInput} (h : Fresh s.db.pool) :
    Spared (Recovery.claimJobWithLease env i) s := by
  unfold Recovery.claimJobWithLease
  refine claim_spared ?_
  simp only [Spared, wp_bind, wp_database]
  split
  · simp only [wp_bind, wp_require]
    refine ⟨fun _ => ?_, fun _ => rfl⟩
    split
    · simp only [wp_bind, wp_require]
      exact ⟨fun _ => replayLease_spared, fun _ => rfl⟩
    · rfl
  · simp only [wp_bind, wp_now]
    unfold getJobRow
    simp only [wp_bind, wp_database, wp_orThrow, wp_require]
    refine ⟨fun row hrow => ⟨fun hp => ?_, fun _ => rfl⟩, fun _ => rfl⟩
    simp only [Bool.and_eq_true, beq_iff_eq] at hp
    split at hrow
    · exact grantLease_spared (h.row (Table.find_mem hrow).1 hp.1.1)
    · cases hrow

/-- The calls that take a job from the queue. -/
def Op.claims : Op → Bool
  | .claimNext _ | .claimNextWithLease _ | .claimJobWithLease _ => true
  | _ => false

/-- **No claim fails for want of attempts when the queue is fresh.** -/
theorem Fresh.claim (h : Fresh db.pool) (hop : e.op.claims = true) {t : Thrown}
    (he : exec env db e = .error t) : t.exhausted = false := by
  refine exec_error_of_wp (Q := fun _ _ => True) (R := fun t => t.exhausted = false) ?_ he
  cases hop' : e.op with
  | claimNext i => exact (wp_map _ _).2 (claimNext_spared h)
  | claimNextWithLease i => exact (wp_map _ _).2 (claimNextWithLease_spared h)
  | claimJobWithLease i => exact (wp_map _ _).2 (claimJobWithLease_spared h)
  | _ => rw [hop'] at hop; cases hop

/-! ### Runs -/

/-- **No exhausted job is ever in the queue**, in every run whose resumes find only jobs
with attempts left; and then no claim fails for want of attempts. -/
theorem fresh_run (env : Env) (project : Project) (createdAt : Timestamp) (es : List Event)
    (hes : Run.Meets (step env) (Db.create project createdAt)
      (fun db e => ¬ResumesExhausted db e.op) es) (n : ℕ) :
    (∀ a ∈ (storeAt env project createdAt es n).pageJobs.rows,
      a.state = .pending ∨ a.state = .retrying → a.attemptCount < a.maxAttempts) ∧
    ∀ e t, e.op.claims = true → exec env (storeAt env project createdAt es n) e = .error t →
      t.exhausted = false := by
  have hfresh : Fresh (storeAt env project createdAt es n).pool := by
    refine Run.stAt_induction (P := fun db : Db => Fresh db.pool) (fun k j hj => ?_)
      (fun n e he h => step_fresh (sound_run n) h (hes n e he)) n
    obtain ⟨a, ha, -⟩ := jobs_some hj
    cases ha
  exact ⟨fun a ha hst => hfresh a.jobId (jobOf a) (jobs_mem ha) hst,
    fun e t hop he => hfresh.claim hop he⟩

/-! ### A run that resumes an exhausted job -/

/-- A page with two attempts is claimed, paused and resumed, and claimed again. -/
def resumedRun : List Event :=
  [Sample.event 0 "a" (Sample.enqueue 'a' 2 "k1"), Sample.event 0 "b" (Sample.claimWithLease "o" "k2"),
    Sample.event 0 "c" (Sample.requestPause "k3"),
    Sample.event 0 "d" (Sample.acknowledgePause (Sample.holder "a0" "b0" 1 "o" "k4")),
    Sample.event 0 "e" (Sample.resumeRun "k5"), Sample.event 0 "f" (Sample.claimWithLease "o" "k6")]

/-- Its last attempt is paused and resumed as well. -/
def exhaustedRun : List Event :=
  resumedRun ++ [Sample.event 0 "g" (Sample.requestPause "k7"),
    Sample.event 0 "h" (Sample.acknowledgePause (Sample.holder "a0" "f0" 2 "o" "k8")),
    Sample.event 0 "i" (Sample.resumeRun "k9")]

def lateClaim : Event := Sample.event 0 "j" (Sample.claimNext "k10")

/-- Only its fifth event resumes. -/
theorem resumedRun_resumes {n : ℕ} (he : resumedRun[n]? = some e) (hop : e.op.resumes = true) : n = 4 := by
  match n, he with
  | 4, _ => rfl
  | 0, he | 1, he | 2, he | 3, he | 5, he => cases he; cases hop
  | _ + 6, he => cases he

/-- The call throws `QUEUE_MAX_ATTEMPTS_REACHED`. -/
def throwsExhausted (env : Env) (db : Db) (e : Event) : Bool :=
  match exec env db e with
  | .ok _ => false
  | .error t => t.exhausted

theorem exists_exhausted (h : throwsExhausted env db e = true) :
    ∃ t, exec env db e = .error t ∧ t.exhausted = true := by
  unfold throwsExhausted at h
  split at h
  · cases h
  · exact ⟨_, ‹_›, h⟩

set_option maxRecDepth 100000 in
theorem exhaustedRun_facts :
    (∀ a ∈ (storeAt Sample.env Sample.project (Sample.minute 0) resumedRun 4).pageJobs.rows,
      a.attemptCount < a.maxAttempts) ∧
    (∃ a ∈ (storeAt Sample.env Sample.project (Sample.minute 0) exhaustedRun 9).pageJobs.rows,
      a.state = .pending ∧ a.maxAttempts ≤ a.attemptCount) ∧
    throwsExhausted Sample.env (storeAt Sample.env Sample.project (Sample.minute 0) exhaustedRun 9)
      lateClaim = true := by
  rw [Sample.env_eq]
  decide +kernel

theorem fresh_run_resumedRun :
    (∀ a ∈ (storeAt Sample.env Sample.project (Sample.minute 0) resumedRun 5).pageJobs.rows,
      a.state = .pending ∨ a.state = .retrying → a.attemptCount < a.maxAttempts) ∧
    ∀ e t, e.op.claims = true →
      exec Sample.env (storeAt Sample.env Sample.project (Sample.minute 0) resumedRun 5) e = .error t →
      t.exhausted = false := by
  have hleft := exhaustedRun_facts.1
  unfold storeAt dbAt at hleft
  refine fresh_run Sample.env Sample.project (Sample.minute 0) resumedRun (fun n e he hres => ?_) 5
  obtain rfl := resumedRun_resumes he hres.resumes
  obtain ⟨a, ha, hle⟩ := hres.row
  exact absurd (hleft a ha) (not_lt.2 hle)

/-- The exhausted job waits in the queue, and the next claim fails. -/
theorem exhaustedRun_claim :
    (∃ a ∈ (storeAt Sample.env Sample.project (Sample.minute 0) exhaustedRun 9).pageJobs.rows,
      a.state = .pending ∧ ¬a.attemptCount < a.maxAttempts) ∧
    lateClaim.op.claims = true ∧ ∃ t,
      exec Sample.env (storeAt Sample.env Sample.project (Sample.minute 0) exhaustedRun 9) lateClaim =
        .error t ∧ t.exhausted = true := by
  obtain ⟨-, ⟨a, ha, hst, hle⟩, hthrow⟩ := exhaustedRun_facts
  exact ⟨⟨a, ha, hst, not_lt.2 hle⟩, rfl, exists_exhausted hthrow⟩

end OfflineWebArchiver
