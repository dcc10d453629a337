import Mathlib.Data.List.MinMax
import OfflineWebArchiver.Lifecycle.Recovery

/-!
# Calls that do return

The other modules say what a call has done when it returns. Here a call is shown to
return, given ids that no row has yet.

* `FreshIds`: the ids that the call draws are new to `job_transitions`.
* `exists_freshIds`: there always are such ids.
* `resumeRun_returns`: **a paused run can be resumed.**
-/

namespace OfflineWebArchiver

open Relational Program Function Relation

variable {env : Env} {s : Call} {Q : Unit → Call → Prop} {R : Thrown → Prop}

/-- The ids still to be drawn differ from each other and from those of the transitions. -/
structure FreshIds (s : Call) : Prop where
  injective : Injective s.ids
  fresh : ∀ n, s.drawn ≤ n → ∀ t ∈ s.db.jobTransitions.rows, t.transitionId ≠ s.ids n

/-- Longer and longer runs of one letter. -/
theorem exists_freshIds (db : Db) : ∃ ids : ℕ → String, Injective ids ∧
    ∀ n, ∀ t ∈ db.jobTransitions.rows, t.transitionId ≠ ids n := by
  let bound := (db.jobTransitions.rows.map (·.transitionId.length)).foldr max 0
  refine ⟨fun n => String.ofList (List.replicate (bound + 1 + n) 'x'), fun m n h => ?_, fun n t ht h => ?_⟩
  · have hlen := congrArg String.length h
    simpa using hlen
  · have hlen := congrArg String.length h
    have hle : t.transitionId.length ≤ bound :=
      List.le_max_of_le' 0 (List.mem_map.2 ⟨t, ht, rfl⟩) le_rfl
    simp only [String.length_ofList, List.length_replicate] at hlen
    omega

theorem transition_returns {jobId reasonCode operationId correlationId : String}
    {source target : PageJobState} {occurredAt : Timestamp} (h : FreshIds s) :
    wp (Recovery.transition jobId source target reasonCode operationId correlationId occurredAt)
      (fun _ t => FreshIds t) (fun _ => False) s := by
  simp only [Recovery.transition, wp_bind, wp_freshId, wp_insertTransition, wp_pure]
  constructor
  · intro table htable
    refine ⟨h.injective, fun n hn t ht => ?_⟩
    have hn' : s.drawn + 2 ≤ n := hn
    have ht' : t ∈ table.rows := ht
    rw [Table.insert_rows htable] at ht'
    rcases List.mem_append.1 ht' with ht' | ht'
    · exact h.fresh n (by omega) t ht'
    · rw [List.mem_singleton.1 ht']
      exact fun heq => absurd (h.injective heq) (by omega)
  · intro hnone
    obtain ⟨table, htable⟩ := Table.insert_some (t := s.db.jobTransitions) (r :=
      { transitionId := s.ids s.drawn, jobId, fromState := some (Recovery.physicalState source)
        toState := Recovery.physicalState target, reasonCode, operationId, correlationId, occurredAt
        safeMetadata := .obj [], recoveryFromState := Recovery.recoveryColumn source
        recoveryToState := Recovery.recoveryColumn target })
      (by cases source <;> cases target <;> rfl) fun a ha => by
      simpa [jobTransitions] using h.fresh s.drawn le_rfl a ha
    rw [htable] at hnone
    cases hnone

theorem runState_returns {projectId runId : String} {v : Control} {Q : RunControlRow → Call → Prop}
    (hp : projectId = s.db.project.projectId) (hv : s.db.control runId = some v)
    (h : ∀ c, controlOf c = v → Q c s) : wp (Recovery.runState projectId runId) Q R s := by
  unfold Recovery.runState
  rw [wp_bind, wp_database, wp_orThrow, if_pos hp]
  constructor
  · intro c hc
    obtain ⟨hmem, hrun⟩ := Table.find_mem hc
    refine h c (Option.some.inj ((controls_mem hmem).symm.trans ?_))
    rw [beq_iff_eq.1 hrun]
    exact hv
  · intro hnone
    obtain ⟨c, hc, hrun, -⟩ := controls_some hv
    simpa [hrun] using Table.find_none hnone c hc

theorem saveRunCheckpoint_returns {projectId runId : String} {v : Control}
    (hp : projectId = s.db.project.projectId) (hv : s.db.control runId = some v)
    (h : Q () { s with drawn := s.drawn + 1 }) : wp (Recovery.saveRunCheckpoint projectId runId) Q R s := by
  unfold Recovery.saveRunCheckpoint
  rw [wp_bind, wp_freshId, wp_bind]
  exact runState_returns hp hv fun _ _ => h

theorem pauseStatus_returns {projectId runId : String} {v : Control}
    {Q : PauseStatus → Call → Prop} (hp : projectId = s.db.project.projectId)
    (hv : s.db.control runId = some v) (h : ∀ status, Q status s) :
    wp (Recovery.pauseStatus projectId runId) Q R s := by
  unfold Recovery.pauseStatus
  rw [wp_bind]
  refine runState_returns hp hv fun _ _ => ?_
  rw [wp_bind, wp_database, wp_pure]
  exact h _

/-- The control rows allow every change that keeps their runs. -/
theorem updateControl_returns {p : RunControlRow → Bool} {f : RunControlRow → RunControlRow}
    (hid : ∀ c, (f c).runId = c.runId)
    (h : ∀ table, s.db.runControl.update p f = some table →
      Q () { s with db := { s.db with runControl := table } }) : wp (updateControl p f) Q R s := by
  rw [wp_updateControl]
  refine ⟨h, fun hnone => ?_⟩
  obtain ⟨table, htable⟩ := Table.update_some_of_key (t := s.db.runControl) (p := p) (f := f)
    (κ := String) (g := fun x y => x == y) (fun c : RunControlRow => c.runId) (fun _ _ => rfl) (fun _ _ _ => rfl)
    hid
  rw [htable] at hnone
  cases hnone

/-- What the unique keys of `page_jobs` read. -/
def PageJobRow.keys (a : PageJobRow) : ℕ × String × String × String × ℕ × String :=
  (a.queueSequence, a.jobId, a.runId, a.profileRevisionId, a.normalizationEngineVersion, a.identityHash)

theorem updateJobs_some {t : Table pageJobs} {p : PageJobRow → Bool} {f : PageJobRow → PageJobRow}
    (hf : ∀ a ∈ t.rows, p a = true → pageJobCheck (f a) = true) (hk : ∀ a, (f a).keys = a.keys) :
    ∃ t', t.update p f = some t' :=
  Table.update_some_of_key PageJobRow.keys
    (g := fun x y => x.1 == y.1 || x.2.1 == y.2.1 || (x.2.2.1 == y.2.2.1 && x.2.2.2.1 == y.2.2.2.1 &&
      x.2.2.2.2.1 == y.2.2.2.2.1 && x.2.2.2.2.2 == y.2.2.2.2.2)) (fun _ _ => rfl) hf hk

/-- A row in work may go back to the queue. -/
theorem pageJobCheck_resumed {a : PageJobRow} {timestamp : Timestamp} (ha : pageJobCheck a = true)
    (hs : a.state = .processing) :
    pageJobCheck { a with state := .pending, recoveryState := none, claimToken := none, claimedBy := none
                          claimedAt := none, updatedAt := timestamp } = true := by
  simp only [pageJobCheck, hs, Bool.and_eq_true] at ha ⊢
  simp_all

theorem resumeJob_returns {input : ResumeRunInput} {timestamp : Timestamp} {a : PageJobRow}
    (h : FreshIds s) (ha : a ∈ s.db.pageJobs.rows) (hst : a.state = .processing) :
    wp (Recovery.resumeJob input timestamp a) (fun _ t => FreshIds t) (fun _ => False) s := by
  simp only [Recovery.resumeJob, wp_bind, wp_updateJobs]
  constructor
  · exact fun jobs _ => transition_returns ⟨h.injective, h.fresh⟩
  · intro hnone
    -- the only row to change is the one in work
    have hcheck : ∀ b ∈ s.db.pageJobs.rows, (b.jobId == (rowToJob a).jobId) = true →
        pageJobCheck { b with state := .pending, recoveryState := none, claimToken := none
                              claimedBy := none, claimedAt := none, updatedAt := timestamp } = true := by
      intro b hb hba
      obtain rfl := job_eq hb ha (beq_iff_eq.1 hba)
      exact pageJobCheck_resumed (s.db.pageJobs.checked b hb) hst
    obtain ⟨table, htable⟩ := updateJobs_some hcheck fun _ => rfl
    rw [htable] at hnone
    cases hnone

/-- **A paused run can be resumed.** -/
theorem resumeRun_returns {input : ResumeRunInput} {v : Control} (hs : Sound env.hashText s.db.pool)
    (h : FreshIds s) (howned : Owned s.db input.projectId input.runId)
    (hv : s.db.control input.runId = some v) (hpaused : Recovery.pauseRequested v.control = true)
    (hallowed : canTransitionCrawlRunState v.run .running = true) :
    wp (Recovery.resumeRun input) (fun _ _ => True) (fun _ => False) s := by
  obtain ⟨hp, hrun⟩ := howned
  unfold Recovery.resumeRun Recovery.recoveryTransaction transaction
  rw [wp_mapError, wp_bind]
  refine validateOwnership_wp hp hrun ?_
  rw [wp_bind]
  refine runState_returns hp hv fun control hcontrol => ?_
  have hcs : control.controlState = v.control := congrArg Control.control hcontrol
  have hstate : control.controlState = .pauseRequested ∨ control.controlState = .paused := by
    rw [hcs]; simpa [Recovery.pauseRequested] using hpaused
  rw [wp_ite]
  refine ⟨fun hact => ?_, fun _ => ?_⟩
  · rcases hstate with h | h <;> rw [h] at hact <;> cases hact
  rw [wp_bind, wp_require]
  refine ⟨fun _ => ?_, fun hno => ?_⟩
  swap
  · rcases hstate with h | h <;> rw [h] at hno <;> cases hno
  rw [wp_bind, wp_now, wp_bind]
  refine wp_mono (wp_and (Q := fun _ t => FreshIds t ∧ t.db.core = { s.db.core with runControl := t.db.runControl })
    (updateControl_returns (fun _ => rfl) fun table _ => ⟨⟨h.injective, h.fresh⟩, rfl⟩)
    (setControl_spec hv)) (fun _ t₁ h₁ => ?_) fun _ h => h
  obtain ⟨⟨hfresh, hcore₁⟩, table, hdb₁, htable⟩ := h₁
  have hpool₁ : t₁.db.pool = s.db.pool := by rw [Db.pool_eq, hcore₁]; rfl
  rw [wp_bind, wp_database, wp_bind]
  refine wp_mono (resumeLoop_wp (I := FreshIds) (hpool₁ ▸ hs : Sound env.hashText t₁.db.pool)
    (fun _ _ hI ha hst => resumeJob_returns hI ha hst) hfresh) (fun _ t₂ h₂ => ?_) fun _ h => h
  obtain ⟨-, hdid, -⟩ := h₂
  have hp₂ : input.projectId = t₂.db.project.projectId := by
    have hproject : t₂.db.project = s.db.project := by
      rw [show t₂.db.project = t₁.db.project from hdid.project]
      exact congrArg Core.project hcore₁
    rw [hproject]; exact hp
  have hv₂ : t₂.db.control input.runId = some ⟨.resuming, v.run⟩ := by
    have hcontrol₂ : t₂.db.control = controlsOf table := by
      rw [Db.control, show t₂.db.runControl = t₁.db.runControl from hdid.runControl, hdb₁]
    rw [hcontrol₂, htable, update_self]
  rw [wp_bind]
  refine runState_returns hp₂ hv₂ fun control₂ hcontrol₂ => ?_
  have hrs : control₂.runState = v.run := congrArg Control.run hcontrol₂
  rw [wp_bind, wp_check, hrs]
  have hok : assertCrawlRunTransition v.run .running = .ok () := by
    unfold assertCrawlRunTransition ensure
    rw [hallowed]; rfl
  refine ⟨fun _ _ => ?_, fun e he => by rw [hok] at he; cases he⟩
  rw [wp_bind]
  refine updateControl_returns (fun _ => rfl) fun table' htable' => ?_
  have hv₃ : controlsOf table' input.runId = some ⟨.active, .running⟩ := by
    rw [control_update (w := ⟨.active, .running⟩) htable' hv₂ (fun _ => rfl) fun c _ => rfl, update_self]
  rw [wp_bind]
  refine saveRunCheckpoint_returns hp₂ hv₃ ?_
  exact pauseStatus_returns hp₂ hv₃ fun _ => trivial

end OfflineWebArchiver

/-!
## Finishing a job that is in hand

A job that `claimNext` hands out is in work under its claim token. `complete` and `fail`
are followed here to their end, whatever it is: they write the job, its attempt, a
transition and a ledger row, and none of these writes can be refused.

* `NewIds`: the ids that a call draws are new to the tables in which it uses them.
* `idempotent_new`: a call with a new key records what its operation returns.
* `claimNext_hands`: **a new claim leaves its job in hand, and without a lease.**
* `complete_wp`, `fail_wp`: **a job in hand without a lease is finished exactly when it
  was never leased.**
-/

namespace OfflineWebArchiver

open Relational Program Function Relation

variable {env : Env} {s : Call} {R : Thrown → Prop} {P : Prop} {job : PageJob} {a : PageJobRow}

/-- The job is in work as it was handed out: not set aside, and under the same claim
token and fencing generation. -/
def InHand (db : Db) (job : PageJob) : Prop :=
  ∃ a ∈ db.pageJobs.rows, a.jobId = job.jobId ∧ a.runId = job.runId ∧ a.state = .processing ∧
    a.recoveryState = none ∧ a.claimToken = job.claimToken ∧
    a.fencingGeneration = job.fencingGeneration

/-- The ids still to be drawn are new to the transitions and to the ledger. -/
structure NewIds (s : Call) : Prop extends FreshIds s where
  operations : ∀ n, s.drawn ≤ n → ∀ o ∈ s.db.queueOperations.rows, o.operationRecordId ≠ s.ids n

/-- A SHA-256 has 64 hexadecimal digits. -/
def Env.Digests (env : Env) : Prop := ∀ bytes, (env.sha256 bytes).length = 64

theorem ensure_ok {b : Bool} {e : Thrown} (h : b = true) : ensure b e = .ok () := by
  rw [h]; rfl

/-! ### The ledger -/

theorem not_recorded {db : Db} {ty : OperationType} {key : String} (h : recorded db ty key = false)
    {o : QueueOperationRow} (ho : o ∈ db.queueOperations.rows) (hty : o.operationType = ty) :
    o.idempotencyKey ≠ key := by
  intro hkey
  have hfind : (db.queueOperations.find fun o => o.operationType == ty && o.idempotencyKey == key) = none :=
    Option.not_isSome_iff_eq_none.1 (by unfold recorded at h; rw [h]; exact Bool.false_ne_true)
  simpa [hty, hkey] using Table.find_none hfind o ho

/-- A call with a new key records the result of its operation. -/
theorem idempotent_new {projectId runId key : String} {ty : OperationType} {request : Json}
    {operation : M StoredResult} (hsha : env.Digests) (hp : projectId = s.db.project.projectId)
    (hkey : isIdempotencyKey key = true) (hnew : recorded s.db ty key = false)
    (hop : wp operation
      (fun _ t => NewIds t ∧ t.db.queueOperations = s.db.queueOperations ∧ P) R s) :
    wp (Queue.idempotent env projectId runId ty key request operation) (fun _ _ => P) R s := by
  have hok : assertIdempotencyKey key "idempotencyKey" = .ok () := ensure_ok hkey
  have hfind : (s.db.queueOperations.find fun o => o.operationType == ty && o.idempotencyKey == key) = none :=
    Option.not_isSome_iff_eq_none.1 (by unfold recorded at hnew; rw [hnew]; exact Bool.false_ne_true)
  unfold Queue.idempotent
  rw [wp_bind, wp_check, hok]
  refine ⟨fun _ _ => ?_, fun e he => by cases he⟩
  rw [wp_bind, wp_database]
  simp only [if_pos hp, hfind, wp_bind]
  refine wp_mono hop (fun result t ht => ?_) fun _ h => h
  obtain ⟨hids, hops, hP⟩ := ht
  simp only [wp_freshId, wp_now, wp_insertOperation, wp_pure]
  refine ⟨fun _ _ => hP, fun hnone => ?_⟩
  obtain ⟨table, htable⟩ := Table.insert_some (t := t.db.queueOperations)
    (r := ⟨t.ids t.drawn, runId, ty, key, env.hash request, result, t.clock t.ticks⟩)
    (beq_iff_eq.2 (hsha _)) fun o ho => by
      have hid : o.operationRecordId ≠ t.ids t.drawn := hids.operations _ le_rfl o ho
      have hold : o.operationType = ty → o.idempotencyKey ≠ key :=
        not_recorded hnew (hops ▸ ho)
      simpa [queueOperations, hid] using hold
  rw [htable] at hnone
  cases hnone

/-! ### The writes of a finish -/

theorem NewIds.of_eq {t : Call} (h : NewIds s) (hids : t.ids = s.ids) (hdrawn : s.drawn ≤ t.drawn)
    (htransitions : t.db.jobTransitions = s.db.jobTransitions)
    (hoperations : t.db.queueOperations = s.db.queueOperations) : NewIds t where
  injective := hids ▸ h.injective
  fresh n hn := by rw [hids, htransitions]; exact h.fresh n (hdrawn.trans hn)
  operations n hn := by rw [hids, hoperations]; exact h.operations n (hdrawn.trans hn)

theorem queue_transition_returns {jobId reasonCode operationId correlationId : String}
    {source target : PageJobState} {occurredAt : Timestamp} {metadata : Json}
    (hallowed : canTransition source target = true) (hsource : source.isStored = true)
    (htarget : target.isStored = true) (h : NewIds s) :
    wp (Queue.transition jobId (some source) target reasonCode operationId correlationId occurredAt metadata)
      (fun _ t => NewIds t ∧ t.db.queueOperations = s.db.queueOperations ∧
        t.db.core = s.db.core) R s := by
  have hok : assertTransitionFrom (some source) target = .ok () := ensure_ok hallowed
  unfold Queue.transition
  rw [wp_bind, wp_check, hok]
  refine ⟨fun _ _ => ?_, fun e he => by cases he⟩
  rw [wp_bind, wp_freshId, wp_insertTransition]
  constructor
  · intro table htable
    refine ⟨⟨⟨h.injective, fun n hn t ht => ?_⟩, fun n hn => h.operations n (Nat.le_of_succ_le hn)⟩, rfl, rfl⟩
    have hn' : s.drawn + 1 ≤ n := hn
    have ht' : t ∈ table.rows := ht
    rw [Table.insert_rows htable] at ht'
    rcases List.mem_append.1 ht' with ht' | ht'
    · exact h.fresh n (by omega) t ht'
    · rw [List.mem_singleton.1 ht']
      exact fun heq => absurd (h.injective heq) (by omega)
  · intro hnone
    obtain ⟨table, htable⟩ := Table.insert_some (t := s.db.jobTransitions) (r :=
      { transitionId := s.ids s.drawn, jobId, fromState := some source, toState := target, reasonCode
        operationId, correlationId, occurredAt, safeMetadata := metadata })
      (by simp [jobTransitions, hsource, htarget]) fun a ha => by
      simpa [jobTransitions] using h.fresh s.drawn le_rfl a ha
    rw [htable] at hnone
    cases hnone

/-- What the unique keys of `job_attempts` read. -/
def JobAttemptRow.keys (t : JobAttemptRow) : String × String × String × ℕ :=
  (t.attemptId, t.claimToken, t.jobId, t.attemptNumber)

theorem finishAttempt_returns {jobId : String} {claimToken : Option String}
    {f : JobAttemptRow → JobAttemptRow} (hf : ∀ t, (f t).keys = t.keys) (h : NewIds s) :
    wp (Queue.finishAttempt jobId claimToken f)
      (fun _ t => NewIds t ∧ t.db.queueOperations = s.db.queueOperations ∧
        t.db.core = s.db.core) R s := by
  unfold Queue.finishAttempt
  rw [wp_updateAttempts]
  refine ⟨fun table _ => ⟨h.of_eq rfl le_rfl rfl rfl, rfl, rfl⟩, fun hnone => ?_⟩
  have hcheck : ∀ t ∈ s.db.jobAttempts.rows,
      (t.jobId == jobId && some t.claimToken == claimToken && t.finishedAt.isNone) = true →
        jobAttempts.check (f t) = true := by
    intro t ht _
    have hnumber : (f t).attemptNumber = t.attemptNumber := congrArg (·.2.2.2) (hf t)
    have hpos := s.db.jobAttempts.checked t ht
    simp only [jobAttempts] at hpos ⊢
    rw [hnumber]
    exact hpos
  obtain ⟨table, htable⟩ := Table.update_some_of_key (t := s.db.jobAttempts) JobAttemptRow.keys
    (g := fun x y => x.1 == y.1 || x.2.1 == y.2.1 || (x.2.2.1 == y.2.2.1 && x.2.2.2 == y.2.2.2))
    (fun _ _ => rfl) hcheck hf
  rw [htable] at hnone
  cases hnone

/-- The writes that finish a job which was never leased: none of them is refused. -/
theorem finish_returns {f : PageJobRow → PageJobRow} {g : JobAttemptRow → JobAttemptRow}
    {projectId releaseReason reasonCode operationId correlationId : String}
    {claimToken : Option String} {target : PageJobState} {at' : Timestamp} {metadata : Json}
    (hids : NewIds s) (hp : projectId = s.db.project.projectId) (ha : a ∈ s.db.pageJobs.rows)
    (hgen : a.fencingGeneration = 0) (hcheck : pageJobCheck (f a) = true)
    (hf : ∀ b, (f b).keys = b.keys) (hg : ∀ t, (g t).keys = t.keys)
    (hallowed : canTransition .processing target = true) (hstored : target.isStored = true) (hP : P) :
    wp (do
        let _ ← updateJobs (fun b => b.jobId == (rowToJob a).jobId) f
        Queue.finishAttempt (rowToJob a).jobId claimToken g
        Queue.releaseJobLease (rowToJob a) at' releaseReason operationId
        Queue.transition (rowToJob a).jobId (some .processing) target reasonCode operationId
          correlationId at' metadata
        let row ← getJobRow projectId a.runId (rowToJob a).jobId
        return StoredResult.job (some (rowToJob row)))
      (fun _ t => NewIds t ∧ t.db.queueOperations = s.db.queueOperations ∧ P) R s := by
  rw [wp_bind, wp_updateJobs]
  constructor
  · intro jobs hjobs
    have hb : f a ∈ jobs.rows := by
      rw [Table.update_rows hjobs]
      exact List.mem_map.2 ⟨a, ha, rewrite_pos (beq_iff_eq.2 rfl)⟩
    have hkeys := hf a
    rw [wp_bind]
    refine wp_mono (finishAttempt_returns hg (hids.of_eq rfl le_rfl rfl rfl)) (fun _ t₁ h₁ => ?_) fun _ h => h
    obtain ⟨hids₁, hops₁, hcore₁⟩ := h₁
    have hrelease : Queue.releaseJobLease (rowToJob a) at' releaseReason operationId = pure () := by
      unfold Queue.releaseJobLease
      rw [if_neg]
      show ¬0 < a.fencingGeneration
      omega
    rw [hrelease, wp_bind, wp_pure, wp_bind]
    refine wp_mono (queue_transition_returns hallowed rfl hstored hids₁) (fun _ t₂ h₂ => ?_) fun _ h => h
    obtain ⟨hids₂, hops₂, hcore₂⟩ := h₂
    have hrows : t₂.db.pageJobs = jobs := congrArg Core.pageJobs (hcore₂.trans hcore₁)
    have hproject : t₂.db.project = s.db.project := congrArg Core.project (hcore₂.trans hcore₁)
    simp only [PageJobRow.keys, Prod.mk.injEq] at hkeys
    have hid : (rowToJob a).jobId = (f a).jobId := hkeys.2.1.symm
    rw [wp_bind, hid, ← hkeys.2.2.1]
    refine getJobRow_wp (hp.trans (congrArg Project.projectId hproject.symm)) (hrows ▸ hb) ?_
    exact ⟨hids₂, hops₂.trans hops₁, hP⟩
  · intro hnone
    have hcheck' : ∀ b ∈ s.db.pageJobs.rows, (b.jobId == (rowToJob a).jobId) = true →
        pageJobCheck (f b) = true := by
      intro b hb hba
      obtain rfl := job_eq hb ha (beq_iff_eq.1 hba)
      exact hcheck
    obtain ⟨table, htable⟩ := updateJobs_some hcheck' hf
    rw [htable] at hnone
    cases hnone

/-! ### Finishing under a claim -/

/-- Whoever presents the claim of a job without a lease passes exactly when the job was
never leased. -/
theorem validateFencedClaim_wp {Q : Unit → Call → Prop} {claimToken : String}
    (hfree : s.db.pool.held a.jobId = none) (hQ : a.fencingGeneration = 0 → Q () s)
    (hR : a.fencingGeneration ≠ 0 → ∀ e, R e) :
    wp (Queue.validateFencedClaim env (rowToJob a) claimToken) Q R s := by
  unfold Queue.validateFencedClaim
  by_cases hgen : a.fencingGeneration = 0
  · have hgen' : (rowToJob a).fencingGeneration = 0 := hgen
    rw [if_pos hgen']
    exact hQ hgen
  · have hgen' : (rowToJob a).fencingGeneration ≠ 0 := hgen
    have hnone : (s.db.jobLeases.find fun l =>
        l.jobId == (rowToJob a).jobId && l.runId == (rowToJob a).runId && l.status == .active) = none := by
      cases hl : s.db.jobLeases.find fun l =>
          l.jobId == (rowToJob a).jobId && l.runId == (rowToJob a).runId && l.status == .active with
      | none => rfl
      | some l =>
        obtain ⟨hmem, hp⟩ := Table.find_mem hl
        simp only [Bool.and_eq_true, beq_iff_eq] at hp
        exact absurd hp.1.1 (held_none.1 hfree l hmem hp.2)
    rw [if_neg hgen']
    simp only [wp_bind, wp_database, hnone]
    exact hR hgen _

/-- What the holder of the job passes to `complete`. -/
structure CompleteInput.Valid (db : Db) (job : PageJob) (i : CompleteInput) : Prop where
  project : i.projectId = db.project.projectId
  run : i.runId = job.runId
  jobId : i.jobId = job.jobId
  token : some i.claimToken = job.claimToken
  completionKey : assertIdempotencyKey i.completionKey "completionKey" = .ok ()
  completedAt : assertUtcTimestamp i.completedAt "completedAt" = .ok ()
  result : validateResultSummary i.resultSummary = .ok ()
  key : isIdempotencyKey i.idempotencyKey = true
  fresh : recorded db .complete i.idempotencyKey = false

/-- What the holder of the job passes to `fail`. A failure that will be retried says when. -/
structure FailInput.Valid (db : Db) (job : PageJob) (i : FailInput) : Prop where
  project : i.projectId = db.project.projectId
  run : i.runId = job.runId
  jobId : i.jobId = job.jobId
  token : some i.claimToken = job.claimToken
  failureKey : assertIdempotencyKey i.failureKey "failureKey" = .ok ()
  failedAt : assertUtcTimestamp i.failedAt "failedAt" = .ok ()
  nextEligibleAt : assertOptionalUtcTimestamp i.nextEligibleAt "nextEligibleAt" = .ok ()
  retry : ∀ a ∈ db.pageJobs.rows, a.jobId = job.jobId → i.retryable = true →
    a.attemptCount < a.maxAttempts → i.nextEligibleAt.isSome = true
  key : isIdempotencyKey i.idempotencyKey = true
  fresh : recorded db .fail i.idempotencyKey = false

/-- The program goes on from an option that is there. -/
theorem wp_check_ok {α : Type} {x : Checked α} {b : α} {Q : α → Call → Prop} (hx : x = .ok b)
    (h : Q b s) : wp (check x) Q R s := by
  rw [wp_check, hx]
  exact ⟨fun c hc => Except.ok.inj hc ▸ h, fun e he => by cases he⟩

theorem queue_validateOwnership_wp {projectId runId : String} {Q : Unit → Call → Prop}
    (hp : projectId = s.db.project.projectId) (hr : s.db.project.runs.contains runId = true)
    (h : Q () s) : wp (Queue.validateOwnership projectId runId) Q R s := by
  unfold Queue.validateOwnership
  rw [wp_bind, wp_database, wp_bind, wp_require]
  refine ⟨fun _ => ?_, fun hne => by simp [hp] at hne⟩
  rw [wp_require]
  exact ⟨fun _ => h, fun hne => by rw [hr] at hne; cases hne⟩

theorem complete_wp {i : CompleteInput} (hsha : env.Digests) (hids : NewIds s)
    (hi : i.Valid s.db job) (hrun : s.db.project.runs.contains job.runId = true)
    (hhand : InHand s.db job) (hfree : s.db.pool.held job.jobId = none) :
    wp (Queue.complete env i) (fun _ _ => job.fencingGeneration = 0)
      (fun _ => job.fencingGeneration ≠ 0) s := by
  obtain ⟨a, ha, hid, har, hst, hrec, htoken, hgen⟩ := hhand
  rw [← hid] at hfree
  unfold Queue.complete Queue.queueTransaction transaction
  rw [wp_mapError, wp_bind]
  refine queue_validateOwnership_wp hi.project (hi.run ▸ hrun) ?_
  rw [wp_bind]
  refine wp_check_ok hi.completionKey ?_
  rw [wp_bind]
  refine wp_check_ok hi.completedAt ?_
  rw [wp_bind]
  refine wp_check_ok hi.result ?_
  refine idempotent_new hsha hi.project hi.key hi.fresh ?_
  rw [wp_bind, hi.run, hi.jobId, ← har, ← hid]
  refine getJobRow_wp hi.project ha ?_
  have hstate : (rowToJob a).state = .processing := (rowToJob_state .processing).2 ⟨hst, hrec⟩
  have hne : ¬(rowToJob a).state = .completed := by rw [hstate]; decide
  have htoken' : (rowToJob a).claimToken = some i.claimToken := htoken.trans hi.token.symm
  simp only [if_neg hne]
  rw [wp_bind, wp_require, hstate]
  refine ⟨fun _ => ?_, fun h => by cases h⟩
  rw [wp_bind, wp_require, htoken', beq_self_eq_true]
  refine ⟨fun _ => ?_, fun h => by cases h⟩
  rw [wp_bind]
  refine validateFencedClaim_wp hfree (fun hzero => ?_) fun hn _ => hgen ▸ hn
  refine finish_returns hids hi.project ha hzero ?_ (fun _ => rfl) (fun _ => rfl) (by decide)
    rfl (hgen ▸ hzero)
  have hold := s.db.pageJobs.checked a ha
  simp only [pageJobs, pageJobCheck, hst, Bool.and_eq_true] at hold ⊢
  simp_all

/-- The attempts of a stored job are within the policy. -/
theorem shouldRetry_eq (ha : a ∈ s.db.pageJobs.rows) (retryable : Bool) :
    shouldRetry a.attemptCount a.maxAttempts retryable =
      .ok (retryable && decide (a.attemptCount < a.maxAttempts)) := by
  have hold := s.db.pageJobs.checked a ha
  simp only [pageJobs, pageJobCheck, Bool.and_eq_true, decide_eq_true_eq] at hold
  obtain ⟨⟨⟨⟨⟨-, hmax⟩, -⟩, hle⟩, -⟩, -⟩ := hold.1
  have h0 : (0 : ℤ) ≤ (a.attemptCount : ℤ) := by omega
  have h1 : (1 : ℤ) ≤ (a.maxAttempts : ℤ) := by omega
  have h2 : (a.maxAttempts : ℤ) ≤ 100 := by omega
  have h3 : (a.attemptCount : ℤ) ≤ (a.maxAttempts : ℤ) := by omega
  simp [shouldRetry, assertAttemptPolicy, ensure, h0, h1, h2, h3, bind, Except.bind, pure, Except.pure]

theorem fail_wp {i : FailInput} (hsha : env.Digests) (hids : NewIds s) (hi : i.Valid s.db job)
    (hrun : s.db.project.runs.contains job.runId = true) (hhand : InHand s.db job)
    (hfree : s.db.pool.held job.jobId = none) :
    wp (Queue.fail env i) (fun _ _ => job.fencingGeneration = 0)
      (fun _ => job.fencingGeneration ≠ 0) s := by
  obtain ⟨a, ha, hid, har, hst, hrec, htoken, hgen⟩ := hhand
  rw [← hid] at hfree
  unfold Queue.fail Queue.queueTransaction transaction
  rw [wp_mapError, wp_bind]
  refine queue_validateOwnership_wp hi.project (hi.run ▸ hrun) ?_
  rw [wp_bind]
  refine wp_check_ok hi.failureKey ?_
  rw [wp_bind]
  refine wp_check_ok hi.failedAt ?_
  rw [wp_bind]
  refine wp_check_ok hi.nextEligibleAt ?_
  refine idempotent_new hsha hi.project hi.key hi.fresh ?_
  rw [wp_bind, hi.run, hi.jobId, ← har, ← hid]
  refine getJobRow_wp hi.project ha ?_
  have hstate : (rowToJob a).state = .processing := (rowToJob_state .processing).2 ⟨hst, hrec⟩
  have htoken' : (rowToJob a).claimToken = some i.claimToken := htoken.trans hi.token.symm
  rw [wp_bind, wp_require, hstate]
  refine ⟨fun _ => ?_, fun h => by cases h⟩
  rw [wp_bind, wp_require, htoken', beq_self_eq_true]
  refine ⟨fun _ => ?_, fun h => by cases h⟩
  rw [wp_bind]
  refine validateFencedClaim_wp hfree (fun hzero => ?_) fun hn _ => hgen ▸ hn
  rw [wp_bind]
  refine wp_check_ok (shouldRetry_eq ha i.retryable) ?_
  have hnext : (!(i.retryable && decide (a.attemptCount < a.maxAttempts)) || i.nextEligibleAt.isSome) = true := by
    have := hi.retry a ha hid
    cases hr : i.retryable <;> by_cases hlt : a.attemptCount < a.maxAttempts <;> simp_all
  generalize (i.retryable && decide (a.attemptCount < a.maxAttempts)) = retry at hnext ⊢
  rw [wp_bind, wp_require, hnext]
  refine ⟨fun _ => ?_, fun h => by cases h⟩
  refine finish_returns hids hi.project ha hzero ?_ (fun _ => rfl) (fun _ => rfl) ?_ ?_ (hgen ▸ hzero)
  · have hold := s.db.pageJobs.checked a ha
    simp only [pageJobs, pageJobCheck, hst, Bool.and_eq_true] at hold ⊢
    cases retry <;> simp_all
  · cases retry <;> decide
  · cases retry <;> rfl

/-! ### Handing out -/

/-- The row that is read back after its own update. -/
theorem updated_row {t t' : Table pageJobs} {p : PageJobRow → Bool} {f : PageJobRow → PageJobRow}
    {b : PageJobRow} (h : t.update p f = some t') (ha : a ∈ t.rows) (hpa : p a = true)
    (hid : ∀ c, (f c).jobId = c.jobId) (hb : b ∈ t'.rows) (hba : b.jobId = a.jobId) : b = f a := by
  rw [Table.update_rows h] at hb
  obtain ⟨c, hc, rfl⟩ := List.mem_map.1 hb
  have hcid : (rewrite p f c).jobId = c.jobId := by
    unfold rewrite
    split
    · exact hid c
    · rfl
  obtain rfl := job_eq hc ha (hcid.symm.trans hba)
  exact rewrite_pos hpa

/-- **A new claim leaves its job in hand**, without a lease. -/
theorem claimNext_hands {i : ClaimNextInput} (job : PageJob) (hs : Sound env.hashText s.db.pool) :
    safe (Queue.claimNext env i) (fun r t => recorded s.db .claimNext i.idempotencyKey = false →
      r = .job (some job) → s.db.project.runs.contains job.runId = true ∧ InHand t.db job ∧
        t.db.pool.held job.jobId = none) s := by
  unfold Queue.claimNext Queue.queueTransaction transaction Queue.validateOwnership
  simp only [safe, wp_mapError, wp_bind, wp_database, wp_require, implies_true, and_true]
  intro _ hrun
  refine idempotent_spec (Q := fun r (c : Core) =>
    recorded s.db .claimNext i.idempotencyKey = false → r = .job (some job) →
      s.db.project.runs.contains job.runId = true ∧
      (∃ a ∈ c.pageJobs.rows, a.jobId = job.jobId ∧ a.runId = job.runId ∧ a.state = .processing ∧
        a.recoveryState = none ∧ a.claimToken = job.claimToken ∧
        a.fencingGeneration = job.fencingGeneration) ∧ c.pool.held job.jobId = none)
    (fun o ho hty hkey hnew => absurd hkey (not_recorded hnew ho hty)) ?_
  simp only [safe, wp_bind, wp_now, wp_database]
  split
  · exact fun _ _ _ h => by cases h
  · rename_i row hrow
    obtain ⟨hmem, hp⟩ := head_select hrow
    simp only [Bool.and_eq_true, beq_iff_eq, decide_eq_true_eq] at hp
    obtain ⟨⟨hrowRun, hpending⟩, -⟩ := hp
    have hne : row.state ≠ .processing := by rw [hpending]; decide
    have hfree : s.db.pool.held row.jobId = none := hs.no_lease hmem (Or.inl hne)
    have hrec : row.recoveryState = none := hs.recovery_none hmem hne
    simp only [wp_bind, wp_require, wp_freshId, wp_updateJobs, wp_insertAttempt, implies_true, and_true]
    intro _ jobs hjobs _ _ _
    refine safe_mono queue_transition_spec fun _ t ht => ?_
    refine safe_mono getJobRow_spec fun b t' ht' => ?_
    obtain ⟨rfl, hb, hbid, hbrun⟩ := ht'
    rw [wp_pure]
    intro ops _ hnew hr
    have hrows : t'.db.pageJobs = jobs := congrArg Core.pageJobs ht
    have hleases : t'.db.jobLeases = s.db.jobLeases := congrArg Core.jobLeases ht
    obtain rfl : rowToJob b = job := by
      injection hr with hr
      exact Option.some.inj hr
    -- the row that is read back is the one just written
    have hb' := hb
    rw [hrows] at hb'
    obtain rfl := updated_row hjobs hmem (by simp [rowToJob, hpending]) (fun _ => rfl) hb' hbid
    refine ⟨?_, ⟨_, hb, rfl, rfl, rfl, hrec, rfl, rfl⟩, ?_⟩
    · show s.db.project.runs.contains row.runId = true
      rw [hrowRun]; exact hrun
    · show (poolOf t'.db.pageJobs t'.db.jobLeases).held row.jobId = none
      rw [hleases]
      exact hfree

end OfflineWebArchiver
