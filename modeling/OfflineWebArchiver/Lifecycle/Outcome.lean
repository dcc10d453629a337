import OfflineWebArchiver.Lib.Fencing
import OfflineWebArchiver.Lifecycle.Lease
import OfflineWebArchiver.Lifecycle.Recovery

/-!
# What one call does

Every property of a run is derived from one statement about a call: `Outcome` says
all that a call can do to the pool, to the control rows and to the ledger.

* `exec_outcome`: **a call that returns has one of the outcomes.**
* `Outcome.path_or_grant`: it is a path of turns or a grant.
* `sound_run`, `fencing_run`: **the pool stays sound, and a run is a trace of the
  fencing protocol.**
-/

namespace OfflineWebArchiver

open Relational Program Function Relation

variable {env : Env} {db db' : Db} {e : Event} {a : Answer}

/-- The request of a leased claim. -/
def Op.leasedClaim (env : Env) : Op → Option ClaimRequest
  | .claimNextWithLease i => some (nextRequest env i)
  | .claimJobWithLease i => some (jobRequest env i)
  | _ => none

/-- **What a call that returns has done.** -/
inductive Outcome (env : Env) (op : Op) (db : Db) (a : Answer) (db' : Db) : Prop
  | worked (h : Did Work db.core db'.core) (hnew : a.claim? ≠ none → isReplay db op = true)
      (hcommit : ∀ i, op.commit? = some i → (Render.replayedResult db i).isSome = true)
  | granted (q : ClaimRequest) (hq : op.leasedClaim env = some q) (claim : LeaseClaim)
      (ha : a.claim? = some claim) (hnew : isReplay db op = false)
      (hactive : ∃ rs, db.control q.input.runId = some ⟨.active, rs⟩)
      (h : Granted env q claim db.core db'.core)
  | committed (i : CommitRenderResultInput) (hop : op = .commitRenderResult i)
      (hnew : Render.replayedResult db i = none) (h : Committed env i db db')
      (ha : a.claim? = none)
  | recovered (i : RecoverInput) (hop : op = .recover i) (prior : RunControlState) (rs : CrawlRunState)
      (hbatch : RunsBatch env db i) (h : Recovered i prior rs db db') (ha : a.claim? = none)
  | pauseRequested (i : RequestPauseInput) (hop : op = .requestPause i) (prior : RunControlState)
      (rs : CrawlRunState) (h : PauseRequested i prior rs db db') (ha : a.claim? = none)
  | acknowledged (i : AcknowledgePauseInput) (hop : op = .acknowledgePause i) (rs : CrawlRunState)
      (h : Acknowledged env i rs db db') (ha : a.claim? = none)
  | resumed (i : ResumeRunInput) (hop : op = .resumeRun i) (prior : RunControlState)
      (rs : CrawlRunState) (h : Resumed i prior rs db db') (ha : a.claim? = none)
  | stateSet (i : SetRunStateInput) (hop : op = .setRunState i) (prior : RunControlState)
      (rs : CrawlRunState) (h : StateSet i prior rs db db') (ha : a.claim? = none)

/-- A call that is neither a leased claim nor a commit and goes on with its jobs. -/
theorem Outcome.of_work {op : Op} (h : Did Work db.core db'.core) (ha : a.claim? = none)
    (hop : op.commit? = none) : Outcome env op db a db' :=
  .worked h (fun hc => absurd ha hc) fun i hi => by rw [hop] at hi; cases hi

/-- The outcome of a leased claim. -/
theorem Outcome.of_claim {op : Op} {q : ClaimRequest} {claim : Option LeaseClaim} {s t : Call}
    (hq : op.leasedClaim env = some q) (ha : a.claim? = claim)
    (hrep : isReplay s.db op = recorded s.db q.operationType q.input.idempotencyKey)
    (h : Claimed env q s claim t) : Outcome env op s.db a t.db := by
  have hop : ∀ i, op.commit? = some i → (Render.replayedResult s.db i).isSome = true := by
    intro i hi
    cases op with
    | commitRenderResult => cases hq
    | _ => cases hi
  cases hr : recorded s.db q.operationType q.input.idempotencyKey with
  | true =>
    rw [h.repeated hr]
    exact .worked Did.refl (fun _ => hrep.trans hr) hop
  | false =>
    have hnew := h.new hr
    cases claim with
    | none => exact .worked hnew (fun hc => absurd ha hc) hop
    | some claim => exact .granted q hq claim ha (hrep.trans hr) hnew.1 hnew.2

/-- **The outcomes of a call**, one case for each operation. -/
theorem run_outcome {s : Call} (hs : Sound env.hashText s.db.pool) (op : Op) :
    safe (op.run env) (fun a t => Outcome env op s.db a t.db) s := by
  cases op <;> simp only [Op.run, safe, wp_map]
  case enqueue i => exact safe_mono (enqueue_did hs) fun _ _ h => .of_work h rfl rfl
  case claimNext i =>
    exact safe_mono (claimNext_did hs) fun _ _ h => .of_work h rfl rfl
  case claimNextWithLease i =>
    exact safe_mono claimNextWithLease_did fun _ _ h => .of_claim rfl rfl rfl h
  case claimJobWithLease i =>
    exact safe_mono claimJobWithLease_did fun _ _ h => .of_claim rfl rfl rfl h
  case heartbeatLease i =>
    exact safe_mono heartbeatLease_did fun _ _ h => .of_work h.1 rfl rfl
  case renewLease i => exact safe_mono renewLease_did fun _ _ h => .of_work h.1 rfl rfl
  case releaseLease i =>
    exact safe_mono releaseLease_did fun _ _ h => .of_work h.1 rfl rfl
  case saveJobCheckpoint i =>
    exact safe_mono saveJobCheckpoint_did fun _ _ h => .of_work h.1 rfl rfl
  case complete i => exact safe_mono (complete_did hs) fun _ _ h => .of_work h.1 rfl rfl
  case fail i => exact safe_mono (fail_did hs) fun _ _ h => .of_work h.1 rfl rfl
  case scheduleRetry i =>
    exact safe_mono scheduleRetry_did fun _ _ h => .of_work h rfl rfl
  case releaseDueRetries i =>
    exact safe_mono (releaseDueRetries_did hs) fun _ _ h => .of_work h rfl rfl
  case skip i =>
    exact safe_mono (terminalAction_did hs) fun _ _ h => .of_work h rfl rfl
  case block i =>
    exact safe_mono (terminalAction_did hs) fun _ _ h => .of_work h rfl rfl
  case clearPending i =>
    exact safe_mono (clearPending_did hs) fun _ _ h => .of_work h rfl rfl
  case recover i =>
    refine safe_mono (recover_spec hs) fun _ t h => ?_
    rcases h with h | ⟨hbatch, prior, rs, h⟩
    · rw [h]; exact .of_work Did.refl rfl rfl
    · exact .recovered i rfl prior rs hbatch h rfl
  case requestPause i =>
    refine safe_mono requestPause_spec fun _ t h => ?_
    rcases h with h | ⟨prior, rs, h⟩
    · rw [h]; exact .of_work Did.refl rfl rfl
    · exact .pauseRequested i rfl prior rs h rfl
  case acknowledgePause i =>
    refine safe_mono (acknowledgePause_spec hs) fun _ t h => ?_
    obtain ⟨rs, h⟩ := h
    exact .acknowledged i rfl rs h rfl
  case resumeRun i =>
    refine safe_mono (resumeRun_spec hs) fun _ t h => ?_
    rcases h with ⟨h, -⟩ | ⟨prior, rs, h⟩
    · rw [h]; exact .of_work Did.refl rfl rfl
    · exact .resumed i rfl prior rs h rfl
  case setRunState i =>
    refine safe_mono setRunState_spec fun _ t h => ?_
    obtain ⟨prior, rs, h⟩ := h
    exact .stateSet i rfl prior rs h rfl
  case commitRenderResult i =>
    refine safe_mono commitTransaction_spec fun _ t h => ?_
    rcases h with ⟨hrep, h⟩ | ⟨hnew, h⟩
    · rw [h]
      refine .worked Did.refl (fun hc => absurd rfl hc) fun j hj => ?_
      cases hj
      exact hrep
    · exact .committed i rfl hnew h rfl
  case recordRenderFailure i =>
    refine safe_mono recordRenderFailure_did fun _ t h => ?_
    rcases h.1 with h | h
    · rw [h]; exact .of_work Did.refl rfl rfl
    · exact .of_work h rfl rfl

theorem exec_outcome (hs : Sound env.hashText db.pool) (he : exec env db e = .ok (a, db')) :
    Outcome env e.op db a db' :=
  exec_of_wp (Q := Outcome env e.op db) (run_outcome (s := e.start db) hs e.op) he

/-! ### Runs -/

theorem Steered.pool (h : Steered db db') : db'.pool = db.pool := by
  rw [Db.pool_eq, h]; rfl

/-- A call takes the pool along a path of turns, or grants a lease. -/
theorem Outcome.path_or_grant {op : Op} (h : Outcome env op db a db') :
    (Path Turn db.pool db'.pool ∧ (a.claim? ≠ none → isReplay db op = true)) ∨
      ∃ q claim, op.leasedClaim env = some q ∧ a.claim? = some claim ∧ isReplay db op = false ∧
        Granted env q claim db.core db'.core := by
  have hplain : ∀ {p : Prop}, a.claim? = none → (a.claim? ≠ none → p) := fun h h' => absurd h h'
  cases h with
  | worked h hnew _ => exact Or.inl ⟨h.path.mono fun _ _ => Work.turn, hnew⟩
  | granted q hq claim ha hnew _ h => exact Or.inr ⟨q, claim, hq, ha, hnew, h⟩
  | committed i _ _ h ha => exact Or.inl ⟨h.did.path.mono fun _ _ => Work.turn, hplain ha⟩
  | recovered i _ prior rs _ h ha => exact Or.inl ⟨h.did.path.mono fun _ _ => BatchTurn.turn, hplain ha⟩
  | pauseRequested i _ prior rs h ha => exact Or.inl ⟨h.steered.pool ▸ .refl, hplain ha⟩
  | acknowledged i _ rs h ha =>
    exact Or.inl ⟨h.did.path.mono fun _ _ ht => Or.inr (Or.inl ht.2), hplain ha⟩
  | resumed i _ prior rs h ha =>
    exact Or.inl ⟨h.did.path.mono fun _ _ ht => Or.inr (Or.inr ht.2), hplain ha⟩
  | stateSet i _ prior rs h ha => exact Or.inl ⟨h.steered.pool ▸ .refl, hplain ha⟩

/-- A call keeps the project, and the ledger only grows. -/
theorem Outcome.ledger {op : Op} (h : Outcome env op db a db') : db'.project = db.project ∧
    db.queueOperations.rows <+: db'.queueOperations.rows := by
  have hsteered : Steered db db' → db'.project = db.project ∧
      db.queueOperations.rows <+: db'.queueOperations.rows := fun h => by
    have hops : db'.queueOperations = db.queueOperations := congrArg Core.queueOperations h
    exact ⟨congrArg Core.project h, hops ▸ List.prefix_rfl⟩
  cases h with
  | worked h _ _ => exact ⟨h.project, h.ledger⟩
  | granted _ _ _ _ _ _ h =>
    obtain ⟨o, ho, -⟩ := h.ledger
    have hrows : db'.queueOperations.rows = db.queueOperations.rows ++ [o] := ho
    exact ⟨h.project, by rw [hrows]; exact List.prefix_append _ _⟩
  | committed _ _ _ h _ => exact ⟨h.did.project, h.did.ledger⟩
  | recovered _ _ _ _ _ h _ => exact ⟨h.did.project, h.did.ledger⟩
  | pauseRequested _ _ _ _ h _ => exact hsteered h.steered
  | acknowledged _ _ _ h _ => exact ⟨h.did.project, h.did.ledger⟩
  | resumed _ _ _ _ h _ => exact ⟨h.did.project, h.did.ledger⟩
  | stateSet _ _ _ _ h _ => exact hsteered h.steered

theorem step_ledger (hs : Sound env.hashText db.pool) : (step env db e).project = db.project ∧
    db.queueOperations.rows <+: (step env db e).queueOperations.rows := by
  cases he : exec env db e with
  | error t => rw [step_error he]; exact ⟨rfl, List.prefix_rfl⟩
  | ok p =>
    rw [step_ok he]
    exact (exec_outcome hs he).ledger

/-- A newly granted claim. -/
theorem granted_spec (hs : Sound env.hashText db.pool) {claim : LeaseClaim}
    (hg : granted env db e = some claim) : ∃ q, e.op.leasedClaim env = some q ∧
      isReplay db e.op = false ∧ (∃ rs, db.control q.input.runId = some ⟨.active, rs⟩) ∧
      Granted env q claim db.core (step env db e).core := by
  cases he : exec env db e with
  | error t => rw [granted_error he] at hg; cases hg
  | ok p =>
    obtain ⟨a, db'⟩ := p
    rw [granted_ok he] at hg
    have hrep : isReplay db e.op = false := by
      by_contra hr
      simp only [Bool.not_eq_false] at hr
      rw [if_pos hr] at hg; cases hg
    have ha : a.claim? = some claim := by rw [hrep] at hg; exact hg
    rw [step_ok he]
    have hnone : ∀ {p : Prop}, a.claim? = none → p := fun h => by rw [h] at ha; cases ha
    cases exec_outcome hs he with
    | worked _ hnew _ =>
      have := hnew (by rw [ha]; exact Option.some_ne_none _)
      rw [hrep] at this; cases this
    | granted q hq claim' ha' _ hactive h =>
      rw [ha'] at ha
      obtain rfl := Option.some.inj ha
      exact ⟨q, hq, hrep, hactive, h⟩
    | committed _ _ _ _ h => exact hnone h
    | recovered _ _ _ _ _ _ h => exact hnone h
    | pauseRequested _ _ _ _ _ h => exact hnone h
    | acknowledged _ _ _ _ h => exact hnone h
    | resumed _ _ _ _ _ h => exact hnone h
    | stateSet _ _ _ _ _ h => exact hnone h

/-- A call keeps every job, and no generation falls. -/
theorem step_rows (hs : Sound env.hashText db.pool) {a : PageJobRow} (ha : a ∈ db.pageJobs.rows) :
    ∃ b ∈ (step env db e).pageJobs.rows, b.jobId = a.jobId ∧ b.runId = a.runId ∧
      a.fencingGeneration ≤ b.fencingGeneration := by
  cases he : exec env db e with
  | error t => rw [step_error he]; exact ⟨a, ha, rfl, rfl, le_rfl⟩
  | ok p =>
    obtain ⟨ans, db'⟩ := p
    rw [step_ok he]
    have hj : db.pool.jobs a.jobId = some (jobOf a) := jobs_mem ha
    rcases (exec_outcome hs he).path_or_grant with ⟨hpath, -⟩ | ⟨q, claim, -, -, -, h⟩
    · obtain ⟨j', hj', hrun, hgen, -⟩ := hpath.job (fun _ _ h => h) hj
      obtain ⟨b, hb, hid, rfl⟩ := jobs_some hj'
      exact ⟨b, hb, hid, hrun, hgen.ge⟩
    · obtain ⟨⟨j, hjk, -, -, -, -, -, hjobs⟩, -, -⟩ := h.grant
      have hj' : db'.pool.jobs a.jobId = update db.pool.jobs claim.job.jobId
          (some (j.leased claim.leaseToken)) a.jobId := congrFun hjobs a.jobId
      by_cases hk : a.jobId = claim.job.jobId
      · have hjk' : db.pool.jobs claim.job.jobId = some j := hjk
        rw [hk, hjk'] at hj
        obtain rfl := Option.some.inj hj
        rw [hk, update_self] at hj'
        obtain ⟨b, hb, hid, hbj⟩ := jobs_some hj'
        have hrun : b.runId = a.runId := congrArg Job.run hbj
        have hgen : b.fencingGeneration = a.fencingGeneration + 1 := congrArg Job.generation hbj
        exact ⟨b, hb, hid.trans hk.symm, hrun, by omega⟩
      · rw [update_of_ne hk, hj] at hj'
        obtain ⟨b, hb, hid, hbj⟩ := jobs_some hj'
        have hrun : b.runId = a.runId := congrArg Job.run hbj
        have hgen : b.fencingGeneration = a.fencingGeneration := congrArg Job.generation hbj
        exact ⟨b, hb, hid, hrun, hgen.ge⟩

/-- The grant of a call as a label of the fencing protocol. -/
def grantLabel (env : Env) (claim : Option LeaseClaim) : Option (String × (Hold × Option String)) :=
  claim.map fun c => (c.job.jobId, (c.hold env, some c.leaseToken))

/-- A call keeps the pool sound and is a move of the fencing protocol. -/
theorem step_sound (env : Env) (e : Event) (hs : Sound env.hashText db.pool) :
    Sound env.hashText (step env db e).pool ∧
      Fencing.Move db.pool.fencing (grantLabel env (granted env db e)) (step env db e).pool.fencing := by
  cases he : exec env db e with
  | error t =>
    rw [step_error he]
    rw [granted_error he]
    exact ⟨hs, Path.fencing (T := Turn) (fun _ _ h => h) .refl⟩
  | ok p =>
    obtain ⟨a, db'⟩ := p
    rw [step_ok he]
    have hg := granted_ok he
    rcases (exec_outcome hs he).path_or_grant with ⟨hpath, hnew⟩ | ⟨q, claim, -, ha, hnew, h⟩
    · have hnone : granted env db e = none := by
        rw [hg]
        by_cases hr : isReplay db e.op = true
        · rw [if_pos hr]
        · rw [if_neg hr]
          by_contra hc
          exact hr (hnew hc)
      rw [hnone]
      exact ⟨hpath.sound (fun _ _ h => h) hs, hpath.fencing fun _ _ h => h⟩
    · rw [hg, hnew, ha]
      exact ⟨h.grant.sound hs, h.grant.fencing⟩

variable {project : Project} {createdAt : Timestamp} {es : List Event} {n : ℕ}

/-- The database of a run that begins with a new project. -/
abbrev storeAt (env : Env) (project : Project) (createdAt : Timestamp)
    (es : List Event) (n : ℕ) : Db := dbAt env (Db.create project createdAt) es n

/-- The claim that the `n`-th event of the run newly grants. -/
def grantAt (env : Env) (project : Project) (createdAt : Timestamp)
    (es : List Event) (n : ℕ) : Option LeaseClaim :=
  es[n]?.bind (granted env (storeAt env project createdAt es n))

theorem grantAt_eq (he : es[n]? = some e) : grantAt env project createdAt es n =
    granted env (storeAt env project createdAt es n) e := by
  unfold grantAt; rw [he]; rfl

/-- **The pool is sound at every point of a run.** -/
theorem sound_run (n : ℕ) : Sound env.hashText (storeAt env project createdAt es n).pool := by
  refine Run.stAt_induction (P := fun db : Db => Sound env.hashText db.pool) ⟨?_, ?_⟩
    (fun n e _ h => (step_sound env e h).1) n
  · intro k j hj
    obtain ⟨a, ha, -⟩ := jobs_some hj
    cases ha
  · intro k h hh
    obtain ⟨l, hl, -⟩ := held_some hh
    cases hl

/-- A job stays, and its generation does not fall. -/
theorem rows_run {m : ℕ} (hmn : m ≤ n) {a : PageJobRow}
    (ha : a ∈ (storeAt env project createdAt es m).pageJobs.rows) :
    ∃ b ∈ (storeAt env project createdAt es n).pageJobs.rows, b.jobId = a.jobId ∧
      b.runId = a.runId ∧ a.fencingGeneration ≤ b.fencingGeneration := by
  refine Run.stAt_trans (r := fun db db' : Db => ∀ a ∈ db.pageJobs.rows, ∃ b ∈ db'.pageJobs.rows,
    b.jobId = a.jobId ∧ b.runId = a.runId ∧ a.fencingGeneration ≤ b.fencingGeneration)
    (fun _ a ha => ⟨a, ha, rfl, rfl, le_rfl⟩) (fun s t u h h' a ha => ?_)
    (fun n e _ a ha => step_rows (sound_run n) ha) hmn a ha
  obtain ⟨b, hb, hid, hrun, hgen⟩ := h a ha
  obtain ⟨c, hc, hid', hrun', hgen'⟩ := h' b hb
  exact ⟨c, hc, hid'.trans hid, hrun'.trans hrun, hgen.trans hgen'⟩

/-- **A run is a trace of the fencing protocol.** -/
theorem fencing_run (env : Env) (project : Project) (createdAt : Timestamp)
    (es : List Event) :
    Fencing.Trace (fun n => (storeAt env project createdAt es n).pool.fencing)
      fun n => grantLabel env (grantAt env project createdAt es n) := by
  intro n
  show Fencing.Move _ (grantLabel env (grantAt env project createdAt es n))
    (dbAt env (Db.create project createdAt) es (n + 1)).pool.fencing
  cases he : es[n]? with
  | none =>
    have hnone : grantAt env project createdAt es n = none := by unfold grantAt; rw [he]; rfl
    have hstay : dbAt env (Db.create project createdAt) es (n + 1) =
        dbAt env (Db.create project createdAt) es n := Run.stAt_succ_none he
    rw [hnone, hstay]
    exact Path.fencing (T := Turn) (fun _ _ h => h) .refl
  | some e =>
    rw [grantAt_eq he, dbAt_succ he]
    exact (step_sound env e (sound_run n)).2

end OfflineWebArchiver
