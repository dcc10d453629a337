import OfflineWebArchiver.Lib.Run
import OfflineWebArchiver.Persistence.Render

/-!
# Runs of the store

An `Event` is one repository call with the clock and the ids it reads. A call
that throws leaves the database as it was, so a run is a list of events and
`dbAt` is the database after the first `n` of them.

* `exec`: what a call answers and the database it leaves.
* `granted`: the claim that a leased claim newly grants.
-/

namespace OfflineWebArchiver

/-- The calls that write the job store. -/
inductive Op
  | enqueue (input : QueueEnqueueInput)
  | claimNext (input : ClaimNextInput)
  | claimNextWithLease (input : ClaimNextWithLeaseInput)
  | claimJobWithLease (input : ClaimJobWithLeaseInput)
  | heartbeatLease (input : LeaseHolder)
  | renewLease (input : RenewLeaseInput)
  | releaseLease (input : ReleaseLeaseInput)
  | saveJobCheckpoint (input : SaveJobCheckpointInput)
  | complete (input : CompleteInput)
  | fail (input : FailInput)
  | scheduleRetry (input : ScheduleRetryInput)
  | releaseDueRetries (input : ReleaseDueRetriesInput)
  | skip (input : TerminalActionInput)
  | block (input : TerminalActionInput)
  | clearPending (input : ClearPendingInput)
  | recover (input : RecoverInput)
  | requestPause (input : RequestPauseInput)
  | acknowledgePause (input : AcknowledgePauseInput)
  | resumeRun (input : ResumeRunInput)
  | setRunState (input : SetRunStateInput)
  | commitRenderResult (input : CommitRenderResultInput)
  | recordRenderFailure (input : RecordRenderFailureInput)

/-- What a call returns. -/
inductive Answer
  | stored (result : StoredResult)
  | claim (claim : Option LeaseClaim)
  | lease (lease : JobLease)
  | checkpoint (checkpoint : JobCheckpointRow)
  | report (report : RecoveryOperationRow)
  | status (status : PauseStatus)
  | job (job : PageJob)
  | rendered (result : RenderResultRow)
  | renderFailed (failure : RenderFailureRow)

/-- The claim in an answer. -/
def Answer.claim? : Answer → Option LeaseClaim
  | .claim c => c
  | _ => none

/-- The input of a render commit. -/
def Op.commit? : Op → Option CommitRenderResultInput
  | .commitRenderResult input => some input
  | _ => none

/-- The program of a call. -/
def Op.run (env : Env) : Op → M Answer
  | .enqueue input => .stored <$> Queue.enqueue env input
  | .claimNext input => .stored <$> Queue.claimNext env input
  | .claimNextWithLease input => .claim <$> Recovery.claimNextWithLease env input
  | .claimJobWithLease input => (.claim ∘ some) <$> Recovery.claimJobWithLease env input
  | .heartbeatLease input => .lease <$> Recovery.heartbeatLease env input
  | .renewLease input => .lease <$> Recovery.renewLease env input
  | .releaseLease input => .lease <$> Recovery.releaseLease env input
  | .saveJobCheckpoint input => .checkpoint <$> Recovery.saveJobCheckpoint env input
  | .complete input => .stored <$> Queue.complete env input
  | .fail input => .stored <$> Queue.fail env input
  | .scheduleRetry input => .stored <$> Queue.scheduleRetry env input
  | .releaseDueRetries input => .stored <$> Queue.releaseDueRetries env input
  | .skip input => .stored <$> Queue.skip env input
  | .block input => .stored <$> Queue.block env input
  | .clearPending input => .stored <$> Queue.clearPending env input
  | .recover input => .report <$> Recovery.recover env input
  | .requestPause input => .status <$> Recovery.requestPause input
  | .acknowledgePause input => .job <$> Recovery.acknowledgePause env input
  | .resumeRun input => .status <$> Recovery.resumeRun input
  | .setRunState input => .status <$> Recovery.setRunState input
  | .commitRenderResult input => .rendered <$> Render.commitTransaction env input
  | .recordRenderFailure input => .renderFailed <$> Render.recordRenderFailure env input

/-- A call, with what it reads from the clock and from the source of ids. -/
structure Event where
  op : Op
  clock : ℕ → Timestamp
  ids : ℕ → String

/-- The call at its start. -/
def Event.start (e : Event) (db : Db) : Call where
  db := db
  clock := e.clock
  ids := e.ids
  ticks := 0
  drawn := 0

/-- What the call answers and the database it leaves, or what it throws. -/
def exec (env : Env) (db : Db) (e : Event) : Except Thrown (Answer × Db) :=
  match (e.op.run env).run (e.start db) with
  | .ok (answer, call) => .ok (answer, call.db)
  | .error thrown => .error thrown

/-- The database after a call. -/
def step (env : Env) (db : Db) (e : Event) : Db :=
  match exec env db e with
  | .ok (_, db') => db'
  | .error _ => db

/-- The database after the first `n` events of a run. -/
def dbAt (env : Env) (db₀ : Db) (es : List Event) (n : ℕ) : Db := Run.stAt (step env) db₀ es n

/-- The ledger holds the answer of an earlier call with this type and key. -/
def recorded (db : Db) (operationType : OperationType) (idempotencyKey : String) : Bool :=
  (db.queueOperations.find fun o =>
    o.operationType == operationType && o.idempotencyKey == idempotencyKey).isSome

/-- The event repeats a call that the ledger or the render results already hold. -/
def isReplay (db : Db) : Op → Bool
  | .enqueue i => recorded db .enqueue i.idempotencyKey
  | .claimNext i => recorded db .claimNext i.idempotencyKey
  | .claimNextWithLease i => recorded db .claimNextWithLease i.idempotencyKey
  | .claimJobWithLease i => recorded db .claimJobWithLease i.idempotencyKey
  | .complete i => recorded db .complete i.idempotencyKey
  | .fail i => recorded db .fail i.idempotencyKey
  | .scheduleRetry i => recorded db .scheduleRetry i.idempotencyKey
  | .releaseDueRetries i => recorded db .releaseDueRetries i.idempotencyKey
  | .skip i => recorded db .skipped i.idempotencyKey
  | .block i => recorded db .blocked i.idempotencyKey
  | .clearPending i => recorded db .clearPending i.idempotencyKey
  | .commitRenderResult i => (Render.replayedResult db i).isSome
  | _ => false

/-- The claim that an event newly grants with a lease. -/
def granted (env : Env) (db : Db) (e : Event) : Option LeaseClaim :=
  match exec env db e with
  | .ok (answer, _) => if isReplay db e.op then none else answer.claim?
  | .error _ => none

section Exec

variable {env : Env} {db db' : Db} {e : Event} {Q : Answer → Db → Prop} {R : Thrown → Prop} {a : Answer}
  {t : Thrown}

theorem exec_of_wp (h : Program.wp (e.op.run env) (fun a t => Q a t.db) R (e.start db))
    (he : exec env db e = .ok (a, db')) : Q a db' := by
  unfold exec at he
  cases hr : (e.op.run env).run (e.start db) with
  | error t => rw [hr] at he; cases he
  | ok p =>
    obtain ⟨a', t⟩ := p
    rw [hr] at he
    cases he
    have hq := Program.wp_ok h hr
    exact hq

/-- A call that may not throw returns. -/
theorem exec_ok_of_wp (h : Program.wp (e.op.run env) (fun a t => Q a t.db) (fun _ => False) (e.start db)) :
    ∃ a db', exec env db e = .ok (a, db') ∧ Q a db' := by
  obtain ⟨a, t, hrun, hq⟩ := Program.exists_of_wp h
  refine ⟨a, t.db, ?_, hq⟩
  unfold exec
  rw [hrun]

theorem exec_error_of_wp (h : Program.wp (e.op.run env) (fun a t => Q a t.db) R (e.start db))
    (he : exec env db e = .error t) : R t := by
  unfold exec at he
  cases hr : (e.op.run env).run (e.start db) with
  | error t' =>
    rw [hr] at he
    cases he
    exact Program.wp_error h hr
  | ok p => rw [hr] at he; cases he

/-- A call that throws writes nothing. -/
theorem step_error (h : exec env db e = .error t) :
    step env db e = db := by
  unfold step; rw [h]

theorem step_ok (h : exec env db e = .ok (a, db')) :
    step env db e = db' := by
  unfold step; rw [h]

theorem granted_ok (h : exec env db e = .ok (a, db')) :
    granted env db e = if isReplay db e.op then none else a.claim? := by
  unfold granted; rw [h]

theorem granted_error (h : exec env db e = .error t) : granted env db e = none := by
  unfold granted; rw [h]

end Exec

theorem dbAt_succ {env : Env} {db₀ : Db} {es : List Event} {n : ℕ} {e : Event} (he : es[n]? = some e) :
    dbAt env db₀ es (n + 1) = step env (dbAt env db₀ es n) e := Run.stAt_succ he

end OfflineWebArchiver
