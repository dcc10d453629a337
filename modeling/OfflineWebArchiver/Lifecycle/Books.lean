import OfflineWebArchiver.Lib.Trail
import OfflineWebArchiver.Lifecycle.View

/-!
# The jobs and what is recorded of them

`Db.books` keeps the jobs and their transitions. A call that moves a job also records the move,
before it ends: the states that the books show and the moves that they record grow together.

* `logged_turn`, `logged_insert`: **an update of a job and the row that records it.**
* `Passed`: what a loop over jobs has done, and which jobs it has not yet reached.
-/

namespace OfflineWebArchiver

open Relational Program Function

/-- The tables that say where the jobs are and how they came there. -/
structure Books where
  jobs : Table pageJobs
  transitions : Table jobTransitions

def Db.books (db : Db) : Books := ⟨db.pageJobs, db.jobTransitions⟩

/-- The move that a row of `job_transitions` shows. -/
def moveOf (row : JobTransitionRow) : Option PageJobState × PageJobState :=
  ((rowToTransition row).fromState, (rowToTransition row).toState)

/-- The state of each job and the moves recorded of it. -/
def Books.journal (b : Books) : Journal String PageJobState where
  state := jobIndex.lookup (fun a => (rowToJob a).state) b.jobs
  log k := (b.transitions.rows.filter (·.jobId == k)).map moveOf

/-- A job begins as pending and goes on as `canTransition` allows. -/
def JobMove (source : Option PageJobState) (target : PageJobState) : Prop :=
  match source with
  | none => target = .pending
  | some source => canTransition source target = true

/-- What happened to the jobs was recorded. -/
abbrev Logged (b b' : Books) : Prop := b.journal.Extends JobMove b'.journal

/-- The row that records a move has been inserted. -/
structure Recorded (k : String) (source : Option PageJobState) (target : PageJobState)
    (b b' : Books) : Prop where
  row : ∃ row, b.transitions.insert row = some b'.transitions ∧ row.jobId = k ∧
    moveOf row = (source, target)
  jobs : b'.jobs = b.jobs

/-- What happened was recorded, and it happened to jobs of `done`. -/
structure Passed (done : List String) (b b' : Books) : Prop where
  logged : Logged b b'
  kept : ∀ x ∈ b.jobs.rows, x.jobId ∉ done → x ∈ b'.jobs.rows

variable {env : Env} {s : Call} {b b' b'' : Books} {done done' : List String}

theorem Passed.refl : Passed done b b := ⟨.refl, fun _ hx _ => hx⟩

theorem Passed.trans (h : Passed done b b') (h' : Passed done' b' b'') :
    Passed (done ++ done') b b'' := by
  refine ⟨h.logged.trans h'.logged, fun x hx hd => ?_⟩
  rw [List.mem_append, not_or] at hd
  exact h'.kept x (h.kept x hx hd.1) hd.2

theorem Passed.mono (h : Passed done b b') (hsub : done ⊆ done') : Passed done' b b' :=
  ⟨h.logged, fun x hx hd => h.kept x hx fun hdone => hd (hsub hdone)⟩

section Moves

variable {jobs : Table pageJobs} {a : PageJobRow} {p : PageJobRow → Bool}
  {f : PageJobRow → PageJobRow}

/-- The log of one job has one more move. -/
theorem Recorded.log {k : String} {source : Option PageJobState} {target : PageJobState}
    (h : Recorded k source target b b') :
    b'.journal.log = update b.journal.log k (b.journal.log k ++ [(source, target)]) := by
  obtain ⟨row, hi, rfl, hmove⟩ := h.row
  funext k
  show (b'.transitions.rows.filter _).map moveOf = _
  rw [Table.insert_rows hi, List.filter_append, List.map_append]
  by_cases hk : k = row.jobId
  · subst hk
    simp [Books.journal, hmove]
  · rw [update_of_ne hk]
    have hne : row.jobId ≠ k := fun h => hk h.symm
    simp [Books.journal, hne]

/-- **A job moves and the move is recorded.** -/
theorem logged_turn {source target : PageJobState} (ha : a ∈ b.jobs.rows)
    (hu : b.jobs.update p f = some jobs) (hpa : p a = true) (hp : ∀ x, p x = true → x.jobId = a.jobId)
    (hid : (f a).jobId = a.jobId) (hsource : (rowToJob a).state = source)
    (htarget : (rowToJob (f a)).state = target) (hT : canTransition source target = true)
    (hrec : Recorded a.jobId (some source) target ⟨jobs, b.transitions⟩ b') :
    Passed [a.jobId] b b' := by
  have hjobs : b'.jobs = jobs := hrec.jobs
  have hold : b.journal.state a.jobId = some source := by
    rw [← hsource]
    exact Index.lookup_mem ha rfl
  have hnew : b'.journal.state = update b.journal.state a.jobId (some target) := by
    show jobIndex.lookup _ b'.jobs = _
    rw [hjobs, ← htarget]
    exact Index.lookup_update hu ha rfl hpa (fun x _ hx => congrArg some (hp x hx))
      (congrArg some hid)
  refine ⟨.of_move hnew ?_ ?_, fun x hx hne => ?_⟩
  · rw [hold, hrec.log]
    rfl
  · rw [hold]
    exact hT
  · rw [hjobs]
    refine Table.mem_update hu hx ?_
    by_contra hc
    exact hne (by simp [hp x (by simpa using hc)])

/-- **A job enters the queue and the move is recorded.** -/
theorem logged_insert (hi : b.jobs.insert a = some jobs) (hstate : (rowToJob a).state = .pending)
    (hrec : Recorded a.jobId none .pending ⟨jobs, b.transitions⟩ b') : Logged b b' := by
  have hjobs : b'.jobs = jobs := hrec.jobs
  have hlookup := Index.lookup_insert (I := jobIndex) (π := fun a => (rowToJob a).state) hi rfl
  have hold : b.journal.state a.jobId = none := hlookup.1
  refine .of_move (k := a.jobId) (t := .pending) ?_ ?_ ?_
  · show jobIndex.lookup _ b'.jobs = _
    rw [hjobs, hlookup.2, hstate]
    rfl
  · rw [hold, hrec.log]
    rfl
  · rw [hold]
    exact (rfl : PageJobState.pending = .pending)

/-- Columns that say nothing about the state. -/
theorem logged_touch (hu : b.jobs.update p f = some jobs) (hid : ∀ a, (f a).jobId = a.jobId)
    (hf : ∀ a, (rowToJob (f a)).state = (rowToJob a).state) : Logged b ⟨jobs, b.transitions⟩ := by
  have hsame : jobIndex.lookup (fun a => (rowToJob a).state) jobs =
      jobIndex.lookup (fun a => (rowToJob a).state) b.jobs :=
    Index.lookup_update_same hu fun a _ _ => ⟨congrArg some (hid a), hf a⟩
  have hjournal : (⟨jobs, b.transitions⟩ : Books).journal = b.journal := by
    unfold Books.journal
    rw [hsame]
  show Journal.Extends JobMove b.journal (Books.journal ⟨jobs, b.transitions⟩)
  rw [hjournal]
  exact .refl

end Moves

/-! ### Steps that record a move, and steps that the books do not see -/

theorem queue_transition_recorded {jobId reasonCode operationId correlationId : String}
    {source : Option PageJobState} {target : PageJobState} {occurredAt : Timestamp} {metadata : Json} :
    safe (Queue.transition jobId source target reasonCode operationId correlationId occurredAt metadata)
      (fun _ t => Recorded jobId source target s.db.books t.db.books ∧
        assertTransitionFrom source target = .ok ()) s := by
  simp only [Queue.transition, safe, wp_bind, wp_check, wp_freshId, wp_insertTransition, implies_true,
    and_true]
  intro _ hcheck transitions hi
  exact ⟨⟨⟨_, hi, rfl, rfl⟩, rfl⟩, hcheck⟩

theorem transition_recorded {jobId reasonCode operationId correlationId : String}
    {source target : PageJobState} {occurredAt : Timestamp} :
    safe (Recovery.transition jobId source target reasonCode operationId correlationId occurredAt)
      (fun _ t => Recorded jobId (some source) target s.db.books t.db.books) s := by
  simp only [Recovery.transition, safe, wp_bind, wp_freshId, wp_insertTransition, implies_true,
    and_true]
  intro transitions hi
  refine ⟨⟨_, hi, rfl, ?_⟩, rfl⟩
  -- the recovery columns carry the states that are stored as processing
  refine Prod.ext ?_ ?_
  · cases source <;> rfl
  · cases target <;> rfl

theorem finishAttempt_books {jobId : String} {claimToken : Option String}
    {f : JobAttemptRow → JobAttemptRow} :
    safe (Queue.finishAttempt jobId claimToken f) (fun _ t => t.db.books = s.db.books) s := by
  simp [Queue.finishAttempt, Db.books]

theorem releaseJobLease_books {job : PageJob} {releasedAt : Timestamp}
    {releaseReason operationId : String} :
    safe (Queue.releaseJobLease job releasedAt releaseReason operationId)
      (fun _ t => t.db.books = s.db.books) s := by
  simp [Queue.releaseJobLease, Db.books]

theorem closeLease_books {leaseId : String} {status : JobLeaseStatus} {releasedAt : Timestamp}
    {releaseReason operationId : String} :
    safe (Recovery.closeLease leaseId status releasedAt releaseReason operationId)
      (fun _ t => t.db.books = s.db.books) s := by
  simp [Recovery.closeLease, Db.books]

theorem insertDiscovery_books {input : QueueEnqueueInput} {childJobId : String}
    {timestamp : Timestamp} :
    safe (Queue.insertDiscovery env input childJobId timestamp)
      (fun _ t => t.db.books = s.db.books) s := by
  simp [Queue.insertDiscovery, Db.books]

/-- A call through the ledger records what its operation records. -/
theorem idempotent_logged {projectId runId key : String} {ty : OperationType} {request : Json}
    {operation : M StoredResult}
    (hop : safe operation (fun _ t => Logged s.db.books t.db.books) s) :
    safe (Queue.idempotent env projectId runId ty key request operation)
      (fun _ t => Logged s.db.books t.db.books) s := by
  unfold Queue.idempotent
  simp only [safe, wp_bind, wp_check, wp_database, implies_true, and_true]
  intro _ _
  split
  · simp only [wp_bind, wp_require, wp_pure, implies_true, and_true]
    exact fun _ => .refl
  · refine safe_bind hop fun r t h => ?_
    simp only [safe, wp_bind, wp_freshId, wp_now, wp_insertOperation, wp_pure, implies_true, and_true]
    exact fun ops _ => h

/-! ### Loops over jobs -/

section Loops

variable {β : Type} {row : β → PageJobRow} {l before rest : List β} {x : β}

/-- A loop over jobs that were in the table when it began reaches each of them as it was. -/
theorem Passed.reached (h : Passed (before.map fun y => (row y).jobId) b b')
    (hl : l = before ++ x :: rest) (hmem : ∀ y ∈ l, row y ∈ b.jobs.rows)
    (hpair : l.Pairwise fun y z => (row y).jobId ≠ (row z).jobId) : row x ∈ b'.jobs.rows := by
  refine h.kept _ (hmem x (by rw [hl]; simp)) fun hd => ?_
  obtain ⟨y, hy, hyx⟩ := List.mem_map.1 hd
  rw [hl] at hpair
  exact (List.pairwise_append.1 hpair).2.2 y hy x (List.mem_cons_self ..) hyx

theorem Passed.next (h : Passed (before.map fun y => (row y).jobId) b b')
    (h' : Passed [(row x).jobId] b' b'') :
    Passed ((before ++ [x]).map fun y => (row y).jobId) b b'' := by
  rw [List.map_append]
  exact h.trans h'

end Loops

end OfflineWebArchiver
