import OfflineWebArchiver.Lifecycle.Enqueue
import OfflineWebArchiver.Lifecycle.Outcome
import OfflineWebArchiver.Properties.Sample

/-!
# The project check agrees with recovery

`inspectProjectRecovery` counts the processing jobs without a lease and the leases that have
expired. `candidateRows` selects jobs. A lease that stands is the lease of one processing job of its
run, so both speak of the same jobs.

* `stranded`: the processing jobs that recovery would act on.
* `summary_stranded`: the two counters of the check add up to them.
-/

namespace OfflineWebArchiver

open Relational

/-- A processing job of the run whose lease is missing or has expired. -/
def stranded (db : Db) (runId : String) (evaluationTime : Timestamp) (a : PageJobRow) : Bool :=
  a.runId == runId && a.state == .processing && a.recoveryState == none &&
    (Recovery.joinedLease db a.jobId).all fun l => l.expiresAt ≤ evaluationTime

variable {env : Env} {db : Db} {runId : String} {evaluationTime : Timestamp}

theorem joinedLease_some {jobId : String} {l : JobLeaseRow}
    (h : Recovery.joinedLease db jobId = some l) :
    l ∈ db.jobLeases.rows ∧ l.jobId = jobId ∧ l.status = .active := by
  obtain ⟨hmem, hp⟩ := Table.find_mem h
  simp only [Bool.and_eq_true, beq_iff_eq] at hp
  exact ⟨hmem, hp⟩

/-- A standing lease is the one that is joined to its job. -/
theorem joinedLease_of_active {l : JobLeaseRow} (hl : l ∈ db.jobLeases.rows) (hs : l.status = .active) :
    Recovery.joinedLease db l.jobId = some l := by
  cases hj : Recovery.joinedLease db l.jobId with
  | none =>
    have hnone := Table.find_none hj l hl
    simp [hs] at hnone
  | some l' =>
    obtain ⟨hl', hid, hs'⟩ := joinedLease_some hj
    rw [lease_eq hl' hl hs' hs hid]

/-- **A standing lease stands on a processing job of its run.** -/
theorem Sound.leased_job (h : Sound env.hashText db.pool) {l : JobLeaseRow}
    (hl : l ∈ db.jobLeases.rows) (hs : l.status = .active) :
    ∃ a ∈ db.pageJobs.rows, a.jobId = l.jobId ∧ a.runId = l.runId ∧ a.state = .processing ∧
      a.recoveryState = none := by
  obtain ⟨j, hj, hst, hr, -, hrun, -⟩ := h.lease _ _ (held_mem hl hs)
  obtain ⟨a, ha, hid, rfl⟩ := jobs_some hj
  exact ⟨a, ha, hid, hrun, hst, hr⟩

/-- The expired leases are the leases of the stranded jobs that have one. -/
theorem expired_count (h : Sound env.hashText db.pool) :
    (db.jobLeases.count fun l => l.runId == runId && l.status == .active &&
        l.expiresAt ≤ evaluationTime) =
      db.pageJobs.count fun a => stranded db runId evaluationTime a &&
        (Recovery.joinedLease db a.jobId).isSome := by
  refine leaseIndex.count_eq_of_keys jobIndex (fun l _ hl => ?_) (fun _ _ _ => rfl)
    (fun l hmem hl => ?_) fun a hmem ha => ?_
  · simp only [Bool.and_eq_true, beq_iff_eq] at hl
    show (if l.status = .active then some l.jobId else none).isSome = true
    rw [if_pos hl.1.2]
    rfl
  · simp only [Bool.and_eq_true, beq_iff_eq, decide_eq_true_eq] at hl
    obtain ⟨⟨hrun, hact⟩, hexpired⟩ := hl
    obtain ⟨a, ha, hid, harun, hst, hr⟩ := h.leased_job hmem hact
    have hjoined := joinedLease_of_active hmem hact
    refine ⟨a, ha, ?_, ?_⟩
    · simp [stranded, harun, hrun, hst, hr, hid, hjoined, hexpired]
    · show some a.jobId = if l.status = .active then some l.jobId else none
      rw [if_pos hact, hid]
  · simp only [Bool.and_eq_true, Option.isSome_iff_exists] at ha
    obtain ⟨hstranded, l, hl⟩ := ha
    obtain ⟨hlmem, hid, hact⟩ := joinedLease_some hl
    simp only [stranded, hl, Bool.and_eq_true, beq_iff_eq, Option.all_some, decide_eq_true_eq] at hstranded
    obtain ⟨⟨⟨hrun, -⟩, -⟩, hexpired⟩ := hstranded
    obtain ⟨b, hb, hbid, hbrun, -⟩ := h.leased_job hlmem hact
    obtain rfl := job_eq hb hmem (hbid.trans hid)
    refine ⟨l, hlmem, ?_, ?_⟩
    · simp [← hbrun, hrun, hact, hexpired]
    · show (if l.status = .active then some l.jobId else none) = some b.jobId
      rw [if_pos hact, hid]

/-- The two counters of the check add up to the stranded jobs. -/
theorem summary_stranded (h : Sound env.hashText db.pool) {sessions : List ExecutionSessionRow} :
    (recoverySummary db sessions runId evaluationTime).abandonedJobs +
        (recoverySummary db sessions runId evaluationTime).expiredLeases =
      db.pageJobs.count (stranded db runId evaluationTime) := by
  show db.pageJobs.count _ + db.jobLeases.count _ = _
  rw [expired_count h]
  unfold Table.count
  induction db.pageJobs.rows with
  | nil => rfl
  | cons a rows ih =>
    simp only [List.countP_cons]
    -- a stranded job has no lease or an expired one
    have hone : (if (a.runId == runId && a.state == .processing && a.recoveryState == none &&
          (Recovery.joinedLease db a.jobId).isNone) = true then 1 else 0) +
        (if (stranded db runId evaluationTime a && (Recovery.joinedLease db a.jobId).isSome) = true
          then 1 else 0) =
        if stranded db runId evaluationTime a = true then 1 else 0 := by
      cases hl : Recovery.joinedLease db a.jobId <;> simp [stranded, hl]
    omega

theorem required_iff {sessions : List ExecutionSessionRow} :
    (inspectProjectRecovery db sessions runId evaluationTime).1 = .recoveryRequired ↔
      0 < (recoverySummary db sessions runId evaluationTime).abandonedJobs +
        (recoverySummary db sessions runId evaluationTime).expiredLeases := by
  unfold inspectProjectRecovery
  dsimp only
  split_ifs with hcounted
  · simp only [Bool.or_eq_true, decide_eq_true_eq] at hcounted
    simp only [true_iff]
    omega
  all_goals
    simp only [Bool.or_eq_true, decide_eq_true_eq] at hcounted
    simp only [false_iff]
    omega

/-- Everything that a recovery of the run at the time would go through. -/
def candidates (db : Db) (runId : String) (evaluationTime : Timestamp) :
    List (PageJobRow × Option JobLeaseRow) :=
  Recovery.candidateRows db runId evaluationTime 0 db.pageJobs.rows.length

/-- The candidates, without a limit. -/
theorem candidates_eq : candidates db runId evaluationTime =
      (db.pageJobs.select (fun a => a.runId == runId && 0 < a.queueSequence &&
        Recovery.isCandidate db evaluationTime a) fun a b => a.queueSequence ≤ b.queueSequence).map
          fun a => (a, Recovery.joinedLease db a.jobId) := by
  unfold candidates Recovery.candidateRows
  rw [List.take_of_length_le]
  unfold Table.select
  rw [List.length_insertionSort]
  exact Nat.le_succ_of_le (List.length_filter_le ..)

/-- The processing candidates are the stranded jobs. -/
theorem candidates_count (hpos : ∀ a ∈ db.pageJobs.rows, 0 < a.queueSequence) :
    (candidates db runId evaluationTime).countP (fun c => c.1.state == .processing) =
      db.pageJobs.count (stranded db runId evaluationTime) := by
  rw [candidates_eq, List.countP_map]
  unfold Table.select Table.count
  rw [(List.perm_insertionSort ..).countP_eq, List.countP_filter]
  refine List.countP_congr fun a ha => ?_
  have hseq := hpos a ha
  cases hs : a.state <;> simp [Recovery.isCandidate, stranded, hs, hseq, and_assoc]

end OfflineWebArchiver
