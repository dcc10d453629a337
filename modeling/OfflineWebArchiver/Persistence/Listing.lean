import Mathlib.Algebra.Ring.Rat
import Mathlib.Data.Prod.Lex
import Mathlib.Data.String.Basic
import OfflineWebArchiver.Base.JsOrder
import OfflineWebArchiver.Lib.Loop
import OfflineWebArchiver.Persistence.Queue

/-!
# The order of the queue in memory

`compareQueueOrder` of the queue package, beside the `ORDER BY` of the two claims.

* `comesBefore_irrefl`, `comesBefore_trans`, `comesBefore_total`: a strict total order of jobs.
-/

namespace OfflineWebArchiver

/-- `left < right ? -1 : left > right ? 1 : 0` on strings. -/
def compareText (left right : String) : ℤ :=
  if jsLt left.toList right.toList then -1 else if jsLt right.toList left.toList then 1 else 0

/-- `compareQueueOrder(left, right)`. -/
def compareQueueOrder (left right : PageJob) : ℤ :=
  if left.priority ≠ right.priority then (right.priority : ℤ) - left.priority
  else
    let eligible := compareText left.nextEligibleAt right.nextEligibleAt
    if eligible ≠ 0 then eligible
    else if left.depth ≠ right.depth then (left.depth : ℤ) - right.depth
    else if left.queueSequence ≠ right.queueSequence then
      (left.queueSequence : ℤ) - right.queueSequence
    else compareText left.jobId right.jobId

/-- The left job comes first. -/
def comesBefore (left right : PageJob) : Prop := compareQueueOrder left right < 0

instance : DecidableRel comesBefore := fun left right =>
  inferInstanceAs (Decidable (compareQueueOrder left right < 0))

variable {j k l : PageJob} {s t : String}

theorem compareText_neg : compareText s t < 0 ↔ jsLt s.toList t.toList = true := by
  unfold compareText
  split_ifs with h1 h2 <;> simp [h1]

theorem compareText_zero : compareText s t = 0 ↔ s = t := by
  constructor
  · intro h
    by_contra hne
    unfold compareText at h
    rcases jsLt_total (s := s.toList) (t := t.toList) (fun hl => hne (String.toList_injective hl)) with h' | h'
    · rw [if_pos h'] at h; cases h
    · rw [if_neg (by simp [jsLt_asymm h']), if_pos h'] at h; cases h
  · rintro rfl
    simp [compareText, jsLt_irrefl]

/-- The five keys, one after the other. -/
theorem comesBefore_iff : comesBefore j k ↔
    k.priority < j.priority ∨ j.priority = k.priority ∧
      (jsLt j.nextEligibleAt.toList k.nextEligibleAt.toList = true ∨ j.nextEligibleAt = k.nextEligibleAt ∧
        (j.depth < k.depth ∨ j.depth = k.depth ∧
          (j.queueSequence < k.queueSequence ∨ j.queueSequence = k.queueSequence ∧
            jsLt j.jobId.toList k.jobId.toList = true))) := by
  unfold comesBefore compareQueueOrder
  dsimp only
  split_ifs with h1 h2 h3 h4
  · omega
  · have := compareText_zero.not.1 h2
    have h1 : j.priority = k.priority := by simpa using h1
    simp [h1, this, compareText_neg]
  · have h1 : j.priority = k.priority := by simpa using h1
    have h2 : j.nextEligibleAt = k.nextEligibleAt := compareText_zero.1 (by simpa using h2)
    simp only [h1, h2, jsLt_irrefl, lt_irrefl, true_and, false_or, Bool.false_eq_true]
    omega
  · have h1 : j.priority = k.priority := by simpa using h1
    have h2 : j.nextEligibleAt = k.nextEligibleAt := compareText_zero.1 (by simpa using h2)
    have h3 : j.depth = k.depth := by simpa using h3
    simp only [h1, h2, h3, jsLt_irrefl, lt_irrefl, true_and, false_or, Bool.false_eq_true]
    omega
  · have h1 : j.priority = k.priority := by simpa using h1
    have h2 : j.nextEligibleAt = k.nextEligibleAt := compareText_zero.1 (by simpa using h2)
    have h3 : j.depth = k.depth := by simpa using h3
    have h4 : j.queueSequence = k.queueSequence := by simpa using h4
    simp only [h1, h2, h3, h4, jsLt_irrefl, lt_irrefl, true_and, false_or, Bool.false_eq_true]
    exact compareText_neg

/-- The five keys as one key in lexicographic order. -/
def queueKey (j : PageJob) : ℕᵒᵈ ×ₗ (List ℕ ×ₗ (ℕ ×ₗ (ℕ ×ₗ List ℕ))) :=
  toLex (OrderDual.toDual j.priority, toLex (codeUnits j.nextEligibleAt.toList,
    toLex (j.depth, toLex (j.queueSequence, codeUnits j.jobId.toList))))

theorem comesBefore_iff_key : comesBefore j k ↔ queueKey j < queueKey k := by
  have htext : ∀ {s t : String}, codeUnits s.toList = codeUnits t.toList ↔ s = t := fun {s t} =>
    ⟨fun h => String.toList_injective (codeUnits_injective h), fun h => by rw [h]⟩
  unfold queueKey
  simp only [comesBefore_iff, Prod.Lex.toLex_lt_toLex, htext, OrderDual.toDual_lt_toDual,
    OrderDual.toDual_inj, jsLt, unitsLt_iff]

theorem comesBefore_irrefl : ¬comesBefore j j := by
  rw [comesBefore_iff_key]
  exact lt_irrefl _

theorem comesBefore_trans (h : comesBefore j k) (h' : comesBefore k l) : comesBefore j l := by
  rw [comesBefore_iff_key] at h h' ⊢
  exact h.trans h'

/-- Of two different jobs one comes first. -/
theorem comesBefore_total (h : j.jobId ≠ k.jobId) : comesBefore j k ∨ comesBefore k j := by
  rw [comesBefore_iff_key, comesBefore_iff_key]
  refine lt_or_gt_of_ne fun hkey => h ?_
  simp only [queueKey, toLex_inj, Prod.mk.injEq] at hkey
  exact String.toList_injective (codeUnits_injective hkey.2.2.2.2)

end OfflineWebArchiver

/-!
## Reading the queue

The calls of `createSqliteQueueRepository` that only read: a page of jobs after a cursor, and the
counters of a run.

* `list`: one page.
* `listAll`: a reader that follows `nextCursor` until it is `null`.
* `getStatistics`: the counters, which look at the two state columns in their own way.
-/

namespace OfflineWebArchiver

open Relational Program

/-- The input of `list`. -/
structure QueueListInput where
  projectId : String
  runId : String
  state : Option PageJobState
  afterSequence : Option ℤ
  limit : ℤ

/-- `QueueListResult`. -/
structure QueueListResult where
  jobs : List PageJob
  nextCursor : Option ℕ

/-- The input of `getStatistics`. -/
structure QueueStatisticsInput where
  projectId : String
  runId : String
  asOf : Timestamp

/-- `QueueStatistics`. -/
structure QueueStatistics where
  total : ℕ
  pending : ℕ
  processing : ℕ
  completed : ℕ
  failed : ℕ
  retrying : ℕ
  skipped : ℕ
  blocked : ℕ
  interrupted : ℕ
  paused : ℕ
  dueRetries : ℕ
  exhaustedRetries : ℕ
  maximumDepth : Option ℕ
  averageDepth : Option Rat
  oldestPendingAt : Option Timestamp
  newestJobAt : Option Timestamp
  duplicateDiscoveries : ℕ

namespace Queue

/-- The state part of the three queries of `list`. -/
def listed (state : Option PageJobState) (a : PageJobRow) : Bool :=
  match state with
  | none => true
  | some .interrupted => a.recoveryState == some .interrupted
  | some .paused => a.recoveryState == some .paused
  | some state => a.state.toJobState == state && a.recoveryState == none

/-- `ORDER BY queue_sequence ASC`. -/
def sequenceOrder (a b : PageJobRow) : Prop := a.queueSequence ≤ b.queueSequence

instance : DecidableRel sequenceOrder := fun a b =>
  inferInstanceAs (Decidable (a.queueSequence ≤ b.queueSequence))

/-- `list(input)`. -/
def list (input : QueueListInput) : M QueueListResult := do
  validateOwnership input.projectId input.runId
  require (1 ≤ input.limit && input.limit ≤ 200)
    (queueError .paginationLimitExceeded "Queue list limit is invalid")
  let after := input.afterSequence.getD 0
  require (0 ≤ after) (queueError .inputInvalid "Queue cursor is invalid")
  let db ← database
  let limit := input.limit.toNat
  let rows := (db.pageJobs.select (fun a => a.runId == input.runId && listed input.state a &&
    after.toNat < a.queueSequence) sequenceOrder).take (limit + 1)
  let hasMore := limit < rows.length
  let jobs := (rows.take limit).map rowToJob
  return { jobs, nextCursor := if hasMore then jobs.getLast?.map (·.queueSequence) else none }

/-- One page of a reader that keeps the jobs it has seen. -/
def listRound (s : Call) (input : QueueListInput) (seen : Option ℤ × List PageJob) :
    Fueled ((Option ℤ × List PageJob) ⊕ Except Thrown (List PageJob)) :=
  match (list { input with afterSequence := seen.1 }).run s with
  | .error e => pure (.inr (.error e))
  | .ok (result, _) =>
    match result.nextCursor with
    | some cursor => pure (.inl (some (cursor : ℤ), seen.2 ++ result.jobs))
    | none => pure (.inr (.ok (seen.2 ++ result.jobs)))

/-- All pages, from the start. -/
def listAll (s : Call) (input : QueueListInput) : Fueled (Except Thrown (List PageJob)) :=
  Fueled.iterate (listRound s input) (none, [])

/-- The aggregate query of `getStatistics`, over the jobs of the run. -/
def statistics (rows : List PageJobRow) (asOf : Timestamp) (discoveryCount : ℕ) : QueueStatistics where
  total := rows.length
  pending := rows.countP fun a => a.state == .pending
  processing := rows.countP fun a => a.state == .processing && a.recoveryState == none
  completed := rows.countP fun a => a.state == .completed
  failed := rows.countP fun a => a.state == .failed
  retrying := rows.countP fun a => a.state == .retrying
  skipped := rows.countP fun a => a.state == .skipped
  blocked := rows.countP fun a => a.state == .blocked
  interrupted := rows.countP fun a => a.recoveryState == some .interrupted
  paused := rows.countP fun a => a.recoveryState == some .paused
  dueRetries := rows.countP fun a => a.state == .retrying && a.nextEligibleAt ≤ asOf
  exhaustedRetries := rows.countP fun a => a.state == .failed && a.maxAttempts ≤ a.attemptCount
  maximumDepth := (rows.map (·.depth)).max?
  averageDepth :=
    if rows.isEmpty then none else some (((rows.map (·.depth)).sum : Rat) / (rows.length : Rat))
  oldestPendingAt := ((rows.filter fun a => a.state == .pending).map (·.queuedAt)).min?
  newestJobAt := (rows.map (·.createdAt)).max?
  duplicateDiscoveries := discoveryCount - rows.length

/-- `getStatistics(input)`. -/
def getStatistics (input : QueueStatisticsInput) : M QueueStatistics := do
  validateOwnership input.projectId input.runId
  check (assertUtcTimestamp input.asOf "asOf")
  let db ← database
  let rows := db.pageJobs.rows.filter fun a => a.runId == input.runId
  let discoveryCount := db.jobDiscoveries.count fun d => rows.any fun a => a.jobId == d.childJobId
  return statistics rows input.asOf discoveryCount

end Queue

/-- The counter of a state. -/
def QueueStatistics.counter (stats : QueueStatistics) : PageJobState → ℕ
  | .pending => stats.pending
  | .processing => stats.processing
  | .completed => stats.completed
  | .failed => stats.failed
  | .retrying => stats.retrying
  | .skipped => stats.skipped
  | .blocked => stats.blocked
  | .interrupted => stats.interrupted
  | .paused => stats.paused

/-- The nine states that callers see. -/
def PageJobState.all : List PageJobState :=
  [.pending, .processing, .completed, .failed, .retrying, .skipped, .blocked, .interrupted, .paused]

end OfflineWebArchiver
