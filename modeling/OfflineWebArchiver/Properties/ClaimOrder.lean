import Mathlib.Data.String.Basic
import OfflineWebArchiver.Lifecycle.Enqueue
import OfflineWebArchiver.Lifecycle.Finish
import OfflineWebArchiver.Lifecycle.Outcome
import OfflineWebArchiver.Properties.Sample
import OfflineWebArchiver.Persistence.Listing

/-!
# Claims follow the queue order

The two claims select with the same `ORDER BY`. It is a total order of rows, and on timestamps of
plain characters it is the order of `compareQueueOrder`.

* `claimOrder_iff_key`: the `ORDER BY` as one key.
* `least_of_head`: the first selected row is the least of the eligible ones.
* `claimOrder_iff`: the two orders on the rows of a table.
-/

namespace OfflineWebArchiver

open Relational Program

/-- The keys of the `ORDER BY` as one key in lexicographic order. -/
def claimKey (a : PageJobRow) : ℕᵒᵈ ×ₗ (String ×ₗ (ℕ ×ₗ (ℕ ×ₗ String))) :=
  toLex (OrderDual.toDual a.priority, toLex (a.nextEligibleAt,
    toLex (a.depth, toLex (a.queueSequence, a.jobId))))

theorem claimOrder_iff_key {a b : PageJobRow} : Queue.claimOrder a b ↔ claimKey a ≤ claimKey b := by
  unfold claimKey Queue.claimOrder
  simp only [Prod.Lex.toLex_le_toLex, OrderDual.toDual_lt_toDual, OrderDual.toDual_inj]

variable {db : Db} {a b : PageJobRow} {p : PageJobRow → Bool}

/-- Rows of one table with one key are one row. -/
theorem claimKey_inj {t : Table pageJobs} (ha : a ∈ t.rows) (hb : b ∈ t.rows)
    (h : claimKey a = claimKey b) : a = b := by
  simp only [claimKey, toLex_inj, Prod.mk.injEq] at h
  exact job_eq ha hb h.2.2.2.2

/-- **The first row that a claim selects is the least.** -/
theorem least_of_head {t : Table pageJobs} (h : (t.select p Queue.claimOrder).head? = some a) :
    a ∈ t.rows ∧ p a = true ∧ ∀ b ∈ t.rows, p b = true → b ≠ a → claimKey a < claimKey b := by
  obtain ⟨hmem, hp⟩ := head_select h
  refine ⟨hmem, hp, fun b hb hpb hne => ?_⟩
  have htrans : IsTrans PageJobRow Queue.claimOrder := ⟨fun a b c hab hbc => by
    rw [claimOrder_iff_key] at hab hbc ⊢
    exact hab.trans hbc⟩
  have htotal : Std.Total Queue.claimOrder := ⟨fun a b => by
    rw [claimOrder_iff_key, claimOrder_iff_key]
    exact le_total _ _⟩
  have hsorted : (t.select p Queue.claimOrder).Pairwise Queue.claimOrder :=
    List.pairwise_insertionSort _ _
  obtain ⟨rest, hrest⟩ := List.head?_eq_some_iff.1 h
  have hbmem : b ∈ t.select p Queue.claimOrder := Table.mem_select.2 ⟨hb, hpb⟩
  rw [hrest] at hsorted hbmem
  have hle : claimKey a ≤ claimKey b := by
    rcases List.mem_cons.1 hbmem with rfl | hbmem
    · exact le_rfl
    · exact claimOrder_iff_key.1 ((List.pairwise_cons.1 hsorted).1 b hbmem)
  exact lt_of_le_of_ne hle fun hkey => hne (claimKey_inj hb hmem hkey.symm)

/-- **The two orders agree** on two rows of a table whose timestamps are plain. -/
theorem claimOrder_iff {t : Table pageJobs} (ha : a ∈ t.rows) (hb : b ∈ t.rows) (hne : a ≠ b)
    (hpa : Plain a.nextEligibleAt) (hpb : Plain b.nextEligibleAt) :
    claimKey a < claimKey b ↔ comesBefore (rowToJob a) (rowToJob b) := by
  have hseq : a.queueSequence ≠ b.queueSequence := fun h =>
    hne (sequenceIndex.eq_of_key ha hb rfl (congrArg some h.symm))
  rw [comesBefore_iff]
  unfold claimKey
  simp only [Prod.Lex.toLex_lt_toLex, OrderDual.toDual_lt_toDual, OrderDual.toDual_inj]
  show _ ↔ b.priority < a.priority ∨ a.priority = b.priority ∧
    (jsLt a.nextEligibleAt.toList b.nextEligibleAt.toList = true ∨ a.nextEligibleAt = b.nextEligibleAt ∧
      (a.depth < b.depth ∨ a.depth = b.depth ∧
        (a.queueSequence < b.queueSequence ∨ a.queueSequence = b.queueSequence ∧
          jsLt a.jobId.toList b.jobId.toList = true)))
  rw [jsLt_iff hpa hpb]
  simp only [hseq, false_and]

/-! ### The two claims -/

/-- A pending job of the run whose time has come. -/
def eligible (runId : String) (time : Timestamp) (a : PageJobRow) : Bool :=
  a.runId == runId && a.state == .pending && a.nextEligibleAt ≤ time

/-- What a claim answers with when it selects among the rows of a condition: the least of them, or
nothing when there is none. -/
def TakesLeast (db : Db) (p : PageJobRow → Bool) : Option PageJob → Prop
  | none => ∀ a ∈ db.pageJobs.rows, p a = false
  | some job => ∃ a ∈ db.pageJobs.rows, p a = true ∧ job.jobId = a.jobId ∧
      ∀ b ∈ db.pageJobs.rows, p b = true → b ≠ a → claimKey a < claimKey b ∧
        (Plain a.nextEligibleAt → Plain b.nextEligibleAt → comesBefore (rowToJob a) (rowToJob b))

theorem TakesLeast.of_head {job : PageJob} (h : (db.pageJobs.select p Queue.claimOrder).head? = some a)
    (hid : job.jobId = a.jobId) : TakesLeast db p (some job) := by
  obtain ⟨hmem, hp, hleast⟩ := least_of_head h
  refine ⟨a, hmem, hp, hid, fun b hb hpb hne => ⟨hleast b hb hpb hne, fun hpa hpb' => ?_⟩⟩
  exact (claimOrder_iff hmem hb hne.symm hpa hpb').1 (hleast b hb hpb hne)

theorem TakesLeast.of_none (h : (db.pageJobs.select p Queue.claimOrder).head? = none) :
    TakesLeast db p none := by
  intro a ha
  by_contra hp
  have hmem : a ∈ db.pageJobs.select p Queue.claimOrder := Table.mem_select.2 ⟨ha, by simpa using hp⟩
  rw [List.head?_eq_none_iff.1 h] at hmem
  cases hmem

variable {env : Env} {s : Call}

theorem claimNext_takes {input : ClaimNextInput}
    (hnew : recorded s.db .claimNext input.idempotencyKey = false) :
    safe (Queue.claimNext env input) (fun r _ => ∃ job, r = .job job ∧
      TakesLeast s.db (eligible input.runId (s.clock s.ticks)) job) s := by
  have hfind : (s.db.queueOperations.find fun o => o.operationType == .claimNext &&
      o.idempotencyKey == input.idempotencyKey) = none := by
    simpa [recorded] using hnew
  unfold Queue.claimNext Queue.queueTransaction transaction Queue.validateOwnership Queue.idempotent
  simp only [safe, wp_mapError, wp_bind, wp_database, wp_require, wp_check, implies_true, and_true]
  intro _ _ _ _
  rw [hfind, ite_self]
  simp only [wp_bind, wp_now, wp_database]
  split
  · rename_i hnone
    simp only [wp_pure, wp_freshId, wp_insertOperation, implies_true, and_true]
    exact fun _ _ => ⟨none, rfl, .of_none hnone⟩
  · rename_i row hrow
    simp only [wp_bind, wp_require, wp_freshId, wp_updateJobs, wp_insertAttempt, implies_true, and_true]
    intro _ jobs _ _ _ _
    refine safe_mono queue_transition_spec fun _ t _ => ?_
    refine safe_mono getJobRow_spec fun b t' ht' => ?_
    simp only [wp_pure, wp_insertOperation, implies_true, and_true]
    exact fun _ _ => ⟨_, rfl, .of_head hrow ht'.2.2.1⟩

theorem grantLease_job {kind : Recovery.ClaimKind} {input : ClaimNextWithLeaseInput}
    {requestHash : String} {timestamp : Timestamp} {job : PageJob} :
    safe (Recovery.grantLease env kind input requestHash timestamp job)
      (fun claim _ => claim.job.jobId = job.jobId) s := by
  unfold Recovery.grantLease Recovery.recordClaim
  simp only [safe, wp_bind, wp_require, wp_freshId, wp_check, wp_updateJobs, wp_insertAttempt,
    wp_insertLease, wp_insertTransition, wp_insertOperation, wp_database, wp_orThrow, implies_true,
    and_true]
  intro _ _ _ _ _ _ _ _ _ _ _ _ _ _ _ _
  exact safe_mono getJobRow_spec fun _ _ h => h.2.2.1

theorem claimNextWithLease_takes {input : ClaimNextWithLeaseInput}
    (hnew : recorded s.db .claimNextWithLease input.idempotencyKey = false) :
    safe (Recovery.claimNextWithLease env input) (fun claim _ =>
      TakesLeast s.db (fun a => a.runId == input.runId && a.state == .pending &&
        a.recoveryState == none && a.nextEligibleAt ≤ s.clock s.ticks) (claim.map (·.job))) s := by
  have hfind : (s.db.queueOperations.find fun o => o.operationType == .claimNextWithLease &&
      o.idempotencyKey == input.idempotencyKey) = none := by
    simpa [recorded] using hnew
  unfold Recovery.claimNextWithLease Recovery.recoveryTransaction transaction
  simp only [safe, wp_bind, wp_check, wp_mapError, implies_true, and_true]
  intro _ _
  refine safe_mono validateOwnership_spec fun _ t ht => ?_
  obtain ⟨rfl, -⟩ := ht
  refine safe_mono assertRunActive_spec fun _ t' ht' => ?_
  obtain ⟨rfl, -⟩ := ht'
  rw [wp_database, hfind]
  simp only [wp_bind, wp_now]
  split
  · rename_i hnone
    unfold Recovery.recordClaim
    simp only [wp_bind, wp_freshId, wp_insertOperation, wp_pure, implies_true, and_true]
    exact fun _ _ => .of_none hnone
  · rename_i row hrow
    rw [wp_bind]
    refine safe_mono grantLease_job fun claim _ hclaim => ?_
    rw [wp_pure]
    exact .of_head hrow hclaim

/-- **Claims follow the queue order.** `compareQueueOrder` is a strict total order of jobs, and on
two rows of a table with plain timestamps it is the `ORDER BY` of the claims. A claim under a new key
answers with the least eligible row, or with `null` when there is none. Both claims take the same
jobs for eligible in every state of a run. -/
theorem claims_follow_order (env : Env) :
    ((∀ j, ¬comesBefore j j) ∧ (∀ j k l, comesBefore j k → comesBefore k l → comesBefore j l) ∧
      ∀ j k, j.jobId ≠ k.jobId → comesBefore j k ∨ comesBefore k j) ∧
    (∀ (db : Db), ∀ a ∈ db.pageJobs.rows, ∀ b ∈ db.pageJobs.rows, a ≠ b → Plain a.nextEligibleAt →
      Plain b.nextEligibleAt → (Queue.claimOrder a b ↔ comesBefore (rowToJob a) (rowToJob b))) ∧
    (∀ db e input answer db', e.op = .claimNext input →
      recorded db .claimNext input.idempotencyKey = false → exec env db e = .ok (answer, db') →
      ∃ job, answer = .stored (.job job) ∧ TakesLeast db (eligible input.runId (e.clock 0)) job) ∧
    (∀ db e input answer db', e.op = .claimNextWithLease input →
      recorded db .claimNextWithLease input.idempotencyKey = false → exec env db e = .ok (answer, db') →
      ∃ claim : Option LeaseClaim, answer = .claim claim ∧ TakesLeast db
        (fun a => eligible input.runId (e.clock 0) a && a.recoveryState == none)
        (claim.map (·.job))) ∧
    ∀ (project : Project) (createdAt : Timestamp) (es : List Event) (n : ℕ),
      ∀ a ∈ (dbAt env (Db.create project createdAt) es n).pageJobs.rows, a.state = .pending →
        a.recoveryState = none := by
  refine ⟨⟨fun _ => comesBefore_irrefl, fun _ _ _ => comesBefore_trans, fun _ _ => comesBefore_total⟩,
    ?_, ?_, ?_, ?_⟩
  · intro db a ha b hb hne hpa hpb
    rw [claimOrder_iff_key, ← claimOrder_iff ha hb hne hpa hpb]
    exact ⟨fun hle => lt_of_le_of_ne hle fun hkey => hne (claimKey_inj ha hb hkey), le_of_lt⟩
  · intro db e input answer db' hop hnew hexec
    refine exec_of_wp (Q := fun answer _ => ∃ job, answer = .stored (.job job) ∧
      TakesLeast db (eligible input.runId (e.clock 0)) job) (R := fun _ => True) ?_ hexec
    rw [hop]
    refine (wp_map _ _).2 (safe_mono (claimNext_takes (s := e.start db) hnew) fun r _ h => ?_)
    obtain ⟨job, rfl, htakes⟩ := h
    exact ⟨job, rfl, htakes⟩
  · intro db e input answer db' hop hnew hexec
    refine exec_of_wp (Q := fun answer _ => ∃ claim : Option LeaseClaim, answer = .claim claim ∧
      TakesLeast db (fun a => eligible input.runId (e.clock 0) a && a.recoveryState == none)
        (claim.map (·.job))) (R := fun _ => True) ?_ hexec
    rw [hop]
    refine (wp_map _ _).2 (safe_mono (claimNextWithLease_takes (s := e.start db) hnew) fun claim _ h => ?_)
    refine ⟨claim, rfl, ?_⟩
    have hp : (fun a : PageJobRow => eligible input.runId (e.clock 0) a && a.recoveryState == none) =
        fun a => a.runId == input.runId && a.state == .pending && a.recoveryState == none &&
          a.nextEligibleAt ≤ e.clock 0 := by
      funext a
      unfold eligible
      rw [Bool.and_right_comm]
    rw [hp]
    exact h
  · intro project createdAt es n a ha hs
    exact (sound_run n).recovery_none ha (by rw [hs]; decide)

/-! ### What the claims do not promise -/

/-- The queue is empty at a first claim, and a page is there when the claim is repeated. -/
def repeatedClaim : List Event :=
  [Sample.event 0 "a" (Sample.claimNext "k"), Sample.event 1 "b" (Sample.enqueue 'a' 3 "e"),
    Sample.event 2 "c" (Sample.claimNext "k")]

/-- The answer is `null`. -/
def Answer.isNull : Answer → Bool
  | .stored (.job none) => true
  | _ => false

/-- A row with a text of its own for the time of the next attempt. -/
def rowAt (nextEligibleAt : Timestamp) (queueSequence : ℕ) : PageJobRow :=
  Queue.newJobRow
    { projectId := "p", runId := "r", projectRevisionId := "rev"
      scopeDecision :=
        { decisionId := "d", engineVersion := 1, profileId := "prof", profileRevisionId := "prev"
          eligible := true, shouldQueue := true, reasonCodes := [], normalizedUrl := some "u"
          identityUrl := some "u", identityHash := some "h", displayUrl := some "u", depth := 0
          matchedRuleIds := [] }
      sourceContext :=
        { parentJobId := none, safeSourceUrl := none, discoveryType := .seed, sourceDepth := none }
      requestedPriority := none, maxAttempts := 3, maxPages := none, idempotencyKey := "k"
      operationId := "k", correlationId := "k" }
    queueSequence "j" "u" "u" "h" "u" (500, .policy) nextEligibleAt

theorem repeatedClaim_facts :
    (∃ a ∈ (dbAt Sample.env (Db.create Sample.project (Sample.minute 0)) repeatedClaim 2).pageJobs.rows,
      eligible "r" (Sample.minute 2) a = true) ∧
    (exec Sample.env (dbAt Sample.env (Db.create Sample.project (Sample.minute 0)) repeatedClaim 2)
      (Sample.event 2 "c" (Sample.claimNext "k"))).toOption.any (fun p => p.1.isNull) = true := by
  rw [Sample.env_eq]
  decide +kernel

/-- **Two ways in which the order is not followed**: a repeated claim answers as it did at first, and
above the surrogates the database and the runtime order texts differently. -/
theorem claim_order_fails :
    ((∃ a ∈ (dbAt Sample.env (Db.create Sample.project (Sample.minute 0)) repeatedClaim 2).pageJobs.rows,
      eligible "r" (Sample.minute 2) a = true) ∧
    (exec Sample.env (dbAt Sample.env (Db.create Sample.project (Sample.minute 0)) repeatedClaim 2)
      (Sample.event 2 "c" (Sample.claimNext "k"))).toOption.any (fun p => p.1.isNull) = true) ∧
    Queue.claimOrder (rowAt "\uffff" 1) (rowAt (String.ofList [Char.ofNat 0x10000]) 2) ∧
    comesBefore (rowToJob (rowAt (String.ofList [Char.ofNat 0x10000]) 2))
      (rowToJob (rowAt "\uffff" 1)) := by
  refine ⟨repeatedClaim_facts, ?_⟩
  decide

end OfflineWebArchiver
