import OfflineWebArchiver.Lifecycle.Finish
import OfflineWebArchiver.Lifecycle.Outcome
import OfflineWebArchiver.Properties.Sample

/-!
# Finishing what was handed out

`claimNext` hands a job out without a lease, and a job that was ever leased is finished
only under its active lease.

* `InHand.free`: a job that was handed out gets no lease while it is in hand.
* `handout_iff`: **a job that is handed out can be completed, and can be failed, exactly
  when it was never leased.**
-/

namespace OfflineWebArchiver

open Relational Program Function

variable {env : Env} {db : Db} {e : Event} {job : PageJob} {project : Project}
  {createdAt : Timestamp} {es : List Event} {m n : ℕ}

/-- The job that a call hands out: the answer of a `claimNext` that repeats no earlier one. -/
def handedOut (env : Env) (db : Db) (e : Event) : Option PageJob :=
  match e.op with
  | .claimNext i =>
    if recorded db .claimNext i.idempotencyKey then none
    else
      match exec env db e with
      | .ok (.stored (.job job), _) => job
      | _ => none
  | _ => none

/-- The call finishes the job under the claim with which it was handed out. -/
def Finishes (db : Db) (job : PageJob) : Op → Prop
  | .complete i => i.Valid db job
  | .fail i => i.Valid db job
  | _ => False

/-- What a call has done that hands a job out. -/
theorem handedOut_spec (hs : Sound env.hashText db.pool) (h : handedOut env db e = some job) :
    db.project.runs.contains job.runId = true ∧ InHand (step env db e) job ∧
      (step env db e).pool.held job.jobId = none := by
  unfold handedOut at h
  split at h
  swap
  · cases h
  rename_i i hop
  split at h
  · cases h
  rename_i hnew
  split at h
  swap
  · cases h
  rename_i answer db' hexec
  subst h
  have hnew' : recorded db .claimNext i.idempotencyKey = false := by simpa using hnew
  rw [step_ok hexec]
  have hwp : wp (e.op.run env) (fun a t => a = .stored (.job (some job)) →
      db.project.runs.contains job.runId = true ∧ InHand t.db job ∧ t.db.pool.held job.jobId = none)
      (fun _ => True) (e.start db) := by
    rw [hop, Op.run, wp_map]
    refine safe_mono (claimNext_hands (s := e.start db) job hs) fun r t ht hr => ?_
    exact ht hnew' (by injection hr)
  exact exec_of_wp (Q := fun a db' => a = .stored (.job (some job)) →
    db.project.runs.contains job.runId = true ∧ InHand db' job ∧ db'.pool.held job.jobId = none) hwp
    hexec rfl

/-- What becomes of a call that finishes a job in hand. -/
theorem exec_finish (hsha : env.Digests) (hrun : db.project.runs.contains job.runId = true)
    (hhand : InHand db job) (hfree : db.pool.held job.jobId = none) (hfin : Finishes db job e.op)
    (hids : NewIds (e.start db)) :
    (∃ a db', exec env db e = .ok (a, db')) ↔ job.fencingGeneration = 0 := by
  have hwp : wp (e.op.run env) (fun _ _ => job.fencingGeneration = 0)
      (fun _ => job.fencingGeneration ≠ 0) (e.start db) := by
    cases hop : e.op with
    | complete i =>
      rw [hop] at hfin
      rw [Op.run, wp_map]
      exact complete_wp hsha hids hfin hrun hhand hfree
    | fail i =>
      rw [hop] at hfin
      rw [Op.run, wp_map]
      exact fail_wp hsha hids hfin hrun hhand hfree
    | _ => rw [hop] at hfin; exact hfin.elim
  constructor
  · rintro ⟨a, db', hexec⟩
    exact exec_of_wp (Q := fun _ _ => job.fencingGeneration = 0) hwp hexec
  · intro hzero
    cases hexec : exec env db e with
    | error t =>
      exact absurd hzero (exec_error_of_wp (Q := fun _ _ => job.fencingGeneration = 0) hwp hexec)
    | ok r => exact ⟨r.1, r.2, rfl⟩

/-- No call writes the project. -/
theorem project_run : (storeAt env project createdAt es n).project = project :=
  Run.stAt_induction (P := fun db : Db => db.project = project) rfl
    (fun n _ _ h => (step_ledger (sound_run n)).1.trans h) n

/-- The generation of a job in hand. -/
theorem InHand.generation (h : InHand db job) :
    db.pool.fencing.generation job.jobId = job.fencingGeneration := by
  obtain ⟨a, ha, hid, -, -, -, -, hgen⟩ := h
  show (db.pool.jobs job.jobId).elim 0 _ = _
  have hj : db.pool.jobs job.jobId = some (jobOf a) := by rw [← hid]; exact jobs_mem ha
  rw [hj]
  exact hgen

/-- A job in hand without a lease gets none, since a lease raises its generation. -/
theorem InHand.free (hmn : m ≤ n) (hm : InHand (storeAt env project createdAt es m) job)
    (hfree : (storeAt env project createdAt es m).pool.held job.jobId = none)
    (hn : InHand (storeAt env project createdAt es n) job) :
    (storeAt env project createdAt es n).pool.held job.jobId = none := by
  have htrace := fencing_run env project createdAt es
  have hholder : (storeAt env project createdAt es m).pool.fencing.holder job.jobId = none := by
    show ((storeAt env project createdAt es m).pool.held job.jobId).map _ = none
    rw [hfree]; rfl
  have hfree' := htrace.free_of_generation hmn hholder (hn.generation.trans hm.generation.symm)
  exact Option.map_eq_none_iff.1 hfree'

/-- **A job that is handed out can be finished exactly when it was never leased.** From
the claim on, as long as the job is in hand, every call that completes or fails it returns
if its fencing generation is zero, and throws if it is not. -/
theorem handout_iff (hsha : env.Digests) (he : es[m]? = some e)
    (hjob : handedOut env (storeAt env project createdAt es m) e = some job) :
    InHand (storeAt env project createdAt es (m + 1)) job ∧
    ∀ n, m < n → InHand (storeAt env project createdAt es n) job →
      ∀ e', Finishes (storeAt env project createdAt es n) job e'.op →
        NewIds (e'.start (storeAt env project createdAt es n)) →
        ((∃ a db', exec env (storeAt env project createdAt es n) e' = .ok (a, db')) ↔
          job.fencingGeneration = 0) := by
  obtain ⟨hrun, hhand, hfree⟩ := handedOut_spec (sound_run m) hjob
  have hstep : storeAt env project createdAt es (m + 1) =
      step env (storeAt env project createdAt es m) e := dbAt_succ he
  rw [← hstep] at hhand hfree
  refine ⟨hhand, fun n hmn hn e' hfin hids => ?_⟩
  rw [project_run] at hrun
  exact exec_finish hsha (by rw [project_run]; exact hrun) hn (hhand.free hmn hfree hn) hfin hids

/-! ### A job that is claimed with a lease, recovered and handed out again -/

theorem sample_digests : Sample.env.Digests := Sha256.digest_length

/-- A page is claimed. -/
def plainRun : List Event :=
  [Sample.event 0 "a" (Sample.enqueue 'a' 3 "k1"), Sample.event 0 "b" (Sample.claimNext "k2")]

/-- A page is claimed with a lease that expires, recovered, and claimed without one. -/
def mixedRun : List Event :=
  [Sample.event 0 "a" (Sample.enqueue 'a' 3 "k1"), Sample.event 0 "b" (Sample.claimWithLease "o" "k2"),
    Sample.event 1 "c" (Sample.recover 1 "k3"), Sample.event 1 "d" (Sample.claimNext "k4")]

/-- The holder of the page completes it, with ids that are longer than all others. -/
def completion (claimToken : String) : Event where
  op := Sample.complete "a0" claimToken "k5" 1
  clock _ := Sample.minute 1
  ids n := String.ofList (List.replicate (n + 10) 'x')

/-- The ids of the tables are short. -/
def shortIds (db : Db) : Bool :=
  db.jobTransitions.rows.all (fun t => decide (t.transitionId.length < 10)) &&
    db.queueOperations.rows.all fun o => decide (o.operationRecordId.length < 10)

theorem completion_newIds {claimToken : String} (h : shortIds db = true) :
    NewIds ((completion claimToken).start db) := by
  have hlen : ∀ n, ((completion claimToken).ids n).length = n + 10 := fun n => by simp [completion]
  rw [shortIds, Bool.and_eq_true, List.all_eq_true, List.all_eq_true] at h
  refine ⟨⟨fun m n hmn => ?_, fun n _ t ht heq => ?_⟩, fun n _ o ho heq => ?_⟩
  · have heq := congrArg String.length hmn
    have hm : ((completion claimToken).ids m).length = ((completion claimToken).ids n).length := heq
    rw [hlen, hlen] at hm
    omega
  · have hshort : t.transitionId.length < 10 := of_decide_eq_true (h.1 t ht)
    have heq' : t.transitionId = (completion claimToken).ids n := heq
    rw [heq', hlen] at hshort
    omega
  · have hshort : o.operationRecordId.length < 10 := of_decide_eq_true (h.2 o ho)
    have heq' : o.operationRecordId = (completion claimToken).ids n := heq
    rw [heq', hlen] at hshort
    omega

/-- The id, the run, the claim token and the generation of a job. -/
def PageJob.facts (job : PageJob) : String × String × Option String × ℕ :=
  (job.jobId, job.runId, job.claimToken, job.fencingGeneration)

/-- `completion` presents the claim of the job. -/
theorem completion_finishes {claimToken : String} {generation : ℕ} (hproject : db.project = Sample.project)
    (hfacts : job.facts = ("a0", "r", some claimToken, generation))
    (hfresh : recorded db .complete "k5" = false) : Finishes db job (completion claimToken).op := by
  simp only [PageJob.facts, Prod.mk.injEq] at hfacts
  obtain ⟨hid, hrun, htoken, -⟩ := hfacts
  have hkey : isIdempotencyKey "k5" = true := by decide
  have htime : (parseUtc (Sample.minute 1)).isSome = true := by decide
  exact ⟨by rw [hproject]; rfl, hrun.symm, hid.symm, htoken.symm, ensure_ok hkey, ensure_ok htime, rfl, hkey, hfresh⟩

set_option maxRecDepth 100000 in
theorem plainRun_facts :
    (handedOut Sample.env (storeAt Sample.env Sample.project (Sample.minute 0) plainRun 1)
      (Sample.event 0 "b" (Sample.claimNext "k2"))).map (·.facts) = some ("a0", "r", some "b0", 0) ∧
    shortIds (storeAt Sample.env Sample.project (Sample.minute 0) plainRun 2) = true ∧
    recorded (storeAt Sample.env Sample.project (Sample.minute 0) plainRun 2) .complete "k5" = false := by
  rw [Sample.env_eq]
  decide +kernel

/-- The page that is claimed once can be completed. -/
theorem handout_iff_plainRun : ∃ job,
    handedOut Sample.env (storeAt Sample.env Sample.project (Sample.minute 0) plainRun 1)
      (Sample.event 0 "b" (Sample.claimNext "k2")) = some job ∧
    ∃ a db', exec Sample.env (storeAt Sample.env Sample.project (Sample.minute 0) plainRun 2)
      (completion "b0") = .ok (a, db') := by
  obtain ⟨hjob, hids, hfresh⟩ := plainRun_facts
  obtain ⟨job, hjob, hfacts⟩ := Option.map_eq_some_iff.1 hjob
  have h := handout_iff (m := 1) sample_digests rfl hjob
  refine ⟨job, hjob, (h.2 2 (by decide) h.1 _ (completion_finishes project_run hfacts hfresh)
    (completion_newIds hids)).2 ?_⟩
  exact congrArg (·.2.2.2) hfacts

set_option maxRecDepth 100000 in
theorem mixedRun_facts :
    (handedOut Sample.env (storeAt Sample.env Sample.project (Sample.minute 0) mixedRun 3)
      (Sample.event 1 "d" (Sample.claimNext "k4"))).map (·.facts) = some ("a0", "r", some "d0", 1) ∧
    shortIds (storeAt Sample.env Sample.project (Sample.minute 0) mixedRun 4) = true ∧
    recorded (storeAt Sample.env Sample.project (Sample.minute 0) mixedRun 4) .complete "k5" = false ∧
    (exec Sample.env (storeAt Sample.env Sample.project (Sample.minute 0) mixedRun 4)
      (completion "d0")).toOption.isNone = true := by
  rw [Sample.env_eq]
  decide +kernel

/-- The page that is handed out after a leased claim cannot be completed. -/
theorem mixedRun_refused : ∃ job,
    handedOut Sample.env (storeAt Sample.env Sample.project (Sample.minute 0) mixedRun 3)
      (Sample.event 1 "d" (Sample.claimNext "k4")) = some job ∧
    InHand (storeAt Sample.env Sample.project (Sample.minute 0) mixedRun 4) job ∧
    Finishes (storeAt Sample.env Sample.project (Sample.minute 0) mixedRun 4) job (completion "d0").op ∧
    NewIds ((completion "d0").start (storeAt Sample.env Sample.project (Sample.minute 0) mixedRun 4)) ∧
    ¬∃ a db', exec Sample.env (storeAt Sample.env Sample.project (Sample.minute 0) mixedRun 4)
      (completion "d0") = .ok (a, db') := by
  obtain ⟨hjob, hids, hfresh, hthrows⟩ := mixedRun_facts
  obtain ⟨job, hjob, hfacts⟩ := Option.map_eq_some_iff.1 hjob
  have hstep : storeAt Sample.env Sample.project (Sample.minute 0) mixedRun 4 =
      step Sample.env (storeAt Sample.env Sample.project (Sample.minute 0) mixedRun 3)
        (Sample.event 1 "d" (Sample.claimNext "k4")) := dbAt_succ rfl
  have hhand := (handedOut_spec (sound_run 3) hjob).2.1
  rw [← hstep] at hhand
  refine ⟨job, hjob, hhand, completion_finishes project_run hfacts hfresh, completion_newIds hids, ?_⟩
  rintro ⟨a, db', hok⟩
  rw [hok] at hthrows
  cases hthrows

end OfflineWebArchiver
