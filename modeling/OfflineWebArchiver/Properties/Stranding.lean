import OfflineWebArchiver.Lifecycle.Finish
import OfflineWebArchiver.Lifecycle.Outcome
import OfflineWebArchiver.Properties.Sample

/-!
# Jobs that are set aside

Pausing and recovery set jobs aside; only `resumeRun` puts them back, and only while
the run is paused or pausing.

* `Parked`: jobs are set aside only in such a run.
* `resumable`: **then `resumeRun` puts each of them back into the queue.**
* `parked_run`: it holds along every run in which no call takes a run out of its pause
  while jobs are set aside.
-/

namespace OfflineWebArchiver

open Relational Program Function Relation

variable {env : Env} {db db' : Db} {e : Event} {r : String} {v w : Control}

/-- A job of the run is set aside. -/
def Aside (db : Db) (r : String) : Prop :=
  ∃ a ∈ db.pageJobs.rows, a.runId = r ∧ a.recoveryState ≠ none

theorem aside_iff : Aside db r ↔ ∃ k j, db.pool.jobs k = some j ∧ j.run = r ∧ j.recovery ≠ none := by
  constructor
  · rintro ⟨a, ha, hr, hne⟩
    exact ⟨a.jobId, jobOf a, jobs_mem ha, hr, hne⟩
  · rintro ⟨k, j, hj, hr, hne⟩
    obtain ⟨a, ha, -, rfl⟩ := jobs_some hj
    exact ⟨a, ha, hr, hne⟩

/-- Jobs are set aside only in a run that is paused or about to be. -/
structure Parked (db : Db) : Prop where
  run : ∀ r v, db.control r = some v → db.project.runs.contains r = true
  halted : ∀ r v, db.control r = some v → Recovery.pauseRequested v.control = true →
    v.run = .pausing ∨ v.run = .paused
  aside : ∀ r, Aside db r → ∃ v, db.control r = some v ∧ Recovery.pauseRequested v.control = true

/-! ### What changes who is set aside -/

theorem Work.recovery {j j' : Job} (h : Work j j') : j'.recovery = none := by
  cases h <;> assumption

/-- Turns that set no job of another run aside. -/
theorem Path.aside {T : Job → Job → Prop} {x : String} (h : Path T db.pool db'.pool)
    (hT : ∀ j j', T j j' → j'.recovery ≠ none → j'.run ≠ x → False) (hr : r ≠ x) (ha : Aside db' r) :
    Aside db r := by
  obtain ⟨k, j, hj, rfl, hne⟩ := aside_iff.1 ha
  exact Path.forall_jobs (I := fun _ j => j.recovery ≠ none → j.run ≠ x → Aside db j.run) h
    (fun _ _ hj hne => absurd hj.recovery hne) (fun _ j j' ht _ hne hx => (hT j j' ht hne hx).elim)
    (fun k j hj hne _ => aside_iff.2 ⟨k, j, hj, rfl, hne⟩) k j hj hne hr

/-- Work sets nothing aside. -/
theorem Path.aside_work (h : Path Work db.pool db'.pool) (ha : Aside db' r) : Aside db r := by
  obtain ⟨k, j, hj, rfl, hne⟩ := aside_iff.1 ha
  exact Path.forall_jobs (I := fun _ j => j.recovery ≠ none → Aside db j.run) h
    (fun _ _ hj hne => absurd hj.recovery hne) (fun _ _ _ ht _ hne => absurd ht.recovery hne)
    (fun k j hj hne => aside_iff.2 ⟨k, j, hj, rfl, hne⟩) k j hj hne

theorem Granted.aside {q : ClaimRequest} {claim : LeaseClaim} (h : Granted env q claim db.core db'.core)
    (ha : Aside db' r) : Aside db r := by
  obtain ⟨k, j, hj, hr, hne⟩ := aside_iff.1 ha
  obtain ⟨⟨j₀, -, -, -, -, -, -, hjobs⟩, -, -⟩ := h.grant
  have hj' : update db.pool.jobs claim.job.jobId (some (j₀.leased claim.leaseToken)) k = some j := by
    rw [← hj]; exact (congrFun hjobs k).symm
  by_cases hk : k = claim.job.jobId
  · subst hk
    rw [update_self] at hj'
    obtain rfl := Option.some.inj hj'
    exact absurd rfl hne
  · rw [update_of_ne hk] at hj'
    exact aside_iff.2 ⟨k, j, hj', hr, hne⟩

theorem Steered.aside (h : Steered db db') (ha : Aside db' r) : Aside db r := by
  have hjobs : db'.pageJobs = db.pageJobs := congrArg Core.pageJobs h
  unfold Aside at ha ⊢
  rw [hjobs] at ha
  exact ha

/-! ### The invariant -/

theorem Parked.of_same (hP : Parked db) (hp : db'.project = db.project) (hc : db'.control = db.control)
    (ha : ∀ r, Aside db' r → Aside db r) : Parked db' where
  run r v hv := by rw [hp]; exact hP.run r v (hc ▸ hv)
  halted r v hv := hP.halted r v (hc ▸ hv)
  aside r hr := by
    obtain ⟨v, hv, hpaused⟩ := hP.aside r (ha r hr)
    exact ⟨v, hc ▸ hv, hpaused⟩

/-- One control row is written. -/
theorem Parked.of_set {x : String} (hP : Parked db) (hp : db'.project = db.project)
    (hx : db.control x = some v) (hc : db'.control = update db.control x (some w))
    (hw : Recovery.pauseRequested w.control = true → w.run = .pausing ∨ w.run = .paused)
    (ha : ∀ r, r ≠ x → Aside db' r → Aside db r)
    (hax : Aside db' x → Recovery.pauseRequested w.control = true) : Parked db' where
  run r u hu := by
    rw [hp]
    rw [hc] at hu
    by_cases hr : r = x
    · subst hr; exact hP.run r v hx
    · rw [update_of_ne hr] at hu; exact hP.run r u hu
  halted r u hu := by
    rw [hc] at hu
    by_cases hr : r = x
    · subst hr
      rw [update_self] at hu
      obtain rfl := Option.some.inj hu
      exact hw
    · rw [update_of_ne hr] at hu; exact hP.halted r u hu
  aside r har := by
    rw [hc]
    by_cases hr : r = x
    · subst hr; exact ⟨w, update_self .., hax har⟩
    · rw [update_of_ne hr]; exact hP.aside r (ha r hr har)

/-! ### The calls that break it -/

/-- The state change takes the run out of its pause and leaves its jobs set aside. -/
def LeavesAside (db : Db) (i : SetRunStateInput) : Prop :=
  Owned db i.projectId i.runId ∧ Aside db i.runId ∧
    Recovery.pauseRequested (Recovery.controlStateOf i.state) = false ∧
    ∃ v, db.control i.runId = some v ∧ canTransitionCrawlRunState v.run i.state = true

/-- The recovery finds the run paused with an active lease that its batch does not take,
and makes it active while jobs are or get set aside. -/
def ActivatesAside (env : Env) (db : Db) (i : RecoverInput) : Prop :=
  RunsBatch env db i ∧ (∃ rs, db.control i.runId = some ⟨.paused, rs⟩) ∧
    (∃ k h, db.pool.held k = some h ∧ h.run = i.runId ∧ ¬InBatch db i k) ∧
    (Aside db i.runId ∨ ∃ k, InBatch db i k)

/-- The call strands jobs that are set aside. -/
def Strands (env : Env) (db : Db) : Op → Prop
  | .setRunState i => LeavesAside db i
  | .recover i => ActivatesAside env db i
  | _ => False

/-- Recovery leaves a run paused or pausing only when it was. -/
theorem pauseRequested_of_restored {prior : RunControlState} {n : ℕ}
    (h : Recovery.pauseRequested (Recovery.restoredControl prior n) = true) :
    Recovery.pauseRequested prior = true := by
  unfold Recovery.restoredControl at h
  split at h
  · rename_i hp; exact hp.1
  · split at h
    · rename_i hp; rw [hp]; rfl
    · cases h

/-- After a batch a job of the run is set aside only if the run was paused or pausing. -/
theorem Recovered.aside_prior {i : RecoverInput} {prior : RunControlState} {rs : CrawlRunState}
    (hP : Parked db) (h : Recovered i prior rs db db') (ha : Aside db' i.runId) :
    Recovery.pauseRequested prior = true := by
  obtain ⟨k, j, hj, hr, hne⟩ := aside_iff.1 ha
  refine Path.forall_jobs (I := fun _ j => j.run = i.runId → j.recovery ≠ none →
    Recovery.pauseRequested prior = true) h.did.path (fun _ _ hj _ hne => absurd hj.recovery hne)
    (fun _ j j' ht _ _ hne => ?_) (fun k j hj hr hne => ?_) k j hj hr hne
  · by_contra hp
    have hwork := ht.2
    rw [if_neg hp] at hwork
    exact hne (Work.recovery hwork)
  · obtain ⟨v, hv, hpaused⟩ := hP.aside i.runId (aside_iff.2 ⟨k, j, hj, hr, hne⟩)
    rw [h.control] at hv
    obtain rfl := Option.some.inj hv
    exact hpaused

theorem Recovered.parked {i : RecoverInput} {prior : RunControlState} {rs : CrawlRunState}
    (hP : Parked db) (hbatch : RunsBatch env db i) (h : Recovered i prior rs db db')
    (hc : ¬ActivatesAside env db i) : Parked db' := by
  have hpath : Path (BatchTurn i.runId prior) db.pool db'.pool := h.did.path
  refine hP.of_set h.did.project h.control h.restored (fun hw => ?_) (fun r hr ha => ?_) fun ha => ?_
  · have hw' : Recovery.pauseRequested (Recovery.restoredControl prior _) = true := hw
    exact hP.halted i.runId ⟨prior, rs⟩ h.control (pauseRequested_of_restored hw')
  · refine hpath.aside (fun j j' ht _ hx => hx ?_) hr ha
    rw [ht.turn.keeps.1, ht.1]
  · have hprior := h.aside_prior hP ha
    show Recovery.pauseRequested (Recovery.restoredControl prior _) = true
    unfold Recovery.restoredControl
    by_cases hcount : activeLeaseCount db' i.runId = 0
    · rw [if_pos ⟨hprior, hcount⟩]; rfl
    rw [if_neg fun h => hcount h.2]
    by_cases hreq : prior = .pauseRequested
    · rw [if_pos hreq]; rfl
    -- the run was paused: a lease that is left was not in the batch
    have hpaused : prior = .paused := by
      unfold Recovery.pauseRequested at hprior
      simpa [hreq] using hprior
    obtain ⟨k, hold, hh, hrun⟩ : ∃ k hold, db'.pool.held k = some hold ∧ hold.run = i.runId := by
      by_contra hno
      exact hcount (activeLeaseCount_eq_zero.2 fun k hold hh hr => hno ⟨k, hold, hh, hr⟩)
    have hk : ¬InBatch db i k := fun hin => by rw [h.taken k hin] at hh; cases hh
    have hold' : db.pool.held k = some hold := (h.others k hk).2.symm.trans hh
    refine absurd ⟨hbatch, ⟨rs, hpaused ▸ h.control⟩, ⟨k, hold, hold', hrun, hk⟩, ?_⟩ hc
    by_cases hin : ∃ k, InBatch db i k
    · exact Or.inr hin
    · obtain ⟨k', j, hj, hr, hne⟩ := aside_iff.1 ha
      rw [(h.others k' fun hk' => hin ⟨k', hk'⟩).1] at hj
      exact Or.inl (aside_iff.2 ⟨k', j, hj, hr, hne⟩)

theorem step_parked (hs : Sound env.hashText db.pool) (hP : Parked db) (hc : ¬Strands env db e.op) :
    Parked (step env db e) := by
  cases he : exec env db e with
  | error t => rw [step_error he]; exact hP
  | ok p =>
    obtain ⟨a, db'⟩ := p
    rw [step_ok he]
    have houtcome := exec_outcome hs he
    have hproject : db'.project = db.project := houtcome.ledger.1
    cases houtcome with
    | worked h _ _ => exact hP.of_same hproject (congrArg controlsOf h.runControl) fun _ => Path.aside_work h.path
    | granted _ _ _ _ _ _ h => exact hP.of_same hproject (congrArg controlsOf h.runControl) fun _ => h.aside
    | committed _ _ _ h _ =>
      exact hP.of_same hproject (congrArg controlsOf h.did.runControl) fun _ => Path.aside_work h.did.path
    | recovered i hop _ _ hbatch h _ => rw [hop] at hc; exact h.parked hP hbatch hc
    | pauseRequested i _ _ _ h _ =>
      refine hP.of_set hproject h.control h.target (fun _ => ?_) (fun _ _ => h.steered.aside) fun _ => ?_
      · split
        · exact Or.inr rfl
        · exact Or.inl rfl
      · split <;> rfl
    | acknowledged i _ rs h _ =>
      have hpath : Path (fun j j' => j.run = i.runId ∧ Suspend j j') db.pool db'.pool := h.did.path
      have haside : ∀ r, r ≠ i.runId → Aside db' r → Aside db r := fun r =>
        hpath.aside fun j j' ht _ hx => by
          obtain ⟨hrun, -, -, rfl⟩ := ht
          exact hx hrun
      rcases h.target with ⟨-, hcontrol⟩ | ⟨-, -, hcontrol⟩
      · have hset : db'.control = update db.control i.runId (some ⟨.pauseRequested, rs⟩) := by
          rw [hcontrol, ← h.control, update_eq_self]
        exact hP.of_set hproject h.control hset (fun _ => hP.halted _ _ h.control rfl) haside fun _ => rfl
      · exact hP.of_set hproject h.control hcontrol (fun _ => Or.inr rfl) haside fun _ => rfl
    | resumed i _ _ _ h _ =>
      have hpath : Path (fun j j' => j.run = i.runId ∧ Resume j j') db.pool db'.pool := h.did.path
      refine hP.of_set hproject h.control h.target (fun hw => by cases hw) (fun r => ?_) fun ha => ?_
      · exact hpath.aside fun j j' ht hne _ => by
          obtain ⟨-, -, -, rfl⟩ := ht
          exact hne rfl
      · obtain ⟨k, j, hj, hr, hne⟩ := aside_iff.1 ha
        exact absurd (h.none_aside k j hj hr) hne
    | stateSet i hop _ _ h _ =>
      rw [hop] at hc
      refine hP.of_set hproject h.control h.target (fun hw => ?_) (fun _ _ => h.steered.aside) fun ha => ?_
      · have hw' : Recovery.pauseRequested (Recovery.controlStateOf i.state) = true := hw
        show i.state = .pausing ∨ i.state = .paused
        cases hi : i.state <;> rw [hi] at hw' <;> simp at hw' ⊢ <;> cases hw'
      · by_contra hn
        exact hc ⟨h.owned, h.steered.aside ha, by simpa using hn, _, h.control, h.allowed⟩

/-! ### Putting jobs back -/

/-- A resume of its run puts the job back into the queue. -/
def Returnable (env : Env) (db : Db) (a : PageJobRow) : Prop :=
  ∃ e i, e.op = .resumeRun i ∧ i.runId = a.runId ∧ ∃ ans db', exec env db e = .ok (ans, db') ∧
    ∃ b ∈ db'.pageJobs.rows, b.jobId = a.jobId ∧ b.state = .pending ∧ b.recoveryState = none

/-- What a resume makes of a job that is set aside. -/
theorem Resumed.pending {i : ResumeRunInput} {prior : RunControlState} {rs : CrawlRunState}
    (h : Resumed i prior rs db db') {a : PageJobRow} (ha : a ∈ db.pageJobs.rows)
    (hr : a.recoveryState ≠ none) (hrun : i.runId = a.runId) :
    ∃ b ∈ db'.pageJobs.rows, b.jobId = a.jobId ∧ b.state = .pending ∧ b.recoveryState = none := by
  have hpath : Path (fun j j' => j.run = i.runId ∧ Resume j j') db.pool db'.pool := h.did.path
  have hj : db.pool.jobs a.jobId = some (jobOf a) := jobs_mem ha
  obtain ⟨j', hj', hrun', -⟩ := hpath.job (fun _ _ ht => Or.inr (Or.inr ht.2)) hj
  have hnone : j'.recovery = none := h.none_aside _ _ hj' (hrun'.trans hrun.symm)
  have hback : a.jobId = a.jobId → j'.recovery ≠ none ∨ j'.state = .pending := by
    refine Path.forall_jobs (I := fun k j => k = a.jobId → j.recovery ≠ none ∨ j.state = .pending) hpath
      (fun _ _ hnew _ => Or.inr hnew.state) (fun _ _ _ ht _ _ => ?_) (fun k j hk hka => ?_) _ _ hj'
    · obtain ⟨-, -, -, rfl⟩ := ht
      exact Or.inr rfl
    · rw [hka, hj] at hk
      obtain rfl := Option.some.inj hk
      exact Or.inl hr
  obtain ⟨b, hb, hid, rfl⟩ := jobs_some hj'
  exact ⟨b, hb, hid, (hback rfl).resolve_left fun hne => hne hnone, hnone⟩

/-- **Every job that is set aside can be put back.** -/
theorem resumable (hs : Sound env.hashText db.pool) (hP : Parked db) {a : PageJobRow}
    (ha : a ∈ db.pageJobs.rows) (hr : a.recoveryState ≠ none) : Returnable env db a := by
  obtain ⟨v, hv, hpaused⟩ := hP.aside a.runId ⟨a, ha, rfl, hr⟩
  obtain ⟨ids, hinj, hfresh⟩ := exists_freshIds db
  let i : ResumeRunInput := ⟨db.project.projectId, a.runId, "", ""⟩
  let e : Event := ⟨.resumeRun i, fun _ => "", ids⟩
  have hallowed : canTransitionCrawlRunState v.run .running = true := by
    rcases hP.halted _ _ hv hpaused with h | h <;> rw [h] <;> decide
  have hreturns : wp (Recovery.resumeRun i) (fun _ _ => True) (fun _ => False) (e.start db) :=
    resumeRun_returns hs ⟨hinj, fun n _ => hfresh n⟩ ⟨rfl, hP.run _ _ hv⟩ hv hpaused hallowed
  have hwp := wp_and hreturns (resumeRun_spec hs)
  have hcall : wp (e.op.run env) (fun _ t => (t.db = db ∧ ∃ rs, db.control i.runId = some ⟨.active, rs⟩) ∨
      ∃ prior rs, Resumed i prior rs db t.db) (fun _ => False) (e.start db) :=
    (wp_map _ _).2 (wp_mono hwp (fun _ _ h => h.2) fun _ h => h)
  obtain ⟨ans, db', hexec, hdone⟩ := exec_ok_of_wp (Q := fun _ db' =>
    (db' = db ∧ ∃ rs, db.control i.runId = some ⟨.active, rs⟩) ∨ ∃ prior rs, Resumed i prior rs db db') hcall
  refine ⟨e, i, rfl, rfl, ans, db', hexec, ?_⟩
  rcases hdone with ⟨-, rs, hact⟩ | ⟨prior, rs, h⟩
  · have hact' : db.control a.runId = some ⟨.active, rs⟩ := hact
    rw [hv] at hact'
    obtain rfl := Option.some.inj hact'
    cases hpaused
  · exact h.pending ha hr rfl

/-! ### Runs -/

/-- **No job is stranded** along a run of calls that do not strand one: under an active
run nothing is set aside, and a job that ever was is either not any more or can be put
back into the queue by a resume. -/
theorem parked_run (env : Env) (project : Project) (createdAt : Timestamp) (es : List Event)
    (hes : Run.Meets (step env) (Db.create project createdAt) (fun db e => ¬Strands env db e.op) es)
    (n : ℕ) :
    (∀ c ∈ (storeAt env project createdAt es n).runControl.rows, c.controlState = .active →
      ∀ a ∈ (storeAt env project createdAt es n).pageJobs.rows, a.runId = c.runId →
        a.recoveryState = none) ∧
    ∀ m ≤ n, ∀ a ∈ (storeAt env project createdAt es m).pageJobs.rows, a.recoveryState ≠ none →
      ∃ b ∈ (storeAt env project createdAt es n).pageJobs.rows, b.jobId = a.jobId ∧
        (b.recoveryState = none ∨ Returnable env (storeAt env project createdAt es n) b) := by
  have hparked : Parked (storeAt env project createdAt es n) := by
    refine Run.stAt_induction (P := Parked) ⟨fun r v hv => ?_, fun r v hv hp => ?_, fun r hr => ?_⟩
      (fun n e he h => step_parked (sound_run n) h (hes n e he)) n
    · obtain ⟨c, hc, rfl, -⟩ := controls_some hv
      obtain ⟨r, hr, rfl⟩ := List.mem_map.1 hc
      exact List.contains_iff_mem.2 hr
    · rw [controls_create hv] at hp; cases hp
    · obtain ⟨a, ha, -⟩ := hr; cases ha
  refine ⟨fun c hc hact a ha hrun => ?_, fun m hmn a ha _ => ?_⟩
  · by_contra hne
    obtain ⟨v, hv, hpaused⟩ := hparked.aside c.runId ⟨a, ha, hrun, hne⟩
    obtain rfl : controlOf c = v := Option.some.inj ((controls_mem hc).symm.trans hv)
    have hpaused' : Recovery.pauseRequested c.controlState = true := hpaused
    rw [hact] at hpaused'
    exact absurd hpaused' (by decide)
  · obtain ⟨b, hb, hid, -⟩ := rows_run hmn ha
    refine ⟨b, hb, hid, ?_⟩
    by_cases hr : b.recoveryState = none
    · exact Or.inl hr
    · exact Or.inr (resumable (sound_run n) hparked hb hr)

/-! ### A run that is set to running while a job is set aside -/

/-- A page is claimed, and its owner acknowledges a pause. -/
def pausedRun : List Event :=
  [Sample.event 0 "a" (Sample.enqueue 'a' 3 "k1"), Sample.event 0 "b" (Sample.claimWithLease "o" "k2"),
    Sample.event 0 "c" (Sample.requestPause "k3"),
    Sample.event 0 "d" (Sample.acknowledgePause (Sample.holder "a0" "b0" 1 "o" "k4"))]

/-- The pause ends by `setRunState`. -/
def strandedRun : List Event := pausedRun ++ [Sample.event 0 "e" (Sample.setRunState .running "k5")]

theorem pausedRun_steers {e : Event} (he : e ∈ pausedRun) : ¬Strands env db e.op := by
  intro h
  simp only [pausedRun, List.mem_cons, List.not_mem_nil, or_false] at he
  rcases he with rfl | rfl | rfl | rfl <;> exact h.elim

set_option maxRecDepth 100000 in
theorem strandedRun_facts :
    ((storeAt Sample.env Sample.project (Sample.minute 0) strandedRun 5).runControl.rows.map fun c =>
      (c.runId, c.controlState)) = [("r", .active)] ∧
    ((storeAt Sample.env Sample.project (Sample.minute 0) strandedRun 5).pageJobs.rows.map fun a =>
      (a.runId, a.recoveryState)) = [("r", some .paused)] := by
  rw [Sample.env_eq]
  decide +kernel

theorem parked_run_pausedRun :
    (∀ c ∈ (storeAt Sample.env Sample.project (Sample.minute 0) pausedRun 4).runControl.rows,
      c.controlState = .active →
      ∀ a ∈ (storeAt Sample.env Sample.project (Sample.minute 0) pausedRun 4).pageJobs.rows,
        a.runId = c.runId → a.recoveryState = none) ∧
    ∀ m ≤ 4, ∀ a ∈ (storeAt Sample.env Sample.project (Sample.minute 0) pausedRun m).pageJobs.rows,
      a.recoveryState ≠ none →
      ∃ b ∈ (storeAt Sample.env Sample.project (Sample.minute 0) pausedRun 4).pageJobs.rows,
        b.jobId = a.jobId ∧ (b.recoveryState = none ∨
          Returnable Sample.env (storeAt Sample.env Sample.project (Sample.minute 0) pausedRun 4) b) :=
  parked_run Sample.env Sample.project (Sample.minute 0) pausedRun
    (fun _ _ he => pausedRun_steers (List.mem_of_getElem? he)) 4

/-- The run is active and its job is still set aside. -/
theorem strandedRun_aside :
    ∃ c ∈ (storeAt Sample.env Sample.project (Sample.minute 0) strandedRun 5).runControl.rows,
      c.controlState = .active ∧
      ∃ a ∈ (storeAt Sample.env Sample.project (Sample.minute 0) strandedRun 5).pageJobs.rows,
        a.runId = c.runId ∧ a.recoveryState ≠ none := by
  obtain ⟨hcontrol, hjobs⟩ := strandedRun_facts
  have hc := List.mem_singleton_self (("r", .active) : String × RunControlState)
  have ha := List.mem_singleton_self (("r", some .paused) : String × Option RecoveryState)
  rw [← hcontrol] at hc
  rw [← hjobs] at ha
  obtain ⟨c, hc, hcr⟩ := List.mem_map.1 hc
  obtain ⟨a, ha, har⟩ := List.mem_map.1 ha
  rw [Prod.mk.injEq] at hcr har
  refine ⟨c, hc, hcr.2, a, ha, har.1.trans hcr.1.symm, ?_⟩
  rw [har.2]
  decide

/-- Recovery leaves a run active that was neither pausing nor paused. -/
example : Recovery.restoredControl .active 0 = .active := by decide

end OfflineWebArchiver
