import OfflineWebArchiver.Lifecycle.Outcome
import OfflineWebArchiver.Properties.Sample

/-!
# Repeated leased claims

A leased claim that is repeated with its idempotency key looks the job up again and
returns whatever lease is active then.

* `run_replay`: what the repetition returns, and when it is refused.
* `replay_iff`: **it returns the caller's own lease, or none, exactly when the active
  lease of the job still has the generation of the first grant.**
-/

namespace OfflineWebArchiver

open Relational Program Function Relation

variable {env : Env} {db db' : Db} {s : Call}

/-- Rows of the ledger by type and key. -/
def operationIndex : Index queueOperations (OperationType × String) where
  key o := some (o.operationType, o.idempotencyKey)
  unique a b k ha hb := by
    have h := Option.some.inj (ha.trans hb.symm)
    rw [Prod.mk.injEq] at h
    simp [queueOperations, h.1, h.2]

/-- What a granted claim of the job `k` leaves behind for its repetitions. -/
structure Remembered (q : ClaimRequest) (k : String) (db : Db) : Prop where
  admitted : q.Admitted db.project
  named : ∀ k', q.jobId = some k' → k = k'
  entry : ∃ o ∈ db.queueOperations.rows, o.operationType = q.operationType ∧
    o.idempotencyKey = q.input.idempotencyKey ∧ o.requestHash = q.requestHash ∧
    o.result = .claimed (some k)
  job : ∃ a ∈ db.pageJobs.rows, a.jobId = k ∧ a.runId = q.input.runId

/-! ### What the repetition does -/

/-- The answer is the lease `l` as it stands, with the job's claim token. -/
def Answers (db : Db) (l : JobLeaseRow) (claim : LeaseClaim) : Prop :=
  claim.lease = rowToLease l ∧ ∃ a ∈ db.pageJobs.rows, a.jobId = l.jobId ∧
    a.claimToken = some claim.leaseToken

/-- The run is active and `l` is the active lease of the job `k`. -/
def Leased (db : Db) (runId k : String) (l : JobLeaseRow) : Prop :=
  (∃ rs, db.control runId = some ⟨.active, rs⟩) ∧ l ∈ db.jobLeases.rows ∧ l.status = .active ∧ l.jobId = k

theorem replayLease_wp {projectId runId k message : String} (hs : Sound env.hashText s.db.pool)
    (hp : projectId = s.db.project.projectId) {a : PageJobRow} (ha : a ∈ s.db.pageJobs.rows)
    (hid : a.jobId = k) (hr : a.runId = runId)
    (hact : ∃ rs, s.db.control runId = some ⟨.active, rs⟩) :
    wp (Recovery.replayLease env projectId runId k message)
      (fun claim _ => ∃ l, Leased s.db runId k l ∧ Answers s.db l claim)
      (fun _ => ∀ l, ¬Leased s.db runId k l) s := by
  subst hid hr
  unfold Recovery.replayLease
  rw [wp_bind, wp_database, wp_bind]
  refine getJobRow_wp hp ha ?_
  cases hl : activeLease s.db projectId a.runId a.jobId with
  | none =>
    -- a lease of the job would be one of its run, and found
    refine fun l ⟨_, hmem, hst, hjob⟩ => ?_
    obtain ⟨j, hj, -, -, -, hrun, -⟩ := hs.lease l.jobId (holdOf l) (held_mem hmem hst)
    have hja : s.db.pool.jobs l.jobId = some (jobOf a) := by rw [hjob]; exact jobs_mem ha
    rw [hja] at hj
    obtain rfl := Option.some.inj hj
    have hlr : a.runId = l.runId := hrun
    unfold activeLease at hl
    rw [if_pos hp] at hl
    have := Table.find_none hl l hmem
    simp [hjob, hst, ← hlr] at this
  | some l =>
    obtain ⟨hmem, hjob, -, hst⟩ := activeLease_mem hl
    obtain ⟨j, hj, -, -, -, -, t, ht, hhash⟩ := hs.lease l.jobId (holdOf l) (held_mem hmem hst)
    have hja : s.db.pool.jobs l.jobId = some (jobOf a) := by rw [hjob]; exact jobs_mem ha
    rw [hja] at hj
    obtain rfl := Option.some.inj hj
    have ht' : a.claimToken = some t := ht
    have hhash' : env.hashText t = l.leaseTokenHash := hhash
    rw [ht']
    simp only [wp_bind, wp_require, wp_pure, hhash', beq_self_eq_true]
    exact ⟨fun _ => ⟨l, ⟨hact, hmem, hst, hjob⟩, rfl, a, ha, hjob.symm, ht'⟩, fun h => by cases h⟩

/-- The ledger row that a repetition finds. -/
theorem Remembered.find {q : ClaimRequest} {k : String} (h : Remembered q k db) :
    ∃ o, (db.queueOperations.find fun o => o.operationType == q.operationType &&
      o.idempotencyKey == q.input.idempotencyKey) = some o ∧ o.requestHash = q.requestHash ∧
      o.result = .claimed (some k) := by
  obtain ⟨o, ho, hty, hkey, hhash, hresult⟩ := h.entry
  cases hf : db.queueOperations.find fun o => o.operationType == q.operationType &&
      o.idempotencyKey == q.input.idempotencyKey with
  | none =>
    have := Table.find_none hf o ho
    simp [hty, hkey] at this
  | some o' =>
    obtain ⟨hmem, hp⟩ := Table.find_mem hf
    simp only [Bool.and_eq_true, beq_iff_eq] at hp
    have hkey' : operationIndex.key o' = operationIndex.key o := by
      simp [operationIndex, hp, hty, hkey]
    obtain rfl := operationIndex.eq_of_key hmem ho hkey' rfl
    exact ⟨o', rfl, hhash, hresult⟩

theorem claimNextWithLease_replay {i : ClaimNextWithLeaseInput} {k : String}
    (hs : Sound env.hashText s.db.pool) (h : Remembered (nextRequest env i) k s.db) :
    wp (Recovery.claimNextWithLease env i)
      (fun c _ => ∃ l claim, c = some claim ∧ Leased s.db i.runId k l ∧ Answers s.db l claim)
      (fun _ => ∀ l, ¬Leased s.db i.runId k l) s := by
  obtain ⟨⟨d, hd⟩, hp, hrun⟩ := h.admitted
  obtain ⟨o, ho, hhash, hresult⟩ := h.find
  obtain ⟨a, ha, hid, har⟩ := h.job
  simp only [nextRequest] at hd hp hrun ho hhash
  unfold Recovery.claimNextWithLease Recovery.recoveryTransaction transaction
  rw [wp_bind, wp_check, hd]
  refine ⟨fun _ _ => ?_, fun _ he => by cases he⟩
  rw [wp_mapError, wp_bind]
  refine validateOwnership_wp hp hrun ?_
  rw [wp_bind]
  refine assertRunActive_wp hp (fun hact => ?_) fun hn _ l hl => hl.1.elim hn
  rw [wp_bind, wp_database, ho]
  rw [wp_bind, wp_require, hhash, hresult]
  refine ⟨fun _ => ?_, fun hne => by simp at hne⟩
  rw [wp_bind]
  refine wp_mono (replayLease_wp hs hp ha hid har hact) (fun claim _ hc => ?_) fun _ hn => hn
  obtain ⟨l, hl, hans⟩ := hc
  exact ⟨l, claim, rfl, hl, hans⟩

theorem claimJobWithLease_replay {i : ClaimJobWithLeaseInput} {k : String}
    (hs : Sound env.hashText s.db.pool) (h : Remembered (jobRequest env i) k s.db) :
    wp (Recovery.claimJobWithLease env i)
      (fun claim _ => ∃ l, Leased s.db i.runId k l ∧ Answers s.db l claim)
      (fun _ => ∀ l, ¬Leased s.db i.runId k l) s := by
  obtain ⟨⟨d, hd⟩, hp, hrun⟩ := h.admitted
  obtain ⟨o, ho, hhash, hresult⟩ := h.find
  obtain ⟨a, ha, hid, har⟩ := h.job
  have hk : k = i.jobId := h.named _ rfl
  simp only [jobRequest] at hd hp hrun ho hhash
  unfold Recovery.claimJobWithLease Recovery.recoveryTransaction transaction
  rw [wp_bind, wp_check, hd]
  refine ⟨fun _ _ => ?_, fun _ he => by cases he⟩
  rw [wp_mapError, wp_bind]
  refine validateOwnership_wp hp hrun ?_
  rw [wp_bind]
  refine assertRunActive_wp hp (fun hact => ?_) fun hn _ l hl => hl.1.elim hn
  rw [wp_bind, wp_database, ho]
  rw [wp_bind, wp_require, hhash, hresult]
  refine ⟨fun _ => ?_, fun hne => by simp at hne⟩
  rw [wp_bind, wp_require, ← hk]
  refine ⟨fun _ => replayLease_wp hs hp ha hid har hact, fun hne => by simp at hne⟩

/-- **What a repetition does**: it answers with the lease that stands, or throws. -/
theorem run_replay {op : Op} {q : ClaimRequest} {k : String} (hs : Sound env.hashText s.db.pool)
    (hq : op.leasedClaim env = some q) (h : Remembered q k s.db) :
    wp (op.run env)
      (fun ans _ => ∃ l claim, ans.claim? = some claim ∧ Leased s.db q.input.runId k l ∧
        Answers s.db l claim)
      (fun _ => ∀ l, ¬Leased s.db q.input.runId k l) s := by
  cases op with
  | claimNextWithLease i =>
    obtain rfl := Option.some.inj hq
    rw [Op.run, wp_map]
    refine wp_mono (claimNextWithLease_replay hs h) (fun c _ hc => ?_) fun _ hn => hn
    obtain ⟨l, claim, hc, hl, hans⟩ := hc
    exact ⟨l, claim, hc, hl, hans⟩
  | claimJobWithLease i =>
    obtain rfl := Option.some.inj hq
    rw [Op.run, wp_map]
    refine wp_mono (claimJobWithLease_replay hs h) (fun claim _ hclaim => ?_) fun _ hn => hn
    obtain ⟨l, hl, hans⟩ := hclaim
    exact ⟨l, claim, rfl, hl, hans⟩
  | _ => cases hq

/-! ### The memory of a claim -/

theorem Granted.remembered {q : ClaimRequest} {claim : LeaseClaim}
    (h : Granted env q claim db.core db'.core) : Remembered q claim.job.jobId db' := by
  obtain ⟨o, ho, hentry⟩ := h.ledger
  have hrows : db'.queueOperations.rows = db.queueOperations.rows ++ [o] := ho
  refine ⟨?_, h.named, ⟨o, by rw [hrows]; simp, hentry⟩, ?_⟩
  · have hproject : db'.project = db.project := h.project
    rw [hproject]
    exact h.admitted
  · obtain ⟨a, ha, hid, hrun⟩ := h.job
    obtain ⟨⟨j, hj, -, -, -, -, -, hjobs⟩, -, -⟩ := h.grant
    have hja : db.core.pool.jobs claim.job.jobId = some (jobOf a) := by rw [← hid]; exact jobs_mem ha
    rw [hja] at hj
    obtain rfl := Option.some.inj hj
    have hj' : db'.pool.jobs claim.job.jobId = some ((jobOf a).leased claim.leaseToken) :=
      (congrFun hjobs _).trans (update_self ..)
    obtain ⟨b, hb, hbid, hbj⟩ := jobs_some hj'
    have hbrun : b.runId = a.runId := congrArg Job.run hbj
    exact ⟨b, hb, hbid, hbrun.trans hrun⟩

theorem Remembered.step {q : ClaimRequest} {k : String} {e : Event} (hs : Sound env.hashText db.pool)
    (h : Remembered q k db) : Remembered q k (step env db e) := by
  obtain ⟨hproject, hops⟩ := step_ledger (e := e) hs
  obtain ⟨o, ho, hentry⟩ := h.entry
  obtain ⟨a, ha, hid, hrun⟩ := h.job
  obtain ⟨b, hb, hbid, hbrun, -⟩ := step_rows (e := e) hs ha
  exact ⟨hproject ▸ h.admitted, h.named, ⟨o, hops.subset ho, hentry⟩, b, hb, hbid.trans hid,
    hbrun.trans hrun⟩

variable {project : Project} {createdAt : Timestamp} {es : List Event} {m n : ℕ} {claim : LeaseClaim}

/-- The request of the `m`-th event is remembered from then on. -/
theorem remembered_run {e : Event} {q : ClaimRequest} (he : es[m]? = some e)
    (hg : grantAt env project createdAt es m = some claim) (hq : e.op.leasedClaim env = some q)
    (hmn : m < n) : Remembered q claim.job.jobId (storeAt env project createdAt es n) := by
  rw [grantAt_eq he] at hg
  obtain ⟨q', hq', -, -, h⟩ := granted_spec (sound_run m) hg
  obtain rfl := Option.some.inj (hq.symm.trans hq')
  induction n with
  | zero => omega
  | succ n ih =>
    rcases Nat.lt_succ_iff_lt_or_eq.1 hmn with hmn' | rfl
    · cases hn : es[n]? with
      | none =>
        have hstay : storeAt env project createdAt es (n + 1) = storeAt env project createdAt es n :=
          Run.stAt_succ_none hn
        rw [hstay]
        exact ih hmn'
      | some e' =>
        have hstep : storeAt env project createdAt es (n + 1) =
            step env (storeAt env project createdAt es n) e' := dbAt_succ hn
        rw [hstep]
        exact (ih hmn').step (sound_run n)
    · have hstep : storeAt env project createdAt es (m + 1) =
          step env (storeAt env project createdAt es m) e := dbAt_succ he
      rw [hstep]
      exact h.remembered

/-! ### The lease that stands -/

/-- The two requests differ at most in their operation and correlation ids. -/
inductive SameClaim : Op → Op → Prop
  | next (i : ClaimNextWithLeaseInput) (operationId correlationId : String) :
      SameClaim (.claimNextWithLease i) (.claimNextWithLease { i with operationId, correlationId })
  | job (i : ClaimJobWithLeaseInput) (operationId correlationId : String) :
      SameClaim (.claimJobWithLease i) (.claimJobWithLease { i with operationId, correlationId })

/-- What is remembered of the first request is remembered of its repetition. -/
theorem SameClaim.request {op op' : Op} {q : ClaimRequest} (h : SameClaim op op')
    (hq : op.leasedClaim env = some q) : ∃ q', op'.leasedClaim env = some q' ∧
      q'.input.runId = q.input.runId ∧ ∀ db k, Remembered q k db → Remembered q' k db := by
  cases h with
  | next i =>
    obtain rfl := Option.some.inj hq
    exact ⟨_, rfl, rfl, fun db k hr =>
      ⟨⟨hr.admitted.duration, hr.admitted.projectId, hr.admitted.run⟩, hr.named, hr.entry, hr.job⟩⟩
  | job i =>
    obtain rfl := Option.some.inj hq
    exact ⟨_, rfl, rfl, fun db k hr =>
      ⟨⟨hr.admitted.duration, hr.admitted.projectId, hr.admitted.run⟩, hr.named, hr.entry, hr.job⟩⟩

/-- The repetition returns the first claim's lease with its token, or throws. -/
def OwnOrRefused (env : Env) (db : Db) (e : Event) (claim : LeaseClaim) : Prop :=
  ∀ a db', exec env db e = .ok (a, db') → ∃ c, a.claim? = some c ∧
    c.lease.ownerId = claim.lease.ownerId ∧
    c.lease.fencingGeneration = claim.lease.fencingGeneration ∧ c.leaseToken = claim.leaseToken

/-- While its generation stands, an active lease of the job is the granted one. -/
theorem own_lease (hmn : m < n) (hg : grantAt env project createdAt es m = some claim)
    {l : JobLeaseRow} (hl : l ∈ (storeAt env project createdAt es n).jobLeases.rows)
    (hst : l.status = .active) (hjob : l.jobId = claim.job.jobId)
    (hgen : l.fencingGeneration = claim.lease.fencingGeneration) :
    l.ownerId = claim.lease.ownerId ∧ ∃ a ∈ (storeAt env project createdAt es n).pageJobs.rows,
      a.jobId = l.jobId ∧ a.claimToken = some claim.leaseToken := by
  set P := (storeAt env project createdAt es n).pool with hP
  have htrace := fencing_run env project createdAt es
  obtain ⟨e, he, hg'⟩ := Option.bind_eq_some_iff.1 hg
  obtain ⟨q, -, -, -, h⟩ := granted_spec (sound_run m) hg'
  have hheld : P.held claim.job.jobId = some (holdOf l) := by rw [← hjob]; exact held_mem hl hst
  obtain ⟨j, hj, -, -, hjgen, -⟩ := (sound_run n).lease _ _ hheld
  obtain ⟨a, ha, hid, rfl⟩ := jobs_some hj
  have hlabel : grantLabel env (grantAt env project createdAt es m) =
      some (claim.job.jobId, (claim.hold env, some claim.leaseToken)) := by rw [hg]; rfl
  -- the generation after the grant is that of the claim, and it still stands
  have hafter : (storeAt env project createdAt es (m + 1)).pool.fencing.generation claim.job.jobId =
      claim.lease.fencingGeneration := by
    obtain ⟨⟨j₀, -, -, -, -, -, hgen₀, hjobs⟩, -, -⟩ := h.grant
    have hstep : storeAt env project createdAt es (m + 1) =
        step env (storeAt env project createdAt es m) e := dbAt_succ he
    show ((storeAt env project createdAt es (m + 1)).pool.jobs claim.job.jobId).elim 0 _ = _
    rw [hstep]
    have hj' : (step env (storeAt env project createdAt es m) e).pool.jobs claim.job.jobId =
        some (j₀.leased claim.leaseToken) := (congrFun hjobs _).trans (update_self ..)
    rw [hj']
    exact hgen₀.symm
  have hnow : P.fencing.generation claim.job.jobId = claim.lease.fencingGeneration := by
    show (P.jobs claim.job.jobId).elim 0 _ = _
    rw [hj]
    exact hjgen.trans hgen
  have hholder : P.fencing.holder claim.job.jobId = some (holdOf l, a.claimToken) := by
    show (P.held claim.job.jobId).map (fun h => (h, (P.jobs claim.job.jobId).bind (·.token))) = _
    rw [hheld, hj]; rfl
  rcases htrace.held_or_lost hmn hlabel (hnow.trans hafter.symm) with hown | hlost
  · rw [hholder] at hown
    have heq := Option.some.inj hown
    rw [Prod.mk.injEq] at heq
    exact ⟨congrArg Hold.owner heq.1, a, ha, hid.trans hjob.symm, heq.2⟩
  · rw [hholder] at hlost; cases hlost

/-- **A repeated leased claim returns its own lease, or none, exactly when every active
lease of its job still has the granted generation, or the run is not active.** -/
theorem replay_iff {e e' : Event} (hmn : m < n) (he : es[m]? = some e)
    (hg : grantAt env project createdAt es m = some claim) (hsame : SameClaim e.op e'.op) :
    OwnOrRefused env (storeAt env project createdAt es n) e' claim ↔
      ∀ l, Leased (storeAt env project createdAt es n) claim.lease.runId claim.job.jobId l →
        l.fencingGeneration = claim.lease.fencingGeneration := by
  have hg' := hg
  rw [grantAt_eq he] at hg'
  obtain ⟨q, hq, -, -, h⟩ := granted_spec (sound_run m) hg'
  obtain ⟨q', hq', hrun, hsame'⟩ := hsame.request hq
  have hrem := hsame' _ _ (remembered_run he hg hq hmn)
  set db := storeAt env project createdAt es n
  have hwp := run_replay (s := e'.start db) (sound_run n) hq' hrem
  rw [hrun, ← h.run] at hwp
  let Q : Answer → Db → Prop := fun ans _ => ∃ l c, ans.claim? = some c ∧
    Leased db claim.lease.runId claim.job.jobId l ∧ Answers db l c
  have hok : ∀ {a db'}, exec env db e' = .ok (a, db') → Q a db' := fun h => exec_of_wp (Q := Q) hwp h
  have herr : ∀ {t}, exec env db e' = .error t →
      ∀ l, ¬Leased db claim.lease.runId claim.job.jobId l := fun h => exec_error_of_wp (Q := Q) hwp h
  constructor
  · intro hown l hl
    -- the repetition does return, with the lease that stands
    cases hexec : exec env db e' with
    | error t => exact absurd hl (herr hexec l)
    | ok r =>
      obtain ⟨l', c, hc, hl', hlease, -⟩ := hok hexec
      obtain ⟨c', hc', -, hgen, -⟩ := hown r.1 r.2 hexec
      obtain rfl := Option.some.inj (hc.symm.trans hc')
      obtain rfl := lease_eq hl.2.1 hl'.2.1 hl.2.2.1 hl'.2.2.1 (hl.2.2.2.trans hl'.2.2.2.symm)
      rw [← hgen, hlease]; rfl
  · intro hgen a db' hexec
    obtain ⟨l, c, hc, hl, hlease, b, hb, hbid, htoken⟩ := hok hexec
    obtain ⟨-, hmem, hst, hjob⟩ := id hl
    obtain ⟨howner, a', ha', haid, htoken'⟩ := own_lease hmn hg hmem hst hjob (hgen l hl)
    obtain rfl := job_eq hb ha' (hbid.trans haid.symm)
    refine ⟨c, hc, ?_, ?_, ?_⟩
    · rw [hlease]; exact howner
    · rw [hlease]; exact hgen l hl
    · exact Option.some.inj (htoken.symm.trans htoken')

/-! ### A repetition that returns another owner's lease -/

/-- `o1` claims the page, its lease expires, the page is recovered and claimed by `o2`. -/
def stolenRun : List Event :=
  [Sample.event 0 "a" (Sample.enqueue 'a' 3 "k1"), Sample.event 0 "b" (Sample.claimWithLease "o1" "k2"),
    Sample.event 1 "c" (Sample.recover 1 "k3"), Sample.event 1 "d" (Sample.claimWithLease "o2" "k4")]

/-- `o1` repeats its claim. -/
def repetition : Event := Sample.event 1 "e" (Sample.claimWithLease "o1" "k2")

/-- The owner, the generation and the token of a claim. -/
def LeaseClaim.facts (claim : LeaseClaim) : String × ℕ × String :=
  (claim.lease.ownerId, claim.lease.fencingGeneration, claim.leaseToken)

set_option maxRecDepth 100000 in
theorem stolenRun_facts :
    (grantAt Sample.env Sample.project (Sample.minute 0) stolenRun 1).map (·.facts) =
      some ("o1", 1, "b0") ∧
    ((exec Sample.env (storeAt Sample.env Sample.project (Sample.minute 0) stolenRun 4) repetition).toOption.bind
      (·.1.claim?)).map (·.facts) = some ("o2", 2, "d0") := by
  rw [Sample.env_eq]
  decide +kernel

theorem replay_iff_stolenRun : ∃ claim,
    grantAt Sample.env Sample.project (Sample.minute 0) stolenRun 1 = some claim ∧
    (OwnOrRefused Sample.env (storeAt Sample.env Sample.project (Sample.minute 0) stolenRun 4)
        repetition claim ↔
      ∀ l, Leased (storeAt Sample.env Sample.project (Sample.minute 0) stolenRun 4) claim.lease.runId
        claim.job.jobId l → l.fencingGeneration = claim.lease.fencingGeneration) := by
  obtain ⟨claim, hclaim, -⟩ := Option.map_eq_some_iff.1 stolenRun_facts.1
  exact ⟨claim, hclaim, replay_iff (by decide) rfl hclaim (.next _ _ _)⟩

/-- `o1` is handed the lease of `o2`, with its token. -/
theorem replay_other_owner : ∃ claim,
    grantAt Sample.env Sample.project (Sample.minute 0) stolenRun 1 = some claim ∧
    SameClaim (Sample.claimWithLease "o1" "k2") repetition.op ∧
    ¬OwnOrRefused Sample.env (storeAt Sample.env Sample.project (Sample.minute 0) stolenRun 4)
      repetition claim := by
  obtain ⟨hfirst, hsecond⟩ := stolenRun_facts
  obtain ⟨claim, hclaim, hfacts⟩ := Option.map_eq_some_iff.1 hfirst
  refine ⟨claim, hclaim, .next _ _ _, fun hown => ?_⟩
  obtain ⟨c, hc, hcfacts⟩ := Option.map_eq_some_iff.1 hsecond
  obtain ⟨r, hr, hrc⟩ := Option.bind_eq_some_iff.1 hc
  cases hexec : exec Sample.env
      (storeAt Sample.env Sample.project (Sample.minute 0) stolenRun 4) repetition with
  | error t => rw [hexec] at hr; cases hr
  | ok r' =>
    rw [hexec] at hr
    obtain rfl : r' = r := Option.some.inj hr
    obtain ⟨c', hc', howner, -⟩ := hown r'.1 r'.2 hexec
    obtain rfl := Option.some.inj (hrc.symm.trans hc')
    simp only [LeaseClaim.facts, Prod.mk.injEq] at hfacts hcfacts
    rw [hfacts.1, hcfacts.1] at howner
    exact absurd howner (by decide)

end OfflineWebArchiver
