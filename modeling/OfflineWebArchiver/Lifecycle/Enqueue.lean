import OfflineWebArchiver.Lifecycle.Frame
import OfflineWebArchiver.Lifecycle.Queue

/-!
# What an enqueue does to the jobs

An enqueue that is not refused either finds the page among the jobs and lowers its depth, or puts
a new job at the end of the queue. Either way it records the discovery.

* `Enqueued`: the three ways an enqueue ends.
* `enqueue_spec`: **a call of `enqueue` is an earlier answer or ends in one of them.**
* `Numbered`: the place of a job in the queue is its place in the table.
-/

namespace OfflineWebArchiver

open Relational Program

/-- The row stands for the page that the input asks for. -/
def PageJobRow.standsFor (a : PageJobRow) (input : QueueEnqueueInput) : Prop :=
  a.runId = input.runId ∧ a.profileRevisionId = input.scopeDecision.profileRevisionId ∧
    a.normalizationEngineVersion = input.scopeDecision.engineVersion ∧
    some a.identityHash = input.scopeDecision.identityHash

/-- The depth of one job is lowered. -/
def JobEntry.lower (jobId : String) (depth : ℕ) (e : JobEntry) : JobEntry :=
  if e.jobId = jobId then { e with depth := min e.depth depth } else e

/-- What the discovery of an accepted enqueue leaves. -/
structure Discovered (env : Env) (input : QueueEnqueueInput) (jobId : String)
    (t t' : Table jobDiscoveries) (discovery : JobDiscoveryRow) : Prop where
  key : discovery.discoveryKey = env.hash (Queue.discoveryKeyOf input)
  child : discovery.childJobId = jobId
  mem : discovery ∈ t'.rows
  grown : t.rows <+: t'.rows
  /-- Nothing else is new. -/
  only : ∀ d ∈ t'.rows, d ∈ t.rows ∨ d = discovery

/-- What an enqueue does. -/
inductive Enqueued (env : Env) (input : QueueEnqueueInput) (db db' : Db) : QueueEnqueueResult → Prop
  | blocked (reasonCodes : List String) (hcalm : Calm db db') :
      Enqueued env input db db' (.blocked reasonCodes)
  | rejected (reasonCodes : List String) (hcalm : Calm db db') :
      Enqueued env input db db' (.rejected reasonCodes)
  | existing (a : PageJobRow) (job : PageJob) (discovery : JobDiscoveryRow)
      (hmem : a ∈ db.pageJobs.rows) (ha : a.standsFor input) (hjob : job.jobId = a.jobId)
      (hentries : db'.pageJobs.rows.map entryOf =
        (db.pageJobs.rows.map entryOf).map (.lower a.jobId input.scopeDecision.depth.toNat))
      (hproject : db'.project = db.project)
      (hledger : db.queueOperations.rows <+: db'.queueOperations.rows)
      (hdiscovery : Discovered env input a.jobId db.jobDiscoveries db'.jobDiscoveries discovery) :
      Enqueued env input db db' (.existing job discovery)
  | created (a : PageJobRow) (job : PageJob) (discovery : JobDiscoveryRow)
      (hnew : ∀ b ∈ db.pageJobs.rows, ¬b.standsFor input) (ha : a.standsFor input)
      (hlimit : ∀ maxPages, input.maxPages = some maxPages →
        (db.pageJobs.count fun b => b.runId == input.runId &&
          b.profileRevisionId == input.scopeDecision.profileRevisionId &&
          b.normalizationEngineVersion == input.scopeDecision.engineVersion) < maxPages)
      (hsequence : a.queueSequence = db.pageJobs.rows.length + 1) (hjob : job.jobId = a.jobId)
      (hdepth : a.depth = input.scopeDecision.depth.toNat)
      (hentries : db'.pageJobs.rows.map entryOf = db.pageJobs.rows.map entryOf ++ [entryOf a])
      (hproject : db'.project = db.project)
      (hledger : db.queueOperations.rows <+: db'.queueOperations.rows)
      (hdiscovery : Discovered env input a.jobId db.jobDiscoveries db'.jobDiscoveries discovery) :
      Enqueued env input db db' (.created job discovery)

variable {env : Env} {s : Call} {input : QueueEnqueueInput} {jobId : String}

/-- Discoveries by their child and their key. -/
def discoveryIndex : Index jobDiscoveries (String × String) where
  key d := some (d.childJobId, d.discoveryKey)
  unique a b k ha hb := by
    have h : (a.childJobId, a.discoveryKey) = (b.childJobId, b.discoveryKey) :=
      Option.some.inj (ha.trans hb.symm)
    obtain ⟨hchild, hkey⟩ := Prod.mk.inj h
    simp [jobDiscoveries, hchild, hkey]

/-- `INSERT OR IGNORE` and the row that is then read back. -/
theorem Discovered.of_insert {db : Db} {row discovery : JobDiscoveryRow}
    (hchild : row.childJobId = jobId) (hkey : row.discoveryKey = env.hash (Queue.discoveryKeyOf input))
    (hfind : ((db.jobDiscoveries.insert row).getD db.jobDiscoveries).find
      (fun d => d.childJobId == jobId && d.discoveryKey == env.hash (Queue.discoveryKeyOf input)) =
        some discovery) :
    Discovered env input jobId db.jobDiscoveries ((db.jobDiscoveries.insert row).getD db.jobDiscoveries)
      discovery := by
  obtain ⟨hmem, hp⟩ := Table.find_mem hfind
  simp only [Bool.and_eq_true, beq_iff_eq] at hp
  cases hins : db.jobDiscoveries.insert row with
  | none =>
    rw [hins] at hmem
    exact ⟨hp.2, hp.1, hmem, List.prefix_rfl, fun d hd => Or.inl hd⟩
  | some table =>
    rw [hins] at hmem
    have hrows := Table.insert_rows hins
    refine ⟨hp.2, hp.1, hmem, ?_, fun d hd => ?_⟩
    · show _ <+: table.rows
      rw [hrows]
      exact List.prefix_append _ _
    · have hd' : d ∈ table.rows := hd
      rw [hrows, List.mem_append, List.mem_singleton] at hd'
      rcases hd' with hd' | rfl
      · exact Or.inl hd'
      · refine Or.inr (discoveryIndex.eq_of_key (k := (jobId, env.hash (Queue.discoveryKeyOf input))) hd hmem ?_ ?_)
        · show some (d.childJobId, d.discoveryKey) = _
          rw [hchild, hkey]
        · show some (discovery.childJobId, discovery.discoveryKey) = _
          rw [hp.1, hp.2]

theorem discovery_spec {timestamp : Timestamp} :
    safe (Queue.insertDiscovery env input jobId timestamp) (fun discovery t =>
      t.db.pageJobs = s.db.pageJobs ∧ t.db.project = s.db.project ∧
      t.db.queueOperations = s.db.queueOperations ∧
      Discovered env input jobId s.db.jobDiscoveries t.db.jobDiscoveries discovery) s := by
  unfold Queue.insertDiscovery
  simp only [safe, wp_bind, wp_require, wp_freshId, wp_insertJobDiscovery, wp_database, wp_orThrow,
    implies_true, and_true, true_and]
  exact fun _ _ discovery hfind => Discovered.of_insert rfl rfl hfind

/-- What the depth update leaves of the entries. -/
theorem lowerDepth_entries {a : PageJobRow} {depth : ℕ} {timestamp : Timestamp}
    (ha : a ∈ s.db.pageJobs.rows) (hdepth : depth = min a.depth input.scopeDecision.depth.toNat) :
    safe (Queue.lowerDepth (rowToJob a) depth timestamp) (fun _ t =>
      t.db.pageJobs.rows.map entryOf =
        (s.db.pageJobs.rows.map entryOf).map (.lower a.jobId input.scopeDecision.depth.toNat) ∧
      t.db.jobDiscoveries = s.db.jobDiscoveries ∧ t.db.project = s.db.project ∧
      t.db.queueOperations = s.db.queueOperations) s := by
  unfold Queue.lowerDepth
  simp only [safe, wp_ite, wp_bind, wp_updateJobs, wp_pure, implies_true, and_true]
  have hrow : ∀ b ∈ s.db.pageJobs.rows, b.jobId = a.jobId → b = a := fun b hb h => job_eq hb ha h
  constructor
  · intro _ jobs hjobs
    rw [Table.update_rows hjobs, List.map_map, List.map_map]
    refine List.map_congr_left fun b hb => ?_
    by_cases hid : b.jobId = a.jobId
    · obtain rfl := hrow b hb hid
      simp [rewrite, entryOf, JobEntry.lower, rowToJob, hdepth]
    · simp [rewrite, entryOf, JobEntry.lower, rowToJob, hid]
  · intro hsame
    have hsame : depth = a.depth := by simpa [rowToJob] using hsame
    rw [List.map_map]
    refine List.map_congr_left fun b hb => ?_
    by_cases hid : b.jobId = a.jobId
    · obtain rfl := hrow b hb hid
      have hmin : min b.depth input.scopeDecision.depth.toNat = b.depth := by omega
      simp [entryOf, JobEntry.lower, hmin]
    · simp [entryOf, JobEntry.lower, hid]

theorem queue_transition_calm {jobId reasonCode operationId correlationId : String}
    {source : Option PageJobState} {target : PageJobState} {occurredAt : Timestamp} {metadata : Json} :
    safe (Queue.transition jobId source target reasonCode operationId correlationId occurredAt metadata)
      (fun _ t => t.db.pageJobs = s.db.pageJobs ∧ t.db.jobDiscoveries = s.db.jobDiscoveries ∧
        t.db.project = s.db.project ∧ t.db.queueOperations = s.db.queueOperations) s := by
  simp [Queue.transition]

theorem minimumDepth_ok {currentDepth depth : ℕ} {discoveredDepth : ℤ}
    (h : minimumDepth currentDepth discoveredDepth = .ok depth) :
    depth = min currentDepth discoveredDepth.toNat := by
  unfold minimumDepth ensure at h
  split_ifs at h
  · exact (Except.ok.inj h).symm
  · cases h

theorem limit_spec :
    safe (Queue.withinPageLimit input) (fun within t => t = s ∧ (within = true → ∀ maxPages,
      input.maxPages = some maxPages → (s.db.pageJobs.count fun b => b.runId == input.runId &&
        b.profileRevisionId == input.scopeDecision.profileRevisionId &&
        b.normalizationEngineVersion == input.scopeDecision.engineVersion) < maxPages)) s := by
  unfold Queue.withinPageLimit
  cases hmax : input.maxPages with
  | none => simp
  | some maxPages => simp

/-- A decision that may be queued says which page it is about. -/
theorem queueable_some {decision : QueueScopeDecisionSnapshot} {normalizedUrl identityUrl identityHash
    displayUrl : String} (h : Queue.queueable decision =
      some (normalizedUrl, identityUrl, identityHash, displayUrl)) :
    decision.identityHash = some identityHash := by
  unfold Queue.queueable at h
  simp only [Option.bind_eq_bind, Option.bind_eq_some_iff] at h
  obtain ⟨hash, hhash, _, -, _, -, _, -, h⟩ := h
  split_ifs at h
  simp only [Option.some.injEq, Prod.mk.injEq] at h
  rw [hhash, h.2.2.1]

theorem enqueueInTransaction_spec :
    safe (Queue.enqueueInTransaction env input) (fun r t => Enqueued env input s.db t.db r) s := by
  unfold Queue.enqueueInTransaction
  refine safe_bind validateEnqueue_spec fun _ t ht => ?_
  obtain ⟨rfl, -⟩ := ht
  simp only [safe, wp_bind, wp_now, wp_insertScopeDecision]
  split
  · rw [wp_pure]
    split
    · exact .blocked _ ⟨rfl, rfl, rfl, List.prefix_rfl⟩
    · exact .rejected _ ⟨rfl, rfl, rfl, List.prefix_rfl⟩
  · rename_i normalizedUrl identityUrl identityHash displayUrl hqueue
    have hhash := queueable_some hqueue
    simp only [wp_bind, wp_database]
    split
    · -- the page is already queued
      rename_i a hfind
      obtain ⟨hmem, hp⟩ := Table.find_mem hfind
      simp only [Bool.and_eq_true, beq_iff_eq] at hp
      obtain ⟨⟨⟨hrun, hprofile⟩, hengine⟩, hidentity⟩ := hp
      simp only [wp_bind, wp_check, implies_true, and_true]
      intro depth hdepth
      refine safe_mono (lowerDepth_entries hmem (minimumDepth_ok hdepth)) fun _ t ht => ?_
      obtain ⟨hentries, hdiscoveries, hproject, hledger⟩ := ht
      refine safe_mono discovery_spec fun discovery t' ht' => ?_
      obtain ⟨hjobs', hproject', hledger', hfound⟩ := ht'
      refine safe_mono getJobRow_spec fun row t'' ht'' => ?_
      obtain ⟨rfl, -, hrow, -⟩ := ht''
      rw [wp_pure]
      refine .existing a (rowToJob row) discovery hmem ⟨hrun, hprofile, hengine, ?_⟩ hrow ?_ ?_ ?_ ?_
      · rw [hidentity, hhash]
      · rw [hjobs', hentries]
      · rw [hproject', hproject]
      · exact (hledger'.trans hledger) ▸ List.prefix_rfl
      · rw [hdiscoveries] at hfound
        exact hfound
    · -- a new page
      rename_i hfind
      rw [wp_bind]
      refine safe_mono limit_spec fun within t ht => ?_
      obtain ⟨rfl, hlimit⟩ := ht
      rw [wp_ite]
      refine ⟨fun _ => .rejected _ ⟨rfl, rfl, rfl, List.prefix_rfl⟩, fun hwithin => ?_⟩
      simp only [wp_bind, wp_check, wp_freshId, wp_database, wp_require, wp_insertJob, implies_true,
        and_true]
      intro priority _ _ jobs hjobs
      generalize hnewRow : Queue.newJobRow _ _ _ _ _ _ _ _ _ = a at hjobs
      have hid : a.jobId = t.ids t.drawn := by rw [← hnewRow]; rfl
      have hstands : a.standsFor input := by rw [← hnewRow]; exact ⟨rfl, rfl, rfl, hhash.symm⟩
      have hsequence : a.queueSequence = t.db.pageJobs.rows.length + 1 := by rw [← hnewRow]; rfl
      have hdepth : a.depth = input.scopeDecision.depth.toNat := by rw [← hnewRow]; rfl
      refine safe_mono queue_transition_calm fun _ t ht => ?_
      obtain ⟨hjobs', hdiscoveries', hproject', hledger'⟩ := ht
      refine safe_mono discovery_spec fun discovery t' ht' => ?_
      obtain ⟨hjobs'', hproject'', hledger'', hfound⟩ := ht'
      refine safe_mono getJobRow_spec fun row t'' ht'' => ?_
      obtain ⟨rfl, -, hrow, -⟩ := ht''
      rw [wp_pure]
      refine .created a (rowToJob row) discovery (fun b hb hb' => ?_) hstands
        (hlimit (by simpa using hwithin)) hsequence (hrow.trans hid.symm) hdepth ?_ ?_ ?_ ?_
      · obtain ⟨hrun, hprofile, hengine, hidentity⟩ := hb'
        have hnone := Table.find_none hfind b hb
        rw [hhash] at hidentity
        simp [hrun, hprofile, hengine, Option.some.inj hidentity] at hnone
      · rw [hjobs'', hjobs', Table.insert_rows hjobs, List.map_append, List.map_singleton]
      · rw [hproject'', hproject']
      · exact (hledger''.trans hledger') ▸ List.prefix_rfl
      · rw [hdiscoveries'] at hfound
        rw [hid]
        exact hfound

/-- The ledger row of the call itself. -/
theorem Enqueued.record {db db' : Db} {r : QueueEnqueueResult} (h : Enqueued env input db db' r)
    {ops : Table queueOperations} (hops : db'.queueOperations.rows <+: ops.rows) :
    Enqueued env input db { db' with queueOperations := ops } r := by
  cases h with
  | blocked _ h => exact .blocked _ ⟨h.project, h.entries, h.discoveries, h.ledger.trans hops⟩
  | rejected _ h => exact .rejected _ ⟨h.project, h.entries, h.discoveries, h.ledger.trans hops⟩
  | existing a job discovery hmem ha hjob hentries hproject hledger hdiscovery =>
    exact .existing a job discovery hmem ha hjob hentries hproject (hledger.trans hops) hdiscovery
  | created a job discovery hnew ha hlimit hsequence hjob hdepth hentries hproject hledger hdiscovery =>
    exact .created a job discovery hnew ha hlimit hsequence hjob hdepth hentries hproject
      (hledger.trans hops) hdiscovery

/-- **A call of `enqueue`** is an earlier answer or an enqueue that is now recorded. -/
theorem enqueue_spec :
    safe (Queue.enqueue env input) (fun r t =>
      (recorded s.db .enqueue input.idempotencyKey = true ∧ t.db = s.db) ∨
      recorded s.db .enqueue input.idempotencyKey = false ∧
        ∃ result, r = .enqueued result ∧ Enqueued env input s.db t.db result) s := by
  unfold Queue.enqueue Queue.queueTransaction transaction
  rw [safe, wp_mapError]
  unfold Queue.idempotent
  simp only [wp_bind, wp_check, wp_database, implies_true, and_true]
  intro _ _
  split
  · rename_i o hfind
    simp only [wp_bind, wp_require, wp_pure, implies_true, and_true]
    intro _
    split at hfind
    · refine Or.inl ?_
      unfold recorded
      rw [hfind]
      rfl
    · cases hfind
  · rename_i hnone
    cases hrec : recorded s.db .enqueue input.idempotencyKey with
    | false =>
      simp only [wp_bind, wp_pure, wp_freshId, wp_now, wp_insertOperation, implies_true, and_true]
      refine safe_mono enqueueInTransaction_spec fun result t ht => ?_
      intro ops hops
      have hgrown : t.db.queueOperations.rows <+: ops.rows := by
        rw [Table.insert_rows hops]
        exact List.prefix_append _ _
      exact Or.inr ⟨trivial, result, rfl, ht.record hgrown⟩
    | true =>
      -- a project that owns the run has the key, so it would have been found
      unfold Queue.enqueueInTransaction Queue.validateEnqueue Queue.validateOwnership
      simp only [wp_bind, wp_database, wp_require, implies_true, and_true]
      intro hproject
      rw [if_pos (eq_of_beq hproject)] at hnone
      unfold recorded at hrec
      rw [hnone] at hrec
      cases hrec

/-- **One step of the store**: the queue is left alone, or an enqueue is answered that is not recorded yet. -/
theorem step_enqueued (env : Env) (db : Db) (e : Event) :
    (Calm db (step env db e) ∧ ∀ input, e.op = .enqueue input →
      recorded db .enqueue input.idempotencyKey = true ∨ ∃ t, exec env db e = .error t) ∨
    ∃ input result, e.op = .enqueue input ∧ recorded db .enqueue input.idempotencyKey = false ∧
      exec env db e = .ok (.stored (.enqueued result), step env db e) ∧
      Enqueued env input db (step env db e) result := by
  cases hop : e.op.enqueue? with
  | none =>
    refine Or.inl ⟨step_calm hop, fun input he => ?_⟩
    rw [he] at hop
    cases hop
  | some input =>
    have hrun : e.op = .enqueue input := by
      cases he : e.op with
      | enqueue i => rw [he] at hop; exact congrArg _ (Option.some.inj hop)
      | _ => rw [he] at hop; cases hop
    cases hx : exec env db e with
    | error t =>
      rw [step_error hx]
      exact Or.inl ⟨Calm.refl db, fun _ _ => Or.inr ⟨t, rfl⟩⟩
    | ok p =>
      obtain ⟨a, db'⟩ := p
      have hdone := exec_of_wp (Q := fun a db' => (recorded db .enqueue input.idempotencyKey = true ∧ db' = db) ∨
        recorded db .enqueue input.idempotencyKey = false ∧
          ∃ result, a = .stored (.enqueued result) ∧ Enqueued env input db db' result) (R := fun _ => True) (by
        rw [hrun]
        refine (wp_map _ _).2 (safe_mono enqueue_spec fun r t ht => ?_)
        rcases ht with hrec | ⟨hnew, result, rfl, he⟩
        · exact Or.inl hrec
        · exact Or.inr ⟨hnew, result, rfl, he⟩) hx
      rw [step_ok hx]
      rcases hdone with ⟨hrec, rfl⟩ | ⟨hnew, result, rfl, he⟩
      · refine Or.inl ⟨Calm.refl _, fun i hi => Or.inl ?_⟩
        rw [hrun, Op.enqueue.injEq] at hi
        exact hi ▸ hrec
      · exact Or.inr ⟨input, result, hrun, hnew, rfl, he⟩

/-! ### Places in the queue -/

/-- Jobs by their place. -/
def sequenceIndex : Index pageJobs ℕ where
  key a := some a.queueSequence
  unique a b k ha hb := by
    have h : a.queueSequence = b.queueSequence := Option.some.inj (ha.trans hb.symm)
    simp [pageJobs, h]

/-- The jobs stand in the order in which they entered. -/
def Numbered (db : Db) : Prop :=
  db.pageJobs.rows.map (·.queueSequence) = List.range' 1 db.pageJobs.rows.length

theorem numbered_iff {db : Db} : Numbered db ↔ (db.pageJobs.rows.map entryOf).map (·.queueSequence) =
    List.range' 1 (db.pageJobs.rows.map entryOf).length := by
  rw [List.map_map, List.length_map]
  exact Iff.rfl

theorem Numbered.calm {db db' : Db} (h : Numbered db) (hcalm : Calm db db') : Numbered db' := by
  rw [numbered_iff] at h ⊢
  rw [hcalm.entries]
  exact h

/-- **An enqueue numbers its job.** -/
theorem Numbered.enqueued {db db' : Db} {r : QueueEnqueueResult} (h : Numbered db)
    (he : Enqueued env input db db' r) : Numbered db' := by
  cases he with
  | blocked _ hcalm => exact h.calm hcalm
  | rejected _ hcalm => exact h.calm hcalm
  | existing a job discovery hmem ha hjob hentries =>
    rw [numbered_iff] at h ⊢
    rw [hentries, List.length_map, ← h, List.map_map]
    refine List.map_congr_left fun e _ => ?_
    show (JobEntry.lower _ _ e).queueSequence = e.queueSequence
    unfold JobEntry.lower
    split <;> rfl
  | created a job discovery hnew ha hlimit hsequence hjob hdepth hentries =>
    rw [numbered_iff] at h ⊢
    rw [hentries, List.map_append, h, List.length_append, List.length_map, List.length_singleton,
      List.range'_concat, List.map_singleton]
    have hlast : (entryOf a).queueSequence = 1 + 1 * db.pageJobs.rows.length := by
      show a.queueSequence = _
      omega
    rw [hlast]

theorem step_numbered {db : Db} {e : Event} (h : Numbered db) : Numbered (step env db e) := by
  rcases step_enqueued env db e with ⟨hcalm, -⟩ | ⟨_, _, -, -, -, he⟩
  · exact h.calm hcalm
  · exact h.enqueued he

/-- In every state of a run the jobs are numbered. -/
theorem numbered_run {project : Project} {createdAt : Timestamp} {es : List Event} (n : ℕ) :
    Numbered (dbAt env (Db.create project createdAt) es n) := by
  have hstart : Numbered (Db.create project createdAt) := rfl
  exact Run.stAt_induction hstart (fun _ _ _ h => step_numbered h) n

variable {db : Db}

theorem Numbered.pos (h : Numbered db) : ∀ a ∈ db.pageJobs.rows, 0 < a.queueSequence := by
  intro a ha
  have hmem : a.queueSequence ∈ List.range' 1 db.pageJobs.rows.length := by
    rw [← h]
    exact List.mem_map_of_mem ha
  exact (List.mem_range'_1.1 hmem).1

end OfflineWebArchiver
