import OfflineWebArchiver.Lifecycle.Outcome
import OfflineWebArchiver.Properties.Sample

/-!
# Run control and run state

A run has two columns that say how it stands: `control_state`, which gates the
claims, and `run_state`, which follows the transition table of crawl runs.

* `step_runState`: the run state moves along the table, whatever is called.
* `Steady`: the control state is the image of the run state, and a paused run has
  no active lease.
* `controlled_run`: **both columns agree along every run in which no recovery
  overwrites the control state of a run that is over or about to be paused, and no
  run with active leases is set to paused.**
-/

namespace OfflineWebArchiver

open Relational Program Function Relation

variable {env : Env} {db db' : Db} {e : Event} {r : String} {v w : Control}

/-! ### The run state -/

/-- No transition leads out of the state. -/
def CrawlRunState.terminal (s : CrawlRunState) : Prop := s.transitions = []

theorem canTransitionCrawlRunState_terminal {s t : CrawlRunState} (hs : s.terminal)
    (h : canTransitionCrawlRunState s t = true) : t = s := by
  unfold CrawlRunState.terminal at hs
  unfold canTransitionCrawlRunState at h
  rw [hs, Bool.or_eq_true] at h
  rcases h with h | h
  · exact (beq_iff_eq.1 h).symm
  · cases h

/-- A run that is over is not active. -/
theorem CrawlRunState.terminal.not_active {s : CrawlRunState} (hs : s.terminal) :
    Recovery.controlStateOf s ≠ .active := by
  unfold CrawlRunState.terminal at hs
  cases s
  case cancelled | completed | failed => decide
  all_goals cases hs

theorem canTransitionCrawlRunState_refl (s : CrawlRunState) : canTransitionCrawlRunState s s = true := by
  simp [canTransitionCrawlRunState]

/-- One control row is written. -/
theorem control_set {x : String} (hc : db'.control = update db.control x (some w))
    (hx : db.control x = some v) (hvw : canTransitionCrawlRunState v.run w.run = true)
    {u : Control} (hu : db.control r = some u) :
    ∃ u', db'.control r = some u' ∧ canTransitionCrawlRunState u.run u'.run = true := by
  rw [hc]
  by_cases hrx : r = x
  · subst hrx
    obtain rfl := Option.some.inj (hu.symm.trans hx)
    exact ⟨w, update_self .., hvw⟩
  · exact ⟨u, (update_of_ne hrx ..).trans hu, canTransitionCrawlRunState_refl _⟩

/-- **The run state moves along its table.** -/
theorem step_runState (hs : Sound env.hashText db.pool) (hv : db.control r = some v) :
    ∃ v', (step env db e).control r = some v' ∧ canTransitionCrawlRunState v.run v'.run = true := by
  have hsame : ∀ {db' : Db}, db'.runControl = db.runControl →
      ∃ v', db'.control r = some v' ∧ canTransitionCrawlRunState v.run v'.run = true := fun {db'} h =>
    ⟨v, by rw [Db.control, h]; exact hv, canTransitionCrawlRunState_refl _⟩
  cases he : exec env db e with
  | error t => rw [step_error he]; exact hsame rfl
  | ok p =>
    obtain ⟨a, db'⟩ := p
    rw [step_ok he]
    cases exec_outcome hs he with
    | worked h _ _ => exact hsame h.runControl
    | granted _ _ _ _ _ _ h => exact hsame h.runControl
    | committed _ _ _ h _ => exact hsame h.did.runControl
    | recovered _ _ _ _ _ h _ => exact control_set h.restored h.control (canTransitionCrawlRunState_refl _) hv
    | pauseRequested _ _ _ _ h _ =>
      refine control_set h.target h.control ?_ hv
      have hallowed := h.allowed
      split at hallowed
      · rename_i hzero; rw [if_pos hzero]; exact hallowed
      · rename_i hzero; rw [if_neg hzero]; exact hallowed
    | acknowledged _ _ _ h _ =>
      rcases h.target with ⟨-, hc⟩ | ⟨-, hallowed, hc⟩
      · exact ⟨v, hc ▸ hv, canTransitionCrawlRunState_refl _⟩
      · exact control_set hc h.control hallowed hv
    | resumed _ _ _ _ h _ => exact control_set h.target h.control h.allowed hv
    | stateSet _ _ _ _ h _ => exact control_set h.target h.control h.allowed hv

/-! ### The invariant -/

/-- The two columns agree, and no job of a paused run has an active lease. -/
structure Steady (db : Db) : Prop where
  image : ∀ r v, db.control r = some v → v.control = Recovery.controlStateOf v.run
  paused : ∀ r v, db.control r = some v → v.control = .paused → ∀ k h, db.pool.held k = some h → h.run ≠ r

/-- A call along a path that leaves the control rows alone. -/
theorem Steady.of_path {T : Job → Job → Prop} (hd : Steady db) (hp : Path T db.pool db'.pool)
    (hc : db'.control = db.control) : Steady db' where
  image r v hv := hd.image r v (hc ▸ hv)
  paused r v hv hpaused k h hh := by
    rcases hp.held k with ⟨-, hheld⟩ | hnone
    · exact hd.paused r v (hc ▸ hv) hpaused k h (hheld ▸ hh)
    · rw [hnone] at hh; cases hh

/-- A call along a path that writes the control row of one run. -/
theorem Steady.of_set {T : Job → Job → Prop} (hd : Steady db) (hp : Path T db.pool db'.pool)
    (hc : db'.control = update db.control r (some w)) (hw : w.control = Recovery.controlStateOf w.run)
    (hpaused : w.control = .paused → activeLeaseCount db' r = 0) : Steady db' where
  image r' v' hv := by
    rw [hc] at hv
    by_cases hr : r' = r
    · subst hr
      rw [update_self] at hv
      obtain rfl := Option.some.inj hv
      exact hw
    · rw [update_of_ne hr] at hv
      exact hd.image r' v' hv
  paused r' v' hv hpaused' k h hh := by
    rw [hc] at hv
    by_cases hr : r' = r
    · subst hr
      rw [update_self] at hv
      obtain rfl := Option.some.inj hv
      exact activeLeaseCount_eq_zero.1 (hpaused hpaused') k h hh
    · rw [update_of_ne hr] at hv
      rcases hp.held k with ⟨-, hheld⟩ | hnone
      · exact hd.paused r' v' hv hpaused' k h (hheld ▸ hh)
      · rw [hnone] at hh; cases hh

theorem Steady.granted {q : ClaimRequest} {claim : LeaseClaim} (hd : Steady db)
    (hactive : ∃ rs, db.control q.input.runId = some ⟨.active, rs⟩)
    (h : Granted env q claim db.core db'.core) : Steady db' := by
  have hc : db'.control = db.control := congrArg controlsOf h.runControl
  refine ⟨fun r v hv => hd.image r v (hc ▸ hv), fun r v hv hpaused k hold hh => ?_⟩
  have hheld : db'.pool.held k = update db.pool.held claim.job.jobId (some (claim.hold env)) k :=
    congrFun h.grant.held k
  rw [hheld] at hh
  by_cases hk : k = claim.job.jobId
  · subst hk
    rw [update_self] at hh
    obtain rfl := Option.some.inj hh
    -- the run of the new lease is active, so it is not the paused one
    rintro hr
    obtain ⟨rs, hrs⟩ := hactive
    have hrun : q.input.runId = r := h.run.symm.trans hr
    rw [hc, ← hrun, hrs] at hv
    obtain rfl := Option.some.inj hv
    cases hpaused
  · rw [update_of_ne hk] at hh
    exact hd.paused r v (hc ▸ hv) hpaused k hold hh

/-! ### The calls that break it -/

/-- The recovery overwrites the control state: the run is over, or it was to pause and
the batch takes its last active leases. -/
def Overwrites (env : Env) (db : Db) (i : RecoverInput) : Prop :=
  RunsBatch env db i ∧ ∃ v, db.control i.runId = some v ∧
    (v.control = .stopped ∨ v.control = .completed ∨ v.control = .failed ∨
      v.control = .pauseRequested ∧ ∀ k h, db.pool.held k = some h → h.run = i.runId → InBatch db i k)

/-- A run with active leases is set to paused. -/
def PausesLeased (db : Db) (i : SetRunStateInput) : Prop :=
  Owned db i.projectId i.runId ∧ i.state = .paused ∧ activeLeaseCount db i.runId ≠ 0 ∧
    ∃ v, db.control i.runId = some v ∧ canTransitionCrawlRunState v.run .paused = true

/-- The call makes control state and run state disagree, or pauses a run at work. -/
def Unsettles (env : Env) (db : Db) : Op → Prop
  | .recover i => Overwrites env db i
  | .setRunState i => PausesLeased db i
  | _ => False

theorem Recovered.steady {i : RecoverInput} {prior : RunControlState} {rs : CrawlRunState}
    (hd : Steady db) (hbatch : RunsBatch env db i) (h : Recovered i prior rs db db')
    (hc : ¬Overwrites env db i) : Steady db' := by
  have himage : prior = Recovery.controlStateOf rs := hd.image _ _ h.control
  have hover : ¬(prior = .stopped ∨ prior = .completed ∨ prior = .failed) := fun hp =>
    hc ⟨hbatch, _, h.control, by rcases hp with hp | hp | hp <;> simp [hp]⟩
  have hpause : prior = .pauseRequested → activeLeaseCount db' i.runId ≠ 0 := fun hp hzero => by
    -- a lease of the run that the batch does not take is still there
    refine hc ⟨hbatch, _, h.control, Or.inr (Or.inr (Or.inr ⟨hp, fun k hold hh hrun => ?_⟩))⟩
    by_contra hk
    exact activeLeaseCount_eq_zero.1 hzero k hold ((h.others k hk).2.trans hh) hrun
  have hpaused : prior = .paused → activeLeaseCount db' i.runId = 0 := fun hp =>
    activeLeaseCount_eq_zero.2 fun k hold hh => by
      have hheld : db'.pool.held k = db.pool.held k := by
        rcases h.did.path.held k with ⟨-, hheld⟩ | hnone
        · exact hheld
        · have hnone' : db'.pool.held k = none := hnone
          rw [hnone'] at hh; cases hh
      exact hd.paused i.runId _ h.control hp k hold (hheld ▸ hh)
  refine hd.of_set h.did.path h.restored ?_ fun hcount => ?_
  · show Recovery.restoredControl prior _ = Recovery.controlStateOf rs
    rw [← himage]
    unfold Recovery.restoredControl Recovery.pauseRequested
    cases rs <;> simp only [Recovery.controlStateOf] at himage <;> subst himage
    case pausing => simp [hpause rfl]
    case paused => simp [hpaused rfl]
    all_goals first
      | rfl
      | exact absurd (by simp) hover
  · have hcount' : Recovery.restoredControl prior (activeLeaseCount db' i.runId) = .paused := hcount
    unfold Recovery.restoredControl at hcount'
    split at hcount'
    · rename_i h; exact h.2
    · split at hcount' <;> cases hcount'

theorem Steered.activeLeaseCount (h : Steered db db') (r : String) :
    activeLeaseCount db' r = OfflineWebArchiver.activeLeaseCount db r := by
  have hleases : db'.jobLeases = db.jobLeases := congrArg Core.jobLeases h
  unfold OfflineWebArchiver.activeLeaseCount; rw [hleases]

theorem step_steady (hs : Sound env.hashText db.pool) (hd : Steady db) (hc : ¬Unsettles env db e.op) :
    Steady (step env db e) := by
  cases he : exec env db e with
  | error t => rw [step_error he]; exact hd
  | ok p =>
    obtain ⟨a, db'⟩ := p
    rw [step_ok he]
    cases exec_outcome hs he with
    | worked h _ _ => exact hd.of_path h.path (congrArg controlsOf h.runControl)
    | granted q _ _ _ _ hactive h => exact hd.granted hactive h
    | committed _ _ _ h _ => exact hd.of_path h.did.path (congrArg controlsOf h.did.runControl)
    | recovered i hop _ _ hbatch h _ => rw [hop] at hc; exact h.steady hd hbatch hc
    | pauseRequested i _ _ _ h _ =>
      refine hd.of_set (T := Turn) (h.steered.pool ▸ .refl) h.target ?_ fun hp => ?_
      · split <;> rfl
      · rw [h.steered.activeLeaseCount]
        by_contra hne
        rw [if_neg hne] at hp; cases hp
    | acknowledged i _ _ h _ =>
      rcases h.target with ⟨-, hcontrol⟩ | ⟨hzero, -, hcontrol⟩
      · exact hd.of_path h.did.path hcontrol
      · exact hd.of_set h.did.path hcontrol rfl fun _ => hzero
    | resumed _ _ _ _ h _ => exact hd.of_set h.did.path h.target rfl fun hp => by cases hp
    | stateSet i hop _ _ h _ =>
      rw [hop] at hc
      refine hd.of_set (T := Turn) (h.steered.pool ▸ .refl) h.target rfl fun hp => ?_
      have hstate : i.state = .paused := by
        have hp' : Recovery.controlStateOf i.state = .paused := hp
        cases hi : i.state <;> rw [hi] at hp' <;> first | rfl | cases hp'
      rw [h.steered.activeLeaseCount]
      by_contra hne
      exact hc ⟨h.owned, hstate, hne, _, h.control, hstate ▸ h.allowed⟩

/-! ### Runs -/

variable {project : Project} {createdAt : Timestamp} {es : List Event} {n : ℕ}

/-- **A terminal run state is never left.** -/
theorem terminal_run {m : ℕ} (hmn : m ≤ n) (hv : (storeAt env project createdAt es m).control r = some v)
    (ht : v.run.terminal) :
    ∃ v', (storeAt env project createdAt es n).control r = some v' ∧ v'.run = v.run := by
  refine Run.stAt_trans (r := fun db db' : Db => ∀ r v, db.control r = some v → v.run.terminal →
    ∃ v', db'.control r = some v' ∧ v'.run = v.run) (fun _ r v hv _ => ⟨v, hv, rfl⟩)
    (fun s t u h h' r v hv ht => ?_) (fun n e _ r v hv ht => ?_) hmn r v hv ht
  · obtain ⟨v', hv', hrun⟩ := h r v hv ht
    obtain ⟨v'', hv'', hrun'⟩ := h' r v' hv' (hrun ▸ ht)
    exact ⟨v'', hv'', hrun'.trans hrun⟩
  · have hs : Sound env.hashText (storeAt env project createdAt es n).pool := sound_run n
    obtain ⟨v', hv', hmove⟩ := step_runState (e := e) hs hv
    exact ⟨v', hv', canTransitionCrawlRunState_terminal ht hmove⟩

/-- **Run control and run state agree** along every run of calls that do not unsettle
them. -/
theorem controlled_run (env : Env) (project : Project) (createdAt : Timestamp) (es : List Event)
    (hes : Run.Meets (step env) (Db.create project createdAt) (fun db e => ¬Unsettles env db e.op) es)
    (n : ℕ) :
    (∀ m ≤ n, ∀ c ∈ (storeAt env project createdAt es m).runControl.rows, c.runState.terminal →
      ∃ c' ∈ (storeAt env project createdAt es n).runControl.rows,
        c'.runId = c.runId ∧ c'.runState = c.runState) ∧
    (∀ claim, grantAt env project createdAt es n = some claim →
      ∀ c ∈ (storeAt env project createdAt es n).runControl.rows, c.runId = claim.lease.runId →
        ¬c.runState.terminal) ∧
    (∀ c ∈ (storeAt env project createdAt es n).runControl.rows,
      c.controlState = Recovery.controlStateOf c.runState) ∧
    (∀ c ∈ (storeAt env project createdAt es n).runControl.rows, c.controlState = .paused →
      ∀ l ∈ (storeAt env project createdAt es n).jobLeases.rows, l.status = .active →
        l.runId ≠ c.runId) := by
  have hsteady : Steady (storeAt env project createdAt es n) := by
    refine Run.stAt_induction (P := Steady) ⟨fun r v hv => ?_, fun r v hv hp => ?_⟩
      (fun n e he h => step_steady (sound_run n) h (hes n e he)) n
    · rw [controls_create hv]; rfl
    · rw [controls_create hv] at hp; cases hp
  refine ⟨fun m hmn c hc ht => ?_, fun claim hclaim c hc hrun ht => ?_, fun c hc => ?_,
    fun c hc hp l hl hact => ?_⟩
  · obtain ⟨v', hv', hrun⟩ := terminal_run hmn (controls_mem hc) ht
    obtain ⟨c', hc', hid, rfl⟩ := controls_some hv'
    exact ⟨c', hc', hid, hrun⟩
  · obtain ⟨e, -, hg⟩ := Option.bind_eq_some_iff.1 hclaim
    obtain ⟨q, -, -, ⟨rs, hrs⟩, h⟩ := granted_spec (sound_run n) hg
    have hv := controls_mem hc
    rw [show c.runId = q.input.runId from hrun.trans h.run] at hv
    have hv' : controlOf c = ⟨.active, rs⟩ := Option.some.inj (hv.symm.trans hrs)
    have himage := hsteady.image _ _ hrs
    have hrs' : c.runState = rs := congrArg Control.run hv'
    exact ht.not_active (hrs' ▸ himage.symm)
  · exact hsteady.image _ _ (controls_mem hc)
  · exact hsteady.paused _ _ (controls_mem hc) hp l.jobId (holdOf l) (held_mem hl hact)

/-! ### A cancelled run that recovery makes active -/

/-- A run is recovered, paused, recovered, resumed and loses the network. -/
def steadyRun : List Event :=
  [Sample.event 0 "a" (Sample.recover 0 "k1"), Sample.event 0 "b" (Sample.requestPause "k2"),
    Sample.event 0 "c" (Sample.recover 0 "k3"), Sample.event 0 "d" (Sample.resumeRun "k4"),
    Sample.event 0 "e" (Sample.setRunState .waitingForNetwork "k5")]

/-- A run with a waiting page is cancelled and then recovered. -/
def revivedRun : List Event :=
  [Sample.event 0 "a" (Sample.enqueue 'a' 3 "k1"),
    Sample.event 0 "b" (Sample.setRunState .cancelling "k2"),
    Sample.event 0 "c" (Sample.setRunState .cancelled "k3"), Sample.event 0 "d" (Sample.recover 0 "k4"),
    Sample.event 0 "e" (Sample.claimWithLease "o" "k5")]

/-- The state that a `setRunState` asks for. -/
def Op.target : Op → Option CrawlRunState
  | .setRunState i => some i.state
  | _ => none

/-- What unsettles a run is a pause, or meets a control row that is neither active nor paused. -/
theorem Unsettles.cases {op : Op} (h : Unsettles env db op) : op.target = some .paused ∨
    ∃ c ∈ db.runControl.rows, c.controlState ≠ .active ∧ c.controlState ≠ .paused := by
  cases op with
  | recover i =>
    obtain ⟨-, v, hv, hcontrol⟩ := h
    obtain ⟨c, hc, -, rfl⟩ := controls_some hv
    have hcs : c.controlState = .stopped ∨ c.controlState = .completed ∨ c.controlState = .failed ∨
        c.controlState = .pauseRequested := hcontrol.imp_right (Or.imp_right (Or.imp_right And.left))
    refine Or.inr ⟨c, hc, ?_⟩
    rcases hcs with h | h | h | h <;> rw [h] <;> decide
  | setRunState i => exact Or.inl (congrArg some h.2.1)
  | _ => exact h.elim

set_option maxRecDepth 100000 in
theorem steadyRun_facts : ∀ n < 5,
    ∀ c ∈ (storeAt Sample.env Sample.project (Sample.minute 0) steadyRun n).runControl.rows,
      c.controlState = .active ∨ c.controlState = .paused := by
  rw [Sample.env_eq]
  decide +kernel

set_option maxRecDepth 100000 in
theorem revivedRun_facts :
    (storeAt Sample.env Sample.project (Sample.minute 0) revivedRun 4).runControl.rows.map
      (fun c => (c.runId, c.controlState, c.runState)) = [("r", .active, .cancelled)] ∧
    (grantAt Sample.env Sample.project (Sample.minute 0) revivedRun 4).map (·.lease.runId) = some "r" := by
  rw [Sample.env_eq]
  decide +kernel

theorem controlled_run_steadyRun :
    (∀ m ≤ 5, ∀ c ∈ (storeAt Sample.env Sample.project (Sample.minute 0) steadyRun m).runControl.rows,
      c.runState.terminal →
      ∃ c' ∈ (storeAt Sample.env Sample.project (Sample.minute 0) steadyRun 5).runControl.rows,
        c'.runId = c.runId ∧ c'.runState = c.runState) ∧
    (∀ claim, grantAt Sample.env Sample.project (Sample.minute 0) steadyRun 5 = some claim →
      ∀ c ∈ (storeAt Sample.env Sample.project (Sample.minute 0) steadyRun 5).runControl.rows,
        c.runId = claim.lease.runId → ¬c.runState.terminal) ∧
    (∀ c ∈ (storeAt Sample.env Sample.project (Sample.minute 0) steadyRun 5).runControl.rows,
      c.controlState = Recovery.controlStateOf c.runState) ∧
    (∀ c ∈ (storeAt Sample.env Sample.project (Sample.minute 0) steadyRun 5).runControl.rows,
      c.controlState = .paused →
      ∀ l ∈ (storeAt Sample.env Sample.project (Sample.minute 0) steadyRun 5).jobLeases.rows,
        l.status = .active → l.runId ≠ c.runId) := by
  have hfacts := steadyRun_facts
  unfold storeAt dbAt at hfacts
  refine controlled_run Sample.env Sample.project (Sample.minute 0) steadyRun (fun n e he hun => ?_) 5
  obtain ⟨hn, rfl⟩ := List.getElem?_eq_some_iff.1 he
  rcases hun.cases with htarget | ⟨c, hc, hact, hpaused⟩
  · have hnone : ∀ e ∈ steadyRun, e.op.target ≠ some .paused := by decide
    exact hnone _ (List.getElem_mem hn) htarget
  · rcases hfacts n hn c hc with h | h
    · exact hact h
    · exact hpaused h

/-- The run is cancelled, its control state is active, and its page is claimed. -/
theorem revivedRun_claim :
    (∃ c ∈ (storeAt Sample.env Sample.project (Sample.minute 0) revivedRun 4).runControl.rows,
      c.runId = "r" ∧ c.runState = .cancelled ∧ c.controlState ≠ Recovery.controlStateOf c.runState) ∧
    ∃ claim, grantAt Sample.env Sample.project (Sample.minute 0) revivedRun 4 = some claim ∧
      claim.lease.runId = "r" := by
  obtain ⟨hrows, hgrant⟩ := revivedRun_facts
  obtain ⟨claim, hclaim, hrun⟩ := Option.map_eq_some_iff.1 hgrant
  refine ⟨?_, claim, hclaim, hrun⟩
  have hmem := List.mem_singleton_self (("r", .active, .cancelled) : String × RunControlState × CrawlRunState)
  rw [← hrows] at hmem
  obtain ⟨c, hc, hfacts⟩ := List.mem_map.1 hmem
  simp only [Prod.mk.injEq] at hfacts
  obtain ⟨hid, hcontrol, hstate⟩ := hfacts
  refine ⟨c, hc, hid, hstate, ?_⟩
  rw [hcontrol, hstate]
  decide

/-- The state that `setRunState` leaves beside a cancelled run. -/
example : Recovery.controlStateOf .cancelled = .stopped := by decide +kernel

end OfflineWebArchiver
