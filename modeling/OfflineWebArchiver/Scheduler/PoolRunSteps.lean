import Mathlib.Algebra.Order.Ring.Cast
import OfflineWebArchiver.Scheduler.BudgetCalls
import OfflineWebArchiver.Scheduler.Calls
import OfflineWebArchiver.Scheduler.PoolRun

/-!
# What the steps of a run do

* `RunMove`: the steps of the loop and what may happen outside, each with what it needs and what
  it changes.
* `RunState.step_cases`: **every step is one of them.**
* `takeSnapshots_cooldown`, `findPaused_eq_some`: what the snapshots show, and which of them is found.
-/

namespace OfflineWebArchiver.Scheduler

variable {α : Type} {env : RunEnv} {configuration : RunConfiguration} {options : RunOptions}

namespace RunState

/-- The tasks whose executor has not settled. -/
def running (s : RunState env α) : List RunTask := s.active.filter (!·.settled)

/-- What `findPaused` and the last check leave of the snapshots. -/
def pausedAt (configuration : RunConfiguration) (s : RunState env α) (clock : ℕ → ℤ) : Option OriginRateLimitSnapshot :=
  (findPaused clock (takeSnapshots configuration clock s.pending 0 s.budget.states).1 s.pending.length).filter
    (·.cooling (clock (2 * s.pending.length)))

/-- Nothing is left to do, in the lists or in the map `active`. -/
def Idle (s : RunState env α) : Prop := s.pending = [] ∧ s.active = []

end RunState

/-- A step of the run from `s`. -/
inductive RunMove (configuration : RunConfiguration) (options : RunOptions) (s : RunState env α) :
    RunEvent α → RunState env α → Prop
  | idle (e : RunEvent α) (hphase : ∀ clock, e = .advance clock →
      s.phase ≠ .top ∧ (∀ index, s.phase ≠ .scan index) ∧ s.phase ≠ .scheduled ∧
        ∀ tickets, s.phase = .racing tickets → ∀ ticket ∈ tickets, ∃ task ∈ s.active, task.ticket = ticket) :
    RunMove configuration options s e s
  | finished (clock : ℕ → ℤ) (hphase : s.phase = .top) (hidle : s.Idle) :
    RunMove configuration options s (.advance clock) { s with phase := .returned }
  | cancelled (clock : ℕ → ℤ) (hphase : s.phase = .top) (hbusy : ¬s.Idle) :
    RunMove configuration options s (.advance clock)
      { s with
        cancelled := true
        skipped := s.skipped ++ s.pending.map fun job => ⟨job.job.jobId, "CANCELLED"⟩
        pending := []
        phase := .scheduled }
  | begun (clock : ℕ → ℤ) (hphase : s.phase = .top) (hbusy : ¬s.Idle) (hlive : s.cancelled = false) :
    RunMove configuration options s (.advance clock) (s.rescan configuration)
  | scanned (clock : ℕ → ℤ) {index : ℕ} (hphase : s.phase = .scan index) (hend : s.pending[index]? = none) :
    RunMove configuration options s (.advance clock) { s with phase := .scheduled }
  | refused (clock : ℕ → ℤ) {index : ℕ} {job : NormalizedJob env} {pool : Pool} (states : OriginBudgets)
    (hphase : s.phase = .scan index) (hjob : s.pending[index]? = some job)
    (hquiet : Quiet configuration.toWorkerPoolConfiguration s.ledger.pool pool) :
    RunMove configuration options s (.advance clock)
      { s with
        sequence := s.sequence + 1
        budget := { s.budget with states }
        ledger := { s.ledger with pool }
        phase := .scan (index + 1) }
  | started (clock : ℕ → ℤ) {index : ℕ} {job : NormalizedJob env} {r : WorkerReservation} {pool : Pool}
    (states : OriginBudgets) (hphase : s.phase = .scan index) (hjob : s.pending[index]? = some job)
    (hgranted : Granted configuration.toWorkerPoolConfiguration (reserveInput options job (s.sequence + 1))
      s.ledger.pool r pool) :
    RunMove configuration options s (.advance clock)
      (RunState.rescan configuration (RunState.begin
        { s with
          sequence := s.sequence + 1
          budget := { s.budget with states }
          pending := s.pending.eraseIdx index } job r pool))
  | rejected (clock : ℕ → ℤ) {index : ℕ} {job : NormalizedJob env} {error : SchedulerError} {pool : Pool}
    (states : OriginBudgets) (hphase : s.phase = .scan index) (hjob : s.pending[index]? = some job)
    (herror : tryReserveWorker env.toSchedulerEnv configuration.toWorkerPoolConfiguration options.runId
      (reserveInput options job (s.sequence + 1)) (s.budget.states.paused configuration) clock s.ledger.pool =
        (.error error, pool))
    (hquiet : Quiet configuration.toWorkerPoolConfiguration s.ledger.pool pool) :
    RunMove configuration options s (.advance clock)
      (RunState.rescan configuration
        { s with
          sequence := s.sequence + 1
          budget := { s.budget with states }
          pending := s.pending.eraseIdx index
          blocked := s.blocked ++ [⟨job.job.jobId, error.code.text⟩]
          ledger := { s.ledger with pool } })
  | raced (clock : ℕ → ℤ) (hphase : s.phase = .scheduled) (hactive : s.active ≠ []) :
    RunMove configuration options s (.advance clock) { s with phase := .racing (s.active.map (·.ticket)) }
  | paused (clock : ℕ → ℤ) {found : OriginRateLimitSnapshot} (states : OriginBudgets)
    (hphase : s.phase = .scheduled) (hactive : s.active = []) (hpending : s.pending ≠ []) (hlive : s.cancelled = false)
    (hpaused : s.pausedAt configuration clock = some found) :
    RunMove configuration options s (.advance clock)
      { s with budget := { s.budget with states }, phase := .onWait found }
  | exhausted (clock : ℕ → ℤ) (states : OriginBudgets) (reason : String)
    (hphase : s.phase = .scheduled) (hactive : s.active = []) (hpending : s.pending ≠ []) (hlive : s.cancelled = false)
    (hpaused : s.pausedAt configuration clock = none) :
    RunMove configuration options s (.advance clock)
      { s with
        budget := { s.budget with states }
        blocked := s.blocked ++ s.pending.map fun job => ⟨job.job.jobId, reason⟩
        pending := []
        phase := .top }
  | resumed (clock : ℕ → ℤ) (hphase : s.phase = .scheduled) (hactive : s.active = [])
    (hnothing : s.pending = [] ∨ s.cancelled = true) :
    RunMove configuration options s (.advance clock) { s with phase := .top }
  | woken (clock : ℕ → ℤ) {tickets : List ℕ} {ticket : ℕ} (hphase : s.phase = .racing tickets)
    (hticket : ticket ∈ tickets) (hgone : ∀ task ∈ s.active, task.ticket ≠ ticket) :
    RunMove configuration options s (.advance clock) { s with phase := .top }
  | waited {found : OriginRateLimitSnapshot} (rejected : Bool) (hphase : s.phase = .onWait found) :
    RunMove configuration options s (.waited rejected) { s with phase := if rejected then .threw else .sleeping }
  | slept (interrupted : Bool) (hphase : s.phase = .sleeping) :
    RunMove configuration options s (.woke interrupted)
      { s with phase := .top, cancelled := s.cancelled || (interrupted && s.aborted) }
  | aborted : RunMove configuration options s .abort { s with aborted := true }
  | settled {task : RunTask} (outcome : ExecutorOutcome α) (nowMs : ℤ) (htask : task ∈ s.active)
    (hrunning : task.settled = false) :
    RunMove configuration options s (.settle task.ticket outcome nowMs) (s.settle configuration task outcome nowMs)
  | forgot (ticket : ℕ) :
    RunMove configuration options s (.forget ticket)
      { s with active := s.active.filter fun task => !(task.ticket == ticket && task.settled) }
  | budgeted (event : BudgetEvent) :
    RunMove configuration options s (.budget event)
      { s with budget := s.budget.step env.toBudgetEnv configuration.toBudgetConfiguration event }

namespace RunState

variable {s : RunState env α} {clock : ℕ → ℤ}

theorem loopTop_cases (hphase : s.phase = .top) :
    RunMove configuration options s (.advance clock) (s.loopTop configuration) := by
  unfold loopTop
  by_cases hidle : s.pending.isEmpty = true ∧ s.active.isEmpty = true
  · rw [if_pos (by simpa using hidle)]
    exact .finished clock hphase ⟨List.isEmpty_iff.1 hidle.1, List.isEmpty_iff.1 hidle.2⟩
  rw [if_neg (by simpa using hidle)]
  have hbusy : ¬s.Idle := fun h => hidle ⟨List.isEmpty_iff.2 h.1, List.isEmpty_iff.2 h.2⟩
  by_cases hcancelled : (s.cancelled || s.aborted) = true
  · simp only [hcancelled, if_true]
    exact .cancelled clock hphase hbusy
  · have hlive : s.cancelled = false := by
      cases hs : s.cancelled
      · rfl
      · simp [hs] at hcancelled
    have habort : s.aborted = false := by simpa [hlive] using hcancelled
    have hsame : { s with cancelled := s.cancelled || s.aborted } = s := by
      obtain ⟨_, _, _, _, _, _, cancelled, aborted, _, _, _, _, _⟩ := s
      obtain rfl : cancelled = false := hlive
      obtain rfl : aborted = false := habort
      rfl
    dsimp only
    rw [if_neg hcancelled, hsame]
    exact .begun clock hphase hbusy hlive

theorem scanStep_cases {index : ℕ} (hphase : s.phase = .scan index) :
    RunMove configuration options s (.advance clock) (s.scanStep configuration options clock index) := by
  unfold scanStep
  cases hjob : s.pending[index]? with
  | none => exact .scanned clock hphase hjob
  | some job =>
    dsimp only
    cases hanswer : tryReserveWorker env.toSchedulerEnv configuration.toWorkerPoolConfiguration options.runId
        (reserveInput options job (s.sequence + 1)) (s.budget.states.paused configuration) clock s.ledger.pool with
    | mk result pool =>
      rcases tryReserveWorker_cases hanswer with ⟨hnone, hquiet⟩ | ⟨r, rfl, hgranted⟩
      · rcases result with error | _ | r
        · exact .rejected clock _ hphase hjob hanswer hquiet
        · exact .refused clock _ hphase hjob hquiet
        · exact absurd rfl (hnone r)
      · exact .started clock _ hphase hjob hgranted

theorem afterScheduling_cases (hphase : s.phase = .scheduled) :
    RunMove configuration options s (.advance clock) (s.afterScheduling configuration clock) := by
  unfold afterScheduling
  by_cases hactive : s.active = []
  · rw [if_neg (by simp [hactive])]
    by_cases hwork : s.pending ≠ [] ∧ s.cancelled = false
    · rw [if_pos (by simpa using hwork)]
      cases hpaused : s.pausedAt configuration clock with
      | none =>
        unfold pausedAt at hpaused
        simp only [hpaused]
        exact .exhausted clock _ _ hphase hactive hwork.1 hwork.2 hpaused
      | some found =>
        have hfound := hpaused
        unfold pausedAt at hfound
        simp only [hfound]
        exact .paused clock _ hphase hactive hwork.1 hwork.2 hpaused
    · rw [if_neg (by simpa using hwork)]
      refine .resumed clock hphase hactive ?_
      by_cases hpending : s.pending = []
      · exact .inl hpending
      · exact .inr (by simpa using fun h => hwork ⟨hpending, h⟩)
  · rw [if_pos (by simpa using hactive)]
    exact .raced clock hphase hactive

theorem advance_cases : RunMove configuration options s (.advance clock) (s.advance configuration options clock) := by
  have hother (h : s.phase ≠ .top ∧ (∀ index, s.phase ≠ .scan index) ∧ s.phase ≠ .scheduled ∧
      ∀ tickets, s.phase = .racing tickets → ∀ ticket ∈ tickets, ∃ task ∈ s.active, task.ticket = ticket) :
      RunMove configuration options s (.advance clock) s := .idle _ fun _ _ => h
  unfold advance
  cases hphase : s.phase with
  | top => exact loopTop_cases hphase
  | scan index => exact scanStep_cases hphase
  | scheduled => exact afterScheduling_cases hphase
  | racing tickets =>
    dsimp only
    split_ifs with hall
    · refine hother ⟨by simp [hphase], by simp [hphase], by simp [hphase], fun _ heq ticket hticket => ?_⟩
      obtain rfl := RunPhase.racing.inj (hphase.symm.trans heq)
      obtain ⟨task, htask, hsame⟩ := List.any_eq_true.1 (List.all_eq_true.1 hall ticket hticket)
      exact ⟨task, htask, by simpa using hsame⟩
    · obtain ⟨ticket, hticket, hgone⟩ : ∃ ticket ∈ tickets, ∀ task ∈ s.active, task.ticket ≠ ticket := by
        simpa using hall
      exact .woken clock hphase hticket hgone
  | onWait found => exact hother (by simp [hphase])
  | sleeping => exact hother (by simp [hphase])
  | returned => exact hother (by simp [hphase])
  | threw => exact hother (by simp [hphase])

/-- **Every step is one of the moves.** -/
theorem step_cases (configuration : RunConfiguration) (options : RunOptions) (s : RunState env α) (e : RunEvent α) :
    RunMove configuration options s e (s.step configuration options e) := by
  unfold step
  cases e with
  | advance clock => exact advance_cases
  | waited rejected =>
    dsimp only
    split
    · rename_i hphase
      exact .waited rejected hphase
    · exact .idle _ (by simp)
  | woke interrupted =>
    dsimp only
    split
    · rename_i hphase
      exact .slept interrupted hphase
    · exact .idle _ (by simp)
  | abort => exact .aborted
  | settle ticket outcome nowMs =>
    dsimp only
    split
    · exact .idle _ (by simp)
    · rename_i task htask
      obtain ⟨rfl, hrunning⟩ : task.ticket = ticket ∧ task.settled = false := by simpa using List.find?_some htask
      exact .settled outcome nowMs (List.mem_of_find?_eq_some htask) hrunning
  | forget ticket => exact .forgot ticket
  | budget event => exact .budgeted event

end RunState

/-! ### Snapshots -/

section Snapshots

variable {clock : ℕ → ℤ} {pending : List (NormalizedJob env)} {b : OriginBudgets} {i : ℕ}

theorem takeSnapshots_length : (takeSnapshots configuration clock pending i b).1.length = pending.length := by
  induction pending generalizing i b with
  | nil => rfl
  | cons job pending ih =>
    unfold takeSnapshots
    exact congrArg (· + 1) ih

/-- A snapshot shows a cooldown that an origin of a pending job has. -/
theorem takeSnapshots_cooldown : ∀ found ∈ (takeSnapshots configuration clock pending i b).1,
    ∀ c ∈ found.cooldownUntilMs, ∃ job ∈ pending, c ∈ b.cooldown job.origin := by
  induction pending generalizing i b with
  | nil => exact fun found hfound => absurd hfound List.not_mem_nil
  | cons job pending ih =>
    intro found hfound c hc
    unfold takeSnapshots at hfound
    cases hsnapshot : snapshotOf configuration.toBudgetConfiguration job.origin (clock i) b with
    | mk first b' =>
      obtain ⟨hown, hothers⟩ := snapshotOf_cooldown hsnapshot
      rw [hsnapshot] at hfound
      rcases List.mem_cons.1 hfound with rfl | hrest
      · exact ⟨job, List.mem_cons_self, ((hown c).1 hc).1⟩
      · obtain ⟨other, hother, hcool⟩ := ih found hrest c hc
        rw [hothers] at hcool
        split_ifs at hcool with hsame
        · exact ⟨job, List.mem_cons_self, ((hown c).1 hcool).1⟩
        · exact ⟨other, List.mem_cons_of_mem _ hother, hcool⟩

/-- The snapshot of the job at a place shows the cooldown that its reading has not reached. -/
theorem takeSnapshots_getElem (hclock : Monotone clock) {k : ℕ} {job : NormalizedJob env} (hjob : pending[k]? = some job) :
    ∃ found, (takeSnapshots configuration clock pending i b).1[k]? = some found ∧
      ∀ c, c ∈ found.cooldownUntilMs ↔ c ∈ b.cooldown job.origin ∧ (clock (i + k) : ℚ) < c := by
  induction pending generalizing i k b with
  | nil => cases hjob
  | cons first pending ih =>
    unfold takeSnapshots
    cases hsnapshot : snapshotOf configuration.toBudgetConfiguration first.origin (clock i) b with
    | mk found b' =>
      obtain ⟨hown, hothers⟩ := snapshotOf_cooldown hsnapshot
      cases k with
      | zero =>
        obtain rfl : first = job := by simpa using hjob
        exact ⟨found, rfl, hown⟩
      | succ k =>
        obtain ⟨other, hother, hshows⟩ := @ih b' (i + 1) k (by simpa using hjob)
        refine ⟨other, hother, fun c => ?_⟩
        have hplace : i + 1 + k = i + (k + 1) := by omega
        rw [hshows, hothers, hplace]
        by_cases hsame : job.origin = first.origin
        · -- an earlier snapshot of this origin cleared only what is over by now
          have hle : (clock i : ℚ) ≤ clock (i + (k + 1)) := Int.cast_le.2 (hclock (by omega))
          rw [if_pos hsame, hown, hsame]
          exact ⟨fun h => ⟨h.1.1, h.2⟩, fun h => ⟨⟨h.1, hle.trans_lt h.2⟩, h.2⟩⟩
        · rw [if_neg hsame]

theorem findPaused_eq_some {l : List OriginRateLimitSnapshot} {found : OriginRateLimitSnapshot} :
    findPaused clock l i = some found ↔ ∃ k, l[k]? = some found ∧ found.cooling (clock (i + k)) = true ∧
      ∀ j < k, ∀ other ∈ l[j]?, other.cooling (clock (i + j)) = false := by
  induction l generalizing i with
  | nil => simp [findPaused]
  | cons first l ih =>
    unfold findPaused
    by_cases hcooling : first.cooling (clock i) = true
    · rw [if_pos hcooling]
      constructor
      · rintro h
        obtain rfl := Option.some.inj h
        exact ⟨0, rfl, hcooling, fun j hj => absurd hj (Nat.not_lt_zero j)⟩
      · rintro ⟨k, hk, -, hbefore⟩
        cases k with
        | zero => simpa using hk
        | succ k => exact absurd hcooling (by simpa using hbefore 0 (Nat.succ_pos k) first rfl)
    · rw [if_neg hcooling, ih]
      constructor
      · rintro ⟨k, hk, hfound, hbefore⟩
        have hplace (j : ℕ) : i + 1 + j = i + (j + 1) := by omega
        refine ⟨k + 1, by simpa using hk, hplace k ▸ hfound, fun j hj other hother => ?_⟩
        cases j with
        | zero =>
          obtain rfl : first = other := by simpa using hother
          simpa using hcooling
        | succ j => exact hplace j ▸ hbefore j (by omega) other (by simpa using hother)
      · rintro ⟨k, hk, hfound, hbefore⟩
        cases k with
        | zero =>
          obtain rfl : first = found := by simpa using hk
          exact absurd hfound hcooling
        | succ k =>
          have hplace (j : ℕ) : i + (j + 1) = i + 1 + j := by omega
          refine ⟨k, by simpa using hk, hplace k ▸ hfound, fun j hj other hother => ?_⟩
          exact hplace j ▸ hbefore (j + 1) (by omega) other (by simpa using hother)

end Snapshots

end OfflineWebArchiver.Scheduler
