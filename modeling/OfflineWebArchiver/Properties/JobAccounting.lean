import Mathlib.Algebra.Order.BigOperators.Group.List
import Mathlib.Algebra.Order.Group.Nat
import Mathlib.Data.Prod.Lex
import OfflineWebArchiver.Lib.Checks
import OfflineWebArchiver.Properties.SchedulerLoad
import OfflineWebArchiver.Scheduler.PoolRunSteps

/-!
# Every job of a run is accounted for

A job is pending, then its executor runs, then it is in one of the four lists of the result. The
pool bounds how many executors run at a time.

* `RunSound`, `sound_poolRunAt`: **the lists of a run and the pool agree in every state.**
* `RunState.measure`, `step_progress`: what is left to do, and the place in the loop.
* `pool_run_accounts`: every job has one place in the result, and the loop ends when every
  promise settles and every cooldown does.
-/

namespace OfflineWebArchiver

open Scheduler

variable {α : Type} {env : RunEnv} {configuration : RunConfiguration} {options : RunOptions}
  {s t : RunState env α} {e : RunEvent α} {ids : List String}

/-! ### Tasks -/

/-- With distinct keys, the element of a key is the one that a filter takes away. -/
theorem perm_cons_filter_ne {β κ : Type} [DecidableEq κ] {f : β → κ} {l : List β} {a : β}
    (hnodup : (l.map f).Nodup) (ha : a ∈ l) : l.Perm (a :: l.filter (f · ≠ f a)) := by
  induction l with
  | nil => cases ha
  | cons b l ih =>
    rw [List.map_cons, List.nodup_cons] at hnodup
    by_cases hsame : f b = f a
    · have hhead : b = a := by
        rcases List.mem_cons.1 ha with hab | hal
        · exact hab.symm
        · exact absurd (hsame ▸ List.mem_map_of_mem hal) hnodup.1
      subst hhead
      have hkeep : l.filter (f · ≠ f b) = l := by
        refine List.filter_eq_self.2 fun x hx => ?_
        have hne : f x ≠ f b := fun h => hnodup.1 (h ▸ List.mem_map_of_mem hx)
        simpa using hne
      rw [List.filter_cons_of_neg (by simp), hkeep]
    · have hal : a ∈ l := (List.mem_cons.1 ha).resolve_left fun h => hsame (h ▸ rfl)
      have hrest := (ih hnodup.2 hal).cons b
      rw [List.filter_cons_of_pos (by simpa using hsame)]
      exact hrest.trans (List.Perm.swap a b _)

namespace Scheduler.RunState

/-- The jobs of the four lists of the result. -/
def outcomes (s : RunState env α) : List String :=
  s.completed.map (·.1) ++ s.failed.map (·.jobId) ++ s.skipped.map (·.jobId) ++ s.blocked.map (·.jobId)

def pendingIds (s : RunState env α) : List String := s.pending.map (·.job.jobId)

def runningIds (s : RunState env α) : List String := s.running.map (·.reservation.job.jobId)

/-- The jobs that were cancelled before their executor was called. -/
def dropped (s : RunState env α) : List String := (s.skipped.filter (·.reason == "CANCELLED")).map (·.jobId)

/-- The loop is over: it returns, or `onWait` or the check of the jobs throws. -/
def Ended (s : RunState env α) : Prop := s.phase = .returned ∨ s.phase = .threw

end Scheduler.RunState

open RunState

/-- The tasks after one of them has settled. -/
theorem settled_running {task : RunTask} {tasks : List RunTask} :
    (tasks.map fun t => if t.ticket = task.ticket then { t with settled := true } else t).filter (!·.settled) =
      (tasks.filter (!·.settled)).filter (·.ticket ≠ task.ticket) := by
  induction tasks with
  | nil => rfl
  | cons t tasks ih =>
    by_cases hticket : t.ticket = task.ticket
    · cases hsettled : t.settled
      · simp [hticket, hsettled, ih]
      · simp [hticket, hsettled, ih]
    · cases hsettled : t.settled
      · simp [hticket, hsettled, ih]
      · simp [hticket, hsettled, ih]

/-- The lists of a run agree with its jobs `ids` and with the pool. -/
structure RunSound (configuration : RunConfiguration) (options : RunOptions) (ids : List String)
    (s : RunState env α) : Prop where
  accounted : ∀ id, s.pendingIds.count id + s.runningIds.count id + s.outcomes.count id = ids.count id
  handed : ∀ id, s.pendingIds.count id + s.handed.count id + s.dropped.count id +
    (s.blocked.map (·.jobId)).count id = ids.count id
  load : LoadExact configuration.toWorkerPoolConfiguration s.ledger
  live : s.ledger.tickets.live = s.running.map fun task => (task.ticket, task.reservation)
  tickets : (s.active.map (·.ticket)).Nodup
  granted : ∀ task ∈ s.active, task.ticket < s.ledger.tickets.granted.length
  named : ∀ task ∈ s.running, ∃ k ≤ s.sequence,
    task.reservation.workerId = options.workerIdPrefix ++ "-" ++ toString k
  racing : ∀ tickets, s.phase = .racing tickets → tickets ≠ []
  returned : s.phase = .returned → s.Idle

namespace RunSound

/-- A step that leaves the jobs and the tasks where they are. -/
theorem still (h : RunSound configuration options ids s) (hpending : t.pending = s.pending)
    (hactive : t.active = s.active) (hresult : t.outcomes = s.outcomes ∧ t.dropped = s.dropped ∧ t.blocked = s.blocked)
    (hhanded : t.handed = s.handed) (htickets : t.ledger.tickets = s.ledger.tickets)
    (hquiet : Quiet configuration.toWorkerPoolConfiguration s.ledger.pool t.ledger.pool)
    (hsequence : s.sequence ≤ t.sequence) (hracing : ∀ tickets, t.phase = .racing tickets → tickets ≠ [])
    (hreturned : t.phase = .returned → t.Idle) : RunSound configuration options ids t := by
  obtain ⟨houtcomes, hdropped, hblocked⟩ := hresult
  have hledger : t.ledger = ⟨t.ledger.pool, s.ledger.tickets⟩ := by rw [← htickets]
  have hrunning : t.running = s.running := by unfold running; rw [hactive]
  refine ⟨fun id => ?_, fun id => ?_, hledger ▸ h.load.quiet hquiet, ?_, hactive ▸ h.tickets, ?_, ?_, hracing, hreturned⟩
  · unfold pendingIds runningIds
    rw [hpending, hrunning, houtcomes]
    exact h.accounted id
  · unfold pendingIds
    rw [hpending, hhanded, hdropped, hblocked]
    exact h.handed id
  · rw [htickets, hrunning]
    exact h.live
  · rw [hactive, htickets]
    exact h.granted
  · rw [hrunning]
    intro task htask
    obtain ⟨k, hk, hname⟩ := h.named task htask
    exact ⟨k, hk.trans hsequence, hname⟩

/-- The jobs that are left go to a list of the result. -/
theorem drop (h : RunSound configuration options ids s) (hpending : t.pending = []) (hactive : t.active = s.active)
    (hhanded : t.handed = s.handed) (hledger : t.ledger = s.ledger) (hsequence : t.sequence = s.sequence)
    (houtcomes : ∀ id, t.outcomes.count id = s.outcomes.count id + s.pendingIds.count id)
    (hdropped : ∀ id, t.dropped.count id + (t.blocked.map (·.jobId)).count id =
      s.dropped.count id + (s.blocked.map (·.jobId)).count id + s.pendingIds.count id)
    (hracing : ∀ tickets, t.phase ≠ .racing tickets) (hreturned : t.phase ≠ .returned) :
    RunSound configuration options ids t := by
  have hrunning : t.running = s.running := by unfold running; rw [hactive]
  have hnone : t.pendingIds = [] := by unfold pendingIds; rw [hpending]; rfl
  refine ⟨fun id => ?_, fun id => ?_, hledger ▸ h.load, ?_, hactive ▸ h.tickets, ?_, ?_,
    fun tickets hp => absurd hp (hracing tickets), fun hp => absurd hp hreturned⟩
  · have hold := h.accounted id
    have hnew := houtcomes id
    unfold runningIds at hold ⊢
    rw [hnone, hrunning, List.count_nil]
    omega
  · have hold := h.handed id
    have hnew := hdropped id
    rw [hnone, hhanded, List.count_nil]
    omega
  · rw [hledger, hrunning]
    exact h.live
  · rw [hactive, hledger]
    exact h.granted
  · rw [hrunning, hsequence]
    exact h.named

end RunSound

/-- A job that leaves the pending ones. -/
theorem pendingIds_eraseIdx {pending : List (NormalizedJob env)} {index : ℕ} {job : NormalizedJob env}
    (hjob : pending[index]? = some job) (id : String) : (pending.map (·.job.jobId)).count id =
      ((pending.eraseIdx index).map (·.job.jobId)).count id + [job.job.jobId].count id := by
  obtain ⟨hlt, rfl⟩ := List.getElem?_eq_some_iff.1 hjob
  have hsplit : pending = pending.take index ++ pending[index] :: pending.drop (index + 1) := by
    rw [List.getElem_cons_drop, List.take_append_drop]
  have hcount := congrArg (fun l : List (NormalizedJob env) => (l.map (·.job.jobId)).count id) hsplit
  simp only [List.map_append, List.map_cons, List.count_append, List.count_cons] at hcount
  rw [List.eraseIdx_eq_take_drop_succ, List.map_append, List.count_append, List.count_cons, List.count_nil]
  omega

namespace RunSound

/-- An executor is called. -/
theorem start (h : RunSound configuration options ids s) {index : ℕ} {job : NormalizedJob env} {r : WorkerReservation}
    {pool : Scheduler.Pool} (hjob : s.pending[index]? = some job)
    (hgranted : Scheduler.Granted configuration.toWorkerPoolConfiguration (reserveInput options job (s.sequence + 1))
      s.ledger.pool r pool)
    (hpending : t.pending = s.pending.eraseIdx index) (hsequence : t.sequence = s.sequence + 1)
    (hactive : t.active = s.active ++ [⟨s.ledger.tickets.granted.length, r, false⟩])
    (hresult : t.outcomes = s.outcomes ∧ t.dropped = s.dropped ∧ t.blocked = s.blocked)
    (hhanded : t.handed = s.handed ++ [job.job.jobId]) (hledger : t.ledger = ⟨pool, s.ledger.tickets.grant r⟩)
    (hracing : ∀ tickets, t.phase ≠ .racing tickets) (hreturned : t.phase ≠ .returned) :
    RunSound configuration options ids t := by
  obtain ⟨houtcomes, hdropped, hblocked⟩ := hresult
  have hid : r.job.jobId = job.job.jobId := by rw [hgranted.job]; rfl
  have hrunning : t.running = s.running ++ [⟨s.ledger.tickets.granted.length, r, false⟩] := by
    simp [running, hactive]
  refine ⟨fun id => ?_, fun id => ?_, hledger ▸ h.load.grant hgranted, ?_, ?_, ?_, ?_,
    fun tickets hp => absurd hp (hracing tickets), fun hp => absurd hp hreturned⟩
  · have hold := h.accounted id
    unfold pendingIds runningIds at hold ⊢
    rw [pendingIds_eraseIdx hjob id] at hold
    rw [hpending, hrunning, houtcomes, List.map_append, List.count_append, List.map_singleton, hid]
    omega
  · have hold := h.handed id
    unfold pendingIds at hold ⊢
    rw [pendingIds_eraseIdx hjob id] at hold
    rw [hpending, hhanded, hdropped, hblocked, List.count_append]
    omega
  · rw [hledger, hrunning, List.map_append, ← h.live]
    rfl
  · rw [hactive, List.map_append]
    refine List.nodup_append.2 ⟨h.tickets, List.nodup_singleton _, ?_⟩
    rintro ticket hold _ hnew rfl
    obtain ⟨task, htask, rfl⟩ := List.mem_map.1 hold
    have hlt := h.granted task htask
    have hnew : task.ticket = s.ledger.tickets.granted.length := by simpa using hnew
    omega
  · rw [hactive, hledger]
    intro task htask
    change task.ticket < (s.ledger.tickets.granted ++ [r]).length
    rw [List.length_append, List.length_singleton]
    rcases List.mem_append.1 htask with hold | hnew
    · have hlt := h.granted task hold
      omega
    · obtain rfl := List.mem_singleton.1 hnew
      exact Nat.lt_succ_self _
  · rw [hrunning, hsequence]
    intro task htask
    rcases List.mem_append.1 htask with hold | hnew
    · obtain ⟨k, hk, hname⟩ := h.named task hold
      exact ⟨k, hk.trans (Nat.le_succ _), hname⟩
    · obtain rfl := List.mem_singleton.1 hnew
      exact ⟨s.sequence + 1, le_rfl, hgranted.worker⟩

/-- A job is blocked because of an error. -/
theorem block (h : RunSound configuration options ids s) {index : ℕ} {job : NormalizedJob env} {reason : String}
    (hjob : s.pending[index]? = some job)
    (hpending : t.pending = s.pending.eraseIdx index) (hactive : t.active = s.active)
    (houtcomes : t.completed = s.completed ∧ t.failed = s.failed ∧ t.skipped = s.skipped)
    (hblocked : t.blocked = s.blocked ++ [⟨job.job.jobId, reason⟩]) (hhanded : t.handed = s.handed)
    (htickets : t.ledger.tickets = s.ledger.tickets)
    (hquiet : Quiet configuration.toWorkerPoolConfiguration s.ledger.pool t.ledger.pool)
    (hsequence : s.sequence ≤ t.sequence) (hracing : ∀ tickets, t.phase ≠ .racing tickets)
    (hreturned : t.phase ≠ .returned) : RunSound configuration options ids t := by
  obtain ⟨hcompleted, hfailed, hskipped⟩ := houtcomes
  have hids : t.blocked.map (·.jobId) = s.blocked.map (·.jobId) ++ [job.job.jobId] := by simp [hblocked]
  have hledger : t.ledger = ⟨t.ledger.pool, s.ledger.tickets⟩ := by rw [← htickets]
  have hrunning : t.running = s.running := by unfold running; rw [hactive]
  refine ⟨fun id => ?_, fun id => ?_, hledger ▸ h.load.quiet hquiet, ?_, hactive ▸ h.tickets, ?_, ?_,
    fun tickets hp => absurd hp (hracing tickets), fun hp => absurd hp hreturned⟩
  · have hold := h.accounted id
    unfold pendingIds runningIds outcomes at hold ⊢
    rw [pendingIds_eraseIdx hjob id] at hold
    rw [hpending, hrunning, hcompleted, hfailed, hskipped, hids, ← List.append_assoc, List.count_append]
    omega
  · have hold := h.handed id
    unfold pendingIds dropped at hold ⊢
    rw [pendingIds_eraseIdx hjob id] at hold
    rw [hpending, hhanded, hskipped, hids, List.count_append]
    omega
  · rw [htickets, hrunning]
    exact h.live
  · rw [hactive, htickets]
    exact h.granted
  · rw [hrunning]
    intro task htask
    obtain ⟨k, hk, hname⟩ := h.named task htask
    exact ⟨k, hk.trans hsequence, hname⟩

/-- The executor of a task settles. -/
theorem settle (h : RunSound configuration options ids s) {task : RunTask} {outcome : ExecutorOutcome α} {nowMs : ℤ}
    (htask : task ∈ s.active) (hrunning : task.settled = false) :
    RunSound configuration options ids (s.settle configuration task outcome nowMs) := by
  have hmem : task ∈ s.running := List.mem_filter.2 ⟨htask, by simp [hrunning]⟩
  have hnodup : (s.running.map (·.ticket)).Nodup := h.tickets.sublist (List.filter_sublist.map _)
  have hlive : (task.ticket, task.reservation) ∈ s.ledger.tickets.live := by
    rw [h.live]
    exact List.mem_map_of_mem hmem
  -- the other running tasks are as they were
  have hrest : (s.settle configuration task outcome nowMs).running = s.running.filter (·.ticket ≠ task.ticket) := by
    unfold RunState.settle running
    cases outcome with
    | returned value => exact settled_running
    | thrown error =>
      simp only [record]
      split_ifs
      · exact settled_running
      · exact settled_running
  have hperm := perm_cons_filter_ne hnodup hmem
  obtain ⟨hpending, hhanded, hsequence, hphase, hblocked, hdropped⟩ :
      (s.settle configuration task outcome nowMs).pending = s.pending ∧
      (s.settle configuration task outcome nowMs).handed = s.handed ∧
      (s.settle configuration task outcome nowMs).sequence = s.sequence ∧
      (s.settle configuration task outcome nowMs).phase = s.phase ∧
      (s.settle configuration task outcome nowMs).blocked = s.blocked ∧
      (s.settle configuration task outcome nowMs).dropped = s.dropped := by
    unfold RunState.settle dropped
    cases outcome with
    | returned value => exact ⟨rfl, rfl, rfl, rfl, rfl, rfl⟩
    | thrown error =>
      simp only [record]
      split_ifs
      · exact ⟨rfl, rfl, rfl, rfl, rfl, by simp⟩
      · exact ⟨rfl, rfl, rfl, rfl, rfl, rfl⟩
  have houtcomes (id : String) : (s.settle configuration task outcome nowMs).outcomes.count id =
      s.outcomes.count id + [task.reservation.job.jobId].count id := by
    unfold RunState.settle outcomes
    cases outcome with
    | returned value =>
      simp only [record, List.map_append, List.count_append, List.map_cons, List.map_nil]
      omega
    | thrown error =>
      simp only [record]
      split_ifs
      · simp only [List.map_append, List.count_append, List.map_cons, List.map_nil]
        omega
      · simp only [List.map_append, List.count_append, List.map_cons, List.map_nil]
        omega
  have hledger : (s.settle configuration task outcome nowMs).ledger =
      ⟨releaseWorker configuration.toWorkerPoolConfiguration task.reservation outcome.released nowMs s.ledger.pool,
        s.ledger.tickets.giveBack task.ticket task.reservation⟩ := by
    unfold RunState.settle
    cases outcome with
    | returned value => rfl
    | thrown error =>
      simp only [record]
      split_ifs
      · rfl
      · rfl
  have hactive : (s.settle configuration task outcome nowMs).active.map (·.ticket) = s.active.map (·.ticket) := by
    have hmark : (fun t : RunTask => (if t.ticket = task.ticket then { t with settled := true } else t).ticket) =
        (·.ticket) := by
      funext t
      split_ifs
      · rfl
      · rfl
    unfold RunState.settle
    cases outcome with
    | returned value => simp only [record, List.map_map, Function.comp_def, hmark]
    | thrown error =>
      simp only [record]
      split_ifs
      · simp only [List.map_map, Function.comp_def, hmark]
      · simp only [List.map_map, Function.comp_def, hmark]
  refine ⟨fun id => ?_, fun id => ?_, hledger ▸ h.load.release hlive, ?_, hactive ▸ h.tickets, ?_, ?_, ?_, ?_⟩
  · have hold := h.accounted id
    have hcount := (hperm.map (·.reservation.job.jobId)).count_eq id
    have hnew := houtcomes id
    rw [List.map_cons, List.count_cons] at hcount
    unfold pendingIds runningIds at hold ⊢
    rw [hpending, hrest, hnew, List.count_cons, List.count_nil]
    omega
  · unfold pendingIds
    rw [hpending, hhanded, hdropped, hblocked]
    exact h.handed id
  · rw [hledger, hrest]
    change s.ledger.tickets.live.erase _ = _
    rw [s.ledger.tickets.nodup.erase_eq_filter, h.live, List.filter_map]
    congr 1
    refine List.filter_congr fun other hother => ?_
    by_cases hsame : other.ticket = task.ticket
    · have heq := List.inj_on_of_nodup_map hnodup hother hmem hsame
      simp [heq]
    · simp [hsame]
  · intro other hother
    obtain ⟨old, hold, hticket⟩ := List.mem_map.1 (hactive ▸ List.mem_map_of_mem hother)
    rw [hledger, ← hticket]
    exact h.granted old hold
  · rw [hrest, hsequence]
    exact fun other hother => h.named other (List.mem_of_mem_filter hother)
  · rw [hphase]
    exact h.racing
  · intro hp
    rw [hphase] at hp
    obtain ⟨-, hnone⟩ := h.returned hp
    rw [hnone] at htask
    cases htask

/-- A task leaves the map `active`. -/
theorem forget (h : RunSound configuration options ids s) (ticket : ℕ) :
    RunSound configuration options ids
      { s with active := s.active.filter fun task => !(task.ticket == ticket && task.settled) } := by
  have hrunning : (s.active.filter fun task => !(task.ticket == ticket && task.settled)).filter (!·.settled) =
      s.running := by
    rw [List.filter_filter]
    unfold running
    refine List.filter_congr fun task _ => ?_
    cases task.settled <;> simp
  refine ⟨fun id => ?_, h.handed, h.load, ?_, h.tickets.sublist (List.filter_sublist.map _), fun task htask =>
    h.granted task (List.mem_of_mem_filter htask), fun task htask => h.named task (hrunning ▸ htask), h.racing,
    fun hp => ?_⟩
  · have hold := h.accounted id
    unfold runningIds at hold ⊢
    change s.pendingIds.count id + (((s.active.filter _).filter _).map _).count id + s.outcomes.count id = _
    rw [hrunning]
    exact hold
  · rw [h.live]
    exact congrArg (List.map _) hrunning.symm
  · obtain ⟨hpending, hactive⟩ := h.returned hp
    exact ⟨hpending, by simp [hactive]⟩

theorem rescan_phase (s : RunState env α) : (∀ tickets, (s.rescan configuration).phase ≠ .racing tickets) ∧
    (s.rescan configuration).phase ≠ .returned := by
  unfold rescan
  refine ⟨fun tickets => ?_, ?_⟩
  · split_ifs <;> simp
  · split_ifs <;> simp

/-- **One step.** -/
theorem step (h : RunSound configuration options ids s) :
    RunSound configuration options ids (s.step configuration options e) := by
  have hcases := RunState.step_cases configuration options s e
  generalize s.step configuration options e = t at hcases ⊢
  have hsame := @Quiet.refl configuration.toWorkerPoolConfiguration s.ledger.pool
  cases hcases with
  | idle => exact h
  | finished clock _ hidle =>
    exact h.still rfl rfl ⟨rfl, rfl, rfl⟩ rfl rfl hsame le_rfl (fun _ hp => by cases hp) fun _ => hidle
  | cancelled clock _ _ =>
    refine h.drop rfl rfl rfl rfl rfl (fun id => ?_) (fun id => ?_) (fun _ hp => by cases hp) (fun hp => by cases hp)
    · unfold outcomes pendingIds
      simp only [List.map_append, List.map_map, Function.comp_def, List.count_append]
      omega
    · unfold dropped pendingIds
      simp only [List.filter_append, List.filter_map, Function.comp_def, beq_self_eq_true, List.filter_true,
        List.map_append, List.map_map, List.count_append]
      omega
  | begun clock _ _ _ =>
    have hphase := @rescan_phase _ _ configuration s
    exact h.still rfl rfl ⟨rfl, rfl, rfl⟩ rfl rfl hsame le_rfl (fun _ hp => absurd hp (hphase.1 _))
      fun hp => absurd hp hphase.2
  | scanned clock _ _ =>
    exact h.still rfl rfl ⟨rfl, rfl, rfl⟩ rfl rfl hsame le_rfl (fun _ hp => by cases hp) fun hp => by cases hp
  | refused clock states _ _ hquiet =>
    exact h.still rfl rfl ⟨rfl, rfl, rfl⟩ rfl rfl hquiet (Nat.le_succ _) (fun _ hp => by cases hp) fun hp => by cases hp
  | started clock states _ hjob hgranted =>
    exact h.start hjob hgranted rfl rfl rfl ⟨rfl, rfl, rfl⟩ rfl rfl (rescan_phase _).1 (rescan_phase _).2
  | rejected clock states _ hjob _ hquiet =>
    exact h.block hjob rfl rfl ⟨rfl, rfl, rfl⟩ rfl rfl rfl hquiet (Nat.le_succ _) (rescan_phase _).1 (rescan_phase _).2
  | raced clock _ hactive =>
    exact h.still rfl rfl ⟨rfl, rfl, rfl⟩ rfl rfl hsame le_rfl
      (fun _ hp => by cases hp; simpa using hactive) fun hp => by cases hp
  | paused clock states _ _ _ _ _ =>
    exact h.still rfl rfl ⟨rfl, rfl, rfl⟩ rfl rfl hsame le_rfl (fun _ hp => by cases hp) fun hp => by cases hp
  | exhausted clock states reason _ _ _ _ _ =>
    refine h.drop rfl rfl rfl rfl rfl (fun id => ?_) (fun id => ?_) (fun _ hp => by cases hp) (fun hp => by cases hp)
    · unfold outcomes pendingIds
      simp only [List.map_append, List.map_map, Function.comp_def, List.count_append]
      omega
    · unfold dropped pendingIds
      simp only [List.map_append, List.map_map, Function.comp_def, List.count_append]
      omega
  | resumed clock _ _ _ =>
    exact h.still rfl rfl ⟨rfl, rfl, rfl⟩ rfl rfl hsame le_rfl (fun _ hp => by cases hp) fun hp => by cases hp
  | woken clock _ _ _ =>
    exact h.still rfl rfl ⟨rfl, rfl, rfl⟩ rfl rfl hsame le_rfl (fun _ hp => by cases hp) fun hp => by cases hp
  | waited rejected _ =>
    refine h.still rfl rfl ⟨rfl, rfl, rfl⟩ rfl rfl hsame le_rfl (fun _ hp => ?_) fun hp => ?_
    · cases rejected <;> cases hp
    · cases rejected <;> cases hp
  | slept interrupted _ =>
    exact h.still rfl rfl ⟨rfl, rfl, rfl⟩ rfl rfl hsame le_rfl (fun _ hp => by cases hp) fun hp => by cases hp
  | aborted => exact h.still rfl rfl ⟨rfl, rfl, rfl⟩ rfl rfl hsame le_rfl h.racing h.returned
  | settled outcome nowMs htask hrunning => exact h.settle htask hrunning
  | forgot ticket => exact h.forget ticket
  | budgeted event => exact h.still rfl rfl ⟨rfl, rfl, rfl⟩ rfl rfl hsame le_rfl h.racing h.returned

end RunSound

/-! ### Runs -/

variable {jobs : List SchedulerJob} {ledger : Ledger} {budget : BudgetSystem} {es : ℕ → RunEvent α}

/-- The run starts with all its jobs, or the check of the jobs has thrown. -/
theorem start_cases : (RunState.start (α := α) env jobs ledger budget).phase = .threw ∨
    (RunState.start (α := α) env jobs ledger budget).pendingIds = jobs.map (·.jobId) := by
  unfold RunState.start
  cases hjobs : jobs.mapM (normalizeJob env) with
  | error _ => exact .inl rfl
  | ok pending =>
    refine .inr ?_
    have hall := Checks.mapM_ok.1 hjobs
    clear hjobs
    induction hall with
    | nil => rfl
    | cons hone _ ih =>
      unfold normalizeJob at hone
      split at hone
      · cases hone
      · cases hone
        exact congrArg (_ :: ·) ih

theorem sound_start (hload : LoadExact configuration.toWorkerPoolConfiguration ledger)
    (hidle : ledger.tickets.live = []) : RunSound configuration options
      (RunState.start (α := α) env jobs ledger budget).pendingIds (RunState.start (α := α) env jobs ledger budget) := by
  unfold RunState.start
  cases jobs.mapM (normalizeJob env) with
  | error _ =>
    exact ⟨fun _ => rfl, fun _ => rfl, hload, hidle, List.nodup_nil, by simp, by simp [running], by simp, by simp⟩
  | ok pending =>
    exact ⟨fun _ => rfl, fun _ => rfl, hload, hidle, List.nodup_nil, by simp, by simp [running], by simp, by simp⟩

/-- **The lists of a run and the pool agree in every state.** -/
theorem sound_poolRunAt (hload : LoadExact configuration.toWorkerPoolConfiguration ledger)
    (hidle : ledger.tickets.live = []) (n : ℕ) : RunSound configuration options
      (RunState.start (α := α) env jobs ledger budget).pendingIds
      (poolRunAt env configuration options jobs ledger budget es n) :=
  Liveness.runAt_induction (sound_start hload hidle) (fun _ h => h.step) n

/-- A run that has thrown stays so. -/
theorem step_threw (h : s.phase = .threw) : (s.step configuration options e).phase = .threw := by
  have hcases := RunState.step_cases configuration options s e
  generalize s.step configuration options e = t at hcases ⊢
  cases hcases with
  | settled outcome nowMs _ _ =>
    unfold RunState.settle
    cases outcome with
    | returned value => exact h
    | thrown error =>
      simp only [record]
      split_ifs
      · exact h
      · exact h
  | idle => exact h
  | aborted => exact h
  | forgot => exact h
  | budgeted => exact h
  | waited rejected hphase => exact absurd (hphase.symm.trans h) (by simp)
  | _ clock => simp_all

/-! ### Progress -/

namespace Scheduler.RunState

/-- What the tasks have still before them. -/
def taskWork (tasks : List RunTask) : ℕ := (tasks.map fun task => if task.settled then 1 else 2).sum

def work (s : RunState env α) : ℕ := 3 * s.pending.length + taskWork s.active

/-- How far the loop is from its next change of the lists. -/
def place (s : RunState env α) : ℕ :=
  match s.phase with
  | .top =>
    if s.pending = [] then if s.active = [] then 1 else 10
    else if s.cancelled then 2 else s.pending.length + 10
  | .scan index => s.pending.length - index + 6
  | .scheduled => 5
  | .racing tickets =>
    if tickets.all fun ticket => s.active.any (·.ticket == ticket) then 3 else s.pending.length + 11
  | .onWait _ => s.pending.length + 13
  | .sleeping => s.pending.length + 12
  | .returned => 0
  | .threw => 0

def measure (s : RunState env α) : ℕ ×ₗ ℕ := toLex (s.work, s.place)

/-- The loop is not at an `await` that is still open. -/
def Ready (s : RunState env α) : Prop :=
  s.phase = .top ∨ (∃ index, s.phase = .scan index) ∨ s.phase = .scheduled ∨
    ∃ tickets, s.phase = .racing tickets ∧ ∃ ticket ∈ tickets, ∀ task ∈ s.active, task.ticket ≠ ticket

end Scheduler.RunState

theorem measure_lt_of_work (h : t.work < s.work) : t.measure < s.measure :=
  Prod.Lex.toLex_lt_toLex.2 (.inl h)

theorem measure_lt_of_place (hwork : t.work = s.work) (h : t.place < s.place) : t.measure < s.measure :=
  Prod.Lex.toLex_lt_toLex.2 (.inr ⟨hwork, h⟩)

theorem place_top_le (h : s.phase = .top) : s.place ≤ s.pending.length + 10 := by
  unfold place
  rw [h]
  dsimp only
  split_ifs <;> omega

/-- The loop is in the scan of the pending jobs, or behind it. -/
theorem place_rescan_lt (hpending : s.pending = [] → s.active ≠ []) (hcancelled : s.cancelled = false)
    (hphase : s.phase = .top) : (s.rescan configuration).place < s.place := by
  have hold : s.place = s.pending.length + 10 := by
    unfold place
    rw [hphase]
    dsimp only
    split_ifs with hnone hidle hlive
    · exact absurd hidle (hpending hnone)
    · simp [hnone]
    · rw [hcancelled] at hlive
      cases hlive
    · rfl
  rw [hold]
  unfold rescan place
  dsimp only
  split_ifs <;> simp only <;> omega

theorem taskWork_filter {keep : RunTask → Bool} {tasks : List RunTask} :
    tasks.filter keep = tasks ∨ taskWork (tasks.filter keep) < taskWork tasks := by
  unfold taskWork
  induction tasks with
  | nil => exact .inl rfl
  | cons task tasks ih =>
    have hpos : 0 < if task.settled then 1 else 2 := by split_ifs <;> omega
    cases hkeep : keep task
    · refine .inr ?_
      rw [List.filter_cons_of_neg (by simp [hkeep]), List.map_cons, List.sum_cons]
      rcases ih with hsame | hless
      · rw [hsame]
        omega
      · omega
    · rw [List.filter_cons_of_pos hkeep, List.map_cons, List.map_cons, List.sum_cons, List.sum_cons]
      rcases ih with hsame | hless
      · exact .inl (by rw [hsame])
      · exact .inr (by omega)

theorem taskWork_settle {task : RunTask} {tasks : List RunTask} (htask : task ∈ tasks) (hrunning : task.settled = false) :
    taskWork (tasks.map fun t => if t.ticket = task.ticket then { t with settled := true } else t) < taskWork tasks := by
  unfold taskWork
  rw [List.map_map]
  refine List.sum_lt_sum _ _ (fun t _ => ?_) ⟨task, htask, by simp [hrunning]⟩
  dsimp only [Function.comp]
  split_ifs <;> simp_all

/-- **A step ends the loop, leaves less to do, or leaves the tasks and the place in the loop as
they are.** The exception is a wait for a cooldown. -/
theorem move_progress (h : RunMove configuration options s e t)
    (hwait : ∀ clock, e = .advance clock → s.pausedAt configuration clock = none) :
    t.Ended ∨ t.measure < s.measure ∨
      t.measure = s.measure ∧ t.active = s.active ∧ t.phase = s.phase ∧ ∀ clock, e = .advance clock → ¬s.Ready := by
  have hlength {index : ℕ} {job : NormalizedJob env} (hjob : s.pending[index]? = some job) :
      index < s.pending.length ∧ (s.pending.eraseIdx index).length + 1 = s.pending.length := by
    obtain ⟨hlt, -⟩ := List.getElem?_eq_some_iff.1 hjob
    rw [List.length_eraseIdx_of_lt hlt]
    omega
  cases h with
  | idle e hphase =>
    refine .inr (.inr ⟨rfl, rfl, rfl, fun clock he hready => ?_⟩)
    obtain ⟨htop, hscan, hscheduled, hracing⟩ := hphase clock he
    rcases hready with hready | ⟨index, hready⟩ | hready | ⟨tickets, hready, ticket, hticket, hgone⟩
    · exact htop hready
    · exact hscan index hready
    · exact hscheduled hready
    · obtain ⟨task, htask, hsame⟩ := hracing tickets hready ticket hticket
      exact hgone task htask hsame
  | finished => exact .inl (.inl rfl)
  | cancelled clock hphase hbusy =>
    refine .inr (.inl ?_)
    by_cases hpending : s.pending = []
    · have hactive : s.active ≠ [] := fun h => hbusy ⟨hpending, h⟩
      refine measure_lt_of_place (by simp [work, hpending]) ?_
      simp [place, hphase, hpending, hactive]
    · refine measure_lt_of_work ?_
      have hpos := List.length_pos_of_ne_nil hpending
      simp only [work, List.length_nil]
      omega
  | begun clock hphase hbusy hlive =>
    exact .inr (.inl (measure_lt_of_place rfl (place_rescan_lt (fun hp ha => hbusy ⟨hp, ha⟩) hlive hphase)))
  | scanned clock hphase hend =>
    refine .inr (.inl (measure_lt_of_place rfl ?_))
    simp only [place, hphase]
    omega
  | refused clock states hphase hjob hquiet =>
    obtain ⟨hlt, -⟩ := hlength hjob
    refine .inr (.inl (measure_lt_of_place rfl ?_))
    simp only [place, hphase]
    omega
  | started clock states hphase hjob hgranted =>
    obtain ⟨-, hless⟩ := hlength hjob
    refine .inr (.inl (measure_lt_of_work ?_))
    simp only [work, rescan, RunState.begin, taskWork, List.map_append, List.sum_append, List.map_cons, List.map_nil,
      List.sum_cons, List.sum_nil, Bool.false_eq_true, if_false]
    omega
  | rejected clock states hphase hjob herror hquiet =>
    obtain ⟨-, hless⟩ := hlength hjob
    refine .inr (.inl (measure_lt_of_work ?_))
    simp only [work, rescan]
    omega
  | raced clock hphase hactive =>
    refine .inr (.inl (measure_lt_of_place rfl ?_))
    have hall : (s.active.map (·.ticket)).all (fun ticket => s.active.any (·.ticket == ticket)) = true := by
      simp only [List.all_eq_true, List.any_eq_true, List.mem_map, beq_iff_eq, forall_exists_index, and_imp]
      rintro ticket task htask rfl
      exact ⟨task, htask, rfl⟩
    simp only [place, hphase, hall, if_true]
    omega
  | paused clock states _ _ _ _ hpaused => exact absurd ((hwait clock rfl).symm.trans hpaused) (by simp)
  | exhausted clock states reason _ _ hpending _ _ =>
    have hpos := List.length_pos_of_ne_nil hpending
    refine .inr (.inl (measure_lt_of_work ?_))
    simp only [work, List.length_nil]
    omega
  | resumed clock hphase hactive hnothing =>
    refine .inr (.inl (measure_lt_of_place rfl ?_))
    rcases hnothing with hpending | hcancelled
    · simp [place, hphase, hpending, hactive]
    · simp only [place, hphase, hactive, hcancelled, if_true]
      split_ifs <;> omega
  | @woken clock tickets ticket hphase hticket hgone =>
    refine .inr (.inl (measure_lt_of_place rfl ?_))
    have hnot : ¬(tickets.all fun ticket => s.active.any (·.ticket == ticket)) = true := by
      intro hall
      obtain ⟨task, htask, hsame⟩ := List.any_eq_true.1 (List.all_eq_true.1 hall ticket hticket)
      exact hgone task htask (by simpa using hsame)
    have htop := @place_top_le _ _ { s with phase := .top } rfl
    have hold : s.place = s.pending.length + 11 := by simp only [place, hphase, if_neg hnot]
    rw [hold]
    exact Nat.lt_succ_of_le htop
  | waited rejected hphase =>
    cases rejected
    · refine .inr (.inl (measure_lt_of_place rfl ?_))
      simp [place, hphase]
    · exact .inl (.inr rfl)
  | slept interrupted hphase =>
    refine .inr (.inl (measure_lt_of_place rfl ?_))
    have htop := @place_top_le _ _ { s with phase := .top, cancelled := s.cancelled || (interrupted && s.aborted) } rfl
    have hold : s.place = s.pending.length + 12 := by simp only [place, hphase]
    rw [hold]
    exact Nat.lt_of_le_of_lt htop (by simp)
  | aborted => exact .inr (.inr ⟨rfl, rfl, rfl, fun _ he => by cases he⟩)
  | @settled task outcome nowMs htask hrunning =>
    refine .inr (.inl (measure_lt_of_work ?_))
    have hless := taskWork_settle htask hrunning
    have hwork : ∀ u : RunState env α, u.pending = s.pending →
        u.active = (s.active.map fun t => if t.ticket = task.ticket then { t with settled := true } else t) → u.work < s.work := by
      intro u hpending hactive
      unfold work
      rw [hpending, hactive]
      omega
    unfold RunState.settle
    cases outcome with
    | returned value => exact hwork _ rfl rfl
    | thrown error =>
      simp only [record]
      split_ifs
      · exact hwork _ rfl rfl
      · exact hwork _ rfl rfl
  | forgot ticket =>
    rcases @taskWork_filter (fun task => !(task.ticket == ticket && task.settled)) s.active with hsame | hless
    · refine .inr (.inr ?_)
      rw [hsame]
      exact ⟨rfl, rfl, rfl, fun _ he => by cases he⟩
    · refine .inr (.inl (measure_lt_of_work ?_))
      simp only [work]
      omega
  | budgeted => exact .inr (.inr ⟨rfl, rfl, rfl, fun _ he => by cases he⟩)

/-! ### The end of the loop -/

namespace Scheduler.RunState

def Executing (s : RunState env α) (ticket : ℕ) : Prop := ∃ task ∈ s.active, task.ticket = ticket ∧ task.settled = false

def Settled (s : RunState env α) (ticket : ℕ) : Prop := ∃ task ∈ s.active, task.ticket = ticket ∧ task.settled = true

/-- The loop waits for `onWait` or for the end of a sleep. -/
def Waiting (s : RunState env α) : Prop := (∃ found, s.phase = .onWait found) ∨ s.phase = .sleeping

end Scheduler.RunState

/-- Every promise of the run settles: the loop goes on when it can, every call of an executor
settles and its `finally` runs, and every wait ends. -/
structure Fair (st : ℕ → RunState env α) (es : ℕ → RunEvent α) : Prop where
  loop : ∀ n, (st n).Ready → ∃ m, n ≤ m ∧ (¬(st m).Ready ∨ ∃ clock, es m = .advance clock)
  executors : ∀ n ticket, (st n).Executing ticket → ∃ m, n ≤ m ∧ ¬(st m).Executing ticket
  callbacks : ∀ n ticket, (st n).Settled ticket → ∃ m, n ≤ m ∧ ¬(st m).Settled ticket
  waits : ∀ n, (st n).Waiting → ∃ m, n ≤ m ∧ ¬(st m).Waiting

/-- The cooldown of every job's origin ends: from some point on the clock is past it whenever the
loop reads it. -/
def CooldownsEnd (st : ℕ → RunState env α) (es : ℕ → RunEvent α) : Prop :=
  ∀ job ∈ (st 0).pending, ∃ N, ∀ n, N ≤ n → ∀ clock, es n = .advance clock →
    ∀ c ∈ (st n).budget.cooldown job.origin, ∀ i, c ≤ clock i

/-- No job is found paused when the clock is past every cooldown. -/
theorem pausedAt_eq_none {clock : ℕ → ℤ}
    (h : ∀ job ∈ s.pending, ∀ c ∈ s.budget.cooldown job.origin, ∀ i, c ≤ clock i) :
    s.pausedAt configuration clock = none := by
  unfold pausedAt
  rw [Option.filter_eq_none_iff]
  intro found hfound
  obtain ⟨k, hk, hcooling, -⟩ := findPaused_eq_some.1 hfound
  obtain ⟨c, hc, hlater⟩ := (Option.any_eq_true _ _).1 hcooling
  obtain ⟨job, hjob, hcool⟩ := takeSnapshots_cooldown found (List.mem_of_getElem? hk) c hc
  exact absurd (h job hjob c hcool _) (not_le.2 (by simpa using hlater))

/-- No job becomes pending again. -/
theorem pending_subset : (s.step configuration options e).pending ⊆ s.pending := by
  have hcases := RunState.step_cases configuration options s e
  generalize s.step configuration options e = t at hcases ⊢
  cases hcases with
  | cancelled => exact List.nil_subset _
  | exhausted => exact List.nil_subset _
  | started => exact fun _ hjob => List.eraseIdx_subset hjob
  | rejected => exact fun _ hjob => List.eraseIdx_subset hjob
  | settled outcome nowMs _ _ =>
    unfold RunState.settle
    cases outcome with
    | returned value => exact List.Subset.refl _
    | thrown error =>
      simp only [record]
      split_ifs
      · exact List.Subset.refl _
      · exact List.Subset.refl _
  | _ => exact List.Subset.refl _

section Ends

variable {st : ℕ → RunState env α} {N n : ℕ}

/-- From some point on no job is found paused. -/
theorem pausedAt_eventually (hstep : ∀ n, st (n + 1) = (st n).step configuration options (es n))
    (hcool : CooldownsEnd st es) :
    ∃ N, ∀ n, N ≤ n → ∀ clock, es n = .advance clock → (st n).pausedAt configuration clock = none := by
  have hpending (n : ℕ) : (st n).pending ⊆ (st 0).pending := by
    induction n with
    | zero => exact List.Subset.refl _
    | succ n ih =>
      rw [hstep]
      exact fun job hjob => ih (pending_subset hjob)
  -- there are finitely many jobs, so there is one bound for all of them
  have hbound (l : List (NormalizedJob env)) (hl : l ⊆ (st 0).pending) : ∃ N, ∀ job ∈ l, ∀ n, N ≤ n →
      ∀ clock, es n = .advance clock → ∀ c ∈ (st n).budget.cooldown job.origin, ∀ i, c ≤ clock i := by
    induction l with
    | nil => exact ⟨0, fun job hjob => absurd hjob List.not_mem_nil⟩
    | cons first l ih =>
      obtain ⟨N, hN⟩ := ih fun job hjob => hl (List.mem_cons_of_mem _ hjob)
      obtain ⟨M, hM⟩ := hcool first (hl List.mem_cons_self)
      refine ⟨max N M, fun job hjob n hn => ?_⟩
      rcases List.mem_cons.1 hjob with rfl | hjob
      · exact hM n (by omega)
      · exact hN job hjob n (by omega)
  obtain ⟨N, hN⟩ := hbound (st 0).pending (List.Subset.refl _)
  exact ⟨N, fun n hn clock hclock => pausedAt_eq_none fun job hjob => hN job (hpending n hjob) n hn clock hclock⟩

/-- The step at `m` ends the loop or leaves less to do. -/
def Advances (st : ℕ → RunState env α) (m : ℕ) : Prop :=
  (st m).Ended ∨ (st (m + 1)).measure < (st m).measure ∨ (st (m + 1)).Ended

/-- What happens from a point on at which no job is found paused any more. -/
def Moves (st : ℕ → RunState env α) (es : ℕ → RunEvent α) (n : ℕ) : Prop :=
  (st (n + 1)).Ended ∨ (st (n + 1)).measure < (st n).measure ∨
    (st (n + 1)).measure = (st n).measure ∧ (st (n + 1)).active = (st n).active ∧
      (st (n + 1)).phase = (st n).phase ∧ ∀ clock, es n = .advance clock → ¬(st n).Ready

/-- Whatever is lost of the tasks or of the place in the loop is progress. -/
theorem advances_of_change {P : RunState env α → Prop} (hmove : ∀ k, n ≤ k → Moves st es k) (hP : P (st n))
    (hlost : ∃ m, n ≤ m ∧ ¬P (st m))
    (hsame : ∀ s t : RunState env α, t.active = s.active → t.phase = s.phase → P s → P t) :
    ∃ m, n ≤ m ∧ Advances st m := by
  obtain ⟨m, hm, hnot⟩ := hlost
  obtain ⟨k, hk, hbefore, hafter⟩ := Liveness.exists_change hm hP hnot
  refine ⟨k, hk, .inr ?_⟩
  rcases hmove k hk with hended | hless | ⟨-, hactive, hphase, -⟩
  · exact .inr hended
  · exact .inl hless
  · exact absurd (hsame _ _ hactive hphase hbefore) hafter

/-- **Every promise that settles brings the loop on.** -/
theorem advances_of_fair (hmove : ∀ k, n ≤ k → Moves st es k) (hfair : Fair st es)
    (hracing : ∀ tickets, (st n).phase = .racing tickets → tickets ≠ []) (hnot : ¬(st n).Ended) :
    ∃ m, n ≤ m ∧ Advances st m := by
  have hready (h : (st n).Ready) : ∃ m, n ≤ m ∧ Advances st m := by
    obtain ⟨m, hm, hgoes⟩ := hfair.loop n h
    by_cases hstill : (st m).Ready
    · obtain ⟨clock, hclock⟩ := hgoes.resolve_left (not_not.2 hstill)
      refine ⟨m, hm, .inr ?_⟩
      rcases hmove m hm with hended | hless | ⟨-, -, -, hidle⟩
      · exact .inr hended
      · exact .inl hless
      · exact absurd hstill (hidle clock hclock)
    · refine advances_of_change hmove h ⟨m, hm, hstill⟩ fun s t hactive hphase hs => ?_
      unfold Ready at hs ⊢
      rw [hactive, hphase]
      exact hs
  have hwaiting (h : (st n).Waiting) : ∃ m, n ≤ m ∧ Advances st m := by
    refine advances_of_change hmove h (hfair.waits n h) fun s t _ hphase hs => ?_
    unfold Waiting at hs ⊢
    rw [hphase]
    exact hs
  cases hphase : (st n).phase with
  | top => exact hready (.inl hphase)
  | scan index => exact hready (.inr (.inl ⟨index, hphase⟩))
  | scheduled => exact hready (.inr (.inr (.inl hphase)))
  | onWait found => exact hwaiting (.inl ⟨found, hphase⟩)
  | sleeping => exact hwaiting (.inr hphase)
  | returned => exact absurd (.inl hphase) hnot
  | threw => exact absurd (.inr hphase) hnot
  | racing tickets =>
    by_cases hgone : ∃ ticket ∈ tickets, ∀ task ∈ (st n).active, task.ticket ≠ ticket
    · exact hready (.inr (.inr (.inr ⟨tickets, hphase, hgone⟩)))
    · -- some task of the race is still there: it settles, or its `finally` runs
      push Not at hgone
      obtain ⟨ticket, hticket⟩ := List.exists_mem_of_ne_nil _ (hracing tickets hphase)
      obtain ⟨task, htask, hsame⟩ := hgone ticket hticket
      cases hsettled : task.settled with
      | false =>
        have hexec : (st n).Executing ticket := ⟨task, htask, hsame, hsettled⟩
        refine advances_of_change (P := (·.Executing ticket)) hmove hexec (hfair.executors n ticket hexec)
          fun s t hactive _ hs => ?_
        unfold Executing at hs ⊢
        rw [hactive]
        exact hs
      | true =>
        have hset : (st n).Settled ticket := ⟨task, htask, hsame, hsettled⟩
        refine advances_of_change (P := (·.Settled ticket)) hmove hset (hfair.callbacks n ticket hset)
          fun s t hactive _ hs => ?_
        unfold RunState.Settled at hs ⊢
        rw [hactive]
        exact hs

/-- **A loop whose tasks settle and whose cooldowns end comes to its end.** -/
theorem run_ends (hstep : ∀ n, st (n + 1) = (st n).step configuration options (es n))
    (hsound : ∀ n, RunSound configuration options ids (st n)) (hfair : Fair st es) (hcool : CooldownsEnd st es) :
    ∃ n, (st n).Ended := by
  obtain ⟨N, hN⟩ := pausedAt_eventually hstep hcool
  have hmove (n : ℕ) (hn : N ≤ n) : Moves st es n := by
    unfold Moves
    rw [hstep]
    exact move_progress (RunState.step_cases configuration options (st n) (es n)) (hN n hn)
  have hle (n : ℕ) (_ : ¬(st (N + n)).Ended) (hnot : ¬(st (N + (n + 1))).Ended) :
      (st (N + (n + 1))).measure ≤ (st (N + n)).measure := by
    rcases hmove (N + n) (by omega) with hended | hless | ⟨heq, -⟩
    · exact absurd hended hnot
    · exact hless.le
    · exact heq.le
  have hlt (n : ℕ) (hnot : ¬(st (N + n)).Ended) : ∃ m, n ≤ m ∧ Advances (fun k => st (N + k)) m := by
    obtain ⟨m, hm, hadvances⟩ := advances_of_fair (fun k hk => hmove k (by omega)) hfair (hsound (N + n)).racing hnot
    obtain ⟨k, rfl⟩ := Nat.exists_eq_add_of_le (show N ≤ m by omega)
    exact ⟨k, by omega, hadvances⟩
  obtain ⟨m, -, hm⟩ := Liveness.eventually_of_variant RunState.measure hle hlt 0
  exact ⟨_, hm⟩

end Ends

/-! ### The account of a run -/

/-- Every job has one place in the result, and the executors that run keep the limits. -/
structure RunSafe (configuration : RunConfiguration) (jobs : List SchedulerJob) (s : RunState env α) : Prop where
  accounted : s.phase = .returned → s.outcomes.Perm (jobs.map (·.jobId))
  executing : s.running.length ≤ configuration.globalWorkerConcurrency
  pages : ∀ origin, s.running.countP (·.reservation.origin == origin) ≤ configuration.perOriginPageConcurrency

theorem RunSound.limits (h : RunSound configuration options ids s) :
    s.running.length ≤ configuration.globalWorkerConcurrency ∧
      ∀ origin, s.running.countP (·.reservation.origin == origin) ≤ configuration.perOriginPageConcurrency := by
  constructor
  · have hworkers := congrArg List.length h.load.workers
    unfold Tickets.keys at hworkers
    rw [h.live] at hworkers
    simp only [List.length_map] at hworkers
    rw [← hworkers]
    exact h.load.workers_le
  · intro origin
    have hpages := h.load.pages origin
    unfold Tickets.count at hpages
    rw [h.live, List.countP_map] at hpages
    have hle := h.load.pages_le origin
    rw [hpages] at hle
    exact hle

theorem RunSound.returned_perm (h : RunSound configuration options ids s) (hphase : s.phase = .returned) :
    s.outcomes.Perm ids := by
  obtain ⟨hpending, hactive⟩ := h.returned hphase
  refine List.perm_iff_count.2 fun id => ?_
  have hall := h.accounted id
  unfold pendingIds runningIds running at hall
  rw [hpending, hactive] at hall
  simpa using hall

/-- **Every job of a run is accounted for**, the executors keep the limits at every moment, and
the loop ends when every executor settles and every cooldown ends. -/
theorem pool_run_accounts (env : RunEnv) (configuration : RunConfiguration) (options : RunOptions)
    (jobs : List SchedulerJob) {ledger : Ledger} (budget : BudgetSystem) (es : ℕ → RunEvent α)
    (hload : LoadExact configuration.toWorkerPoolConfiguration ledger) (hidle : ledger.tickets.live = []) :
    (∀ n, RunSafe configuration jobs (poolRunAt env configuration options jobs ledger budget es n)) ∧
      (Fair (poolRunAt env configuration options jobs ledger budget es) es →
        CooldownsEnd (poolRunAt env configuration options jobs ledger budget es) es →
        ∃ n, (poolRunAt env configuration options jobs ledger budget es n).Ended) := by
  have hsound := @sound_poolRunAt α env configuration options jobs ledger budget es hload hidle
  refine ⟨fun n => ⟨fun hphase => ?_, (hsound n).limits.1, (hsound n).limits.2⟩, run_ends (fun _ => rfl) hsound⟩
  rcases @start_cases α env jobs ledger budget with hthrew | hids
  · -- a run that has thrown never returns
    have hstays : (poolRunAt env configuration options jobs ledger budget es n).phase = .threw :=
      Liveness.runAt_induction (P := fun s : RunState env α => s.phase = .threw) hthrew (fun _ h => step_threw h) n
    exact absurd (hphase.symm.trans hstays) (by simp)
  · rw [← hids]
    exact (hsound n).returned_perm hphase

/-! ### A run of one job -/

/-- A run that has returned stays as it is. -/
theorem step_returned (h : s.phase = .returned) (clock : ℕ → ℤ) :
    s.step configuration options (.advance clock) = s := by
  unfold RunState.step RunState.advance
  rw [h]

/-- **A run that has returned was fair.** -/
theorem fair_of_returned {st : ℕ → RunState env α} {N : ℕ}
    (hstep : ∀ n, st (n + 1) = (st n).step configuration options (es n))
    (hlater : ∀ n, N ≤ n → ∃ clock, es n = .advance clock) (hphase : (st N).phase = .returned)
    (hactive : (st N).active = []) : Fair st es ∧ ∀ n, N ≤ n → st n = st N := by
  have hstays (n : ℕ) (hn : N ≤ n) : st n = st N := by
    induction n, hn using Nat.le_induction with
    | base => rfl
    | succ n hn ih =>
      obtain ⟨clock, hclock⟩ := hlater n hn
      rw [hstep, ih, hclock, step_returned hphase]
  refine ⟨⟨fun n _ => ⟨max n N, le_max_left n N, .inl ?_⟩, fun n ticket _ => ⟨max n N, le_max_left n N, ?_⟩,
    fun n ticket _ => ⟨max n N, le_max_left n N, ?_⟩, fun n _ => ⟨max n N, le_max_left n N, ?_⟩⟩, hstays⟩
  · rw [hstays _ (le_max_right n N)]
    simp [Ready, hphase]
  · rw [hstays _ (le_max_right n N)]
    simp [Executing, hactive]
  · rw [hstays _ (le_max_right n N)]
    simp [RunState.Settled, hactive]
  · rw [hstays _ (le_max_right n N)]
    simp [Waiting, hphase]

namespace Scheduler.Sample

/-- The URL parser on the one URL of the runs and its origin. -/
def runEnv : RunEnv where
  parseUrl url :=
    if url = "https://a.test/" ∨ url = "https://a.test" then some ("https:", "", "", "https://a.test") else none
  localeLess left right := left < right
  parseDate _ := none
  canonical url origin h := by
    unfold canonicalOrigin at h
    dsimp only at h
    split_ifs at h
    obtain rfl : "https://a.test" = origin := by simpa using h
    simp [canonicalOrigin]

/-- `DEFAULT_WORKER_POOL_CONFIGURATION`. -/
def defaultRun : RunConfiguration where
  globalWorkerConcurrency := 1
  perProxyWorkerConcurrency := 1
  perOriginPageConcurrency := 1
  selectionPolicy := .weightedRoundRobin
  connectionMode := .direct
  circuitBreaker := DEFAULT_CIRCUIT_BREAKER_CONFIGURATION
  perOriginMaxInflightRequests := 8
  perOriginRequestsPerSecond := none
  burstLimit := 4
  respectRetryAfter := true
  retryAfterMaximumMs := 300000
  originCooldownMaximumMs := 300000
  originCooldownFallbackMs := 30000
  temporaryErrorCooldownMs := 5000
  maxInflight_pos := by decide
  rate_pos := by simp
  burst_pos := by decide
  globalWorkerConcurrency_pos := one_le_one_nat
  perOriginPageConcurrency_pos := one_le_one_nat

def page (jobId : String) : SchedulerJob := { jobId, url := "https://a.test/" }

/-- The loop goes on; the clock says `ms`. -/
def goes (ms : ℤ) : RunEvent Unit := .advance fun _ => ms

/-- The events, and then the loop goes on. -/
def thenGoes (events : List (RunEvent Unit)) (ms : ℤ) (n : ℕ) : RunEvent Unit := events[n]?.getD (goes ms)

def runOf (jobs : List String) (events : List (RunEvent Unit)) (ms : ℤ) (n : ℕ) : RunState runEnv Unit :=
  poolRunAt runEnv defaultRun ⟨"r", "worker", [], fun _ => false⟩ (jobs.map page) .start .start (thenGoes events ms) n

/-- One job is handed out, and its executor returns. -/
def oneJob : List (RunEvent Unit) :=
  [goes 0, goes 0, goes 0, .settle 0 (.returned ()) 5, .forget 0, goes 5, goes 5]

/-- After its events a sample run goes on. -/
theorem thenGoes_later {events : List (RunEvent Unit)} {ms : ℤ} {n : ℕ} (hn : events.length ≤ n) :
    thenGoes events ms n = goes ms := by
  unfold thenGoes
  rw [List.getElem?_eq_none hn, Option.getD_none]

/-- A sample run that has returned when its events are over was fair, and its cooldown ends. -/
theorem runOf_fair {jobs : List String} {events : List (RunEvent Unit)} {ms : ℤ}
    (hphase : (runOf jobs events ms events.length).phase = .returned)
    (hactive : (runOf jobs events ms events.length).active.isEmpty = true)
    (horigins : ∀ origin ∈ (runOf jobs events ms 0).pending.map (·.origin),
      ∀ c ∈ (runOf jobs events ms events.length).budget.cooldown origin, c ≤ ms) :
    Fair (runOf jobs events ms) (thenGoes events ms) ∧ CooldownsEnd (runOf jobs events ms) (thenGoes events ms) := by
  obtain ⟨hfair, hstays⟩ := @fair_of_returned _ _ defaultRun ⟨"r", "worker", [], fun _ => false⟩ (thenGoes events ms)
    (runOf jobs events ms) events.length (fun _ => rfl) (fun n hn => ⟨_, thenGoes_later hn⟩) hphase
    (List.isEmpty_iff.1 hactive)
  refine ⟨hfair, fun job hjob => ⟨events.length, fun n hn clock hclock c hc i => ?_⟩⟩
  rw [thenGoes_later hn] at hclock
  obtain rfl : (fun _ => ms) = clock := RunEvent.advance.inj hclock
  rw [hstays n hn] at hc
  exact horigins _ (List.mem_map_of_mem hjob) c hc

/-- A run of one job. -/
theorem oneJob_accounts : (∀ n, RunSafe defaultRun [page "a"] (runOf ["a"] oneJob 5 n)) ∧
    ∃ n, (runOf ["a"] oneJob 5 n).Ended := by
  obtain ⟨hfair, hcool⟩ := @runOf_fair ["a"] oneJob 5 (by decide) (by decide) (by decide)
  obtain ⟨hsafe, hends⟩ := pool_run_accounts runEnv defaultRun ⟨"r", "worker", [], fun _ => false⟩ [page "a"] .start
    (thenGoes oneJob 5) (LoadExact.start _) rfl
  exact ⟨hsafe, hends hfair hcool⟩

end Scheduler.Sample

end OfflineWebArchiver
