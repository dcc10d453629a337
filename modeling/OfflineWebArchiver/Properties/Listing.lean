import OfflineWebArchiver.Lib.Paging
import OfflineWebArchiver.Lifecycle.Enqueue
import OfflineWebArchiver.Lifecycle.Outcome
import OfflineWebArchiver.Persistence.Listing

/-!
# Listing and statistics are exact

A page of `list` is a page of the matching rows in the order of their places, so a reader that
follows the cursor sees all of them. The nine counters read the two state columns each in its own
way. They agree with the listing because only a job in work is set aside.

* `listAll_returns`: the pages, one after the other.
* `counter_eq`: a counter counts the jobs of its state.
-/

namespace OfflineWebArchiver

open Relational Program

namespace Queue

/-- A selection in the order of the places: no two jobs have one place. -/
theorem select_sorted {t : Table pageJobs} {p : PageJobRow → Bool} :
    (t.select p sequenceOrder).Pairwise fun a b => a.queueSequence < b.queueSequence := by
  have htrans : IsTrans PageJobRow sequenceOrder := ⟨fun _ _ _ => Nat.le_trans⟩
  have htotal : Std.Total sequenceOrder := ⟨fun _ _ => Nat.le_total _ _⟩
  have hle : (t.select p sequenceOrder).Pairwise sequenceOrder := List.pairwise_insertionSort _ _
  refine (hle.and sequenceIndex.select_pairwise).imp fun {a b} h => ?_
  have hne : a.queueSequence ≠ b.queueSequence := fun hab =>
    h.2 _ rfl (congrArg some hab.symm)
  exact Nat.lt_of_le_of_ne h.1 hne

/-- The rows after a cursor are the end of all rows. -/
theorem select_rest {t : Table pageJobs} {p : PageJobRow → Bool} {cursor : ℕ} :
    t.select (fun a => p a && cursor < a.queueSequence) sequenceOrder =
      Paging.rest (·.queueSequence) (t.select p sequenceOrder) cursor := by
  have hasymm : ∀ a b : PageJobRow, a ∈ t.select (fun a => p a && cursor < a.queueSequence) sequenceOrder →
      b ∈ Paging.rest (·.queueSequence) (t.select p sequenceOrder) cursor →
      a.queueSequence < b.queueSequence → b.queueSequence < a.queueSequence → a = b := by
    intro a b _ _ hab hba
    omega
  refine List.Perm.eq_of_pairwise hasymm select_sorted (select_sorted.filter _) ?_
  · have hsort : ∀ q, (t.select q sequenceOrder).Perm (t.rows.filter q) := fun q =>
      List.perm_insertionSort _ _
    refine (hsort _).trans ?_
    refine List.Perm.trans ?_ ((hsort p).filter _).symm
    rw [List.filter_filter]
    exact .of_eq (List.filter_congr fun a _ => Bool.and_comm ..)

/-- The rows that the pages are cut from. -/
def matching (db : Db) (input : QueueListInput) : List PageJobRow :=
  db.pageJobs.select (fun a => a.runId == input.runId && listed input.state a) sequenceOrder

/-- The input passes the checks of `list`. -/
structure Listable (db : Db) (input : QueueListInput) : Prop where
  project : input.projectId = db.project.projectId
  run : input.runId ∈ db.project.runs
  pos : 1 ≤ input.limit
  le : input.limit ≤ 200

variable {s : Call} {input : QueueListInput}

/-- **One page.** -/
theorem list_run (cursor : Option ℕ) (h : Listable s.db input) :
    (list { input with afterSequence := cursor.map Int.ofNat }).run s =
      .ok ({ jobs := (Paging.page (·.queueSequence) (matching s.db input) input.limit.toNat
                (cursor.getD 0)).map rowToJob
             nextCursor := Paging.next (·.queueSequence) (matching s.db input) input.limit.toNat
                (cursor.getD 0) }, s) := by
  have hafter : ((cursor.map Int.ofNat).getD 0).toNat = cursor.getD 0 := by cases cursor <;> simp
  have hpos : 0 ≤ (cursor.map Int.ofNat).getD 0 := by cases cursor <;> simp
  have hwp : wp (list { input with afterSequence := cursor.map Int.ofNat }) (fun r t =>
      r = ({ jobs := (Paging.page (·.queueSequence) (matching s.db input) input.limit.toNat
                (cursor.getD 0)).map rowToJob
             nextCursor := Paging.next (·.queueSequence) (matching s.db input) input.limit.toNat
                (cursor.getD 0) } : QueueListResult) ∧ t = s) (fun _ => False) s := by
    unfold list validateOwnership
    simp only [wp_bind, wp_database, wp_require, wp_pure, hafter]
    simp [h.project, h.run, h.pos, h.le, hpos, select_rest, Paging.next, Paging.page, matching,
      List.take_take]
    rw [← List.map_take, List.getLast?_map, Option.map_map]
    rfl
  obtain ⟨r, t, hrun, hr, rfl⟩ := exists_of_wp hwp
  rw [hrun, hr]

/-- What a reader still gets after a cursor. -/
theorem follow_returns (h : Listable s.db input) (n : ℕ) :
    ∀ (cursor : Option ℕ) (seen : List PageJob),
      (Paging.rest (·.queueSequence) (matching s.db input) (cursor.getD 0)).length = n →
      (Fueled.iterate (listRound s input) (cursor.map Int.ofNat, seen)).Returns
        (.ok (seen ++ (Paging.rest (·.queueSequence) (matching s.db input) (cursor.getD 0)).map
          rowToJob)) := by
  have hlimit : 0 < input.limit.toNat := by have := h.pos; omega
  induction n using Nat.strongRecOn with
  | ind n ih =>
    intro cursor seen hn
    rw [Fueled.returns_iterate]
    have hround := list_run cursor h
    cases hnext : Paging.next (·.queueSequence) (matching s.db input) input.limit.toNat
        (cursor.getD 0) with
    | none =>
      rw [hnext] at hround
      refine Or.inl ?_
      unfold listRound
      rw [hround, ← Paging.next_none hlimit hnext]
      exact Fueled.returns_pure.2 rfl
    | some next =>
      rw [hnext] at hround
      have hsorted : (matching s.db input).Pairwise fun a b => a.queueSequence < b.queueSequence := select_sorted
      obtain ⟨hrest, hlt⟩ := Paging.next_some hsorted hnext
      refine Or.inr ⟨(some (next : ℤ), seen ++ (Paging.page (·.queueSequence) (matching s.db input)
        input.limit.toNat (cursor.getD 0)).map rowToJob), ?_, ?_⟩
      · unfold Fueled.Next listRound
        rw [hround]
        exact Fueled.returns_pure.2 rfl
      · have hmore := Paging.next_lt hnext
        have hshort : (Paging.rest (·.queueSequence) (matching s.db input) next).length < n := by
          rw [hrest, List.length_drop]
          omega
        have hlater := ih _ hshort (some next) (seen ++ (Paging.page (·.queueSequence)
          (matching s.db input) input.limit.toNat (cursor.getD 0)).map rowToJob) rfl
        rw [Option.getD_some, hrest, List.append_assoc, ← List.map_append, Paging.page,
          List.take_append_drop] at hlater
        exact hlater

/-- **All pages**, one after the other. -/
theorem listAll_returns (h : Listable s.db input)
    (hpos : ∀ a ∈ s.db.pageJobs.rows, 0 < a.queueSequence) :
    (listAll s input).Returns (.ok ((matching s.db input).map rowToJob)) := by
  have hall : Paging.rest (·.queueSequence) (matching s.db input) 0 = matching s.db input :=
    Paging.rest_zero fun a ha => hpos a (Table.mem_select.1 ha).1
  have hfollow := follow_returns h _ none [] rfl
  rw [Option.getD_none, hall, List.nil_append] at hfollow
  exact hfollow

/-- The listing of a state holds the jobs that callers see in that state. -/
theorem listed_iff {state : Option PageJobState} {a : PageJobRow} :
    listed state a = true ↔ ∀ st, state = some st → (rowToJob a).state = st := by
  cases state with
  | none => simp [listed]
  | some state =>
    cases hr : a.recoveryState with
    | none =>
      cases state <;> cases hs : a.state <;>
        simp [listed, rowToJob, hr, hs, StoredState.toJobState]
    | some r =>
      cases state <;> cases r <;> simp [listed, rowToJob, hr, RecoveryState.toJobState]

/-- Each matching job once, in the order of the places. -/
theorem matching_exact : ((matching s.db input).map rowToJob).Pairwise
      (fun j k => j.queueSequence < k.queueSequence) ∧
    ∀ j, j ∈ (matching s.db input).map rowToJob ↔ ∃ a ∈ s.db.pageJobs.rows, a.runId = input.runId ∧
      rowToJob a = j ∧ ∀ st, input.state = some st → j.state = st := by
  refine ⟨List.pairwise_map.2 select_sorted, fun j => ?_⟩
  rw [List.mem_map]
  unfold matching
  constructor
  · rintro ⟨a, ha, rfl⟩
    obtain ⟨hmem, hp⟩ := Table.mem_select.1 ha
    simp only [Bool.and_eq_true, beq_iff_eq] at hp
    exact ⟨a, hmem, hp.1, rfl, listed_iff.1 hp.2⟩
  · rintro ⟨a, hmem, hrun, rfl, hstate⟩
    refine ⟨a, Table.mem_select.2 ⟨hmem, ?_⟩, rfl⟩
    simp only [Bool.and_eq_true, beq_iff_eq]
    exact ⟨hrun, listed_iff.2 hstate⟩

theorem matching_length {db : Db} : (matching db input).length =
    (db.pageJobs.rows.filter fun a => a.runId == input.runId).countP (listed input.state) := by
  unfold matching Table.select
  rw [List.length_insertionSort, List.countP_eq_length_filter, List.filter_filter]
  exact congrArg List.length (List.filter_congr fun a _ => Bool.and_comm ..)

/-! ### Statistics -/

/-- A counter counts the jobs of its state, when only a job in work is set aside. -/
theorem counter_eq {rows : List PageJobRow} (asOf : Timestamp) (discoveryCount : ℕ)
    (haside : ∀ a ∈ rows, a.recoveryState ≠ none → a.state = .processing) (state : PageJobState) :
    (statistics rows asOf discoveryCount).counter state = rows.countP (listed (some state)) := by
  -- the counters of the other stored states do not look at the recovery column
  have hstored : ∀ stored : StoredState, stored ≠ .processing →
      rows.countP (fun a => a.state == stored) =
        rows.countP fun a => a.state.toJobState == stored.toJobState && a.recoveryState == none := by
    intro stored hne
    refine List.countP_congr fun a ha => ?_
    have hnone : a.state = stored → a.recoveryState = none := by
      intro hs
      by_contra hr
      exact hne (hs.symm.trans (haside a ha hr))
    cases stored <;> cases hs : a.state <;> simp_all [StoredState.toJobState]
  cases state with
  | processing =>
    refine List.countP_congr fun a _ => ?_
    cases hs : a.state <;> simp [listed, hs, StoredState.toJobState]
  | interrupted => rfl
  | paused => rfl
  | pending => exact hstored .pending (by decide)
  | completed => exact hstored .completed (by decide)
  | failed => exact hstored .failed (by decide)
  | retrying => exact hstored .retrying (by decide)
  | skipped => exact hstored .skipped (by decide)
  | blocked => exact hstored .blocked (by decide)

/-- Every job is in one of the nine states. -/
theorem sum_listed (rows : List PageJobRow) :
    (PageJobState.all.map fun state => rows.countP (listed (some state))).sum = rows.length := by
  induction rows with
  | nil => rfl
  | cons a rows ih =>
    have hone : (PageJobState.all.map fun state => if listed (some state) a then 1 else 0).sum = 1 := by
      cases hr : a.recoveryState with
      | none => cases hs : a.state <;> simp [PageJobState.all, listed, hr, hs, StoredState.toJobState]
      | some r => cases r <;> simp [PageJobState.all, listed, hr]
    simp only [PageJobState.all, List.map_cons, List.map_nil, List.sum_cons, List.sum_nil,
      List.countP_cons, List.length_cons] at hone ih ⊢
    omega

theorem getStatistics_run {input : QueueStatisticsInput} (hproject : input.projectId = s.db.project.projectId)
    (hrun : input.runId ∈ s.db.project.runs) (hasOf : assertUtcTimestamp input.asOf "asOf" = .ok ()) :
    ∃ discoveryCount, (getStatistics input).run s = .ok (statistics
      (s.db.pageJobs.rows.filter fun a => a.runId == input.runId) input.asOf discoveryCount, s) := by
  have hwp : wp (getStatistics input) (fun stats t => (∃ discoveryCount, stats = statistics
      (s.db.pageJobs.rows.filter fun a => a.runId == input.runId) input.asOf discoveryCount) ∧ t = s)
      (fun _ => False) s := by
    unfold getStatistics validateOwnership
    simp [hproject, hrun, hasOf]
  obtain ⟨stats, t, hrun, ⟨discoveryCount, rfl⟩, rfl⟩ := exists_of_wp hwp
  exact ⟨discoveryCount, hrun⟩

end Queue

/-- **Listing and statistics are exact.** In every table a reader that follows the cursor gets each
matching job once, in the order of the places. In every state of a run the nine counters add up to
the total, and each is the number of the jobs that the listing of its state yields. -/
theorem listing_and_statistics_exact (env : Env) :
    (∀ (s : Call) (input : QueueListInput), Queue.Listable s.db input →
      (∀ a ∈ s.db.pageJobs.rows, 0 < a.queueSequence) →
      ∃ jobs, (Queue.listAll s input).Returns (.ok jobs) ∧
        jobs.Pairwise (fun j k => j.queueSequence < k.queueSequence) ∧
        ∀ j, j ∈ jobs ↔ ∃ a ∈ s.db.pageJobs.rows, a.runId = input.runId ∧ rowToJob a = j ∧
          ∀ st, input.state = some st → j.state = st) ∧
    ∀ (project : Project) (createdAt : Timestamp) (es : List Event) (n : ℕ) (s : Call),
      s.db = dbAt env (Db.create project createdAt) es n →
      (∀ a ∈ s.db.pageJobs.rows, 0 < a.queueSequence) ∧
      ∀ input : QueueStatisticsInput, input.projectId = s.db.project.projectId →
        input.runId ∈ s.db.project.runs → assertUtcTimestamp input.asOf "asOf" = .ok () →
        ∃ stats, (Queue.getStatistics input).run s = .ok (stats, s) ∧
          (PageJobState.all.map stats.counter).sum = stats.total ∧
          ∀ limit, 1 ≤ limit → limit ≤ 200 → ∀ state : Option PageJobState,
            ∃ jobs, (Queue.listAll s ⟨input.projectId, input.runId, state, none, limit⟩).Returns (.ok jobs) ∧
              (state.elim stats.total stats.counter) = jobs.length := by
  refine ⟨fun s input h hpos => ⟨_, Queue.listAll_returns h hpos, Queue.matching_exact⟩, ?_⟩
  intro project createdAt es n s hs
  have hpos : ∀ a ∈ s.db.pageJobs.rows, 0 < a.queueSequence := by
    rw [hs]
    exact (numbered_run n).pos
  have hsound : Sound env.hashText s.db.pool := by
    rw [hs]
    exact sound_run n
  refine ⟨hpos, fun input hproject hrun hasOf => ?_⟩
  obtain ⟨discoveryCount, hstats⟩ := Queue.getStatistics_run hproject hrun hasOf
  have haside : ∀ a ∈ s.db.pageJobs.rows.filter fun a => a.runId == input.runId,
      a.recoveryState ≠ none → a.state = .processing := fun a ha =>
    hsound.aside _ _ (jobs_mem (List.mem_filter.1 ha).1)
  have hcounter := fun state => Queue.counter_eq input.asOf discoveryCount haside state
  refine ⟨_, hstats, ?_, fun limit hone hlimit state => ?_⟩
  · rw [funext hcounter]
    exact Queue.sum_listed _
  · refine ⟨_, Queue.listAll_returns ⟨hproject, hrun, hone, hlimit⟩ hpos, ?_⟩
    rw [List.length_map, Queue.matching_length]
    cases state with
    | none => exact (congrFun List.countP_true _).symm
    | some state => exact hcounter state

end OfflineWebArchiver
