import OfflineWebArchiver.Lifecycle.Outcome
import OfflineWebArchiver.Lifecycle.RunHistory
import OfflineWebArchiver.Properties.Sample

/-!
# The history of a job

What `getHistory` returns as the transitions of a job is a path through the table of allowed
transitions, from the creation of the job to its current state.

* `history_run`: **at every point of every run, the history of every job is a valid path.**
-/

namespace OfflineWebArchiver

/-- The transitions of a job in the order of their sequence numbers. -/
def historyOf (db : Db) (jobId : String) : List PageJobTransition :=
  (db.jobTransitions.rows.filter (·.jobId == jobId)).map rowToTransition

/-- The history begins with the creation of the job, goes on as the table of transitions allows,
each transition where the one before has ended, and ends in the state. -/
structure ValidPath (history : List PageJobTransition) (state : PageJobState) : Prop where
  first : ∃ t, history.head? = some t ∧ t.fromState = none ∧ t.toState = .pending
  linked : history.IsChain fun t u => u.fromState = some t.toState
  allowed : ∀ t ∈ history, ∀ source, t.fromState = some source → canTransition source t.toState = true
  last : ∃ t, history.getLast? = some t ∧ t.toState = state

/-- The log of a job shows its history. -/
theorem log_eq (db : Db) (jobId : String) :
    db.books.journal.log jobId = (historyOf db jobId).map fun t => (t.fromState, t.toState) := by
  unfold historyOf
  rw [List.map_map]
  rfl

/-- A trail from nothing to the state of a job is a valid path. -/
theorem validPath_of_trail {history : List PageJobTransition} {state : PageJobState}
    (h : Trail JobMove none (history.map fun t => (t.fromState, t.toState)) (some state)) :
    ValidPath history state := by
  cases history with
  | nil => cases h
  | cons t history =>
    have hfirst : t.fromState = none := h.first _ rfl
    have hallowed := h.allowed
    refine ⟨⟨t, rfl, hfirst, ?_⟩, ?_, fun u hu source hsource => ?_, ?_⟩
    · have hmove := hallowed (t.fromState, t.toState) (by simp)
      rw [hfirst] at hmove
      exact hmove
    · exact List.isChain_map _ |>.1 h.linked
    · have hmove := hallowed _ (List.mem_map.2 ⟨u, hu, rfl⟩)
      rw [hsource] at hmove
      exact hmove
    · have hlast := h.last
      rw [List.getLast?_map, List.getLast?_eq_some_getLast (List.cons_ne_nil t history)] at hlast
      exact ⟨_, List.getLast?_eq_some_getLast (List.cons_ne_nil t history), Option.some.inj hlast⟩

/-- The books are valid at every point of a run. -/
theorem books_run (env : Env) (project : Project) (createdAt : Timestamp) (es : List Event) (n : ℕ) :
    (storeAt env project createdAt es n).books.journal.Valid JobMove :=
  Run.stAt_induction (P := fun db : Db => db.books.journal.Valid JobMove) (fun _ => .nil _)
    (fun m e _ h => (step_logged e (sound_run m)).valid h) n

/-- **The history of a job is a valid path to its current state.** -/
theorem history_run (env : Env) (project : Project) (createdAt : Timestamp) (es : List Event) (n : ℕ)
    (a : PageJobRow) (ha : a ∈ (storeAt env project createdAt es n).pageJobs.rows) :
    ValidPath (historyOf (storeAt env project createdAt es n) a.jobId) (rowToJob a).state := by
  have htrail := books_run env project createdAt es n a.jobId
  have hstate : (storeAt env project createdAt es n).books.journal.state a.jobId =
      some (rowToJob a).state := Relational.Index.lookup_mem ha rfl
  rw [log_eq, hstate] at htrail
  exact validPath_of_trail htrail

/-- A job is leased, its owner ends, and recovery puts it back. -/
def recoveredRun : List Event :=
  [Sample.event 0 "j" (Sample.enqueue 'a' 3 "enqueue-key"),
    Sample.event 1 "c" (Sample.claimWithLease "w" "claim-key-1"),
    Sample.event 9 "v" (Sample.recover 9 "recover-key")]

set_option maxRecDepth 100000 in
theorem recoveredRun_lengths :
    ((storeAt Sample.env Sample.project (Sample.minute 0) recoveredRun 3).pageJobs.rows.map fun a =>
      (historyOf (storeAt Sample.env Sample.project (Sample.minute 0) recoveredRun 3) a.jobId).length) =
      [4] := by
  rw [Sample.env_eq]
  decide +kernel

/-- Only recovery leads from an interrupted job back to the queue. -/
example : PageJobState.isStored .interrupted = false ∧ canTransition .interrupted .pending = true := by
  decide +kernel

theorem history_run_recoveredRun :
    ∃ a ∈ (storeAt Sample.env Sample.project (Sample.minute 0) recoveredRun 3).pageJobs.rows,
      (historyOf (storeAt Sample.env Sample.project (Sample.minute 0) recoveredRun 3) a.jobId).length = 4 ∧
        ValidPath (historyOf (storeAt Sample.env Sample.project (Sample.minute 0) recoveredRun 3) a.jobId)
          (rowToJob a).state := by
  have hmem : 4 ∈ _ := recoveredRun_lengths ▸ List.mem_singleton_self 4
  obtain ⟨a, ha, hlength⟩ := List.mem_map.1 hmem
  exact ⟨a, ha, hlength,
    history_run Sample.env Sample.project (Sample.minute 0) recoveredRun 3 a ha⟩

end OfflineWebArchiver
