import Mathlib.Logic.Relation
import OfflineWebArchiver.Lib.Fencing
import OfflineWebArchiver.Persistence.Types

/-!
# The life of page jobs, without the database

A `Pool` says of each job what decides who may work on it, and of each job the
active lease, if there is one. `Turn` is the state machine of one job, `Change`
lets one job of the pool turn and so lose its lease, `Grant` is a leased claim.

* `Sound`: **a lease stands only on a job in work, with its generation and token.**
* `Path.sound`, `Grant.sound`: every change keeps it.
* `Path.fencing`, `Grant.fencing`: the pool is a fencing protocol.
-/

namespace OfflineWebArchiver

open Relation Function

/-- What decides who may work on a job. -/
structure Job where
  run : String
  state : StoredState
  recovery : Option RecoveryState
  token : Option String
  attempts : ℕ
  maxAttempts : ℕ
  generation : ℕ

/-- What decides who holds an active lease. -/
structure Hold where
  run : String
  owner : String
  hash : String
  generation : ℕ

/-- The jobs and their active leases, by job id. -/
structure Pool where
  jobs : String → Option Job
  held : String → Option Hold

/-- The states that a job never leaves. -/
def StoredState.terminal : StoredState → Prop
  | completed | failed | skipped | blocked => True
  | _ => False

/-- A job goes on: it is claimed without a lease, ends, waits for a retry, or
returns to the queue with attempts left. -/
inductive Work (j : Job) : Job → Prop
  | claimed (t : String) (hs : j.state = .pending) (hr : j.recovery = none) :
      Work j { j with state := .processing, token := some t, attempts := j.attempts + 1 }
  | ended (target : StoredState) (ht : target.terminal)
      (hs : j.state = .pending ∨ j.state = .processing) (hr : j.recovery = none) :
      Work j { j with state := target, token := none }
  | retried (hs : j.state = .processing) (hr : j.recovery = none) (hlt : j.attempts < j.maxAttempts) :
      Work j { j with state := .retrying, token := none }
  | released (hs : j.state = .retrying) (hr : j.recovery = none)
      (hlt : j.attempts < j.maxAttempts) : Work j { j with state := .pending }
  | requeued (hs : j.state = .processing) (hr : j.recovery = none)
      (hlt : j.attempts < j.maxAttempts) : Work j { j with state := .pending, token := none }

/-- A job in work is set aside when its run pauses. -/
def Suspend (j j' : Job) : Prop :=
  j.state = .processing ∧ j.recovery = none ∧ j' = { j with recovery := some .paused }

/-- The job that `resumeRun` puts back into the queue. -/
def Job.resumed (j : Job) : Job := { j with state := .pending, recovery := none, token := none }

/-- A job that was set aside goes back into the queue. -/
def Resume (j j' : Job) : Prop := j.state = .processing ∧ j.recovery ≠ none ∧ j' = j.resumed

/-- The state machine of one job. -/
def Turn (j j' : Job) : Prop := Work j j' ∨ Suspend j j' ∨ Resume j j'

/-- A job that has just entered the queue. -/
structure Job.IsNew (j : Job) : Prop where
  state : j.state = .pending
  recovery : j.recovery = none
  attempts : j.attempts < j.maxAttempts
  generation : j.generation = 0

/-- The pool with job `k` set and without a lease on it. -/
def Pool.put (P : Pool) (k : String) (j : Job) : Pool where
  jobs := update P.jobs k (some j)
  held := update P.held k none

/-- The pool without a lease on job `k`. -/
def Pool.drop (P : Pool) (k : String) : Pool where
  jobs := P.jobs
  held := update P.held k none

variable {T : Job → Job → Prop} {hash : String → String} {P P' : Pool} {k : String} {j : Job}

/-- One job changes by `T`, enters, or loses its lease. -/
inductive Change (T : Job → Job → Prop) (P : Pool) : Pool → Prop
  | enqueued (k : String) (j : Job) (hk : P.jobs k = none) (hj : j.IsNew) : Change T P (P.put k j)
  | turned (k : String) (j j' : Job) (hk : P.jobs k = some j) (ht : T j j') : Change T P (P.put k j')
  | dropped (k : String) : Change T P (P.drop k)

/-- Any number of changes. -/
abbrev Path (T : Job → Job → Prop) : Pool → Pool → Prop := ReflTransGen (Change T)

/-- The claimed job. -/
def Job.leased (j : Job) (t : String) : Job :=
  { j with state := .processing, recovery := none, token := some t, attempts := j.attempts + 1
           generation := j.generation + 1 }

/-- Job `k` is claimed with token `t` under the lease `h`. -/
structure Grant (hash : String → String) (P : Pool) (k t : String) (h : Hold) (P' : Pool) : Prop where
  job : ∃ j, P.jobs k = some j ∧ j.state = .pending ∧ j.recovery = none ∧ j.attempts < j.maxAttempts ∧
    h.run = j.run ∧ h.generation = j.generation + 1 ∧ P'.jobs = update P.jobs k (some (j.leased t))
  held : P'.held = update P.held k (some h)
  hash : h.hash = hash t

/-- **The fencing invariant.** -/
structure Sound (hash : String → String) (P : Pool) : Prop where
  /-- Only a job in work is set aside. -/
  aside : ∀ k j, P.jobs k = some j → j.recovery ≠ none → j.state = .processing
  /-- A lease stands on a job in work. -/
  lease : ∀ k h, P.held k = some h → ∃ j, P.jobs k = some j ∧ j.state = .processing ∧
    j.recovery = none ∧ j.generation = h.generation ∧ j.run = h.run ∧
    ∃ t, j.token = some t ∧ hash t = h.hash

@[simp] theorem Pool.put_jobs_self (P : Pool) (k : String) (j : Job) : (P.put k j).jobs k = some j :=
  update_self ..

@[simp] theorem Pool.put_held_self (P : Pool) (k : String) (j : Job) : (P.put k j).held k = none :=
  update_self ..

theorem Pool.put_jobs_ne (P : Pool) {k k' : String} (j : Job) (h : k' ≠ k) :
    (P.put k j).jobs k' = P.jobs k' := update_of_ne h ..

theorem Pool.put_held_ne (P : Pool) {k k' : String} (j : Job) (h : k' ≠ k) :
    (P.put k j).held k' = P.held k' := update_of_ne h ..

/-- Setting a job twice is setting it once. -/
@[simp] theorem Pool.put_put (P : Pool) (k : String) (j j' : Job) :
    (P.put k j).put k j' = P.put k j' := by
  simp [Pool.put]

/-- A turn keeps the run, the generation and the bound of a job. -/
theorem Turn.keeps {j' : Job} (h : Turn j j') :
    j'.run = j.run ∧ j'.generation = j.generation ∧ j'.maxAttempts = j.maxAttempts := by
  rcases h with h | ⟨-, -, rfl⟩ | ⟨-, -, rfl⟩
  · cases h <;> exact ⟨rfl, rfl, rfl⟩
  · exact ⟨rfl, rfl, rfl⟩
  · exact ⟨rfl, rfl, rfl⟩

/-- After a turn only a job in work is set aside. -/
theorem Turn.aside {j' : Job} (h : Turn j j') (hr : j'.recovery ≠ none) : j'.state = .processing := by
  rcases h with h | ⟨hs, -, rfl⟩ | ⟨-, -, rfl⟩
  · cases h with
    | claimed => rfl
    | ended _ _ _ hn => exact absurd hn hr
    | retried _ hn => exact absurd hn hr
    | released _ hn => exact absurd hn hr
    | requeued _ hn => exact absurd hn hr
  · exact hs
  · exact absurd rfl hr

/-- A lease that survives a change stands on an unchanged job. -/
theorem Change.frame (h : Change T P P') (k : String) :
    (P'.jobs k = P.jobs k ∧ P'.held k = P.held k) ∨ P'.held k = none := by
  cases h with
  | enqueued k' j hk hj =>
    by_cases hkk : k = k'
    · subst hkk; exact Or.inr (P.put_held_self ..)
    · exact Or.inl ⟨P.put_jobs_ne _ hkk, P.put_held_ne _ hkk⟩
  | turned k' j j' hk ht =>
    by_cases hkk : k = k'
    · subst hkk; exact Or.inr (P.put_held_self ..)
    · exact Or.inl ⟨P.put_jobs_ne _ hkk, P.put_held_ne _ hkk⟩
  | dropped k' =>
    by_cases hkk : k = k'
    · subst hkk; exact Or.inr (update_self ..)
    · exact Or.inl ⟨rfl, update_of_ne hkk ..⟩

/-- What holds of every new job and is kept by every turn holds along a path. -/
theorem Change.forall_jobs {I : String → Job → Prop} (h : Change T P P')
    (hnew : ∀ k j, j.IsNew → I k j) (hT : ∀ k j j', P.jobs k = some j → T j j' → I k j → I k j')
    (hP : ∀ k j, P.jobs k = some j → I k j) : ∀ k j, P'.jobs k = some j → I k j := by
  intro k j hj
  cases h with
  | enqueued k' j₀ hk hj₀ =>
    by_cases hkk : k = k'
    · subst hkk
      rw [P.put_jobs_self] at hj
      obtain rfl := Option.some.inj hj
      exact hnew k j₀ hj₀
    · rw [P.put_jobs_ne _ hkk] at hj; exact hP k j hj
  | turned k' j₀ j₁ hk ht =>
    by_cases hkk : k = k'
    · subst hkk
      rw [P.put_jobs_self] at hj
      obtain rfl := Option.some.inj hj
      exact hT k j₀ j₁ hk ht (hP k j₀ hk)
    · rw [P.put_jobs_ne _ hkk] at hj; exact hP k j hj
  | dropped k' => exact hP k j hj

/-- **Every change keeps the pool sound.** -/
theorem Change.sound (hT : ∀ j j', T j j' → Turn j j') (h : Change T P P') (hP : Sound hash P) :
    Sound hash P' where
  aside := h.forall_jobs (fun _ _ hj hr => absurd hj.recovery hr)
    (fun _ _ _ _ ht _ => (hT _ _ ht).aside) hP.aside
  lease k l hl := by
    rcases h.frame k with ⟨hjobs, hheld⟩ | hnone
    · rw [hjobs]; exact hP.lease k l (hheld ▸ hl)
    · rw [hnone] at hl; cases hl

theorem Path.sound (hT : ∀ j j', T j j' → Turn j j') (h : Path T P P') (hP : Sound hash P) :
    Sound hash P' := by
  induction h with
  | refl => exact hP
  | tail _ hc ih => exact hc.sound hT ih

/-- A path keeps every job, with its run and its generation. -/
theorem Path.job (hT : ∀ j j', T j j' → Turn j j') (h : Path T P P') (hj : P.jobs k = some j) :
    ∃ j', P'.jobs k = some j' ∧ j'.run = j.run ∧ j'.generation = j.generation ∧
      j'.maxAttempts = j.maxAttempts := by
  induction h with
  | refl => exact ⟨j, hj, rfl, rfl, rfl⟩
  | @tail Q Q' _ hc ih =>
    obtain ⟨j₁, hj₁, hrun, hgen, hmax⟩ := ih
    cases hc with
    | enqueued k' j₀ hk _ =>
      have hkk : k ≠ k' := by rintro rfl; rw [hj₁] at hk; cases hk
      exact ⟨j₁, (Q.put_jobs_ne _ hkk).trans hj₁, hrun, hgen, hmax⟩
    | turned k' j₀ j₂ hk ht =>
      by_cases hkk : k = k'
      · subst hkk
        rw [hj₁] at hk
        obtain rfl := Option.some.inj hk
        obtain ⟨h1, h2, h3⟩ := (hT _ _ ht).keeps
        exact ⟨j₂, Q.put_jobs_self .., h1.trans hrun, h2.trans hgen, h3.trans hmax⟩
      · exact ⟨j₁, (Q.put_jobs_ne _ hkk).trans hj₁, hrun, hgen, hmax⟩
    | dropped k' => exact ⟨j₁, hj₁, hrun, hgen, hmax⟩

/-- Along a path no lease appears. -/
theorem Path.held (h : Path T P P') (k : String) :
    (P'.jobs k = P.jobs k ∧ P'.held k = P.held k) ∨ P'.held k = none := by
  induction h with
  | refl => exact Or.inl ⟨rfl, rfl⟩
  | tail _ hc ih =>
    rcases hc.frame k with ⟨hj, hh⟩ | hn
    · rcases ih with ⟨hj', hh'⟩ | hn'
      · exact Or.inl ⟨hj.trans hj', hh.trans hh'⟩
      · exact Or.inr (hh.trans hn')
    · exact Or.inr hn

/-- What holds of every new job and is kept by every turn holds along a path. -/
theorem Path.forall_jobs {I : String → Job → Prop} (h : Path T P P')
    (hnew : ∀ k j, j.IsNew → I k j) (hT : ∀ k j j', T j j' → I k j → I k j')
    (hP : ∀ k j, P.jobs k = some j → I k j) : ∀ k j, P'.jobs k = some j → I k j := by
  induction h with
  | refl => exact hP
  | tail _ hc ih => exact hc.forall_jobs hnew (fun k j j' _ => hT k j j') ih

theorem Change.mono {T' : Job → Job → Prop} (hT : ∀ j j', T j j' → T' j j') (h : Change T P P') :
    Change T' P P' := by
  cases h with
  | enqueued k j hk hj => exact .enqueued k j hk hj
  | turned k j j' hk ht => exact .turned k j j' hk (hT _ _ ht)
  | dropped k => exact .dropped k

/-- A path by some turns is a path by more. -/
theorem Path.mono {T' : Job → Job → Prop} (hT : ∀ j j', T j j' → T' j j') (h : Path T P P') :
    Path T' P P' := by
  induction h with
  | refl => exact .refl
  | tail _ hc ih => exact ih.tail (hc.mono hT)

theorem Grant.sound {t : String} {h : Hold} (hg : Grant hash P k t h P') (hP : Sound hash P) :
    Sound hash P' := by
  obtain ⟨⟨j, hj, hs, hr, -, hrun, hgen, hjobs⟩, hheld, hhash⟩ := hg
  constructor
  · intro k' j' hj' hr'
    rw [hjobs] at hj'
    by_cases hkk : k' = k
    · subst hkk
      rw [update_self] at hj'
      obtain rfl := Option.some.inj hj'
      rfl
    · rw [update_of_ne hkk] at hj'; exact hP.aside k' j' hj' hr'
  · intro k' h' hh'
    rw [hheld] at hh'
    rw [hjobs]
    by_cases hkk : k' = k
    · subst hkk
      rw [update_self] at hh'
      obtain rfl := Option.some.inj hh'
      exact ⟨j.leased t, update_self .., rfl, rfl, hgen.symm, hrun.symm, t, rfl, hhash.symm⟩
    · rw [update_of_ne hkk] at hh'
      obtain ⟨j', hj', rest⟩ := hP.lease k' h' hh'
      exact ⟨j', (update_of_ne hkk ..).trans hj', rest⟩

/-- The pool as a fencing protocol: a holder has its lease and the job's token. -/
def Pool.fencing (P : Pool) : Fencing.State String (Hold × Option String) where
  generation k := (P.jobs k).elim 0 (·.generation)
  holder k := (P.held k).map fun h => (h, (P.jobs k).bind (·.token))

theorem Change.generation (hT : ∀ j j', T j j' → Turn j j') (h : Change T P P') (k : String) :
    P'.fencing.generation k = P.fencing.generation k := by
  show (P'.jobs k).elim 0 _ = (P.jobs k).elim 0 _
  cases h with
  | enqueued k' j hk hj =>
    by_cases hkk : k = k'
    · subst hkk; rw [P.put_jobs_self, hk]; exact hj.generation
    · rw [P.put_jobs_ne _ hkk]
  | turned k' j j' hk ht =>
    by_cases hkk : k = k'
    · subst hkk; rw [P.put_jobs_self, hk]; exact (hT _ _ ht).keeps.2.1
    · rw [P.put_jobs_ne _ hkk]
  | dropped k' => rfl

/-- A path only drops holders. -/
theorem Path.fencing (hT : ∀ j j', T j j' → Turn j j') (h : Path T P P') :
    Fencing.Move P.fencing none P'.fencing := by
  refine .drop (fun k => ?_) fun k => ?_
  · induction h with
    | refl => rfl
    | tail _ hc ih => exact (hc.generation hT k).trans ih
  · show (P'.held k).map _ = (P.held k).map _ ∨ (P'.held k).map _ = none
    rcases h.held k with ⟨hj, hh⟩ | hn
    · rw [hj, hh]; exact Or.inl rfl
    · rw [hn]; exact Or.inr rfl

/-- A leased claim is a grant. -/
theorem Grant.fencing {t : String} {h : Hold} (hg : Grant hash P k t h P') :
    Fencing.Move P.fencing (some (k, (h, some t))) P'.fencing := by
  obtain ⟨⟨j, hj, -, -, -, -, -, hjobs⟩, hheld, -⟩ := hg
  refine .grant k _ ?_ ?_ fun k' hk' => ⟨?_, ?_⟩
  · show (P'.jobs k).elim 0 _ = (P.jobs k).elim 0 _ + 1
    rw [hjobs, update_self, hj]; rfl
  · show (P'.held k).map _ = _
    rw [hheld, hjobs, update_self, update_self]; rfl
  · show (P'.jobs k').elim 0 _ = (P.jobs k').elim 0 _
    rw [hjobs, update_of_ne hk']
  · show (P'.held k').map _ = (P.held k').map _
    rw [hheld, hjobs, update_of_ne hk', update_of_ne hk']

end OfflineWebArchiver
