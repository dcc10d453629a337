import OfflineWebArchiver.Locks.ContentLock
import OfflineWebArchiver.Locks.ProjectLock
import OfflineWebArchiver.Locks.VaultLock

/-!
# Does the project lock exclude

* `project_lock_run`: it does in every run in which a takeover finds the file that it read.
* `lateTakeover_held`: it does not when two contenders have read the same stale lock.
-/

namespace OfflineWebArchiver.ProjectLock

/-- A start of the system: nothing runs but at most one call that holds the lock. There may
be a lock file, left by anybody. -/
structure Initial (s : State) : Prop where
  apart : ∀ p ∈ s.alive, p ∉ s.exited
  fresh : ∀ f ∈ s.file, f.inode < s.fresh
  calls : ∀ c, s.pc c = .idle ∨ c.proc ∈ s.alive ∧ ∃ inode, ∃ r : LockRecord,
    s.pc c = .held inode r ∧ s.file = some ⟨inode, some r⟩ ∧ r.hostname = c.proc.hostname ∧
      r.pid = c.proc.pid
  one : ∀ c d, s.pc c ≠ .idle → s.pc d ≠ .idle → c = d

/-- The lock excludes: the file of a live holder is at the path, as its holder has left it,
and no other call holds a file. A call holds its file from the creation to the removal. -/
def Exclusive (s : State) : Prop :=
  ∀ c f, s.owns c = some f → s.file = some f ∧ ∀ d g, s.owns d = some g → d = c

theorem Initial.invariant {s : State} (h : Initial s) : Invariant s := by
  have howns : ∀ c f, s.owns c = some f → s.pc c ≠ .idle ∧ s.file = some f := by
    intro c f hc
    unfold State.owns at hc
    split_ifs at hc
    rcases h.calls c with hi | ⟨-, inode, r, hpc, hf, -⟩
    · rw [hi] at hc; cases hc
    · rw [hpc] at hc
      exact ⟨by rw [hpc]; simp, by rw [hf, ← Option.some.inj hc]⟩
  have hpc : ∀ c, (∀ i r, s.pc c ≠ .check i r) ∧ ∀ i, s.pc c ≠ .unlink i := by
    intro c
    rcases h.calls c with hi | ⟨-, inode, r, hp, -⟩
    · simp [hi]
    · simp [hp]
  refine ⟨⟨fun c i hc => ?_, fun i hi => ?_, fun c d i hc hd => ?_⟩, fun c f hc => (howns c f hc).2,
    fun c r hr => ?_, fun c i r hc => absurd hc ((hpc c).1 i r), fun c i hc => absurd hc ((hpc c).2 i),
    fun c hc => ?_, h.apart⟩
  · obtain ⟨f, hf, rfl⟩ := Option.map_eq_some_iff.1 hc
    simp [State.lock, (howns c f hf).2]
  · obtain ⟨f, hf, rfl⟩ := Option.map_eq_some_iff.1 hi
    exact h.fresh f hf
  · obtain ⟨f, hf, -⟩ := Option.map_eq_some_iff.1 hc
    obtain ⟨g, hg, -⟩ := Option.map_eq_some_iff.1 hd
    exact h.one c d (howns c f hf).1 (howns d g hg).1
  · rcases h.calls c with hi | ⟨-, inode, r', hp, -, hname⟩
    · rw [hi] at hr; cases hr
    · rw [hp] at hr
      rw [← Option.some.inj hr]
      exact hname
  · rcases h.calls c with hi | ⟨ha, -⟩
    · exact absurd hi hc
    · exact Or.inl ha

theorem Invariant.exclusive {s : State} (h : Invariant s) : Exclusive s :=
  fun c f hc => ⟨h.written c f hc, fun _ _ hd => h.unique hc hd⟩

/-- **The project lock excludes** at every point of a run in which no takeover unlinks
another file than the one it read. -/
theorem project_lock_run {s₀ : State} {es : List Event} (hs : Initial s₀)
    (hes : Run.Meets step s₀ TakesReadFile es) (n : ℕ) : Exclusive (Run.stAt step s₀ es n) :=
  (Run.stAt_induction hs.invariant (fun n e he h => step_invariant h (hes n e he)) n).exclusive

/-! ### Runs from a stale lock -/

def first : Call := ⟨⟨"h", 1, 0⟩, 0⟩
def second : Call := ⟨⟨"h", 2, 0⟩, 0⟩

/-- Two processes, and the lock file of a third one that is gone. -/
def staleStart : State :=
  { file := some ⟨0, some ⟨0, 3, "h"⟩⟩, fresh := 1, alive := [first.proc, second.proc],
    exited := [⟨"h", 3, 0⟩], pc := fun _ => .idle }

theorem staleStart_initial : Initial staleStart :=
  ⟨by decide, by decide, fun _ => Or.inl rfl, fun _ _ hc => absurd rfl hc⟩

/-- The first call takes the stale lock over and releases it, then the second one takes it. -/
def takeoverRun : List Event :=
  [Event.acquire first] ++ List.replicate 6 (Event.next first) ++ [Event.acquire second, .next second] ++
    [Event.release first, .next first, .next first] ++ List.replicate 2 (Event.next second)

/-- A takeover, to which the condition applies. -/
theorem project_lock_run_takeoverRun : Exclusive (Run.stAt step staleStart takeoverRun 7) :=
  project_lock_run staleStart_initial (by decide) 7

/-- Both calls read the stale lock; the first takes it over, then the second unlinks the
file of the first. -/
def lateTakeover : List Event :=
  [Event.acquire first, .acquire second] ++ List.replicate 3 (Event.next first) ++
    List.replicate 3 (Event.next second) ++ List.replicate 3 (Event.next first) ++
    List.replicate 3 (Event.next second)

/-- **Two live processes hold the lock**, and the file of the first is gone. -/
theorem lateTakeover_held :
    Initial staleStart ∧
      (Run.stAt step staleStart lateTakeover 14).alive = [first.proc, second.proc] ∧
      (Run.stAt step staleStart lateTakeover 14).pc first = .held 1 ⟨1, 1, "h"⟩ ∧
      (Run.stAt step staleStart lateTakeover 14).pc second = .held 2 ⟨2, 2, "h"⟩ ∧
      (Run.stAt step staleStart lateTakeover 14).file = some ⟨2, some ⟨2, 2, "h"⟩⟩ :=
  ⟨staleStart_initial, by decide⟩

end OfflineWebArchiver.ProjectLock

/-!
## Does the vault lock exclude

* `vault_lock_run`: it does, and no commit is lost, in every run in which no lock in use is
  judged stale and a takeover finds the file that it judged.
* `slowHolder_inside`: it does not otherwise.
-/

namespace OfflineWebArchiver.VaultLock

/-- A start of the system: no mutation runs. There may be a lock file, left by anybody. -/
structure Initial (s : State) : Prop where
  calls : ∀ c, s.pc c = .idle
  fresh : ∀ f ∈ s.file, f.inode < s.fresh
  commits : s.commits = 0
  apart : ∀ p ∈ s.alive, p ∉ s.exited

/-- The lock excludes: the file at the path is that of the live call that holds the lock,
from the creation to the removal, and there is one such call at most. -/
def Exclusive (s : State) : Prop :=
  ∀ c i, s.owns c = some i →
    (∃ f, s.file = some f ∧ f.inode = i ∧ f.creator = c) ∧ ∀ d j, s.owns d = some j → d = c

/-- No committed update is lost. -/
def Complete (s : State) : Prop := ∀ k < s.commits, k ∈ s.document.updates

theorem Initial.invariant {s : State} (h : Initial s) : Invariant s := by
  have howns : ∀ c i, s.owns c ≠ some i := by
    intro c i hc
    unfold State.owns at hc
    rw [h.calls c] at hc
    split_ifs at hc
    cases hc
  refine ⟨⟨fun c i hc => absurd hc (howns c i), fun i hi => ?_, fun c d i hc => absurd hc (howns c i)⟩,
    fun f hf d hd => absurd hd (howns d _), fun c f hc => ?_, fun c i hc => ?_,
    fun c i disk ha hc => ?_, fun k hk => ?_, fun c hc => absurd (h.calls c) hc, h.apart⟩
  · obtain ⟨f, hf, rfl⟩ := Option.map_eq_some_iff.1 hi
    exact h.fresh f hf
  · rw [h.calls c] at hc; cases hc
  · rw [h.calls c] at hc; cases hc
  · rw [h.calls c] at hc; cases hc
  · rw [h.commits] at hk
    exact absurd hk (Nat.not_lt_zero k)

theorem Invariant.exclusive {s : State} (h : Invariant s) : Exclusive s := by
  intro c i hc
  refine ⟨?_, fun d j hd => h.unique hc hd⟩
  obtain ⟨f, hf, rfl⟩ := Option.map_eq_some_iff.1 (h.sound.placed c i hc)
  exact ⟨f, hf, rfl, (h.created f hf c hc).symm⟩

/-- **The vault lock excludes and no commit is lost** at every point of a run in which no
lock in use is judged stale and every takeover finds the file that it judged. -/
theorem vault_lock_run {s₀ : State} {es : List Event} (hs : Initial s₀)
    (hes : Run.Meets step s₀ KeepsLocks es) (n : ℕ) :
    Exclusive (Run.stAt step s₀ es n) ∧ Complete (Run.stAt step s₀ es n) := by
  have hinv : Invariant (Run.stAt step s₀ es n) :=
    Run.stAt_induction hs.invariant (fun n e he h => step_invariant h (hes n e he)) n
  exact ⟨hinv.exclusive, hinv.kept⟩

/-! ### Runs of two processes -/

def first : Call := ⟨⟨1, 0⟩, 0⟩
def second : Call := ⟨⟨2, 0⟩, 0⟩

/-- Two processes that have unlocked the same vault, and perhaps a lock file. -/
def start (file : Option LockFile) : State :=
  { file := file, fresh := 1, clock := 0, document := ⟨0, []⟩, commits := 0
    alive := [first.proc, second.proc], exited := [⟨3, 0⟩], inProcess := fun _ => false
    generation := fun _ => 0, pc := fun _ => .idle }

/-- The lock file of a third process that is gone. -/
def abandoned : LockFile := ⟨0, 0, ⟨⟨3, 0⟩, 0⟩⟩

theorem start_initial : Initial (start none) ∧ Initial (start (some abandoned)) :=
  ⟨⟨fun _ => rfl, nofun, rfl, by decide⟩, ⟨fun _ => rfl, by decide, rfl, by decide⟩⟩

/-- The first call takes the abandoned lock over, commits and releases it. -/
def takeoverRun : List Event :=
  [Event.tick 300001, .mutate first] ++ List.replicate 11 (Event.next first)

/-- A takeover, to which the condition applies. -/
theorem vault_lock_run_takeoverRun :
    Exclusive (Run.stAt step (start (some abandoned)) takeoverRun 10) ∧
      Complete (Run.stAt step (start (some abandoned)) takeoverRun 10) :=
  vault_lock_run start_initial.2 (by decide) 10

/-- The first call is slow: the second one takes its lock over, and both commit. -/
def slowHolder : List Event :=
  [Event.mutate first] ++ List.replicate 4 (Event.next first) ++ [Event.tick 300001, .mutate second] ++
    List.replicate 8 (Event.next second) ++ [Event.next first, .next second, .next first, .next first]

/-- **Both calls are inside**, the update of the first one is lost, and its release removes
the file of the second one, which is still inside. -/
theorem slowHolder_inside :
    Initial (start none) ∧
      ((Run.stAt step (start none) slowHolder 15).pc first).inside ∧
      ((Run.stAt step (start none) slowHolder 15).pc second).inside ∧
      (Run.stAt step (start none) slowHolder 17).commits = 2 ∧
      (Run.stAt step (start none) slowHolder 17).document.updates = [1] ∧
      (Run.stAt step (start none) slowHolder 18).pc first = .release 1 ∧
      (Run.stAt step (start none) slowHolder 18).file = some ⟨2, 300001, second⟩ ∧
      (Run.stAt step (start none) slowHolder 19).file = none ∧
      ((Run.stAt step (start none) slowHolder 19).pc second).inside :=
  ⟨start_initial.1, by decide⟩

end OfflineWebArchiver.VaultLock

/-!
## Does the content lock exclude, and is it given back

* `contentLock_run`: in every run one call at most has the lock and a release removes its own file;
  no file of a failed call stays as long as no record of a new file is lost.
* `lostRecord_blocks`: a call whose record cannot be written leaves a file that blocks all others.
-/

namespace OfflineWebArchiver.ContentLock

variable {A : Type} [DecidableEq A]

/-- A start of the system: no call has begun. There may be a lock file, left by anybody. -/
structure Initial (s : State A) : Prop where
  fresh : ∀ f ∈ s.file, f.inode < s.fresh
  idle : ∀ c, s.pc c = .idle

omit [DecidableEq A] in
theorem Initial.invariant {s : State A} (h : Initial s) : Invariant s := by
  refine ⟨⟨fun c i hc => ?_, fun i hi => ?_, fun c d i hc => ?_⟩, fun c e i hc => ?_⟩
  · simp only [State.lock, h.idle c] at hc
    cases hc
  · obtain ⟨f, hf, rfl⟩ := Option.map_eq_some_iff.1 hi
    exact h.fresh f hf
  · simp only [State.lock, h.idle c] at hc
    cases hc
  · rw [h.idle c] at hc
    cases hc

omit [DecidableEq A] in
theorem Initial.clean {s : State A} (h : Initial s) : Clean s := by
  intro c e i f hc
  rw [h.idle c] at hc
  cases hc

/-- A step that removes the file is the release of the call that has created it. -/
theorem step_removes {s : State A} {ev : Event A} {f : LockFile} (h : Invariant s) (hf : s.file = some f)
    (hf' : (step s ev).file = none) : ∃ c, ev = .next c ∧ s.pc c = .releaseUnlink f.inode := by
  have heffect : Effect s ev (step s ev) := step_effect
  generalize step s ev = s' at heffect hf'
  cases heffect with
  | none hfile => rw [hfile, hf] at hf'; cases hf'
  | move a pc _ hfile => rw [hf', hf] at hfile; cases hfile
  | create a hfile => rw [hf] at hfile; cases hfile
  | remove a i hev hat =>
    have hplaced : s.lock.file = some i := h.sound.placed a i (by simp only [State.lock, hat]; rfl)
    simp only [State.lock, hf, Option.map_some, Option.some.injEq] at hplaced
    exact ⟨a, hev, by rw [hat, hplaced]⟩
  | lose a i e _ _ hfile => rw [hfile, hf] at hf'; cases hf'

section Run

variable {s₀ : State A} {es : List (Event A)} (hs : Initial s₀)

include hs

theorem run_invariant (n : ℕ) : Invariant (Run.stAt step s₀ es n) :=
  Run.stAt_induction hs.invariant (fun _ _ _ h => step_invariant h) n

theorem run_clean (hes : Run.Meets step s₀ KeepsRecord es) (n : ℕ) : Clean (Run.stAt step s₀ es n) := by
  refine (Run.stAt_induction (P := fun s => Invariant s ∧ Clean s) ⟨hs.invariant, hs.clean⟩ ?_ n).2
  intro n ev hev h
  exact ⟨step_invariant h.1, step_clean h.1 h.2 (hes n ev hev)⟩

/-- **The content lock.** At every point of every run one call at most has created a file and not given
it up, that file is at the path, and only its own call removes it. No file of a failed acquisition is
ever at the path exactly when every new file gets its record; once one is there it stays, and no call
gets the lock. -/
theorem contentLock_run :
    (∀ n c d, ((Run.stAt step s₀ es n).pc c).owned ≠ none → ((Run.stAt step s₀ es n).pc d).owned ≠ none → c = d) ∧
    (∀ n ev f, es[n]? = some ev → (Run.stAt step s₀ es n).file = some f → (Run.stAt step s₀ es (n + 1)).file = none →
      ∃ c, ev = .next c ∧ (Run.stAt step s₀ es n).pc c = .releaseUnlink f.inode) ∧
    ((∀ n, Clean (Run.stAt step s₀ es n)) ↔ Run.Meets step s₀ KeepsRecord es) ∧
    ∀ m n, m ≤ n → Stuck (Run.stAt step s₀ es m) →
      Stuck (Run.stAt step s₀ es n) ∧ ∀ c, ((Run.stAt step s₀ es n).pc c).owned = none := by
  have hinv : ∀ n, Invariant (Run.stAt step s₀ es n) := run_invariant hs
  refine ⟨fun n c d hc hd => ?_, fun n ev f hev hf hf' => ?_, ⟨fun hclean n ev hev => ?_, run_clean hs⟩,
    fun m n hmn hstuck => ?_⟩
  · obtain ⟨i, hi⟩ := Option.ne_none_iff_exists'.1 hc
    obtain ⟨j, hj⟩ := Option.ne_none_iff_exists'.1 hd
    exact (hinv n).sound.unique hi hj
  · rw [Run.stAt_succ hev] at hf'
    exact step_removes (hinv n) hf hf'
  · by_contra hlost
    obtain ⟨c, e, f, hc, hf⟩ := step_lost (hinv n) hlost
    have hnext : Run.stAt step s₀ es (n + 1) = step (Run.stAt step s₀ es n) ev := Run.stAt_succ hev
    rw [← hnext] at hc hf
    exact hclean (n + 1) c e f.inode f hc hf rfl
  · have hstays : Stuck (Run.stAt step s₀ es n) := by
      have hrel : Invariant (Run.stAt step s₀ es m) → Stuck (Run.stAt step s₀ es m) →
          Invariant (Run.stAt step s₀ es n) ∧ Stuck (Run.stAt step s₀ es n) :=
        Run.stAt_trans (r := fun s t => Invariant s → Stuck s → Invariant t ∧ Stuck t) (fun s h hs => ⟨h, hs⟩)
          (fun s t u hst htu h hs => htu (hst h hs).1 (hst h hs).2)
          (fun n ev _ h hs => ⟨step_invariant h, step_stuck h hs⟩) hmn
      exact (hrel (hinv m) hstuck).2
    exact ⟨hstays, hstays.owned (hinv n)⟩

end Run

/-! ### A record that is lost -/

/-- No lock file and no call. -/
def emptyStart : State ℕ := { file := none, fresh := 0, aborted := fun _ => false, pc := fun _ => .idle }

theorem emptyStart_initial : Initial emptyStart := ⟨nofun, fun _ => rfl⟩

/-- The first call creates the file, and its record cannot be written; then the second call begins. -/
def lostRecord : List (Event ℕ) :=
  [.acquire 0, .next 0, .next 0, .next 0, .fault 0, .acquire 1, .next 1, .next 1, .next 1]

theorem lostRecord_blocks : (Run.stAt step emptyStart lostRecord 9).pc 0 = .failed .couldNotBeAcquired (some 0) ∧
    (Run.stAt step emptyStart lostRecord 9).file = some ⟨0, false⟩ ∧
    (Run.stAt step emptyStart lostRecord 9).pc 1 = .wait 0 ∧
    ¬∀ n, Clean (Run.stAt step emptyStart lostRecord n) := by
  have hpc : (Run.stAt step emptyStart lostRecord 9).pc 0 = .failed .couldNotBeAcquired (some 0) := by decide
  have hfile : (Run.stAt step emptyStart lostRecord 9).file = some ⟨0, false⟩ := by decide
  exact ⟨hpc, hfile, by decide, fun hclean => hclean 9 0 _ 0 _ hpc hfile rfl⟩

theorem lostRecord_run : (∀ n, Clean (Run.stAt step emptyStart lostRecord n)) ↔
    Run.Meets step emptyStart KeepsRecord lostRecord :=
  (contentLock_run emptyStart_initial).2.2.1

end OfflineWebArchiver.ContentLock
