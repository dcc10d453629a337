import OfflineWebArchiver.Lib.LockFile
import OfflineWebArchiver.Lib.Run

/-!
# The content lock

`acquireContentLock` and `release` for one content hash, in any number of calls, one atomic file
operation after the other.

* `step`: the next operation of one call, a failure of it, an abort.
* `Invariant`, `step_invariant`: the file of every holder is at the path, and it is nobody else's.
* `Clean`, `step_clean`: no file of a failed call is at the path, as long as no new file is lost.
* `Stuck`, `step_stuck`: once such a file is there it stays, and no call gets the lock.
-/

namespace OfflineWebArchiver.ContentLock

variable {A : Type}

/-- What `acquireContentLock` throws: `ASSET_CANCELLED`, `ASSET_CONTENT_LOCKED` with two texts, or an
error of the path. -/
inductive AcquireError
  | cancelled
  | couldNotBeAcquired
  | remainedHeld
  | path
deriving DecidableEq

/-- Where a call stands. The file operation named is the next one, `attempt` is the counter of the
loop, and `inode` is the file that the call has created. -/
inductive Pc
  | idle
  /-- The directory of the locks and the path. -/
  | prepare
  /-- The head of the loop. -/
  | loop (attempt : ℕ)
  /-- `open(lockPath, "wx")`. -/
  | create (attempt : ℕ)
  /-- `waitForLock(signal)`, after EEXIST. -/
  | wait (attempt : ℕ)
  /-- `lockHandle.writeFile(...)`. -/
  | write (inode : ℕ)
  /-- `lockHandle.sync()`. -/
  | sync (inode : ℕ)
  /-- The lock is returned. -/
  | held (inode : ℕ)
  /-- `lstat(lockPath)` of `release`. -/
  | releaseStat (inode : ℕ)
  /-- `unlink(lockPath)` of `release`. -/
  | releaseUnlink (inode : ℕ)
  | released
  /-- `release` has thrown. -/
  | releaseFailed (inode : ℕ)
  /-- `acquireContentLock` has thrown; `created` is the file that it had created. -/
  | failed (e : AcquireError) (created : Option ℕ)
deriving DecidableEq

/-- The file at the lock path; `complete` when the record `asset-lock-v1` with the operation is
written. -/
structure LockFile where
  inode : ℕ
  complete : Bool
deriving DecidableEq

structure State (A : Type) where
  file : Option LockFile
  /-- The inode of the next file. -/
  fresh : ℕ
  aborted : A → Bool
  pc : A → Pc

inductive Event (A : Type)
  | acquire (c : A)
  | next (c : A)
  /-- The next operation fails with another error than EEXIST and ENOENT. -/
  | fault (c : A)
  | abort (c : A)
  | release (c : A)
deriving DecidableEq

def maxLockAttempts : ℕ := 100

variable [DecidableEq A]

def State.put (s : State A) (c : A) (pc : Pc) : State A := { s with pc := Function.update s.pc c pc }

/-- `open(lockPath, "wx")`. -/
def openExclusive (s : State A) (c : A) (attempt : ℕ) : State A :=
  match s.file with
  | some _ => s.put c (.wait attempt)
  | none => { s with file := some ⟨s.fresh, false⟩, fresh := s.fresh + 1 }.put c (.write s.fresh)

/-- Write the record into the file with this inode. -/
def LockFile.fill (inode : ℕ) (f : LockFile) : LockFile := if f.inode = inode then { f with complete := true } else f

/-- The next operation of a call. -/
def advance (s : State A) (c : A) : State A :=
  match s.pc c with
  | .prepare => s.put c (.loop 0)
  | .loop attempt =>
    if maxLockAttempts ≤ attempt then s.put c (.failed .remainedHeld none)
    else if s.aborted c then s.put c (.failed .cancelled none)
    else s.put c (.create attempt)
  | .create attempt => openExclusive s c attempt
  | .wait attempt =>
    if s.aborted c then s.put c (.failed .cancelled none) else s.put c (.loop (attempt + 1))
  | .write inode => { s with file := s.file.map (LockFile.fill inode) }.put c (.sync inode)
  | .sync inode => s.put c (.held inode)
  | .releaseStat inode =>
    match s.file with
    | some _ => s.put c (.releaseUnlink inode)
    | none => s.put c .released
  | .releaseUnlink _ => { s with file := none }.put c .released
  | .idle | .held _ | .released | .releaseFailed _ | .failed _ _ => s

/-- The next operation of a call fails. The handle of a new file is closed, and the file stays. -/
def fail (s : State A) (c : A) : State A :=
  match s.pc c with
  | .prepare => s.put c (.failed .path none)
  | .create _ => s.put c (.failed .couldNotBeAcquired none)
  | .write inode | .sync inode => s.put c (.failed .couldNotBeAcquired (some inode))
  | .releaseStat inode | .releaseUnlink inode => s.put c (.releaseFailed inode)
  | .idle | .loop _ | .wait _ | .held _ | .released | .releaseFailed _ | .failed _ _ => s

/-- A step of the system. A second `release` returns at once. -/
def step (s : State A) : Event A → State A
  | .acquire c => if s.pc c = .idle then s.put c .prepare else s
  | .next c => advance s c
  | .fault c => fail s c
  | .abort c => { s with aborted := Function.update s.aborted c true }
  | .release c =>
    match s.pc c with
    | .held inode => s.put c (.releaseStat inode)
    | _ => s

/-! ### Who has the file -/

/-- The file that a call has created and neither removed nor given up. -/
def Pc.owned : Pc → Option ℕ
  | .write inode | .sync inode | .held inode | .releaseStat inode | .releaseUnlink inode => some inode
  | _ => none

/-- The lock as files and holders. -/
def State.lock (s : State A) : Lock A :=
  { file := s.file.map (·.inode), owns := fun c => (s.pc c).owned, fresh := s.fresh }

/-- The condition on a step: the record of a new file is written and synced. -/
def KeepsRecord (s : State A) : Event A → Prop
  | .fault c => ∀ inode, s.pc c ≠ .write inode ∧ s.pc c ≠ .sync inode
  | _ => True

/-- The file at the path is that of a call that has not failed to acquire. -/
def Clean (s : State A) : Prop :=
  ∀ c e inode f, s.pc c = .failed e (some inode) → s.file = some f → f.inode ≠ inode

/-- The file of a failed acquisition is at the path. -/
def Stuck (s : State A) : Prop :=
  ∃ c e f, s.pc c = .failed e (some f.inode) ∧ s.file = some f

variable {s s' : State A} {c d : A} {ev : Event A}

/-! ### What a step does -/

/-- All that a step can do to the file and to the calls. -/
inductive Effect (s : State A) (ev : Event A) (s' : State A) : Prop
  | none (hfile : s'.file = s.file) (hfresh : s'.fresh = s.fresh) (hpc : s'.pc = s.pc)
  /-- A call goes on; it keeps its file, or has none then. -/
  | move (c : A) (pc : Pc) (hlive : ∀ e created, s.pc c ≠ .failed e created)
      (hfile : s'.file.map (·.inode) = s.file.map (·.inode)) (hfresh : s'.fresh = s.fresh)
      (hpc : s'.pc = Function.update s.pc c pc) (howned : pc.owned = Option.none ∨ pc.owned = (s.pc c).owned)
      (hfailed : ∀ e inode, pc ≠ .failed e (some inode))
  | create (c : A) (hfile : s.file = Option.none) (hfile' : s'.file = some ⟨s.fresh, false⟩)
      (hfresh : s'.fresh = s.fresh + 1) (hpc : s'.pc = Function.update s.pc c (.write s.fresh))
  | remove (c : A) (inode : ℕ) (hev : ev = .next c) (hat : s.pc c = .releaseUnlink inode) (hfile' : s'.file = Option.none)
      (hfresh : s'.fresh = s.fresh) (hpc : s'.pc = Function.update s.pc c .released)
  /-- A call fails and leaves its file. -/
  | lose (c : A) (inode : ℕ) (e : AcquireError) (hat : (s.pc c).owned = some inode) (hlost : ¬KeepsRecord s ev)
      (hfile : s'.file = s.file) (hfresh : s'.fresh = s.fresh)
      (hpc : s'.pc = Function.update s.pc c (.failed e (some inode)))

theorem Effect.put {pc : Pc} (hlive : ∀ e created, s.pc c ≠ .failed e created) (howned : pc.owned = Option.none ∨ pc.owned = (s.pc c).owned)
    (hfailed : ∀ e inode, pc ≠ .failed e (some inode)) : Effect s ev (s.put c pc) :=
  .move c pc hlive rfl rfl rfl howned hfailed

theorem advance_effect : Effect s (.next c) (advance s c) := by
  unfold advance
  cases hpc : s.pc c with
  | prepare => exact .put (by rw [hpc]; exact nofun) (.inl rfl) nofun
  | loop attempt =>
    simp only
    split
    · exact .put (by rw [hpc]; exact nofun) (.inl rfl) nofun
    · split
      · exact .put (by rw [hpc]; exact nofun) (.inl rfl) nofun
      · exact .put (by rw [hpc]; exact nofun) (.inl rfl) nofun
  | create attempt =>
    simp only [openExclusive]
    cases hfile : s.file with
    | some f => exact .put (by rw [hpc]; exact nofun) (.inl rfl) nofun
    | none => exact .create c hfile rfl rfl rfl
  | wait attempt =>
    simp only
    split
    · exact .put (by rw [hpc]; exact nofun) (.inl rfl) nofun
    · exact .put (by rw [hpc]; exact nofun) (.inl rfl) nofun
  | write inode =>
    refine .move c (.sync inode) (by rw [hpc]; exact nofun) ?_ rfl rfl (.inr (by rw [hpc]; rfl)) nofun
    have hfill : ∀ f : LockFile, (f.fill inode).inode = f.inode := by
      intro f
      unfold LockFile.fill
      split <;> rfl
    simp only [State.put, Option.map_map]
    exact congrArg (Option.map · s.file) (funext hfill)
  | sync inode => exact .put (by rw [hpc]; exact nofun) (.inr (by rw [hpc]; rfl)) nofun
  | releaseStat inode =>
    simp only
    split
    · exact .put (by rw [hpc]; exact nofun) (.inr (by rw [hpc]; rfl)) nofun
    · exact .put (by rw [hpc]; exact nofun) (.inl rfl) nofun
  | releaseUnlink inode => exact .remove c inode rfl hpc rfl rfl rfl
  | idle => exact .none rfl rfl rfl
  | held inode => exact .none rfl rfl rfl
  | released => exact .none rfl rfl rfl
  | releaseFailed inode => exact .none rfl rfl rfl
  | failed e created => exact .none rfl rfl rfl

theorem fail_effect : Effect s (.fault c) (fail s c) := by
  unfold fail
  cases hpc : s.pc c with
  | prepare => exact .put (by rw [hpc]; exact nofun) (.inl rfl) nofun
  | create attempt => exact .put (by rw [hpc]; exact nofun) (.inl rfl) nofun
  | write inode => exact .lose c inode _ (by rw [hpc]; rfl) (fun h => (h inode).1 hpc) rfl rfl rfl
  | sync inode => exact .lose c inode _ (by rw [hpc]; rfl) (fun h => (h inode).2 hpc) rfl rfl rfl
  | releaseStat inode => exact .put (by rw [hpc]; exact nofun) (.inl rfl) nofun
  | releaseUnlink inode => exact .put (by rw [hpc]; exact nofun) (.inl rfl) nofun
  | idle => exact .none rfl rfl rfl
  | loop attempt => exact .none rfl rfl rfl
  | wait attempt => exact .none rfl rfl rfl
  | held inode => exact .none rfl rfl rfl
  | released => exact .none rfl rfl rfl
  | releaseFailed inode => exact .none rfl rfl rfl
  | failed e created => exact .none rfl rfl rfl

/-- **All that a step can do.** -/
theorem step_effect : Effect s ev (step s ev) := by
  cases ev with
  | acquire c =>
    simp only [step]
    split
    · rename_i hpc
      exact .put (by rw [hpc]; exact nofun) (.inl rfl) nofun
    · exact .none rfl rfl rfl
  | next c => exact advance_effect
  | fault c => exact fail_effect
  | abort c => exact .none rfl rfl rfl
  | release c =>
    simp only [step]
    split
    · rename_i inode hpc
      exact .put (by rw [hpc]; exact nofun) (.inr (by rw [hpc]; rfl)) nofun
    · exact .none rfl rfl rfl

/-! ### The invariant -/

/-- **The invariant.** The file of every holder is at the path; a file that was lost is nobody's. -/
structure Invariant (s : State A) : Prop where
  sound : s.lock.Sound
  lost : ∀ c e inode, s.pc c = .failed e (some inode) → inode < s.fresh ∧ ∀ d, (s.pc d).owned ≠ some inode

theorem update_failed {pc : Pc} {e : AcquireError} {inode : ℕ} (hpc : s'.pc = Function.update s.pc c pc)
    (hfailed : ∀ e inode, pc ≠ .failed e (some inode)) (h : s'.pc d = .failed e (some inode)) :
    s.pc d = .failed e (some inode) := by
  rw [hpc] at h
  by_cases hd : d = c
  · rw [hd, Function.update_self] at h
    exact absurd h (hfailed e inode)
  · rwa [Function.update_of_ne hd] at h

/-- The effect on the lock keeps its discipline. -/
theorem Effect.lockMove (h : Effect s ev s') : Lock.Move s.lock s'.lock := by
  cases h with
  | none hfile hfresh hpc =>
    refine .stay (by simp [State.lock, hfile]) hfresh fun d => .inr ?_
    simp [State.lock, hpc]
  | move c pc _ hfile hfresh hpc howned _ =>
    refine .stay hfile hfresh fun d => ?_
    simp only [State.lock, hpc]
    by_cases hd : d = c
    · rw [hd, Function.update_self]
      exact howned
    · rw [Function.update_of_ne hd]
      exact .inr rfl
  | create c hfile hfile' hfresh hpc =>
    refine .create c (by simp [State.lock, hfile]) (by simp [State.lock, hfile']) hfresh ?_ fun d hd => .inr ?_
    · simp only [State.lock, hpc, Function.update_self]
      rfl
    · simp only [State.lock, hpc, Function.update_of_ne hd]
  | remove c inode _ hat hfile' hfresh hpc =>
    refine .release c inode (by simp only [State.lock, hat]; rfl) (by simp [State.lock, hfile']) hfresh ?_ fun d hd => .inr ?_
    · simp only [State.lock, hpc, Function.update_self]
      rfl
    · simp only [State.lock, hpc, Function.update_of_ne hd]
  | lose c inode e _ _ hfile hfresh hpc =>
    refine .stay (by simp [State.lock, hfile]) hfresh fun d => ?_
    simp only [State.lock, hpc]
    by_cases hd : d = c
    · rw [hd, Function.update_self]
      exact .inl rfl
    · rw [Function.update_of_ne hd]
      exact .inr rfl

/-- **Every step keeps the invariant.** -/
theorem step_invariant (h : Invariant s) : Invariant (step s ev) := by
  have heffect : Effect s ev (step s ev) := step_effect
  refine ⟨heffect.lockMove.sound h.sound, ?_⟩
  intro c e inode hc
  generalize step s ev = s' at heffect hc ⊢
  cases heffect with
  | none hfile hfresh hpc =>
    rw [hpc] at hc ⊢
    rw [hfresh]
    exact h.lost c e inode hc
  | move a pc _ hfile hfresh hpc howned hfailed =>
    obtain ⟨hlt, hno⟩ := h.lost c e inode (update_failed hpc hfailed hc)
    refine ⟨hfresh ▸ hlt, fun d => ?_⟩
    rw [hpc]
    by_cases hd : d = a
    · rw [hd, Function.update_self]
      rcases howned with howned | howned
      · rw [howned]; exact nofun
      · rw [howned]; exact hno a
    · rw [Function.update_of_ne hd]
      exact hno d
  | create a hfile hfile' hfresh hpc =>
    obtain ⟨hlt, hno⟩ := h.lost c e inode (update_failed hpc nofun hc)
    refine ⟨by omega, fun d => ?_⟩
    rw [hpc]
    by_cases hd : d = a
    · rw [hd, Function.update_self]
      -- the new file is another one
      exact fun heq => absurd (Option.some.inj heq) (by omega)
    · rw [Function.update_of_ne hd]
      exact hno d
  | remove a i hev hat hfile' hfresh hpc =>
    obtain ⟨hlt, hno⟩ := h.lost c e inode (update_failed hpc nofun hc)
    refine ⟨hfresh ▸ hlt, fun d => ?_⟩
    rw [hpc]
    by_cases hd : d = a
    · rw [hd, Function.update_self]; exact nofun
    · rw [Function.update_of_ne hd]
      exact hno d
  | lose a i e' hat hlost hfile hfresh hpc =>
    have hplaced : s.lock.file = some i := h.sound.placed a i hat
    rw [hfresh, hpc]
    rw [hpc] at hc
    by_cases hca : c = a
    · rw [hca, Function.update_self] at hc
      obtain rfl : i = inode := by simpa using (Pc.failed.inj hc).2
      refine ⟨h.sound.fresh i hplaced, fun d => ?_⟩
      by_cases hd : d = a
      · rw [hd, Function.update_self]; exact nofun
      · rw [Function.update_of_ne hd]
        exact fun heq => hd (h.sound.own d a i heq hat)
    · rw [Function.update_of_ne hca] at hc
      obtain ⟨hlt, hno⟩ := h.lost c e inode hc
      refine ⟨hlt, fun d => ?_⟩
      by_cases hd : d = a
      · rw [hd, Function.update_self]; exact nofun
      · rw [Function.update_of_ne hd]
        exact hno d

/-! ### Files of failed calls -/

/-- **A step that loses no record leaves no file of a failed call.** -/
theorem step_clean (h : Invariant s) (hclean : Clean s) (hkeeps : KeepsRecord s ev) : Clean (step s ev) := by
  have heffect : Effect s ev (step s ev) := step_effect
  intro c e inode f hc hf
  generalize step s ev = s' at heffect hc hf
  cases heffect with
  | none hfile hfresh hpc =>
    rw [hpc] at hc
    rw [hfile] at hf
    exact hclean c e inode f hc hf
  | move a pc _ hfile hfresh hpc howned hfailed =>
    rw [hf, Option.map_some] at hfile
    obtain ⟨g, hg, hgf⟩ := Option.map_eq_some_iff.1 hfile.symm
    rw [← hgf]
    exact hclean c e inode g (update_failed hpc hfailed hc) hg
  | create a hfile hfile' hfresh hpc =>
    rw [hfile'] at hf
    obtain rfl := Option.some.inj hf
    exact Nat.ne_of_gt (h.lost c e inode (update_failed hpc nofun hc)).1
  | remove a i hev hat hfile' hfresh hpc =>
    rw [hfile'] at hf
    cases hf
  | lose a i e' hat hlost hfile hfresh hpc => exact absurd hkeeps hlost

/-- **A step that loses a record leaves its file.** -/
theorem step_lost (h : Invariant s) (hlost : ¬KeepsRecord s ev) : Stuck (step s ev) := by
  cases ev with
  | fault c =>
    simp only [KeepsRecord, not_forall, ← not_or, not_not] at hlost
    obtain ⟨inode, hpc⟩ := hlost
    have howned : (s.pc c).owned = some inode := by rcases hpc with hpc | hpc <;> rw [hpc] <;> rfl
    obtain ⟨f, hf, hinode⟩ := Option.map_eq_some_iff.1 (h.sound.placed c inode howned)
    have hfail : fail s c = s.put c (.failed .couldNotBeAcquired (some inode)) := by
      unfold fail
      rcases hpc with hpc | hpc <;> rw [hpc]
    refine ⟨c, .couldNotBeAcquired, f, ?_, ?_⟩
    · show (fail s c).pc c = _
      rw [hfail, hinode]
      exact Function.update_self ..
    · show (fail s c).file = _
      rw [hfail]
      exact hf
  | acquire c => exact absurd trivial hlost
  | next c => exact absurd trivial hlost
  | abort c => exact absurd trivial hlost
  | release c => exact absurd trivial hlost

omit [DecidableEq A] in
/-- Nobody holds the lock while the file of a failed call is at the path. -/
theorem Stuck.owned (h : Invariant s) (hstuck : Stuck s) (d : A) : (s.pc d).owned = none := by
  obtain ⟨c, e, f, hc, hf⟩ := hstuck
  cases howned : (s.pc d).owned with
  | none => rfl
  | some inode =>
    have hplaced : s.lock.file = some inode := h.sound.placed d inode howned
    simp only [State.lock, hf, Option.map_some, Option.some.injEq] at hplaced
    exact absurd (hplaced ▸ howned) ((h.lost c e f.inode hc).2 d)

/-- **The file of a failed call stays.** -/
theorem step_stuck (h : Invariant s) (hstuck : Stuck s) : Stuck (step s ev) := by
  have hnone := hstuck.owned h
  have heffect : Effect s ev (step s ev) := step_effect
  obtain ⟨c, e, f, hc, hf⟩ := hstuck
  generalize step s ev = s' at heffect ⊢
  cases heffect with
  | none hfile hfresh hpc => exact ⟨c, e, f, by rw [hpc]; exact hc, by rw [hfile]; exact hf⟩
  | move a pc hlive hfile hfresh hpc howned hfailed =>
    have hca : c ≠ a := by
      rintro rfl
      exact hlive _ _ hc
    rw [hf, Option.map_some] at hfile
    obtain ⟨g, hg, hgf⟩ := Option.map_eq_some_iff.1 hfile
    refine ⟨c, e, g, ?_, hg⟩
    rw [hpc, Function.update_of_ne hca, hgf]
    exact hc
  | create a hfile hfile' hfresh hpc =>
    rw [hf] at hfile
    cases hfile
  | remove a i hev hat hfile' hfresh hpc =>
    have ha := hnone a
    rw [hat] at ha
    cases ha
  | lose a i e' hat hlost hfile hfresh hpc =>
    rw [hnone a] at hat
    cases hat

end OfflineWebArchiver.ContentLock
