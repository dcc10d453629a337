import OfflineWebArchiver.Lib.LockFile
import OfflineWebArchiver.Lib.Run

/-!
# The vault lock

`acquireVaultLock` and `mutateRecords` as they run in any number of processes, one atomic
file operation after the other, with time passing in between.

* `step`: the next operation of one mutation, time, the exit and the start of a process.
* `Invariant`, `step_invariant`: what every step keeps, provided that no lock in use is
  judged stale and that a takeover finds the file that it judged (`KeepsLocks`).
-/

namespace OfflineWebArchiver.VaultLock

/-- `VAULT_LOCK_STALE_AFTER_MS`. -/
def vaultLockStaleAfterMs : ℕ := 5 * 60 * 1000

structure Proc where
  pid : ℕ
  start : ℕ
deriving DecidableEq

/-- A call of `mutateRecords`. -/
structure Call where
  proc : Proc
  serial : ℕ
deriving DecidableEq

/-- The file at the lock path, with its modification time. `inode` tells it from the files
that were there before, and `creator` is the call that created it. -/
structure LockFile where
  inode : ℕ
  mtimeMs : ℕ
  creator : Call
deriving DecidableEq

/-- The vault document: its generation and the updates it contains. -/
structure Document where
  generation : ℕ
  updates : List ℕ
deriving DecidableEq

/-- Where a call stands. The operation named is the next one. -/
inductive Pc
  | idle
  /-- `inProcessLocks.has(lockPath)`. -/
  | enter
  /-- `open(lockPath, "wx")`. -/
  | create (attempt : ℕ)
  /-- `lstat(lockPath)`, after EEXIST. -/
  | stat
  /-- `Date.now() - stat.mtimeMs > VAULT_LOCK_STALE_AFTER_MS`. -/
  | judge (file : LockFile)
  /-- `rm(lockPath, { force: true })` of a stale lock; `inode` is the file that was judged. -/
  | remove (inode : ℕ)
  /-- `handle.writeFile(...)` into the new file. -/
  | write (inode : ℕ)
  /-- The lock is acquired: `readDisk()` and the check of the generation. -/
  | load (inode : ℕ)
  /-- `atomicWriteJson(vaultPath, next)`, with `next` made from `disk`. -/
  | commit (inode : ℕ) (disk : Document)
  /-- `readDisk()` again, to verify `generation`. -/
  | verify (inode : ℕ) (generation : ℕ)
  /-- `rm(lockPath, { force: true })` of the release. -/
  | release (inode : ℕ)
deriving DecidableEq

structure State where
  file : Option LockFile
  fresh : ℕ
  clock : ℕ
  document : Document
  /-- The number of commits so far; the next update has this number. -/
  commits : ℕ
  alive : List Proc
  exited : List Proc
  /-- `inProcessLocks` of each process holds the lock path. -/
  inProcess : Proc → Bool
  /-- `this.generation` of each process. -/
  generation : Proc → ℕ
  pc : Call → Pc

inductive Event
  | mutate (c : Call)
  | next (c : Call)
  /-- An operation fails for another reason, and the call throws. -/
  | fault (c : Call)
  | unlock (p : Proc)
  | tick (ms : ℕ)
  | exit (p : Proc)
  | spawn (p : Proc)
deriving DecidableEq

def State.put (s : State) (c : Call) (pc : Pc) : State := { s with pc := Function.update s.pc c pc }

/-- `inProcessLocks.add(lockPath)` or `.delete(lockPath)`. -/
def State.mark (s : State) (c : Call) (b : Bool) : State :=
  { s with inProcess := Function.update s.inProcess c.proc b }

/-- The call throws SECRET_STORE_BUSY without having the lock. -/
def State.busy (s : State) (c : Call) : State := (s.mark c false).put c .idle

/-- The `finally` of `mutateRecords`. -/
def State.finish (s : State) (c : Call) (inode : ℕ) : State := (s.mark c false).put c (.release inode)

/-- A write to the file with this inode; another file at the path stays as it is. -/
def LockFile.touch (inode clock : ℕ) (f : LockFile) : LockFile :=
  if f.inode = inode then { f with mtimeMs := clock } else f

/-- The next operation of a call. -/
def advance (s : State) (c : Call) : State :=
  match s.pc c with
  | .idle => s
  | .enter => if s.inProcess c.proc then s.put c .idle else (s.mark c true).put c (.create 0)
  | .create attempt =>
    match s.file with
    | none =>
      { s with file := some ⟨s.fresh, s.clock, c⟩, fresh := s.fresh + 1 }.put c (.write s.fresh)
    | some _ => if attempt = 0 then s.put c .stat else s.busy c
  | .stat =>
    match s.file with
    | none => s.put c (.create 1)
    | some f => s.put c (.judge f)
  | .judge f =>
    if f.mtimeMs + vaultLockStaleAfterMs < s.clock then s.put c (.remove f.inode) else s.busy c
  | .remove _ => { s with file := none }.put c (.create 1)
  | .write inode =>
    { s with file := s.file.map (LockFile.touch inode s.clock) }.put c (.load inode)
  | .load inode =>
    if s.document.generation = s.generation c.proc then s.put c (.commit inode s.document)
    else s.finish c inode
  | .commit inode disk =>
    { s with document := ⟨disk.generation + 1, disk.updates ++ [s.commits]⟩
             commits := s.commits + 1 }.put c (.verify inode (disk.generation + 1))
  | .verify inode generation =>
    if s.document.generation = generation then
      { s with generation := Function.update s.generation c.proc generation }.finish c inode
    else s.finish c inode
  | .release _ => { s with file := none }.put c .idle

/-- A failing operation. -/
def fail (s : State) (c : Call) : State :=
  match s.pc c with
  | .idle => s
  | .enter => s.put c .idle
  | .load inode | .commit inode _ | .verify inode _ => s.finish c inode
  | .release _ => s.put c .idle
  | _ => s.busy c

/-- A step of the system. Only calls of live processes take steps. -/
def step (s : State) : Event → State
  | .mutate c => if c.proc ∈ s.alive ∧ s.pc c = .idle then s.put c .enter else s
  | .next c => if c.proc ∈ s.alive then advance s c else s
  | .fault c => if c.proc ∈ s.alive then fail s c else s
  | .unlock p => { s with generation := Function.update s.generation p s.document.generation }
  | .tick ms => { s with clock := s.clock + ms }
  | .exit p => if p ∈ s.alive then { s with alive := s.alive.filter (· ≠ p), exited := p :: s.exited } else s
  | .spawn p => if p ∉ s.alive ∧ p ∉ s.exited then { s with alive := p :: s.alive } else s

/-- The file that a call has created and not removed. -/
def Pc.owned : Pc → Option ℕ
  | .write inode | .load inode | .commit inode _ | .verify inode _ | .release inode => some inode
  | _ => none

/-- The call is between the acquisition and the release of the lock. -/
def Pc.inside : Pc → Bool
  | .load _ | .commit _ _ | .verify _ _ => true
  | _ => false

/-- The file of a call of a live process. -/
def State.owns (s : State) (c : Call) : Option ℕ :=
  if c.proc ∈ s.alive then (s.pc c).owned else none

/-- The lock as files and holders. -/
def State.lock (s : State) : Lock Call :=
  { file := s.file.map (·.inode), owns := s.owns, fresh := s.fresh }

/-- The condition on a step: a lock that is judged stale is no longer in use, and a
takeover removes the file that it judged, or none. -/
def KeepsLocks (s : State) : Event → Prop
  | .next c =>
    match s.pc c with
    | .judge f => f.mtimeMs + vaultLockStaleAfterMs < s.clock → s.owns f.creator ≠ some f.inode
    | .remove inode => ∀ f ∈ s.file, f.inode = inode
    | _ => True
  | _ => True

instance (s : State) (e : Event) : Decidable (KeepsLocks s e) := by
  unfold KeepsLocks
  split
  · split <;> infer_instance
  · infer_instance

/-- **The invariant.** -/
structure Invariant (s : State) : Prop where
  /-- The file of a live holder is at the path. -/
  sound : s.lock.Sound
  /-- The holder of the file at the path is its creator. -/
  created : ∀ f ∈ s.file, ∀ d, s.owns d = some f.inode → d = f.creator
  judged : ∀ c f, s.pc c = .judge f → f.inode < s.fresh ∧
    ∀ d, s.owns d = some f.inode → d = f.creator
  /-- A lock that was judged stale has no live holder. -/
  stale : ∀ c inode, s.pc c = .remove inode → inode < s.fresh ∧ ∀ d, s.owns d ≠ some inode
  /-- The holder commits on the document as it is. -/
  loaded : ∀ c inode disk, c.proc ∈ s.alive → s.pc c = .commit inode disk → s.document = disk
  /-- No commit is lost. -/
  kept : ∀ k < s.commits, k ∈ s.document.updates
  known : ∀ c, s.pc c ≠ .idle → c.proc ∈ s.alive ∨ c.proc ∈ s.exited
  apart : ∀ p ∈ s.alive, p ∉ s.exited

variable {s s' : State} {c d : Call}

theorem owns_put (pc : Pc) : (s.put c pc).owns d =
    if d = c then (if c.proc ∈ s.alive then pc.owned else none) else s.owns d := by
  unfold State.owns State.put
  by_cases h : d = c
  · subst h; simp
  · simp [h]

theorem put_pc_self (pc : Pc) : (s.put c pc).pc c = pc := Function.update_self ..

theorem put_pc_ne (pc : Pc) (h : d ≠ c) : (s.put c pc).pc d = s.pc d := Function.update_of_ne h ..

theorem owns_eq (h : c.proc ∈ s.alive) : s.owns c = (s.pc c).owned := if_pos h

theorem Invariant.unique (h : Invariant s) {i j : ℕ} (hc : s.owns c = some i)
    (hd : s.owns d = some j) : d = c :=
  h.sound.unique hd hc

/-- A step that leaves the file and the document alone and adds no holder. -/
theorem Invariant.stay (h : Invariant s) (hfile : s'.file = s.file) (hfresh : s'.fresh = s.fresh)
    (hdoc : s'.document = s.document) (hcommits : s'.commits = s.commits)
    (howns : ∀ d, s'.owns d = none ∨ s'.owns d = s.owns d)
    (hjudge : ∀ d f, s'.pc d = .judge f → s.pc d = .judge f ∨ s.file = some f)
    (hstale : ∀ d inode, s'.pc d = .remove inode → s.pc d = .remove inode ∨ inode < s.fresh ∧
      ∀ e, s.owns e ≠ some inode)
    (hload : ∀ d inode disk, d.proc ∈ s'.alive → s'.pc d = .commit inode disk →
      d.proc ∈ s.alive ∧ s.pc d = .commit inode disk ∨ s.document = disk)
    (hknown : ∀ d, s'.pc d ≠ .idle → d.proc ∈ s'.alive ∨ d.proc ∈ s'.exited)
    (hapart : ∀ p ∈ s'.alive, p ∉ s'.exited) : Invariant s' := by
  have hback : ∀ {d i}, s'.owns d = some i → s.owns d = some i := by
    intro d i hd
    rcases howns d with hn | he
    · rw [hn] at hd; cases hd
    · rw [← he]; exact hd
  have hmove : Lock.Move s.lock s'.lock := .stay (by simp [State.lock, hfile]) hfresh howns
  refine ⟨hmove.sound h.sound, fun f hf d hd => ?_, fun d f hd => ?_, fun d inode hd => ?_,
    fun d inode disk ha hd => ?_, fun k hk => ?_, hknown, hapart⟩
  · rw [hfile] at hf
    exact h.created f hf d (hback hd)
  · rw [hfresh]
    rcases hjudge d f hd with hd | hf
    · obtain ⟨hlt, hc⟩ := h.judged d f hd
      exact ⟨hlt, fun e he => hc e (hback he)⟩
    · exact ⟨h.sound.fresh _ (by simp [State.lock, hf]), fun e he => h.created f hf e (hback he)⟩
  · rw [hfresh]
    have hold : inode < s.fresh ∧ ∀ e, s.owns e ≠ some inode := by
      rcases hstale d inode hd with hd | hd
      · exact h.stale d inode hd
      · exact hd
    exact ⟨hold.1, fun e he => hold.2 e (hback he)⟩
  · rw [hdoc]
    rcases hload d inode disk ha hd with ⟨ha, hd⟩ | hd
    · exact h.loaded d inode disk ha hd
    · exact hd
  · rw [hdoc]
    rw [hcommits] at hk
    exact h.kept k hk

/-- A call that goes on to a point where it holds no more than before. -/
theorem Invariant.put (h : Invariant s) (hc : c.proc ∈ s.alive) {m : Proc → Bool} {g : Proc → ℕ}
    {pc : Pc} (howned : pc.owned = none ∨ pc.owned = (s.pc c).owned)
    (hjudge : ∀ f, pc = .judge f → s.file = some f)
    (hstale : ∀ i, pc = .remove i → i < s.fresh ∧ ∀ e, s.owns e ≠ some i)
    (hload : ∀ i disk, pc = .commit i disk → s.document = disk) :
    Invariant ({ s with inProcess := m, generation := g }.put c pc) := by
  set s' : State := { s with inProcess := m, generation := g } with hs'
  have hpc : ∀ d, d = c ∧ (s'.put c pc).pc d = pc ∨ (s'.put c pc).pc d = s.pc d := by
    intro d
    by_cases hd : d = c
    · rw [hd]; exact Or.inl ⟨rfl, put_pc_self pc⟩
    · exact Or.inr (put_pc_ne pc hd)
  refine h.stay rfl rfl rfl rfl (fun d => ?_) (fun d f hd => ?_) (fun d i hd => ?_)
    (fun d i disk ha hd => ?_) (fun d hd => ?_) h.apart
  · rw [owns_put]
    split_ifs with hdc
    · rcases howned with hn | he
      · exact Or.inl hn
      · rw [hdc, owns_eq hc]; exact Or.inr he
    · exact Or.inr rfl
  · rcases hpc d with ⟨-, hp⟩ | hp
    · rw [hp] at hd; exact Or.inr (hjudge f hd)
    · rw [hp] at hd; exact Or.inl hd
  · rcases hpc d with ⟨-, hp⟩ | hp
    · rw [hp] at hd; exact Or.inr (hstale i hd)
    · rw [hp] at hd; exact Or.inl hd
  · rcases hpc d with ⟨-, hp⟩ | hp
    · rw [hp] at hd; exact Or.inr (hload i disk hd)
    · rw [hp] at hd; exact Or.inl ⟨ha, hd⟩
  · rcases hpc d with ⟨hdc, -⟩ | hp
    · rw [hdc]; exact Or.inl hc
    · rw [hp] at hd; exact h.known d hd

/-- A call that goes on to a point without data of its own. -/
theorem Invariant.put_quiet (h : Invariant s) (hc : c.proc ∈ s.alive) {m : Proc → Bool}
    {g : Proc → ℕ} {pc : Pc} (howned : pc.owned = none ∨ pc.owned = (s.pc c).owned)
    (hjudge : ∀ f, pc ≠ .judge f) (hstale : ∀ i, pc ≠ .remove i)
    (hload : ∀ i disk, pc ≠ .commit i disk) :
    Invariant ({ s with inProcess := m, generation := g }.put c pc) :=
  h.put hc howned (fun f hf => absurd hf (hjudge f)) (fun i hi => absurd hi (hstale i))
    fun i disk hd => absurd hd (hload i disk)

theorem Invariant.idle (h : Invariant s) (hc : c.proc ∈ s.alive) {m : Proc → Bool} {g : Proc → ℕ} :
    Invariant ({ s with inProcess := m, generation := g }.put c .idle) :=
  h.put_quiet hc (Or.inl rfl) nofun nofun nofun

/-- The end of a mutation keeps the file for the release. -/
theorem Invariant.finish (h : Invariant s) (hc : c.proc ∈ s.alive) {g : Proc → ℕ} {inode : ℕ}
    (hown : (s.pc c).owned = some inode) :
    Invariant ({ s with generation := g }.finish c inode) :=
  h.put_quiet hc (Or.inr hown.symm) nofun nofun nofun

/-- **The exclusive creation.** The file is not there, so nobody holds it. -/
theorem Invariant.create (h : Invariant s) (hc : c.proc ∈ s.alive) (hfile : s.file = none) :
    Invariant ({ s with file := some ⟨s.fresh, s.clock, c⟩, fresh := s.fresh + 1 }.put c
      (.write s.fresh)) := by
  set s' : State := { s with file := some ⟨s.fresh, s.clock, c⟩, fresh := s.fresh + 1 } with hs'
  have hnone : ∀ d, s.owns d = none := h.sound.free (by simp [State.lock, hfile])
  have howns : ∀ d i, (s'.put c (.write s.fresh)).owns d = some i → d = c ∧ i = s.fresh := by
    intro d i hd
    rw [owns_put] at hd
    split_ifs at hd with hdc
    · exact ⟨hdc, (Option.some.inj hd).symm⟩
    · have hd' : s.owns d = some i := hd
      rw [hnone d] at hd'; cases hd'
  have hpc : ∀ d, (s'.put c (.write s.fresh)).pc d = if d = c then .write s.fresh else s.pc d := by
    intro d
    by_cases hd : d = c
    · rw [hd, if_pos rfl]; exact put_pc_self _
    · rw [if_neg hd]; exact put_pc_ne _ hd
  have hmove : Lock.Move s.lock (s'.put c (.write s.fresh)).lock := by
    refine .create c (by simp [State.lock, hfile]) rfl rfl ?_ fun d hd => Or.inl ?_
    · change (s'.put c (.write s.fresh)).owns c = some s.fresh
      rw [owns_put, if_pos rfl, if_pos hc]; rfl
    · cases hd' : (s'.put c (.write s.fresh)).owns d with
      | none => exact hd'
      | some i => exact absurd (howns d i hd').1 hd
  refine ⟨hmove.sound h.sound, fun f hf d hd => ?_, fun d f hd => ?_, fun d i hd => ?_,
    fun d i disk ha hd => ?_, h.kept, fun d hd => ?_, h.apart⟩
  · rw [← Option.some.inj hf]; exact (howns d _ hd).1
  · rw [hpc d] at hd
    split_ifs at hd
    have hlt := (h.judged d f hd).1
    exact ⟨Nat.lt_succ_of_lt hlt, fun e he => absurd (howns e _ he).2 (Nat.ne_of_lt hlt)⟩
  · rw [hpc d] at hd
    split_ifs at hd
    have hlt := (h.stale d i hd).1
    exact ⟨Nat.lt_succ_of_lt hlt, fun e he => absurd (howns e _ he).2 (Nat.ne_of_lt hlt)⟩
  · rw [hpc d] at hd
    split_ifs at hd
    exact h.loaded d i disk ha hd
  · rw [hpc d] at hd
    split_ifs at hd with hdc
    · rw [hdc]; exact Or.inl hc
    · exact h.known d hd

/-- The file is removed and nobody has held it, or its holder has removed it. -/
theorem Invariant.remove (h : Invariant s) (hc : c.proc ∈ s.alive) {pc : Pc}
    (hmine : ∀ d i, s.owns d = some i → d = c) (howned : pc.owned = none)
    (hjudge : ∀ f, pc ≠ .judge f) (hstale : ∀ i, pc ≠ .remove i)
    (hload : ∀ i disk, pc ≠ .commit i disk) : Invariant ({ s with file := none }.put c pc) := by
  have hnone : ∀ d i, ({ s with file := none }.put c pc).owns d ≠ some i := by
    intro d i hd
    rw [owns_put] at hd
    split_ifs at hd with hdc
    · rw [howned] at hd; cases hd
    · exact hdc (hmine d i hd)
  have hquiet := h.put_quiet hc (m := s.inProcess) (g := s.generation) (Or.inl howned) hjudge hstale
    hload
  exact ⟨Lock.sound_of_free rfl hnone, nofun,
    fun d f hd => ⟨(hquiet.judged d f hd).1, fun e he => absurd he (hnone e _)⟩,
    fun d i hd => ⟨(hquiet.stale d i hd).1, fun e => hnone e i⟩,
    hquiet.loaded, h.kept, hquiet.known, h.apart⟩

/-- The time stamp of a file is of no account. -/
theorem Invariant.touched (h : Invariant s) (inode : ℕ) :
    Invariant { s with file := s.file.map (LockFile.touch inode s.clock) } := by
  have hsame : ∀ f : LockFile, (f.touch inode s.clock).inode = f.inode ∧
      (f.touch inode s.clock).creator = f.creator := by
    intro f
    unfold LockFile.touch
    split <;> exact ⟨rfl, rfl⟩
  have hlock : State.lock { s with file := s.file.map (LockFile.touch inode s.clock) } = s.lock := by
    have hfile : (s.file.map (LockFile.touch inode s.clock)).map (·.inode) = s.file.map (·.inode) := by
      rw [Option.map_map]
      exact Option.map_congr fun f _ => (hsame f).1
    simp only [State.lock, hfile]
    rfl
  refine ⟨hlock ▸ h.sound, fun f hf d hd => ?_, h.judged, h.stale, h.loaded, h.kept, h.known, h.apart⟩
  obtain ⟨g, hg, rfl⟩ := Option.map_eq_some_iff.1 hf
  rw [(hsame g).2]
  exact h.created g hg d (by rw [(hsame g).1] at hd; exact hd)

/-- **The commit.** The holder is alone, so it adds its update to the document as it is. -/
theorem Invariant.commit (h : Invariant s) (hc : c.proc ∈ s.alive) {inode : ℕ} {disk : Document}
    (hpc : s.pc c = .commit inode disk) :
    Invariant ({ s with document := ⟨disk.generation + 1, disk.updates ++ [s.commits]⟩
                        commits := s.commits + 1 }.put c (.verify inode (disk.generation + 1))) := by
  have hown : s.owns c = some inode := by rw [owns_eq hc, hpc]; rfl
  have hdisk : s.document = disk := h.loaded c inode disk hc hpc
  have hquiet : Invariant (s.put c (.verify inode (disk.generation + 1))) :=
    h.put_quiet hc (Or.inr (by rw [hpc]; rfl)) nofun nofun nofun
  refine ⟨hquiet.sound, hquiet.created, hquiet.judged, hquiet.stale, fun d i disk' ha hd => ?_,
    fun k hk => ?_, hquiet.known, h.apart⟩
  · -- another call that is about to commit would hold the lock too
    have hdc : d ≠ c := by
      rintro rfl
      rw [put_pc_self] at hd; cases hd
    rw [put_pc_ne _ hdc] at hd
    have hd' : s.pc d = .commit i disk' := hd
    have hdown : s.owns d = some i := by rw [owns_eq (s := s) ha, hd']; rfl
    exact absurd (h.unique hown hdown) hdc
  · change k ∈ disk.updates ++ [s.commits]
    rcases Nat.lt_succ_iff_lt_or_eq.1 hk with hk | hk
    · exact List.mem_append_left _ (hdisk ▸ h.kept k hk)
    · exact List.mem_append_right _ (by rw [hk]; exact List.mem_singleton_self _)

/-- **One operation of a call.** -/
theorem Invariant.advance (h : Invariant s) (hc : c.proc ∈ s.alive)
    (hkeep : KeepsLocks s (.next c)) : Invariant (advance s c) := by
  unfold VaultLock.advance
  cases hpc : s.pc c with
  | idle => exact h
  | enter =>
    simp only
    split_ifs
    · exact h.idle hc
    · exact h.put_quiet hc (Or.inl rfl) nofun nofun nofun
  | create attempt =>
    simp only
    split
    · next hfile => exact h.create hc hfile
    · split_ifs
      · exact h.put_quiet hc (Or.inl rfl) nofun nofun nofun
      · exact h.idle hc
  | stat =>
    simp only
    split
    · exact h.put_quiet hc (Or.inl rfl) nofun nofun nofun
    · next f hfile =>
      refine h.put hc (Or.inl rfl) (fun g hg => ?_) nofun nofun
      rw [← Pc.judge.inj hg]; exact hfile
  | judge f =>
    simp only
    split_ifs with hage
    · refine h.put hc (Or.inl rfl) nofun (fun i hi => ?_) nofun
      obtain rfl := Pc.remove.inj hi
      obtain ⟨hlt, hcreator⟩ := h.judged c f hpc
      refine ⟨hlt, fun e he => ?_⟩
      -- only the creator can hold it, and it does not any more
      have hfree : s.owns f.creator ≠ some f.inode := by
        simp only [KeepsLocks, hpc] at hkeep
        exact hkeep hage
      exact hfree (hcreator e he ▸ he)
    · exact h.idle hc
  | remove inode =>
    have hfound : ∀ f ∈ s.file, f.inode = inode := by
      simpa only [KeepsLocks, hpc] using hkeep
    refine h.remove hc (fun d i hd => ?_) rfl nofun nofun nofun
    have hplaced := h.sound.placed d i hd
    obtain ⟨f, hf, rfl⟩ := Option.map_eq_some_iff.1 hplaced
    exact absurd (hfound f hf ▸ hd) ((h.stale c inode hpc).2 d)
  | write inode =>
    have hw := h.touched inode
    exact hw.put_quiet hc (Or.inr (by rw [hpc]; rfl)) nofun nofun nofun
  | load inode =>
    simp only
    split_ifs
    · refine h.put hc (Or.inr (by rw [hpc]; rfl)) nofun nofun fun i disk hd => ?_
      exact (Pc.commit.inj hd).2
    · exact h.finish hc (by rw [hpc]; rfl)
  | commit inode disk => exact h.commit hc hpc
  | verify inode generation =>
    simp only
    split_ifs <;> exact h.finish hc (by rw [hpc]; rfl)
  | release inode =>
    have hown : s.owns c = some inode := by rw [owns_eq hc, hpc]; rfl
    exact h.remove hc (fun d i hd => h.unique hown hd) rfl nofun nofun nofun

/-- An operation that fails. -/
theorem Invariant.fail (h : Invariant s) (hc : c.proc ∈ s.alive) : Invariant (fail s c) := by
  unfold VaultLock.fail
  cases hpc : s.pc c with
  | idle => exact h
  | enter | release _ => exact h.idle hc
  | load _ | commit _ _ | verify _ _ => exact h.finish hc (by rw [hpc]; rfl)
  | create _ | stat | judge _ | remove _ | write _ => exact h.idle hc

/-- **Every step keeps the invariant**, if no lock in use is judged stale and a takeover
finds the file that it judged. -/
theorem step_invariant (h : Invariant s) {e : Event} (hkeep : KeepsLocks s e) :
    Invariant (step s e) := by
  cases e with
  | mutate c =>
    simp only [step]
    split_ifs with hc
    · exact h.put_quiet hc.1 (Or.inl rfl) nofun nofun nofun
    · exact h
  | next c =>
    simp only [step]
    split_ifs with hc
    · exact h.advance hc hkeep
    · exact h
  | fault c =>
    simp only [step]
    split_ifs with hc
    · exact h.fail hc
    · exact h
  | unlock p => exact ⟨h.sound, h.created, h.judged, h.stale, h.loaded, h.kept, h.known, h.apart⟩
  | tick ms => exact ⟨h.sound, h.created, h.judged, h.stale, h.loaded, h.kept, h.known, h.apart⟩
  | exit p =>
    simp only [step]
    split_ifs with hp
    · refine h.stay rfl rfl rfl rfl (fun d => ?_) (fun d f hd => Or.inl hd)
        (fun d i hd => Or.inl hd) (fun d i disk ha hd => Or.inl ⟨(List.mem_filter.1 ha).1, hd⟩)
        (fun d hd => ?_) fun q hq hx => ?_
      · unfold State.owns
        by_cases hd : d.proc = p
        · exact Or.inl (if_neg (by simp [hd]))
        · exact Or.inr (by simp [hd])
      · by_cases hdp : d.proc = p
        · exact Or.inr (by simp [hdp])
        · rcases h.known d hd with ha | hx
          · exact Or.inl (by simp [ha, hdp])
          · exact Or.inr (List.mem_cons_of_mem _ hx)
      · obtain ⟨ha, hne⟩ := List.mem_filter.1 hq
        rcases List.mem_cons.1 hx with rfl | hx
        · simp at hne
        · exact h.apart q ha hx
    · exact h
  | spawn p =>
    simp only [step]
    split_ifs with hp
    · -- the calls of a new process are idle
      have hidle : ∀ d : Call, d.proc = p → s.pc d = .idle := by
        intro d hd
        by_contra hne
        rcases h.known d hne with ha | hx
        · exact hp.1 (hd ▸ ha)
        · exact hp.2 (hd ▸ hx)
      refine h.stay rfl rfl rfl rfl (fun d => ?_) (fun d f hd => Or.inl hd)
        (fun d i hd => Or.inl hd) (fun d i disk ha hd => ?_) (fun d hd => ?_) fun q hq hx => ?_
      · unfold State.owns
        by_cases hd : d.proc = p
        · exact Or.inl (by simp [hidle d hd, Pc.owned])
        · exact Or.inr (by simp [hd])
      · rcases List.mem_cons.1 ha with hdp | ha
        · have hd' : s.pc d = .commit i disk := hd
          rw [hidle d hdp] at hd'; cases hd'
        · exact Or.inl ⟨ha, hd⟩
      · rcases h.known d hd with ha | hx
        · exact Or.inl (List.mem_cons_of_mem _ ha)
        · exact Or.inr hx
      · rcases List.mem_cons.1 hq with rfl | hq
        · exact hp.2 hx
        · exact h.apart q hq hx
    · exact h

end OfflineWebArchiver.VaultLock
