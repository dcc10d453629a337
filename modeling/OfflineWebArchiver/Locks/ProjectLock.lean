import OfflineWebArchiver.Lib.LockFile
import OfflineWebArchiver.Lib.Run

/-!
# The project lock

`acquireProjectLock` and `release` as they run in any number of processes, one atomic
file operation after the other.

* `step`: the next operation of one call, the exit of a process, the start of one.
* `Invariant`, `step_invariant`: what every step keeps, provided that a takeover finds the
  file that it read (`TakesReadFile`).
-/

namespace OfflineWebArchiver.ProjectLock

/-- What `parseLock` makes of a lock file, without the fields that nothing decides on. -/
structure LockRecord where
  instanceId : ℕ
  pid : ℕ
  hostname : String
deriving DecidableEq

/-- The file at the lock path. `inode` tells it from the files that were there before;
`record` is empty until the record is written, and `parseLock` rejects such a file. -/
structure LockFile where
  inode : ℕ
  record : Option LockRecord
deriving DecidableEq

/-- A process. Two processes of one host may get the same pid, one after the other. -/
structure Proc where
  hostname : String
  pid : ℕ
  start : ℕ
deriving DecidableEq

/-- A call of `acquireProjectLock` and the lock that it returns. -/
structure Call where
  proc : Proc
  serial : ℕ
deriving DecidableEq

/-- Where a call stands. The file operation named is the next one. -/
inductive Pc
  | idle
  /-- `open(lockPath, "wx")`, at the first try. -/
  | create
  /-- `readFile(lockPath)`, after EEXIST. -/
  | read
  /-- `processIsAlive(existing.pid)`; `inode` is the file that was read. -/
  | check (inode : ℕ) (existing : LockRecord)
  /-- `unlink(lockPath)` of a stale lock; `inode` is the file that was read. -/
  | unlink (inode : ℕ)
  /-- `open(lockPath, "wx")`, after the unlink. -/
  | createAgain
  /-- `handle.writeFile(...)` into the new file. -/
  | write (inode : ℕ) (record : LockRecord)
  /-- The lock is returned. -/
  | held (inode : ℕ) (record : LockRecord)
  /-- `readFile(lockPath)` of `release`. -/
  | releaseRead (inode : ℕ) (record : LockRecord)
  /-- `unlink(lockPath)` of `release`. -/
  | releaseUnlink (inode : ℕ) (record : LockRecord)
deriving DecidableEq

structure State where
  file : Option LockFile
  /-- The next inode and the next random instance id: new for every file. -/
  fresh : ℕ
  alive : List Proc
  exited : List Proc
  pc : Call → Pc

inductive Event
  | acquire (c : Call)
  | next (c : Call)
  | release (c : Call)
  /-- An operation fails for another reason, and the call throws. -/
  | fault (c : Call)
  | exit (p : Proc)
  | spawn (p : Proc)
deriving DecidableEq

def State.put (s : State) (c : Call) (pc : Pc) : State := { s with pc := Function.update s.pc c pc }

/-- `processIsAlive(pid)` on a host. -/
def processIsAlive (s : State) (hostname : String) (pid : ℕ) : Bool :=
  s.alive.any fun p => p.hostname == hostname && p.pid == pid

/-- `open(lockPath, "wx")`; `exists` is where the call goes on after EEXIST. -/
def openExclusive (s : State) (c : Call) (onExists : Pc) : State :=
  match s.file with
  | some _ => s.put c onExists
  | none =>
    { s with file := some ⟨s.fresh, none⟩, fresh := s.fresh + 1 }.put c
      (.write s.fresh ⟨s.fresh, c.proc.pid, c.proc.hostname⟩)

/-- Write the record into the file with this inode; another file at the path stays as it is. -/
def LockFile.fill (inode : ℕ) (record : LockRecord) (f : LockFile) : LockFile :=
  if f.inode = inode then { f with record := some record } else f

/-- The next operation of a call. A call that throws becomes idle. -/
def advance (s : State) (c : Call) : State :=
  match s.pc c with
  | .create => openExclusive s c .read
  | .read =>
    match s.file with
    | some ⟨inode, some existing⟩ => s.put c (.check inode existing)
    | _ => s.put c .idle
  | .check inode existing =>
    if existing.hostname ≠ c.proc.hostname ∨ processIsAlive s c.proc.hostname existing.pid then
      s.put c .idle
    else s.put c (.unlink inode)
  | .unlink _ =>
    match s.file with
    | some _ => { s with file := none }.put c .createAgain
    | none => s.put c .idle
  | .createAgain => openExclusive s c .idle
  | .write inode record =>
    { s with file := s.file.map (LockFile.fill inode record) }.put c (.held inode record)
  | .releaseRead inode record =>
    match s.file with
    | some ⟨_, some active⟩ =>
      if active.instanceId = record.instanceId then s.put c (.releaseUnlink inode record)
      else s.put c .idle
    | _ => s.put c .idle
  | .releaseUnlink _ _ => { s with file := none }.put c .idle
  | .idle | .held _ _ => s

/-- A step of the system. Only calls of live processes take steps. -/
def step (s : State) : Event → State
  | .acquire c => if c.proc ∈ s.alive ∧ s.pc c = .idle then s.put c .create else s
  | .next c => if c.proc ∈ s.alive then advance s c else s
  | .release c =>
    match s.pc c with
    | .held inode record => if c.proc ∈ s.alive then s.put c (.releaseRead inode record) else s
    | _ => s
  | .fault c =>
    match s.pc c with
    | .idle | .held _ _ => s
    | _ => if c.proc ∈ s.alive then s.put c .idle else s
  | .exit p => if p ∈ s.alive then { s with alive := s.alive.filter (· ≠ p), exited := p :: s.exited } else s
  | .spawn p => if p ∉ s.alive ∧ p ∉ s.exited then { s with alive := p :: s.alive } else s

/-- The file that a call has created and not removed, and what it holds of its record. -/
def Pc.owned : Pc → Option LockFile
  | .write inode _ => some ⟨inode, none⟩
  | .held inode record | .releaseRead inode record | .releaseUnlink inode record =>
    some ⟨inode, some record⟩
  | _ => none

/-- The record of a call that has created a file. -/
def Pc.record : Pc → Option LockRecord
  | .write _ record | .held _ record | .releaseRead _ record | .releaseUnlink _ record => some record
  | _ => none

/-- The file of a call of a live process. -/
def State.owns (s : State) (c : Call) : Option LockFile :=
  if c.proc ∈ s.alive then (s.pc c).owned else none

/-- The lock as files and holders. -/
def State.lock (s : State) : Lock Call :=
  { file := s.file.map (·.inode), owns := fun c => (s.owns c).map (·.inode), fresh := s.fresh }

/-- The condition on a step: a takeover finds the file that it read, or none. -/
def TakesReadFile (s : State) : Event → Prop
  | .next c =>
    match s.pc c with
    | .unlink inode => ∀ f ∈ s.file, f.inode = inode
    | _ => True
  | _ => True

instance (s : State) (e : Event) : Decidable (TakesReadFile s e) := by
  unfold TakesReadFile
  split
  · split <;> infer_instance
  · infer_instance

/-- **The invariant.** -/
structure Invariant (s : State) : Prop where
  /-- The file of a live holder is at the path. -/
  sound : s.lock.Sound
  /-- It holds what its holder has written. -/
  written : ∀ c f, s.owns c = some f → s.file = some f
  /-- A record names the process that made it. -/
  named : ∀ c r, (s.pc c).record = some r → r.hostname = c.proc.hostname ∧ r.pid = c.proc.pid
  /-- A record that was read is that of the holder, while the holder lives. -/
  checked : ∀ c inode r, s.pc c = .check inode r → inode < s.fresh ∧
    ∀ d f, s.owns d = some f → f.inode = inode → r.hostname = d.proc.hostname ∧ r.pid = d.proc.pid
  /-- A lock that was found stale has no live holder. -/
  stale : ∀ c inode, s.pc c = .unlink inode → inode < s.fresh ∧
    ∀ d f, s.owns d = some f → f.inode ≠ inode
  known : ∀ c, s.pc c ≠ .idle → c.proc ∈ s.alive ∨ c.proc ∈ s.exited
  apart : ∀ p ∈ s.alive, p ∉ s.exited

variable {s s' : State} {c d : Call} {f : LockFile}

theorem owns_put (pc : Pc) : (s.put c pc).owns d =
    if d = c then (if c.proc ∈ s.alive then pc.owned else none) else s.owns d := by
  unfold State.owns State.put
  by_cases h : d = c
  · subst h; simp
  · simp [h]

theorem put_pc_self (pc : Pc) : (s.put c pc).pc c = pc := Function.update_self ..

theorem put_pc_ne (pc : Pc) (h : d ≠ c) : (s.put c pc).pc d = s.pc d := Function.update_of_ne h ..

theorem owns_eq (h : c.proc ∈ s.alive) : s.owns c = (s.pc c).owned := if_pos h

theorem Invariant.unique (h : Invariant s) {g : LockFile} (hc : s.owns c = some f)
    (hd : s.owns d = some g) : d = c :=
  h.sound.unique (i := g.inode) (j := f.inode) (by simp [State.lock, hd]) (by simp [State.lock, hc])

/-- A step that leaves the file alone and adds no holder. -/
theorem Invariant.stay (h : Invariant s) (hfile : s'.file = s.file) (hfresh : s'.fresh = s.fresh)
    (howns : ∀ d, s'.owns d = none ∨ s'.owns d = s.owns d)
    (hrecord : ∀ d r, (s'.pc d).record = some r → (s.pc d).record = some r)
    (hcheck : ∀ d inode r, s'.pc d = .check inode r → s.pc d = .check inode r ∨ inode < s.fresh ∧
      ∀ e f, s.owns e = some f → f.inode = inode → r.hostname = e.proc.hostname ∧ r.pid = e.proc.pid)
    (hstale : ∀ d inode, s'.pc d = .unlink inode → s.pc d = .unlink inode ∨ inode < s.fresh ∧
      ∀ e f, s.owns e = some f → f.inode ≠ inode)
    (hknown : ∀ d, s'.pc d ≠ .idle → d.proc ∈ s'.alive ∨ d.proc ∈ s'.exited)
    (hapart : ∀ p ∈ s'.alive, p ∉ s'.exited) : Invariant s' := by
  have hback : ∀ {d f}, s'.owns d = some f → s.owns d = some f := by
    intro d f hd
    rcases howns d with hn | he
    · rw [hn] at hd; cases hd
    · rw [← he]; exact hd
  have hmove : Lock.Move s.lock s'.lock := by
    refine .stay (by simp [State.lock, hfile]) hfresh fun d => ?_
    rcases howns d with hn | he
    · exact Or.inl (by simp [State.lock, hn])
    · exact Or.inr (by simp [State.lock, he])
  refine ⟨hmove.sound h.sound, fun d f hd => ?_, fun d r hr => h.named d r (hrecord d r hr),
    fun d inode r hd => ?_, fun d inode hd => ?_, hknown, hapart⟩
  · rw [hfile]
    exact h.written d f (hback hd)
  · rw [hfresh]
    have hold : inode < s.fresh ∧ ∀ e f, s.owns e = some f → f.inode = inode →
        r.hostname = e.proc.hostname ∧ r.pid = e.proc.pid := by
      rcases hcheck d inode r hd with hd | hd
      · exact h.checked d inode r hd
      · exact hd
    exact ⟨hold.1, fun e f he => hold.2 e f (hback he)⟩
  · rw [hfresh]
    have hold : inode < s.fresh ∧ ∀ e f, s.owns e = some f → f.inode ≠ inode := by
      rcases hstale d inode hd with hd | hd
      · exact h.stale d inode hd
      · exact hd
    exact ⟨hold.1, fun e f he => hold.2 e f (hback he)⟩

/-- A call that goes on to a point where it holds no more than before. -/
theorem Invariant.put (h : Invariant s) (hc : c.proc ∈ s.alive) {pc : Pc}
    (howned : pc.owned = none ∨ pc.owned = (s.pc c).owned)
    (hrecord : ∀ r, pc.record = some r → (s.pc c).record = some r)
    (hcheck : ∀ inode r, pc = .check inode r → inode < s.fresh ∧
      ∀ e f, s.owns e = some f → f.inode = inode → r.hostname = e.proc.hostname ∧ r.pid = e.proc.pid)
    (hstale : ∀ inode, pc = .unlink inode → inode < s.fresh ∧
      ∀ e f, s.owns e = some f → f.inode ≠ inode) : Invariant (s.put c pc) := by
  have hpc : ∀ d, d = c ∧ (s.put c pc).pc d = pc ∨ d ≠ c ∧ (s.put c pc).pc d = s.pc d := by
    intro d
    by_cases hd : d = c
    · exact Or.inl ⟨hd, by rw [hd, put_pc_self]⟩
    · exact Or.inr ⟨hd, put_pc_ne pc hd⟩
  refine h.stay rfl rfl (fun d => ?_) (fun d r hr => ?_) (fun d inode r hd => ?_)
    (fun d inode hd => ?_) (fun d hd => ?_) h.apart
  · rw [owns_put]
    split_ifs with hd
    · rw [hd, owns_eq hc]; exact howned
    · exact Or.inr rfl
  · rcases hpc d with ⟨rfl, he⟩ | ⟨-, he⟩
    · rw [he] at hr; exact hrecord r hr
    · rw [he] at hr; exact hr
  · rcases hpc d with ⟨-, he⟩ | ⟨-, he⟩
    · rw [he] at hd; exact Or.inr (hcheck inode r hd)
    · rw [he] at hd; exact Or.inl hd
  · rcases hpc d with ⟨-, he⟩ | ⟨-, he⟩
    · rw [he] at hd; exact Or.inr (hstale inode hd)
    · rw [he] at hd; exact Or.inl hd
  · rcases hpc d with ⟨rfl, -⟩ | ⟨-, he⟩
    · exact Or.inl hc
    · rw [he] at hd; exact h.known d hd

/-- A call that holds nothing goes on to a point where it claims nothing. -/
theorem Invariant.put_quiet (h : Invariant s) (hc : c.proc ∈ s.alive) {pc : Pc}
    (howned : pc.owned = none) (hrecord : pc.record = none) (hcheck : ∀ i r, pc ≠ .check i r)
    (hstale : ∀ i, pc ≠ .unlink i) : Invariant (s.put c pc) :=
  h.put hc (Or.inl howned) (fun r hr => by rw [hrecord] at hr; cases hr)
    (fun i r hi => absurd hi (hcheck i r)) (fun i hi => absurd hi (hstale i))

theorem Invariant.idle (h : Invariant s) (hc : c.proc ∈ s.alive) : Invariant (s.put c .idle) :=
  h.put_quiet hc rfl rfl nofun nofun

/-- **Exclusive creation.** -/
theorem Invariant.openExclusive (h : Invariant s) (hc : c.proc ∈ s.alive) {onExists : Pc}
    (hq : Invariant (s.put c onExists)) : Invariant (openExclusive s c onExists) := by
  unfold ProjectLock.openExclusive
  cases hfile : s.file with
  | some f => exact hq
  | none =>
    simp only
    set s' : State := { s with file := some ⟨s.fresh, none⟩, fresh := s.fresh + 1 } with hs'
    set pc : Pc := .write s.fresh ⟨s.fresh, c.proc.pid, c.proc.hostname⟩ with hpc
    have hnone : ∀ d f, s.owns d ≠ some f := by
      intro d f hd
      rw [h.written d f hd] at hfile
      cases hfile
    have howns : ∀ d f, (s'.put c pc).owns d = some f → d = c ∧ f = ⟨s.fresh, none⟩ := by
      intro d f hd
      rw [owns_put] at hd
      split_ifs at hd with hdc
      · exact ⟨hdc, (Option.some.inj hd).symm⟩
      · exact absurd hd (hnone d f)
    have hpc' : ∀ d, d ≠ c → (s'.put c pc).pc d = s.pc d := fun d hd => put_pc_ne pc hd
    have hmove : Lock.Move s.lock (s'.put c pc).lock := by
      refine .create c (by simp [State.lock, hfile]) rfl rfl ?_ fun d hd => Or.inl ?_
      · simp [State.lock, owns_put, hs', hc, hpc, Pc.owned]
      · cases hd' : (s'.put c pc).owns d with
        | none => simp [State.lock, hd']
        | some f => exact absurd (howns d f hd').1 hd
    refine ⟨hmove.sound h.sound, fun d f hd => ?_, fun d r hr => ?_, fun d inode r hd => ?_,
      fun d inode hd => ?_, fun d hd => ?_, h.apart⟩
    · rw [(howns d f hd).2]; rfl
    · by_cases hdc : d = c
      · rw [hdc, put_pc_self] at hr
        rw [hdc, ← Option.some.inj hr]
        exact ⟨rfl, rfl⟩
      · rw [hpc' d hdc] at hr; exact h.named d r hr
    · have hdc : d ≠ c := by
        rintro rfl
        rw [put_pc_self, hpc] at hd; cases hd
      rw [hpc' d hdc] at hd
      have hlt := (h.checked d inode r hd).1
      refine ⟨Nat.lt_succ_of_lt hlt, fun e f he hi => ?_⟩
      rw [(howns e f he).2] at hi
      exact absurd hi (Nat.ne_of_gt hlt)
    · have hdc : d ≠ c := by
        rintro rfl
        rw [put_pc_self, hpc] at hd; cases hd
      rw [hpc' d hdc] at hd
      have hlt := (h.stale d inode hd).1
      refine ⟨Nat.lt_succ_of_lt hlt, fun e f he => ?_⟩
      rw [(howns e f he).2]
      exact Nat.ne_of_gt hlt
    · by_cases hdc : d = c
      · rw [hdc]; exact Or.inl hc
      · rw [hpc' d hdc] at hd; exact h.known d hd

/-- The file is removed and nobody has held it, or its holder has removed it. -/
theorem Invariant.remove (h : Invariant s) (hc : c.proc ∈ s.alive) {pc : Pc}
    (hmine : ∀ d f, s.owns d = some f → d = c) (howned : pc.owned = none)
    (hrecord : pc.record = none) (hcheck : ∀ i r, pc ≠ .check i r) (hstale : ∀ i, pc ≠ .unlink i) :
    Invariant ({ s with file := none }.put c pc) := by
  have hnone : ∀ d f, ({ s with file := none }.put c pc).owns d ≠ some f := by
    intro d f hd
    rw [owns_put] at hd
    split_ifs at hd with hdc
    · rw [howned] at hd; cases hd
    · exact hdc (hmine d f hd)
  have hquiet := h.put_quiet hc howned hrecord hcheck hstale
  refine ⟨Lock.sound_of_free rfl fun d i hd => ?_, fun d f hd => absurd hd (hnone d f),
    hquiet.named, fun d inode r hd => ?_, fun d inode hd => ?_, hquiet.known, h.apart⟩
  · obtain ⟨f, hf, -⟩ := Option.map_eq_some_iff.1 hd
    exact hnone d f hf
  · exact ⟨(hquiet.checked d inode r hd).1, fun e f he => absurd he (hnone e f)⟩
  · exact ⟨(hquiet.stale d inode hd).1, fun e f he => absurd he (hnone e f)⟩

/-- **The record is written** into the file of the call that created it. -/
theorem Invariant.write (h : Invariant s) (hc : c.proc ∈ s.alive) {inode : ℕ} {record : LockRecord}
    (hpc : s.pc c = .write inode record) :
    Invariant ({ s with file := s.file.map (LockFile.fill inode record) }.put c (.held inode record)) := by
  have hown : s.owns c = some ⟨inode, none⟩ := by rw [owns_eq hc, hpc]; rfl
  have hfile := h.written c _ hown
  set s' : State := { s with file := s.file.map (LockFile.fill inode record) } with hs'
  have hfile' : s'.file = some ⟨inode, some record⟩ := by
    rw [hs']; simp [hfile, LockFile.fill]
  have howns : ∀ d f, (s'.put c (.held inode record)).owns d = some f →
      d = c ∧ f = ⟨inode, some record⟩ := by
    intro d f hd
    rw [owns_put] at hd
    split_ifs at hd with hdc
    · exact ⟨hdc, (Option.some.inj hd).symm⟩
    · exact absurd (h.unique hown hd) hdc
  have hpc' : ∀ d, d ≠ c → (s'.put c (.held inode record)).pc d = s.pc d := fun d hd => put_pc_ne _ hd
  have hmove : Lock.Move s.lock (s'.put c (.held inode record)).lock := by
    refine .stay ?_ rfl fun d => ?_
    · change s'.file.map (·.inode) = s.file.map (·.inode)
      rw [hfile', hfile]; rfl
    · cases hd : (s'.put c (.held inode record)).owns d with
      | none => exact Or.inl (by simp [State.lock, hd])
      | some f =>
        obtain ⟨rfl, rfl⟩ := howns d f hd
        exact Or.inr (by simp [State.lock, hd, hown])
  refine ⟨hmove.sound h.sound, fun d f hd => ?_, fun d r hr => ?_, fun d i r hd => ?_,
    fun d i hd => ?_, fun d hd => ?_, h.apart⟩
  · rw [(howns d f hd).2]; exact hfile'
  · by_cases hdc : d = c
    · rw [hdc, put_pc_self] at hr
      rw [hdc]
      exact h.named c r (by rw [hpc]; exact hr)
    · rw [hpc' d hdc] at hr; exact h.named d r hr
  · have hdc : d ≠ c := by
      rintro rfl
      rw [put_pc_self] at hd; cases hd
    rw [hpc' d hdc] at hd
    obtain ⟨hlt, hmatch⟩ := h.checked d i r hd
    refine ⟨hlt, fun e f he hi => ?_⟩
    obtain ⟨rfl, rfl⟩ := howns e f he
    exact hmatch e _ hown hi
  · have hdc : d ≠ c := by
      rintro rfl
      rw [put_pc_self] at hd; cases hd
    rw [hpc' d hdc] at hd
    obtain ⟨hlt, hno⟩ := h.stale d i hd
    refine ⟨hlt, fun e f he => ?_⟩
    obtain ⟨rfl, rfl⟩ := howns e f he
    exact hno e ⟨inode, none⟩ hown
  · by_cases hdc : d = c
    · rw [hdc]; exact Or.inl hc
    · rw [hpc' d hdc] at hd; exact h.known d hd

/-- **One operation of a call.** -/
theorem Invariant.advance (h : Invariant s) (hc : c.proc ∈ s.alive)
    (hread : TakesReadFile s (.next c)) : Invariant (advance s c) := by
  unfold ProjectLock.advance
  cases hpc : s.pc c with
  | idle => exact h
  | held inode record => exact h
  | create => exact h.openExclusive hc (h.put_quiet hc rfl rfl nofun nofun)
  | createAgain => exact h.openExclusive hc (h.idle hc)
  | read =>
    simp only
    split
    · next inode existing hfile =>
      refine h.put hc (Or.inl rfl) nofun (fun i r hi => ?_) nofun
      obtain ⟨rfl, rfl⟩ := Pc.check.inj hi
      refine ⟨h.sound.fresh _ (by simp [State.lock, hfile]), fun e f he _ => ?_⟩
      -- the file that was read is that of a live holder: the record is the holder's own
      have hf := h.written e f he
      rw [hfile] at hf
      obtain rfl := Option.some.inj hf
      refine h.named e existing ?_
      unfold State.owns at he
      split_ifs at he
      cases hpe : s.pc e <;> rw [hpe] at he <;> simp_all [Pc.owned, Pc.record]
    · exact h.idle hc
  | check inode existing =>
    simp only
    split_ifs with hlive
    · exact h.idle hc
    · refine h.put hc (Or.inl rfl) nofun nofun fun i hi => ?_
      obtain rfl := Pc.unlink.inj hi
      obtain ⟨hlt, hmatch⟩ := h.checked c _ existing hpc
      refine ⟨hlt, fun e f he hi => hlive ?_⟩
      -- a live holder would be found alive under the pid of its record
      obtain ⟨hhost, hpid⟩ := hmatch e f he hi
      have halive : e.proc ∈ s.alive := by
        unfold State.owns at he
        split_ifs at he with ha
        exact ha
      by_cases hsame : existing.hostname = c.proc.hostname
      · refine Or.inr (List.any_eq_true.2 ⟨e.proc, halive, ?_⟩)
        simp [← hhost, hpid, hsame]
      · exact Or.inl hsame
  | unlink inode =>
    simp only
    split
    · next f hfile =>
      have hi : f.inode = inode := by
        simp only [TakesReadFile, hpc] at hread
        exact hread f hfile
      have hno := (h.stale c inode hpc).2
      refine h.remove hc (fun d g hd => ?_) rfl rfl nofun nofun
      have hg := h.written d g hd
      rw [hfile] at hg
      exact absurd (Option.some.inj hg ▸ hi) (hno d g hd)
    · exact h.idle hc
  | write inode record => exact h.write hc hpc
  | releaseRead inode record =>
    simp only
    split
    · split_ifs
      · refine h.put hc (Or.inr (by rw [hpc]; rfl)) (fun r hr => ?_) nofun nofun
        rw [hpc]; exact hr
      · exact h.idle hc
    · exact h.idle hc
  | releaseUnlink inode record =>
    have hown : s.owns c = some ⟨inode, some record⟩ := by rw [owns_eq hc, hpc]; rfl
    exact h.remove hc (fun d g hd => h.unique hown hd) rfl rfl nofun nofun

/-- **Every step keeps the invariant**, if a takeover finds the file that it read. -/
theorem step_invariant (h : Invariant s) {e : Event} (hread : TakesReadFile s e) :
    Invariant (step s e) := by
  cases e with
  | acquire c =>
    simp only [step]
    split_ifs with hc
    · exact h.put_quiet hc.1 rfl rfl nofun nofun
    · exact h
  | next c =>
    simp only [step]
    split_ifs with hc
    · exact h.advance hc hread
    · exact h
  | release c =>
    simp only [step]
    split
    · next inode record hpc =>
      split_ifs with hc
      · refine h.put hc (Or.inr (by rw [hpc]; rfl)) (fun r hr => ?_) nofun nofun
        rw [hpc]; exact hr
      · exact h
    · exact h
  | fault c =>
    simp only [step]
    split
    · exact h
    · exact h
    · split_ifs with hc
      · exact h.idle hc
      · exact h
  | exit p =>
    simp only [step]
    split_ifs with hp
    · refine h.stay rfl rfl (fun d => ?_) (fun d r hr => hr) (fun d i r hd => Or.inl hd)
        (fun d i hd => Or.inl hd) (fun d hd => ?_) fun q hq hx => ?_
      · unfold State.owns
        by_cases hd : d.proc = p
        · exact Or.inl (if_neg (by simp [hd]))
        · exact Or.inr (by simp [hd])
      · by_cases hdp : d.proc = p
        · exact Or.inr (by simp [hdp])
        · rcases h.known d hd with ha | hx
          · exact Or.inl (by simp [ha, hdp])
          · exact Or.inr (List.mem_cons_of_mem _ hx)
      · obtain ⟨ha, hne⟩ := List.mem_filter.1 hq
        rcases List.mem_cons.1 hx with rfl | hx
        · simp at hne
        · exact h.apart q ha hx
    · exact h
  | spawn p =>
    simp only [step]
    split_ifs with hp
    · -- the calls of a new process are idle
      refine h.stay rfl rfl (fun d => ?_) (fun d r hr => hr) (fun d i r hd => Or.inl hd)
        (fun d i hd => Or.inl hd) (fun d hd => ?_) fun q hq hx => ?_
      · unfold State.owns
        by_cases hd : d.proc = p
        · have hidle : s.pc d = .idle := by
            by_contra hne
            rcases h.known d hne with ha | hx
            · exact hp.1 (hd ▸ ha)
            · exact hp.2 (hd ▸ hx)
          exact Or.inl (by simp [hidle, Pc.owned])
        · exact Or.inr (by simp [hd])
      · rcases h.known d hd with ha | hx
        · exact Or.inl (List.mem_cons_of_mem _ ha)
        · exact Or.inr hx
      · rcases List.mem_cons.1 hq with rfl | hq
        · exact hp.2 hx
        · exact h.apart q hq hx
    · exact h

end OfflineWebArchiver.ProjectLock
