import OfflineWebArchiver.Lib.Run
import Mathlib.Logic.Function.Basic

/-!
# Atomic files

`atomicWriteFile` without `overwrite` and `atomicPromoteFile`, in any number of calls on one target,
one file operation after the other.

* `step`: the next operation of a call, or a failure of it.
* `Pc.passed`, `Pc.landed`, `TempOk`: how far a call is, and what its temporary file holds.
* `step_cases`: **what one step can do**: it moves one call, or its rename takes place.
-/

namespace OfflineWebArchiver.Atomic

/-- What stands at a path. -/
inductive Entry
  | file (bytes : List UInt8)
  | link
  | directory
deriving DecidableEq

/-- `atomicWriteFile(target, data)` or `atomicPromoteFile(projectRoot, source, target)`. -/
inductive Call (P : Type)
  | write (data : List UInt8)
  | promote (source : P)

/-- `PROJECT_ALREADY_EXISTS`, `PROJECT_VALIDATION_FAILED`, `PROJECT_ATOMIC_WRITE_FAILED`, or an error
of the file system that is passed on. -/
inductive AtomicError
  | alreadyExists
  | validationFailed
  | atomicWriteFailed
  | path
deriving DecidableEq

/-- Where a call stands. The file operation named is the next one. -/
inductive Pc
  | idle
  /-- `resolveProjectRelativePath` of the source. -/
  | resolve
  /-- `pathExists(target)` of `assertNoSymlinkInPath`. -/
  | lookup
  /-- `assertNotSymlink(target)` of `assertNoSymlinkInPath`. -/
  | lookupStat
  /-- `lstat(source)`. -/
  | stat
  /-- `ensureDirectoryPath(directory)`, before the check of a write. -/
  | ensure
  /-- `pathExists(target)`, the check. -/
  | check
  /-- `ensureDirectoryPath(directory)`, after the check of a promotion. -/
  | ensureParent
  /-- `pathExists(target)`, after the check. -/
  | recheck
  /-- `assertNotSymlink(target)`, after the check. -/
  | recheckStat
  /-- `open(temporary, "wx")`. -/
  | create
  /-- `handle.writeFile(data)`. -/
  | write
  /-- `handle.sync()`. -/
  | sync
  /-- `handle.close()`. -/
  | close
  /-- `rename(temporary, target)` or `rename(source, destination)`. -/
  | rename
  /-- `assertNotSymlink(destination)`. -/
  | confirm
  /-- `syncDirectory(directory)`. -/
  | syncDirectory
  /-- `rm(temporary)`, before the error is thrown. -/
  | remove (e : AtomicError)
  | done
  /-- The call has thrown; `removed` when its temporary file is not left behind by a failing `rm`. -/
  | failed (e : AtomicError) (removed : Bool)
deriving DecidableEq

/-- The target, the sources of the promotions, and the temporary file of each call, whose name is a
fresh UUID. -/
structure State (A P : Type) where
  target : Option Entry
  sources : P → Option Entry
  temporary : A → Option (List UInt8)
  pc : A → Pc

inductive Event (A : Type)
  | start (c : A)
  | next (c : A)
  /-- The next operation fails; a failing write leaves `left` in the temporary file. -/
  | fault (c : A) (left : List UInt8)
deriving DecidableEq

variable {A P : Type} [DecidableEq A]

def State.put (s : State A P) (c : A) (pc : Pc) : State A P := { s with pc := Function.update s.pc c pc }

/-- Leave these bytes in the temporary file of the call, or remove it. -/
def State.keep (s : State A P) (c : A) (bytes : Option (List UInt8)) : State A P :=
  { s with temporary := Function.update s.temporary c bytes }

variable (calls : A → Call P)

/-- `assertNotSymlink(target)`, and what follows it. -/
def assertNotSymlink (s : State A P) (c : A) (missing next : Pc) : State A P :=
  match s.target with
  | none => s.put c missing
  | some .link => s.put c (.failed .validationFailed true)
  | some _ => s.put c next

/-! ### How far a call is -/

/-- The call has found no file at the target, and nothing has failed since. -/
def Pc.passed : Pc → Bool
  | .ensureParent | .recheck | .recheckStat | .create | .write | .sync | .close | .rename | .confirm | .syncDirectory |
    .done => true
  | _ => false

/-- The rename of the call has been done, and nothing has failed since. -/
def Pc.landed : Pc → Bool
  | .confirm | .syncDirectory | .done => true
  | _ => false

/-- What the call writes. -/
def Call.data : Call P → Option (List UInt8)
  | .write data => some data
  | .promote _ => none

/-- What the temporary file of a call holds. -/
def TempOk (call : Call P) : Pc → Option (List UInt8) → Prop
  | .write, _ | .remove _, _ | .failed _ false, _ => True
  | .sync, temporary | .close, temporary | .rename, temporary => temporary = call.data
  | _, temporary => temporary = none

/-- What an operation of a call does, if it is no rename that takes place. -/
structure Move (call : Call P) (target : Option Entry) (pc next : Pc) (temporary kept : Option (List UInt8)) : Prop where
  passes : next.passed = true → pc.passed = true ∨ target = none
  lands : next.landed = true → pc.landed = true
  temp : TempOk call pc temporary → TempOk call next kept

section Moves

variable {calls} {s : State A P} {c : A} {next : Pc} {kept : Option (List UInt8)}

/-- The state after a move. -/
def Moves (calls : A → Call P) (s : State A P) (c : A) (t : State A P) : Prop :=
  ∃ next kept, t = (s.keep c kept).put c next ∧ Move (calls c) s.target (s.pc c) next (s.temporary c) kept

theorem moves_put (h : Move (calls c) s.target (s.pc c) next (s.temporary c) (s.temporary c)) :
    Moves calls s c (s.put c next) := by
  refine ⟨next, s.temporary c, ?_, h⟩
  unfold State.keep
  rw [Function.update_eq_self]

theorem moves_keep (h : Move (calls c) s.target (s.pc c) next (s.temporary c) kept) :
    Moves calls s c ((s.keep c kept).put c next) :=
  ⟨next, kept, rfl, h⟩

theorem moves_self : Moves calls s c s := by
  refine ⟨s.pc c, s.temporary c, ?_, ⟨.inl, id, id⟩⟩
  unfold State.keep State.put
  rw [Function.update_eq_self, Function.update_eq_self]

theorem moves_assertNotSymlink {missing : Pc}
    (hmissing : Move (calls c) s.target (s.pc c) missing (s.temporary c) (s.temporary c))
    (hlink : Move (calls c) s.target (s.pc c) (.failed .validationFailed true) (s.temporary c) (s.temporary c))
    (hnext : Move (calls c) s.target (s.pc c) next (s.temporary c) (s.temporary c)) :
    Moves calls s c (assertNotSymlink s c missing next) := by
  unfold assertNotSymlink
  split
  · exact moves_put hmissing
  · exact moves_put hlink
  · exact moves_put hnext

end Moves

/-! ### Steps -/

variable [DecidableEq P]

/-- The rename of a call. A directory at the target is not replaced. -/
def rename (s : State A P) (c : A) : State A P :=
  match calls c with
  | .write _ =>
    match s.target, s.temporary c with
    | some .directory, _ | _, none => s.put c (.remove .atomicWriteFailed)
    | _, some bytes => ({ s with target := some (.file bytes) }.keep c none).put c .syncDirectory
  | .promote source =>
    match s.target, s.sources source with
    | some .directory, _ | _, none => s.put c (.failed .atomicWriteFailed true)
    | _, some entry =>
      { s with target := some entry, sources := Function.update s.sources source none }.put c .confirm

/-- The next operation of a call. -/
def advance (s : State A P) (c : A) : State A P :=
  match s.pc c, calls c with
  | .resolve, .promote source =>
    s.put c (if s.sources source = some .link then .failed .validationFailed true else .lookup)
  | .lookup, .write _ => s.put c (if s.target = none then .ensure else .lookupStat)
  | .lookup, .promote _ => s.put c (if s.target = none then .stat else .lookupStat)
  | .lookupStat, .write _ => assertNotSymlink s c (.failed .path true) .ensure
  | .lookupStat, .promote _ => assertNotSymlink s c (.failed .validationFailed true) .stat
  | .stat, .promote source =>
    match s.sources source with
    | some (.file _) => s.put c .check
    | _ => s.put c (.failed .validationFailed true)
  | .check, .write _ => s.put c (if s.target = none then .recheck else .failed .alreadyExists true)
  | .check, .promote _ => s.put c (if s.target = none then .ensureParent else .failed .alreadyExists true)
  | .ensure, .write _ => s.put c .check
  | .ensureParent, .promote _ => s.put c .rename
  | .recheck, .write _ => s.put c (if s.target = none then .create else .recheckStat)
  | .recheckStat, .write _ => assertNotSymlink s c (.failed .path true) .create
  | .create, .write _ => (s.keep c (some [])).put c .write
  | .write, .write data => (s.keep c (some data)).put c .sync
  | .sync, .write _ => s.put c .close
  | .close, .write _ => s.put c .rename
  | .rename, _ => rename calls s c
  | .confirm, .promote _ => assertNotSymlink s c (.failed .atomicWriteFailed true) .syncDirectory
  | .syncDirectory, _ => s.put c .done
  | .remove e, _ => (s.keep c none).put c (.failed e true)
  | _, _ => s

/-- The next operation of a call fails. -/
def fail (s : State A P) (c : A) (left : List UInt8) : State A P :=
  match s.pc c, calls c with
  | .resolve, _ | .stat, _ | .lookup, .promote _ | .lookupStat, .promote _ => s.put c (.failed .validationFailed true)
  | .lookup, .write _ | .lookupStat, .write _ | .check, _ | .ensure, _ | .ensureParent, _ | .recheck, _ |
    .recheckStat, _ =>
    s.put c (.failed .path true)
  | .write, _ => (s.keep c (some left)).put c (.remove .atomicWriteFailed)
  | .create, _ | .sync, _ | .close, _ | .rename, .write _ | .syncDirectory, .write _ =>
    s.put c (.remove .atomicWriteFailed)
  | .rename, .promote _ | .confirm, _ | .syncDirectory, .promote _ => s.put c (.failed .atomicWriteFailed true)
  | .remove e, _ => s.put c (.failed e false)
  | .idle, _ | .done, _ | .failed _ _, _ => s

/-- A step of the system. -/
def step (s : State A P) : Event A → State A P
  | .start c =>
    match s.pc c, calls c with
    | .idle, .write _ => s.put c .lookup
    | .idle, .promote _ => s.put c .resolve
    | _, _ => s
  | .next c => advance calls s c
  | .fault c left => fail calls s c left

/-- The call that takes the step. -/
def Event.call : Event A → A
  | .start c | .next c | .fault c _ => c

/-- The rename of a call that takes place. -/
inductive Landing (s : State A P) (c : A) : State A P → Prop
  | write {data bytes} : calls c = .write data → s.temporary c = some bytes →
      Landing s c (({ s with target := some (.file bytes) }.keep c none).put c .syncDirectory)
  | promote {source entry} : calls c = .promote source → s.sources source = some entry →
      Landing s c ({ s with target := some entry, sources := Function.update s.sources source none }.put c .confirm)

section Steps

variable {calls} {s : State A P} {c : A}

theorem rename_cases (hpc : s.pc c = .rename) :
    Moves calls s c (rename calls s c) ∨ Landing calls s c (rename calls s c) := by
  unfold rename
  cases hcall : calls c with
  | write data =>
    simp only
    split
    · exact .inl (moves_put ⟨by simp [Pc.passed], by simp [Pc.landed], by simp [TempOk]⟩)
    · exact .inl (moves_put ⟨by simp [Pc.passed], by simp [Pc.landed], by simp [TempOk]⟩)
    · rename_i bytes htemp _
      exact .inr (.write hcall htemp)
  | promote source =>
    simp only
    split
    · exact .inl (moves_put ⟨by simp [Pc.passed], by simp [Pc.landed], by simp [hpc, hcall, TempOk, Call.data]⟩)
    · exact .inl (moves_put ⟨by simp [Pc.passed], by simp [Pc.landed], by simp [hpc, hcall, TempOk, Call.data]⟩)
    · rename_i entry hsource _
      exact .inr (.promote hcall hsource)

/-- **What the next operation can do.** -/
theorem advance_cases :
    Moves calls s c (advance calls s c) ∨ s.pc c = .rename ∧ Landing calls s c (advance calls s c) := by
  by_cases hrename : s.pc c = .rename
  · have hadvance : advance calls s c = rename calls s c := by
      unfold advance
      rw [hrename]
    rw [hadvance]
    exact (rename_cases hrename).imp_right fun h => ⟨hrename, h⟩
  · refine .inl ?_
    unfold advance
    split
    -- every other operation moves the call, under the case of its place and its kind
    all_goals first
      | exact absurd ‹s.pc c = .rename› hrename
      | exact moves_self
      | (split <;> exact moves_put (by constructor <;> simp [*, Pc.passed, Pc.landed, TempOk]))
      | exact moves_keep (by constructor <;> simp [*, Pc.passed, Pc.landed, TempOk, Call.data])
      | exact moves_put (by constructor <;> simp [*, Pc.passed, Pc.landed, TempOk, Call.data])
      | exact moves_assertNotSymlink (by constructor <;> simp [*, Pc.passed, Pc.landed, TempOk])
          (by constructor <;> simp [*, Pc.passed, Pc.landed, TempOk])
          (by constructor <;> simp [*, Pc.passed, Pc.landed, TempOk])

omit [DecidableEq P] in
/-- **What a failing operation can do.** -/
theorem fail_moves (left : List UInt8) : Moves calls s c (fail calls s c left) := by
  unfold fail
  split
  all_goals first
    | exact moves_self
    | exact moves_keep (by constructor <;> simp [*, Pc.passed, Pc.landed, TempOk, Call.data])
    | exact moves_put (by constructor <;> simp [*, Pc.passed, Pc.landed, TempOk, Call.data])

/-- **What one step can do**: it moves one call, or its rename takes place. -/
theorem step_cases (e : Event A) : Moves calls s e.call (step calls s e) ∨
    s.pc e.call = .rename ∧ e = .next e.call ∧ Landing calls s e.call (step calls s e) := by
  cases e with
  | start c =>
    refine .inl ?_
    unfold step Event.call
    simp only
    split
    · rename_i hpc _
      exact moves_put (by constructor <;> simp [hpc, Pc.passed, Pc.landed, TempOk])
    · rename_i hpc _
      exact moves_put (by constructor <;> simp [hpc, Pc.passed, Pc.landed, TempOk])
    · exact moves_self
  | next c => exact advance_cases.imp_right fun h => ⟨h.1, rfl, h.2⟩
  | fault c left => exact .inl (fail_moves left)

end Steps

end OfflineWebArchiver.Atomic
