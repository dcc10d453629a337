import Mathlib.Data.Fintype.Defs
import OfflineWebArchiver.Lib.LockFile
import OfflineWebArchiver.Lib.Run
import OfflineWebArchiver.Service.Commands

/-!
# Commands that share a project

Any number of `execute` calls whose commands name one valid project, interleaved at their
`await`s. Each passes through `withOpenProject` or `withSessionProject`, `storage.open` and
`storage.close`; what a handler does in between is left open: storage operations, uses of
the secret store, a result.

* `step`: one call runs up to its next `await`.
* `Allowed`: no call finds the project's files being opened or closed by another one, and no
  call closes the project under another one.
* `step_invariant`: under this condition every step keeps the `Invariant`.
-/

namespace OfflineWebArchiver.Service.Sharing

/-- Where a call stands. Connections to the database are numbered. -/
inductive Pc
  | idle
  /-- `validateProjectAt` of `storage.open`, begun after `since` changes of the project. -/
  | validating (since : ℕ)
  /-- `acquireProjectLock` -/
  | locking
  /-- The lock is held: the rest of `storage.open`, up to the assignment of `current`. -/
  | preparing (connection : ℕ)
  /-- The operation of the wrapper. `opened` is the connection if `openedHere`, `used` that of
  the storage operation under way, `lockedOut` if another call has locked the secret store. -/
  | inside (opened used : Option ℕ) (lockedOut : Bool)
  /-- `lockSecretStore` before `storage.close`, with the outcome of the operation. -/
  | leaving (connection : ℕ) (ok : Bool)
  /-- `storage.close` after it has set `current` to null. -/
  | closing (connection : ℕ) (ok : Bool)
  | settled (ok : Bool)
deriving DecidableEq

structure State (ι : Type) where
  /-- The connection of the current project. -/
  current : Option ℕ
  /-- The connection for which the project lock was created. -/
  lock : Option ℕ
  connected : ℕ → Bool
  /-- No connection has had this number or a later one. -/
  fresh : ℕ
  /-- How often the project has begun or ceased to change on disk. -/
  changes : ℕ
  pc : ι → Pc
  /-- The calls that failed on a project that is not open, locked, or opened anew. -/
  disturbed : ι → Bool
  /-- A call that keeps the project open has succeeded. -/
  kept : Bool

inductive Event (ι : Type)
  /-- The wrapper reads `storage.getCurrent()`. -/
  | enter (i : ι)
  /-- `validateProjectAt` ends; `ok` is what it says of a project that changes meanwhile. -/
  | validated (i : ι) (ok : Bool)
  | acquire (i : ι)
  /-- The rest of `storage.open` succeeds or fails. -/
  | prepared (i : ι) (ok : Bool)
  /-- The handler begins a storage operation. -/
  | use (i : ι)
  /-- The storage operation goes on after an `await`. -/
  | proceed (i : ι)
  | finish (i : ι)
  /-- The handler uses the secret store. -/
  | secret (i : ι)
  /-- The handler ends. -/
  | leave (i : ι) (ok : Bool)
  /-- `lockSecretStore` ends, and `storage.close` runs to its first `await`. -/
  | locked (i : ι) (ok : Bool)
  | closed (i : ι) (ok : Bool)
deriving DecidableEq

variable {ι : Type} [DecidableEq ι]

namespace State

variable (s : State ι)

def put (i : ι) (pc : Pc) : State ι := { s with pc := Function.update s.pc i pc }

def disturb (i : ι) : State ι := { s with disturbed := Function.update s.disturbed i true }

/-- A call settles; `keeps` if its wrapper keeps the project open. -/
def settle (i : ι) (keeps ok : Bool) : State ι :=
  { s with kept := s.kept || (keeps && ok) }.put i (.settled ok)

/-- The calls inside lose their secret store when another call locks it. -/
def lockOut (i : ι) : State ι :=
  { s with pc := fun j =>
      match s.pc j with
      | .inside opened used lockedOut => .inside opened used (lockedOut || decide (j ≠ i))
      | pc => pc }

end State

/-- The wrapper is `withSessionProject` with `keepOpen`. -/
def keeps (wrapper : Wrapper) : Bool := wrapper = .sessionProject true

example : keeps CommandType.otpStatus.wrapper = true ∧ keeps CommandType.sessionGet.wrapper = false := by
  decide

def step (wrapper : ι → Wrapper) (s : State ι) : Event ι → State ι
  | .enter i =>
    match s.pc i with
    | .idle =>
      match s.current with
      | none => s.put i (.validating s.changes)
      | some _ => s.put i (.inside none none false)
    | _ => s
  | .validated i ok =>
    match s.pc i with
    | .validating since =>
      -- a project at rest is valid
      if ok = true ∨ (s.changes = since ∧ s.lock = none) then s.put i .locking
      else (s.disturb i).put i (.settled false)
    | _ => s
  | .acquire i =>
    match s.pc i with
    | .locking =>
      match s.lock with
      | some _ => (s.disturb i).put i (.settled false)
      | none =>
        { s with lock := some s.fresh, connected := Function.update s.connected s.fresh true
                 fresh := s.fresh + 1, changes := s.changes + 1 }.put i (.preparing s.fresh)
    | _ => s
  | .prepared i ok =>
    match s.pc i with
    | .preparing connection =>
      if ok then { s with current := some connection }.put i (.inside (some connection) none false)
      else { s with lock := none, connected := Function.update s.connected connection false
                    changes := s.changes + 1 }.put i (.settled false)
    | _ => s
  | .use i =>
    match s.pc i with
    | .inside opened none lockedOut =>
      match s.current with
      | some connection => s.put i (.inside opened (some connection) lockedOut)
      | none => s.disturb i
    | _ => s
  | .proceed i =>
    match s.pc i with
    | .inside _ (some connection) _ => if s.connected connection then s else s.disturb i
    | _ => s
  | .finish i =>
    match s.pc i with
    | .inside opened (some _) lockedOut => s.put i (.inside opened none lockedOut)
    | _ => s
  | .secret i =>
    match s.pc i with
    | .inside _ _ true => s.disturb i
    | _ => s
  | .leave i ok =>
    match s.pc i with
    | .inside none none _ => s.settle i (keeps (wrapper i)) ok
    | .inside (some connection) none _ =>
      if keeps (wrapper i) && ok then s.settle i true true
      else (s.lockOut i).put i (.leaving connection ok)
    | _ => s
  | .locked i ok =>
    match s.pc i with
    | .leaving _ result =>
      -- `withSessionProject` swallows the failure where it keeps projects open
      if ok || keeps (wrapper i) then
        match s.current with
        | some connection =>
          { s with current := none, changes := s.changes + 1 }.put i (.closing connection result)
        | none => (s.disturb i).put i (.settled false)
      else s.put i (.settled false)
    | _ => s
  | .closed i ok =>
    match s.pc i with
    | .closing connection result =>
      { s with lock := none, connected := Function.update s.connected connection false
               changes := s.changes + 1 }.put i (.settled (result && ok))
    | _ => s

attribute [local simp] step

variable {wrapper : ι → Wrapper} {s : State ι} {i j : ι} {pc : Pc} {h : ℕ}

/-! ### The condition on a step -/

def Pc.isInside : Pc → Bool
  | .inside _ _ _ => true
  | _ => false

/-- A call may close the project: no other call is inside, and no call that keeps the
project open has succeeded. -/
def MayClose (s : State ι) (i : ι) : Prop :=
  (∀ j, j ≠ i → (s.pc j).isInside = false) ∧ s.kept = false

/-- **The condition** on a step. A call that opens the project finds it at rest while it
validates it and unlocked when it locks it; a call that has opened the project ends its use
only while no other call uses it and no call has kept it open. -/
def Allowed (wrapper : ι → Wrapper) (s : State ι) : Event ι → Prop
  | .validated i _ =>
    match s.pc i with
    | .validating since => s.changes = since ∧ s.lock = none
    | _ => True
  | .acquire i => s.pc i = .locking → s.lock = none
  | .leave i ok =>
    match s.pc i with
    | .inside (some _) none _ => (keeps (wrapper i) && ok) = true ∨ MayClose s i
    | _ => True
  | .locked i _ =>
    match s.pc i with
    | .leaving _ _ => MayClose s i
    | _ => True
  | _ => True

instance [Fintype ι] (i : ι) : Decidable (MayClose s i) :=
  inferInstanceAs (Decidable ((∀ j, j ≠ i → (s.pc j).isInside = false) ∧ s.kept = false))

instance [Fintype ι] : (e : Event ι) → Decidable (Allowed wrapper s e)
  | .validated i ok => by
    show Decidable (match s.pc i with
      | .validating since => s.changes = since ∧ s.lock = none
      | _ => True)
    cases s.pc i <;> infer_instance
  | .acquire i => inferInstanceAs (Decidable (s.pc i = .locking → s.lock = none))
  | .leave i ok => by
    show Decidable (match s.pc i with
      | .inside (some _) none _ => (keeps (wrapper i) && ok) = true ∨ MayClose s i
      | _ => True)
    cases s.pc i with
    | inside o g l => cases o <;> cases g <;> infer_instance
    | _ => infer_instance
  | .locked i ok => by
    show Decidable (match s.pc i with
      | .leaving _ _ => MayClose s i
      | _ => True)
    cases s.pc i <;> infer_instance
  | .enter _ | .prepared _ _ | .use _ | .proceed _ | .finish _ | .secret _ | .closed _ _ => .isTrue trivial

/-! ### What every step keeps -/

/-- The connection that a call has opened and not yet closed. -/
def Pc.owned : Pc → Option ℕ
  | .preparing connection | .inside (some connection) _ _ | .leaving connection _
  | .closing connection _ => some connection
  | _ => none

/-- The project lock; its holders are the calls that have opened the project. -/
def State.projectLock (s : State ι) : Lock ι := ⟨s.lock, fun i => (s.pc i).owned, s.fresh⟩

/-- What a call relies on. -/
def Relies (current lock : Option ℕ) : Pc → Prop
  | .preparing _ => current = none
  | .inside opened used lockedOut =>
    (∃ connection, current = some connection ∧ (opened = none ∨ opened = some connection) ∧
      (used = none ∨ used = some connection)) ∧ lockedOut = false
  | .leaving connection _ => current = some connection
  | .closing connection _ => current = none ∧ lock = some connection
  | _ => True

structure Invariant (s : State ι) : Prop where
  sound : s.projectLock.Sound
  current : ∀ h, s.current = some h → s.lock = some h
  connected : ∀ h, s.lock = some h → s.connected h = true
  relies : ∀ i, Relies s.current s.lock (s.pc i)
  calm : ∀ i, s.disturbed i = false
  kept : s.kept = true → s.current.isSome

/-- A call that neither opens, uses nor closes the project. -/
def Pc.bare : Pc → Bool
  | .preparing _ | .inside _ _ _ | .leaving _ _ | .closing _ _ => false
  | _ => true

theorem put_pc_self (pc : Pc) : (s.put i pc).pc i = pc := Function.update_self ..

theorem put_pc_ne (pc : Pc) (hj : j ≠ i) : (s.put i pc).pc j = s.pc j := Function.update_of_ne hj ..

theorem relies_of_bare {current lock : Option ℕ} (hb : pc.bare = true) : Relies current lock pc := by
  cases pc <;> trivial

omit [DecidableEq ι] in
theorem Invariant.unique (hs : Invariant s) {g : ℕ} (hi : (s.pc i).owned = some h)
    (hj : (s.pc j).owned = some g) : i = j :=
  hs.sound.unique hi hj

omit [DecidableEq ι] in
/-- Whoever has opened the project holds its lock. -/
theorem Invariant.locked (hs : Invariant s) (hi : (s.pc i).owned = some h) : s.lock = some h :=
  hs.sound.placed i h hi

omit [DecidableEq ι] in
/-- Beside a call that has opened the project, and with nobody inside, calls are bare. -/
theorem Invariant.bare_of_owner (hs : Invariant s) (hi : (s.pc i).owned = some h)
    (hout : ∀ j, j ≠ i → (s.pc j).isInside = false) (hj : j ≠ i) : (s.pc j).bare = true := by
  have hinside := hout j hj
  have hother : ∀ g, (s.pc j).owned ≠ some g := fun g hg => hj (hs.unique hg hi)
  cases hpc : s.pc j with
  | idle | validating | locking | settled => rfl
  | inside => rw [hpc] at hinside; cases hinside
  | preparing g => rw [hpc] at hother; exact absurd rfl (hother g)
  | leaving g => rw [hpc] at hother; exact absurd rfl (hother g)
  | closing g => rw [hpc] at hother; exact absurd rfl (hother g)

omit [DecidableEq ι] in
/-- Nobody is inside a project that is not open. -/
theorem Invariant.outside (hs : Invariant s) (hcur : s.current = none) (j : ι) :
    (s.pc j).isInside = false := by
  have hj := hs.relies j
  cases hpc : s.pc j with
  | inside o g l =>
    rw [hpc] at hj
    obtain ⟨⟨k, hk, -⟩, -⟩ := hj
    rw [hcur] at hk
    cases hk
  | _ => rfl

omit [DecidableEq ι] in
/-- Without a lock every call is bare. -/
theorem Invariant.bare_of_unlocked (hs : Invariant s) (hlock : s.lock = none) (j : ι) :
    (s.pc j).bare = true := by
  have hcur : s.current = none := by
    cases hc : s.current with
    | none => rfl
    | some k => rw [hs.current k hc] at hlock; cases hlock
  have hinside := hs.outside hcur j
  have hfree : (s.pc j).owned = none := hs.sound.free hlock j
  cases hpc : s.pc j with
  | idle | validating | locking | settled => rfl
  | inside => rw [hpc] at hinside; cases hinside
  | preparing g => rw [hpc] at hfree; cases hfree
  | leaving g => rw [hpc] at hfree; cases hfree
  | closing g => rw [hpc] at hfree; cases hfree

theorem owned_put (pc : Pc) (j : ι) :
    ((s.put i pc).pc j).owned = if j = i then pc.owned else (s.pc j).owned := by
  by_cases hj : j = i
  · subst hj; rw [put_pc_self, if_pos rfl]
  · rw [put_pc_ne _ hj, if_neg hj]

/-- A call that moves on and leaves the shared state as it is: it keeps what it owns or
gives it up. -/
theorem Invariant.put (hs : Invariant s) (howned : pc.owned = none ∨ pc.owned = (s.pc i).owned)
    (hrelies : Relies s.current s.lock pc) : Invariant (s.put i pc) := by
  refine ⟨?_, hs.current, hs.connected, fun j => ?_, hs.calm, hs.kept⟩
  · have hmove : Lock.Move s.projectLock (s.put i pc).projectLock := by
      refine .stay rfl rfl fun j => ?_
      show ((s.put i pc).pc j).owned = none ∨ ((s.put i pc).pc j).owned = (s.pc j).owned
      rw [owned_put]
      split_ifs with hj
      · subst hj; exact howned
      · exact .inr rfl
    exact hmove.sound hs.sound
  · by_cases hj : j = i
    · subst hj; rw [put_pc_self]; exact hrelies
    · rw [put_pc_ne _ hj]; exact hs.relies j

/-- A step of a call while all others are bare: the shared state may change. -/
theorem Invariant.alone {current lock : Option ℕ} {connected : ℕ → Bool} {fresh changes : ℕ}
    (hs : Invariant s) (hbare : ∀ j, j ≠ i → (s.pc j).bare = true)
    (hsound : ({ s with current, lock, connected, fresh, changes }.put i pc).projectLock.Sound)
    (hcurrent : ∀ h, current = some h → lock = some h)
    (hconnected : ∀ h, lock = some h → connected h = true)
    (hrelies : Relies current lock pc) (hkept : s.kept = true → current.isSome) :
    Invariant ({ s with current, lock, connected, fresh, changes }.put i pc) := by
  refine ⟨hsound, hcurrent, hconnected, fun j => ?_, hs.calm, hkept⟩
  by_cases hj : j = i
  · subst hj; rw [put_pc_self]; exact hrelies
  · rw [put_pc_ne _ hj]; exact relies_of_bare (hbare j hj)

theorem Invariant.settle {k ok : Bool} (hs : Invariant s)
    (hkept : k = true → ok = true → s.current.isSome) : Invariant (s.settle i k ok) := by
  have hput : Invariant (s.put i (.settled ok)) := hs.put (.inl rfl) trivial
  refine ⟨hput.sound, hput.current, hput.connected, hput.relies, hput.calm, fun hk => ?_⟩
  have hk : (s.kept || (k && ok)) = true := hk
  simp only [Bool.or_eq_true, Bool.and_eq_true] at hk
  rcases hk with hk | ⟨hk, hok⟩
  · exact hs.kept hk
  · exact hkept hk hok

/-- Locking the secret store changes nothing with nobody else inside. -/
theorem lockOut_eq (hout : ∀ j, j ≠ i → (s.pc j).isInside = false) : s.lockOut i = s := by
  have hpc : (s.lockOut i).pc = s.pc := by
    funext j
    show (match s.pc j with
      | .inside opened used lockedOut => Pc.inside opened used (lockedOut || decide (j ≠ i))
      | pc => pc) = s.pc j
    cases hj : s.pc j with
    | inside o g l =>
      by_cases hji : j = i
      · simp [hji]
      · have := hout j hji
        rw [hj] at this
        cases this
    | _ => rfl
  cases s
  unfold State.lockOut at hpc ⊢
  simp only at hpc ⊢
  rw [hpc]

/-! ### One lemma for each kind of step -/

theorem Invariant.acquire (hs : Invariant s) (hlock : s.lock = none) :
    Invariant ({ s with lock := some s.fresh, connected := Function.update s.connected s.fresh true
                        fresh := s.fresh + 1, changes := s.changes + 1 }.put i
      (.preparing s.fresh)) := by
  have hcur : s.current = none := by
    cases hc : s.current with
    | none => rfl
    | some k => rw [hs.current k hc] at hlock; cases hlock
  refine hs.alone (fun j _ => hs.bare_of_unlocked hlock j) ?_ ?_ ?_ hcur ?_
  · refine Lock.Move.sound (l := s.projectLock) ?_ hs.sound
    refine .create i hlock rfl rfl ?_ fun j hj => ?_
    · show ((s.put i (.preparing s.fresh)).pc i).owned = _
      rw [put_pc_self]
      rfl
    · exact .inr ((owned_put _ j).trans (if_neg hj))
  · intro k hk
    rw [hcur] at hk
    cases hk
  · intro k hk
    obtain rfl := Option.some.inj hk
    exact Function.update_self ..
  · intro hk
    exact absurd (hs.kept hk) (by rw [hcur]; decide)

/-- The lock is released with the connection. -/
theorem Invariant.release (hs : Invariant s) {ok : Bool} (hi : (s.pc i).owned = some h)
    (hcur : s.current = none) :
    Invariant ({ s with lock := none, connected := Function.update s.connected h false
                        changes := s.changes + 1 }.put i (.settled ok)) := by
  have hbare : ∀ j, j ≠ i → (s.pc j).bare = true := fun j hj =>
    hs.bare_of_owner hi (fun j _ => hs.outside hcur j) hj
  refine hs.alone hbare ?_ ?_ (fun k hk => by cases hk) trivial ?_
  · refine Lock.Move.sound (l := s.projectLock) ?_ hs.sound
    refine .release i h hi rfl rfl ?_ fun j hj => ?_
    · show ((s.put i (.settled ok)).pc i).owned = none
      rw [put_pc_self]
      rfl
    · exact .inr ((owned_put _ j).trans (if_neg hj))
  · intro k hk
    rw [hcur] at hk
    cases hk
  · intro hk
    exact absurd (hs.kept hk) (by rw [hcur]; decide)

/-- A call that keeps what it owns, while the current project changes. -/
theorem Invariant.switch (hs : Invariant s) {current : Option ℕ} {changes : ℕ}
    (hbare : ∀ j, j ≠ i → (s.pc j).bare = true) (howned : pc.owned = (s.pc i).owned)
    (hcurrent : ∀ h, current = some h → s.lock = some h)
    (hrelies : Relies current s.lock pc) (hkept : s.kept = true → current.isSome) :
    Invariant ({ s with current, changes }.put i pc) := by
  refine hs.alone hbare ?_ hcurrent hs.connected hrelies hkept
  refine Lock.Move.sound (l := s.projectLock) ?_ hs.sound
  refine .stay rfl rfl fun j => .inr ?_
  refine (owned_put _ j).trans ?_
  split_ifs with hj
  · subst hj; exact howned
  · rfl

omit [DecidableEq ι] in
/-- A call inside finds the project open and its secret store as it left it. -/
theorem Invariant.inside (hs : Invariant s) {o g : Option ℕ} {l : Bool}
    (hpc : s.pc i = .inside o g l) :
    ∃ k, s.current = some k ∧ s.connected k = true ∧ (o = none ∨ o = some k) ∧
      (g = none ∨ g = some k) ∧ l = false := by
  have hrel := hs.relies i
  rw [hpc] at hrel
  obtain ⟨⟨k, hk, ho, hg⟩, hl⟩ := hrel
  exact ⟨k, hk, hs.connected k (hs.current k hk), ho, hg, hl⟩

theorem Invariant.enter (hs : Invariant s) : Invariant (step wrapper s (.enter i)) := by
  simp only [step]
  cases hpc : s.pc i with
  | idle =>
    cases hcur : s.current with
    | none => exact hs.put (.inl rfl) trivial
    | some k => exact hs.put (.inl rfl) ⟨⟨k, hcur, .inl rfl, .inl rfl⟩, rfl⟩
  | _ => exact hs

theorem Invariant.validated (hs : Invariant s) {ok : Bool}
    (ha : Allowed wrapper s (.validated i ok)) : Invariant (step wrapper s (.validated i ok)) := by
  simp only [step]
  cases hpc : s.pc i with
  | validating since =>
    have hrest : s.changes = since ∧ s.lock = none := by simpa only [Allowed, hpc] using ha
    simp only [if_pos (Or.inr hrest : ok = true ∨ _)]
    exact hs.put (.inl rfl) trivial
  | _ => exact hs

/-- The lock is free for a call that finds the project at rest. -/
theorem Invariant.acquireStep (hs : Invariant s) (ha : Allowed wrapper s (.acquire i)) :
    Invariant (step wrapper s (.acquire i)) := by
  simp only [step]
  cases hpc : s.pc i with
  | locking =>
    simp only [ha hpc]
    exact hs.acquire (ha hpc)
  | _ => exact hs

theorem Invariant.prepared (hs : Invariant s) {ok : Bool} :
    Invariant (step wrapper s (.prepared i ok)) := by
  simp only [step]
  cases hpc : s.pc i with
  | preparing k =>
    have howned : (s.pc i).owned = some k := by rw [hpc]; rfl
    have hcur : s.current = none := by
      have hrel := hs.relies i
      rw [hpc] at hrel
      exact hrel
    have hlock := hs.locked howned
    split_ifs
    · refine hs.switch (fun j hj => hs.bare_of_owner howned (fun j _ => hs.outside hcur j) hj)
        (by rw [howned]; rfl) ?_ ⟨⟨k, rfl, .inr rfl, .inl rfl⟩, rfl⟩ fun _ => rfl
      rintro g hg
      rw [← hg, hlock]
    · exact hs.release howned hcur
  | _ => exact hs

theorem Invariant.use (hs : Invariant s) : Invariant (step wrapper s (.use i)) := by
  simp only [step]
  cases hpc : s.pc i with
  | inside o g l =>
    obtain ⟨k, hk, -, ho, -, hl⟩ := hs.inside hpc
    cases g with
    | none =>
      simp only [hk]
      exact hs.put (.inr (by rw [hpc]; cases o <;> rfl)) ⟨⟨k, hk, ho, .inr rfl⟩, hl⟩
    | some g => exact hs
  | _ => exact hs

/-- The connection of a storage operation is there until the operation ends. -/
theorem Invariant.proceed (hs : Invariant s) : Invariant (step wrapper s (.proceed i)) := by
  simp only [step]
  cases hpc : s.pc i with
  | inside o g l =>
    obtain ⟨k, -, hconn, -, hg, -⟩ := hs.inside hpc
    cases g with
    | none => exact hs
    | some g =>
      obtain rfl : g = k := Option.some.inj (hg.resolve_left (by simp))
      simp only [hconn, if_true]
      exact hs
  | _ => exact hs

theorem Invariant.finish (hs : Invariant s) : Invariant (step wrapper s (.finish i)) := by
  simp only [step]
  cases hpc : s.pc i with
  | inside o g l =>
    obtain ⟨k, hk, -, ho, -, hl⟩ := hs.inside hpc
    cases g with
    | none => exact hs
    | some g => exact hs.put (.inr (by rw [hpc]; cases o <;> rfl)) ⟨⟨k, hk, ho, .inl rfl⟩, hl⟩
  | _ => exact hs

theorem Invariant.secret (hs : Invariant s) : Invariant (step wrapper s (.secret i)) := by
  simp only [step]
  cases hpc : s.pc i with
  | inside o g l =>
    obtain ⟨-, -, -, -, -, rfl⟩ := hs.inside hpc
    exact hs
  | _ => exact hs

/-- A call leaves: it settles, or it goes on to close with nobody else inside. -/
theorem Invariant.leave (hs : Invariant s) {ok : Bool} (ha : Allowed wrapper s (.leave i ok)) :
    Invariant (step wrapper s (.leave i ok)) := by
  simp only [step]
  cases hpc : s.pc i with
  | inside o g l =>
    obtain ⟨k, hk, -, ho, -, -⟩ := hs.inside hpc
    have hopen : s.current.isSome := by rw [hk]; rfl
    cases g with
    | some g => cases o <;> exact hs
    | none =>
      cases o with
      | none => exact hs.settle fun _ _ => hopen
      | some c =>
        obtain rfl : c = k := Option.some.inj (ho.resolve_left (by simp))
        split_ifs with hkeep
        · exact hs.settle fun _ _ => hopen
        · have hmay : MayClose s i := by
            simp only [Allowed, hpc] at ha
            exact ha.resolve_left hkeep
          rw [lockOut_eq hmay.1]
          exact hs.put (.inr (by rw [hpc]; rfl)) hk
  | _ => exact hs

/-- `storage.close` with nobody else inside and no call that keeps the project open. -/
theorem Invariant.lockedStep (hs : Invariant s) {ok : Bool}
    (ha : Allowed wrapper s (.locked i ok)) : Invariant (step wrapper s (.locked i ok)) := by
  simp only [step]
  cases hpc : s.pc i with
  | leaving c result =>
    have howned : (s.pc i).owned = some c := by rw [hpc]; rfl
    have hcur : s.current = some c := by
      have hrel := hs.relies i
      rw [hpc] at hrel
      exact hrel
    have hmay : MayClose s i := by simpa only [Allowed, hpc] using ha
    split_ifs
    · simp only [hcur]
      refine hs.switch (fun j hj => hs.bare_of_owner howned hmay.1 hj) (by rw [howned]; rfl)
        (fun g hg => by cases hg) ⟨rfl, hs.current c hcur⟩ fun hk => ?_
      rw [hmay.2] at hk
      cases hk
    · exact hs.put (.inl rfl) trivial
  | _ => exact hs

theorem Invariant.closed (hs : Invariant s) {ok : Bool} :
    Invariant (step wrapper s (.closed i ok)) := by
  simp only [step]
  cases hpc : s.pc i with
  | closing c result =>
    have howned : (s.pc i).owned = some c := by rw [hpc]; rfl
    have hrel := hs.relies i
    rw [hpc] at hrel
    exact hs.release howned hrel.1
  | _ => exact hs

/-- **Every step that the condition allows keeps the invariant.** -/
theorem step_invariant (hs : Invariant s) {e : Event ι} (ha : Allowed wrapper s e) :
    Invariant (step wrapper s e) := by
  cases e with
  | enter i => exact hs.enter
  | validated i ok => exact hs.validated ha
  | acquire i => exact hs.acquireStep ha
  | prepared i ok => exact hs.prepared
  | use i => exact hs.use
  | proceed i => exact hs.proceed
  | finish i => exact hs.finish
  | secret i => exact hs.secret
  | leave i ok => exact hs.leave ha
  | locked i ok => exact hs.lockedStep ha
  | closed i ok => exact hs.closed

end OfflineWebArchiver.Service.Sharing
