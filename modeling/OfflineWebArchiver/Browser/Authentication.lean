import Mathlib.Data.Finset.Basic
import OfflineWebArchiver.Lib.Run

/-!
# The authentication browser

`createAuthenticationContext`, `close` of an authentication session and `close` of the runtime,
interleaved at their `await`s. A session and its browser context are named by the call that
creates them; the processes are numbered as they are launched.

* `step`: a call begins, or what it awaits is settled; a process crashes.
* `Allowed`: no second context is created, no error leaves one open, a session that is closed
  does not take another one for itself, and `close` leaves none behind.
* `step_invariant`: what every allowed step keeps.
-/

namespace OfflineWebArchiver.Authentication

inductive ErrorCode
  | BROWSER_AUTHENTICATION_BUSY | BROWSER_AUTHENTICATION_NAVIGATION_BLOCKED
  | BROWSER_STORAGE_STATE_INVALID | BROWSER_LAUNCH_FAILED | BROWSER_AUTHENTICATION_CONTEXT_FAILED
deriving DecidableEq

inductive Mode
  | manual | restored
deriving DecidableEq

/-- Where a call stands, at an `await`. -/
inductive Pc (ι : Type)
  | idle
  /-- `launchOwnedBrowser` -/
  | launching (mode : Mode)
  /-- `newContext` -/
  | creating (mode : Mode)
  /-- `clearPermissions`, `route` and `newPage` -/
  | preparing (mode : Mode)
  /-- `goto` of the login page -/
  | navigating
  /-- `session.close()` after `goto` has failed. -/
  | aborting
  /-- The session has been returned. -/
  | opened
  /-- `close` of the session -/
  | sessionClosing
  /-- `close` of the runtime awaits the session, or finds it closed already. -/
  | closingSession (session : ι)
  | sessionClosed
  /-- `authenticationBrowser.close()` -/
  | closingManual (p : ℕ)
  /-- `restoredBrowser.close()` -/
  | closingRestored (p : ℕ)
  /-- `closeBrowser` of the runtime -/
  | closingBrowser
  | settled (error : Option ErrorCode)
deriving DecidableEq

/-- `newContext` is awaited. -/
def Pc.isCreating {ι : Type} : Pc ι → Bool
  | .creating _ => true
  | _ => false

inductive Operation
  /-- `openManualLoginSession` or `restoreAuthenticationSession`, and what the checks of its
  input throw. -/
  | openSession (mode : Mode) (checked : Option ErrorCode)
  | close
deriving DecidableEq

structure State (ι : Type) where
  activeAuthenticationSession : Option ι
  authenticationBrowser : Option ℕ
  restoredBrowser : Option ℕ
  launched : ℕ
  /-- The process runs. -/
  live : ℕ → Bool
  /-- The process of the context of a call. -/
  owner : ι → ℕ
  /-- The contexts that are open or being created. -/
  contexts : Finset ι
  pc : ι → Pc ι
  /-- A `close` of the runtime has returned since the call began. -/
  stale : ι → Bool
  /-- A `close` of the runtime has returned, and no session has been asked for since. -/
  shutdown : Bool

inductive Event (ι : Type)
  | begin (i : ι) (operation : Operation)
  /-- What the call awaits is settled. -/
  | goOn (i : ι) (ok : Bool)
  /-- `close` of the session -/
  | closeSession (i : ι)
  | crash (p : ℕ)
deriving DecidableEq

variable {ι : Type} [DecidableEq ι] (sessionId : ι → String)

namespace State

variable (s : State ι)

def put (i : ι) (pc : Pc ι) : State ι := { s with pc := Function.update s.pc i pc }

def browserOf : Mode → Option ℕ
  | .manual => s.authenticationBrowser
  | .restored => s.restoredBrowser

/-- `isConnected()` of the browser of the mode -/
def connected (mode : Mode) : Bool := (s.browserOf mode).any s.live

/-- The process ends, and its contexts with it. -/
def kill (p : ℕ) : State ι :=
  { s with
    live := Function.update s.live p false
    contexts := s.contexts.filter fun i => s.owner i ≠ p ∨ (s.pc i).isCreating = true }

end State

/-- `newContext` of a browser -/
def createContext (s : State ι) (i : ι) (mode : Mode) (p : ℕ) : State ι :=
  { s with owner := Function.update s.owner i p, contexts := insert i s.contexts }.put i
    (.creating mode)

/-- `createAuthenticationContext`, up to its first `await`. -/
def beginSession (s : State ι) (i : ι) (mode : Mode) (checked : Option ErrorCode) : State ι :=
  if s.activeAuthenticationSession.isSome then
    s.put i (.settled (some .BROWSER_AUTHENTICATION_BUSY))
  else
    match checked with
    | some error => s.put i (.settled (some error))
    | none =>
      match s.browserOf mode with
      | some p => if s.live p then createContext s i mode p else s.put i (.launching mode)
      | none => s.put i (.launching mode)

/-- A browser is launched for the mode, and asked for a context. -/
def launched (s : State ι) (i : ι) (mode : Mode) : State ι :=
  let s' := { s with launched := s.launched + 1, live := Function.update s.live s.launched true }
  match mode with
  | .manual =>
    createContext { s' with authenticationBrowser := some s.launched } i mode s.launched
  | .restored => createContext { s' with restoredBrowser := some s.launched } i mode s.launched

/-- The session is recorded and returned. -/
def activate (s : State ι) (i : ι) : State ι :=
  { s with activeAuthenticationSession := some i }.put i .opened

/-- The end of `session.close()`: the context is closed, or that has failed, and `onClosed`. -/
def endClose (s : State ι) (i : ι) (ok : Bool) (error : Option ErrorCode) : State ι :=
  { s with
    contexts := if ok then s.contexts.erase i else s.contexts
    activeAuthenticationSession :=
      if s.activeAuthenticationSession.any (fun j => sessionId j = sessionId i) then none
      else s.activeAuthenticationSession }.put i (.settled error)

/-! ### `closeAuthenticationBrowser` -/

def clear (s : State ι) (i : ι) : State ι :=
  { s with
    activeAuthenticationSession := none
    authenticationBrowser := none
    restoredBrowser := none }.put i .closingBrowser

def closeRestored (s : State ι) (i : ι) : State ι :=
  match s.restoredBrowser with
  | some p => s.put i (.closingRestored p)
  | none => clear s i

def closeManual (s : State ι) (i : ι) : State ι :=
  match s.authenticationBrowser with
  | some p => s.put i (.closingManual p)
  | none => closeRestored s i

def beginClose (s : State ι) (i : ι) : State ι :=
  match s.activeAuthenticationSession with
  | some j =>
    if s.pc j = .opened then (s.put j .sessionClosing).put i (.closingSession j)
    else s.put i .sessionClosed
  | none => closeManual s i

/-- `close` of the runtime returns. -/
def closeReturns (s : State ι) (i : ι) : State ι :=
  { s with
    stale := fun j => s.stale j || decide (s.pc j ≠ Pc.idle)
    shutdown := true }.put i (.settled none)

def begin (s : State ι) (i : ι) : Operation → State ι
  | .openSession mode checked => beginSession { s with shutdown := false } i mode checked
  | .close => beginClose s i

/-- A call of a context that is gone fails. -/
def goOn (s : State ι) (i : ι) (ok : Bool) : State ι :=
  match s.pc i with
  | .launching mode =>
    if ok then launched s i mode else s.put i (.settled (some .BROWSER_LAUNCH_FAILED))
  | .creating mode =>
    if ok && s.live (s.owner i) then s.put i (.preparing mode)
    else
      { s with contexts := s.contexts.erase i }.put i
        (.settled (some .BROWSER_AUTHENTICATION_CONTEXT_FAILED))
  | .preparing mode =>
    if ok ∧ i ∈ s.contexts then
      match mode with
      | .manual => s.put i .navigating
      | .restored => activate s i
    else s.put i (.settled (some .BROWSER_AUTHENTICATION_CONTEXT_FAILED))
  | .navigating => if ok ∧ i ∈ s.contexts then activate s i else s.put i .aborting
  | .aborting =>
    endClose sessionId s i ok (some .BROWSER_AUTHENTICATION_NAVIGATION_BLOCKED)
  | .sessionClosing => endClose sessionId s i ok none
  | .closingSession j =>
    match s.pc j with
    | .settled _ => closeManual s i
    | _ => s
  | .sessionClosed => closeManual s i
  | .closingManual p => closeRestored (if ok then s.kill p else s) i
  | .closingRestored p => clear (if ok then s.kill p else s) i
  | .closingBrowser => closeReturns s i
  | .idle | .opened | .settled _ => s

def step (s : State ι) : Event ι → State ι
  | .begin i operation => if s.pc i = .idle then begin s i operation else s
  | .goOn i ok => goOn sessionId s i ok
  | .closeSession i => if s.pc i = .opened then s.put i .sessionClosing else s
  | .crash p => s.kill p

/-! ### The condition on a step -/

/-- No context is open once the process, if it closes, is gone. -/
def NoneOpen (s : State ι) (closed : Option ℕ) : Prop :=
  ∀ j ∈ s.contexts, (s.pc j).isCreating = true ∨ closed = some (s.owner j)

instance (s : State ι) (closed : Option ℕ) : Decidable (NoneOpen s closed) :=
  inferInstanceAs (Decidable (∀ j ∈ s.contexts, _ ∨ _))

/-- The end of `session.close()` finds the active session under its id only if it is its own,
and does not fail to close a context that is open. -/
def ClosesOwn (s : State ι) (i : ι) (ok : Bool) : Prop :=
  (∀ j ∈ s.activeAuthenticationSession, sessionId j = sessionId i → j = i) ∧
    (ok = false → i ∉ s.contexts)

instance (s : State ι) (i : ι) (ok : Bool) : Decidable (ClosesOwn sessionId s i ok) :=
  inferInstanceAs (Decidable ((∀ j ∈ s.activeAuthenticationSession, _ → _) ∧ (_ → _)))

/-- What a call that goes on may find. -/
def Finds (s : State ι) (i : ι) (ok : Bool) : Pc ι → Prop
  | .launching _ => ok = true → s.contexts = ∅
  | .creating _ => ok = true → s.live (s.owner i) = true → s.stale i = false
  | .preparing _ => ok = false → i ∉ s.contexts
  | .aborting | .sessionClosing => ClosesOwn sessionId s i ok
  | .closingSession _ | .sessionClosed =>
    s.authenticationBrowser = none → s.restoredBrowser = none → NoneOpen s none
  | .closingManual p => s.restoredBrowser = none → NoneOpen s (if ok then some p else none)
  | .closingRestored p => NoneOpen s (if ok then some p else none)
  | .closingBrowser => NoneOpen s none
  | _ => True

instance (s : State ι) (i : ι) (ok : Bool) : (pc : Pc ι) → Decidable (Finds sessionId s i ok pc)
  | .launching _ => inferInstanceAs (Decidable (ok = true → s.contexts = ∅))
  | .creating _ => inferInstanceAs
      (Decidable (ok = true → s.live (s.owner i) = true → s.stale i = false))
  | .preparing _ => inferInstanceAs (Decidable (ok = false → i ∉ s.contexts))
  | .aborting | .sessionClosing => inferInstanceAs (Decidable (ClosesOwn sessionId s i ok))
  | .closingSession _ | .sessionClosed => inferInstanceAs
      (Decidable (s.authenticationBrowser = none → s.restoredBrowser = none → NoneOpen s none))
  | .closingManual p => inferInstanceAs
      (Decidable (s.restoredBrowser = none → NoneOpen s (if ok then some p else none)))
  | .closingRestored p => inferInstanceAs (Decidable (NoneOpen s (if ok then some p else none)))
  | .closingBrowser => inferInstanceAs (Decidable (NoneOpen s none))
  | .idle | .navigating | .opened | .settled _ => .isTrue trivial

/-- **The condition** on a step: a context is asked for only while there is no other, and is
created only if no `close` of the runtime has returned since the call began; the steps before the
login page do not fail once the context is open; `session.close()` closes its own session; and
`close` of the runtime forgets the sessions and returns only while no context is open. -/
def Allowed (s : State ι) : Event ι → Prop
  | .begin i (.openSession mode none) => s.pc i = .idle →
      s.activeAuthenticationSession = none → s.connected mode = true → s.contexts = ∅
  | .begin i .close => s.pc i = .idle → s.activeAuthenticationSession = none →
      s.authenticationBrowser = none → s.restoredBrowser = none → NoneOpen s none
  | .goOn i ok => Finds sessionId s i ok (s.pc i)
  | _ => True

instance (s : State ι) : (e : Event ι) → Decidable (Allowed sessionId s e)
  | .begin i (.openSession mode none) => inferInstanceAs (Decidable (s.pc i = .idle →
      s.activeAuthenticationSession = none → s.connected mode = true → s.contexts = ∅))
  | .begin i .close => inferInstanceAs (Decidable (s.pc i = .idle →
      s.activeAuthenticationSession = none → s.authenticationBrowser = none →
      s.restoredBrowser = none → NoneOpen s none))
  | .goOn i ok => inferInstanceAs (Decidable (Finds sessionId s i ok (s.pc i)))
  | .begin _ (.openSession _ (some _)) | .closeSession _ | .crash _ => .isTrue trivial

/-! ### What every step keeps -/

/-- The call is creating a session, or closes one that it could not create. -/
def Pc.making : Pc ι → Bool
  | .creating _ | .preparing _ | .navigating | .aborting => true
  | _ => false

/-- The call may still create a context. -/
def Pc.starting : Pc ι → Bool
  | .launching _ | .creating _ => true
  | _ => false

/-- Whose the context of a call is: that of a call under way, or of the active session. -/
def Held (s : State ι) (i : ι) : Prop :=
  (s.pc i).making = true ∨
    (s.pc i = .opened ∨ s.pc i = .sessionClosing) ∧ s.activeAuthenticationSession = some i

instance (s : State ι) (i : ι) : Decidable (Held s i) :=
  inferInstanceAs (Decidable (_ ∨ (_ ∨ _) ∧ _))

structure Invariant (s : State ι) : Prop where
  one : ∀ i ∈ s.contexts, ∀ j ∈ s.contexts, i = j
  held : ∀ i ∈ s.contexts, Held s i
  creating : ∀ i, (s.pc i).isCreating = true → i ∈ s.contexts
  shutdown : s.shutdown = true →
    NoneOpen s none ∧ ∀ i, (s.pc i).starting = true → s.stale i = true

variable {sessionId : ι → String} {s : State ι} {i j : ι} {p : ℕ} {pc : Pc ι} {ok : Bool}

@[simp] theorem put_pc_self : (s.put i pc).pc i = pc := Function.update_self ..

theorem put_pc_ne (h : j ≠ i) : (s.put i pc).pc j = s.pc j := Function.update_of_ne h ..

omit [DecidableEq ι] in
theorem starting_of_creating (h : pc.isCreating = true) : pc.starting = true := by
  cases pc with
  | creating mode => rfl
  | _ => cases h

/-- **A call moves on.** -/
theorem Invariant.put (hs : Invariant s) (hheld : i ∈ s.contexts → Held (s.put i pc) i)
    (hcreating : pc.isCreating = true → i ∈ s.contexts)
    (hshut : s.shutdown = true →
      (i ∈ s.contexts → pc.isCreating = true) ∧ (pc.starting = true → s.stale i = true)) :
    Invariant (s.put i pc) := by
  refine ⟨hs.one, fun j hj => ?_, fun j hj => ?_, fun h => ⟨fun j hj => ?_, fun j hj => ?_⟩⟩
  · by_cases h : j = i
    · subst h; exact hheld hj
    · unfold Held
      rw [put_pc_ne h]
      exact hs.held j hj
  · by_cases h : j = i
    · subst h; rw [put_pc_self] at hj; exact hcreating hj
    · rw [put_pc_ne h] at hj; exact hs.creating j hj
  · by_cases h' : j = i
    · subst h'; rw [put_pc_self]; exact .inl ((hshut h).1 hj)
    · rw [put_pc_ne h']; exact (hs.shutdown h).1 j hj
  · by_cases h' : j = i
    · subst h'; rw [put_pc_self] at hj; exact (hshut h).2 hj
    · rw [put_pc_ne h'] at hj; exact (hs.shutdown h).2 j hj

/-- A call without a context moves on. -/
theorem Invariant.put_outside (hs : Invariant s) (hi : i ∉ s.contexts)
    (hpc : pc.starting = false) : Invariant (s.put i pc) := by
  refine hs.put (fun h => absurd h hi) (fun h => ?_) fun _ => ⟨fun h => absurd h hi, fun h => ?_⟩
  · rw [starting_of_creating h] at hpc
    cases hpc
  · rw [hpc] at h
    cases h

omit [DecidableEq ι] in
/-- A call that has no context. -/
theorem Invariant.outside (hs : Invariant s) (hmaking : (s.pc i).making = false)
    (hopened : s.pc i ≠ .opened) (hclosing : s.pc i ≠ .sessionClosing) : i ∉ s.contexts := by
  intro hi
  rcases hs.held i hi with h | ⟨h | h, -⟩
  · rw [hmaking] at h
    cases h
  · exact hopened h
  · exact hclosing h

omit [DecidableEq ι] in
theorem Invariant.begun (hs : Invariant s) : Invariant { s with shutdown := false } :=
  ⟨hs.one, hs.held, hs.creating, fun h => (by cases h)⟩

omit [DecidableEq ι] in
/-- The contexts of a process go with it. -/
theorem Invariant.kill (hs : Invariant s) : Invariant (s.kill p) := by
  have hsub : ∀ j, j ∈ (s.kill p).contexts → j ∈ s.contexts :=
    fun j hj => (Finset.mem_filter.1 hj).1
  refine ⟨fun j hj k hk => hs.one j (hsub j hj) k (hsub k hk), fun j hj => hs.held j (hsub j hj),
    fun j hj => ?_, fun h => ⟨fun j hj => (hs.shutdown h).1 j (hsub j hj), (hs.shutdown h).2⟩⟩
  exact Finset.mem_filter.2 ⟨hs.creating j hj, .inr hj⟩

/-- **A context is asked for** while there is no other. -/
theorem createContext_invariant (hs : Invariant s) (hnone : s.contexts = ∅) {mode : Mode}
    (hstale : s.shutdown = true → s.stale i = true) : Invariant (createContext s i mode p) := by
  have hself : (createContext s i mode p).pc i = .creating mode := put_pc_self
  have hmem : ∀ j, j ∈ (createContext s i mode p).contexts → j = i := by
    intro j hj
    have hj : j ∈ insert i s.contexts := hj
    rw [hnone] at hj
    simpa using hj
  refine ⟨fun j hj k hk => ?_, fun j hj => ?_, fun j hj => ?_, fun h => ⟨fun j hj => ?_,
    fun j hj => ?_⟩⟩
  · rw [hmem j hj, hmem k hk]
  · rw [hmem j hj]
    exact .inl (by rw [hself]; rfl)
  · show j ∈ insert i s.contexts
    by_cases hji : j = i
    · subst hji
      exact Finset.mem_insert_self ..
    · rw [show (createContext s i mode p).pc j = s.pc j from put_pc_ne hji] at hj
      exact Finset.mem_insert_of_mem (hs.creating j hj)
  · rw [hmem j hj]
    exact .inl (by rw [hself]; rfl)
  · by_cases hji : j = i
    · subst hji; exact hstale h
    · rw [show (createContext s i mode p).pc j = s.pc j from put_pc_ne hji] at hj
      exact (hs.shutdown h).2 j hj

/-- **A session is recorded** for the only context. -/
theorem activate_invariant (hs : Invariant s) (hi : i ∈ s.contexts)
    (hpc : (s.pc i).isCreating = false) : Invariant (activate s i) := by
  have hself : (activate s i).pc i = .opened := put_pc_self
  have hsame : ∀ j ∈ s.contexts, j = i := fun j hj => hs.one j hj i hi
  have hshut : s.shutdown = false := by
    by_contra h
    rcases (hs.shutdown (by simpa using h)).1 i hi with h | h
    · rw [hpc] at h
      cases h
    · cases h
  refine ⟨hs.one, fun j hj => ?_, fun j hj => ?_, fun h => ?_⟩
  · rw [hsame j hj]
    exact .inr ⟨.inl hself, rfl⟩
  · by_cases hji : j = i
    · subst hji; exact hi
    · rw [show (activate s i).pc j = s.pc j from put_pc_ne hji] at hj
      exact hs.creating j hj
  · have h : s.shutdown = true := h
    rw [hshut] at h
    cases h

/-- The context of a call is gone, and the active session with it or not. -/
theorem Invariant.remove (hs : Invariant s) {contexts : Finset ι} {active : Option ι}
    {error : Option ErrorCode} (hmem : ∀ j, j ∈ contexts ↔ j ∈ s.contexts ∧ j ≠ i)
    (hactive : ∀ j, j ≠ i → s.activeAuthenticationSession = some j → j ∈ s.contexts →
      active = some j) :
    Invariant ({ s with contexts, activeAuthenticationSession := active }.put i
      (.settled error)) := by
  set s' : State ι := State.put { s with contexts, activeAuthenticationSession := active } i
    (.settled error) with hs'
  have hself : s'.pc i = .settled error := put_pc_self
  have hpcs : ∀ j, j ≠ i → s'.pc j = s.pc j := fun j h => put_pc_ne h
  refine ⟨fun j hj k hk => hs.one j ((hmem j).1 hj).1 k ((hmem k).1 hk).1, fun j hj => ?_,
    fun j hj => ?_, fun h => ⟨fun j hj => ?_, fun j hj => ?_⟩⟩
  · obtain ⟨hj, hji⟩ := (hmem j).1 hj
    unfold Held
    rw [hpcs j hji]
    exact (hs.held j hj).imp_right fun h => ⟨h.1, hactive j hji h.2 hj⟩
  · have hji : j ≠ i := by
      rintro rfl
      rw [hself] at hj
      cases hj
    rw [hpcs j hji] at hj
    exact (hmem j).2 ⟨hs.creating j hj, hji⟩
  · obtain ⟨hj, hji⟩ := (hmem j).1 hj
    rw [hpcs j hji]
    exact (hs.shutdown h).1 j hj
  · have hji : j ≠ i := by
      rintro rfl
      rw [hself] at hj
      cases hj
    rw [hpcs j hji] at hj
    exact (hs.shutdown h).2 j hj

/-- **A session is closed**, and takes no other one from its place. -/
theorem endClose_invariant (hs : Invariant s) (h : ClosesOwn sessionId s i ok)
    {error : Option ErrorCode} : Invariant (endClose sessionId s i ok error) := by
  obtain ⟨hown, hclosed⟩ := h
  refine hs.remove (fun j => ?_) fun j hji hactive _ => ?_
  · split_ifs with hok
    · rw [Finset.mem_erase]
      exact and_comm
    · refine ⟨fun hj => ⟨hj, ?_⟩, And.left⟩
      rintro rfl
      exact hclosed (by simpa using hok) hj
  · rw [if_neg]
    · exact hactive
    · intro hid
      rw [hactive] at hid
      exact hji (hown j hactive (by simpa using hid))

/-! ### `close` of the runtime -/

theorem clear_invariant (hs : Invariant s) (hi : i ∉ s.contexts) (hnone : NoneOpen s none) :
    Invariant (clear s i) := by
  have hput : Invariant (s.put i .closingBrowser) := hs.put_outside hi rfl
  refine ⟨hput.one, fun j hj => ?_, hput.creating, hput.shutdown⟩
  -- only contexts that are being created are left
  have hji : j ≠ i := by
    rintro rfl
    exact hi hj
  refine .inl ?_
  rw [show (clear s i).pc j = s.pc j from put_pc_ne hji]
  rcases hnone j hj with h | h
  · cases hpc : s.pc j with
    | creating mode => rfl
    | _ => rw [hpc] at h; cases h
  · cases h

theorem closeRestored_invariant (hs : Invariant s) (hi : i ∉ s.contexts)
    (hnone : s.restoredBrowser = none → NoneOpen s none) : Invariant (closeRestored s i) := by
  unfold closeRestored
  split
  · exact hs.put_outside hi rfl
  · exact clear_invariant hs hi (hnone ‹_›)

theorem closeManual_invariant (hs : Invariant s) (hi : i ∉ s.contexts)
    (hnone : s.authenticationBrowser = none → s.restoredBrowser = none → NoneOpen s none) :
    Invariant (closeManual s i) := by
  unfold closeManual
  split
  · exact hs.put_outside hi rfl
  · exact closeRestored_invariant hs hi (hnone ‹_›)

theorem beginClose_invariant (hs : Invariant s) (hi : i ∉ s.contexts)
    (hnone : s.activeAuthenticationSession = none → s.authenticationBrowser = none →
      s.restoredBrowser = none → NoneOpen s none) : Invariant (beginClose s i) := by
  unfold beginClose
  split
  · rename_i j hactive
    split_ifs with hopened
    · -- the session that `close` closes
      have hclosing : Invariant (s.put j .sessionClosing) := by
        refine hs.put (fun _ => .inr ⟨.inr put_pc_self, hactive⟩) (fun h => (by cases h))
          fun h => ⟨fun hj => ?_, fun h => (by cases h)⟩
        rcases (hs.shutdown h).1 j hj with h | h
        · rw [hopened] at h
          cases h
        · cases h
      exact hclosing.put_outside hi rfl
    · exact hs.put_outside hi rfl
  · exact closeManual_invariant hs hi (hnone ‹_›)

theorem closeReturns_invariant (hs : Invariant s) (hi : i ∉ s.contexts) (hnone : NoneOpen s none) :
    Invariant (closeReturns s i) := by
  have hput : Invariant (s.put i (.settled none)) := hs.put_outside hi rfl
  have hpcs : ∀ j, j ≠ i → (closeReturns s i).pc j = s.pc j := fun j h => put_pc_ne h
  refine ⟨hput.one, hput.held, hput.creating, fun _ => ⟨fun j hj => ?_, fun j hj => ?_⟩⟩
  · have hji : j ≠ i := by
      rintro rfl
      exact hi hj
    rw [hpcs j hji]
    exact hnone j hj
  · have hji : j ≠ i := by
      rintro rfl
      rw [show (closeReturns s j).pc j = .settled none from put_pc_self] at hj
      cases hj
    have hidle : s.pc j ≠ .idle := by
      intro h
      rw [hpcs j hji, h] at hj
      cases hj
    show (s.stale j || decide (s.pc j ≠ Pc.idle)) = true
    simp [hidle]

omit [DecidableEq ι] in
/-- What is left after a process has been closed, or not. -/
theorem NoneOpen.kill {ok : Bool} (h : NoneOpen s (if ok then some p else none)) :
    NoneOpen (if ok then s.kill p else s) none := by
  cases ok with
  | false => exact h
  | true =>
    intro j hj
    obtain ⟨hj, hor⟩ := Finset.mem_filter.1 hj
    refine .inl ?_
    rcases hor with hp | hp
    · refine (h j hj).resolve_right fun heq => hp ?_
      simpa using heq.symm
    · exact hp

/-! ### The steps -/

theorem beginSession_invariant (hs : Invariant s) (hpc : s.pc i = .idle) (mode : Mode)
    (checked : Option ErrorCode) (hstale : s.shutdown = false)
    (h : checked = none → s.activeAuthenticationSession = none → s.connected mode = true →
      s.contexts = ∅) : Invariant (beginSession s i mode checked) := by
  have hi : i ∉ s.contexts := hs.outside (by rw [hpc]; rfl) (by rw [hpc]; simp) (by rw [hpc]; simp)
  have hlaunching : Invariant (s.put i (.launching mode)) :=
    hs.put (fun h => absurd h hi) (fun h => (by cases h)) fun h => (by rw [hstale] at h; cases h)
  unfold beginSession
  split_ifs with hactive
  · exact hs.put_outside hi rfl
  · split
    · exact hs.put_outside hi rfl
    · split
      · rename_i p hbrowser
        split_ifs with hlive
        · refine createContext_invariant hs (h rfl (by simpa using hactive) ?_) fun h => ?_
          · unfold State.connected
            rw [hbrowser]
            exact hlive
          · rw [hstale] at h
            cases h
        · exact hlaunching
      · exact hlaunching

theorem launched_invariant (hs : Invariant s) {mode : Mode} (hpc : s.pc i = .launching mode)
    (hnone : s.contexts = ∅) : Invariant (launched s i mode) := by
  have hstale : s.shutdown = true → s.stale i = true :=
    fun h => (hs.shutdown h).2 i (by rw [hpc]; rfl)
  unfold launched
  cases mode with
  | manual =>
    refine createContext_invariant (s := { s with
      launched := s.launched + 1, live := Function.update s.live s.launched true
      authenticationBrowser := some s.launched }) ?_ hnone hstale
    exact ⟨hs.one, hs.held, hs.creating, hs.shutdown⟩
  | restored =>
    refine createContext_invariant (s := { s with
      launched := s.launched + 1, live := Function.update s.live s.launched true
      restoredBrowser := some s.launched }) ?_ hnone hstale
    exact ⟨hs.one, hs.held, hs.creating, hs.shutdown⟩

theorem goOn_invariant (hs : Invariant s) (h : Finds sessionId s i ok (s.pc i)) :
    Invariant (goOn sessionId s i ok) := by
  have hout : (s.pc i).making = false → s.pc i ≠ .opened → s.pc i ≠ .sessionClosing →
      i ∉ s.contexts := hs.outside
  -- a call with an open context has not been outlived by a `close` of the runtime
  have hopen : s.shutdown = true → i ∈ s.contexts → (s.pc i).isCreating = true := by
    intro hshut hi
    exact ((hs.shutdown hshut).1 i hi).resolve_right (by simp)
  unfold goOn
  cases hpc : s.pc i with
  | idle => exact hs
  | opened => exact hs
  | settled error => exact hs
  | launching mode =>
    rw [hpc] at h hout
    dsimp only
    split_ifs with hok
    · exact launched_invariant hs hpc (h hok)
    · exact hs.put_outside (hout rfl (by simp) (by simp)) rfl
  | creating mode =>
    rw [hpc] at h
    dsimp only
    split_ifs with hok
    · obtain ⟨hok, hlive⟩ : ok = true ∧ s.live (s.owner i) = true := by simpa using hok
      have hstale : s.stale i = false := h hok hlive
      refine hs.put (fun _ => .inl (by rw [put_pc_self]; rfl)) (fun h => (by cases h)) fun hshut => ?_
      rw [(hs.shutdown hshut).2 i (by rw [hpc]; rfl)] at hstale
      cases hstale
    · refine hs.remove (fun j => ?_) fun j _ hactive _ => hactive
      rw [Finset.mem_erase]
      exact and_comm
  | preparing mode =>
    rw [hpc] at h hopen
    dsimp only
    split_ifs with hok
    · cases mode with
      | manual =>
        refine hs.put (fun _ => .inl (by rw [put_pc_self]; rfl)) (fun h => (by cases h))
          fun hshut => ⟨fun hi => ?_, fun h => (by cases h)⟩
        cases hopen hshut hi
      | restored => exact activate_invariant hs hok.2 (by rw [hpc]; rfl)
    · have hi : i ∉ s.contexts := by
        intro hi
        exact h (by simpa [hi] using hok) hi
      exact hs.put_outside hi rfl
  | navigating =>
    rw [hpc] at hopen
    dsimp only
    split_ifs with hok
    · exact activate_invariant hs hok.2 (by rw [hpc]; rfl)
    · refine hs.put (fun _ => .inl (by rw [put_pc_self]; rfl)) (fun h => (by cases h))
        fun hshut => ⟨fun hi => ?_, fun h => (by cases h)⟩
      cases hopen hshut hi
  | aborting =>
    rw [hpc] at h
    exact endClose_invariant hs h
  | sessionClosing =>
    rw [hpc] at h
    exact endClose_invariant hs h
  | closingSession j =>
    rw [hpc] at h hout
    dsimp only
    split
    · exact closeManual_invariant hs (hout rfl (by simp) (by simp)) h
    · exact hs
  | sessionClosed =>
    rw [hpc] at h hout
    exact closeManual_invariant hs (hout rfl (by simp) (by simp)) h
  | closingManual p =>
    rw [hpc] at h hout
    have hi := hout rfl (by simp) (by simp)
    dsimp only
    refine closeRestored_invariant ?_ ?_ fun hrestored => ?_
    · split_ifs
      · exact hs.kill
      · exact hs
    · split_ifs
      · exact fun h => hi (Finset.mem_filter.1 h).1
      · exact hi
    · refine NoneOpen.kill (h ?_)
      cases ok <;> exact hrestored
  | closingRestored p =>
    rw [hpc] at h hout
    have hi := hout rfl (by simp) (by simp)
    dsimp only
    refine clear_invariant ?_ ?_ (NoneOpen.kill h)
    · split_ifs
      · exact hs.kill
      · exact hs
    · split_ifs
      · exact fun h => hi (Finset.mem_filter.1 h).1
      · exact hi
  | closingBrowser =>
    rw [hpc] at h hout
    exact closeReturns_invariant hs (hout rfl (by simp) (by simp)) h

/-- **Every step that the condition allows keeps the invariant.** -/
theorem step_invariant (hs : Invariant s) {e : Event ι} (h : Allowed sessionId s e) :
    Invariant (step sessionId s e) := by
  cases e with
  | begin i operation =>
    simp only [step]
    split_ifs with hpc
    · cases operation with
      | openSession mode checked =>
        refine beginSession_invariant hs.begun hpc mode checked rfl fun hchecked => ?_
        subst hchecked
        exact h hpc
      | close =>
        exact beginClose_invariant hs
          (hs.outside (by rw [hpc]; rfl) (by rw [hpc]; simp) (by rw [hpc]; simp)) (h hpc)
    · exact hs
  | goOn i ok => exact goOn_invariant hs h
  | closeSession i =>
    simp only [step]
    split_ifs with hpc
    · refine hs.put (fun hi => ?_) (fun h => (by cases h)) fun hshut => ⟨fun hi => ?_, fun h =>
        (by cases h)⟩
      · rcases hs.held i hi with h | ⟨-, hactive⟩
        · rw [hpc] at h
          cases h
        · exact .inr ⟨.inr put_pc_self, hactive⟩
      · have hcreating := ((hs.shutdown hshut).1 i hi).resolve_right (by simp)
        rw [hpc] at hcreating
        cases hcreating
    · exact hs
  | crash p => exact hs.kill

/-- **A session that is closed leaves the place of another one.** -/
theorem goOn_active {ok : Bool} (hpc : s.pc i = .sessionClosing ∨ s.pc i = .aborting)
    (h : Finds sessionId s i ok (s.pc i)) :
    (goOn sessionId s i ok).activeAuthenticationSession =
      if s.activeAuthenticationSession = some i then none
      else s.activeAuthenticationSession := by
  have hown : ∀ j ∈ s.activeAuthenticationSession, sessionId j = sessionId i → j = i := by
    rcases hpc with hpc | hpc <;> rw [hpc] at h <;> exact h.1
  have hend : ∀ error, (endClose sessionId s i ok error).activeAuthenticationSession =
      if s.activeAuthenticationSession = some i then none
      else s.activeAuthenticationSession := by
    intro error
    show (if _ then none else s.activeAuthenticationSession) = _
    cases hactive : s.activeAuthenticationSession with
    | none => rfl
    | some j =>
      by_cases hji : j = i
      · subst hji
        simp
      · have hid : sessionId j ≠ sessionId i := fun hid => hji (hown j hactive hid)
        simp [hid, hji]
  unfold goOn
  rcases hpc with hpc | hpc <;> rw [hpc] <;> exact hend _

end OfflineWebArchiver.Authentication
