import Mathlib.Data.Finset.Basic
import OfflineWebArchiver.Lib.Run

/-!
# The rendering browser

`createPlaywrightBrowserRuntime`: `start`, `restart`, `createPageSession`, the `close` of its page
sessions and `close`, interleaved at their `await`s. The processes are numbered as they are
launched; a page session is named by the call that has created it, and so is its job.

* `step`: a call begins, or what it awaits is settled; a process crashes, the clock moves on.
* `Allowed`: when a launch may end, and what `closeBrowser` finds when its process is closed.
* `step_invariant`: what every allowed step keeps.
-/

namespace OfflineWebArchiver.Rendering

def MAX_RESTARTS_PER_WINDOW : ℕ := 3

def RESTART_WINDOW_MS : ℕ := 5 * 60000

inductive ErrorCode
  | BROWSER_LAUNCH_FAILED | BROWSER_BUSY | BROWSER_RESTART_LIMITED | BROWSER_UNHEALTHY
  | BROWSER_CONTEXT_FAILED
deriving DecidableEq

structure Options where
  maximumPagesPerProcess : ℕ
  maximumLifetimeMs : ℕ
deriving DecidableEq

inductive Process
  | live
  /-- `owned.close()` is awaited. -/
  | closing
  | closed
  | crashed
deriving DecidableEq

/-- Who awaits `start`: a caller of the runtime, `restart`, or `createPageSession`, which calls
`start` itself first and `restart` for the rotation. -/
inductive Starter
  | start | restart | create | rotation
deriving DecidableEq

/-- Who awaits `closeBrowser`. -/
inductive Closer
  | restart | rotation | close
deriving DecidableEq

/-- Where a call stands, at an `await`. -/
inductive Pc
  | idle
  /-- `launchOwnedBrowser` -/
  | launching (starter : Starter)
  /-- `start` has returned. -/
  | started (starter : Starter)
  /-- `owned.close()`, called after `launched` processes had been launched. -/
  | closing (owned : Option ℕ) (launched : ℕ) (closer : Closer)
  /-- `closeBrowser` has returned. -/
  | closed (closer : Closer)
  /-- The context, the page and the routing of a page session. -/
  | creating (process : ℕ)
  /-- The page session has been returned. -/
  | opened (process : ℕ)
  | sessionClosing (process : ℕ)
  /-- `closeAuthenticationBrowser` in `close`. -/
  | closingAuthentication
  | settled (error : Option ErrorCode)
deriving DecidableEq

/-- The process of the page session that the call has open or is creating. -/
def Pc.process : Pc → Option ℕ
  | .creating p | .opened p | .sessionClosing p => some p
  | _ => none

inductive Operation
  | start | restart | createPageSession | close
deriving DecidableEq

structure State (ι : Type) where
  browser : Option ℕ
  launched : ℕ
  process : ℕ → Process
  activeJobIds : Finset ι
  startedAt : Option ℕ
  pagesRendered : ℕ
  restartTimes : List ℕ
  /-- `Date.now()` -/
  now : ℕ
  /-- `activeAuthenticationSession !== null` -/
  authentication : Bool
  pc : ι → Pc
  /-- The processes below it have been shut down by a `closeBrowser` that has ended; a page
  session in one of them is over. -/
  shutBelow : ℕ
  /-- All the restarts that have begun. -/
  restarts : List ℕ
  /-- The calls of `close` that have taken the browser and have not returned. -/
  closers : Finset ι
  /-- A `close` has returned since the call began. -/
  stale : ι → Bool
  /-- A `close` has returned, and no other operation has begun since. -/
  shutdown : Bool

inductive Event (ι : Type)
  | begin (i : ι) (operation : Operation)
  /-- What the call awaits is settled. -/
  | goOn (i : ι) (ok : Bool)
  /-- `close` of the page session -/
  | closeSession (i : ι)
  | crash (p : ℕ)
  | clock (now : ℕ)
  | authentication (active : Bool)
deriving DecidableEq

variable {ι : Type} [DecidableEq ι] (options : Options)

namespace State

variable (s : State ι)

def put (i : ι) (pc : Pc) : State ι := { s with pc := Function.update s.pc i pc }

/-- `browser?.isConnected() === true` -/
def connected : Bool :=
  match s.browser with
  | some p => s.process p = .live
  | none => false

end State

/-! ### The functions of the runtime -/

/-- `start`, up to the launch. -/
def beginStart (s : State ι) (i : ι) (starter : Starter) : State ι :=
  if s.connected then s.put i (.started starter) else s.put i (.launching starter)

/-- `start`, after the launch. -/
def endStart (s : State ι) (i : ι) (starter : Starter) : State ι :=
  { s with
    browser := some s.launched
    launched := s.launched + 1
    process := Function.update s.process s.launched .live
    startedAt := some s.now
    pagesRendered := 0 }.put i (.started starter)

/-- `closeBrowser`, up to `owned.close()`. -/
def closeBrowser (s : State ι) (i : ι) (closer : Closer) : State ι :=
  let closers := if closer = .close then insert i s.closers else s.closers
  match s.browser with
  | none => { s with closers }.put i (.closing none s.launched closer)
  | some p =>
    { s with
      closers
      browser := none
      process := Function.update s.process p
        (if s.process p = Process.live then .closing else s.process p) }.put i
      (.closing (some p) s.launched closer)

/-- `closeBrowser`, after `owned.close()`. -/
def browserClosed (s : State ι) (i : ι) (owned : Option ℕ) (launched : ℕ) (closer : Closer) :
    State ι :=
  match owned with
  | none => s.put i (.closed closer)
  | some p =>
    { s with
      process := Function.update s.process p .closed
      startedAt := none
      pagesRendered := 0
      activeJobIds := ∅
      shutBelow := max s.shutBelow launched }.put i (.closed closer)

/-- `restart`, up to `closeBrowser`. -/
def beginRestart (s : State ι) (i : ι) (closer : Closer) : State ι :=
  if s.activeJobIds ≠ ∅ ∨ s.authentication = true then s.put i (.settled (some .BROWSER_BUSY))
  else
    let recent := s.restartTimes.filter (Window.recent RESTART_WINDOW_MS s.now)
    if MAX_RESTARTS_PER_WINDOW ≤ recent.length then
      { s with restartTimes := recent }.put i (.settled (some .BROWSER_RESTART_LIMITED))
    else
      closeBrowser { s with restartTimes := recent ++ [s.now], restarts := s.now :: s.restarts } i
        closer

/-- `createPageSession`, from the last connected check to `newContext`. -/
def openContext (s : State ι) (i : ι) : State ι :=
  match s.browser with
  | none => s.put i (.settled (some .BROWSER_UNHEALTHY))
  | some p =>
    if s.process p = .live then
      { s with activeJobIds := insert i s.activeJobIds }.put i (.creating p)
    else s.put i (.settled (some .BROWSER_UNHEALTHY))

/-- `createPageSession`, after `start`: the rotation check. -/
def rotate (s : State ι) (i : ι) : State ι :=
  let age := match s.startedAt with
    | none => 0
    | some t => s.now - t
  if options.maximumPagesPerProcess ≤ s.pagesRendered ∨ options.maximumLifetimeMs ≤ age then
    if s.activeJobIds ≠ ∅ then s.put i (.settled (some .BROWSER_BUSY))
    else beginRestart s i .rotation
  else openContext s i

/-- `close` returns. -/
def closeReturns (s : State ι) (i : ι) : State ι :=
  { s with
    closers := s.closers.erase i
    stale := fun j => s.stale j || decide (s.pc j ≠ Pc.idle)
    shutdown := true }.put i (.settled none)

def begin (s : State ι) (i : ι) : Operation → State ι
  | .start => beginStart { s with shutdown := false } i .start
  | .restart => beginRestart { s with shutdown := false } i .restart
  | .createPageSession =>
    if s.connected then rotate options { s with shutdown := false } i
    else beginStart { s with shutdown := false } i .create
  | .close => s.put i .closingAuthentication

def goOn (s : State ι) (i : ι) (ok : Bool) : State ι :=
  match s.pc i with
  | .launching starter =>
    if ok then endStart s i starter else s.put i (.settled (some .BROWSER_LAUNCH_FAILED))
  | .started .start | .started .restart => s.put i (.settled none)
  | .started .create => rotate options s i
  | .started .rotation => openContext s i
  | .closing owned launched closer => browserClosed s i owned launched closer
  | .closed .restart => beginStart s i .restart
  | .closed .rotation => beginStart s i .rotation
  | .closed .close => closeReturns s i
  | .creating p =>
    if ok then s.put i (.opened p)
    else
      { s with activeJobIds := s.activeJobIds.erase i }.put i
        (.settled (some .BROWSER_CONTEXT_FAILED))
  | .sessionClosing _ =>
    { s with
      activeJobIds := s.activeJobIds.erase i
      pagesRendered := s.pagesRendered + 1 }.put i (.settled none)
  | .closingAuthentication => closeBrowser s i .close
  | .idle | .opened _ | .settled _ => s

def step (s : State ι) : Event ι → State ι
  | .begin i operation => if s.pc i = .idle then begin options s i operation else s
  | .goOn i ok => goOn options s i ok
  | .closeSession i =>
    match s.pc i with
    | .opened p => s.put i (.sessionClosing p)
    | _ => s
  | .crash p =>
    if p < s.launched ∧ s.process p ≠ .closed then
      { s with process := Function.update s.process p .crashed }
    else s
  | .clock now => { s with now := max s.now now }
  | .authentication active => { s with authentication := active }

/-! ### The condition on a step -/

/-- **The condition** on a step: a launch succeeds only while no other browser is connected and
no `close` is under way that has taken the browser, or has returned since the call began; and
when `closeBrowser` clears the active jobs, none is that of a process launched after it began. -/
def Allowed (s : State ι) : Event ι → Prop
  | .goOn i ok =>
    match s.pc i with
    | .launching _ => ok = true → s.connected = false ∧ s.stale i = false ∧ s.closers = ∅
    | .closing (some _) launched _ => ∀ j ∈ s.activeJobIds, ∀ p ∈ (s.pc j).process, p < launched
    | _ => True
  | _ => True

instance (s : State ι) : (e : Event ι) → Decidable (Allowed s e)
  | .goOn i ok =>
    match h : s.pc i with
    | .launching _ => decidable_of_iff
        (ok = true → s.connected = false ∧ s.stale i = false ∧ s.closers = ∅)
        (by simp only [Allowed, h])
    | .closing (some _) launched _ => decidable_of_iff
        (∀ j ∈ s.activeJobIds, ∀ p ∈ (s.pc j).process, p < launched)
        (by simp only [Allowed, h])
    | .closing none _ _ | .idle | .started _ | .closed _ | .creating _ | .opened _
    | .sessionClosing _ | .closingAuthentication | .settled _ => .isTrue (by simp [Allowed, h])
  | .begin _ _ | .closeSession _ | .crash _ | .clock _ | .authentication _ => .isTrue trivial

/-! ### What every step keeps -/

/-- The call may still launch a process. -/
def Pc.launches : Pc → Bool
  | .launching _ | .started _ => true
  | .closing _ _ closer | .closed closer => closer ≠ .close
  | _ => false

/-- The call is a `close` that has taken the browser. -/
def Pc.taken : Pc → Bool
  | .closing _ _ closer | .closed closer => closer = .close
  | _ => false

/-- The call has no page session and closes no process. -/
structure Pc.Free (pc : Pc) : Prop where
  process : pc.process = none
  closing : ∀ p n closer, pc ≠ .closing (some p) n closer

structure Invariant (s : State ι) : Prop where
  shut : s.shutBelow ≤ s.launched
  current : ∀ p, s.browser = some p → s.shutBelow ≤ p ∧ p < s.launched ∧
    (s.process p = .live ∨ s.process p = .crashed)
  processes : ∀ p < s.launched, s.browser = some p ∨ s.process p = .closed ∨
    s.process p = .crashed ∨ ∃ i n closer, s.pc i = .closing (some p) n closer
  closing : ∀ i owned n closer, s.pc i = .closing owned n closer →
    n ≤ s.launched ∧ ∀ p, s.browser = some p → n ≤ p
  owned : ∀ i p n closer, s.pc i = .closing (some p) n closer →
    p < n ∧ (closer ≠ .close → ∀ j, (s.pc j).process ≠ some p)
  sessions : ∀ i p, (s.pc i).process = some p → p < s.launched
  active : ∀ i, i ∈ s.activeJobIds ↔ ∃ p, (s.pc i).process = some p ∧ s.shutBelow ≤ p
  closers : ∀ i, (s.pc i).taken = true → i ∈ s.closers
  taken : s.closers ≠ ∅ → s.browser = none
  shutdown : s.shutdown = true →
    s.browser = none ∧ ∀ i, (s.pc i).launches = true → s.stale i = true
  restarts : Window.Limited RESTART_WINDOW_MS MAX_RESTARTS_PER_WINDOW s.now s.restartTimes
    s.restarts

variable {options : Options} {s : State ι} {i j : ι} {p : ℕ} {pc : Pc}

@[simp] theorem put_pc_self : (s.put i pc).pc i = pc := Function.update_self ..

theorem put_pc_ne (h : j ≠ i) : (s.put i pc).pc j = s.pc j := Function.update_of_ne h ..

theorem free_of_launches (h : pc.launches = true)
    (hc : ∀ p n closer, pc ≠ .closing (some p) n closer) : pc.Free := by
  refine ⟨?_, hc⟩
  cases pc <;> first | rfl | cases h

theorem holding (h : pc.process ≠ none) : pc.launches = false ∧ pc.taken = false := by
  cases pc <;> first | exact ⟨rfl, rfl⟩ | exact absurd rfl h

omit [DecidableEq ι] in
/-- An operation other than `close` begins. -/
theorem Invariant.begun (hs : Invariant s) : Invariant { s with shutdown := false } :=
  ⟨hs.shut, hs.current, hs.processes, hs.closing, hs.owned, hs.sessions, hs.active, hs.closers,
    hs.taken, fun h => (by cases h), hs.restarts⟩

/-- **A call moves on**, without a page session. -/
theorem Invariant.put (hs : Invariant s) (hold : (s.pc i).Free) (hnew : pc.process = none)
    (hclosing : ∀ owned n closer, pc ≠ .closing owned n closer)
    (htaken : pc.taken = true → i ∈ s.closers)
    (hlaunch : s.shutdown = true → pc.launches = true → s.stale i = true) :
    Invariant (s.put i pc) := by
  have hprocess : ∀ j, ((s.put i pc).pc j).process = (s.pc j).process := by
    intro j
    by_cases h : j = i
    · subst h; rw [put_pc_self, hnew, hold.process]
    · rw [put_pc_ne h]
  have hsame : ∀ j owned n closer, (s.put i pc).pc j = .closing owned n closer →
      s.pc j = .closing owned n closer := by
    intro j owned n closer hj
    by_cases h : j = i
    · subst h; rw [put_pc_self] at hj; exact absurd hj (hclosing owned n closer)
    · rwa [put_pc_ne h] at hj
  refine ⟨hs.shut, hs.current, fun p hp => ?_, fun j owned n closer hj => ?_,
    fun j p n closer hj => ?_, fun j p hj => ?_, fun j => ?_, fun j hj => ?_, hs.taken,
    fun h => ⟨(hs.shutdown h).1, fun j hj => ?_⟩, hs.restarts⟩
  · refine (hs.processes p hp).imp_right (Or.imp_right (Or.imp_right ?_))
    rintro ⟨j, n, closer, hj⟩
    refine ⟨j, n, closer, ?_⟩
    have h : j ≠ i := by
      rintro rfl
      exact hold.closing _ _ _ hj
    rw [put_pc_ne h]
    exact hj
  · exact hs.closing j owned n closer (hsame j owned n closer hj)
  · obtain ⟨hpn, hno⟩ := hs.owned j p n closer (hsame j _ n closer hj)
    refine ⟨hpn, fun hc k => ?_⟩
    rw [hprocess]
    exact hno hc k
  · rw [hprocess] at hj
    exact hs.sessions j p hj
  · rw [hprocess]
    exact hs.active j
  · by_cases h : j = i
    · subst h; rw [put_pc_self] at hj; exact htaken hj
    · rw [put_pc_ne h] at hj; exact hs.closers j hj
  · by_cases h' : j = i
    · subst h'; rw [put_pc_self] at hj; exact hlaunch h hj
    · rw [put_pc_ne h'] at hj; exact (hs.shutdown h).2 j hj

/-- A call fails or returns. -/
theorem Invariant.settle (hs : Invariant s) (hold : (s.pc i).Free) (error : Option ErrorCode) :
    Invariant (s.put i (.settled error)) :=
  hs.put hold rfl (fun _ _ _ h => (by cases h)) (fun h => (by cases h)) fun _ h => (by cases h)

theorem beginStart_invariant (hs : Invariant s) (hold : (s.pc i).Free) (starter : Starter)
    (hstale : s.shutdown = true → s.stale i = true) : Invariant (beginStart s i starter) := by
  unfold beginStart
  split_ifs
  · exact hs.put hold rfl (fun _ _ _ h => (by cases h)) (fun h => (by cases h)) fun h _ => hstale h
  · exact hs.put hold rfl (fun _ _ _ h => (by cases h)) (fun h => (by cases h)) fun h _ => hstale h

/-- **A launch succeeds** while no other browser is connected and no `close` is over it. -/
theorem endStart_invariant (hs : Invariant s) {starter : Starter}
    (hpc : s.pc i = .launching starter) (hcon : s.connected = false) (hstale : s.stale i = false)
    (hclosers : s.closers = ∅) : Invariant (endStart s i starter) := by
  have hold : (s.pc i).Free := free_of_launches (by rw [hpc]; rfl) (by rw [hpc]; simp)
  have hself : (endStart s i starter).pc i = .started starter := put_pc_self
  have hpcs : ∀ j, j ≠ i → (endStart s i starter).pc j = s.pc j := fun j h => put_pc_ne h
  have hprocess : ∀ j, ((endStart s i starter).pc j).process = (s.pc j).process := by
    intro j
    by_cases h : j = i
    · subst h; rw [hself, hold.process]; rfl
    · rw [hpcs j h]
  have hclosing : ∀ j owned n closer, (endStart s i starter).pc j = .closing owned n closer →
      s.pc j = .closing owned n closer := by
    intro j owned n closer hj
    by_cases h : j = i
    · subst h; rw [hself] at hj; cases hj
    · rwa [hpcs j h] at hj
  have hlt : ∀ {p}, p < s.launched →
      Function.update s.process s.launched Process.live p = s.process p :=
    fun h => Function.update_of_ne (by omega) ..
  refine ⟨?_, fun p hp => ?_, fun p hp => ?_, fun j owned n closer hj => ?_,
    fun j p n closer hj => ?_, fun j p hj => ?_, fun j => ?_, fun j hj => ?_, fun h => ?_,
    fun h => ?_, hs.restarts⟩
  · have := hs.shut
    show s.shutBelow ≤ s.launched + 1
    omega
  · obtain rfl : s.launched = p := by simpa [endStart, State.put] using hp
    exact ⟨hs.shut, Nat.lt_succ_self _, .inl (Function.update_self ..)⟩
  · have hp : p < s.launched + 1 := hp
    rcases Nat.lt_succ_iff_lt_or_eq.1 hp with hp | rfl
    · refine .inr ?_
      show Function.update s.process s.launched Process.live p = _ ∨
        Function.update s.process s.launched Process.live p = _ ∨ _
      rw [hlt hp]
      rcases hs.processes p hp with hcur | h | h | ⟨j, n, closer, hj⟩
      · -- the browser that is replaced is not connected
        have hdead : s.process p ≠ .live := by
          intro h
          simp [State.connected, hcur, h] at hcon
        exact .inr (.inl ((hs.current p hcur).2.2.resolve_left hdead))
      · exact .inl h
      · exact .inr (.inl h)
      · have hji : j ≠ i := by
          rintro rfl
          rw [hpc] at hj
          cases hj
        exact .inr (.inr ⟨j, n, closer, by rw [hpcs j hji]; exact hj⟩)
    · exact .inl rfl
  · obtain ⟨hn, -⟩ := hs.closing j owned n closer (hclosing j owned n closer hj)
    refine ⟨Nat.le_succ_of_le hn, fun p hp => ?_⟩
    obtain rfl : s.launched = p := by simpa [endStart, State.put] using hp
    exact hn
  · obtain ⟨hpn, hno⟩ := hs.owned j p n closer (hclosing j _ n closer hj)
    refine ⟨hpn, fun hc k => ?_⟩
    rw [hprocess]
    exact hno hc k
  · rw [hprocess] at hj
    exact Nat.lt_succ_of_lt (hs.sessions j p hj)
  · rw [hprocess]
    exact hs.active j
  · by_cases h : j = i
    · subst h; rw [hself] at hj; cases hj
    · rw [hpcs j h] at hj; exact hs.closers j hj
  · exact absurd hclosers h
  · rw [(hs.shutdown h).2 i (by rw [hpc]; rfl)] at hstale
    cases hstale

/-- **The browser is taken**, by `close` or while no page session is open or being created. -/
theorem closeBrowser_invariant (hs : Invariant s) (hold : (s.pc i).Free) {closer : Closer}
    (hactive : closer ≠ .close → s.activeJobIds = ∅)
    (hstale : closer ≠ .close → s.shutdown = true → s.stale i = true) :
    Invariant (closeBrowser s i closer) := by
  -- the state in both cases
  obtain ⟨owned, process, hstate, hcur, hproc⟩ : ∃ (owned : Option ℕ) (process : ℕ → Process),
      closeBrowser s i closer = State.put { s with
        closers := if closer = .close then insert i s.closers else s.closers
        browser := none, process } i (.closing owned s.launched closer) ∧
      s.browser = owned ∧ ∀ p, s.browser ≠ some p → process p = s.process p := by
    unfold closeBrowser
    cases hb : s.browser with
    | none =>
      exact ⟨none, s.process, rfl, rfl, fun _ _ => rfl⟩
    | some p =>
      exact ⟨some p, _, rfl, rfl, fun q hq =>
        Function.update_of_ne (fun h => hq (congrArg some h.symm)) ..⟩
  rw [hstate]
  set s' : State ι := State.put { s with
    closers := if closer = .close then insert i s.closers else s.closers
    browser := none, process } i (.closing owned s.launched closer) with hs'
  have hself : s'.pc i = .closing owned s.launched closer := put_pc_self
  have hpcs : ∀ j, j ≠ i → s'.pc j = s.pc j := fun j h => put_pc_ne h
  have hprocess : ∀ j, (s'.pc j).process = (s.pc j).process := by
    intro j
    by_cases h : j = i
    · subst h; rw [hself, hold.process]; rfl
    · rw [hpcs j h]
  refine ⟨hs.shut, fun p hp => (by cases hp), fun p hp => ?_, fun j o n c hj => ?_,
    fun j p n c hj => ?_, fun j p hj => ?_, fun j => ?_, fun j hj => ?_, fun _ => rfl,
    fun h => ⟨rfl, fun j hj => ?_⟩, hs.restarts⟩
  · by_cases hb : s.browser = some p
    · exact .inr (.inr (.inr ⟨i, s.launched, closer, by rw [hself, ← hcur, hb]⟩))
    · refine .inr ?_
      show process p = _ ∨ process p = _ ∨ _
      rw [hproc p hb]
      rcases hs.processes p hp with h | h | h | ⟨j, n, c, hj⟩
      · exact absurd h hb
      · exact .inl h
      · exact .inr (.inl h)
      · have hji : j ≠ i := by
          rintro rfl
          exact hold.closing _ _ _ hj
        exact .inr (.inr ⟨j, n, c, by rw [hpcs j hji]; exact hj⟩)
  · refine ⟨?_, fun p hp => (by cases hp)⟩
    by_cases h : j = i
    · subst h
      rw [hself] at hj
      cases hj
      exact Nat.le_refl _
    · rw [hpcs j h] at hj
      exact (hs.closing j o n c hj).1
  · by_cases h : j = i
    · subst h
      rw [hself] at hj
      cases hj
      obtain ⟨hshut, hp, -⟩ := hs.current p hcur
      refine ⟨hp, fun hc k hk => ?_⟩
      rw [hprocess] at hk
      have hmem := (hs.active k).2 ⟨p, hk, hshut⟩
      rw [hactive hc] at hmem
      simp at hmem
    · rw [hpcs j h] at hj
      obtain ⟨hpn, hno⟩ := hs.owned j p n c hj
      refine ⟨hpn, fun hc k => ?_⟩
      rw [hprocess]
      exact hno hc k
  · rw [hprocess] at hj
    exact hs.sessions j p hj
  · rw [hprocess]
    exact hs.active j
  · show j ∈ if closer = .close then insert i s.closers else s.closers
    by_cases h : j = i
    · subst h
      rw [hself] at hj
      rw [if_pos (by simpa [Pc.taken] using hj)]
      exact Finset.mem_insert_self ..
    · rw [hpcs j h] at hj
      split_ifs
      · exact Finset.mem_insert_of_mem (hs.closers j hj)
      · exact hs.closers j hj
  · by_cases h' : j = i
    · subst h'
      rw [hself] at hj
      exact hstale (by simpa [Pc.launches] using hj) h
    · rw [hpcs j h'] at hj
      exact (hs.shutdown h).2 j hj

/-- **The process is closed** and the active jobs are cleared, none of them that of a process
launched since. -/
theorem browserClosed_invariant (hs : Invariant s) {owned : Option ℕ} {n : ℕ} {closer : Closer}
    (hpc : s.pc i = .closing owned n closer)
    (hactive : owned.isSome → ∀ j ∈ s.activeJobIds, ∀ p ∈ (s.pc j).process, p < n) :
    Invariant (browserClosed s i owned n closer) := by
  have htaken : (Pc.closed closer).taken = true → i ∈ s.closers := by
    intro h
    exact hs.closers i (by rw [hpc]; exact h)
  have hlaunch : s.shutdown = true → (Pc.closed closer).launches = true → s.stale i = true := by
    intro h hl
    exact (hs.shutdown h).2 i (by rw [hpc]; exact hl)
  cases owned with
  | none =>
    refine hs.put ⟨by rw [hpc]; rfl, fun p n' c h => ?_⟩ rfl (fun _ _ _ h => (by cases h)) htaken
      hlaunch
    rw [hpc] at h
    cases h
  | some p =>
    obtain ⟨hn, hcur⟩ := hs.closing i (some p) n closer hpc
    obtain ⟨hpn, -⟩ := hs.owned i p n closer hpc
    set s' := browserClosed s i (some p) n closer with hs'
    have hself : s'.pc i = .closed closer := put_pc_self
    have hpcs : ∀ j, j ≠ i → s'.pc j = s.pc j := fun j h => put_pc_ne h
    have hprocess : ∀ j, (s'.pc j).process = (s.pc j).process := by
      intro j
      by_cases h : j = i
      · subst h; rw [hself, hpc]; rfl
      · rw [hpcs j h]
    have hsame : ∀ j o m c, s'.pc j = .closing o m c → s.pc j = .closing o m c := by
      intro j o m c hj
      by_cases h : j = i
      · subst h; rw [hself] at hj; cases hj
      · rwa [hpcs j h] at hj
    have hother : ∀ q, q ≠ p → s'.process q = s.process q := fun q h => Function.update_of_ne h ..
    refine ⟨?_, fun q hq => ?_, fun q hq => ?_, fun j o m c hj => ?_, fun j q m c hj => ?_,
      fun j q hj => ?_, fun j => ?_, fun j hj => ?_, hs.taken, fun h => ⟨(hs.shutdown h).1,
      fun j hj => ?_⟩, hs.restarts⟩
    · have hshut := hs.shut
      show max s.shutBelow n ≤ s.launched
      omega
    · have hq : s.browser = some q := hq
      obtain ⟨hshut, hlt, hlive⟩ := hs.current q hq
      have hnq := hcur q hq
      refine ⟨?_, hlt, ?_⟩
      · show max s.shutBelow n ≤ q
        omega
      · rw [hother q (by omega)]
        exact hlive
    · by_cases h : q = p
      · subst h; exact .inr (.inl (Function.update_self ..))
      · rw [hother q h]
        refine (hs.processes q hq).imp_right (Or.imp_right (Or.imp_right ?_))
        rintro ⟨j, m, c, hj⟩
        have hji : j ≠ i := by
          rintro rfl
          rw [hpc] at hj
          cases hj
          exact h rfl
        exact ⟨j, m, c, by rw [hpcs j hji]; exact hj⟩
    · exact hs.closing j o m c (hsame j o m c hj)
    · obtain ⟨hqm, hno⟩ := hs.owned j q m c (hsame j _ m c hj)
      refine ⟨hqm, fun hc k => ?_⟩
      rw [hprocess]
      exact hno hc k
    · rw [hprocess] at hj
      exact hs.sessions j q hj
    · -- every session that was active is over
      rw [hprocess]
      constructor
      · intro h
        have h : j ∈ (∅ : Finset ι) := h
        simp at h
      · rintro ⟨q, hq, hle⟩
        have hle : max s.shutBelow n ≤ q := hle
        have hlt := hactive rfl j ((hs.active j).2 ⟨q, hq, by omega⟩) q hq
        omega
    · by_cases h : j = i
      · subst h; rw [hself] at hj; exact htaken hj
      · rw [hpcs j h] at hj; exact hs.closers j hj
    · by_cases h' : j = i
      · subst h'; rw [hself] at hj; exact hlaunch h hj
      · rw [hpcs j h'] at hj; exact (hs.shutdown h).2 j hj

theorem beginRestart_invariant (hs : Invariant s) (hold : (s.pc i).Free) {closer : Closer}
    (hstale : s.shutdown = true → s.stale i = true) :
    Invariant (beginRestart s i closer) := by
  have hpruned : Invariant { s with
      restartTimes := s.restartTimes.filter (Window.recent RESTART_WINDOW_MS s.now) } :=
    ⟨hs.shut, hs.current, hs.processes, hs.closing, hs.owned, hs.sessions, hs.active, hs.closers,
      hs.taken, hs.shutdown, hs.restarts.prune⟩
  unfold beginRestart
  split_ifs with hbusy
  · exact hs.settle hold _
  · dsimp only
    split_ifs with hlimit
    · exact hpruned.settle hold _
    · have hempty : s.activeJobIds = ∅ := by
        by_contra h
        exact hbusy (.inl h)
      refine closeBrowser_invariant (s := { s with
        restartTimes := s.restartTimes.filter (Window.recent RESTART_WINDOW_MS s.now) ++ [s.now]
        restarts := s.now :: s.restarts }) ?_ hold (fun _ => hempty) fun _ => hstale
      exact ⟨hs.shut, hs.current, hs.processes, hs.closing, hs.owned, hs.sessions, hs.active,
        hs.closers, hs.taken, hs.shutdown, hs.restarts.admit (by omega)⟩

/-- **A page session is created**, on the current browser. -/
theorem openContext_invariant (hs : Invariant s) (hold : (s.pc i).Free) :
    Invariant (openContext s i) := by
  unfold openContext
  split
  · exact hs.settle hold _
  · rename_i p hb
    split_ifs
    · obtain ⟨hshut, hlt, -⟩ := hs.current p hb
      set s' : State ι := State.put { s with activeJobIds := insert i s.activeJobIds } i
        (.creating p) with hs'
      have hself : s'.pc i = .creating p := put_pc_self
      have hpcs : ∀ j, j ≠ i → s'.pc j = s.pc j := fun j h => put_pc_ne h
      have hsame : ∀ j o m c, s'.pc j = .closing o m c → s.pc j = .closing o m c := by
        intro j o m c hj
        by_cases h : j = i
        · subst h; rw [hself] at hj; cases hj
        · rwa [hpcs j h] at hj
      refine ⟨hs.shut, hs.current, fun q hq => ?_, fun j o m c hj => ?_, fun j q m c hj => ?_,
        fun j q hj => ?_, fun j => ?_, fun j hj => ?_, hs.taken, fun h => ⟨(hs.shutdown h).1,
        fun j hj => ?_⟩, hs.restarts⟩
      · refine (hs.processes q hq).imp_right (Or.imp_right (Or.imp_right ?_))
        rintro ⟨j, m, c, hj⟩
        have hji : j ≠ i := by
          rintro rfl
          exact hold.closing _ _ _ hj
        exact ⟨j, m, c, by rw [hpcs j hji]; exact hj⟩
      · exact hs.closing j o m c (hsame j o m c hj)
      · have hold' := hsame j _ m c hj
        obtain ⟨hqm, hno⟩ := hs.owned j q m c hold'
        refine ⟨hqm, fun hc k => ?_⟩
        by_cases h : k = i
        · -- the browser is younger than every process that is being closed
          subst h
          rw [hself]
          have hmp := (hs.closing j _ m c hold').2 p hb
          intro hpq
          cases hpq
          omega
        · rw [hpcs k h]
          exact hno hc k
      · by_cases h : j = i
        · subst h; rw [hself] at hj; cases hj; exact hlt
        · rw [hpcs j h] at hj; exact hs.sessions j q hj
      · show j ∈ insert i s.activeJobIds ↔ _
        rw [Finset.mem_insert]
        by_cases h : j = i
        · subst h
          rw [hself]
          exact ⟨fun _ => ⟨p, rfl, hshut⟩, fun _ => .inl rfl⟩
        · rw [hpcs j h]
          exact ⟨fun hj => (hs.active j).1 (hj.resolve_left h), fun hj => .inr ((hs.active j).2 hj)⟩
      · by_cases h : j = i
        · subst h; rw [hself] at hj; cases hj
        · rw [hpcs j h] at hj; exact hs.closers j hj
      · by_cases h' : j = i
        · subst h'; rw [hself] at hj; cases hj
        · rw [hpcs j h'] at hj; exact (hs.shutdown h).2 j hj
    · exact hs.settle hold _

theorem rotate_invariant (hs : Invariant s) (hold : (s.pc i).Free)
    (hstale : s.shutdown = true → s.stale i = true) : Invariant (rotate options s i) := by
  unfold rotate
  dsimp only
  split_ifs
  · exact hs.settle hold _
  · exact beginRestart_invariant hs hold hstale
  · exact openContext_invariant hs hold

/-- **A page session is over**: it could not be created, or is closed. -/
theorem Invariant.forget (hs : Invariant s) {pagesRendered : ℕ} {error : Option ErrorCode}
    (hpc : (s.pc i).process = some p) :
    Invariant ({ s with activeJobIds := s.activeJobIds.erase i, pagesRendered }.put i
      (.settled error)) := by
  set s' : State ι := State.put { s with activeJobIds := s.activeJobIds.erase i, pagesRendered } i
    (.settled error) with hs'
  have hself : s'.pc i = .settled error := put_pc_self
  have hpcs : ∀ j, j ≠ i → s'.pc j = s.pc j := fun j h => put_pc_ne h
  have hsame : ∀ j o m c, s'.pc j = .closing o m c → s.pc j = .closing o m c := by
    intro j o m c hj
    by_cases h : j = i
    · subst h; rw [hself] at hj; cases hj
    · rwa [hpcs j h] at hj
  refine ⟨hs.shut, hs.current, fun q hq => ?_, fun j o m c hj => ?_, fun j q m c hj => ?_,
    fun j q hj => ?_, fun j => ?_, fun j hj => ?_, hs.taken, fun h => ⟨(hs.shutdown h).1,
    fun j hj => ?_⟩, hs.restarts⟩
  · refine (hs.processes q hq).imp_right (Or.imp_right (Or.imp_right ?_))
    rintro ⟨j, m, c, hj⟩
    have hji : j ≠ i := by
      rintro rfl
      rw [hj] at hpc
      cases hpc
    exact ⟨j, m, c, by rw [hpcs j hji]; exact hj⟩
  · exact hs.closing j o m c (hsame j o m c hj)
  · obtain ⟨hqm, hno⟩ := hs.owned j q m c (hsame j _ m c hj)
    refine ⟨hqm, fun hc k => ?_⟩
    by_cases h : k = i
    · subst h; rw [hself]; simp [Pc.process]
    · rw [hpcs k h]; exact hno hc k
  · by_cases h : j = i
    · subst h; rw [hself] at hj; cases hj
    · rw [hpcs j h] at hj; exact hs.sessions j q hj
  · show j ∈ s.activeJobIds.erase i ↔ _
    rw [Finset.mem_erase]
    by_cases h : j = i
    · subst h
      rw [hself]
      simp [Pc.process]
    · rw [hpcs j h]
      exact ⟨fun hj => (hs.active j).1 hj.2, fun hj => ⟨h, (hs.active j).2 hj⟩⟩
  · by_cases h : j = i
    · subst h; rw [hself] at hj; cases hj
    · rw [hpcs j h] at hj; exact hs.closers j hj
  · by_cases h' : j = i
    · subst h'; rw [hself] at hj; cases hj
    · rw [hpcs j h'] at hj; exact (hs.shutdown h).2 j hj

/-- A page session stays in its process. -/
theorem Invariant.keep (hs : Invariant s) (hold : (s.pc i).process = some p)
    (hnew : pc.process = some p) : Invariant (s.put i pc) := by
  have hprocess : ∀ j, ((s.put i pc).pc j).process = (s.pc j).process := by
    intro j
    by_cases h : j = i
    · subst h; rw [put_pc_self, hnew, hold]
    · rw [put_pc_ne h]
  have hpcs : ∀ j, (s.put i pc).pc j = s.pc j ∨
      ((s.put i pc).pc j).process ≠ none ∧ (s.pc j).process ≠ none := by
    intro j
    by_cases h : j = i
    · subst h; rw [put_pc_self, hnew, hold]; exact .inr ⟨by simp, by simp⟩
    · exact .inl (put_pc_ne h)
  have hclosing : ∀ j o m c, (s.put i pc).pc j = .closing o m c ↔ s.pc j = .closing o m c := by
    intro j o m c
    rcases hpcs j with h | ⟨h, h'⟩
    · rw [h]
    · constructor
      · intro hj; rw [hj] at h; exact absurd rfl h
      · intro hj; rw [hj] at h'; exact absurd rfl h'
  refine ⟨hs.shut, hs.current, fun q hq => ?_, fun j o m c hj => ?_, fun j q m c hj => ?_,
    fun j q hj => ?_, fun j => ?_, fun j hj => ?_, hs.taken, fun h => ⟨(hs.shutdown h).1,
    fun j hj => ?_⟩, hs.restarts⟩
  · refine (hs.processes q hq).imp_right (Or.imp_right (Or.imp_right ?_))
    rintro ⟨j, m, c, hj⟩
    exact ⟨j, m, c, (hclosing j _ m c).2 hj⟩
  · exact hs.closing j o m c ((hclosing j o m c).1 hj)
  · obtain ⟨hqm, hno⟩ := hs.owned j q m c ((hclosing j _ m c).1 hj)
    refine ⟨hqm, fun hc k => ?_⟩
    rw [hprocess]
    exact hno hc k
  · rw [hprocess] at hj
    exact hs.sessions j q hj
  · rw [hprocess]
    exact hs.active j
  · rcases hpcs j with h | ⟨h, -⟩
    · rw [h] at hj
      exact hs.closers j hj
    · rw [(holding h).2] at hj
      cases hj
  · rcases hpcs j with h' | ⟨h', -⟩
    · rw [h'] at hj
      exact (hs.shutdown h).2 j hj
    · rw [(holding h').1] at hj
      cases hj

/-- **`close` returns**: the browser is gone, and every call that is under way is stale. -/
theorem closeReturns_invariant (hs : Invariant s) (hpc : s.pc i = .closed .close) :
    Invariant (closeReturns s i) := by
  have hmem : i ∈ s.closers := hs.closers i (by rw [hpc]; rfl)
  have hnone : s.browser = none := hs.taken (Finset.ne_empty_of_mem hmem)
  have hput : Invariant (s.put i (.settled none)) :=
    hs.settle ⟨by rw [hpc]; rfl, by rw [hpc]; simp⟩ none
  refine ⟨hput.shut, hput.current, hput.processes, hput.closing, hput.owned, hput.sessions,
    hput.active, fun j hj => ?_, fun _ => hnone, fun _ => ⟨hnone, fun j hj => ?_⟩, hput.restarts⟩
  · have hji : j ≠ i := by
      rintro rfl
      rw [show (closeReturns s j).pc j = .settled none from put_pc_self] at hj
      cases hj
    exact Finset.mem_erase.2 ⟨hji, hput.closers j hj⟩
  · show (s.stale j || decide (s.pc j ≠ Pc.idle)) = true
    have hidle : s.pc j ≠ .idle := by
      intro h
      by_cases hji : j = i
      · subst hji
        rw [hpc] at h
        cases h
      · rw [show (closeReturns s i).pc j = s.pc j from put_pc_ne hji, h] at hj
        cases hj
    simp [hidle]

omit [DecidableEq ι] in
/-- A process crashes. -/
theorem Invariant.crash (hs : Invariant s) :
    Invariant { s with process := Function.update s.process p .crashed } := by
  refine ⟨hs.shut, fun q hq => ?_, fun q hq => ?_, hs.closing, hs.owned, hs.sessions, hs.active,
    hs.closers, hs.taken, hs.shutdown, hs.restarts⟩
  · obtain ⟨hshut, hlt, hlive⟩ := hs.current q hq
    refine ⟨hshut, hlt, ?_⟩
    by_cases h : q = p
    · subst h; exact .inr (Function.update_self ..)
    · exact hlive.imp (Function.update_of_ne h ..).trans (Function.update_of_ne h ..).trans
  · by_cases h : q = p
    · subst h; exact .inr (.inr (.inl (Function.update_self ..)))
    · exact (hs.processes q hq).imp_right (Or.imp (Function.update_of_ne h ..).trans
        (Or.imp_left (Function.update_of_ne h ..).trans))

theorem goOn_invariant (hs : Invariant s) {ok : Bool} (h : Allowed s (.goOn i ok)) :
    Invariant (goOn options s i ok) := by
  have hstale : (s.pc i).launches = true → s.shutdown = true → s.stale i = true :=
    fun hl hshut => (hs.shutdown hshut).2 i hl
  unfold goOn
  cases hpc : s.pc i with
  | idle => exact hs
  | opened p => exact hs
  | settled error => exact hs
  | launching starter =>
    simp only [Allowed, hpc] at h
    cases ok with
    | true =>
      obtain ⟨hcon, hst, hclosers⟩ := h rfl
      exact endStart_invariant hs hpc hcon hst hclosers
    | false => exact hs.settle ⟨by rw [hpc]; rfl, by rw [hpc]; simp⟩ _
  | started starter =>
    have hfree : (s.pc i).Free := ⟨by rw [hpc]; rfl, by rw [hpc]; simp⟩
    have hst := hstale (by rw [hpc]; rfl)
    cases starter with
    | start => exact hs.settle hfree _
    | restart => exact hs.settle hfree _
    | create => exact rotate_invariant hs hfree hst
    | rotation => exact openContext_invariant hs hfree
  | closing owned n closer =>
    refine browserClosed_invariant hs hpc fun howned => ?_
    cases owned with
    | none => cases howned
    | some p =>
      simp only [Allowed, hpc] at h
      exact h
  | closed closer =>
    have hfree : (s.pc i).Free := ⟨by rw [hpc]; rfl, by rw [hpc]; simp⟩
    cases closer with
    | restart => exact beginStart_invariant hs hfree _ (hstale (by rw [hpc]; rfl))
    | rotation => exact beginStart_invariant hs hfree _ (hstale (by rw [hpc]; rfl))
    | close => exact closeReturns_invariant hs hpc
  | creating p =>
    have hprocess : (s.pc i).process = some p := by rw [hpc]; rfl
    cases ok with
    | true => exact hs.keep hprocess rfl
    | false => exact hs.forget hprocess
  | sessionClosing p => exact hs.forget (p := p) (by rw [hpc]; rfl)
  | closingAuthentication =>
    exact closeBrowser_invariant hs ⟨by rw [hpc]; rfl, by rw [hpc]; simp⟩ (fun h => absurd rfl h)
      (fun h => absurd rfl h)

theorem begin_invariant (hs : Invariant s) (hpc : s.pc i = .idle) (operation : Operation) :
    Invariant (begin options s i operation) := by
  have hfree : (s.pc i).Free := ⟨by rw [hpc]; rfl, by rw [hpc]; simp⟩
  cases operation with
  | start => exact beginStart_invariant hs.begun hfree _ fun h => (by cases h)
  | restart => exact beginRestart_invariant hs.begun hfree fun h => (by cases h)
  | createPageSession =>
    unfold begin
    dsimp only
    split_ifs
    · exact rotate_invariant hs.begun hfree fun h => (by cases h)
    · exact beginStart_invariant hs.begun hfree _ fun h => (by cases h)
  | close =>
    exact hs.put hfree rfl (fun _ _ _ h => (by cases h)) (fun h => (by cases h))
      fun _ h => (by cases h)

/-- **Every step that the condition allows keeps the invariant.** -/
theorem step_invariant (hs : Invariant s) {e : Event ι} (h : Allowed s e) :
    Invariant (step options s e) := by
  cases e with
  | begin i operation =>
    simp only [step]
    split_ifs with hpc
    · exact begin_invariant hs hpc operation
    · exact hs
  | goOn i ok => exact goOn_invariant hs h
  | closeSession i =>
    simp only [step]
    cases hpc : s.pc i with
    | opened p => exact hs.keep (p := p) (by rw [hpc]; rfl) rfl
    | _ => exact hs
  | crash p =>
    simp only [step]
    split_ifs
    · exact hs.crash
    · exact hs
  | clock now =>
    exact ⟨hs.shut, hs.current, hs.processes, hs.closing, hs.owned, hs.sessions, hs.active,
      hs.closers, hs.taken, hs.shutdown, hs.restarts.clock (Nat.le_max_left ..)⟩
  | authentication active =>
    exact ⟨hs.shut, hs.current, hs.processes, hs.closing, hs.owned, hs.sessions, hs.active,
      hs.closers, hs.taken, hs.shutdown, hs.restarts⟩

end OfflineWebArchiver.Rendering
