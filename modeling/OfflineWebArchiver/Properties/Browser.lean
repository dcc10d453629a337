import OfflineWebArchiver.Browser.Authentication
import OfflineWebArchiver.Browser.NetworkPermits
import OfflineWebArchiver.Browser.Rendering
import OfflineWebArchiver.Login.OtpFlow

/-!
# Cancelled logins stay cancelled

* `cancelled_logins_stay_cancelled`: in a run whose steps all meet the condition the
  authentication state changes only as `canTransitionAuthenticationState` allows, and a login
  that is over stays over.
* `overtaken_authenticates`: a code that is being verified while the login is cancelled.
-/

namespace OfflineWebArchiver.Otp

variable {ι : Type} [DecidableEq ι]

/-- An engine on which nothing has been called. -/
def initialState (nowMs : ℕ) : State ι where
  engine :=
    { state := .idle, authenticationState := .unauthenticated, attemptCount := 0
      lastRequestedAtMs := none, expiresAtMs := none, lastErrorCode := none }
  nowMs
  pc := fun _ => .idle

/-- The law of a run: every change of the authentication state is allowed, and a login that is
over stays over. -/
structure StaysOver (flow : LoginFlow) (s₀ : State ι) (es : List (Event ι)) : Prop where
  transition : ∀ n, canTransitionAuthenticationState
    (Run.stAt (step flow) s₀ es n).engine.authenticationState
    (Run.stAt (step flow) s₀ es (n + 1)).engine.authenticationState = true
  ended : ∀ m n, m ≤ n → (Run.stAt (step flow) s₀ es m).engine.state.over = true →
    (Run.stAt (step flow) s₀ es n).engine.state.over = true

/-- **Cancelled logins stay cancelled**, however the calls are interleaved, as long as no
`start`, `provideOtp` or `resend` writes over what the condition excludes. -/
theorem cancelled_logins_stay_cancelled (flow : LoginFlow) (nowMs : ℕ) (es : List (Event ι))
    (h : Run.Meets (step flow) (initialState nowMs) Allowed es) :
    StaysOver flow (initialState nowMs) es := by
  have hinv : ∀ n, Invariant (Run.stAt (step flow) (initialState nowMs) es n) := by
    apply Run.stAt_induction
    · rfl
    · intro n e he hs
      exact (step_lawful hs (h n e he)).1
  have hlawful : ∀ n e, es[n]? = some e →
      Lawful (Run.stAt (step flow) (initialState nowMs) es n).engine
        (step flow (Run.stAt (step flow) (initialState nowMs) es n) e).engine :=
    fun n e he => (step_lawful (hinv n) (h n e he)).2
  refine ⟨fun n => ?_, fun m n hmn => ?_⟩
  · cases he : es[n]? with
    | none =>
      rw [Run.stAt_succ_none he]
      simp [canTransitionAuthenticationState]
    | some e =>
      rw [Run.stAt_succ he]
      exact (hlawful n e he).transition
  · let r : State ι → State ι → Prop :=
      fun s s' => s.engine.state.over = true → s'.engine.state.over = true
    have hr : ∀ n e, es[n]? = some e →
        r (Run.stAt (step flow) (initialState nowMs) es n)
          (step flow (Run.stAt (step flow) (initialState nowMs) es n) e) :=
      fun n e he => (hlawful n e he).ended
    exact Run.stAt_trans (fun _ h => h) (fun _ _ _ h₁ h₂ h => h₂ (h₁ h)) hr hmn

def sampleFlow : LoginFlow :=
  { resendControl := true, resendCooldownMs := 30000, otpTimeoutMs := 120000 }

/-- A code is asked for, and the login cancelled. -/
def cancelledRun : List (Event ℕ) :=
  [.begin 0 (.start true), .goOn 0, .goOn 0, .goOn 0, .goOn 0, .goOn 0,
    .begin 1 .cancel, .goOn 1, .begin 2 (.provideOtp true), .begin 3 .handleBrowserClosed]

theorem cancelled_logins_stay_cancelled_cancelledRun :
    (Run.stAt (step sampleFlow) (initialState 0) cancelledRun 10).engine.state = .cancelled ∧
      StaysOver sampleFlow (initialState 0) cancelledRun :=
  ⟨by decide, cancelled_logins_stay_cancelled sampleFlow 0 cancelledRun (by decide)⟩

/-- The login is cancelled while `provideOtp` awaits the browser. -/
def overtakenRun : List (Event ℕ) :=
  [.begin 0 (.start true), .goOn 0, .goOn 0, .goOn 0, .goOn 0, .goOn 0,
    .begin 1 (.provideOtp true), .begin 2 .cancel, .goOn 2, .goOn 1]

/-- **An overtaken verification**: the cancelled login becomes `authenticated`, a change of the
authentication state that is not allowed. -/
theorem overtaken_authenticates :
    (Run.stAt (step sampleFlow) (initialState 0) overtakenRun 9).engine.state = .cancelled ∧
      (Run.stAt (step sampleFlow) (initialState 0) overtakenRun 10).engine.state =
        .authenticated ∧
      ¬ StaysOver sampleFlow (initialState 0) overtakenRun :=
  ⟨by decide, by decide, fun h => absurd (h.transition 9) (by decide)⟩

end OfflineWebArchiver.Otp

/-!
## Page sessions return their network permits

* `network_permits_run`: in a run whose steps all meet the condition no permit is leaked and no
  live request is without its permit.
* `permits_are_lost`: a page that is closed while a request is in flight, and an event that takes
  the permit of another request.
-/

namespace OfflineWebArchiver.NetworkPermits

variable {ι : Type} [DecidableEq ι] {request : ι → PausedRequest} {policy : Policy} {s : State ι}

/-- A page on which nothing has been requested. -/
def initialState : State ι where
  pc := fun _ => .idle
  networkPermits := fun _ => []
  acquired := []
  released := fun _ => false
  inflight := fun _ => 0
  continued := fun _ => false
  ended := fun _ => false
  gone := false
  closing := .not_called

variable (request) in
/-- The law of the permits. -/
structure Accounted (s : State ι) : Prop where
  /-- After `close` every permit whose handler has settled is released. -/
  returned : s.closing = .returned → ∀ i ∈ s.acquired, s.pc i = .settled → s.released i = true
  /-- A request that has been continued and is in flight has its permit. -/
  live : ∀ i ∈ s.acquired, s.live i = true → s.released i = false
  /-- No slot of an origin is leaked. -/
  leak : s.closing = .returned → (∀ i ∈ s.acquired, s.pc i = .settled) →
    ∀ origin, s.inflight origin = 0
  /-- The live requests are counted. -/
  counted : ∀ origin, s.acquired.countP (fun i => (request i).origin = origin && s.live i) ≤
    s.inflight origin

omit [DecidableEq ι] in
theorem Invariant.accounted (hs : Invariant request s) : Accounted request s := by
  have hreturned : s.closing = .returned → ∀ i ∈ s.acquired, s.pc i = .settled →
      s.released i = true := by
    intro hret i hi hpc
    by_contra hr
    have hcontinuing := hs.returned hret i hi (by simpa using hr)
    rw [hpc] at hcontinuing
    cases hcontinuing
  have hlive : ∀ i ∈ s.acquired, s.live i = true → s.released i = false := by
    intro i _ hl
    obtain ⟨hcon, hend⟩ : s.continued i = true ∧ s.ended i = false := by
      simpa [State.live] using hl
    by_contra hr
    rcases (hs.released i (by simpa using hr)).2 with h | ⟨h, -⟩
    · rw [hend] at h
      cases h
    · rw [hcon] at h
      cases h
  refine ⟨hreturned, hlive, fun hret hset origin => ?_, fun origin => ?_⟩
  · rw [hs.inflight, List.countP_eq_zero]
    intro i hi
    simp [State.holds, hreturned hret i hi (hset i hi)]
  · rw [hs.inflight]
    refine List.countP_mono_left fun i hi h => ?_
    obtain ⟨horigin, hl⟩ : (request i).origin = origin ∧ s.live i = true := by simpa using h
    simp [State.holds, horigin, hlive i hi hl]

omit [DecidableEq ι] in
theorem initial_invariant : Invariant request (initialState : State ι) where
  filed := by simp [initialState]
  distinct := by simp [initialState]
  once := List.nodup_nil
  handler := by simp [initialState]
  continued := by simp [initialState]
  released := by simp [initialState]
  inflight := fun _ => rfl
  returned := by simp [initialState]

/-- Requests of one URL; the last is an event source. -/
def sampleRequest (i : ℕ) : PausedRequest :=
  { method := "GET", url := "https://a.org/x", longLived := i = 2, origin := "https://a.org" }

def samplePolicy : Policy := { replay := false, budget := true }

/-- Two requests one after the other, a third one whose `continueRequest` is cut short by
`close`. -/
def returnedRun : List (Event ℕ) :=
  [.requestPaused 0, .authorized 0 true, .acquired 0 true, .continued 0 true,
    .requestPaused 1, .authorized 1 true, .acquired 1 true, .continued 1 true,
    .requestfinished 0, .requestfailed 1,
    .requestPaused 3, .authorized 3 true, .acquired 3 true,
    .close, .gone, .closed, .continued 3 false, .failed 3]

/-- The page is closed while its request is in flight. -/
def closedRun : List (Event ℕ) :=
  [.requestPaused 0, .authorized 0 true, .acquired 0 true, .continued 0 true,
    .close, .gone, .closed]

/-- An event source of the same URL is refused while the request is in flight. -/
def sharedRun : List (Event ℕ) :=
  [.requestPaused 0, .authorized 0 true, .acquired 0 true, .continued 0 true,
    .requestPaused 2, .authorized 2 false, .failed 2, .requestfailed 2]

end OfflineWebArchiver.NetworkPermits

/-!
## One rendering browser

* `rendering_run`: in a run whose steps all meet the condition no browser is lost, no restart
  closes the browser of a page session, and the active jobs are those of the page sessions.
* `browsers_are_lost`: two workers that launch a browser each, and a restart that forgets a page
  session created meanwhile.
-/

namespace OfflineWebArchiver.Rendering

variable {ι : Type} [DecidableEq ι] {s : State ι}

/-- Nothing has been called. -/
def initialState (now : ℕ) : State ι where
  browser := none
  launched := 0
  process := fun _ => .closed
  activeJobIds := ∅
  startedAt := none
  pagesRendered := 0
  restartTimes := []
  now
  authentication := false
  pc := fun _ => .idle
  shutBelow := 0
  restarts := []
  closers := ∅
  stale := fun _ => false
  shutdown := false

/-- The process that the call is closing. -/
def Pc.owned : Pc → Option ℕ
  | .closing owned _ _ => owned
  | _ => none

/-- The call has not settled; a `createPageSession` whose page session is open has. -/
def Pc.pending : Pc → Bool
  | .idle | .opened _ | .settled _ => false
  | _ => true

theorem pending_of_owned {pc : Pc} {p : ℕ} (h : pc.owned = some p) : pc.pending = true := by
  cases pc with
  | closing owned n closer => rfl
  | _ => cases h

/-- The law of the rendering browser. -/
structure Kept (s : State ι) : Prop where
  /-- A process is the current one, closed or being closed, or has crashed. -/
  processes : ∀ p < s.launched, s.browser = some p ∨ s.process p = .closed ∨
    s.process p = .crashed ∨ ∃ i, (s.pc i).owned = some p
  /-- No process is left after `close`. -/
  shutdown : s.shutdown = true → (∀ i, (s.pc i).pending = false) →
    ∀ p < s.launched, s.process p = .closed ∨ s.process p = .crashed
  /-- `restart` and the rotation close no process of a page session. -/
  spared : ∀ i p n closer, s.pc i = .closing (some p) n closer → closer ≠ .close →
    ∀ j, (s.pc j).process ≠ some p
  /-- The active jobs are those of the page sessions that are open or being created. -/
  active : ∀ i, i ∈ s.activeJobIds ↔ ∃ p, (s.pc i).process = some p ∧ s.shutBelow ≤ p
  restarts : ∀ start, s.restarts.countP
    (fun time => start ≤ time && time ≤ start + RESTART_WINDOW_MS) ≤ MAX_RESTARTS_PER_WINDOW

omit [DecidableEq ι] in
theorem Invariant.kept (hs : Invariant s) : Kept s := by
  have hprocesses : ∀ p < s.launched, s.browser = some p ∨ s.process p = .closed ∨
      s.process p = .crashed ∨ ∃ i, (s.pc i).owned = some p := by
    intro p hp
    refine (hs.processes p hp).imp_right (Or.imp_right (Or.imp_right ?_))
    rintro ⟨i, n, closer, hi⟩
    exact ⟨i, by rw [hi]; rfl⟩
  refine ⟨hprocesses, fun hshut hpending p hp => ?_, fun i p n closer hi => (hs.owned i p n closer
    hi).2, hs.active, hs.restarts.bounded⟩
  rcases hprocesses p hp with h | h | h | ⟨i, hi⟩
  · rw [(hs.shutdown hshut).1] at h
    cases h
  · exact .inl h
  · exact .inr h
  · -- a process is being closed by a call that has not settled
    have hi' := hpending i
    rw [pending_of_owned hi] at hi'
    cases hi'

omit [DecidableEq ι] in
theorem initial_invariant (now : ℕ) : Invariant (initialState now : State ι) where
  shut := Nat.le_refl _
  current := fun _ h => (by cases h)
  processes := fun _ h => absurd h (Nat.not_lt_zero _)
  closing := fun _ _ _ _ h => (by cases h)
  owned := fun _ _ _ _ h => (by cases h)
  sessions := fun _ _ h => (by cases h)
  active := fun i => by simp [initialState, Pc.process]
  closers := fun _ h => (by cases h)
  taken := fun h => absurd rfl h
  shutdown := fun h => (by cases h)
  restarts := .nil

/-- **One rendering browser, never closed under a page**, however the calls are interleaved, as
long as every step meets the condition. -/
theorem rendering_run (options : Options) (now : ℕ) (es : List (Event ι))
    (h : Run.Meets (step options) (initialState now) Allowed es) :
    ∀ n, Kept (Run.stAt (step options) (initialState now) es n) := by
  intro n
  refine Invariant.kept ?_
  refine Run.stAt_induction (initial_invariant now) (fun n e he hs => ?_) n
  exact step_invariant hs (h n e he)

/-- One page for each process. -/
def sampleOptions : Options :=
  { maximumPagesPerProcess := 1, maximumLifetimeMs := 1800000 }

/-- A page session, a rotation with the next page session, and `close`. -/
def rotatedRun : List (Event (Fin 3)) :=
  [.begin 0 .createPageSession, .goOn 0 true, .goOn 0 true, .goOn 0 true,
    .closeSession 0, .goOn 0 true,
    .begin 1 .createPageSession, .goOn 1 true, .goOn 1 true, .goOn 1 true, .goOn 1 true,
    .goOn 1 true, .begin 2 .close, .goOn 2 true, .goOn 2 true, .goOn 2 true]

theorem rendering_run_rotatedRun :
    (Run.stAt (step sampleOptions) (initialState 0) rotatedRun 12).pc 1 = .opened 1 ∧
      (Run.stAt (step sampleOptions) (initialState 0) rotatedRun 16).shutdown = true ∧
      ∀ n, Kept (Run.stAt (step sampleOptions) (initialState 0) rotatedRun n) :=
  ⟨by decide, by decide, rendering_run sampleOptions 0 rotatedRun (by decide)⟩

/-- Two workers create their first page session. -/
def orphaningRun : List (Event (Fin 2)) :=
  [.begin 0 .createPageSession, .begin 1 .createPageSession, .goOn 0 true, .goOn 1 true]

/-- A page session is created while `restart` closes the process before it; then the browser is
restarted again. -/
def forgettingRun : List (Event (Fin 4)) :=
  [.begin 0 .start, .goOn 0 true, .goOn 0 true,
    .begin 1 .restart, .begin 2 .createPageSession, .goOn 2 true, .goOn 2 true, .goOn 2 true,
    .goOn 1 true, .goOn 1 true, .goOn 1 true, .begin 3 .restart]

/-- **Two ways to lose a browser**: the first of two launched processes is lost, and a page
session that is open is no active job, so the next `restart` closes its process. -/
theorem browsers_are_lost :
    ¬ Kept (Run.stAt (step sampleOptions) (initialState 0) orphaningRun 4) ∧
      ¬ Kept (Run.stAt (step sampleOptions) (initialState 0) forgettingRun 9) ∧
      ¬ Kept (Run.stAt (step sampleOptions) (initialState 0) forgettingRun 12) :=
  ⟨fun h => absurd (h.processes 0 (by decide)) (by decide),
    fun h => absurd ((h.active 2).2 ⟨1, by decide, by decide⟩) (by decide),
    fun h => absurd rfl (h.spared 3 1 2 .restart (by decide) (by decide) 2)⟩

end OfflineWebArchiver.Rendering

/-!
## One authentication context

* `authentication_run`: in a run whose steps all meet the condition there is at most one context,
  it is that of a call under way or of the active session, a session that is closed takes no other
  from its place, and none is left by `close` of the runtime.
* `contexts_are_lost`: two calls at once, an error after `newContext`, a `close` during a launch,
  and a session that is closed under the id of another one.
-/

namespace OfflineWebArchiver.Authentication

variable {ι : Type} [DecidableEq ι] {sessionId : ι → String} {s : State ι}

/-- Nothing has been called. -/
def initialState : State ι where
  activeAuthenticationSession := none
  authenticationBrowser := none
  restoredBrowser := none
  launched := 0
  live := fun _ => false
  owner := fun _ => 0
  contexts := ∅
  pc := fun _ => .idle
  stale := fun _ => false
  shutdown := false

/-- The call has not settled; one whose session is open has. -/
def Pc.pending : Pc ι → Bool
  | .idle | .opened | .settled _ => false
  | _ => true

/-- The law of the contexts. -/
structure Guarded (s : State ι) : Prop where
  /-- At most one context is open or being created. -/
  one : ∀ i ∈ s.contexts, ∀ j ∈ s.contexts, i = j
  /-- It is that of a call under way, or of the active session. -/
  held : ∀ i ∈ s.contexts, Held s i
  /-- No context is left after `close` of the runtime. -/
  shutdown : s.shutdown = true → (∀ i, (s.pc i).pending = false) → s.contexts = ∅

/-- The call is at the end of `session.close()`. -/
def Closes (s : State ι) (i : ι) : Prop := s.pc i = .sessionClosing ∨ s.pc i = .aborting

omit [DecidableEq ι] in
theorem Invariant.guarded (hs : Invariant s) : Guarded s := by
  refine ⟨hs.one, hs.held, fun hshut hpending => ?_⟩
  rw [Finset.eq_empty_iff_forall_notMem]
  intro i hi
  have hpc := hpending i
  rcases (hs.shutdown hshut).1 i hi with h | h
  · cases hcreating : s.pc i with
    | creating mode => rw [hcreating] at hpc; cases hpc
    | _ => rw [hcreating] at h; cases h
  · cases h

omit [DecidableEq ι] in
theorem initial_invariant : Invariant (initialState : State ι) where
  one := by simp [initialState]
  held := by simp [initialState]
  creating := fun _ h => (by cases h)
  shutdown := fun h => (by cases h)

/-- Two calls with one session id. -/
def sampleId (i : Fin 4) : String := if i = 3 then "session-b" else "session-a"

/-- A login that is closed, a restored session, and `close` of the runtime. -/
def guardedRun : List (Event (Fin 4)) :=
  [.begin 0 (.openSession .manual none), .goOn 0 true, .goOn 0 true, .goOn 0 true, .goOn 0 true,
    .closeSession 0, .goOn 0 true,
    .begin 1 (.openSession .restored none), .goOn 1 true, .goOn 1 true, .goOn 1 true,
    .begin 2 .close, .goOn 1 true, .goOn 2 true, .goOn 2 true, .goOn 2 true, .goOn 2 true]

/-- A second call during the launch of the first. -/
def overlappingRun : List (Event (Fin 4)) :=
  [.begin 0 (.openSession .manual none), .begin 3 (.openSession .manual none), .goOn 0 true,
    .goOn 3 true]

/-- `newPage` fails. -/
def failingRun : List (Event (Fin 4)) :=
  [.begin 0 (.openSession .restored none), .goOn 0 true, .goOn 0 true, .goOn 0 false]

/-- The runtime is closed during the launch. -/
def outlivingRun : List (Event (Fin 4)) :=
  [.begin 0 (.openSession .restored none), .begin 2 .close, .goOn 2 true, .goOn 0 true,
    .goOn 0 true, .goOn 0 true]

/-- The browser crashes at the login page, and a session of the same id is opened before the
first call has failed. -/
def sameIdRun : List (Event (Fin 4)) :=
  [.begin 0 (.openSession .manual none), .goOn 0 true, .goOn 0 true, .goOn 0 true, .crash 0,
    .begin 1 (.openSession .restored none), .goOn 1 true, .goOn 1 true, .goOn 1 true,
    .goOn 0 false, .goOn 0 true]

end OfflineWebArchiver.Authentication
