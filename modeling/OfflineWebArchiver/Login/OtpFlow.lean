import Mathlib.Data.Fintype.Defs
import OfflineWebArchiver.Lib.Run

/-!
# The login flow

`OtpFlowEngine`: any number of calls of its operations on one engine, interleaved at their
`await`s. An operation writes the state of the flow in the same turn in which it begins or
goes on; between two writes it awaits the browser or a hook, any number of times.

* `step`: a call begins, goes on to its next write, or is thrown an error; the clock moves.
* `Allowed`: the state of the flow that `start`, `provideOtp` and `resend` overwrite.
* `step_lawful`: what a step that the condition allows does to the state of the flow.
-/

namespace OfflineWebArchiver.Otp

inductive AuthenticationState
  | unauthenticated | authenticating | authenticated | expired | re_auth_required
deriving DecidableEq

open AuthenticationState in
/-- `AUTHENTICATION_TRANSITIONS` -/
def authenticationTransitions : AuthenticationState → List AuthenticationState
  | unauthenticated => [authenticating, expired, re_auth_required]
  | authenticating => [authenticated, unauthenticated, expired, re_auth_required]
  | authenticated => [expired, re_auth_required]
  | expired => [authenticating, re_auth_required, unauthenticated]
  | re_auth_required => [authenticating, expired, unauthenticated]

def canTransitionAuthenticationState (source target : AuthenticationState) : Bool :=
  source = target || (authenticationTransitions source).contains target

example : canTransitionAuthenticationState .authenticated .authenticating = false := by decide

inductive OtpFlowState
  | idle | opening_login | resolving_elements | entering_phone | requesting_otp
  | waiting_for_otp | verifying | invalid_code | expired_code | timed_out | authenticated
  | cancelled | browser_closed | navigation_changed | failed
deriving DecidableEq

inductive OtpFlowErrorCode
  | OTP_FLOW_STATE_CONFLICT | LOCATOR_NOT_FOUND | LOCATOR_AMBIGUOUS | LOCATOR_NOT_INTERACTABLE
  | OTP_TIMEOUT | OTP_INVALID | OTP_EXPIRED | OTP_RESEND_COOLDOWN_ACTIVE
  | OTP_RESEND_NOT_CONFIGURED | OTP_BROWSER_CLOSED | OTP_NAVIGATION_CHANGED | OTP_CANCELLED
  | AUTHENTICATION_SESSION_INVALID | ELEMENT_PICKER_NOT_ACTIVE
  | ELEMENT_PICKER_NAVIGATION_CHANGED
deriving DecidableEq

/-- What the engine uses of its login flow. -/
structure LoginFlow where
  /-- `resendControl !== null` -/
  resendControl : Bool
  resendCooldownMs : ℕ
  otpTimeoutMs : ℕ
deriving DecidableEq

structure Engine where
  state : OtpFlowState
  authenticationState : AuthenticationState
  attemptCount : ℕ
  lastRequestedAtMs : Option ℕ
  expiresAtMs : Option ℕ
  lastErrorCode : Option OtpFlowErrorCode
deriving DecidableEq

/-- A call; for `start` and `provideOtp` whether its input passes the first checks. -/
inductive Operation
  | start (inputValid : Bool)
  | provideOtp (inputValid : Bool)
  | resend
  | cancel
  | handleBrowserClosed
  | snapshot
deriving DecidableEq

/-- The states that `start` passes through, up to the request of the code. -/
inductive Stage
  | opening_login | resolving_elements | entering_phone | requesting_otp
deriving DecidableEq

/-- Where a call stands, at an `await`. -/
inductive Pc
  | idle
  /-- `start`, after it has written the stage. -/
  | starting (stage : Stage)
  /-- `provideOtp`, after it has written `verifying`. -/
  | verifying
  | resending
  /-- `clearOtpFields` in the `catch` of `start` or `provideOtp`. -/
  | clearing (error : OtpFlowErrorCode)
  /-- `clearOtpFields` of `cancel`. -/
  | cancelling
  /-- After the last write. -/
  | returning
  | settled (error : Option OtpFlowErrorCode)
deriving DecidableEq

structure State (ι : Type) where
  engine : Engine
  /-- `clock.nowMs()` -/
  nowMs : ℕ
  pc : ι → Pc

inductive Event (ι : Type)
  | begin (i : ι) (operation : Operation)
  /-- The call goes on to its next write, or returns. -/
  | goOn (i : ι)
  /-- What the call awaits is rejected, or a check after it fails. -/
  | throwing (i : ι) (error : OtpFlowErrorCode)
  | clock (nowMs : ℕ)
deriving DecidableEq

variable {ι : Type} [DecidableEq ι]

namespace State

variable (s : State ι)

def put (i : ι) (pc : Pc) : State ι := { s with pc := Function.update s.pc i pc }

/-- The promise of the hook `onStateChange` is not awaited. -/
def setState (state : OtpFlowState) (authenticationState : AuthenticationState)
    (lastErrorCode : Option OtpFlowErrorCode) : State ι :=
  { s with engine := { s.engine with state, authenticationState, lastErrorCode } }

def snapshotExpires : State ι :=
  if s.engine.state = .waiting_for_otp ∧ (∃ at_ ∈ s.engine.expiresAtMs, at_ ≤ s.nowMs) then
    { s with engine := { s.engine with expiresAtMs := none } }.setState .timed_out .authenticating
      (some .OTP_TIMEOUT)
  else s

/-- `fail`: the write for an error, and the error. -/
def fail (i : ι) (error : OtpFlowErrorCode) : State ι :=
  (match error with
    | .OTP_BROWSER_CLOSED => s.setState .browser_closed .re_auth_required (some error)
    | .OTP_NAVIGATION_CHANGED | .ELEMENT_PICKER_NAVIGATION_CHANGED =>
      s.setState .navigation_changed .re_auth_required (some error)
    | .OTP_TIMEOUT => s.setState .timed_out .authenticating (some error)
    | .OTP_INVALID => s.setState .invalid_code .authenticating (some error)
    | .OTP_EXPIRED => s.setState .expired_code .expired (some error)
    | .OTP_RESEND_COOLDOWN_ACTIVE => s
    | _ => s.setState .failed .re_auth_required (some error)).put i (.settled (some error))

end State

def Stage.state : Stage → OtpFlowState
  | .opening_login => .opening_login
  | .resolving_elements => .resolving_elements
  | .entering_phone => .entering_phone
  | .requesting_otp => .requesting_otp

/-- The stage that `start` writes after it. -/
def Stage.next : Stage → Option Stage
  | .opening_login => some .resolving_elements
  | .resolving_elements => some .entering_phone
  | .entering_phone => some .requesting_otp
  | .requesting_otp => none

variable (flow : LoginFlow)

/-- The counters of a code that has been requested. -/
def requested (s : State ι) : State ι :=
  { s with engine := { s.engine with
      lastRequestedAtMs := some s.nowMs, expiresAtMs := some (s.nowMs + flow.otpTimeoutMs) } }

def beginStart (s : State ι) (i : ι) (inputValid : Bool) : State ι :=
  if s.engine.state ≠ .idle then s.put i (.settled (some .OTP_FLOW_STATE_CONFLICT))
  else if !inputValid then s.put i (.clearing .OTP_FLOW_STATE_CONFLICT)
  else (s.setState .opening_login .authenticating none).put i (.starting .opening_login)

/-- `provideOtp` on a state for which the time-out has been looked at. -/
def beginProvide (s : State ι) (i : ι) (inputValid : Bool) : State ι :=
  if s.engine.state = .timed_out then s.put i (.settled (some .OTP_TIMEOUT))
  else if s.engine.state ≠ .waiting_for_otp ∧ s.engine.state ≠ .invalid_code then
    s.put i (.settled (some .OTP_FLOW_STATE_CONFLICT))
  else if !inputValid then s.put i (.clearing .OTP_INVALID)
  else if ∃ at_ ∈ s.engine.expiresAtMs, at_ ≤ s.nowMs then s.put i (.clearing .OTP_TIMEOUT)
  else
    ({ s with engine := { s.engine with attemptCount := s.engine.attemptCount + 1 } }.setState
      .verifying .authenticating none).put i .verifying

def OtpFlowState.resendable : OtpFlowState → Bool
  | .waiting_for_otp | .invalid_code | .expired_code | .timed_out => true
  | _ => false

def beginResend (s : State ι) (i : ι) : State ι :=
  if !s.engine.state.resendable then s.put i (.settled (some .OTP_FLOW_STATE_CONFLICT))
  else if !flow.resendControl then s.put i (.settled (some .OTP_RESEND_NOT_CONFIGURED))
  else if ∃ at_ ∈ s.engine.lastRequestedAtMs, s.nowMs < at_ + flow.resendCooldownMs then
    { s with engine := { s.engine with lastErrorCode := some .OTP_RESEND_COOLDOWN_ACTIVE } }.put i
      (.settled (some .OTP_RESEND_COOLDOWN_ACTIVE))
  else s.put i .resending

/-- Neither `cancel` nor `handleBrowserClosed` changes these states. -/
def OtpFlowState.kept (state : OtpFlowState) : Bool := state = .authenticated || state = .cancelled

def begin (s : State ι) (i : ι) : Operation → State ι
  | .start inputValid => beginStart s i inputValid
  | .provideOtp inputValid => beginProvide s.snapshotExpires i inputValid
  | .resend => beginResend flow s.snapshotExpires i
  | .cancel =>
    if s.engine.state.kept then s.put i (.settled none) else s.put i .cancelling
  | .handleBrowserClosed =>
    if s.engine.state.kept then s.put i (.settled none)
    else
      (s.setState .browser_closed .re_auth_required (some .OTP_BROWSER_CLOSED)).put i .returning
  | .snapshot => s.snapshotExpires.put i (.settled none)

def goOn (s : State ι) (i : ι) : State ι :=
  match s.pc i with
  | .starting stage =>
    match stage.next with
    | some next =>
      (s.setState next.state s.engine.authenticationState none).put i (.starting next)
    | none =>
      ((requested flow { s with engine := { s.engine with attemptCount := 0 } }).setState
        .waiting_for_otp .authenticating none).put i .returning
  | .verifying =>
    ({ s with engine := { s.engine with expiresAtMs := none } }.setState .authenticated
      .authenticated none).put i .returning
  | .resending =>
    ((requested flow s).setState .waiting_for_otp .authenticating none).put i .returning
  | .clearing error => s.fail i error
  | .cancelling =>
    (s.setState .cancelled .re_auth_required (some .OTP_CANCELLED)).put i .returning
  | .returning => s.snapshotExpires.put i (.settled none)
  | .idle | .settled _ => s

def throwing (s : State ι) (i : ι) (error : OtpFlowErrorCode) : State ι :=
  match s.pc i with
  | .starting _ | .verifying => s.put i (.clearing error)
  -- `resend` has no fields to clear and fails at once
  | .resending => s.fail i error
  | _ => s

def step (s : State ι) : Event ι → State ι
  | .begin i operation =>
    if s.pc i = .idle then begin flow s i operation else s
  | .goOn i => goOn flow s i
  | .throwing i error => throwing s i error
  | .clock nowMs => { s with nowMs }

/-! ### The condition on a step -/

/-- The login has been cancelled or its browser closed. -/
def OtpFlowState.over (state : OtpFlowState) : Bool := state = .cancelled || state = .browser_closed

/-- The authentication states that the next write of the call takes over from. -/
def Pc.follows (authentication : AuthenticationState) : Pc → Prop
  | .starting _ | .resending => authentication ≠ .authenticated
  | .verifying => authentication = .authenticating ∨ authentication = .authenticated
  | .clearing error => error = .OTP_TIMEOUT ∨ error = .OTP_INVALID → authentication ≠ .authenticated
  | _ => True

instance (authentication : AuthenticationState) : (pc : Pc) → Decidable (pc.follows authentication)
  | .starting _ | .resending => inferInstanceAs (Decidable (authentication ≠ .authenticated))
  | .verifying => inferInstanceAs
      (Decidable (authentication = .authenticating ∨ authentication = .authenticated))
  | .clearing error => inferInstanceAs
      (Decidable (error = .OTP_TIMEOUT ∨ error = .OTP_INVALID → authentication ≠ .authenticated))
  | .idle | .cancelling | .returning | .settled _ => .isTrue trivial

/-- The next step of `start`, `provideOtp` or `resend` writes the state of the flow. -/
def Pc.writesNext : Pc → Bool
  | .starting _ | .verifying | .resending | .clearing _ => true
  | _ => false

/-- **The condition** on a step: what `start`, `provideOtp` and `resend` overwrite is no login
that is over, and an authentication state that the write takes over from. -/
def Allowed (s : State ι) : Event ι → Prop
  | .goOn i => (s.pc i).writesNext = true →
      s.engine.state.over = false ∧ (s.pc i).follows s.engine.authenticationState
  | .throwing i error => s.pc i = .resending →
      s.engine.state.over = false ∧ (Pc.clearing error).follows s.engine.authenticationState
  | _ => True

instance (s : State ι) : (e : Event ι) → Decidable (Allowed s e)
  | .goOn i => inferInstanceAs (Decidable ((s.pc i).writesNext = true → _ ∧ _))
  | .throwing i error => inferInstanceAs (Decidable (s.pc i = .resending → _ ∧
      (Pc.clearing error).follows s.engine.authenticationState))
  | .begin _ _ | .clock _ => .isTrue trivial

/-! ### What every step keeps -/

/-- What a call that begins relies on. -/
def Fits (authentication : AuthenticationState) : OtpFlowState → Prop
  | .idle => authentication = .unauthenticated
  | .waiting_for_otp | .invalid_code => authentication = .authenticating
  | _ => True

def Invariant (s : State ι) : Prop := Fits s.engine.authenticationState s.engine.state

/-- What a step may do to the state of the flow. -/
structure Lawful (engine engine' : Engine) : Prop where
  transition : canTransitionAuthenticationState engine.authenticationState
    engine'.authenticationState = true
  ended : engine.state.over = true → engine'.state.over = true

variable {flow : LoginFlow} {s : State ι} {i : ι} {pc : Pc} {state : OtpFlowState}
  {authentication : AuthenticationState} {error : Option OtpFlowErrorCode}

omit [DecidableEq ι] in
theorem kept {s' : State ι} (hs : Invariant s) (hstate : s'.engine.state = s.engine.state)
    (hauth : s'.engine.authenticationState = s.engine.authenticationState) :
    Invariant s' ∧ Lawful s.engine s'.engine := by
  refine ⟨?_, ?_, fun h => ?_⟩
  · unfold Invariant
    rw [hauth, hstate]
    exact hs
  · rw [hauth]
    simp [canTransitionAuthenticationState]
  · rw [hstate]
    exact h

/-- A call moves on without a write. -/
theorem put_kept (hs : Invariant s) (pc : Pc) :
    Invariant (s.put i pc) ∧ Lawful s.engine (s.put i pc).engine := kept hs rfl rfl

/-- **One write** of the state of the flow. -/
theorem write_lawful {engine : Engine} (hover : engine.state.over = true → state.over = true)
    (hto : canTransitionAuthenticationState engine.authenticationState authentication = true)
    (hfits : Fits authentication state) :
    Invariant ((s.setState state authentication error).put i pc) ∧
      Lawful engine ((s.setState state authentication error).put i pc).engine :=
  ⟨hfits, hto, hover⟩

theorem to_re_auth_required (source : AuthenticationState) :
    canTransitionAuthenticationState source .re_auth_required = true := by
  cases source <;> rfl

theorem to_expired (source : AuthenticationState) :
    canTransitionAuthenticationState source .expired = true := by
  cases source <;> rfl

theorem to_authenticating {source : AuthenticationState} (h : source ≠ .authenticated) :
    canTransitionAuthenticationState source .authenticating = true := by
  cases source with
  | authenticated => exact absurd rfl h
  | _ => rfl

omit [DecidableEq ι] in
/-- The time-out leaves the authentication state, and the states other than its own. -/
theorem snapshotExpires_cases (hs : Invariant s) :
    s.snapshotExpires = s ∨ (s.engine.state = .waiting_for_otp ∧
      s.snapshotExpires.engine.state = .timed_out ∧
      s.snapshotExpires.engine.authenticationState = s.engine.authenticationState) := by
  unfold State.snapshotExpires
  split_ifs with h
  · have hauth : Fits s.engine.authenticationState s.engine.state := hs
    rw [h.1] at hauth
    exact .inr ⟨h.1, rfl, hauth.symm⟩
  · exact .inl rfl

omit [DecidableEq ι] in
theorem snapshotExpires_lawful (hs : Invariant s) :
    Invariant s.snapshotExpires ∧ Lawful s.engine s.snapshotExpires.engine := by
  rcases snapshotExpires_cases hs with h | ⟨hstate, hstate', hauth⟩
  · rw [h]
    exact kept hs rfl rfl
  · refine ⟨?_, ?_, fun h => ?_⟩
    · unfold Invariant
      rw [hstate']
      trivial
    · rw [hauth]
      simp [canTransitionAuthenticationState]
    · rw [hstate] at h
      cases h

/-- **The failure of an operation.** -/
theorem fail_lawful (hs : Invariant s) {e : OtpFlowErrorCode} (hover : s.engine.state.over = false)
    (hfollows : (Pc.clearing e).follows s.engine.authenticationState) :
    Invariant (s.fail i e) ∧ Lawful s.engine (s.fail i e).engine := by
  have hwrite : ∀ (state : OtpFlowState) (authentication : AuthenticationState),
      canTransitionAuthenticationState s.engine.authenticationState authentication = true →
      Fits authentication state →
      Invariant ((s.setState state authentication (some e)).put i (.settled (some e))) ∧
        Lawful s.engine ((s.setState state authentication (some e)).put i
          (.settled (some e))).engine := by
    intro state authentication hto hfits
    refine write_lawful (fun h => ?_) hto hfits
    rw [hover] at h
    cases h
  unfold State.fail
  cases e with
  | OTP_TIMEOUT => exact hwrite _ _ (to_authenticating (hfollows (.inl rfl))) trivial
  | OTP_INVALID => exact hwrite _ _ (to_authenticating (hfollows (.inr rfl))) rfl
  | OTP_EXPIRED => exact hwrite _ _ (to_expired _) trivial
  | OTP_RESEND_COOLDOWN_ACTIVE => exact put_kept hs _
  | _ => exact hwrite _ _ (to_re_auth_required _) trivial

/-! ### A call begins -/

theorem beginStart_lawful (hs : Invariant s) (inputValid : Bool) :
    Invariant (beginStart s i inputValid) ∧ Lawful s.engine (beginStart s i inputValid).engine := by
  unfold beginStart
  split_ifs with hidle hinput
  · exact put_kept hs _
  · exact put_kept hs _
  · have hstate : s.engine.state = .idle := by simpa using hidle
    have hauth : Fits s.engine.authenticationState s.engine.state := hs
    rw [hstate] at hauth
    refine write_lawful (fun h => ?_) ?_ trivial
    · rw [hstate] at h
      cases h
    · rw [show s.engine.authenticationState = .unauthenticated from hauth]
      rfl

theorem beginProvide_lawful (hs : Invariant s) (inputValid : Bool) :
    Invariant (beginProvide s i inputValid) ∧
      Lawful s.engine (beginProvide s i inputValid).engine := by
  unfold beginProvide
  split_ifs with htimed hwaiting hinput hexpired
  · exact put_kept hs _
  · exact put_kept hs _
  · exact put_kept hs _
  · exact put_kept hs _
  · -- the two states in which a code is taken go with `authenticating`
    have hstate : s.engine.state = .waiting_for_otp ∨ s.engine.state = .invalid_code := by tauto
    have hauth : Fits s.engine.authenticationState s.engine.state := hs
    refine write_lawful (fun h => ?_) ?_ trivial
    · rcases hstate with hstate | hstate <;> rw [hstate] at h <;> cases h
    · rcases hstate with hstate | hstate <;> rw [hstate] at hauth <;>
        exact (congrArg (canTransitionAuthenticationState · .authenticating) hauth).trans rfl

theorem beginResend_lawful (hs : Invariant s) :
    Invariant (beginResend flow s i) ∧ Lawful s.engine (beginResend flow s i).engine := by
  unfold beginResend
  split_ifs
  · exact put_kept hs _
  · exact put_kept hs _
  · exact kept hs rfl rfl
  · exact put_kept hs _

omit [DecidableEq ι] in
/-- A call that first looks at the time-out. -/
theorem Lawful.afterExpiry (hs : Invariant s) {s' : State ι}
    (h : Lawful s.snapshotExpires.engine s'.engine) : Lawful s.engine s'.engine := by
  rcases snapshotExpires_cases hs with hsame | ⟨hstate, -, hauth⟩
  · rw [hsame] at h
    exact h
  · refine ⟨?_, fun hover => ?_⟩
    · rw [← hauth]
      exact h.transition
    · rw [hstate] at hover
      cases hover

theorem begin_lawful (hs : Invariant s) (operation : Operation) :
    Invariant (begin flow s i operation) ∧ Lawful s.engine (begin flow s i operation).engine := by
  have hexpires := snapshotExpires_lawful hs
  cases operation with
  | start inputValid => exact beginStart_lawful hs inputValid
  | provideOtp inputValid =>
    have h := beginProvide_lawful (i := i) hexpires.1 inputValid
    exact ⟨h.1, h.2.afterExpiry hs⟩
  | resend =>
    obtain ⟨hinv, hlawful⟩ : Invariant (beginResend flow s.snapshotExpires i) ∧
        Lawful s.snapshotExpires.engine (beginResend flow s.snapshotExpires i).engine :=
      beginResend_lawful hexpires.1
    exact ⟨hinv, hlawful.afterExpiry hs⟩
  | cancel =>
    show Invariant (if _ then _ else _) ∧ Lawful _ (State.engine (if _ then _ else _))
    split_ifs
    · exact put_kept hs _
    · exact put_kept hs _
  | handleBrowserClosed =>
    show Invariant (if _ then _ else _) ∧ Lawful _ (State.engine (if _ then _ else _))
    split_ifs
    · exact put_kept hs _
    · exact write_lawful (fun _ => rfl) (to_re_auth_required _) trivial
  | snapshot => exact hexpires

/-! ### A call goes on -/

theorem goOn_lawful (hs : Invariant s) (h : Allowed s (.goOn i)) :
    Invariant (goOn flow s i) ∧ Lawful s.engine (goOn flow s i).engine := by
  have hcond : (s.pc i).writesNext = true →
      s.engine.state.over = false ∧ (s.pc i).follows s.engine.authenticationState := h
  unfold goOn
  cases hpc : s.pc i with
  | idle => exact kept hs rfl rfl
  | settled error => exact kept hs rfl rfl
  | returning => exact snapshotExpires_lawful hs
  | cancelling => exact write_lawful (fun _ => rfl) (to_re_auth_required _) trivial
  | clearing error =>
    rw [hpc] at hcond
    obtain ⟨hover, hfollows⟩ := hcond rfl
    exact fail_lawful hs hover hfollows
  | verifying =>
    rw [hpc] at hcond
    obtain ⟨hover, hfollows⟩ := hcond rfl
    refine write_lawful (fun h => ?_) ?_ trivial
    · rw [hover] at h
      cases h
    · rcases hfollows with h | h <;> rw [h] <;> rfl
  | resending =>
    rw [hpc] at hcond
    obtain ⟨hover, hfollows⟩ := hcond rfl
    refine write_lawful (fun h => ?_) (to_authenticating hfollows) rfl
    rw [hover] at h
    cases h
  | starting stage =>
    rw [hpc] at hcond
    obtain ⟨hover, hfollows⟩ := hcond rfl
    have hkeep : s.engine.state.over = true → ∀ state : OtpFlowState, state.over = true := by
      intro h
      rw [hover] at h
      cases h
    -- the stages keep the authentication state, the request of the code writes its own
    cases stage with
    | opening_login =>
      exact write_lawful (fun h => hkeep h _) (by simp [canTransitionAuthenticationState]) trivial
    | resolving_elements =>
      exact write_lawful (fun h => hkeep h _) (by simp [canTransitionAuthenticationState]) trivial
    | entering_phone =>
      exact write_lawful (fun h => hkeep h _) (by simp [canTransitionAuthenticationState]) trivial
    | requesting_otp => exact write_lawful (fun h => hkeep h _) (to_authenticating hfollows) rfl

theorem throwing_lawful (hs : Invariant s) {e : OtpFlowErrorCode} (h : Allowed s (.throwing i e)) :
    Invariant (throwing s i e) ∧ Lawful s.engine (throwing s i e).engine := by
  have hcond : s.pc i = .resending → s.engine.state.over = false ∧
      (Pc.clearing e).follows s.engine.authenticationState := h
  unfold throwing
  cases hpc : s.pc i with
  | starting stage => exact put_kept hs _
  | verifying => exact put_kept hs _
  | resending =>
    obtain ⟨hover, hfollows⟩ := hcond hpc
    exact fail_lawful hs hover hfollows
  | _ => exact kept hs rfl rfl

/-- **What a step that the condition allows does to the state of the flow.** -/
theorem step_lawful (hs : Invariant s) {e : Event ι} (h : Allowed s e) :
    Invariant (step flow s e) ∧ Lawful s.engine (step flow s e).engine := by
  cases e with
  | begin i operation =>
    show Invariant (if _ then _ else _) ∧ Lawful _ (State.engine (if _ then _ else _))
    split_ifs
    · exact begin_lawful hs operation
    · exact kept hs rfl rfl
  | goOn i => exact goOn_lawful hs h
  | throwing i e => exact throwing_lawful hs h
  | clock nowMs => exact kept hs rfl rfl

end OfflineWebArchiver.Otp
