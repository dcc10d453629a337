import OfflineWebArchiver.Replay.Handlers

/-!
# The verdict on a request

The two handlers of `PlaywrightNetworkReplayAdapter` make one decision, the verdict, and report
it to their listeners.

* `verdict`: what is to be done with a request.
* `handleRoute_eq`, `handleCdpRequest_eq`: **each handler carries out the verdict.**
* `verdict_sound`: what is let through, and what is replayed.
-/

namespace OfflineWebArchiver.Replay

/-- What is to be done with a request, after the actions in `before`: one report and an end, or
a replay. -/
inductive Verdict
  | exit (before : List Action) (reason matchState : JsString) (eventType : ReplayEventType) (passes : Bool)
  | replay (before : List Action) (f : Fulfilment)

def Verdict.after (a : Action) : Verdict → Verdict
  | .exit before reason matchState eventType passes => .exit (a :: before) reason matchState eventType passes
  | .replay before f => .replay (a :: before) f

variable {env : ReplayEnv} {policy : NetworkReplayPolicy} {ports : ReplayPorts} {request : BrowserRequest}
  {route cdp : Listener}

section Verdict

variable (env policy ports request)

/-- The verdict on a request with a stored response. -/
def matchVerdict (snapshot : ReplaySnapshotDescriptor) : Verdict :=
  let failure (before : List Action) : Verdict :=
    .exit before "integrity-failure".toList "integrity-failure".toList .externalNetworkLeakage false
  if !isReplayableResponseStatus snapshot.status then failure []
  else
    match ports.readBody snapshot with
    | none => failure []
    | some body =>
      if 300 ≤ snapshot.status ∧ snapshot.status < 400 ∧ entry? snapshot.responseHeaders "location".toList = none then
        failure []
      else
        let f : Fulfilment :=
          ⟨snapshot.status, snapshot.responseHeaders, if request.method = "HEAD".toList then [] else body⟩
        if ports.fulfils f then .replay [] f else failure [.fulfil f]

def verdict : Verdict :=
  if request.method ≠ "GET".toList ∧ request.method ≠ "HEAD".toList then
    .exit [] "METHOD_NOT_SUPPORTED".toList "blocked".toList .mutationBlocked false
  else if isRuntimeLocalRequest env request.url policy.runtimeOrigin then
    .exit [] "RUNTIME_LOCAL_ORIGIN".toList "local".toList .runtimeLocalAllow true
  else
    let input := identityInput policy request (if request.method = "HEAD".toList then .head else .get)
    match canonicalReplayRequestIdentity env input with
    | .error message =>
      .exit [] (if mentionsSensitive message then "sensitive-request".toList else "unsupported-protocol".toList)
        "invalid".toList .externalNetworkLeakage false
    | .ok _ =>
      match (ports.lookup input).getD (.miss .integrityFailure) with
      | .matched snapshot => (matchVerdict ports request snapshot).after (.lookup input)
      | lookup =>
        .exit [.lookup input] (lookupReason env policy request lookup) lookup.state .externalNetworkLeakage
          !policy.strictOffline

end Verdict

/-- A report of the listener's handler, as its `n`-th event. -/
abbrev Reporter := ℕ → JsString → JsString → ReplayEventType → ReplayRuntimeEvent

/-- How a handler with these outcomes carries out a verdict. -/
def Verdict.run {α : Type} (listener : Listener) (report : Reporter) (fulfilled aborted : α)
    (pass : Option α × List Action) : Verdict → Option α × List Action
  | .exit before reason matchState eventType passes =>
    let rest := emitThen listener (report 0 reason matchState eventType)
      (if passes then pass else (some aborted, [.abort]))
    (rest.1, before ++ rest.2)
  | .replay before f =>
    let event := report 0 "REPLAY_MATCH".toList "match".toList .replayMatch
    if listener.throws event then
      let rest := emitThen listener
        (report 1 "integrity-failure".toList "integrity-failure".toList .externalNetworkLeakage)
        (some aborted, [.abort])
      (rest.1, before ++ .fulfil f :: .event event :: rest.2)
    else (some fulfilled, before ++ [.fulfil f, .event event])

section Run

variable {α : Type} {listener : Listener} {report : Reporter} {fulfilled aborted : α} {pass : Option α × List Action}

theorem run_after (a : Action) (v : Verdict) :
    (v.after a).run listener report fulfilled aborted pass =
      ((v.run listener report fulfilled aborted pass).1, a :: (v.run listener report fulfilled aborted pass).2) := by
  cases v with
  | exit => rfl
  | replay =>
    simp only [Verdict.after, Verdict.run]
    split_ifs <;> rfl

end Run

theorem routeMatch_eq (snapshot : ReplaySnapshotDescriptor) :
    routeMatch env policy ports route request snapshot =
      (matchVerdict ports request snapshot).run route (routeEvent env policy route request) .fulfilled .aborted
        (some .continued, [.continue]) := by
  unfold routeMatch matchVerdict
  by_cases hstatus : (!isReplayableResponseStatus snapshot.status) = true
  · rw [if_pos hstatus, if_pos hstatus]
    rfl
  rw [if_neg hstatus, if_neg hstatus]
  cases ports.readBody snapshot with
  | none => rfl
  | some body =>
    simp only
    by_cases hredirect : 300 ≤ snapshot.status ∧ snapshot.status < 400 ∧
        entry? snapshot.responseHeaders "location".toList = none
    · rw [if_pos hredirect, if_pos hredirect]
      rfl
    rw [if_neg hredirect, if_neg hredirect]
    generalize (⟨_, _, _⟩ : Fulfilment) = f
    by_cases hfulfils : ports.fulfils f = true
    · rw [if_pos hfulfils, if_pos hfulfils]
      rfl
    · rw [if_neg hfulfils, if_neg hfulfils]
      rfl

theorem cdpMatch_eq (snapshot : ReplaySnapshotDescriptor) :
    cdpMatch env policy ports cdp request snapshot =
      (matchVerdict ports request snapshot).run cdp (cdpEvent env policy cdp request) .fulfilled .aborted
        (some .defer, []) := by
  unfold cdpMatch matchVerdict
  by_cases hstatus : (!isReplayableResponseStatus snapshot.status) = true
  · rw [if_pos hstatus, if_pos hstatus]
    rfl
  rw [if_neg hstatus, if_neg hstatus]
  cases ports.readBody snapshot with
  | none => rfl
  | some body =>
    simp only
    by_cases hredirect : 300 ≤ snapshot.status ∧ snapshot.status < 400 ∧
        entry? snapshot.responseHeaders "location".toList = none
    · rw [if_pos hredirect, if_pos hredirect]
      rfl
    rw [if_neg hredirect, if_neg hredirect]
    generalize (⟨_, _, _⟩ : Fulfilment) = f
    by_cases hfulfils : ports.fulfils f = true
    · rw [if_pos hfulfils, if_pos hfulfils]
      rfl
    · rw [if_neg hfulfils, if_neg hfulfils]
      rfl

/-- **The route handler carries out the verdict.** -/
theorem handleRoute_eq (env : ReplayEnv) (policy : NetworkReplayPolicy) (ports : ReplayPorts) (route : Listener)
    (request : BrowserRequest) :
    handleRoute env policy ports route request =
      (verdict env policy ports request).run route (routeEvent env policy route request) .fulfilled .aborted
        (some .continued, [.continue]) := by
  unfold handleRoute verdict
  simp only
  by_cases hmethod : request.method ≠ "GET".toList ∧ request.method ≠ "HEAD".toList
  · rw [if_pos hmethod, if_pos hmethod]
    rfl
  rw [if_neg hmethod, if_neg hmethod]
  by_cases hlocal : isRuntimeLocalRequest env request.url policy.runtimeOrigin = true
  · rw [if_pos hlocal, if_pos hlocal]
    rfl
  rw [if_neg hlocal, if_neg hlocal]
  cases canonicalReplayRequestIdentity env
      (identityInput policy request (if request.method = "HEAD".toList then .head else .get)) with
  | error message => rfl
  | ok _ =>
    simp only
    cases (ports.lookup (identityInput policy request (if request.method = "HEAD".toList then .head else .get))).getD
        (.miss .integrityFailure) with
    | matched snapshot => simp only [run_after, routeMatch_eq]
    | _ => cases hstrict : policy.strictOffline <;> simp [Verdict.run]

/-- **The handler of the browser session carries out the verdict.** -/
theorem handleCdpRequest_eq (env : ReplayEnv) (policy : NetworkReplayPolicy) (ports : ReplayPorts) (cdp : Listener)
    (request : BrowserRequest) :
    handleCdpRequest env policy ports cdp request =
      (verdict env policy ports request).run cdp (cdpEvent env policy cdp request) .fulfilled .aborted
        (some .defer, []) := by
  unfold handleCdpRequest verdict
  simp only
  by_cases hmethod : request.method ≠ "GET".toList ∧ request.method ≠ "HEAD".toList
  · rw [if_pos hmethod, if_pos hmethod]
    rfl
  rw [if_neg hmethod, if_neg hmethod]
  by_cases hlocal : isRuntimeLocalRequest env request.url policy.runtimeOrigin = true
  · rw [if_pos hlocal, if_pos hlocal]
    rfl
  rw [if_neg hlocal, if_neg hlocal]
  cases canonicalReplayRequestIdentity env
      (identityInput policy request (if request.method = "HEAD".toList then .head else .get)) with
  | error message => rfl
  | ok _ =>
    simp only
    cases (ports.lookup (identityInput policy request (if request.method = "HEAD".toList then .head else .get))).getD
        (.miss .integrityFailure) with
    | matched snapshot => simp only [run_after, cdpMatch_eq]
    | _ => cases hstrict : policy.strictOffline <;> simp [Verdict.run]

/-- A stored response is refused, or replayed as it is. -/
theorem matchVerdict_cases (ports : ReplayPorts) (request : BrowserRequest) (snapshot : ReplaySnapshotDescriptor) :
    (∃ before reason matchState eventType,
      matchVerdict ports request snapshot = .exit before reason matchState eventType false) ∨
      ∃ body, ports.readBody snapshot = some body ∧ matchVerdict ports request snapshot =
        .replay [] ⟨snapshot.status, snapshot.responseHeaders, if request.method = "HEAD".toList then [] else body⟩ := by
  unfold matchVerdict
  by_cases hstatus : (!isReplayableResponseStatus snapshot.status) = true
  · rw [if_pos hstatus]
    exact .inl ⟨_, _, _, _, rfl⟩
  rw [if_neg hstatus]
  cases hbody : ports.readBody snapshot with
  | none => exact .inl ⟨_, _, _, _, rfl⟩
  | some body =>
    simp only
    by_cases hredirect : 300 ≤ snapshot.status ∧ snapshot.status < 400 ∧
        entry? snapshot.responseHeaders "location".toList = none
    · rw [if_pos hredirect]
      exact .inl ⟨_, _, _, _, rfl⟩
    rw [if_neg hredirect]
    split_ifs with hhead hfulfils hfulfils
    · exact .inr ⟨body, rfl, rfl⟩
    · exact .inl ⟨_, _, _, _, rfl⟩
    · exact .inr ⟨body, rfl, rfl⟩
    · exact .inl ⟨_, _, _, _, rfl⟩

/-- The request goes to the runtime that serves the archive. -/
def RuntimeLocal (env : ReplayEnv) (policy : NetworkReplayPolicy) (request : BrowserRequest) : Prop :=
  (request.method = "GET".toList ∨ request.method = "HEAD".toList) ∧
    isRuntimeLocalRequest env request.url policy.runtimeOrigin = true

/-- The request is answered from the stored response that the lookup found. -/
def FromSnapshot (policy : NetworkReplayPolicy) (ports : ReplayPorts) (request : BrowserRequest) (f : Fulfilment) : Prop :=
  ∃ method snapshot body, ports.lookup (identityInput policy request method) = some (.matched snapshot) ∧
    ports.readBody snapshot = some body ∧
    f = ⟨snapshot.status, snapshot.responseHeaders, if request.method = "HEAD".toList then [] else body⟩

/-- What a verdict may be: only a request to the runtime, or one that a lenient policy does not
know, is let through, and only a stored response is replayed. -/
def Verdict.Sound (env : ReplayEnv) (policy : NetworkReplayPolicy) (ports : ReplayPorts) (request : BrowserRequest) :
    Verdict → Prop
  | .exit _ _ _ _ passes => passes = true → RuntimeLocal env policy request ∨ policy.strictOffline = false
  | .replay _ f => FromSnapshot policy ports request f

/-- **The verdict is sound.** -/
theorem verdict_sound (env : ReplayEnv) (policy : NetworkReplayPolicy) (ports : ReplayPorts) (request : BrowserRequest) :
    (verdict env policy ports request).Sound env policy ports request := by
  unfold verdict
  by_cases hmethod : request.method ≠ "GET".toList ∧ request.method ≠ "HEAD".toList
  · rw [if_pos hmethod]
    exact fun hpass => by cases hpass
  rw [if_neg hmethod]
  by_cases hlocal : isRuntimeLocalRequest env request.url policy.runtimeOrigin = true
  · rw [if_pos hlocal]
    have hallowed : request.method = "GET".toList ∨ request.method = "HEAD".toList := by
      by_contra hnot
      exact hmethod (not_or.1 hnot)
    exact fun _ => .inl ⟨hallowed, hlocal⟩
  rw [if_neg hlocal]
  simp only
  generalize (if request.method = "HEAD".toList then ReplayRequestMethod.head else .get) = method
  cases canonicalReplayRequestIdentity env (identityInput policy request method) with
  | error message => exact fun hpass => by cases hpass
  | ok _ =>
    simp only
    have hlenient (hpass : (!policy.strictOffline) = true) :
        RuntimeLocal env policy request ∨ policy.strictOffline = false := .inr (by simpa using hpass)
    cases hport : ports.lookup (identityInput policy request method) with
    | none => exact hlenient
    | some result =>
      cases result with
      | matched snapshot =>
        rcases matchVerdict_cases ports request snapshot with ⟨_, _, _, _, heq⟩ | ⟨body, hbody, heq⟩
        · simp only [Option.getD_some, heq]
          exact fun hpass => by cases hpass
        · simp only [Option.getD_some, heq]
          exact ⟨method, snapshot, body, hport, hbody, rfl⟩
      | miss | ambiguous | integrityFailure => exact hlenient

end OfflineWebArchiver.Replay
