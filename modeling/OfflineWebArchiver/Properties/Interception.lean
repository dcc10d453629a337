import OfflineWebArchiver.Replay.Sample
import OfflineWebArchiver.Replay.Verdict

/-!
# The two interception paths

The route handler and the handler of the browser session carry out one verdict. They leave it
only where the listener of events throws.

* `handlers_agree_iff`: **exactly when the two isolate and agree.**
* `handlers_reject`: a listener that throws.
-/

namespace OfflineWebArchiver

open Replay

variable {env : ReplayEnv} {policy : NetworkReplayPolicy} {ports : ReplayPorts} {request : BrowserRequest}
  {route cdp : Listener}

/-- The outcomes that correspond. A handler whose promise rejects has no outcome. -/
inductive Corresponds : Option PlaywrightReplayRouteOutcome → Option PlaywrightReplayCdpOutcome → Prop
  | fulfilled : Corresponds (some .fulfilled) (some .fulfilled)
  | aborted : Corresponds (some .aborted) (some .aborted)
  | passed : Corresponds (some .continued) (some .defer)

def fulfilments (actions : List Action) : List Fulfilment :=
  actions.filterMap fun
    | .fulfil f => some f
    | _ => none

/-- Type, reason and match state of the events. -/
def reports (actions : List Action) : List (ReplayEventType × JsString × JsString) :=
  actions.filterMap fun
    | .event e => some (e.eventType, e.reason, e.matchState)
    | _ => none

/-- Isolation under a strict policy and agreement of the two handlers on one request. -/
structure HandlersAgree (env : ReplayEnv) (policy : NetworkReplayPolicy) (ports : ReplayPorts) (route cdp : Listener)
    (request : BrowserRequest) : Prop where
  isolated : policy.strictOffline = true → ¬RuntimeLocal env policy request →
    ((handleRoute env policy ports route request).1 = some .fulfilled ∨
      (handleRoute env policy ports route request).1 = some .aborted) ∧
    ((handleCdpRequest env policy ports cdp request).1 = some .fulfilled ∨
      (handleCdpRequest env policy ports cdp request).1 = some .aborted)
  replayed : (handleRoute env policy ports route request).1 = some .fulfilled →
    ∃ f, FromSnapshot policy ports request f ∧ .fulfil f ∈ (handleRoute env policy ports route request).2
  outcomes : Corresponds (handleRoute env policy ports route request).1 (handleCdpRequest env policy ports cdp request).1
  fulfilled : fulfilments (handleRoute env policy ports route request).2 =
    fulfilments (handleCdpRequest env policy ports cdp request).2
  reported : reports (handleRoute env policy ports route request).2 = reports (handleCdpRequest env policy ports cdp request).2

/-- The listeners let the handlers finish: neither throws on the one report of the verdict. After
a replay they may both throw on the report of the match if neither throws on the failure that is
reported then. -/
def LetsFinish (env : ReplayEnv) (policy : NetworkReplayPolicy) (ports : ReplayPorts) (route cdp : Listener)
    (request : BrowserRequest) : Prop :=
  match verdict env policy ports request with
  | .exit _ reason matchState eventType _ =>
    route.throws (routeEvent env policy route request 0 reason matchState eventType) = false ∧
      cdp.throws (cdpEvent env policy cdp request 0 reason matchState eventType) = false
  | .replay _ _ =>
    let routeMatch := routeEvent env policy route request 0 "REPLAY_MATCH".toList "match".toList .replayMatch
    let cdpMatch := cdpEvent env policy cdp request 0 "REPLAY_MATCH".toList "match".toList .replayMatch
    let reason := "integrity-failure".toList
    route.throws routeMatch = cdp.throws cdpMatch ∧
      (route.throws routeMatch = true →
        route.throws (routeEvent env policy route request 1 reason reason .externalNetworkLeakage) = false ∧
          cdp.throws (cdpEvent env policy cdp request 1 reason reason .externalNetworkLeakage) = false)

section Runs

variable {α : Type} {listener : Listener} {report : Reporter} {fulfilled aborted : α} {pass : Option α × List Action}
  {event : ReplayRuntimeEvent} {rest : Option α × List Action}

theorem emitThen_of_throws (h : listener.throws event = true) : emitThen listener event rest = (none, [.event event]) := by
  unfold emitThen
  rw [if_pos h]

theorem emitThen_of_quiet (h : listener.throws event = false) :
    emitThen listener event rest = (rest.1, .event event :: rest.2) := by
  unfold emitThen
  rw [if_neg (by simp [h])]

theorem run_exit {before : List Action} {reason matchState : JsString} {eventType : ReplayEventType} {passes : Bool} :
    (Verdict.exit before reason matchState eventType passes).run listener report fulfilled aborted pass =
      ((emitThen listener (report 0 reason matchState eventType)
          (if passes then pass else (some aborted, [.abort]))).1,
        before ++ (emitThen listener (report 0 reason matchState eventType)
          (if passes then pass else (some aborted, [.abort]))).2) := rfl

/-- The end of a replay whose report throws. -/
def takenBack (listener : Listener) (report : Reporter) (aborted : α) : Option α × List Action :=
  emitThen listener (report 1 "integrity-failure".toList "integrity-failure".toList .externalNetworkLeakage)
    (some aborted, [.abort])

theorem run_replay_of_throws {before : List Action} {f : Fulfilment}
    (h : listener.throws (report 0 "REPLAY_MATCH".toList "match".toList .replayMatch) = true) :
    (Verdict.replay before f).run listener report fulfilled aborted pass =
      ((takenBack listener report aborted).1,
        before ++ .fulfil f :: .event (report 0 "REPLAY_MATCH".toList "match".toList .replayMatch) ::
          (takenBack listener report aborted).2) := by
  unfold Verdict.run
  simp only
  rw [if_pos h]
  rfl

theorem run_replay_of_quiet {before : List Action} {f : Fulfilment}
    (h : listener.throws (report 0 "REPLAY_MATCH".toList "match".toList .replayMatch) = false) :
    (Verdict.replay before f).run listener report fulfilled aborted pass =
      (some fulfilled,
        before ++ [.fulfil f, .event (report 0 "REPLAY_MATCH".toList "match".toList .replayMatch)]) := by
  unfold Verdict.run
  simp only
  rw [if_neg (Bool.eq_false_iff.1 h)]

end Runs

theorem not_corresponds_none_left {c : Option PlaywrightReplayCdpOutcome} : ¬Corresponds none c := by
  intro h
  cases h

theorem not_corresponds_none_right {r : Option PlaywrightReplayRouteOutcome} : ¬Corresponds r none := by
  intro h
  cases h

theorem fulfilments_append (a b : List Action) : fulfilments (a ++ b) = fulfilments a ++ fulfilments b :=
  List.filterMap_append

theorem reports_append (a b : List Action) : reports (a ++ b) = reports a ++ reports b :=
  List.filterMap_append

/-- Two handlers that report a verdict without a throw agree. -/
theorem agree_exit {before : List Action} {reason matchState : JsString} {eventType : ReplayEventType} {passes : Bool}
    (hverdict : verdict env policy ports request = .exit before reason matchState eventType passes)
    (hroute : route.throws (routeEvent env policy route request 0 reason matchState eventType) = false)
    (hcdp : cdp.throws (cdpEvent env policy cdp request 0 reason matchState eventType) = false) :
    HandlersAgree env policy ports route cdp request := by
  have hsound := verdict_sound env policy ports request
  rw [hverdict] at hsound
  have hr := handleRoute_eq env policy ports route request
  have hc := handleCdpRequest_eq env policy ports cdp request
  rw [hverdict, run_exit, emitThen_of_quiet hroute] at hr
  rw [hverdict, run_exit, emitThen_of_quiet hcdp] at hc
  cases passes with
  | true =>
    refine ⟨fun hstrict hremote => ?_, fun hfulfilled => ?_, ?_, ?_, ?_⟩
    · rcases hsound rfl with hlocal | hlenient
      · exact absurd hlocal hremote
      · cases hstrict.symm.trans hlenient
    · rw [hr] at hfulfilled
      cases hfulfilled
    · rw [hr, hc]
      exact .passed
    · rw [hr, hc, fulfilments_append, fulfilments_append]
      rfl
    · rw [hr, hc, reports_append, reports_append]
      rfl
  | false =>
    refine ⟨fun _ _ => ?_, fun hfulfilled => ?_, ?_, ?_, ?_⟩
    · rw [hr, hc]
      exact ⟨.inr rfl, .inr rfl⟩
    · rw [hr] at hfulfilled
      cases hfulfilled
    · rw [hr, hc]
      exact .aborted
    · rw [hr, hc, fulfilments_append, fulfilments_append]
      rfl
    · rw [hr, hc, reports_append, reports_append]
      rfl

/-- Two handlers that both finish a replay agree, be it that both take it back. -/
theorem agree_replay {before : List Action} {f : Fulfilment}
    (hverdict : verdict env policy ports request = .replay before f)
    (hfinish : LetsFinish env policy ports route cdp request) : HandlersAgree env policy ports route cdp request := by
  have hsound := verdict_sound env policy ports request
  have hr := handleRoute_eq env policy ports route request
  have hc := handleCdpRequest_eq env policy ports cdp request
  unfold LetsFinish at hfinish
  rw [hverdict] at hsound hr hc hfinish
  obtain ⟨hsame, hrest⟩ := hfinish
  cases hthrows : route.throws (routeEvent env policy route request 0 "REPLAY_MATCH".toList "match".toList
      .replayMatch) with
  | true =>
    obtain ⟨hroute, hcdp⟩ := hrest hthrows
    rw [run_replay_of_throws hthrows, takenBack, emitThen_of_quiet hroute] at hr
    rw [run_replay_of_throws (hsame.symm.trans hthrows), takenBack, emitThen_of_quiet hcdp] at hc
    refine ⟨fun _ _ => ?_, fun hfulfilled => ?_, ?_, ?_, ?_⟩
    · rw [hr, hc]
      exact ⟨.inr rfl, .inr rfl⟩
    · rw [hr] at hfulfilled
      cases hfulfilled
    · rw [hr, hc]
      exact .aborted
    · rw [hr, hc, fulfilments_append, fulfilments_append]
      rfl
    · rw [hr, hc, reports_append, reports_append]
      rfl
  | false =>
    rw [run_replay_of_quiet hthrows] at hr
    rw [run_replay_of_quiet (hsame.symm.trans hthrows)] at hc
    refine ⟨fun _ _ => ?_, fun _ => ?_, ?_, ?_, ?_⟩
    · rw [hr, hc]
      exact ⟨.inl rfl, .inl rfl⟩
    · rw [hr]
      exact ⟨f, hsound, by simp⟩
    · rw [hr, hc]
      exact .fulfilled
    · rw [hr, hc, fulfilments_append, fulfilments_append]
      rfl
    · rw [hr, hc, reports_append, reports_append]
      rfl

/-- **Exactly when the two handlers isolate and agree**: their listeners let them finish. -/
theorem handlers_agree_iff (env : ReplayEnv) (policy : NetworkReplayPolicy) (ports : ReplayPorts) (route cdp : Listener)
    (request : BrowserRequest) :
    HandlersAgree env policy ports route cdp request ↔ LetsFinish env policy ports route cdp request := by
  have hr := handleRoute_eq env policy ports route request
  have hc := handleCdpRequest_eq env policy ports cdp request
  cases hverdict : verdict env policy ports request with
  | exit before reason matchState eventType passes =>
    refine ⟨fun h => ?_, fun h => ?_⟩
    · have houtcomes := h.outcomes
      rw [hr, hc, hverdict, run_exit, run_exit] at houtcomes
      unfold LetsFinish
      rw [hverdict]
      refine ⟨?_, ?_⟩
      · by_contra hthrows
        rw [emitThen_of_throws (by simpa using hthrows)] at houtcomes
        exact not_corresponds_none_left houtcomes
      · by_contra hthrows
        have hcdp : cdp.throws (cdpEvent env policy cdp request 0 reason matchState eventType) = true := by
          simpa using hthrows
        rw [emitThen_of_throws hcdp] at houtcomes
        exact not_corresponds_none_right houtcomes
    · unfold LetsFinish at h
      rw [hverdict] at h
      exact agree_exit hverdict h.1 h.2
  | replay before f =>
    refine ⟨fun h => ?_, agree_replay hverdict⟩
    have houtcomes := h.outcomes
    rw [hr, hc, hverdict] at houtcomes
    unfold LetsFinish
    rw [hverdict]
    cases hroute : route.throws (routeEvent env policy route request 0 "REPLAY_MATCH".toList "match".toList
        .replayMatch) with
    | true =>
      rw [run_replay_of_throws hroute] at houtcomes
      have hrouteFailure : route.throws (routeEvent env policy route request 1 "integrity-failure".toList
          "integrity-failure".toList .externalNetworkLeakage) = false := by
        by_contra hthrows
        rw [takenBack, emitThen_of_throws (by simpa using hthrows)] at houtcomes
        exact not_corresponds_none_left houtcomes
      rw [takenBack, emitThen_of_quiet hrouteFailure] at houtcomes
      cases hcdp : cdp.throws (cdpEvent env policy cdp request 0 "REPLAY_MATCH".toList "match".toList
          .replayMatch) with
      | false =>
        rw [run_replay_of_quiet hcdp] at houtcomes
        cases houtcomes
      | true =>
        rw [run_replay_of_throws hcdp] at houtcomes
        refine ⟨hroute.trans hcdp.symm, fun _ => ⟨hrouteFailure, ?_⟩⟩
        by_contra hthrows
        rw [takenBack, emitThen_of_throws (by simpa using hthrows)] at houtcomes
        exact not_corresponds_none_right houtcomes
    | false =>
      rw [run_replay_of_quiet hroute] at houtcomes
      cases hcdp : cdp.throws (cdpEvent env policy cdp request 0 "REPLAY_MATCH".toList "match".toList
          .replayMatch) with
      | false => exact ⟨hroute.trans hcdp.symm, fun hthrows => absurd (hroute.symm.trans hthrows) Bool.false_ne_true⟩
      | true =>
        -- the handler of the session rejects or aborts, the route handler has fulfilled
        rw [run_replay_of_throws hcdp, takenBack] at houtcomes
        unfold emitThen at houtcomes
        split_ifs at houtcomes
        · exact absurd houtcomes not_corresponds_none_right
        · cases houtcomes

/-- **A listener that throws**: a request that is to be blocked is left unanswered. -/
theorem handlers_reject :
    ¬∀ (env : ReplayEnv) (policy : NetworkReplayPolicy) (ports : ReplayPorts) (route cdp : Listener)
      (request : BrowserRequest), HandlersAgree env policy ports route cdp request := by
  intro h
  have houtcomes := (h Replay.Sample.env Replay.Sample.policy Replay.Sample.ports Replay.Sample.throwing
    Replay.Sample.throwing (Replay.Sample.request "POST" "http://a.test/")).outcomes
  cases houtcomes

end OfflineWebArchiver
