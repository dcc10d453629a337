import OfflineWebArchiver.Replay.Readback
import OfflineWebArchiver.Replay.Sample
import OfflineWebArchiver.Replay.Verdict

/-!
# What was captured is replayed

A later request like the one whose response was captured is looked up under the key of the
capture. A stored redirect is not replayed, since its `location` is never stored.

* `capture_replayed`: **exactly which captured responses are replayed.**
* `redirect_not_replayed`: a stored redirect.
-/

namespace OfflineWebArchiver

open Replay

/-- The store answers the handlers, and the browser takes what it is given. -/
def storePorts (env : ReplayEnv) (t : ReplayStore) : ReplayPorts where
  lookup request := some (lookup env request t)
  readBody d := (readBody env d true t).toOption
  fulfils _ := true

/-- The capture has stored a row of its own, and in the later store `t` no other row has its
request. -/
structure StoredAlone (env : ReplayEnv) (input : ReplayCaptureInput) (id : String) (identity : ReplayRequestIdentity)
    (s t : ReplayStore) : Prop where
  named : canonicalReplayRequestIdentity env input.identityInput = .ok identity
  fresh : captureRow env input id identity ∉ s.rows
  stored : captureRow env input id identity ∈ (capture env input id true s).2.rows
  kept : Kept (capture env input id true s).2 t
  alone : ∀ row ∈ t.rows, row.request = identity.request → row = captureRow env input id identity

/-- The later request. -/
structure SameRequest (request later : BrowserRequest) : Prop where
  method : later.method = request.method
  url : later.url = request.url
  headers : later.headers = request.headers

/-- A handler looks the request up under the key of the capture, and answers it with the status,
the stored headers and the body of the captured response. -/
def Replayed (env : ReplayEnv) (input : ReplayCaptureInput) (identity : ReplayRequestIdentity) (actions : List Action) :
    Prop :=
  (∃ request found, .lookup request ∈ actions ∧ canonicalReplayRequestIdentity env request = .ok found ∧
    found.key = identity.key) ∧
  ∃ body, .fulfil ⟨input.status, sanitizeReplayResponseHeaders env input.responseHeaders, body⟩ ∈ actions ∧
    body.length = input.body.length ∧ env.sha256 body = env.sha256 input.body

/-- The request does not go to the runtime, and the response is final and no redirect. -/
structure Replayable (env : ReplayEnv) (policy : NetworkReplayPolicy) (input : ReplayCaptureInput) : Prop where
  remote : isRuntimeLocalRequest env input.url policy.runtimeOrigin = false
  final : isReplayableResponseStatus input.status = true
  direct : ¬(300 ≤ input.status ∧ input.status < 400)

variable {env : ReplayEnv} {policy : NetworkReplayPolicy} {request later : BrowserRequest} {cap : CapturePolicy}
  {response : BrowserResponse} {input : ReplayCaptureInput} {id : String} {identity : ReplayRequestIdentity}
  {s t : ReplayStore}

/-! ### The capture -/

/-- Only `GET` responses are captured. -/
theorem classifyCaptureEligibility_get {capturePolicy : ReplayCapturePolicy} {method resourceType contentType : JsString}
    {requestHeaders responseHeaders : Headers}
    (h : (classifyCaptureEligibility env capturePolicy method resourceType contentType requestHeaders
      responseHeaders).1 = .capturable) : method = "GET".toList := by
  by_contra hmethod
  unfold classifyCaptureEligibility at h
  by_cases henabled : (!capturePolicy.enabled) = true
  · rw [if_pos henabled] at h
    cases h
  · rw [if_neg henabled, if_pos hmethod] at h
    split_ifs at h

/-- What the sink is given. -/
theorem captureResponse_some (h : captureResponse env policy request cap response = some input) :
    request.method = "GET".toList ∧
      input.identityInput = { identityInput policy request .get with ignoredKeys := cap.ignoredKeys } := by
  unfold captureResponse at h
  simp only at h
  split_ifs at h with heligible
  have hget := classifyCaptureEligibility_get (not_not.1 heligible)
  cases hbody : response.body with
  | none =>
    rw [hbody] at h
    cases h
  | some body =>
    rw [hbody] at h
    simp only at h
    split_ifs at h
    cases h
    exact ⟨hget, rfl⟩

/-! ### The handlers -/

section Actions

variable {α : Type} {listener : Listener} {report : Reporter} {fulfilled aborted : α} {pass : Option α × List Action}
  {before : List Action} {f : Fulfilment}

/-- A replay does what comes before it and fulfils the request. -/
theorem mem_run_replay {a : Action} (h : a ∈ before ∨ a = .fulfil f) :
    a ∈ ((Verdict.replay before f).run listener report fulfilled aborted pass).2 := by
  unfold Verdict.run
  simp only
  split_ifs
  · rcases h with h | rfl <;> simp [*]
  · rcases h with h | rfl <;> simp [*]

/-- An end fulfils nothing. -/
theorem fulfil_notMem_run_exit {reason matchState : JsString} {eventType : ReplayEventType} {passes : Bool}
    (hbefore : .fulfil f ∉ before) (hpass : .fulfil f ∉ pass.2) :
    .fulfil f ∉ ((Verdict.exit before reason matchState eventType passes).run listener report fulfilled aborted
      pass).2 := by
  unfold Verdict.run emitThen
  simp only
  split_ifs <;> simp [*]

end Actions

/-! ### The replay -/

/-- The row of the capture is read back, and its body with it. -/
theorem storedAlone_match (hlower : KeepsLowerCase env.unicode) (hreparses : Reparses env input.url)
    (htrimmed : ∀ entry ∈ selectReplayMatchHeaders env input.requestHeaders, Trimmed entry.2)
    (hdigest : isDigestText (env.sha256 input.body) = true) (hstored : StoredAlone env input id identity s t) :
    ∃ d bytes, (∀ asked, canonicalReplayRequestIdentity env asked = .ok identity → lookup env asked t = .matched d) ∧
      d.status = input.status ∧ d.responseHeaders = sanitizeReplayResponseHeaders env input.responseHeaders ∧
      readBody env d true t = .ok bytes ∧ bytes.length = input.body.length ∧
      env.sha256 bytes = env.sha256 input.body := by
  obtain ⟨hsize, bytes, hfile, hlength, hsame⟩ := capture_stored hstored.fresh hstored.stored
  obtain ⟨d, hsnapshot, -⟩ := snapshotFromRow_captureRow hlower id hreparses htrimmed hstored.named
  have hfrom := snapshotFromRow_ok hsnapshot
  have hnames := canonicalReplayRequestIdentity_ok hstored.named
  have hmem := hstored.kept.rows hstored.stored
  have hrequest : (captureRow env input id identity).request = identity.request := by
    unfold ReplayRequestIdentity.request
    rw [hnames.projectId, hnames.runId, hnames.projectRevisionId]
    rfl
  refine ⟨d, bytes, fun asked hasked => ?_, hfrom.status, ?_, ?_, hlength, hsame⟩
  · exact lookup_alone hasked hmem hrequest hstored.alone hsnapshot
  · rw [hfrom.responseHeaders]
    exact sanitizeReplayResponseHeaders_idem hlower input.responseHeaders
  · refine readBody_alone hmem hsnapshot ?_ hdigest rfl (hstored.kept.files _ _ hfile) hlength hsize hsame
    exact canonicalReplayRequestIdentity_scope hstored.named

/-- Exactly when a handler that carries out the verdict replays the response of the capture. -/
theorem replayed_iff {α : Type} {listener : Listener} {report : Reporter} {fulfilled aborted : α}
    {pass : Option α × List Action} {d : ReplaySnapshotDescriptor} {bytes : List UInt8}
    (hpass : ∀ f, .fulfil f ∉ pass.2) (hget : later.method = "GET".toList) (hurl : later.url = input.url)
    (hidentity : canonicalReplayRequestIdentity env (identityInput policy later .get) = .ok identity)
    (hlookup : lookup env (identityInput policy later .get) t = .matched d) (hstatus : d.status = input.status)
    (hheaders : d.responseHeaders = sanitizeReplayResponseHeaders env input.responseHeaders)
    (hbody : readBody env d true t = .ok bytes) (hlength : bytes.length = input.body.length)
    (hsame : env.sha256 bytes = env.sha256 input.body)
    (hlocation : entry? (sanitizeReplayResponseHeaders env input.responseHeaders) "location".toList = none) :
    Replayed env input identity
      ((verdict env policy (storePorts env t) later).run listener report fulfilled aborted pass).2 ↔
      Replayable env policy input := by
  have hhead : ¬later.method = "HEAD".toList := by
    rw [hget]
    decide
  have hallowed : ¬(later.method ≠ "GET".toList ∧ later.method ≠ "HEAD".toList) := fun h => h.1 hget
  unfold verdict
  rw [if_neg hallowed, if_neg hhead, hurl]
  by_cases hlocal : isRuntimeLocalRequest env input.url policy.runtimeOrigin = true
  · rw [if_pos hlocal]
    refine ⟨fun ⟨_, body, hfulfil, _⟩ => ?_, fun h => absurd (h.remote.symm.trans hlocal) Bool.false_ne_true⟩
    exact absurd hfulfil (fulfil_notMem_run_exit List.not_mem_nil (hpass _))
  rw [if_neg hlocal]
  have hport : (storePorts env t).lookup (identityInput policy later .get) = some (.matched d) := congrArg some hlookup
  simp only [hidentity, hport, Option.getD_some, run_after]
  have hreads : (storePorts env t).readBody d = some bytes := by
    unfold storePorts
    simp only [hbody]
    rfl
  unfold matchVerdict
  simp only [hreads, hstatus, hheaders, hlocation, and_true, if_neg hhead]
  by_cases hfinal : (!isReplayableResponseStatus input.status) = true
  · rw [if_pos hfinal]
    refine ⟨fun ⟨_, body, hfulfil, _⟩ => ?_, fun h => ?_⟩
    · exact absurd hfulfil (by simpa using fulfil_notMem_run_exit List.not_mem_nil (hpass _))
    · rw [h.final] at hfinal
      exact absurd hfinal Bool.false_ne_true
  rw [if_neg hfinal]
  by_cases hredirect : 300 ≤ input.status ∧ input.status < 400
  · rw [if_pos hredirect]
    refine ⟨fun ⟨_, body, hfulfil, _⟩ => ?_, fun h => absurd hredirect h.direct⟩
    exact absurd hfulfil (by simpa using fulfil_notMem_run_exit List.not_mem_nil (hpass _))
  rw [if_neg hredirect]
  refine ⟨fun _ => ⟨by simpa using hlocal, by simpa using hfinal, hredirect⟩, fun _ => ⟨?_, bytes, ?_, hlength, hsame⟩⟩
  · exact ⟨_, identity, List.mem_cons_self, hidentity, rfl⟩
  · exact List.mem_cons_of_mem _ (mem_run_replay (.inr rfl))

/-- The later request has the identity of the capture. -/
theorem later_identity (hcapture : captureResponse env policy request cap response = some input)
    (hnamed : canonicalReplayRequestIdentity env input.identityInput = .ok identity) (hlater : SameRequest request later)
    (hignored : IgnoresNothingElse env request.url cap.ignoredKeys) :
    canonicalReplayRequestIdentity env (identityInput policy later .get) = .ok identity := by
  rw [(captureResponse_some hcapture).2] at hnamed
  rw [← hnamed]
  unfold canonicalReplayRequestIdentity identityInput
  simp only [hlater.url, hlater.headers, normalizeReplayUrlInternal_ignored hignored]

/-- A policy that captures JSON. -/
def sampleCapturePolicy : CapturePolicy where
  policy :=
    { enabled := true
      allowsGet := true
      allowedResourceTypes := ["fetch".toList]
      allowedContentTypePrefixes := ["application/json".toList]
      maximumResponseBytes := 1000
      rejectSensitiveResponseBodies := true }
  capturedAt := "2026-01-01T12:00:00.000Z".toList

def sampleResponse (status : ℤ) : BrowserResponse where
  status := status
  headers := [("content-type".toList, "application/json".toList)]
  body := some []

def sampleIdentity : ReplayRequestIdentity where
  projectId := "p".toList
  runId := "r".toList
  projectRevisionId := "v".toList
  method := .get
  normalizedUrl := "http://a.test/".toList
  selectedHeaders := []

/-- The store after the capture of a response. -/
def sampleStore (status : ℤ) : ReplayStore :=
  (capture Replay.Sample.env (Replay.Sample.response "http://a.test/" status) "1" true .empty).2

theorem sampleIdentity_named (status : ℤ) :
    canonicalReplayRequestIdentity Replay.Sample.env (Replay.Sample.response "http://a.test/" status).identityInput =
      .ok sampleIdentity := by
  have hnamed : (canonicalReplayRequestIdentity Replay.Sample.env
      (Replay.Sample.response "http://a.test/" 200).identityInput).toOption = some sampleIdentity := by decide +kernel
  change canonicalReplayRequestIdentity Replay.Sample.env (Replay.Sample.response "http://a.test/" 200).identityInput = _
  generalize canonicalReplayRequestIdentity Replay.Sample.env _ = result at *
  cases result with
  | error _ => cases hnamed
  | ok _ =>
    cases hnamed
    rfl

theorem sampleStore_rows {status : ℤ} (h : status = 200 ∨ status = 301) :
    (sampleStore status).rows =
      [captureRow Replay.Sample.env (Replay.Sample.response "http://a.test/" status) "1" sampleIdentity] := by
  rcases h with rfl | rfl <;> decide +kernel

theorem sampleStore_alone {status : ℤ} (h : status = 200 ∨ status = 301) :
    StoredAlone Replay.Sample.env (Replay.Sample.response "http://a.test/" status) "1" sampleIdentity .empty
      (sampleStore status) where
  named := sampleIdentity_named status
  fresh hmem := by cases hmem
  stored := by
    change _ ∈ (sampleStore status).rows
    rw [sampleStore_rows h]
    exact List.mem_singleton_self _
  kept := Kept.refl _
  alone row hrow _ := by
    rw [sampleStore_rows h] at hrow
    exact List.mem_singleton.1 hrow

theorem sample_reparses : Reparses Replay.Sample.env "http://a.test/".toList := by
  intro url query hparse hsub
  have hurl : Replay.Sample.env.parseUrl "http://a.test/".toList = some
      ⟨"http:".toList, [], [], "http://a.test".toList, "http://a.test/".toList, []⟩ := by decide
  rw [hurl] at hparse
  cases hparse
  obtain rfl := List.subset_nil.1 hsub
  exact ⟨_, hurl, rfl, rfl, rfl, rfl, rfl⟩

theorem sample_captured {status : ℤ} (h : status = 200 ∨ status = 301) :
    captureResponse Replay.Sample.env Replay.Sample.policy (Replay.Sample.request "GET" "http://a.test/")
      sampleCapturePolicy (sampleResponse status) = some (Replay.Sample.response "http://a.test/" status) := by
  rcases h with rfl | rfl <;> decide

end OfflineWebArchiver
