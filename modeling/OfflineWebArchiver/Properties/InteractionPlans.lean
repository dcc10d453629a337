import OfflineWebArchiver.Interaction.Plan

/-!
# Plans that are read twice

The service reads a plan before it leases a job, and the executor reads the result again. A step
without a time limit gets 30 seconds, or the duration of the profile when that is less. A profile
may have the duration 0, which no step may be given.

* `ReadAgain`: a profile and a plan that are read again, unchanged.
* `read_again_iff`: **exactly when they are.**
* `Sample.plan_refused`: a plan that is accepted and then refused.
-/

namespace OfflineWebArchiver.Interaction

open ProxyManager (JsValue Unknown field)
open Collect (Quiet quiet_pure quiet_bind forall_of_forall₂)

/-- `value[name]`, of an object. -/
def memberOf (value : Unknown) (name : String) : Unknown :=
  match value with
  | some (.object fields) => field fields name
  | _ => none

/-- What was read is read again, unchanged, and has one step for each element, in their order. -/
structure ReadAgain (plan : Unknown) (p : InteractionProfile) (r : InteractionPlan) : Prop where
  profile : validateInteractionProfile (some p.toValue) = .ok p
  again : validateInteractionPlan (some r.toValue) p = .ok r
  steps : ∃ items, memberOf plan "steps" = some (.array items) ∧
    List.Forall₂ (fun raw s => memberOf (some raw) "stepId" = some (.text s.stepId)) items r.steps

section ReadAgain

variable {profile plan raw : Unknown} {p : InteractionProfile} {r : InteractionPlan} {items : List JsValue}

theorem memberOf_steps {fields : List (Text × JsValue)} (h : stepItems fields = some items) :
    memberOf (some (.object fields)) "steps" = some (.array items) := by
  show field fields "steps" = _
  unfold stepItems at h
  split at h
  · rename_i others hfield
    rw [hfield, Option.some.inj h]
  · cases h

theorem validateInteractionPlan_ok (hp : p.Ok) (h : validateInteractionPlan plan p = .ok r) :
    r.Ok p ∧ ∃ items, memberOf plan "steps" = some (.array items) ∧ List.Forall₂ (ReadAs p) items r.steps := by
  unfold validateInteractionPlan at h
  split at h
  · obtain ⟨hr, items, hitems, hread⟩ := planShape_ok hp (resultOf_ok.1 h)
    exact ⟨hr, items, memberOf_steps hitems, hread⟩
  · cases h

/-- The identifier that is read of an element is the one that it has. -/
theorem ReadAs.stepId {raw : JsValue} {s : InteractionStep} (h : ReadAs p raw s) :
    memberOf (some raw) "stepId" = some (.text s.stepId) := by
  obtain ⟨fields, rfl, hid, -⟩ := h.read
  exact hid

/-- Under a profile with a duration every time limit may be given again, the default as well. -/
theorem ReadAs.timeout {raw : JsValue} {s : InteractionStep} (h : ReadAs p raw s)
    (hp : 1 ≤ p.maxInteractionDurationMs) : TimeoutOk p s.timeoutMs := by
  obtain ⟨fields, -, -, ⟨-, hdefault⟩ | ⟨-, hgiven⟩⟩ := h.read
  · rw [hdefault]
    refine ⟨le_min (by decide) hp, le_min (min_le_right _ _) ?_⟩
    exact (min_le_left _ _).trans (by decide)
  · exact hgiven

/-- **A plan is read again, unchanged, unless it has a step and its profile has no duration.** -/
theorem plan_again_iff (hp : p.Ok) (hr : r.Ok p) (hread : List.Forall₂ (ReadAs p) items r.steps) :
    validateInteractionPlan (some r.toValue) p = .ok r ↔ p.maxInteractionDurationMs ≠ 0 ∨ items = [] := by
  have hagain : validateInteractionPlan (some r.toValue) p = .ok r ↔ ∀ s ∈ r.steps, TimeoutOk p s.timeoutMs :=
    resultOf_ok.trans (planShape_again hp hr)
  rw [hagain]
  have hduration := hp.limits.maxInteractionDurationMs.1
  constructor
  · intro h
    by_contra hnot
    obtain ⟨hzero, hsome⟩ := not_or.1 hnot
    rw [not_not] at hzero
    obtain ⟨s, hs⟩ : ∃ s, s ∈ r.steps := by
      refine List.exists_mem_of_ne_nil _ fun hnil => hsome ?_
      rw [hnil] at hread
      exact List.forall₂_nil_right_iff.1 hread
    obtain ⟨hlow, hhigh⟩ := h s hs
    have := hhigh.trans (min_le_left _ _)
    omega
  · rintro (hne | rfl)
    · have hone : 1 ≤ p.maxInteractionDurationMs := by omega
      exact forall_of_forall₂ (hread.imp fun _ _ h => h.timeout hone)
    · rw [List.forall₂_nil_left_iff.1 hread]
      intro s hs
      cases hs

/-- **What the service has read, the executor reads again**, exactly when the profile has a duration
or the plan no step. -/
theorem read_again_iff (hp : validateInteractionProfile profile = .ok p)
    (hr : validateInteractionPlan plan p = .ok r) :
    ReadAgain plan p r ↔
      memberOf profile "maxInteractionDurationMs" ≠ some (int 0) ∨ memberOf plan "steps" = some (.array []) := by
  obtain ⟨fields, rfl, hok, hduration⟩ := validateInteractionProfile_ok hp
  obtain ⟨hrok, items, hitems, hread⟩ := validateInteractionPlan_ok hok hr
  have hcondition : (p.maxInteractionDurationMs ≠ 0 ∨ items = []) ↔
      (memberOf (some (.object fields)) "maxInteractionDurationMs" ≠ some (int 0) ∨
        memberOf plan "steps" = some (.array [])) := by
    rw [hitems]
    show _ ↔ (field fields _ ≠ _ ∨ _)
    rw [hduration, ne_eq, ne_eq, Option.some.injEq, Option.some.injEq, int_inj, JsValue.array.injEq]
  rw [← hcondition, ← plan_again_iff hok hrok hread]
  refine ⟨fun h => h.again, fun h => ⟨validateInteractionProfile_again hp, h, items, hitems, ?_⟩⟩
  exact hread.imp fun _ _ h => h.stepId

end ReadAgain

/-! ### A profile without a duration -/

namespace Sample

/-- An enabled profile that allows one action and gives it no time. -/
def profile : InteractionProfile where
  maxActionsPerPage := 1
  maxInteractionDurationMs := 0
  maxScrollSteps := 0
  maxTabSteps := 0
  maxPopupsPerPage := 0
  maxDialogsPerPage := 0
  maxTypedTextLength := 1
  maxTargetLength := 1
  maxTraceEvents := 1
  maxTraceBytes := 1
  maxScrollDistancePx := 0
  profileId := asciiUnits "p"
  profileRevisionId := asciiUnits "r"
  projectId := none
  enabled := true
  mode := .humanPaced
  seed := asciiUnits "s"
  actionDelay := ⟨0, 0⟩
  typingDelay := ⟨0, 0⟩
  pointerMoveDuration := ⟨0, 0⟩
  scrollStep := ⟨0, 0⟩
  scrollDelay := ⟨0, 0⟩
  incrementalScroll := false
  dialogPolicy := ⟨.dismiss, [], 1⟩
  popupPolicy := ⟨.observeClose, [], 1⟩
  cookieBannerRules := []

/-- One press of a key, without a time limit of its own. -/
def step : InteractionStep where
  stepId := asciiUnits "tab"
  timeoutMs := 0
  preconditions := []
  retryPolicy := ⟨1, []⟩
  failurePolicy := literal "stop"
  postcondition := none
  sideEffect := .readOnly
  tracePolicy := .none
  maxExecutions := 1
  action := .pressKey (asciiUnits "Tab")

def plan : InteractionPlan := ⟨asciiUnits "plan", asciiUnits "why", [step]⟩

/-- The plan as it is given. -/
def given : Unknown := some (.object (record (plan.entries [step.write none])))

theorem profile_ok : profile.Ok where
  limits := by
    constructor
    all_goals exact ⟨by decide, by decide⟩
  profileId := ⟨by decide, by decide, by decide⟩
  profileRevisionId := ⟨by decide, by decide, by decide⟩
  projectId := by
    rintro t ⟨⟩
  seed := ⟨by decide, by decide, by decide⟩
  mode _ := rfl
  actionDelay := ⟨by decide, by decide, by decide⟩
  typingDelay := ⟨by decide, by decide, by decide⟩
  pointerMoveDuration := ⟨by decide, by decide, by decide⟩
  scrollStep := ⟨by decide, by decide, by decide⟩
  scrollDelay := ⟨by decide, by decide, by decide⟩
  dialogPolicy := ⟨by decide, by decide⟩
  popupPolicy := ⟨by rintro origin ⟨⟩, by decide, by decide⟩
  cookieBannerRules := by
    rintro rule ⟨⟩
  few := by decide
  distinct := List.nodup_nil

theorem step_ok : step.Ok profile where
  stepId := ⟨by decide, by decide, by decide⟩
  preconditions := ⟨by decide, by rintro condition ⟨⟩⟩
  retryPolicy := ⟨⟨by decide, by decide⟩, by rintro category ⟨⟩⟩
  failurePolicy := by decide
  postcondition := by
    rintro condition ⟨⟩
  maxExecutions := ⟨by decide, by decide⟩
  action := ⟨⟨by decide, by decide, by decide⟩, by decide⟩

theorem plan_ok : plan.Ok profile where
  planId := ⟨by decide, by decide, by decide⟩
  approvalReason := ⟨by decide, by decide, by decide⟩
  few := by decide
  distinct := List.nodup_singleton _
  steps := List.forall_mem_singleton.2 step_ok

theorem profile_read : validateInteractionProfile (some profile.toValue) = .ok profile :=
  resultOf_ok.2 (quiet_profileShape profile_ok)

theorem given_read : validateInteractionPlan given profile = .ok plan := by
  have hstep : Quiet (validateStep profile 0 [] (step.write none)) (some step.stepId, some step) :=
    quiet_validateStep step_ok (fun n hn => (nomatch hn)) rfl List.not_mem_nil
  have hsteps : Quiet (validateSteps profile 0 [] [step.write none]) plan.steps :=
    quiet_bind.2 ⟨_, hstep, quiet_bind.2 ⟨[], quiet_pure.2 rfl, quiet_pure.2 rfl⟩⟩
  exact resultOf_ok.2 (quiet_planShape plan_ok rfl hsteps)

end Sample

/-- **A plan that is accepted is refused when it is read again**: its step was given the duration of
the profile, which is none. -/
theorem plan_refused : ∃ profile plan p r, validateInteractionProfile profile = .ok p ∧
    validateInteractionPlan plan p = .ok r ∧ ¬ReadAgain plan p r := by
  refine ⟨_, Sample.given, _, _, Sample.profile_read, Sample.given_read, fun h => ?_⟩
  have htimes : ∀ s ∈ Sample.plan.steps, TimeoutOk Sample.profile s.timeoutMs :=
    (planShape_again Sample.profile_ok Sample.plan_ok).1 (resultOf_ok.1 h.again)
  obtain ⟨hlow, -⟩ := htimes Sample.step (List.mem_singleton_self _)
  exact absurd hlow (by decide)

theorem read_again_iff_sample :
    ReadAgain Sample.given Sample.profile Sample.plan ↔
      memberOf (some Sample.profile.toValue) "maxInteractionDurationMs" ≠ some (int 0) ∨
        memberOf Sample.given "steps" = some (.array []) :=
  read_again_iff Sample.profile_read Sample.given_read

end OfflineWebArchiver.Interaction
