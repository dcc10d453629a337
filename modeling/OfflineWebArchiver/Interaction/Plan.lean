import OfflineWebArchiver.Interaction.Profile

/-!
# Interaction plans

`validateInteractionPlan`: the steps of a plan, read under a profile.

* `InteractionStep.Ok`: a step within the limits of the profile.
* `validateSteps_ok`: every step that is read is one, and there is one for each element of the array.
* `quiet_validateSteps`: steps within the limits are read as themselves, when their time limits are.
-/

namespace OfflineWebArchiver.Interaction

open ProxyManager (JsValue Unknown field isAlnumUnit)
open Collect (Quiet report reportIf quiet_pure quiet_bind quiet_reportIf collectFrom)

inductive InteractionFailureCategory
  | validation | budget | timeout | cancellation | pause | browser | security | target | policy | unknown
deriving DecidableEq

def InteractionFailureCategory.text : InteractionFailureCategory → String
  | .validation => "validation"
  | .budget => "budget"
  | .timeout => "timeout"
  | .cancellation => "cancellation"
  | .pause => "pause"
  | .browser => "browser"
  | .security => "security"
  | .target => "target"
  | .policy => "policy"
  | .unknown => "unknown"

structure InteractionRetryPolicy where
  maxAttempts : ℤ
  retryableCategories : List InteractionFailureCategory

/-- `InteractionPrecondition` and `InteractionPostcondition`. The kind of a condition on an element is
kept as it is given. -/
inductive InteractionCondition
  /-- `url-origin` -/
  | origin (value : Text)
  /-- `dom-change`, `route-change` -/
  | change (kind : JsValue)
  | element (kind : JsValue) (target : InteractionTargetDescriptor)

inductive InteractionSideEffect
  | readOnly | navigation
deriving DecidableEq

def InteractionSideEffect.text : InteractionSideEffect → String
  | .readOnly => "read-only"
  | .navigation => "navigation"

inductive InteractionTracePolicy
  | metadata | none
deriving DecidableEq

def InteractionTracePolicy.text : InteractionTracePolicy → String
  | .metadata => "metadata"
  | .none => "none"

inductive TextCategory
  | nonSensitive | ephemeral
deriving DecidableEq

def TextCategory.text : TextCategory → String
  | .nonSensitive => "non-sensitive"
  | .ephemeral => "ephemeral"

inductive TabDirection
  | forward | backward
deriving DecidableEq

def TabDirection.text : TabDirection → String
  | .forward => "forward"
  | .backward => "backward"

inductive ScrollDirection
  | down | up
deriving DecidableEq

def ScrollDirection.text : ScrollDirection → String
  | .down => "down"
  | .up => "up"

structure InteractionStepBase where
  stepId : Text
  timeoutMs : ℤ
  preconditions : List InteractionCondition
  retryPolicy : InteractionRetryPolicy
  /-- `stop`, `skip` or `retry`, as it is given. -/
  failurePolicy : JsValue
  postcondition : Option InteractionCondition
  sideEffect : InteractionSideEffect
  tracePolicy : InteractionTracePolicy
  maxExecutions : ℤ

/-- What the type of a step adds. -/
inductive InteractionAction
  /-- `focus`, `hover`, and a value that is not a string but has the text of a type with a target. -/
  | point (stepType : JsValue) (target : InteractionTargetDescriptor)
  | click (target : InteractionTargetDescriptor) (button clickCount : Unknown)
  | waitForState (target : InteractionTargetDescriptor) (state : JsValue)
  | mouseMove (x y : ℤ) (durationMs : Option ℤ)
  | typeText (target : InteractionTargetDescriptor) (text : Text) (textCategory : TextCategory)
  | pressKey (key : Text)
  | tabNavigation (direction : TabDirection) (steps : ℤ)
  | incrementalScroll (direction : ScrollDirection) (distancePx steps : ℤ)
  | cookieBanner (ruleId : Text)

structure InteractionStep extends InteractionStepBase where
  action : InteractionAction

/-- An approved plan. -/
structure InteractionPlan where
  planId : Text
  approvalReason : Text
  steps : List InteractionStep

/-! ### Reading a plan -/

/-- A value whose text is one of the names. -/
def approved (names : List String) (value : Unknown) : Option JsValue :=
  value.filter fun value => includesString names (some value)

def retryableCategory? (value : Unknown) : Option InteractionFailureCategory :=
  member? [("timeout", .timeout), ("browser", .browser), ("target", .target), ("unknown", .unknown)] value

/-- `validateRetryPolicy(value, path, errors)`. -/
def validateRetryPolicy (value : Unknown) (path : Path) : Validate InteractionRetryPolicy :=
  match value with
  | some (.object fields) => do
    let maxAttempts ← boundedInteger (field fields "maxAttempts") (path.at "maxAttempts") 1 3 true
    let retryableCategories := match field fields "retryableCategories" with
      | some (.array items) => items.filterMap fun item => retryableCategory? (some item)
      | _ => []
    return ⟨maxAttempts.getD 1, retryableCategories⟩
  | _ => return ⟨1, []⟩

def preconditionKinds : List String := ["visible", "enabled", "attached", "focused", "url-origin"]

/-- One of the preconditions. -/
def validatePrecondition (path : Path) (maximum : ℤ) (index : ℕ) (raw : JsValue) :
    Validate (Option InteractionCondition) :=
  let path := path.nth index
  let invalid := refuse "INTERACTION_PRECONDITION_INVALID" path "Precondition is invalid."
  match raw with
  | .object fields =>
    match approved preconditionKinds (field fields "kind") with
    | none => invalid
    | some kind =>
      if isLiteral (some kind) "url-origin" then do
        let value ← boundedString (field fields "value") (path.at "value") maximum true
        return value.map .origin
      else do
        let target ← validateTarget (field fields "target") (path.at "target") maximum
        return target.map (.element kind)
  | _ => invalid

/-- `validatePreconditions(value, path, errors, maxTarget)`. -/
def validatePreconditions (value : Unknown) (path : Path) (maximum : ℤ) : Validate (List InteractionCondition) :=
  let invalid : Validate (List InteractionCondition) := do
    report ⟨"INTERACTION_PRECONDITIONS_INVALID", path, "Preconditions must be a bounded array."⟩
    return []
  match value with
  | none => return []
  | some (.array items) =>
    if 10 < items.length then invalid else collectFrom (validatePrecondition path maximum) 0 items
  | _ => invalid

def postconditionKinds : List String :=
  ["visible", "hidden", "enabled", "focused", "url-origin", "dom-change", "route-change"]

/-- `validatePostcondition(value, path, errors, maxTarget)`. -/
def validatePostcondition (value : Unknown) (path : Path) (maximum : ℤ) : Validate (Option InteractionCondition) :=
  let invalid := refuse "INTERACTION_POSTCONDITION_INVALID" path "Postcondition is invalid."
  match value with
  | some (.object fields) =>
    match approved postconditionKinds (field fields "kind") with
    | none => invalid
    | some kind =>
      if isLiteral (some kind) "url-origin" then do
        let value ← boundedString (field fields "value") (path.at "value") maximum true
        return value.map .origin
      else if isLiteral (some kind) "dom-change" || isLiteral (some kind) "route-change" then return some (.change kind)
      else do
        let target ← validateTarget (field fields "target") (path.at "target") maximum
        return target.map (.element kind)
  | _ => invalid

/-- An optional postcondition. -/
def validateOptionalPostcondition (value : Unknown) (path : Path) (maximum : ℤ) :
    Validate (Option InteractionCondition) :=
  match value with
  | none => return none
  | some value => validatePostcondition (some value) path maximum

/-- `isSafeInteractionKey(value)`. -/
def isSafeInteractionKey (value : Text) : Bool :=
  let key := value.map lowerUnit
  (["tab", "shift+tab", "enter", "escape", "space", "backspace", "delete", "home", "end", "pageup", "pagedown",
    "arrowup", "arrowdown", "arrowleft", "arrowright"].any fun name => key == asciiUnits name) ||
  ["control+", "alt+", "meta+"].any fun modifier =>
    (asciiUnits modifier).isPrefixOf key &&
      match key.drop modifier.length with
      | [c] => isAlnumUnit c
      | _ => false

/-- `selectCookieBannerRule(rules, ruleId)`. -/
def selectCookieBannerRule (rules : List CookieBannerRule) (ruleId : Text) : Option CookieBannerRule :=
  rules.find? fun rule => rule.ruleId == ruleId

def sideEffect? (value : Unknown) : Option InteractionSideEffect :=
  member? [("read-only", .readOnly), ("navigation", .navigation)] value

def tabDirection? (value : Unknown) : Option TabDirection :=
  member? [("forward", .forward), ("backward", .backward)] value

/-- The direction, `down` where there is none. -/
def scrollDirection? (value : Unknown) : Option ScrollDirection :=
  match value with
  | none => some .down
  | some value => member? [("down", .down), ("up", .up)] (some value)

section Actions

variable (p : InteractionProfile) (fields : List (Text × JsValue)) (path : Path)

def validateClick (target : InteractionTargetDescriptor) : Validate (Option InteractionAction) := do
  let button := field fields "button"
  let clickCount := field fields "clickCount"
  reportIf (button.isSome ∧ !includesString ["left", "middle", "right"] button)
    ⟨"INTERACTION_BUTTON_INVALID", path.at "button", "Mouse button is invalid."⟩
  reportIf (clickCount.isSome ∧ !isNumber clickCount 1 ∧ !isNumber clickCount 2)
    ⟨"INTERACTION_CLICK_COUNT_INVALID", path.at "clickCount", "Click count is invalid."⟩
  return some (.click target button clickCount)

def validateWaitForState (target : InteractionTargetDescriptor) : Validate (Option InteractionAction) :=
  match approved ["visible", "hidden", "attached", "detached"] (field fields "state") with
  | none => refuse "INTERACTION_STATE_INVALID" (path.at "state") "Wait state is invalid."
  | some state => return some (.waitForState target state)

def validateMouseMove : Validate (Option InteractionAction) := do
  let x ← boundedInteger (field fields "x") (path.at "x") 0 16384 true
  let y ← boundedInteger (field fields "y") (path.at "y") 0 16384 true
  let durationMs ← boundedInteger (field fields "durationMs") (path.at "durationMs") 0 5000 false
  return do some (.mouseMove (← x) (← y) durationMs)

def validateTypeText : Validate (Option InteractionAction) := do
  let target ← validateTarget (field fields "target") (path.at "target") p.maxTargetLength
  let text ← boundedString (field fields "text") (path.at "text") p.maxTypedTextLength true
  reportIf (text.any fun text => p.maxTypedTextLength < text.length)
    ⟨"INTERACTION_TEXT_LIMIT", path.at "text", "Typed text exceeds the profile limit."⟩
  let textCategory := if isLiteral (field fields "textCategory") "ephemeral" then .ephemeral else .nonSensitive
  return do some (.typeText (← target) (← text) textCategory)

def validatePressKey : Validate (Option InteractionAction) := do
  let key ← boundedString (field fields "key") (path.at "key") 40 true
  reportIf (key.any fun key => !isSafeInteractionKey key)
    ⟨"INTERACTION_KEY_INVALID", path.at "key", "The key or key combination is not approved."⟩
  return (key.filter isSafeInteractionKey).map .pressKey

def validateTabNavigation : Validate (Option InteractionAction) := do
  let steps ← boundedInteger (field fields "steps") (path.at "steps") 1 (min p.maxTabSteps 100) false
  let tabSteps := steps.getD 1
  reportIf (p.maxTabSteps < tabSteps)
    ⟨"INTERACTION_TAB_LIMIT", path.at "steps", "Tab navigation exceeds the profile limit."⟩
  match tabDirection? (field fields "direction") with
  | none => refuse "INTERACTION_TAB_DIRECTION_INVALID" (path.at "direction") "Tab direction is invalid."
  | some direction => return some (.tabNavigation direction tabSteps)

def validateIncrementalScroll : Validate (Option InteractionAction) := do
  let distance ← boundedInteger (field fields "distancePx") (path.at "distancePx") 0 p.maxScrollDistancePx false
  let distancePx := distance.getD p.scrollStep.max
  let steps ← boundedInteger (field fields "steps") (path.at "steps") 1 (min p.maxScrollSteps 100) false
  let scrollSteps := steps.getD 1
  reportIf (p.incrementalScroll = false)
    ⟨"INTERACTION_SCROLL_DISABLED", path, "Incremental scrolling is disabled by the profile."⟩
  reportIf (p.maxScrollDistancePx < distancePx)
    ⟨"INTERACTION_SCROLL_DISTANCE_LIMIT", path.at "distancePx", "Scroll distance exceeds the profile limit."⟩
  reportIf (p.maxScrollSteps < scrollSteps)
    ⟨"INTERACTION_SCROLL_LIMIT", path.at "steps", "Scroll steps exceed the profile limit."⟩
  match scrollDirection? (field fields "direction") with
  | none => refuse "INTERACTION_SCROLL_DIRECTION_INVALID" (path.at "direction") "Scroll direction is invalid."
  | some direction => return some (.incrementalScroll direction distancePx scrollSteps)

def validateCookieBanner : Validate (Option InteractionAction) := do
  let ruleId ← boundedString (field fields "ruleId") (path.at "ruleId") 80 true
  match ruleId with
  | none => return none
  | some ruleId =>
    match selectCookieBannerRule p.cookieBannerRules ruleId with
    | none =>
      refuse "INTERACTION_COOKIE_RULE_NOT_FOUND" (path.at "ruleId") "The Cookie Banner rule is not explicitly configured."
    | some _ => return some (.cookieBanner ruleId)

/-- The types of steps that have a target. -/
def pointTypes : List String := ["focus", "click", "hover", "wait_for_state"]

/-- The part of a step that its type adds. -/
def validateAction (stepType : JsValue) : Validate (Option InteractionAction) :=
  if includesString pointTypes (some stepType) then do
    let target ← validateTarget (field fields "target") (path.at "target") p.maxTargetLength
    match target with
    | none => return none
    | some target =>
      if isLiteral (some stepType) "wait_for_state" then validateWaitForState fields path target
      else if isLiteral (some stepType) "click" then validateClick fields path target
      else return some (.point stepType target)
  else if isLiteral (some stepType) "mouse_move" then validateMouseMove fields path
  else if isLiteral (some stepType) "type_text" then validateTypeText p fields path
  else if isLiteral (some stepType) "press_key" then validatePressKey fields path
  else if isLiteral (some stepType) "tab_navigation" then validateTabNavigation p fields path
  else if isLiteral (some stepType) "incremental_scroll" then validateIncrementalScroll p fields path
  -- also for a value that is not a string but has the text of one of the five types
  else validateCookieBanner p fields path

def stepTypes : List String :=
  ["focus", "click", "hover", "mouse_move", "type_text", "press_key", "tab_navigation", "incremental_scroll",
    "wait_for_state", "cookie_banner"]

/-- A step with the given identifier, from the check of its type on. -/
def validateStepBody (index : ℕ) (stepId : Option Text) : Validate (Option InteractionStep) :=
  match approved stepTypes (field fields "stepType") with
  | none => refuse "INTERACTION_STEP_TYPE_INVALID" (path.at "stepType") "The step type is not approved."
  | some stepType => do
    let timeout ← boundedInteger (field fields "timeoutMs") (path.at "timeoutMs") 1
      (min p.maxInteractionDurationMs 120000) false
    let timeoutMs := timeout.getD (min 30000 p.maxInteractionDurationMs)
    let sideEffect := sideEffect? (field fields "sideEffect")
    reportIf (sideEffect = none)
      ⟨"INTERACTION_SIDE_EFFECT_INVALID", path.at "sideEffect", "Only read-only or navigation side effects are allowed."⟩
    let failurePolicy := (approved ["stop", "skip", "retry"] (field fields "failurePolicy")).getD (literal "stop")
    let tracePolicy := if isLiteral (field fields "tracePolicy") "none" then .none else .metadata
    let executions ← boundedInteger (field fields "maxExecutions") (path.at "maxExecutions") 1 3 false
    let postcondition ← validateOptionalPostcondition (field fields "postcondition") (path.at "postcondition")
      p.maxTargetLength
    let preconditions ← validatePreconditions (field fields "preconditions") (path.at "preconditions") p.maxTargetLength
    let retryPolicy ← validateRetryPolicy (field fields "retryPolicy") (path.at "retryPolicy")
    let action ← validateAction p fields path stepType
    return action.map fun action =>
      { stepId := stepId.getD (asciiUnits ("invalid-" ++ toString index)), timeoutMs, preconditions, retryPolicy
        failurePolicy, postcondition
        -- a plan with an issue is dropped
        sideEffect := sideEffect.getD .readOnly
        tracePolicy, maxExecutions := executions.getD 1, action }

end Actions

/-- The element at an index of `steps`, after elements with the identifiers `seen`: its own identifier,
and the step. -/
def validateStep (p : InteractionProfile) (index : ℕ) (seen : List Text) (raw : JsValue) :
    Validate (Option Text × Option InteractionStep) :=
  let path := Path.nth (asciiUnits "steps") index
  match raw with
  | .object fields => do
    let stepId ← boundedString (field fields "stepId") (path.at "stepId") 80 true
    reportIf (stepId.any seen.contains)
      ⟨"INTERACTION_STEP_DUPLICATE", path.at "stepId", "Step identifiers must be unique."⟩
    let step ← validateStepBody p fields path index stepId
    return (stepId, step)
  | _ => do
    report ⟨"INTERACTION_STEP_INVALID", path, "Interaction step is invalid."⟩
    return (none, none)

/-- The loop over `steps`. -/
def validateSteps (p : InteractionProfile) : ℕ → List Text → List JsValue → Validate (List InteractionStep)
  | _, _, [] => pure []
  | index, seen, raw :: rest => do
    let (stepId, step) ← validateStep p index seen raw
    let steps ← validateSteps p (index + 1) (stepId.toList ++ seen) rest
    return step.toList ++ steps

/-- `value.steps`, where it is an array. -/
def stepItems (value : List (Text × JsValue)) : Option (List JsValue) :=
  match field value "steps" with
  | some (.array items) => some items
  | _ => none

/-- `validateInteractionPlan(value, profile)`, on an object. -/
def planShape (p : InteractionProfile) (value : List (Text × JsValue)) : Validate (Option InteractionPlan) := do
  reportIf (!isNumber (field value "schemaVersion") 1)
    (issue "INTERACTION_PLAN_VERSION_UNSUPPORTED" "schemaVersion" "The interaction plan schema version is unsupported.")
  let planId ← boundedString (field value "planId") (asciiUnits "planId") 128 true
  let approvalReason ← boundedString (field value "approvalReason") (asciiUnits "approvalReason") 256 true
  reportIf (boolean? (field value "approved") ≠ some true)
    (issue "INTERACTION_PLAN_NOT_APPROVED" "approved" "Only explicitly approved interaction plans may execute.")
  let items := stepItems value
  reportIf (items.all fun items => min p.maxActionsPerPage 500 < items.length)
    (issue "INTERACTION_PLAN_STEPS_INVALID" "steps" "The interaction plan exceeds its configured action bound.")
  let steps ← validateSteps p 0 [] (items.getD [])
  return do some { planId := ← planId, approvalReason := ← approvalReason, steps }

/-- `validateInteractionPlan(value, profile)`. -/
def validateInteractionPlan (value : Unknown) (p : InteractionProfile) :
    Except (List InteractionValidationIssue) InteractionPlan :=
  match value with
  | some (.object fields) => resultOf (planShape p fields)
  | _ => .error [issue "INTERACTION_PLAN_INVALID" "plan" "An interaction plan object is required."]

/-! ### Writing a plan -/

def InteractionRetryPolicy.entries (policy : InteractionRetryPolicy) : List (String × Unknown) :=
  [("maxAttempts", int policy.maxAttempts),
    ("retryableCategories", JsValue.array (policy.retryableCategories.map fun category => literal category.text))]

def InteractionCondition.entries : InteractionCondition → List (String × Unknown)
  | .origin value => [("kind", literal "url-origin"), ("value", JsValue.text value)]
  | .change kind => [("kind", kind)]
  | .element kind target => [("kind", kind), ("target", target.toValue)]

def InteractionCondition.toValue (condition : InteractionCondition) : JsValue := .object (record condition.entries)

/-- The fields of a step with this time limit, if one is given. -/
def InteractionStepBase.entries (s : InteractionStepBase) (timeout : Option ℤ) : List (String × Unknown) :=
  [("stepId", JsValue.text s.stepId), ("timeoutMs", timeout.map int),
    ("preconditions", JsValue.array (s.preconditions.map (·.toValue))),
    ("retryPolicy", JsValue.object (record s.retryPolicy.entries)), ("failurePolicy", s.failurePolicy),
    ("postcondition", s.postcondition.map (·.toValue)), ("sideEffect", literal s.sideEffect.text),
    ("tracePolicy", literal s.tracePolicy.text), ("maxExecutions", int s.maxExecutions)]

def InteractionAction.entries : InteractionAction → List (String × Unknown)
  | .point stepType target => [("stepType", stepType), ("target", target.toValue)]
  | .click target button clickCount =>
    [("stepType", literal "click"), ("target", target.toValue), ("button", button), ("clickCount", clickCount)]
  | .waitForState target state => [("stepType", literal "wait_for_state"), ("target", target.toValue), ("state", state)]
  | .mouseMove x y durationMs =>
    [("stepType", literal "mouse_move"), ("x", int x), ("y", int y), ("durationMs", durationMs.map int)]
  | .typeText target text textCategory =>
    [("stepType", literal "type_text"), ("target", target.toValue), ("text", JsValue.text text),
      ("textCategory", literal textCategory.text)]
  | .pressKey key => [("stepType", literal "press_key"), ("key", JsValue.text key)]
  | .tabNavigation direction steps =>
    [("stepType", literal "tab_navigation"), ("direction", literal direction.text), ("steps", int steps)]
  | .incrementalScroll direction distancePx steps =>
    [("stepType", literal "incremental_scroll"), ("direction", literal direction.text), ("distancePx", int distancePx),
      ("steps", int steps)]
  | .cookieBanner ruleId => [("stepType", literal "cookie_banner"), ("ruleId", JsValue.text ruleId)]

def InteractionStep.entries (s : InteractionStep) (timeout : Option ℤ) : List (String × Unknown) :=
  s.toInteractionStepBase.entries timeout ++ s.action.entries

/-- The step as a value, with this time limit. -/
def InteractionStep.write (s : InteractionStep) (timeout : Option ℤ) : JsValue := .object (record (s.entries timeout))

def InteractionStep.toValue (s : InteractionStep) : JsValue := s.write (some s.timeoutMs)

/-- The fields of a plan with these elements as its steps. -/
def InteractionPlan.entries (r : InteractionPlan) (items : List JsValue) : List (String × Unknown) :=
  [("schemaVersion", int 1), ("planId", JsValue.text r.planId), ("approved", JsValue.bool true),
    ("approvalReason", JsValue.text r.approvalReason), ("steps", JsValue.array items)]

/-- The plan as a value. -/
def InteractionPlan.toValue (r : InteractionPlan) : JsValue := .object (record (r.entries (r.steps.map (·.toValue))))

/-! ### Steps within the limits -/

def InteractionRetryPolicy.Ok (policy : InteractionRetryPolicy) : Prop :=
  Between 1 3 policy.maxAttempts ∧ ∀ category ∈ policy.retryableCategories,
    retryableCategory? (literal category.text) = some category

/-- A precondition that is read as itself. -/
def InteractionCondition.PreOk (maximum : ℤ) : InteractionCondition → Prop
  | .origin value => Bounded maximum value
  | .change _ => False
  | .element kind target => includesString preconditionKinds (some kind) = true ∧
    isLiteral (some kind) "url-origin" = false ∧ TargetOk maximum target

/-- A postcondition that is read as itself. -/
def InteractionCondition.PostOk (maximum : ℤ) : InteractionCondition → Prop
  | .origin value => Bounded maximum value
  | .change kind => kind = literal "dom-change" ∨ kind = literal "route-change"
  | .element kind target => includesString postconditionKinds (some kind) = true ∧
    isLiteral (some kind) "url-origin" = false ∧
    (isLiteral (some kind) "dom-change" || isLiteral (some kind) "route-change") = false ∧ TargetOk maximum target

/-- An action that is read as itself under the profile. -/
def InteractionAction.Ok (p : InteractionProfile) : InteractionAction → Prop
  | .point stepType target => includesString pointTypes (some stepType) = true ∧
    isLiteral (some stepType) "wait_for_state" = false ∧ isLiteral (some stepType) "click" = false ∧
    TargetOk p.maxTargetLength target
  | .click target button clickCount => TargetOk p.maxTargetLength target ∧
    ¬(button.isSome ∧ (!includesString ["left", "middle", "right"] button) = true) ∧
    ¬(clickCount.isSome ∧ (!isNumber clickCount 1) = true ∧ (!isNumber clickCount 2) = true)
  | .waitForState target state => TargetOk p.maxTargetLength target ∧
    includesString ["visible", "hidden", "attached", "detached"] (some state) = true
  | .mouseMove x y durationMs => Between 0 16384 x ∧ Between 0 16384 y ∧ ∀ n, durationMs = some n → Between 0 5000 n
  | .typeText target text _ => TargetOk p.maxTargetLength target ∧ Bounded p.maxTypedTextLength text
  | .pressKey key => Bounded 40 key ∧ isSafeInteractionKey key = true
  | .tabNavigation _ steps => Between 1 (min p.maxTabSteps 100) steps
  | .incrementalScroll _ distancePx steps => p.incrementalScroll = true ∧ Between 0 p.maxScrollDistancePx distancePx ∧
    Between 1 (min p.maxScrollSteps 100) steps
  | .cookieBanner ruleId => Bounded 80 ruleId ∧ (selectCookieBannerRule p.cookieBannerRules ruleId).isSome

/-- **A step within the limits of the profile**, its time limit apart. -/
structure InteractionStep.Ok (p : InteractionProfile) (s : InteractionStep) : Prop where
  stepId : Bounded 80 s.stepId
  preconditions : s.preconditions.length ≤ 10 ∧ ∀ condition ∈ s.preconditions, condition.PreOk p.maxTargetLength
  retryPolicy : s.retryPolicy.Ok
  failurePolicy : includesString ["stop", "skip", "retry"] (some s.failurePolicy) = true
  postcondition : ∀ condition, s.postcondition = some condition → condition.PostOk p.maxTargetLength
  maxExecutions : Between 1 3 s.maxExecutions
  action : s.action.Ok p

/-- The time limits that a step may be given. -/
def TimeoutOk (p : InteractionProfile) (timeoutMs : ℤ) : Prop :=
  Between 1 (min p.maxInteractionDurationMs 120000) timeoutMs

/-! ### What is read -/

section Reading

variable {value : Unknown} {path : Path} {maximum : ℤ} {names : List String} {kind : JsValue}

theorem approved_eq_some : approved names value = some kind ↔
    value = some kind ∧ includesString names (some kind) = true := by
  unfold approved
  rw [Option.filter_eq_some_iff]

theorem includesString_mono {others : List String} (h : names ⊆ others)
    (hin : includesString names value = true) : includesString others value = true := by
  unfold includesString at *
  split at hin
  · cases hin
  · rw [List.any_eq_true] at *
    obtain ⟨name, hname, heq⟩ := hin
    exact ⟨name, h hname, heq⟩

/-- An optional integer is read as itself. -/
theorem quiet_optionalInteger {low high : ℤ} {n : Option ℤ} (h : ∀ m, n = some m → Between low high m) :
    Quiet (boundedInteger (n.map int) path low high false) n :=
  quiet_boundedInteger.2 ⟨rfl, fun _ => rfl, h⟩

theorem of_retryableCategory? {category : InteractionFailureCategory} (h : retryableCategory? value = some category) :
    value = some (literal category.text) := of_member? (by decide) h

theorem validateRetryPolicy_ok {read : InteractionRetryPolicy} (h : Quiet (validateRetryPolicy value path) read) :
    read.Ok := by
  unfold validateRetryPolicy at h
  split at h
  · obtain ⟨_, hattempts, h⟩ := quiet_bind.1 h
    obtain ⟨n, -, rfl, hn⟩ := quiet_requiredInteger.1 hattempts
    rw [← quiet_pure.1 h]
    refine ⟨hn, ?_⟩
    simp only
    split
    · intro category hcategory
      obtain ⟨item, -, hitem⟩ := List.mem_filterMap.1 hcategory
      rw [← of_retryableCategory? hitem, hitem]
    · intro category hcategory
      cases hcategory
  · rw [← quiet_pure.1 h]
    exact ⟨⟨by decide, by decide⟩, fun category hcategory => by cases hcategory⟩

theorem quiet_validateRetryPolicy {policy : InteractionRetryPolicy} (h : policy.Ok) :
    Quiet (validateRetryPolicy (JsValue.object (record policy.entries)) path) policy := by
  have hplain : ∀ entry ∈ policy.entries, Plain entry.1 := plain_cons rfl (plain_cons rfl plain_nil)
  have hdistinct : (policy.entries.map Prod.fst).Nodup := by simp [InteractionRetryPolicy.entries]
  have hattempts := field_of_mem (plain_ofList rfl) hplain hdistinct (.head _)
  have hcategories := field_of_mem (plain_ofList rfl) hplain hdistinct (.tail _ (.head _))
  have hread : (policy.retryableCategories.map fun category => literal category.text).filterMap
      (fun item => retryableCategory? (some item)) = policy.retryableCategories := by
    rw [List.filterMap_map]
    refine (List.filterMap_congr fun category hcategory => ?_).trans List.filterMap_some
    exact h.2 category hcategory
  unfold validateRetryPolicy
  simp only [hcategories, hread]
  exact quiet_bind.2 ⟨_, quiet_requiredInteger.2 ⟨_, hattempts, rfl, h.1⟩, quiet_pure.2 rfl⟩

theorem plain_condition (condition : InteractionCondition) : ∀ entry ∈ condition.entries, Plain entry.1 := by
  cases condition <;> repeat' first | exact plain_nil | refine plain_cons rfl ?_

theorem InteractionCondition.field {condition : InteractionCondition} {key : String} (hkey : Plain key)
    (h : (key, value) ∈ condition.entries) : ProxyManager.field (record condition.entries) key = value := by
  refine field_of_mem hkey (plain_condition condition) ?_ h
  cases condition <;> simp [InteractionCondition.entries]

theorem validatePrecondition_ok {index : ℕ} {raw : JsValue} {read : Option InteractionCondition}
    (h : Quiet (validatePrecondition path maximum index raw) read) : ∃ c, read = some c ∧ c.PreOk maximum := by
  unfold validatePrecondition at h
  simp only at h
  split at h
  · split at h
    · exact absurd h not_quiet_refuse
    · rename_i kind hkind
      split_ifs at h with horigin
      · obtain ⟨_, hvalue, h⟩ := quiet_bind.1 h
        obtain ⟨t, -, rfl, ht⟩ := quiet_requiredString.1 hvalue
        exact ⟨.origin t, (quiet_pure.1 h).symm, ht⟩
      · obtain ⟨_, htarget, h⟩ := quiet_bind.1 h
        obtain ⟨target, rfl, htarget'⟩ := validateTarget_ok htarget
        exact ⟨.element kind target, (quiet_pure.1 h).symm, (approved_eq_some.1 hkind).2, Bool.eq_false_iff.2 horigin,
          htarget'⟩
  · exact absurd h not_quiet_refuse

theorem quiet_validatePrecondition {index : ℕ} {condition : InteractionCondition} (h : condition.PreOk maximum) :
    Quiet (validatePrecondition path maximum index condition.toValue) (some condition) := by
  cases condition with
  | origin value =>
    have hkind := (InteractionCondition.origin value).field (plain_ofList rfl) (.head _)
    have hvalue := (InteractionCondition.origin value).field (plain_ofList rfl) (.tail _ (.head _))
    have hin : approved preconditionKinds (some (literal "url-origin")) = some (literal "url-origin") :=
      approved_eq_some.2 ⟨rfl, by decide⟩
    unfold validatePrecondition InteractionCondition.toValue
    simp only [hkind, hin, isLiteral_iff.2 rfl, if_true]
    exact quiet_bind.2 ⟨_, quiet_requiredString.2 ⟨_, hvalue, rfl, h⟩, quiet_pure.2 rfl⟩
  | change kind => exact h.elim
  | element kind target =>
    have hkind := (InteractionCondition.element kind target).field (plain_ofList rfl) (.head _)
    have htarget := (InteractionCondition.element kind target).field (plain_ofList rfl) (.tail _ (.head _))
    obtain ⟨hin, horigin, htarget'⟩ := h
    unfold validatePrecondition InteractionCondition.toValue
    simp only [hkind, approved_eq_some.2 ⟨rfl, hin⟩, horigin]
    refine quiet_bind.2 ⟨some target, ?_, quiet_pure.2 rfl⟩
    rw [htarget]
    exact validateTarget_toValue htarget'

theorem validatePreconditions_ok {read : List InteractionCondition}
    (h : Quiet (validatePreconditions value path maximum) read) :
    read.length ≤ 10 ∧ ∀ condition ∈ read, condition.PreOk maximum := by
  unfold validatePreconditions at h
  simp only at h
  split at h
  · rw [← quiet_pure.1 h]
    exact ⟨by decide, fun condition hcondition => by cases hcondition⟩
  · rename_i items
    split_ifs at h with hfew
    · exact absurd h Collect.not_quiet_report_bind
    · have hitems : List.Forall₂ (fun _ condition => condition.PreOk maximum) items read := by
        refine Collect.of_quiet_collectFrom ?_ h
        exact fun _ _ _ hread => validatePrecondition_ok hread
      rw [← hitems.length_eq]
      exact ⟨by omega, Collect.forall_of_forall₂ hitems⟩
  · exact absurd h Collect.not_quiet_report_bind

theorem quiet_validatePreconditions {conditions : List InteractionCondition} (hfew : conditions.length ≤ 10)
    (h : ∀ condition ∈ conditions, condition.PreOk maximum) :
    Quiet (validatePreconditions (JsValue.array (conditions.map (·.toValue))) path maximum) conditions := by
  unfold validatePreconditions
  simp only
  rw [if_neg (by rw [List.length_map]; omega)]
  exact Collect.quiet_collectFrom_map fun _ condition hcondition => quiet_validatePrecondition (h condition hcondition)

theorem validatePostcondition_ok {read : Option InteractionCondition}
    (h : Quiet (validatePostcondition value path maximum) read) : ∃ c, read = some c ∧ c.PostOk maximum := by
  unfold validatePostcondition at h
  simp only at h
  split at h
  · split at h
    · exact absurd h not_quiet_refuse
    · rename_i kind hkind
      split_ifs at h with horigin hchange
      · obtain ⟨_, hvalue, h⟩ := quiet_bind.1 h
        obtain ⟨t, -, rfl, ht⟩ := quiet_requiredString.1 hvalue
        exact ⟨.origin t, (quiet_pure.1 h).symm, ht⟩
      · refine ⟨.change kind, (quiet_pure.1 h).symm, ?_⟩
        rw [Bool.or_eq_true] at hchange
        exact hchange.imp (fun h => Option.some.inj (isLiteral_iff.1 h)) fun h => Option.some.inj (isLiteral_iff.1 h)
      · obtain ⟨_, htarget, h⟩ := quiet_bind.1 h
        obtain ⟨target, rfl, htarget'⟩ := validateTarget_ok htarget
        exact ⟨.element kind target, (quiet_pure.1 h).symm, (approved_eq_some.1 hkind).2, Bool.eq_false_iff.2 horigin,
          Bool.eq_false_iff.2 hchange, htarget'⟩
  · exact absurd h not_quiet_refuse

theorem quiet_validatePostcondition {condition : InteractionCondition} (h : condition.PostOk maximum) :
    Quiet (validatePostcondition (some condition.toValue) path maximum) (some condition) := by
  cases condition with
  | origin value =>
    have hkind := (InteractionCondition.origin value).field (plain_ofList rfl) (.head _)
    have hvalue := (InteractionCondition.origin value).field (plain_ofList rfl) (.tail _ (.head _))
    have hin : approved postconditionKinds (some (literal "url-origin")) = some (literal "url-origin") :=
      approved_eq_some.2 ⟨rfl, by decide⟩
    unfold validatePostcondition InteractionCondition.toValue
    simp only [hkind, hin, isLiteral_iff.2 rfl, if_true]
    exact quiet_bind.2 ⟨_, quiet_requiredString.2 ⟨_, hvalue, rfl, h⟩, quiet_pure.2 rfl⟩
  | change kind =>
    have hkind := (InteractionCondition.change kind).field (plain_ofList rfl) (.head _)
    have hin : approved postconditionKinds (some kind) = some kind := by
      refine approved_eq_some.2 ⟨rfl, ?_⟩
      rcases h with rfl | rfl <;> decide
    have horigin : isLiteral (some kind) "url-origin" = false := by
      rcases h with rfl | rfl <;> decide
    have hchange : (isLiteral (some kind) "dom-change" || isLiteral (some kind) "route-change") = true := by
      rcases h with rfl | rfl <;> decide
    unfold validatePostcondition InteractionCondition.toValue
    simp only [hkind, hin, horigin, hchange, if_true]
    exact quiet_pure.2 rfl
  | element kind target =>
    have hkind := (InteractionCondition.element kind target).field (plain_ofList rfl) (.head _)
    have htarget := (InteractionCondition.element kind target).field (plain_ofList rfl) (.tail _ (.head _))
    obtain ⟨hin, horigin, hchange, htarget'⟩ := h
    unfold validatePostcondition InteractionCondition.toValue
    simp only [hkind, approved_eq_some.2 ⟨rfl, hin⟩, horigin, hchange]
    refine quiet_bind.2 ⟨some target, ?_, quiet_pure.2 rfl⟩
    rw [htarget]
    exact validateTarget_toValue htarget'

theorem validateOptionalPostcondition_ok {read : Option InteractionCondition} {condition : InteractionCondition}
    (h : Quiet (validateOptionalPostcondition value path maximum) read) (hread : read = some condition) :
    condition.PostOk maximum := by
  unfold validateOptionalPostcondition at h
  split at h
  · rw [← quiet_pure.1 h] at hread
    cases hread
  · obtain ⟨_, hfound, hok⟩ := validatePostcondition_ok h
    rw [hread] at hfound
    cases hfound
    exact hok

theorem quiet_validateOptionalPostcondition {condition : Option InteractionCondition}
    (h : ∀ c, condition = some c → c.PostOk maximum) :
    Quiet (validateOptionalPostcondition (condition.map (·.toValue)) path maximum) condition := by
  cases condition with
  | none => exact quiet_pure.2 rfl
  | some c => exact quiet_validatePostcondition (h c rfl)

end Reading

section Actions

variable {p : InteractionProfile} {fields : List (Text × JsValue)} {path : Path} {target : InteractionTargetDescriptor}
  {stepType : JsValue} {read : Option InteractionAction}

theorem validateClick_ok (htarget : TargetOk p.maxTargetLength target) (h : Quiet (validateClick fields path target) read) :
    ∃ a, read = some a ∧ a.Ok p := by
  unfold validateClick at h
  obtain ⟨_, hbutton, h⟩ := quiet_bind.1 h
  obtain ⟨_, hcount, h⟩ := quiet_bind.1 h
  exact ⟨_, (quiet_pure.1 h).symm, htarget, quiet_reportIf.1 hbutton, quiet_reportIf.1 hcount⟩

theorem validateWaitForState_ok (htarget : TargetOk p.maxTargetLength target)
    (h : Quiet (validateWaitForState fields path target) read) : ∃ a, read = some a ∧ a.Ok p := by
  unfold validateWaitForState at h
  split at h
  · exact absurd h not_quiet_refuse
  · rename_i state hstate
    exact ⟨_, (quiet_pure.1 h).symm, htarget, (approved_eq_some.1 hstate).2⟩

theorem validateMouseMove_ok (h : Quiet (validateMouseMove fields path) read) : ∃ a, read = some a ∧ a.Ok p := by
  unfold validateMouseMove at h
  obtain ⟨_, hx, h⟩ := quiet_bind.1 h
  obtain ⟨_, hy, h⟩ := quiet_bind.1 h
  obtain ⟨durationMs, hduration, h⟩ := quiet_bind.1 h
  obtain ⟨x, -, rfl, hx'⟩ := quiet_requiredInteger.1 hx
  obtain ⟨y, -, rfl, hy'⟩ := quiet_requiredInteger.1 hy
  exact ⟨_, (quiet_pure.1 h).symm, hx', hy', (quiet_boundedInteger.1 hduration).2.2⟩

theorem validateTypeText_ok (h : Quiet (validateTypeText p fields path) read) : ∃ a, read = some a ∧ a.Ok p := by
  unfold validateTypeText at h
  obtain ⟨_, htarget, h⟩ := quiet_bind.1 h
  obtain ⟨_, htext, h⟩ := quiet_bind.1 h
  obtain ⟨_, -, h⟩ := quiet_bind.1 h
  obtain ⟨target, rfl, htarget'⟩ := validateTarget_ok htarget
  obtain ⟨text, -, rfl, htext'⟩ := quiet_requiredString.1 htext
  exact ⟨_, (quiet_pure.1 h).symm, htarget', htext'⟩

theorem validatePressKey_ok (h : Quiet (validatePressKey fields path) read) : ∃ a, read = some a ∧ a.Ok p := by
  unfold validatePressKey at h
  obtain ⟨_, hkey, h⟩ := quiet_bind.1 h
  obtain ⟨_, hsafe, h⟩ := quiet_bind.1 h
  obtain ⟨key, -, rfl, hkey'⟩ := quiet_requiredString.1 hkey
  have hsafe' : isSafeInteractionKey key = true := by simpa using quiet_reportIf.1 hsafe
  rw [Option.filter_some, if_pos hsafe'] at h
  exact ⟨_, (quiet_pure.1 h).symm, hkey', hsafe'⟩

/-- The value of an optional number of steps is within the limit, or the default, which is checked. -/
theorem steps_between {value : Unknown} {limit : ℤ} {steps : Option ℤ}
    (h : Quiet (boundedInteger value path 1 (min limit 100) false) steps) (hlimit : ¬limit < steps.getD 1) :
    Between 1 (min limit 100) (steps.getD 1) := by
  cases steps with
  | none =>
    rw [Option.getD_none, not_lt] at hlimit
    exact ⟨le_refl _, le_min hlimit (by decide)⟩
  | some n => exact (quiet_boundedInteger.1 h).2.2 n rfl

theorem validateTabNavigation_ok (h : Quiet (validateTabNavigation p fields path) read) :
    ∃ a, read = some a ∧ a.Ok p := by
  unfold validateTabNavigation at h
  obtain ⟨steps, hsteps, h⟩ := quiet_bind.1 h
  obtain ⟨_, hlimit, h⟩ := quiet_bind.1 h
  split at h
  · exact absurd h not_quiet_refuse
  · exact ⟨_, (quiet_pure.1 h).symm, steps_between hsteps (quiet_reportIf.1 hlimit)⟩

theorem validateIncrementalScroll_ok (hp : p.Ok) (h : Quiet (validateIncrementalScroll p fields path) read) :
    ∃ a, read = some a ∧ a.Ok p := by
  unfold validateIncrementalScroll at h
  obtain ⟨distance, hdistance, h⟩ := quiet_bind.1 h
  obtain ⟨steps, hsteps, h⟩ := quiet_bind.1 h
  obtain ⟨_, henabled, h⟩ := quiet_bind.1 h
  obtain ⟨_, hfar, h⟩ := quiet_bind.1 h
  obtain ⟨_, hlimit, h⟩ := quiet_bind.1 h
  have hlow : 0 ≤ distance.getD p.scrollStep.max := by
    cases distance with
    | none => exact hp.scrollStep.low.trans hp.scrollStep.ordered
    | some n => exact ((quiet_boundedInteger.1 hdistance).2.2 n rfl).1
  split at h
  · exact absurd h not_quiet_refuse
  · exact ⟨_, (quiet_pure.1 h).symm, by simpa using quiet_reportIf.1 henabled,
      ⟨hlow, not_lt.1 (quiet_reportIf.1 hfar)⟩, steps_between hsteps (quiet_reportIf.1 hlimit)⟩

theorem validateCookieBanner_ok (h : Quiet (validateCookieBanner p fields path) read) : ∃ a, read = some a ∧ a.Ok p := by
  unfold validateCookieBanner at h
  obtain ⟨_, hruleId, h⟩ := quiet_bind.1 h
  obtain ⟨ruleId, -, rfl, hruleId'⟩ := quiet_requiredString.1 hruleId
  simp only at h
  split at h
  · exact absurd h not_quiet_refuse
  · rename_i rule hrule
    exact ⟨_, (quiet_pure.1 h).symm, hruleId', by rw [hrule]; rfl⟩

/-- **What is read of an action is within the limits of the profile.** -/
theorem validateAction_ok (hp : p.Ok) (h : Quiet (validateAction p fields path stepType) read) :
    ∃ a, read = some a ∧ a.Ok p := by
  unfold validateAction at h
  by_cases hpoint : includesString pointTypes (some stepType) = true
  · rw [if_pos hpoint] at h
    obtain ⟨_, htarget, h⟩ := quiet_bind.1 h
    obtain ⟨target, rfl, htarget'⟩ := validateTarget_ok htarget
    simp only at h
    split_ifs at h with hwait hclick
    · exact validateWaitForState_ok htarget' h
    · exact validateClick_ok htarget' h
    · exact ⟨_, (quiet_pure.1 h).symm, hpoint, Bool.eq_false_iff.2 hwait, Bool.eq_false_iff.2 hclick, htarget'⟩
  · rw [if_neg hpoint] at h
    split_ifs at h
    · exact validateMouseMove_ok h
    · exact validateTypeText_ok h
    · exact validatePressKey_ok h
    · exact validateTabNavigation_ok h
    · exact validateIncrementalScroll_ok hp h
    · exact validateCookieBanner_ok h

theorem textCategory_read (category : TextCategory) :
    (if isLiteral (literal category.text) "ephemeral" then TextCategory.ephemeral else .nonSensitive) = category := by
  cases category <;> rfl

theorem tabDirection?_text (direction : TabDirection) : tabDirection? (literal direction.text) = some direction := by
  cases direction <;> rfl

theorem scrollDirection?_text (direction : ScrollDirection) :
    scrollDirection? (literal direction.text) = some direction := by
  cases direction <;> rfl

/-- **An action within the limits is read as itself**, from fields that hold it. -/
theorem quiet_validateAction {a : InteractionAction} (h : a.Ok p)
    (hfields : ∀ entry ∈ a.entries, field fields entry.1 = entry.2) :
    ∃ stepType, field fields "stepType" = some stepType ∧ includesString stepTypes (some stepType) = true ∧
      Quiet (validateAction p fields path stepType) (some a) := by
  cases a with
  | point stepType target =>
    obtain ⟨hpoint, hwait, hclick, htarget⟩ := h
    have hfield := hfields _ (.tail _ (.head _))
    refine ⟨stepType, hfields _ (.head _), ?_, ?_⟩
    · refine includesString_mono ?_ hpoint
      decide
    · rw [validateAction, if_pos hpoint]
      refine quiet_bind.2 ⟨some target, ?_, ?_⟩
      · rw [hfield]
        exact validateTarget_toValue htarget
      · simp only [hwait, hclick]
        exact quiet_pure.2 rfl
  | click target button clickCount =>
    obtain ⟨htarget, hbutton, hcount⟩ := h
    have hfield := hfields _ (.tail _ (.head _))
    have hfieldButton := hfields _ (.tail _ (.tail _ (.head _)))
    have hfieldCount := hfields _ (.tail _ (.tail _ (.tail _ (.head _))))
    refine ⟨literal "click", hfields _ (.head _), by decide, ?_⟩
    rw [validateAction, if_pos (by decide)]
    refine quiet_bind.2 ⟨some target, ?_, ?_⟩
    · rw [hfield]
      exact validateTarget_toValue htarget
    · simp only [if_neg (show ¬isLiteral (some (literal "click")) "wait_for_state" = true by decide), isLiteral_iff.2 rfl,
        if_true, validateClick, hfieldButton, hfieldCount]
      exact quiet_bind.2 ⟨(), quiet_reportIf.2 hbutton, quiet_bind.2 ⟨(), quiet_reportIf.2 hcount, quiet_pure.2 rfl⟩⟩
  | waitForState target state =>
    obtain ⟨htarget, hstate⟩ := h
    have hfield := hfields _ (.tail _ (.head _))
    have hfieldState := hfields _ (.tail _ (.tail _ (.head _)))
    refine ⟨literal "wait_for_state", hfields _ (.head _), by decide, ?_⟩
    rw [validateAction, if_pos (by decide)]
    refine quiet_bind.2 ⟨some target, ?_, ?_⟩
    · rw [hfield]
      exact validateTarget_toValue htarget
    · simp only [isLiteral_iff.2 rfl, if_true, validateWaitForState, hfieldState, approved_eq_some.2 ⟨rfl, hstate⟩]
      exact quiet_pure.2 rfl
  | mouseMove x y durationMs =>
    obtain ⟨hx, hy, hduration⟩ := h
    have hfieldX := hfields _ (.tail _ (.head _))
    have hfieldY := hfields _ (.tail _ (.tail _ (.head _)))
    have hfieldDuration := hfields _ (.tail _ (.tail _ (.tail _ (.head _))))
    refine ⟨literal "mouse_move", hfields _ (.head _), by decide, ?_⟩
    rw [validateAction, if_neg (by decide), if_pos (by decide), validateMouseMove, hfieldDuration]
    refine quiet_bind.2 ⟨_, quiet_requiredInteger.2 ⟨x, hfieldX, rfl, hx⟩, ?_⟩
    refine quiet_bind.2 ⟨_, quiet_requiredInteger.2 ⟨y, hfieldY, rfl, hy⟩, ?_⟩
    exact quiet_bind.2 ⟨_, quiet_optionalInteger hduration, quiet_pure.2 rfl⟩
  | typeText target text textCategory =>
    obtain ⟨htarget, htext⟩ := h
    have hfield := hfields _ (.tail _ (.head _))
    have hfieldText := hfields _ (.tail _ (.tail _ (.head _)))
    have hfieldCategory := hfields _ (.tail _ (.tail _ (.tail _ (.head _))))
    refine ⟨literal "type_text", hfields _ (.head _), by decide, ?_⟩
    rw [validateAction, if_neg (by decide), if_neg (by decide), if_pos (by decide), validateTypeText, hfieldCategory]
    refine quiet_bind.2 ⟨some target, ?_, ?_⟩
    · rw [hfield]
      exact validateTarget_toValue htarget
    refine quiet_bind.2 ⟨_, quiet_requiredString.2 ⟨text, hfieldText, rfl, htext⟩, ?_⟩
    refine quiet_bind.2 ⟨(), quiet_reportIf.2 ?_, ?_⟩
    · have hshort := htext.short
      simpa using hshort
    · rw [textCategory_read]
      exact quiet_pure.2 rfl
  | pressKey key =>
    obtain ⟨hkey, hsafe⟩ := h
    have hfield := hfields _ (.tail _ (.head _))
    refine ⟨literal "press_key", hfields _ (.head _), by decide, ?_⟩
    rw [validateAction, if_neg (by decide), if_neg (by decide), if_neg (by decide), if_pos (by decide), validatePressKey]
    refine quiet_bind.2 ⟨_, quiet_requiredString.2 ⟨key, hfield, rfl, hkey⟩, ?_⟩
    refine quiet_bind.2 ⟨(), quiet_reportIf.2 (by simp [hsafe]), ?_⟩
    rw [Option.filter_some, if_pos hsafe]
    exact quiet_pure.2 rfl
  | tabNavigation direction steps =>
    have hfieldDirection := hfields _ (.tail _ (.head _))
    have hfieldSteps := hfields _ (.tail _ (.tail _ (.head _)))
    have hlimit : steps ≤ p.maxTabSteps := h.2.trans (min_le_left _ _)
    refine ⟨literal "tab_navigation", hfields _ (.head _), by decide, ?_⟩
    rw [validateAction, if_neg (by decide), if_neg (by decide), if_neg (by decide), if_neg (by decide),
      if_pos (by decide), validateTabNavigation, hfieldDirection, hfieldSteps]
    refine quiet_bind.2 ⟨some steps, quiet_optionalInteger (n := some steps) (by rintro m ⟨⟩; exact h), ?_⟩
    refine quiet_bind.2 ⟨(), quiet_reportIf.2 (not_lt.2 hlimit), ?_⟩
    simp only [tabDirection?_text]
    exact quiet_pure.2 rfl
  | incrementalScroll direction distancePx steps =>
    obtain ⟨henabled, hdistance, hsteps⟩ := h
    have hfieldDirection := hfields _ (.tail _ (.head _))
    have hfieldDistance := hfields _ (.tail _ (.tail _ (.head _)))
    have hfieldSteps := hfields _ (.tail _ (.tail _ (.tail _ (.head _))))
    have hlimit : steps ≤ p.maxScrollSteps := hsteps.2.trans (min_le_left _ _)
    refine ⟨literal "incremental_scroll", hfields _ (.head _), by decide, ?_⟩
    rw [validateAction, if_neg (by decide), if_neg (by decide), if_neg (by decide), if_neg (by decide),
      if_neg (by decide), if_pos (by decide), validateIncrementalScroll, hfieldDirection, hfieldDistance, hfieldSteps]
    refine quiet_bind.2 ⟨_, quiet_optionalInteger (n := some distancePx) (by rintro m ⟨⟩; exact hdistance), ?_⟩
    refine quiet_bind.2 ⟨_, quiet_optionalInteger (n := some steps) (by rintro m ⟨⟩; exact hsteps), ?_⟩
    refine quiet_bind.2 ⟨(), quiet_reportIf.2 (by simp [henabled]), ?_⟩
    refine quiet_bind.2 ⟨(), quiet_reportIf.2 (not_lt.2 hdistance.2), ?_⟩
    refine quiet_bind.2 ⟨(), quiet_reportIf.2 (not_lt.2 hlimit), ?_⟩
    simp only [scrollDirection?_text]
    exact quiet_pure.2 rfl
  | cookieBanner ruleId =>
    obtain ⟨hruleId, hrule⟩ := h
    have hfield := hfields _ (.tail _ (.head _))
    obtain ⟨rule, hrule⟩ := Option.isSome_iff_exists.1 hrule
    refine ⟨literal "cookie_banner", hfields _ (.head _), by decide, ?_⟩
    rw [validateAction, if_neg (by decide), if_neg (by decide), if_neg (by decide), if_neg (by decide),
      if_neg (by decide), if_neg (by decide), validateCookieBanner]
    refine quiet_bind.2 ⟨_, quiet_requiredString.2 ⟨ruleId, hfield, rfl, hruleId⟩, ?_⟩
    simp only [hrule]
    exact quiet_pure.2 rfl

end Actions

/-! ### Steps and plans -/

section Steps

variable {p : InteractionProfile} {fields : List (Text × JsValue)} {path : Path} {index : ℕ} {seen : List Text}
  {raw : JsValue} {s : InteractionStep} {value : Unknown} {timeout : Option ℤ}

/-- The step that is read of an element of `steps`: it has its identifier and its time limit, or the
default. -/
structure ReadAs (p : InteractionProfile) (raw : JsValue) (s : InteractionStep) : Prop where
  ok : s.Ok p
  read : ∃ fields, raw = .object fields ∧ field fields "stepId" = some (.text s.stepId) ∧
    (field fields "timeoutMs" = none ∧ s.timeoutMs = min 30000 p.maxInteractionDurationMs ∨
      field fields "timeoutMs" = some (int s.timeoutMs) ∧ TimeoutOk p s.timeoutMs)

theorem validateStepBody_ok {stepId : Text} {read : Option InteractionStep} (hp : p.Ok) (hid : Bounded 80 stepId)
    (hfield : field fields "stepId" = some (.text stepId))
    (h : Quiet (validateStepBody p fields path index (some stepId)) read) :
    ∃ s, read = some s ∧ s.stepId = stepId ∧ ReadAs p (.object fields) s := by
  unfold validateStepBody at h
  split at h
  · exact absurd h not_quiet_refuse
  · obtain ⟨timeout, htimeout, h⟩ := quiet_bind.1 h
    obtain ⟨_, hside, h⟩ := quiet_bind.1 h
    obtain ⟨executions, hexecutions, h⟩ := quiet_bind.1 h
    obtain ⟨postcondition, hpost, h⟩ := quiet_bind.1 h
    obtain ⟨preconditions, hpre, h⟩ := quiet_bind.1 h
    obtain ⟨retryPolicy, hretry, h⟩ := quiet_bind.1 h
    obtain ⟨_, haction, h⟩ := quiet_bind.1 h
    obtain ⟨action, rfl, haction'⟩ := validateAction_ok hp haction
    have hexecutions' : Between 1 3 (executions.getD 1) := by
      cases executions with
      | none => exact ⟨by decide, by decide⟩
      | some n => exact (quiet_boundedInteger.1 hexecutions).2.2 n rfl
    have hpolicy : includesString ["stop", "skip", "retry"]
        (some ((approved ["stop", "skip", "retry"] (field fields "failurePolicy")).getD (literal "stop"))) = true := by
      cases hfound : approved ["stop", "skip", "retry"] (field fields "failurePolicy") with
      | none => decide
      | some policy => exact (approved_eq_some.1 hfound).2
    refine ⟨_, (quiet_pure.1 h).symm, rfl, ⟨hid, validatePreconditions_ok hpre, validateRetryPolicy_ok hretry, hpolicy,
      fun c hc => validateOptionalPostcondition_ok hpost hc, hexecutions', haction'⟩, fields, rfl, hfield, ?_⟩
    obtain ⟨hvalue, -, hbetween⟩ := quiet_boundedInteger.1 htimeout
    cases timeout with
    | none => exact .inl ⟨hvalue, rfl⟩
    | some n => exact .inr ⟨hvalue, hbetween n rfl⟩

theorem validateStep_ok {read : Option Text × Option InteractionStep} (hp : p.Ok)
    (h : Quiet (validateStep p index seen raw) read) :
    ∃ s, read = (some s.stepId, some s) ∧ s.stepId ∉ seen ∧ ReadAs p raw s := by
  unfold validateStep at h
  simp only at h
  split at h
  · obtain ⟨_, hstepId, h⟩ := quiet_bind.1 h
    obtain ⟨_, hnew, h⟩ := quiet_bind.1 h
    obtain ⟨_, hbody, h⟩ := quiet_bind.1 h
    obtain ⟨stepId, hfield, rfl, hid⟩ := quiet_requiredString.1 hstepId
    obtain ⟨s, rfl, rfl, hread⟩ := validateStepBody_ok hp hid hfield hbody
    refine ⟨s, (quiet_pure.1 h).symm, ?_, hread⟩
    simpa using quiet_reportIf.1 hnew
  · exact absurd h Collect.not_quiet_report_bind

/-- **Every element of `steps` is read as one step**, in their order, and no identifier comes twice. -/
theorem validateSteps_ok {items : List JsValue} {steps : List InteractionStep} (hp : p.Ok)
    (h : Quiet (validateSteps p index seen items) steps) :
    List.Forall₂ (ReadAs p) items steps ∧ (steps.map (·.stepId)).Nodup ∧ ∀ s ∈ steps, s.stepId ∉ seen := by
  induction items generalizing index seen steps with
  | nil =>
    rw [validateSteps, quiet_pure] at h
    subst h
    exact ⟨.nil, List.nodup_nil, fun s hs => by cases hs⟩
  | cons raw rest ih =>
    rw [validateSteps] at h
    obtain ⟨_, hstep, h⟩ := quiet_bind.1 h
    obtain ⟨s, rfl, hnew, hread⟩ := validateStep_ok hp hstep
    obtain ⟨others, hrest, h⟩ := quiet_bind.1 h
    obtain ⟨hothers, hdistinct, hfresh⟩ := ih hrest
    have hsteps : s :: others = steps := quiet_pure.1 h
    rw [← hsteps]
    refine ⟨.cons hread hothers, ?_, List.forall_mem_cons.2 ⟨hnew, fun t ht hseen => ?_⟩⟩
    · rw [List.map_cons, List.nodup_cons]
      refine ⟨fun hmem => ?_, hdistinct⟩
      obtain ⟨t, ht, hid⟩ := List.mem_map.1 hmem
      exact hfresh t ht (by simp [hid])
    · exact hfresh t ht (by simp [hseen])

theorem plain_action (action : InteractionAction) : ∀ entry ∈ action.entries, Plain entry.1 := by
  cases action <;> repeat' first | exact plain_nil | refine plain_cons rfl ?_

theorem plain_step (s : InteractionStep) (timeout : Option ℤ) : ∀ entry ∈ s.entries timeout, Plain entry.1 := by
  unfold InteractionStep.entries InteractionStepBase.entries
  repeat' first | exact plain_action s.action | refine plain_cons rfl ?_

theorem InteractionStep.field {key : String} (hkey : Plain key) (h : (key, value) ∈ s.entries timeout) :
    ProxyManager.field (record (s.entries timeout)) key = value := by
  refine field_of_mem hkey (plain_step s timeout) ?_ h
  unfold InteractionStep.entries InteractionStepBase.entries
  cases s.action <;> simp [InteractionAction.entries]

theorem InteractionStep.field_base (timeout : Option ℤ) {key : String} (hkey : Plain key)
    (h : (key, value) ∈ s.toInteractionStepBase.entries timeout) :
    ProxyManager.field (record (s.entries timeout)) key = value :=
  s.field hkey (List.mem_append_left _ h)

theorem InteractionStep.field_action {entry : String × Unknown} (h : entry ∈ s.action.entries) :
    ProxyManager.field (record (s.entries timeout)) entry.1 = entry.2 :=
  s.field (plain_action s.action entry h) (List.mem_append_right _ h)

theorem sideEffect?_text (sideEffect : InteractionSideEffect) :
    sideEffect? (literal sideEffect.text) = some sideEffect := by
  cases sideEffect <;> rfl

theorem tracePolicy_read (policy : InteractionTracePolicy) :
    (if isLiteral (literal policy.text) "none" then InteractionTracePolicy.none else .metadata) = policy := by
  cases policy <;> rfl

/-- **A step within the limits is read as itself**, when its time limit is one that may be given, or the
default. -/
theorem quiet_validateStep (h : s.Ok p) (htimeout : ∀ n, timeout = some n → TimeoutOk p n)
    (hdefault : timeout.getD (min 30000 p.maxInteractionDurationMs) = s.timeoutMs) (hnew : s.stepId ∉ seen) :
    Quiet (validateStep p index seen (s.write timeout)) (some s.stepId, some s) := by
  have hstepId := s.field_base timeout (plain_ofList rfl) (.head _)
  have htime := s.field_base timeout (plain_ofList rfl) (.tail _ (.head _))
  have hpre := s.field_base timeout (plain_ofList rfl) (.tail _ (.tail _ (.head _)))
  have hretry := s.field_base timeout (plain_ofList rfl) (.tail _ (.tail _ (.tail _ (.head _))))
  have hpolicy := s.field_base timeout (plain_ofList rfl) (.tail _ (.tail _ (.tail _ (.tail _ (.head _)))))
  have hpost := s.field_base timeout (plain_ofList rfl) (.tail _ (.tail _ (.tail _ (.tail _ (.tail _ (.head _))))))
  have hside : ProxyManager.field (record (s.entries timeout)) "sideEffect" = some (literal s.sideEffect.text) :=
    s.field_base timeout (plain_ofList rfl) (by simp [InteractionStepBase.entries])
  have htrace : ProxyManager.field (record (s.entries timeout)) "tracePolicy" = some (literal s.tracePolicy.text) :=
    s.field_base timeout (plain_ofList rfl) (by simp [InteractionStepBase.entries])
  have hexecutions : ProxyManager.field (record (s.entries timeout)) "maxExecutions" = some (int s.maxExecutions) :=
    s.field_base timeout (plain_ofList rfl) (by simp [InteractionStepBase.entries])
  have hfields : ∀ entry ∈ s.action.entries, ProxyManager.field (record (s.entries timeout)) entry.1 = entry.2 :=
    fun entry hentry => s.field_action hentry
  obtain ⟨stepType, htype, hin, haction⟩ := quiet_validateAction h.action hfields
  unfold validateStep InteractionStep.write
  refine quiet_bind.2 ⟨_, quiet_requiredString.2 ⟨_, hstepId, rfl, h.stepId⟩, ?_⟩
  refine quiet_bind.2 ⟨(), quiet_reportIf.2 (by simpa using hnew), ?_⟩
  refine quiet_bind.2 ⟨some s, ?_, quiet_pure.2 rfl⟩
  unfold validateStepBody
  simp only [htype, hpre, hretry, hpolicy, hpost, hside, htrace, approved_eq_some.2 ⟨rfl, hin⟩,
    approved_eq_some.2 ⟨rfl, h.failurePolicy⟩, sideEffect?_text, tracePolicy_read]
  refine quiet_bind.2 ⟨timeout, quiet_boundedInteger.2 ⟨htime, fun _ => rfl, htimeout⟩, ?_⟩
  refine quiet_bind.2 ⟨(), quiet_reportIf.2 (by simp), ?_⟩
  refine quiet_bind.2 ⟨some s.maxExecutions, ?_, ?_⟩
  · exact quiet_boundedInteger.2 ⟨hexecutions, fun hnone => (by cases hnone), by rintro n ⟨⟩; exact h.maxExecutions⟩
  refine quiet_bind.2 ⟨_, quiet_validateOptionalPostcondition h.postcondition, ?_⟩
  refine quiet_bind.2 ⟨_, quiet_validatePreconditions h.preconditions.1 h.preconditions.2, ?_⟩
  refine quiet_bind.2 ⟨_, quiet_validateRetryPolicy h.retryPolicy, ?_⟩
  rw [hdefault]
  exact quiet_bind.2 ⟨_, haction, quiet_pure.2 rfl⟩

/-- **Steps within the limits are read as themselves**, when their time limits are ones that may be
given. -/
theorem quiet_validateSteps {steps : List InteractionStep} (h : ∀ s ∈ steps, s.Ok p)
    (htimeouts : ∀ s ∈ steps, TimeoutOk p s.timeoutMs) (hdistinct : (steps.map (·.stepId)).Nodup)
    (hnew : ∀ s ∈ steps, s.stepId ∉ seen) : Quiet (validateSteps p index seen (steps.map (·.toValue))) steps := by
  induction steps generalizing index seen with
  | nil => exact quiet_pure.2 rfl
  | cons s steps ih =>
    obtain ⟨hs, hrest⟩ := List.forall_mem_cons.1 h
    obtain ⟨htimeout, htimeouts⟩ := List.forall_mem_cons.1 htimeouts
    obtain ⟨hfresh, hnew⟩ := List.forall_mem_cons.1 hnew
    rw [List.map_cons, List.nodup_cons] at hdistinct
    have hseen : ∀ t ∈ steps, t.stepId ∉ (some s.stepId).toList ++ seen := by
      intro t ht hmem
      rcases List.mem_append.1 hmem with hid | hid
      · have hsame : t.stepId = s.stepId := by simpa using hid
        exact hdistinct.1 (hsame ▸ List.mem_map_of_mem ht)
      · exact hnew t ht hid
    rw [List.map_cons, validateSteps]
    refine quiet_bind.2 ⟨_, quiet_validateStep hs (by rintro n ⟨⟩; exact htimeout) rfl hfresh, ?_⟩
    exact quiet_bind.2 ⟨steps, ih hrest htimeouts hdistinct.2 hseen, quiet_pure.2 rfl⟩

/-- What is read of a written step has a time limit that may be given. -/
theorem ReadAs.timeoutOk {r : InteractionStep} (h : ReadAs p s.toValue r) : TimeoutOk p s.timeoutMs := by
  obtain ⟨fields, hfields, -, htimeout⟩ := h.read
  have htime := s.field_base (some s.timeoutMs) (plain_ofList rfl) (.tail _ (.head _))
  cases hfields
  rcases htimeout with ⟨hnone, -⟩ | ⟨hsome, hok⟩
  · rw [htime] at hnone
    cases hnone
  · rw [htime, Option.map_some, Option.some.injEq, int_inj] at hsome
    rw [hsome]
    exact hok

section Plans

variable {r : InteractionPlan} {items : List JsValue}

theorem InteractionPlan.field (items : List JsValue) {key : String} (hkey : Plain key) (h : (key, value) ∈ r.entries items) :
    ProxyManager.field (record (r.entries items)) key = value := by
  refine field_of_mem hkey ?_ (by simp [InteractionPlan.entries]) h
  unfold InteractionPlan.entries
  repeat' first | exact plain_nil | refine plain_cons rfl ?_

/-- **A plan within the limits of the profile.** -/
structure InteractionPlan.Ok (p : InteractionProfile) (r : InteractionPlan) : Prop where
  planId : Bounded 128 r.planId
  approvalReason : Bounded 256 r.approvalReason
  few : (r.steps.length : ℤ) ≤ min p.maxActionsPerPage 500
  distinct : (r.steps.map (·.stepId)).Nodup
  steps : ∀ s ∈ r.steps, s.Ok p

/-- **What is read of a plan is within the limits, with one step for each element of `steps`.** -/
theorem planShape_ok (hp : p.Ok) (h : Quiet (planShape p fields) (some r)) :
    r.Ok p ∧ ∃ items, stepItems fields = some items ∧ List.Forall₂ (ReadAs p) items r.steps := by
  unfold planShape at h
  obtain ⟨_, -, h⟩ := quiet_bind.1 h
  obtain ⟨_, hplanId, h⟩ := quiet_bind.1 h
  obtain ⟨_, hreason, h⟩ := quiet_bind.1 h
  obtain ⟨_, -, h⟩ := quiet_bind.1 h
  obtain ⟨_, hfew, h⟩ := quiet_bind.1 h
  obtain ⟨steps, hsteps, h⟩ := quiet_bind.1 h
  obtain ⟨planId, -, rfl, hplanId'⟩ := quiet_requiredString.1 hplanId
  obtain ⟨approvalReason, -, rfl, hreason'⟩ := quiet_requiredString.1 hreason
  have hfew' := quiet_reportIf.1 hfew
  cases hitems : stepItems fields with
  | none =>
    rw [hitems] at hfew'
    exact absurd rfl hfew'
  | some items =>
    rw [hitems] at hfew' hsteps
    rw [Option.getD_some] at hsteps
    obtain ⟨hread, hdistinct, -⟩ := validateSteps_ok hp hsteps
    cases Option.some.inj (quiet_pure.1 h)
    have hlength : (items.length : ℤ) ≤ min p.maxActionsPerPage 500 := by
      simpa only [Option.all_some, decide_eq_true_eq, not_lt] using hfew'
    rw [hread.length_eq] at hlength
    exact ⟨⟨hplanId', hreason', hlength, hdistinct, Collect.forall_of_forall₂ (hread.imp fun _ _ h => h.ok)⟩, items, rfl,
      hread⟩

theorem InteractionPlan.stepItems_eq : stepItems (record (r.entries items)) = some items := by
  unfold stepItems
  rw [r.field items (plain_ofList rfl) (.tail _ (.tail _ (.tail _ (.tail _ (.head _)))))]

/-- **A plan within the limits is read as itself**, when its steps are. -/
theorem quiet_planShape (h : r.Ok p) (hlength : items.length = r.steps.length)
    (hsteps : Quiet (validateSteps p 0 [] items) r.steps) : Quiet (planShape p (record (r.entries items))) (some r) := by
  have hversion := r.field items (plain_ofList rfl) (.head _)
  have hplanId := r.field items (plain_ofList rfl) (.tail _ (.head _))
  have happroved := r.field items (plain_ofList rfl) (.tail _ (.tail _ (.head _)))
  have hreason := r.field items (plain_ofList rfl) (.tail _ (.tail _ (.tail _ (.head _))))
  have hfew : ¬min p.maxActionsPerPage 500 < (items.length : ℤ) := by
    rw [hlength]
    exact not_lt.2 h.few
  unfold planShape
  simp only [hversion, happroved, r.stepItems_eq, Option.all_some, Option.getD_some]
  refine quiet_bind.2 ⟨(), quiet_reportIf.2 (by decide), ?_⟩
  refine quiet_bind.2 ⟨_, quiet_requiredString.2 ⟨_, hplanId, rfl, h.planId⟩, ?_⟩
  refine quiet_bind.2 ⟨_, quiet_requiredString.2 ⟨_, hreason, rfl, h.approvalReason⟩, ?_⟩
  refine quiet_bind.2 ⟨(), quiet_reportIf.2 (by simp [boolean?]), ?_⟩
  refine quiet_bind.2 ⟨(), quiet_reportIf.2 (by rw [decide_eq_true_eq]; exact hfew), ?_⟩
  exact quiet_bind.2 ⟨_, hsteps, quiet_pure.2 rfl⟩

/-- **A plan is read again, unchanged, exactly when the time limits of its steps may be given.** -/
theorem planShape_again (hp : p.Ok) (h : r.Ok p) :
    Quiet (planShape p (record (r.entries (r.steps.map (·.toValue))))) (some r) ↔
      ∀ s ∈ r.steps, TimeoutOk p s.timeoutMs := by
  refine ⟨fun hagain => ?_, fun htimeouts => ?_⟩
  · obtain ⟨-, items, hitems, hread⟩ := planShape_ok hp hagain
    rw [r.stepItems_eq, Option.some.injEq] at hitems
    rw [← hitems, List.forall₂_map_left_iff] at hread
    intro s hs
    obtain ⟨i, hi, rfl⟩ := List.getElem_of_mem hs
    exact (hread.get hi hi).timeoutOk
  · exact quiet_planShape h (List.length_map _) (quiet_validateSteps h.steps htimeouts h.distinct (by simp))

end Plans

end Steps

end OfflineWebArchiver.Interaction
