import OfflineWebArchiver.Interaction.Values

/-!
# Interaction profiles

`validateInteractionProfile`: a profile with its delays, limits and policies, or the list of all
that is wrong with the value.

* `InteractionProfile.toValue`: the profile as a value.
* `validateInteractionProfile_again`: **a profile that has been accepted is accepted again,
  unchanged**.
-/

namespace OfflineWebArchiver.Interaction

open ProxyManager (JsValue Unknown field boundedInteger?)
open Collect (Quiet report reportIf quiet_pure quiet_bind quiet_reportIf collectFrom)

inductive InteractionMode
  | disabled | humanPaced
deriving DecidableEq

def InteractionMode.text : InteractionMode → String
  | .disabled => "disabled"
  | .humanPaced => "human-paced"

inductive DialogType
  | alert | confirm | prompt | beforeunload
deriving DecidableEq

def DialogType.text : DialogType → String
  | .alert => "alert"
  | .confirm => "confirm"
  | .prompt => "prompt"
  | .beforeunload => "beforeunload"

inductive DialogAction
  | dismiss | accept
deriving DecidableEq

def DialogAction.text : DialogAction → String
  | .dismiss => "dismiss"
  | .accept => "accept"

structure DialogPolicy where
  defaultAction : DialogAction
  byType : List (DialogType × DialogAction)
  maximumHandlingDurationMs : ℤ
deriving DecidableEq

inductive PopupAction
  | observeClose | allowInScope
deriving DecidableEq

def PopupAction.text : PopupAction → String
  | .observeClose => "observe-close"
  | .allowInScope => "allow-in-scope"

structure PopupPolicy where
  defaultAction : PopupAction
  allowedOrigins : List Text
  maximumHandlingDurationMs : ℤ
deriving DecidableEq

structure CookieBannerRule where
  ruleId : Text
  bannerTarget : InteractionTargetDescriptor
  /-- The action, as it is given: `accept`, `reject`, `dismiss` or `no_action`. -/
  action : JsValue
  actionTarget : Option InteractionTargetDescriptor
  maxExecutions : ℤ

/-- A range of delays. -/
structure DelayPair where
  min : ℤ
  max : ℤ
deriving DecidableEq

/-- The limits of a profile. -/
structure InteractionLimits where
  maxActionsPerPage : ℤ
  maxInteractionDurationMs : ℤ
  maxScrollSteps : ℤ
  maxTabSteps : ℤ
  maxPopupsPerPage : ℤ
  maxDialogsPerPage : ℤ
  maxTypedTextLength : ℤ
  maxTargetLength : ℤ
  maxTraceEvents : ℤ
  maxTraceBytes : ℤ
  maxScrollDistancePx : ℤ
deriving DecidableEq

/-- `actionDelayMinMs` and `actionDelayMaxMs` are the two parts of `actionDelay`, and so are those of
the other ranges. -/
structure InteractionProfile extends InteractionLimits where
  profileId : Text
  profileRevisionId : Text
  projectId : Option Text
  enabled : Bool
  mode : InteractionMode
  seed : Text
  actionDelay : DelayPair
  typingDelay : DelayPair
  pointerMoveDuration : DelayPair
  scrollStep : DelayPair
  scrollDelay : DelayPair
  incrementalScroll : Bool
  dialogPolicy : DialogPolicy
  popupPolicy : PopupPolicy
  cookieBannerRules : List CookieBannerRule

/-! ### Reading a profile -/

/-- `validateDelayPair({ min, max }, path, errors, maximum)`. -/
def validateDelayPair (min max : Unknown) (path : String) (maximum : ℤ) : Validate (Option DelayPair) := do
  let min ← boundedInteger min (asciiUnits (path ++ ".min")) 0 maximum true
  let max ← boundedInteger max (asciiUnits (path ++ ".max")) 0 maximum true
  match min, max with
  | some min, some max => do
    reportIf (max < min) (issue "INTERACTION_DELAY_ORDER_INVALID" path
      "The minimum delay must not exceed the maximum delay.")
    return some ⟨min, max⟩
  | _, _ => return none

/-- A limit of the profile. -/
def limit (value : List (Text × JsValue)) (name : String) (minimum maximum : ℤ) : Validate (Option ℤ) :=
  boundedInteger (field value name) (asciiUnits name) minimum maximum true

def validateLimits (value : List (Text × JsValue)) : Validate (Option InteractionLimits) := do
  let maxActions ← limit value "maxActionsPerPage" 0 500
  let maxDuration ← limit value "maxInteractionDurationMs" 0 600000
  let maxScrollSteps ← limit value "maxScrollSteps" 0 100
  let maxTabSteps ← limit value "maxTabSteps" 0 100
  let maxPopups ← limit value "maxPopupsPerPage" 0 10
  let maxDialogs ← limit value "maxDialogsPerPage" 0 20
  let maxTypedText ← limit value "maxTypedTextLength" 0 4096
  let maxTarget ← limit value "maxTargetLength" 1 512
  let maxTraceEvents ← limit value "maxTraceEvents" 1 500
  let maxTraceBytes ← limit value "maxTraceBytes" 1 262144
  let maxScrollDistance ← limit value "maxScrollDistancePx" 0 100000
  return do
    some { maxActionsPerPage := ← maxActions, maxInteractionDurationMs := ← maxDuration
           maxScrollSteps := ← maxScrollSteps, maxTabSteps := ← maxTabSteps, maxPopupsPerPage := ← maxPopups
           maxDialogsPerPage := ← maxDialogs, maxTypedTextLength := ← maxTypedText, maxTargetLength := ← maxTarget
           maxTraceEvents := ← maxTraceEvents, maxTraceBytes := ← maxTraceBytes
           maxScrollDistancePx := ← maxScrollDistance }

/-- The member of an enumeration whose name is the value. -/
def member? {α : Type} (members : List (String × α)) (value : Unknown) : Option α :=
  members.findSome? fun member => if isLiteral value member.1 then some member.2 else none

def dialogAction? (value : Unknown) : Option DialogAction := member? [("dismiss", .dismiss), ("accept", .accept)] value

def dialogType? (value : Unknown) : Option DialogType :=
  member? [("alert", .alert), ("confirm", .confirm), ("prompt", .prompt), ("beforeunload", .beforeunload)] value

def popupAction? (value : Unknown) : Option PopupAction :=
  member? [("observe-close", .observeClose), ("allow-in-scope", .allowInScope)] value

def interactionMode? (value : Unknown) : Option InteractionMode :=
  member? [("disabled", .disabled), ("human-paced", .humanPaced)] value

/-- One entry of `dialogPolicy.byType`. -/
def validateDialogType (entry : Text × JsValue) : Validate (Option (DialogType × DialogAction)) :=
  match dialogType? (JsValue.text entry.1), dialogAction? entry.2 with
  | some type, some action => return some (type, action)
  | _, _ => refuse "INTERACTION_DIALOG_POLICY_INVALID" (asciiUnits "dialogPolicy.byType." ++ entry.1)
      "Dialog type action is invalid."

def validateDialogTypes (value : Unknown) : Validate (List (DialogType × DialogAction)) :=
  match value with
  | some (.object entries) => collectFrom (fun _ entry => validateDialogType entry) 0 entries
  | _ => do
    report (issue "INTERACTION_DIALOG_POLICY_INVALID" "dialogPolicy.byType" "Dialog type policy must be an object.")
    return []

/-- The checks of `value.dialogPolicy`. -/
def validateDialogPolicy (value : Unknown) : Validate DialogPolicy :=
  match value with
  | some (.object policy) => do
    let defaultAction := dialogAction? (field policy "defaultAction")
    reportIf (defaultAction = none)
      (issue "INTERACTION_DIALOG_POLICY_INVALID" "dialogPolicy.defaultAction" "Dialog default action is invalid.")
    let byType ← validateDialogTypes (field policy "byType")
    let maximum ← boundedInteger (field policy "maximumHandlingDurationMs")
      (asciiUnits "dialogPolicy.maximumHandlingDurationMs") 1 30000 true
    return ⟨defaultAction.getD .dismiss, byType, maximum.getD 2000⟩
  | _ => do
    report (issue "INTERACTION_DIALOG_POLICY_INVALID" "dialogPolicy" "Dialog policy is required.")
    return ⟨.dismiss, [], 2000⟩

/-- `/^https?:\/\/[^/?#]+$/.test(origin)`. -/
def isPopupOrigin (origin : Text) : Bool :=
  ["http://", "https://"].any fun scheme =>
    (asciiUnits scheme).isPrefixOf origin && origin.drop scheme.length != [] &&
      (origin.drop scheme.length).all fun c => c != unit '/' && c != unit '?' && c != unit '#'

def validatePopupOrigin (index : ℕ) (origin : JsValue) : Validate (Option Text) :=
  let invalid := refuse "INTERACTION_POPUP_ORIGIN_INVALID" (Path.nth (asciiUnits "popupPolicy.allowedOrigins") index)
    "Popup origins must be bounded HTTP(S) origins."
  match origin with
  | .text t => if t = [] ∨ 256 < t.length ∨ !isPopupOrigin t then invalid else return some t
  | _ => invalid

def validatePopupOrigins (value : Unknown) : Validate (List Text) :=
  match value with
  | some (.array origins) => collectFrom validatePopupOrigin 0 origins
  | _ => do
    report (issue "INTERACTION_POPUP_POLICY_INVALID" "popupPolicy.allowedOrigins" "Popup allowed origins must be an array.")
    return []

/-- The checks of `value.popupPolicy`. -/
def validatePopupPolicy (value : Unknown) : Validate PopupPolicy :=
  match value with
  | some (.object policy) => do
    let defaultAction := popupAction? (field policy "defaultAction")
    reportIf (defaultAction = none)
      (issue "INTERACTION_POPUP_POLICY_INVALID" "popupPolicy.defaultAction" "Popup default action is invalid.")
    let allowedOrigins ← validatePopupOrigins (field policy "allowedOrigins")
    let maximum ← boundedInteger (field policy "maximumHandlingDurationMs")
      (asciiUnits "popupPolicy.maximumHandlingDurationMs") 1 30000 true
    return ⟨defaultAction.getD .observeClose, allowedOrigins, maximum.getD 2000⟩
  | _ => do
    report (issue "INTERACTION_POPUP_POLICY_INVALID" "popupPolicy" "Popup policy is required.")
    return ⟨.observeClose, [], 2000⟩

/-- An optional target. -/
def validateOptionalTarget (value : Unknown) (path : Path) (maximum : ℤ) :
    Validate (Option InteractionTargetDescriptor) :=
  match value with
  | none => return none
  | some value => validateTarget (some value) path maximum

/-- One rule of `value.cookieBannerRules`. -/
def validateCookieRule (maximum : ℤ) (index : ℕ) (rule : JsValue) : Validate (Option CookieBannerRule) :=
  let path := Path.nth (asciiUnits "cookieBannerRules") index
  match rule with
  | .object rule => do
    let ruleId ← boundedString (field rule "ruleId") (path.at "ruleId") 80 true
    let bannerTarget ← validateTarget (field rule "bannerTarget") (path.at "bannerTarget") maximum
    let action := field rule "action"
    reportIf (["accept", "reject", "dismiss", "no_action"].all fun name => !isLiteral action name)
      ⟨"INTERACTION_COOKIE_ACTION_INVALID", path.at "action", "Cookie Banner action is not approved."⟩
    let actionTarget ← validateOptionalTarget (field rule "actionTarget") (path.at "actionTarget") maximum
    reportIf (includesString ["accept", "reject", "dismiss"] action ∧ actionTarget = none)
      ⟨"INTERACTION_COOKIE_ACTION_TARGET_REQUIRED", path.at "actionTarget",
        "An explicit Cookie Banner action target is required."⟩
    let maxExecutions ← boundedInteger (field rule "maxExecutions") (path.at "maxExecutions") 1 3 true
    match ruleId, bannerTarget, action, maxExecutions with
    | some ruleId, some bannerTarget, some action, some maxExecutions =>
      if includesString ["accept", "reject", "dismiss", "no_action"] (some action) ∧
          (isLiteral (some action) "no_action" ∨ actionTarget ≠ none) then
        return some { ruleId, bannerTarget, action, actionTarget, maxExecutions }
      else return none
    | _, _, _, _ => return none
  | _ => refuse "INTERACTION_COOKIE_RULE_INVALID" path "Cookie Banner rule is invalid."

def validateCookieRules (value : Unknown) (maximum : ℤ) : Validate (List CookieBannerRule) :=
  let invalid : Validate (List CookieBannerRule) := do
    report (issue "INTERACTION_COOKIE_RULES_INVALID" "cookieBannerRules" "Cookie Banner rules must be a bounded array.")
    return []
  match value with
  | some (.array rules) => if 50 < rules.length then invalid else collectFrom (validateCookieRule maximum) 0 rules
  | _ => invalid

/-- `value === n`. -/
def isNumber (value : Unknown) (n : ℤ) : Bool :=
  match value with
  | some (.number (some q)) => q == n
  | _ => false

/-- `projectId`, which may be `null`. -/
def validateProjectId (value : Unknown) : Validate (Option Text) :=
  match value with
  | some .null => return none
  | _ => boundedString value (asciiUnits "projectId") 128 true

/-- `validateProfileShape(value)`, on an object. -/
def profileShape (value : List (Text × JsValue)) : Validate (Option InteractionProfile) := do
  reportIf (!isNumber (field value "schemaVersion") 1)
    (issue "INTERACTION_PROFILE_VERSION_UNSUPPORTED" "schemaVersion" "The interaction profile schema version is unsupported.")
  let profileId ← boundedString (field value "profileId") (asciiUnits "profileId") 128 true
  let profileRevisionId ← boundedString (field value "profileRevisionId") (asciiUnits "profileRevisionId") 128 true
  let projectId ← validateProjectId (field value "projectId")
  let seed ← boundedString (field value "seed") (asciiUnits "seed") 128 true
  let enabled := boolean? (field value "enabled")
  reportIf (enabled = none) (issue "INTERACTION_BOOLEAN_INVALID" "enabled" "Enabled must be boolean.")
  let mode := interactionMode? (field value "mode")
  reportIf (mode = none) (issue "INTERACTION_MODE_INVALID" "mode" "Mode must be disabled or human-paced.")
  let action ← validateDelayPair (field value "actionDelayMinMs") (field value "actionDelayMaxMs") "actionDelay" 10000
  let typing ← validateDelayPair (field value "typingDelayMinMs") (field value "typingDelayMaxMs") "typingDelay" 10000
  let pointer ← validateDelayPair (field value "pointerMoveDurationMinMs") (field value "pointerMoveDurationMaxMs")
    "pointerMoveDuration" 5000
  let scroll ← validateDelayPair (field value "scrollStepMinPx") (field value "scrollStepMaxPx") "scrollStep" 5000
  let scrollDelay ← validateDelayPair (field value "scrollDelayMinMs") (field value "scrollDelayMaxMs") "scrollDelay" 10000
  let limits ← validateLimits value
  let incrementalScroll := boolean? (field value "incrementalScroll")
  reportIf (incrementalScroll = none)
    (issue "INTERACTION_BOOLEAN_INVALID" "incrementalScroll" "Incremental scrolling must be boolean.")
  let dialogPolicy ← validateDialogPolicy (field value "dialogPolicy")
  let popupPolicy ← validatePopupPolicy (field value "popupPolicy")
  let maxTarget := boundedInteger? (field value "maxTargetLength") 1 512
  let rules ← validateCookieRules (field value "cookieBannerRules") (maxTarget.getD maximumTargetLength)
  reportIf (¬(rules.map (·.ruleId)).Nodup)
    (issue "INTERACTION_COOKIE_RULE_DUPLICATE" "cookieBannerRules" "Cookie Banner rule IDs must be unique.")
  reportIf (enabled = some true ∧ mode = some .disabled)
    (issue "INTERACTION_MODE_CONFLICT" "mode" "An enabled profile must use human-paced mode.")
  return do
    some { ← limits with
           profileId := ← profileId, profileRevisionId := ← profileRevisionId, projectId, enabled := ← enabled
           mode := ← mode, seed := ← seed, actionDelay := ← action, typingDelay := ← typing
           pointerMoveDuration := ← pointer, scrollStep := ← scroll, scrollDelay := ← scrollDelay
           incrementalScroll := ← incrementalScroll, dialogPolicy, popupPolicy, cookieBannerRules := rules }

/-- The value, or the errors. -/
def resultOf {α : Type} (result : Validate (Option α)) : Except (List InteractionValidationIssue) α :=
  match result.errors, result.value with
  | [], some value => .ok value
  | errors, _ => .error errors

/-- `validateInteractionProfile(value)`. -/
def validateInteractionProfile (value : Unknown) : Except (List InteractionValidationIssue) InteractionProfile :=
  match value with
  | some (.object fields) => resultOf (profileShape fields)
  | _ => .error [issue "INTERACTION_PROFILE_INVALID" "profile" "An interaction profile object is required."]

/-! ### Writing a profile -/

def DialogPolicy.byTypeValue (byType : List (DialogType × DialogAction)) : JsValue :=
  .object (byType.map fun entry => (asciiUnits entry.1.text, literal entry.2.text))

def DialogPolicy.entries (policy : DialogPolicy) : List (String × Unknown) :=
  [("defaultAction", literal policy.defaultAction.text), ("byType", byTypeValue policy.byType),
    ("maximumHandlingDurationMs", int policy.maximumHandlingDurationMs)]

def PopupPolicy.entries (policy : PopupPolicy) : List (String × Unknown) :=
  [("defaultAction", literal policy.defaultAction.text), ("allowedOrigins", JsValue.array (policy.allowedOrigins.map .text)),
    ("maximumHandlingDurationMs", int policy.maximumHandlingDurationMs)]

def CookieBannerRule.entries (rule : CookieBannerRule) : List (String × Unknown) :=
  [("ruleId", JsValue.text rule.ruleId), ("bannerTarget", rule.bannerTarget.toValue), ("action", rule.action),
    ("actionTarget", rule.actionTarget.map (·.toValue)), ("maxExecutions", int rule.maxExecutions)]

def CookieBannerRule.toValue (rule : CookieBannerRule) : JsValue := .object (record rule.entries)

def InteractionProfile.entries (p : InteractionProfile) : List (String × Unknown) :=
  [("schemaVersion", int 1), ("profileId", JsValue.text p.profileId), ("profileRevisionId", JsValue.text p.profileRevisionId),
    ("projectId", some (p.projectId.elim .null .text)), ("enabled", JsValue.bool p.enabled), ("mode", literal p.mode.text),
    ("seed", JsValue.text p.seed), ("actionDelayMinMs", int p.actionDelay.min), ("actionDelayMaxMs", int p.actionDelay.max),
    ("typingDelayMinMs", int p.typingDelay.min), ("typingDelayMaxMs", int p.typingDelay.max),
    ("pointerMoveDurationMinMs", int p.pointerMoveDuration.min), ("pointerMoveDurationMaxMs", int p.pointerMoveDuration.max),
    ("incrementalScroll", JsValue.bool p.incrementalScroll), ("scrollStepMinPx", int p.scrollStep.min),
    ("scrollStepMaxPx", int p.scrollStep.max), ("scrollDelayMinMs", int p.scrollDelay.min),
    ("scrollDelayMaxMs", int p.scrollDelay.max), ("maxActionsPerPage", int p.maxActionsPerPage),
    ("maxInteractionDurationMs", int p.maxInteractionDurationMs), ("maxScrollSteps", int p.maxScrollSteps),
    ("maxTabSteps", int p.maxTabSteps), ("maxPopupsPerPage", int p.maxPopupsPerPage),
    ("maxDialogsPerPage", int p.maxDialogsPerPage), ("maxTypedTextLength", int p.maxTypedTextLength),
    ("maxTargetLength", int p.maxTargetLength), ("maxTraceEvents", int p.maxTraceEvents),
    ("maxTraceBytes", int p.maxTraceBytes), ("maxScrollDistancePx", int p.maxScrollDistancePx),
    ("dialogPolicy", JsValue.object (record p.dialogPolicy.entries)),
    ("popupPolicy", JsValue.object (record p.popupPolicy.entries)),
    ("cookieBannerRules", JsValue.array (p.cookieBannerRules.map (·.toValue)))]

/-- The profile as a value. -/
def InteractionProfile.toValue (p : InteractionProfile) : JsValue := .object (record p.entries)

/-! ### Well-formed profiles -/

structure DelayPair.Ok (maximum : ℤ) (pair : DelayPair) : Prop where
  low : 0 ≤ pair.min
  ordered : pair.min ≤ pair.max
  high : pair.max ≤ maximum

def Between (low high n : ℤ) : Prop := low ≤ n ∧ n ≤ high

structure InteractionLimits.Ok (l : InteractionLimits) : Prop where
  maxActionsPerPage : Between 0 500 l.maxActionsPerPage
  maxInteractionDurationMs : Between 0 600000 l.maxInteractionDurationMs
  maxScrollSteps : Between 0 100 l.maxScrollSteps
  maxTabSteps : Between 0 100 l.maxTabSteps
  maxPopupsPerPage : Between 0 10 l.maxPopupsPerPage
  maxDialogsPerPage : Between 0 20 l.maxDialogsPerPage
  maxTypedTextLength : Between 0 4096 l.maxTypedTextLength
  maxTargetLength : Between 1 512 l.maxTargetLength
  maxTraceEvents : Between 1 500 l.maxTraceEvents
  maxTraceBytes : Between 1 262144 l.maxTraceBytes
  maxScrollDistancePx : Between 0 100000 l.maxScrollDistancePx

structure PopupPolicy.Ok (policy : PopupPolicy) : Prop where
  origins : ∀ origin ∈ policy.allowedOrigins, origin ≠ [] ∧ origin.length ≤ 256 ∧ isPopupOrigin origin = true
  maximum : Between 1 30000 policy.maximumHandlingDurationMs

structure CookieBannerRule.Ok (maximum : ℤ) (rule : CookieBannerRule) : Prop where
  ruleId : Bounded 80 rule.ruleId
  bannerTarget : TargetOk maximum rule.bannerTarget
  action : ∃ name ∈ ["accept", "reject", "dismiss", "no_action"], rule.action = literal name
  actionTarget : ∀ target, rule.actionTarget = some target → TargetOk maximum target
  targeted : rule.action = literal "no_action" ∨ rule.actionTarget ≠ none
  maxExecutions : Between 1 3 rule.maxExecutions

/-- **A well-formed profile**: every value is within its bounds. -/
structure InteractionProfile.Ok (p : InteractionProfile) : Prop where
  limits : p.toInteractionLimits.Ok
  profileId : Bounded 128 p.profileId
  profileRevisionId : Bounded 128 p.profileRevisionId
  projectId : ∀ projectId, p.projectId = some projectId → Bounded 128 projectId
  seed : Bounded 128 p.seed
  mode : p.enabled = true → p.mode = .humanPaced
  actionDelay : p.actionDelay.Ok 10000
  typingDelay : p.typingDelay.Ok 10000
  pointerMoveDuration : p.pointerMoveDuration.Ok 5000
  scrollStep : p.scrollStep.Ok 5000
  scrollDelay : p.scrollDelay.Ok 10000
  dialogPolicy : Between 1 30000 p.dialogPolicy.maximumHandlingDurationMs
  popupPolicy : p.popupPolicy.Ok
  cookieBannerRules : ∀ rule ∈ p.cookieBannerRules, rule.Ok p.maxTargetLength
  few : p.cookieBannerRules.length ≤ 50
  distinct : (p.cookieBannerRules.map (·.ruleId)).Nodup

/-! ### What is read -/

section Members

variable {α : Type} {members : List (String × α)} {value : Unknown} {text : α → String} {a : α}

theorem isLiteral_iff {s : String} : isLiteral value s = true ↔ value = some (literal s) := by
  unfold isLiteral
  split
  · rw [beq_iff_eq, literal, Option.some.injEq, JsValue.text.injEq]
  · rename_i h
    refine ⟨fun hfalse => absurd hfalse Bool.false_ne_true, fun hvalue => ?_⟩
    exact absurd hvalue (h _)

/-- The members have the texts under which they are listed. -/
theorem of_member? (hm : ∀ member ∈ members, text member.2 = member.1) (h : member? members value = some a) :
    value = some (literal (text a)) := by
  obtain ⟨member, hmember, hread⟩ := List.exists_of_findSome?_eq_some h
  split_ifs at hread with hliteral
  cases hread
  rw [hm member hmember]
  exact isLiteral_iff.1 hliteral

end Members

theorem dialogAction?_text (action : DialogAction) : dialogAction? (literal action.text) = some action := by
  cases action <;> rfl

theorem dialogType?_text (type : DialogType) : dialogType? (literal type.text) = some type := by
  cases type <;> rfl

theorem popupAction?_text (action : PopupAction) : popupAction? (literal action.text) = some action := by
  cases action <;> rfl

theorem interactionMode?_text (mode : InteractionMode) : interactionMode? (literal mode.text) = some mode := by
  cases mode <;> rfl

section Parts

variable {value min max : Unknown} {fields : List (Text × JsValue)} {path : Path} {name : String} {low high maximum : ℤ}

theorem quiet_validateDelayPair {path : String} {read : Option DelayPair} :
    Quiet (validateDelayPair min max path maximum) read ↔
      ∃ pair, read = some pair ∧ min = some (int pair.min) ∧ max = some (int pair.max) ∧ pair.Ok maximum := by
  unfold validateDelayPair
  rw [quiet_bind]
  constructor
  · rintro ⟨_, hmin, h⟩
    obtain ⟨_, hmax, h⟩ := quiet_bind.1 h
    obtain ⟨low, rfl, rfl, hlow⟩ := quiet_requiredInteger.1 hmin
    obtain ⟨high, rfl, rfl, hhigh⟩ := quiet_requiredInteger.1 hmax
    obtain ⟨_, hordered, h⟩ := quiet_bind.1 h
    exact ⟨⟨low, high⟩, (quiet_pure.1 h).symm, rfl, rfl, hlow.1, not_lt.1 (quiet_reportIf.1 hordered), hhigh.2⟩
  · rintro ⟨pair, rfl, rfl, rfl, hpair⟩
    have hlow := hpair.low
    have hordered := hpair.ordered
    have hhigh := hpair.high
    refine ⟨some pair.min, quiet_requiredInteger.2 ⟨_, rfl, rfl, hlow, by omega⟩, ?_⟩
    refine quiet_bind.2 ⟨some pair.max, quiet_requiredInteger.2 ⟨_, rfl, rfl, by omega, hhigh⟩, ?_⟩
    exact quiet_bind.2 ⟨(), quiet_reportIf.2 (by omega), quiet_pure.2 rfl⟩

theorem quiet_limit {read : Option ℤ} : Quiet (limit fields name low high) read ↔
    ∃ n, field fields name = some (int n) ∧ read = some n ∧ Between low high n :=
  quiet_requiredInteger

/-- What is read of the limits, and from which field one of them. -/
theorem validateLimits_ok {read : Option InteractionLimits} (h : Quiet (validateLimits fields) read) :
    ∃ l, read = some l ∧ l.Ok ∧ field fields "maxInteractionDurationMs" = some (int l.maxInteractionDurationMs) ∧
      field fields "maxTargetLength" = some (int l.maxTargetLength) := by
  unfold validateLimits at h
  obtain ⟨_, hactions, h⟩ := quiet_bind.1 h
  obtain ⟨_, hduration, h⟩ := quiet_bind.1 h
  obtain ⟨_, hscroll, h⟩ := quiet_bind.1 h
  obtain ⟨_, htab, h⟩ := quiet_bind.1 h
  obtain ⟨_, hpopups, h⟩ := quiet_bind.1 h
  obtain ⟨_, hdialogs, h⟩ := quiet_bind.1 h
  obtain ⟨_, htyped, h⟩ := quiet_bind.1 h
  obtain ⟨_, htarget, h⟩ := quiet_bind.1 h
  obtain ⟨_, hevents, h⟩ := quiet_bind.1 h
  obtain ⟨_, hbytes, h⟩ := quiet_bind.1 h
  obtain ⟨_, hdistance, h⟩ := quiet_bind.1 h
  obtain ⟨maxActions, -, rfl, hactions'⟩ := quiet_limit.1 hactions
  obtain ⟨maxDuration, hfield, rfl, hduration'⟩ := quiet_limit.1 hduration
  obtain ⟨maxScrollSteps, -, rfl, hscroll'⟩ := quiet_limit.1 hscroll
  obtain ⟨maxTabSteps, -, rfl, htab'⟩ := quiet_limit.1 htab
  obtain ⟨maxPopups, -, rfl, hpopups'⟩ := quiet_limit.1 hpopups
  obtain ⟨maxDialogs, -, rfl, hdialogs'⟩ := quiet_limit.1 hdialogs
  obtain ⟨maxTypedText, -, rfl, htyped'⟩ := quiet_limit.1 htyped
  obtain ⟨maxTarget, hfieldTarget, rfl, htarget'⟩ := quiet_limit.1 htarget
  obtain ⟨maxTraceEvents, -, rfl, hevents'⟩ := quiet_limit.1 hevents
  obtain ⟨maxTraceBytes, -, rfl, hbytes'⟩ := quiet_limit.1 hbytes
  obtain ⟨maxScrollDistance, -, rfl, hdistance'⟩ := quiet_limit.1 hdistance
  exact ⟨_, (quiet_pure.1 h).symm, ⟨hactions', hduration', hscroll', htab', hpopups', hdialogs', htyped', htarget', hevents',
    hbytes', hdistance'⟩, hfield, hfieldTarget⟩

/-- The fields of an object that hold the limits. -/
structure InteractionLimits.In (l : InteractionLimits) (fields : List (Text × JsValue)) : Prop where
  maxActionsPerPage : field fields "maxActionsPerPage" = some (int l.maxActionsPerPage)
  maxInteractionDurationMs : field fields "maxInteractionDurationMs" = some (int l.maxInteractionDurationMs)
  maxScrollSteps : field fields "maxScrollSteps" = some (int l.maxScrollSteps)
  maxTabSteps : field fields "maxTabSteps" = some (int l.maxTabSteps)
  maxPopupsPerPage : field fields "maxPopupsPerPage" = some (int l.maxPopupsPerPage)
  maxDialogsPerPage : field fields "maxDialogsPerPage" = some (int l.maxDialogsPerPage)
  maxTypedTextLength : field fields "maxTypedTextLength" = some (int l.maxTypedTextLength)
  maxTargetLength : field fields "maxTargetLength" = some (int l.maxTargetLength)
  maxTraceEvents : field fields "maxTraceEvents" = some (int l.maxTraceEvents)
  maxTraceBytes : field fields "maxTraceBytes" = some (int l.maxTraceBytes)
  maxScrollDistancePx : field fields "maxScrollDistancePx" = some (int l.maxScrollDistancePx)

theorem validateLimits_of_in {l : InteractionLimits} (hl : l.Ok) (h : l.In fields) :
    Quiet (validateLimits fields) (some l) := by
  unfold validateLimits
  refine quiet_bind.2 ⟨_, quiet_limit.2 ⟨_, h.maxActionsPerPage, rfl, hl.maxActionsPerPage⟩, ?_⟩
  refine quiet_bind.2 ⟨_, quiet_limit.2 ⟨_, h.maxInteractionDurationMs, rfl, hl.maxInteractionDurationMs⟩, ?_⟩
  refine quiet_bind.2 ⟨_, quiet_limit.2 ⟨_, h.maxScrollSteps, rfl, hl.maxScrollSteps⟩, ?_⟩
  refine quiet_bind.2 ⟨_, quiet_limit.2 ⟨_, h.maxTabSteps, rfl, hl.maxTabSteps⟩, ?_⟩
  refine quiet_bind.2 ⟨_, quiet_limit.2 ⟨_, h.maxPopupsPerPage, rfl, hl.maxPopupsPerPage⟩, ?_⟩
  refine quiet_bind.2 ⟨_, quiet_limit.2 ⟨_, h.maxDialogsPerPage, rfl, hl.maxDialogsPerPage⟩, ?_⟩
  refine quiet_bind.2 ⟨_, quiet_limit.2 ⟨_, h.maxTypedTextLength, rfl, hl.maxTypedTextLength⟩, ?_⟩
  refine quiet_bind.2 ⟨_, quiet_limit.2 ⟨_, h.maxTargetLength, rfl, hl.maxTargetLength⟩, ?_⟩
  refine quiet_bind.2 ⟨_, quiet_limit.2 ⟨_, h.maxTraceEvents, rfl, hl.maxTraceEvents⟩, ?_⟩
  refine quiet_bind.2 ⟨_, quiet_limit.2 ⟨_, h.maxTraceBytes, rfl, hl.maxTraceBytes⟩, ?_⟩
  refine quiet_bind.2 ⟨_, quiet_limit.2 ⟨_, h.maxScrollDistancePx, rfl, hl.maxScrollDistancePx⟩, ?_⟩
  exact quiet_pure.2 rfl

/-! The policies -/

theorem quiet_validateDialogTypes (byType : List (DialogType × DialogAction)) :
    Quiet (validateDialogTypes (DialogPolicy.byTypeValue byType)) byType := by
  unfold DialogPolicy.byTypeValue validateDialogTypes
  refine Collect.quiet_collectFrom_map fun _ entry _ => ?_
  have htype : dialogType? (JsValue.text (asciiUnits entry.1.text)) = some entry.1 := dialogType?_text entry.1
  simp only [validateDialogType, htype, dialogAction?_text]
  exact quiet_pure.2 rfl

theorem validateDialogPolicy_ok {read : DialogPolicy} (h : Quiet (validateDialogPolicy value) read) :
    Between 1 30000 read.maximumHandlingDurationMs := by
  unfold validateDialogPolicy at h
  split at h
  · obtain ⟨_, -, h⟩ := quiet_bind.1 h
    obtain ⟨byType, -, h⟩ := quiet_bind.1 h
    obtain ⟨_, hmaximum, h⟩ := quiet_bind.1 h
    obtain ⟨n, -, rfl, hn⟩ := quiet_requiredInteger.1 hmaximum
    rw [← quiet_pure.1 h]
    exact hn
  · exact absurd h Collect.not_quiet_report_bind

theorem quiet_validateDialogPolicy {policy : DialogPolicy} (h : Between 1 30000 policy.maximumHandlingDurationMs) :
    Quiet (validateDialogPolicy (JsValue.object (record policy.entries))) policy := by
  have hplain : ∀ entry ∈ policy.entries, Plain entry.1 := plain_cons rfl (plain_cons rfl (plain_cons rfl plain_nil))
  have hdistinct : (policy.entries.map Prod.fst).Nodup := by simp [DialogPolicy.entries]
  have haction := field_of_mem (plain_ofList rfl) hplain hdistinct (.head _)
  have htypes := field_of_mem (plain_ofList rfl) hplain hdistinct (.tail _ (.head _))
  have hmaximum := field_of_mem (plain_ofList rfl) hplain hdistinct (.tail _ (.tail _ (.head _)))
  unfold validateDialogPolicy
  simp only [haction, htypes, dialogAction?_text]
  refine quiet_bind.2 ⟨(), quiet_reportIf.2 (by simp), quiet_bind.2 ⟨_, quiet_validateDialogTypes _, ?_⟩⟩
  exact quiet_bind.2 ⟨_, quiet_requiredInteger.2 ⟨_, hmaximum, rfl, h⟩, quiet_pure.2 rfl⟩

theorem validatePopupOrigin_ok {index : ℕ} {origin : JsValue} {read : Option Text}
    (h : Quiet (validatePopupOrigin index origin) read) :
    ∃ t, read = some t ∧ t ≠ [] ∧ t.length ≤ 256 ∧ isPopupOrigin t = true := by
  unfold validatePopupOrigin at h
  simp only at h
  split at h
  · rename_i t
    split_ifs at h with hbad
    · exact absurd h not_quiet_refuse
    · rw [not_or, not_or, not_lt] at hbad
      exact ⟨t, (quiet_pure.1 h).symm, hbad.1, hbad.2.1, by simpa using hbad.2.2⟩
  · exact absurd h not_quiet_refuse

theorem validatePopupPolicy_ok {read : PopupPolicy} (h : Quiet (validatePopupPolicy value) read) : read.Ok := by
  unfold validatePopupPolicy at h
  split at h
  · obtain ⟨_, -, h⟩ := quiet_bind.1 h
    obtain ⟨origins, horigins, h⟩ := quiet_bind.1 h
    obtain ⟨_, hmaximum, h⟩ := quiet_bind.1 h
    obtain ⟨n, -, rfl, hn⟩ := quiet_requiredInteger.1 hmaximum
    rw [← quiet_pure.1 h]
    refine ⟨?_, hn⟩
    unfold validatePopupOrigins at horigins
    split at horigins
    · rename_i items _
      have hitems : List.Forall₂ (fun _ t => t ≠ [] ∧ t.length ≤ 256 ∧ isPopupOrigin t = true) items origins := by
        refine Collect.of_quiet_collectFrom ?_ horigins
        exact fun _ _ _ hread => validatePopupOrigin_ok hread
      exact Collect.forall_of_forall₂ hitems
    · exact absurd horigins Collect.not_quiet_report_bind
  · exact absurd h Collect.not_quiet_report_bind

theorem quiet_validatePopupPolicy {policy : PopupPolicy} (h : policy.Ok) :
    Quiet (validatePopupPolicy (JsValue.object (record policy.entries))) policy := by
  have hplain : ∀ entry ∈ policy.entries, Plain entry.1 := plain_cons rfl (plain_cons rfl (plain_cons rfl plain_nil))
  have hdistinct : (policy.entries.map Prod.fst).Nodup := by simp [PopupPolicy.entries]
  have haction := field_of_mem (plain_ofList rfl) hplain hdistinct (.head _)
  have horigins := field_of_mem (plain_ofList rfl) hplain hdistinct (.tail _ (.head _))
  have hmaximum := field_of_mem (plain_ofList rfl) hplain hdistinct (.tail _ (.tail _ (.head _)))
  unfold validatePopupPolicy
  simp only [haction, horigins, popupAction?_text]
  refine quiet_bind.2 ⟨(), quiet_reportIf.2 (by simp), quiet_bind.2 ⟨policy.allowedOrigins, ?_, ?_⟩⟩
  · refine Collect.quiet_collectFrom_map fun _ origin horigin => ?_
    obtain ⟨hne, hlength, hform⟩ := h.origins origin horigin
    simp only [validatePopupOrigin]
    rw [if_neg]
    · exact quiet_pure.2 rfl
    · simp [hne, hlength, hform]
  · exact quiet_bind.2 ⟨_, quiet_requiredInteger.2 ⟨_, hmaximum, rfl, h.maximum⟩, quiet_pure.2 rfl⟩

/-! The rules -/

theorem validateOptionalTarget_ok {read : Option InteractionTargetDescriptor} {target : InteractionTargetDescriptor}
    (h : Quiet (validateOptionalTarget value path maximum) read) (hread : read = some target) :
    TargetOk maximum target := by
  unfold validateOptionalTarget at h
  split at h
  · rw [← quiet_pure.1 h] at hread
    cases hread
  · obtain ⟨_, hfound, hok⟩ := validateTarget_ok h
    rw [hread] at hfound
    cases hfound
    exact hok

theorem quiet_validateOptionalTarget {target : Option InteractionTargetDescriptor}
    (h : ∀ t, target = some t → TargetOk maximum t) :
    Quiet (validateOptionalTarget (target.map (·.toValue)) path maximum) target := by
  cases target with
  | none => exact quiet_pure.2 rfl
  | some t => exact validateTarget_toValue (h t rfl)

theorem includesString_literal {names : List String} {s : String} :
    includesString names (literal s) = names.any fun name => asciiUnits s == asciiUnits name := rfl

theorem validateCookieRule_ok {index : ℕ} {rule : JsValue} {read : Option CookieBannerRule}
    (h : Quiet (validateCookieRule maximum index rule) read) : ∃ r, read = some r ∧ r.Ok maximum := by
  unfold validateCookieRule at h
  simp only at h
  split at h
  · rename_i fields
    obtain ⟨_, hruleId, h⟩ := quiet_bind.1 h
    obtain ⟨_, hbanner, h⟩ := quiet_bind.1 h
    obtain ⟨_, haction, h⟩ := quiet_bind.1 h
    obtain ⟨actionTarget, htarget, h⟩ := quiet_bind.1 h
    obtain ⟨_, htargeted, h⟩ := quiet_bind.1 h
    obtain ⟨_, hexecutions, h⟩ := quiet_bind.1 h
    obtain ⟨ruleId, -, rfl, hruleId'⟩ := quiet_requiredString.1 hruleId
    obtain ⟨bannerTarget, rfl, hbanner'⟩ := validateTarget_ok hbanner
    obtain ⟨maxExecutions, -, rfl, hexecutions'⟩ := quiet_requiredInteger.1 hexecutions
    -- no issue was reported: the action is one of the four names, with a target where it needs one
    obtain ⟨name, hname, hliteral⟩ : ∃ name ∈ ["accept", "reject", "dismiss", "no_action"],
        field fields "action" = some (literal name) := by
      have hsome := quiet_reportIf.1 haction
      rw [Bool.not_eq_true, List.all_eq_false] at hsome
      obtain ⟨name, hname, hnot⟩ := hsome
      refine ⟨name, hname, isLiteral_iff.1 ?_⟩
      simpa using hnot
    have hneeds := quiet_reportIf.1 htargeted
    rw [hliteral] at h hneeds
    have hor : name = "no_action" ∨ actionTarget ≠ none := by
      by_contra hnot
      rw [not_or, not_not] at hnot
      refine hneeds ⟨?_, hnot.2⟩
      rw [includesString_literal, List.any_eq_true]
      refine ⟨name, ?_, beq_self_eq_true _⟩
      simp only [List.mem_cons, List.not_mem_nil, or_false] at hname ⊢
      rcases hname with hname | hname | hname | hname
      · exact .inl hname
      · exact .inr (.inl hname)
      · exact .inr (.inr hname)
      · exact absurd hname hnot.1
    have hincluded : includesString ["accept", "reject", "dismiss", "no_action"] (some (literal name)) ∧
        (isLiteral (some (literal name)) "no_action" ∨ actionTarget ≠ none) := by
      refine ⟨?_, hor.imp_left fun h => ?_⟩
      · rw [includesString_literal, List.any_eq_true]
        exact ⟨name, hname, beq_self_eq_true _⟩
      · rw [h]
        exact isLiteral_iff.2 rfl
    simp only [if_pos hincluded] at h
    refine ⟨_, (quiet_pure.1 h).symm, hruleId', hbanner', ⟨name, hname, rfl⟩, fun t ht => ?_, ?_, hexecutions'⟩
    · exact validateOptionalTarget_ok htarget ht
    · exact hor.imp_left fun h => congrArg literal h
  · exact absurd h not_quiet_refuse

theorem CookieBannerRule.field {rule : CookieBannerRule} {key : String} (hkey : Plain key)
    (h : (key, value) ∈ rule.entries) : ProxyManager.field (record rule.entries) key = value := by
  refine field_of_mem hkey ?_ (by simp [CookieBannerRule.entries]) h
  exact plain_cons rfl (plain_cons rfl (plain_cons rfl (plain_cons rfl (plain_cons rfl plain_nil))))

theorem quiet_validateCookieRule {rule : CookieBannerRule} {index : ℕ} (h : rule.Ok maximum) :
    Quiet (validateCookieRule maximum index rule.toValue) (some rule) := by
  have hruleId := rule.field (plain_ofList rfl) (.head _)
  have hbanner := rule.field (plain_ofList rfl) (.tail _ (.head _))
  have haction := rule.field (plain_ofList rfl) (.tail _ (.tail _ (.head _)))
  have htarget := rule.field (plain_ofList rfl) (.tail _ (.tail _ (.tail _ (.head _))))
  have hexecutions := rule.field (plain_ofList rfl) (.tail _ (.tail _ (.tail _ (.tail _ (.head _)))))
  obtain ⟨name, hname, hliteral⟩ := h.action
  have hone : (some rule.action : Unknown) = some (literal name) := congrArg some hliteral
  have hincluded : includesString ["accept", "reject", "dismiss", "no_action"] (some rule.action) ∧
      (isLiteral (some rule.action) "no_action" ∨ rule.actionTarget ≠ none) := by
    refine ⟨?_, h.targeted.imp_left fun h => isLiteral_iff.2 (congrArg some h)⟩
    rw [hone, includesString_literal, List.any_eq_true]
    exact ⟨name, hname, beq_self_eq_true _⟩
  unfold validateCookieRule CookieBannerRule.toValue
  simp only [haction]
  refine quiet_bind.2 ⟨_, quiet_requiredString.2 ⟨_, hruleId, rfl, h.ruleId⟩, ?_⟩
  refine quiet_bind.2 ⟨some rule.bannerTarget, ?_, ?_⟩
  · rw [hbanner]
    exact validateTarget_toValue h.bannerTarget
  refine quiet_bind.2 ⟨(), quiet_reportIf.2 ?_, ?_⟩
  · rw [Bool.not_eq_true, List.all_eq_false]
    refine ⟨name, hname, ?_⟩
    rw [hone, isLiteral_iff.2 rfl]
    decide
  refine quiet_bind.2 ⟨rule.actionTarget, ?_, ?_⟩
  · rw [htarget]
    exact quiet_validateOptionalTarget h.actionTarget
  refine quiet_bind.2 ⟨(), quiet_reportIf.2 ?_, ?_⟩
  · -- the action that needs no target is none of the three others
    rintro ⟨hneeds, hnone⟩
    have hno := h.targeted.resolve_right (fun h => h hnone)
    rw [hno, includesString_literal] at hneeds
    exact absurd hneeds (by decide)
  refine quiet_bind.2 ⟨_, quiet_requiredInteger.2 ⟨_, hexecutions, rfl, h.maxExecutions⟩, ?_⟩
  simp only [if_pos hincluded]
  exact quiet_pure.2 rfl

theorem validateCookieRules_ok {read : List CookieBannerRule} (h : Quiet (validateCookieRules value maximum) read) :
    read.length ≤ 50 ∧ ∀ rule ∈ read, rule.Ok maximum := by
  unfold validateCookieRules at h
  simp only at h
  split at h
  · rename_i items
    split_ifs at h with hfew
    · exact absurd h Collect.not_quiet_report_bind
    · have hitems : List.Forall₂ (fun _ rule => rule.Ok maximum) items read := by
        refine Collect.of_quiet_collectFrom ?_ h
        exact fun _ _ _ hread => validateCookieRule_ok hread
      rw [← hitems.length_eq]
      exact ⟨by omega, Collect.forall_of_forall₂ hitems⟩
  · exact absurd h Collect.not_quiet_report_bind

theorem quiet_validateCookieRules {rules : List CookieBannerRule} (hfew : rules.length ≤ 50)
    (h : ∀ rule ∈ rules, rule.Ok maximum) :
    Quiet (validateCookieRules (JsValue.array (rules.map (·.toValue))) maximum) rules := by
  unfold validateCookieRules
  simp only
  rw [if_neg (by rw [List.length_map]; omega)]
  exact Collect.quiet_collectFrom_map fun _ rule hrule => quiet_validateCookieRule (h rule hrule)

end Parts

/-! ### The whole profile -/

section Profile

variable {value : Unknown} {fields : List (Text × JsValue)} {p : InteractionProfile}

theorem InteractionProfile.field {key : String} (hkey : Plain key) (h : (key, value) ∈ p.entries) :
    ProxyManager.field (record p.entries) key = value := by
  refine field_of_mem hkey ?_ ?_ h
  · unfold InteractionProfile.entries
    repeat' first | exact plain_nil | refine plain_cons rfl ?_
  · simp [InteractionProfile.entries]

theorem validateProjectId_ok {read : Option Text} {t : Text} (h : Quiet (validateProjectId value) read)
    (hread : read = some t) : Bounded 128 t := by
  unfold validateProjectId at h
  split at h
  · rw [← quiet_pure.1 h] at hread
    cases hread
  · exact (quiet_boundedString.1 h).2.2 t hread

theorem quiet_validateProjectId {projectId : Option Text} (h : ∀ t, projectId = some t → Bounded 128 t) :
    Quiet (validateProjectId (some (projectId.elim .null .text))) projectId := by
  cases projectId with
  | none => exact quiet_pure.2 rfl
  | some t => exact quiet_requiredString.2 ⟨t, rfl, rfl, h t rfl⟩

theorem resultOf_ok {α : Type} {x : Validate (Option α)} {a : α} : resultOf x = .ok a ↔ Quiet x (some a) := by
  obtain ⟨read, errors⟩ := x
  unfold resultOf Collect.Quiet
  cases errors <;> cases read <;> simp

theorem boolean?_eq_some {b : Bool} : boolean? value = some b ↔ value = some (.bool b) := by
  unfold boolean?
  split
  · simp
  · rename_i h
    exact ⟨fun hnone => (by cases hnone), fun hvalue => absurd hvalue (h b)⟩

/-- **A profile that is accepted is well-formed**, and its time limit is that of the value. -/
theorem profileShape_ok (h : Quiet (profileShape fields) (some p)) :
    p.Ok ∧ ProxyManager.field fields "maxInteractionDurationMs" = some (int p.maxInteractionDurationMs) := by
  unfold profileShape at h
  obtain ⟨_, -, h⟩ := quiet_bind.1 h
  obtain ⟨_, hprofileId, h⟩ := quiet_bind.1 h
  obtain ⟨_, hrevision, h⟩ := quiet_bind.1 h
  obtain ⟨projectId, hprojectId, h⟩ := quiet_bind.1 h
  obtain ⟨_, hseed, h⟩ := quiet_bind.1 h
  obtain ⟨_, henabled, h⟩ := quiet_bind.1 h
  obtain ⟨_, hmode, h⟩ := quiet_bind.1 h
  obtain ⟨_, haction, h⟩ := quiet_bind.1 h
  obtain ⟨_, htyping, h⟩ := quiet_bind.1 h
  obtain ⟨_, hpointer, h⟩ := quiet_bind.1 h
  obtain ⟨_, hscroll, h⟩ := quiet_bind.1 h
  obtain ⟨_, hscrollDelay, h⟩ := quiet_bind.1 h
  obtain ⟨_, hlimits, h⟩ := quiet_bind.1 h
  obtain ⟨_, hincremental, h⟩ := quiet_bind.1 h
  obtain ⟨dialogPolicy, hdialog, h⟩ := quiet_bind.1 h
  obtain ⟨popupPolicy, hpopup, h⟩ := quiet_bind.1 h
  obtain ⟨rules, hrules, h⟩ := quiet_bind.1 h
  obtain ⟨_, hdistinct, h⟩ := quiet_bind.1 h
  obtain ⟨_, hconflict, h⟩ := quiet_bind.1 h
  obtain ⟨profileId, -, rfl, hprofileId'⟩ := quiet_requiredString.1 hprofileId
  obtain ⟨profileRevisionId, -, rfl, hrevision'⟩ := quiet_requiredString.1 hrevision
  obtain ⟨seed, -, rfl, hseed'⟩ := quiet_requiredString.1 hseed
  obtain ⟨action, rfl, -, -, haction'⟩ := quiet_validateDelayPair.1 haction
  obtain ⟨typing, rfl, -, -, htyping'⟩ := quiet_validateDelayPair.1 htyping
  obtain ⟨pointer, rfl, -, -, hpointer'⟩ := quiet_validateDelayPair.1 hpointer
  obtain ⟨scroll, rfl, -, -, hscroll'⟩ := quiet_validateDelayPair.1 hscroll
  obtain ⟨scrollDelay, rfl, -, -, hscrollDelay'⟩ := quiet_validateDelayPair.1 hscrollDelay
  obtain ⟨limits, rfl, hlimits', hduration, htarget⟩ := validateLimits_ok hlimits
  obtain ⟨enabled, henabled'⟩ := Option.ne_none_iff_exists'.1 (quiet_reportIf.1 henabled)
  obtain ⟨mode, hmode'⟩ := Option.ne_none_iff_exists'.1 (quiet_reportIf.1 hmode)
  obtain ⟨incremental, hincremental'⟩ := Option.ne_none_iff_exists'.1 (quiet_reportIf.1 hincremental)
  have hmaximum : boundedInteger? (ProxyManager.field fields "maxTargetLength") 1 512 = some limits.maxTargetLength :=
    boundedInteger?_iff.2 ⟨htarget, hlimits'.maxTargetLength⟩
  rw [hmaximum] at hrules
  obtain ⟨hfew, hrules'⟩ := validateCookieRules_ok hrules
  have hmode'' := quiet_reportIf.1 hconflict
  simp only [henabled', hmode', hincremental'] at h hmode''
  cases Option.some.inj (quiet_pure.1 h)
  refine ⟨⟨hlimits', hprofileId', hrevision', fun t ht => validateProjectId_ok hprojectId ht, hseed', ?_, haction',
    htyping', hpointer', hscroll', hscrollDelay', validateDialogPolicy_ok hdialog, validatePopupPolicy_ok hpopup,
    hrules', hfew, not_not.1 (quiet_reportIf.1 hdistinct)⟩, hduration⟩
  intro hon
  cases mode with
  | disabled => exact absurd ⟨congrArg some hon, rfl⟩ hmode''
  | humanPaced => rfl

/-- The limits stand in the fields of the profile. -/
theorem InteractionProfile.limits_in (p : InteractionProfile) : p.toInteractionLimits.In (record p.entries) := by
  constructor <;> exact p.field (plain_ofList rfl) (by simp [InteractionProfile.entries])

/-- **A well-formed profile is accepted as itself.** -/
theorem quiet_profileShape (h : p.Ok) : Quiet (profileShape (record p.entries)) (some p) := by
  have hread {key : String} {value : Unknown} (hkey : Plain key) (hentry : (key, value) ∈ p.entries) :
      ProxyManager.field (record p.entries) key = value := p.field hkey hentry
  have hversion : ProxyManager.field (record p.entries) "schemaVersion" = some (int 1) :=
    hread (plain_ofList rfl) (by simp [InteractionProfile.entries])
  have henabled : ProxyManager.field (record p.entries) "enabled" = some (.bool p.enabled) :=
    hread (plain_ofList rfl) (by simp [InteractionProfile.entries])
  have hmode : ProxyManager.field (record p.entries) "mode" = some (literal p.mode.text) :=
    hread (plain_ofList rfl) (by simp [InteractionProfile.entries])
  have hincremental : ProxyManager.field (record p.entries) "incrementalScroll" = some (.bool p.incrementalScroll) :=
    hread (plain_ofList rfl) (by simp [InteractionProfile.entries])
  have hprojectId : ProxyManager.field (record p.entries) "projectId" = some (p.projectId.elim .null .text) :=
    hread (plain_ofList rfl) (by simp [InteractionProfile.entries])
  have hdialog : ProxyManager.field (record p.entries) "dialogPolicy" = some (.object (record p.dialogPolicy.entries)) :=
    hread (plain_ofList rfl) (by simp [InteractionProfile.entries])
  have hpopup : ProxyManager.field (record p.entries) "popupPolicy" = some (.object (record p.popupPolicy.entries)) :=
    hread (plain_ofList rfl) (by simp [InteractionProfile.entries])
  have hrules : ProxyManager.field (record p.entries) "cookieBannerRules" =
      some (.array (p.cookieBannerRules.map (·.toValue))) :=
    hread (plain_ofList rfl) (by simp [InteractionProfile.entries])
  have hmaximum : boundedInteger? (ProxyManager.field (record p.entries) "maxTargetLength") 1 512 = some p.maxTargetLength :=
    boundedInteger?_iff.2 ⟨p.limits_in.maxTargetLength, h.limits.maxTargetLength⟩
  have hdelay {low high : String} {maximum : ℤ} {path : String} {pair : DelayPair} (hpair : pair.Ok maximum)
      (hlow : Plain low) (hhigh : Plain high) (hmin : (low, some (int pair.min)) ∈ p.entries)
      (hmax : (high, some (int pair.max)) ∈ p.entries) :
      Quiet (validateDelayPair (ProxyManager.field (record p.entries) low) (ProxyManager.field (record p.entries) high)
        path maximum) (some pair) :=
    quiet_validateDelayPair.2 ⟨pair, rfl, hread hlow hmin, hread hhigh hmax, hpair⟩
  unfold profileShape
  simp only [hversion, henabled, hmode, hincremental, hprojectId, hdialog, hpopup, hrules, hmaximum,
    interactionMode?_text, boolean?_eq_some.2 rfl]
  refine quiet_bind.2 ⟨(), quiet_reportIf.2 (by decide), ?_⟩
  refine quiet_bind.2 ⟨_, quiet_requiredString.2 ⟨p.profileId, hread (plain_ofList rfl) ?_, rfl, h.profileId⟩, ?_⟩
  · simp [InteractionProfile.entries]
  refine quiet_bind.2 ⟨_, quiet_requiredString.2 ⟨p.profileRevisionId, hread (plain_ofList rfl) ?_, rfl,
    h.profileRevisionId⟩, ?_⟩
  · simp [InteractionProfile.entries]
  refine quiet_bind.2 ⟨p.projectId, quiet_validateProjectId h.projectId, ?_⟩
  refine quiet_bind.2 ⟨_, quiet_requiredString.2 ⟨p.seed, hread (plain_ofList rfl) ?_, rfl, h.seed⟩, ?_⟩
  · simp [InteractionProfile.entries]
  refine quiet_bind.2 ⟨(), quiet_reportIf.2 (by simp), ?_⟩
  refine quiet_bind.2 ⟨(), quiet_reportIf.2 (by simp), ?_⟩
  refine quiet_bind.2 ⟨_, hdelay h.actionDelay (plain_ofList rfl) (plain_ofList rfl) ?_ ?_, ?_⟩
  · simp [InteractionProfile.entries]
  · simp [InteractionProfile.entries]
  refine quiet_bind.2 ⟨_, hdelay h.typingDelay (plain_ofList rfl) (plain_ofList rfl) ?_ ?_, ?_⟩
  · simp [InteractionProfile.entries]
  · simp [InteractionProfile.entries]
  refine quiet_bind.2 ⟨_, hdelay h.pointerMoveDuration (plain_ofList rfl) (plain_ofList rfl) ?_ ?_, ?_⟩
  · simp [InteractionProfile.entries]
  · simp [InteractionProfile.entries]
  refine quiet_bind.2 ⟨_, hdelay h.scrollStep (plain_ofList rfl) (plain_ofList rfl) ?_ ?_, ?_⟩
  · simp [InteractionProfile.entries]
  · simp [InteractionProfile.entries]
  refine quiet_bind.2 ⟨_, hdelay h.scrollDelay (plain_ofList rfl) (plain_ofList rfl) ?_ ?_, ?_⟩
  · simp [InteractionProfile.entries]
  · simp [InteractionProfile.entries]
  refine quiet_bind.2 ⟨_, validateLimits_of_in h.limits p.limits_in, ?_⟩
  refine quiet_bind.2 ⟨(), quiet_reportIf.2 (by simp), ?_⟩
  refine quiet_bind.2 ⟨_, quiet_validateDialogPolicy h.dialogPolicy, ?_⟩
  refine quiet_bind.2 ⟨_, quiet_validatePopupPolicy h.popupPolicy, ?_⟩
  refine quiet_bind.2 ⟨_, quiet_validateCookieRules h.few h.cookieBannerRules, ?_⟩
  refine quiet_bind.2 ⟨(), quiet_reportIf.2 (not_not.2 h.distinct), ?_⟩
  refine quiet_bind.2 ⟨(), quiet_reportIf.2 ?_, quiet_pure.2 rfl⟩
  rintro ⟨hon, hoff⟩
  rw [h.mode (Option.some.inj hon)] at hoff
  cases hoff

theorem validateInteractionProfile_ok (h : validateInteractionProfile value = .ok p) :
    ∃ fields, value = some (.object fields) ∧ p.Ok ∧
      ProxyManager.field fields "maxInteractionDurationMs" = some (int p.maxInteractionDurationMs) := by
  unfold validateInteractionProfile at h
  split at h
  · rename_i fields
    exact ⟨fields, rfl, profileShape_ok (resultOf_ok.1 h)⟩
  · cases h

/-- **A profile that has been accepted is accepted again, unchanged.** -/
theorem validateInteractionProfile_again (h : validateInteractionProfile value = .ok p) :
    validateInteractionProfile (some p.toValue) = .ok p := by
  obtain ⟨fields, rfl, hp, -⟩ := validateInteractionProfile_ok h
  exact resultOf_ok.2 (quiet_profileShape hp)

end Profile

end OfflineWebArchiver.Interaction
