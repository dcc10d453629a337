import OfflineWebArchiver.Lib.Pointers
import OfflineWebArchiver.Scope.Decision

/-!
# Canonical links

* `classifyCanonical`: what becomes of the canonical URL that a page names. The known aliases are
  followed from the canonical URL on to see whether they lead back to the page.
-/

namespace OfflineWebArchiver.Scope

/-- `canonicalPolicy.external`. -/
inductive ExternalCanonical
  | ignore | reject
  deriving DecidableEq

/-- A profile with its `canonicalPolicy`. -/
structure CanonicalProfile extends SiteProfile where
  external : ExternalCanonical
  deriving DecidableEq

inductive CanonicalClassification
  | acceptedSameIdentity | acceptedNewIdentity | knownAlias | ignoredExternal | rejectedOutOfScope | rejectedInvalid | conflict
  deriving DecidableEq

structure CanonicalDecision where
  classification : CanonicalClassification
  reasonCodes : List String
  sourceIdentityHash : Option JsString
  canonicalIdentityHash : Option JsString
  deriving DecidableEq

/-- `knownAliases[identity]`; an object has one value for each key. -/
def aliasOf (knownAliases : List (JsString × JsString)) (identity : JsString) : Option JsString :=
  (knownAliases.find? (·.1 == identity)).map (·.2)

variable (env : ScopeEnv)

/-- The input for the canonical URL. -/
def canonicalInput (source : ScopeEvaluationInput) (sourceDecision : ScopeDecision) (canonicalUrl : JsString) :
    ScopeEvaluationInput :=
  { source with
    url := none
    rawUrl := some canonicalUrl
    baseUrl := (sourceDecision.normalizedUrl.or source.sourceUrl).or source.baseUrl }

/-- The decision on two identities that differ: whether the walk closed a cycle, and the alias of
the source. -/
def aliasDecision (source canonical : JsString) (existing : Option JsString) (cycle : Bool) : CanonicalDecision :=
  let decision (classification : CanonicalClassification) (reason : String) : CanonicalDecision :=
    ⟨classification, [reason], some source, some canonical⟩
  if cycle then decision .conflict "CANONICAL_CYCLE"
  else
    match existing with
    | none => decision .acceptedNewIdentity "CANONICAL_NEW_IDENTITY"
    | some existing =>
      if existing = canonical then decision .knownAlias "CANONICAL_ALIAS_KNOWN"
      else decision .conflict "CANONICAL_CONFLICT"

/-- The steps of `classifyCanonical` after the two identities are known to differ. -/
def classifyAlias (source canonical : JsString) (knownAliases : List (JsString × JsString)) : Fueled CanonicalDecision := do
  let cycle ← Pointers.chase (aliasOf knownAliases) source canonical
  return aliasDecision source canonical (aliasOf knownAliases source) cycle

/-- The steps of `classifyCanonical` after the two evaluations. -/
def classifyDecisions (external : ExternalCanonical) (sourceDecision canonical : ScopeDecision)
    (knownAliases : List (JsString × JsString)) : Fueled CanonicalDecision :=
  let decision (classification : CanonicalClassification) (reasons : List String) : CanonicalDecision :=
    ⟨classification, reasons, sourceDecision.identityHash, canonical.identityHash⟩
  match sourceDecision.identityHash, canonical.identityHash with
  | some sourceHash, some canonicalHash =>
    if canonical.eligible = false then
      pure (decision
        (if external = .ignore ∧ .domainNotAllowed ∈ canonical.reasonCodes then .ignoredExternal else .rejectedOutOfScope)
        (canonical.reasonCodes.map ScopeReasonCode.text))
    else if sourceHash = canonicalHash then pure (decision .acceptedSameIdentity ["CANONICAL_SAME_IDENTITY"])
    else classifyAlias sourceHash canonicalHash knownAliases
  | _, _ => pure (decision .rejectedInvalid ["CANONICAL_INVALID"])

/-- `classifyCanonical(profile, source, canonicalUrl, knownAliases)`. -/
def classifyCanonical (profile : CanonicalProfile) (source : ScopeEvaluationInput) (canonicalUrl : JsString)
    (knownAliases : List (JsString × JsString)) : Fueled (Except ScopeThrown CanonicalDecision) :=
  match evaluateScope env profile.toSiteProfile source with
  | .error thrown => pure (.error thrown)
  | .ok sourceDecision =>
    match evaluateScope env profile.toSiteProfile (canonicalInput source sourceDecision canonicalUrl) with
    | .error thrown => pure (.error thrown)
    | .ok canonical => do return .ok (← classifyDecisions profile.external sourceDecision canonical knownAliases)

end OfflineWebArchiver.Scope
