import OfflineWebArchiver.Scope.Profile

/-!
# Scope decisions

`evaluateScope` decides whether a URL belongs to the archive of a profile.

* `resolveTarget`: the URL that is decided on.
* `applyDomainRules`, `applyPathRules`, `scanQuery`: what the rules say of it.
* `evaluateScope`: the decision.
-/

namespace OfflineWebArchiver.Scope

open Checks

/-- What an evaluation reads of a `SiteProfile`. -/
structure SiteProfile extends SiteProfileDraft where
  profileId : JsString
  revisionId : JsString
  deriving DecidableEq

inductive ScopeDiscoveryType
  | seed | domLink | canonical | redirect | sitemap | historyApi | navigationAction | jsonDiscovery | manual
  deriving DecidableEq

def ScopeDiscoveryType.text : ScopeDiscoveryType → JsString
  | .seed => "seed".toList
  | .domLink => "dom-link".toList
  | .canonical => "canonical".toList
  | .redirect => "redirect".toList
  | .sitemap => "sitemap".toList
  | .historyApi => "history-api".toList
  | .navigationAction => "navigation-action".toList
  | .jsonDiscovery => "json-discovery".toList
  | .manual => "manual".toList

structure ScopeEvaluationInput where
  rawUrl : Option JsString := none
  url : Option JsString := none
  sourceUrl : Option JsString := none
  baseUrl : Option JsString := none
  sourceDepth : Option ℤ := none
  depth : Option ℤ := none
  discoveryType : Option ScopeDiscoveryType := none
  profileRevision : Option JsString := none
  currentEligibleCount : Option ℤ := none
  knownIdentityHashes : List JsString := []
  deriving DecidableEq

inductive MatchedRule
  | domain (ruleId : JsString) (action : RuleEffect) (kind : DomainMatch)
  | path (ruleId : JsString) (action : RuleEffect) (kind : PathMatch)
  | query (ruleId : JsString) (action : QueryClassification)
  deriving DecidableEq

inductive SiteRelation
  | sameOrigin | sameHost | sameRegistrableDomain | external | unknown
  deriving DecidableEq

structure ScopeDecision where
  decisionId : JsString
  profileId : JsString
  profileRevisionId : JsString
  eligible : Bool
  shouldQueue : Bool
  reasonCodes : List ScopeReasonCode
  normalizedUrl : Option JsString
  identityUrl : Option JsString
  identityHash : Option JsString
  displayUrl : Option JsString
  matchedRuleIds : List JsString
  matchedRules : List MatchedRule
  depth : ℤ
  hostClass : IpAddressClass
  networkAuthorized : Bool
  networkPreflightRequired : Bool
  relation : SiteRelation
  identityKeys : List JsString
  omittedKeys : List JsString
  deniedKeys : List JsString
  deriving DecidableEq

variable (env : ScopeEnv)

/-- `parseSiteProfile(value)`, with the schema of the draft. -/
def parseSiteProfile (profile : SiteProfile) : Except ScopeThrown SiteProfile := do
  let draft ← normalizeSiteProfileDraft env profile.toSiteProfileDraft
  return { profile with toSiteProfileDraft := draft }

/-- `safeFailure(profile, depth, code)`. -/
def safeFailure (profile : SiteProfile) (depth : ℤ) (code : ScopeReasonCode) : ScopeDecision where
  decisionId := env.sha256 ("1|".toList ++ profile.profileId ++ '|' :: profile.revisionId ++ '|' :: code.text.toList ++
    '|' :: (toString depth).toList)
  profileId := profile.profileId
  profileRevisionId := profile.revisionId
  eligible := false
  shouldQueue := false
  reasonCodes := [code]
  normalizedUrl := none
  identityUrl := none
  identityHash := none
  displayUrl := none
  matchedRuleIds := []
  matchedRules := []
  depth := depth
  hostClass := .invalid
  networkAuthorized := false
  networkPreflightRequired := true
  relation := .unknown
  identityKeys := []
  omittedKeys := []
  deniedKeys := []

/-! ### The target -/

/-- The host under which the rules are compared, and the URL that is decided on. -/
structure Target where
  host : JsString
  url : Url
  deriving DecidableEq

/-- `requestedDepth`. -/
def ScopeEvaluationInput.requestedDepth (input : ScopeEvaluationInput) : ℤ :=
  (input.sourceDepth.or input.depth).getD 0

/-- `depth`. -/
def ScopeEvaluationInput.boundedDepth (input : ScopeEvaluationInput) : ℤ :=
  if 0 ≤ input.requestedDepth ∧ input.requestedDepth ≤ 1001 then input.requestedDepth else 0

/-- The URL text of an input that has one. -/
def ScopeEvaluationInput.text? (input : ScopeEvaluationInput) : Option JsString :=
  match input.rawUrl, input.url with
  | some text, none => some text
  | none, some text => some text
  | _, _ => none

/-- The steps of `evaluateScope` up to the canonical URL. -/
def resolveTarget (profile : SiteProfile) (input : ScopeEvaluationInput) : Except ScopeReasonCode Target := do
  failIf .depthInvalid (input.boundedDepth ≠ input.requestedDepth)
  failIf .pageCountInvalid ((input.currentEligibleCount.all fun n => 0 ≤ n && n ≤ 10000000) = false)
  failIf .profileRevisionMismatch ((input.profileRevision.all (· == profile.revisionId)) = false)
  match input.text? with
  | none => .error .urlInvalid
  | some rawUrl =>
    match validateRawUrl rawUrl with
    | some code => .error code
    | none =>
      match env.parseUrl rawUrl (some ((input.sourceUrl.or input.baseUrl).getD profile.baseUrl)) with
      | none => .error .urlInvalid
      | some url =>
        failIf .schemeNotAllowed (isHttp url = false)
        failIf .urlCredentialsForbidden (url.username ≠ [] ∨ url.password ≠ [])
        match canonicalHostname env url.hostname with
        | .error _ => .error .urlInvalid
        | .ok host =>
          let url := setHostname env url host
          return ⟨host, { url with pathname := env.parsePath (uppercaseEscapes url.pathname) }⟩

/-! ### The rules -/

/-- What the evaluation has found so far. -/
structure Findings where
  eligible : Bool := true
  reasons : List ScopeReasonCode := []
  matched : List JsString := []
  matchedRules : List MatchedRule := []
  deriving DecidableEq

/-- A finding that makes the URL ineligible. -/
def Findings.reject (f : Findings) (code : ScopeReasonCode) : Findings :=
  { f with reasons := f.reasons ++ [code], eligible := false }

/-- The rule is listed as matched. -/
def Findings.note (f : Findings) (ruleId : JsString) (rule : MatchedRule) : Findings :=
  { f with matched := f.matched ++ [ruleId], matchedRules := f.matchedRules ++ [rule] }

/-- The domain rules. -/
def applyDomainRules (rules : List DomainRule) (target : Target) (f : Findings) : Findings :=
  let found (effect : RuleEffect) : Option DomainRule :=
    rules.find? fun rule => rule.effect == effect && domainMatches target.host rule target.url
  match found .deny, found .allow with
  | some rule, _ => (f.note rule.ruleId (.domain rule.ruleId rule.effect rule.kind)).reject .domainDenied
  | none, none => f.reject .domainNotAllowed
  | none, some rule => f.note rule.ruleId (.domain rule.ruleId rule.effect rule.kind)

/-- The path rules. -/
def applyPathRules (rules : List PathRule) (pathname : JsString) (f : Findings) : Findings :=
  let allows := rules.filter (·.effect == .allow)
  match rules.find? (fun rule => rule.effect == .deny && pathMatches pathname rule), allows.find? (pathMatches pathname) with
  | some rule, _ => (f.note rule.ruleId (.path rule.ruleId rule.effect rule.kind)).reject .pathDenied
  | none, none => if allows = [] then f else f.reject .pathNotAllowed
  | none, some rule => f.note rule.ruleId (.path rule.ruleId rule.effect rule.kind)

/-- The loop over the query. -/
structure QueryScan extends Findings where
  normalizedPairs : List (JsString × JsString) := []
  identityPairs : List (JsString × JsString) := []
  identityKeys : List JsString := []
  omittedKeys : List JsString := []
  deniedKeys : List JsString := []
  deriving DecidableEq

/-- One parameter. -/
def QueryScan.step (policy : QueryPolicy) (scan : QueryScan) (pair : JsString × JsString) : QueryScan :=
  let key := env.lower pair.1
  let rule := policy.rules.find? (·.key == key)
  let classification := (rule.map (·.classification)).getD policy.unknown
  let sensitive := rule.any (·.sensitive)
  let scan := match rule with
    | some rule =>
      if scan.matchedRules.contains (.query rule.key rule.classification) then scan
      else { scan with toFindings := scan.note rule.key (.query rule.key rule.classification) }
    | none => scan
  let scan :=
    if sensitive then
      { scan with omittedKeys := scan.omittedKeys ++ [key], reasons := scan.reasons ++ [.sensitiveQueryRemoved] }
    else { scan with normalizedPairs := scan.normalizedPairs ++ [pair] }
  if classification = .denied then
    { scan with deniedKeys := scan.deniedKeys ++ [key], toFindings := scan.reject .queryDenied }
  else if sensitive then scan
  else if classification = .tracking ∨ classification = .ignored then
    { scan with omittedKeys := scan.omittedKeys ++ [key] }
  else { scan with identityPairs := scan.identityPairs ++ [pair], identityKeys := scan.identityKeys ++ [key] }

/-- The query. -/
def scanQuery (policy : QueryPolicy) (search : JsString) (f : Findings) : QueryScan :=
  (env.searchParams search).foldl (QueryScan.step env policy) { toFindings := f }

/-! ### The URLs of the decision -/

/-- The names that `sensitiveFragment` looks for, each before a `=`. -/
def sensitiveFragmentNames : List JsString :=
  ["access_token", "api_key", "apikey", "auth", "code", "password", "secret", "session", "token"].map String.toList

/-- A name with its `=` at the front of the text. -/
def nameAt (text : JsString) : Bool :=
  sensitiveFragmentNames.any fun name => (matchWord name text).any (·.head? == some '=')

/-- `/(?:^|[?&;/#])(?:…)=/i.test(decodedFragment)`. -/
def sensitiveFragment (fragment : JsString) : Bool :=
  nameAt fragment || fragment.tails.any fun
    | c :: rest => ['?', '&', ';', '/', '#'].contains c && nameAt rest
    | [] => false

/-- Whether the fragment stays in the URLs of the decision. -/
def preservesFragment (policy : FragmentPolicy) (fragment : JsString) : Bool :=
  !sensitiveFragment ((decodeURIComponent fragment).getD fragment) &&
    match policy with
    | .ignoreAll => false
    | .preserveAll => true
    | .preserveHashRoutes => "#/".toList.isPrefixOf fragment

/-- `applyPairs(target, sortPairs(pairs))`, with the fragment. -/
def withPairs (policy : FragmentPolicy) (url : Url) (pairs : List (JsString × JsString)) : Url :=
  { url with
    query := env.searchText (sortPairs pairs)
    fragment := if preservesFragment policy url.hash then url.fragment else [] }

/-- `relationToSeeds(url, seeds)`. -/
def relationToSeeds (url : Url) (seeds : List JsString) : SiteRelation :=
  let candidates := seeds.filterMap (env.parseUrl · none)
  let domain := env.getDomain url.hostname
  if candidates.any (·.origin == url.origin) then .sameOrigin
  else if candidates.any (·.hostname == url.hostname) then .sameHost
  else if domain.isSome && candidates.any (env.getDomain ·.hostname == domain) then .sameRegistrableDomain
  else .external

/-- `JSON.stringify` of an array of strings. -/
def arrayText (items : List JsString) : JsString := '[' :: joinComma (items.map JsonText.quote) ++ [']']

/-- `decisionBasis`. -/
def decisionBasis (profile : SiteProfile) (input : ScopeEvaluationInput) (normalizedUrl identityUrl : JsString)
    (known : Bool) (reasons : List ScopeReasonCode) (matched : List JsString) : JsString :=
  let field (name : String) (value : JsString) : JsString := ',' :: JsonText.quote name.toList ++ ':' :: value
  JsonText.leftBrace :: "\"engineVersion\":1".toList ++ field "profileId" (JsonText.quote profile.profileId) ++
    field "revisionId" (JsonText.quote profile.revisionId) ++ field "normalizedUrl" (JsonText.quote normalizedUrl) ++
    field "identityUrl" (JsonText.quote identityUrl) ++ field "depth" (toString input.boundedDepth).toList ++
    field "discoveryType" (JsonText.quote (input.discoveryType.getD .manual).text) ++
    field "currentEligibleCount" (toString (input.currentEligibleCount.getD 0)).toList ++
    field "known" (if known then "true".toList else "false".toList) ++
    field "reasons" (arrayText (reasons.map fun code => code.text.toList)) ++ field "matched" (arrayText matched) ++
    [JsonText.rightBrace]

/-! ### The decision -/

/-- The findings on the address and the limits. -/
def applyLimits (profile : SiteProfile) (input : ScopeEvaluationInput) (hostClass : IpAddressClass) (known : Bool)
    (f : Findings) : Findings :=
  let authorized := hostClass == .unknownHostname || hostClass == .publicNetwork || profile.allowedIpClasses.contains hostClass
  let f := if authorized then f else f.reject .privateNetworkNotAllowed
  let f := if profile.limits.maxDepth.any (· < input.boundedDepth) then f.reject .depthLimitReached else f
  let f := if known then { f with reasons := f.reasons ++ [.knownIdentity] } else f
  if !known && profile.limits.maxPages.any (· ≤ input.currentEligibleCount.getD 0) then f.reject .pageLimitReached else f

/-- The decision on a target. -/
def scopeDecision (profile : SiteProfile) (input : ScopeEvaluationInput) (target : Target) : ScopeDecision :=
  let hostClass := classifyHost env target.host
  let f := applyPathRules profile.pathRules target.url.pathname (applyDomainRules profile.domainRules target {})
  let scan := scanQuery env profile.queryPolicy target.url.search f
  let normalizedUrl := (withPairs env profile.fragmentPolicy target.url scan.normalizedPairs).href
  let identityUrl := (withPairs env profile.fragmentPolicy target.url scan.identityPairs).href
  let identityHash := env.sha256 ("scope-identity-v1\n".toList ++ identityUrl)
  let sensitive := sensitiveFragment ((decodeURIComponent target.url.hash).getD target.url.hash)
  let known := input.knownIdentityHashes.contains identityHash
  let f := if sensitive then { scan.toFindings with reasons := scan.reasons ++ [.sensitiveFragmentRemoved] } else scan.toFindings
  let f := applyLimits profile input hostClass known f
  let reasons := (if f.eligible then [.urlAccepted] else []) ++ f.reasons ++
    (if profile.authorization.status = .approved then [] else [.profileAuthorizationIncomplete])
  let ipAuthorized := hostClass == .unknownHostname || hostClass == .publicNetwork || profile.allowedIpClasses.contains hostClass
  { decisionId := env.sha256 (decisionBasis profile input normalizedUrl identityUrl known reasons f.matched)
    profileId := profile.profileId
    profileRevisionId := profile.revisionId
    eligible := f.eligible
    shouldQueue := f.eligible && profile.authorization.status == .approved
    reasonCodes := reasons.eraseDups
    normalizedUrl := some normalizedUrl
    identityUrl := some identityUrl
    identityHash := some identityHash
    displayUrl := some normalizedUrl
    matchedRuleIds := f.matched
    matchedRules := f.matchedRules
    depth := input.boundedDepth
    hostClass := hostClass
    networkAuthorized := hostClass == .publicNetwork || (hostClass != .unknownHostname && ipAuthorized)
    networkPreflightRequired := hostClass == .unknownHostname
    relation := relationToSeeds env target.url profile.seedUrls
    identityKeys := sortedSet scan.identityKeys
    omittedKeys := sortedSet scan.omittedKeys
    deniedKeys := sortedSet scan.deniedKeys }

/-- `evaluateScope(profileValue, input)`. -/
def evaluateScope (profileValue : SiteProfile) (input : ScopeEvaluationInput) : Except ScopeThrown ScopeDecision := do
  let profile ← parseSiteProfile env profileValue
  match resolveTarget env profile input with
  | .error code => return safeFailure env profile input.boundedDepth code
  | .ok target => return scopeDecision env profile input target

end OfflineWebArchiver.Scope
