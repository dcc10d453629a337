import OfflineWebArchiver.Base.JsonText
import OfflineWebArchiver.Base.Time
import OfflineWebArchiver.Scope.Host

/-!
# Site profiles

The rules of a site profile and their normal form. The fields that neither the normal form of the
rules nor an evaluation reads are left out (name, redirects, canonical links, service workers and
the login flow).

* `normalizeSiteProfileDraft`: the normal form of a draft, or what is wrong with it.
* `domainMatches`, `pathMatches`: when a rule is about a URL.
-/

namespace OfflineWebArchiver.Scope

open Checks

inductive RuleEffect
  | allow | deny
  deriving DecidableEq

def RuleEffect.text : RuleEffect → JsString
  | .allow => "allow".toList
  | .deny => "deny".toList

def RuleEffect.opposite : RuleEffect → RuleEffect
  | .allow => .deny
  | .deny => .allow

inductive DomainMatch
  | exact | subdomains
  deriving DecidableEq

def DomainMatch.text : DomainMatch → JsString
  | .exact => "exact".toList
  | .subdomains => "subdomains".toList

inductive Scheme
  | http | https
  deriving DecidableEq

def Scheme.text : Scheme → JsString
  | .http => "http".toList
  | .https => "https".toList

structure DomainRule where
  ruleId : JsString
  effect : RuleEffect
  kind : DomainMatch
  hostname : JsString
  schemes : List Scheme
  ports : List ℤ
  deriving DecidableEq

inductive PathMatch
  | exact | pathPrefix
  deriving DecidableEq

def PathMatch.text : PathMatch → JsString
  | .exact => "exact".toList
  | .pathPrefix => "prefix".toList

structure PathRule where
  ruleId : JsString
  effect : RuleEffect
  kind : PathMatch
  path : JsString
  deriving DecidableEq

inductive QueryClassification
  | identity | functional | tracking | ignored | denied
  deriving DecidableEq

structure QueryRule where
  key : JsString
  classification : QueryClassification
  sensitive : Bool
  deriving DecidableEq

structure QueryPolicy where
  /-- `identity`, `ignored` or `denied`. -/
  unknown : QueryClassification
  rules : List QueryRule
  deriving DecidableEq

inductive AuthorizationStatus
  | incomplete | approved
  deriving DecidableEq

structure Authorization where
  status : AuthorizationStatus
  legalBasisReference : Option JsString
  approvedBy : List JsString
  approvedAt : Option Timestamp
  expiresAt : Option Timestamp
  deriving DecidableEq

inductive FragmentPolicy
  | ignoreAll | preserveAll | preserveHashRoutes
  deriving DecidableEq

structure ProfileLimits where
  maxDepth : Option ℤ
  maxPages : Option ℤ
  maxRedirects : ℤ
  maxBatchSize : ℤ
  deriving DecidableEq

structure SiteProfileDraft where
  baseUrl : JsString
  seedUrls : List JsString
  authorization : Authorization
  domainRules : List DomainRule
  pathRules : List PathRule
  queryPolicy : QueryPolicy
  fragmentPolicy : FragmentPolicy
  allowedIpClasses : List IpAddressClass
  limits : ProfileLimits
  deriving DecidableEq

/-! ### The schema -/

/-- A string with `z.string().min(low).max(high)`. -/
def fitsText (low high : ℕ) (value : JsString) : Bool := low ≤ utf16Length value && utf16Length value ≤ high

/-- The pattern of `ruleId`. -/
def isRuleId (value : JsString) : Bool :=
  fitsText 1 80 value &&
    (value.splitOnP fun c => c == '.' || c == '_' || c == '-').all fun part => part != [] && part.all isLowerAlphanum

/-- The schema `hostname`. -/
def isRuleHostname (value : JsString) : Bool :=
  fitsText 1 253 value && value.all fun c => isLowerAlphanum c || c == '.' || c == ':' || c == '-'

def fitsNullable (low high : ℤ) (value : Option ℤ) : Bool := value.all fun n => low ≤ n && n ≤ high

def DomainRule.fits (rule : DomainRule) : Bool :=
  isRuleId rule.ruleId && isRuleHostname rule.hostname && 1 ≤ rule.schemes.length && rule.schemes.length ≤ 2 &&
    rule.ports.length ≤ 20 && rule.ports.all fun port => 1 ≤ port && port ≤ 65535

def PathRule.fits (rule : PathRule) : Bool :=
  isRuleId rule.ruleId && fitsText 1 2048 rule.path && rule.path.head? == some '/'

/-- The reference to the legal basis is no path of the host and has no control character. -/
def isReference (value : JsString) : Bool :=
  fitsText 1 256 value &&
    !(match value with
      | c :: ':' :: d :: _ => c.isAlpha && (d == '\\' || d == '/')
      | _ => false) &&
    value.head? != some '/' && value.head? != some '\\' && value.all fun c => 0x1f < c.toNat

def Authorization.fits (a : Authorization) : Bool :=
  a.legalBasisReference.all isReference && a.approvedBy.all (fitsText 1 120) && a.approvedBy.length ≤ 20 &&
    a.approvedAt.all (parseUtc · |>.isSome) && a.expiresAt.all (parseUtc · |>.isSome)

def QueryPolicy.fits (p : QueryPolicy) : Bool :=
  (p.unknown == .identity || p.unknown == .ignored || p.unknown == .denied) && p.rules.length ≤ 500 &&
    p.rules.all fun rule => fitsText 1 128 rule.key

def ProfileLimits.fits (l : ProfileLimits) : Bool :=
  fitsNullable 0 1000 l.maxDepth && fitsNullable 0 10000000 l.maxPages && 0 ≤ l.maxRedirects && l.maxRedirects ≤ 20 &&
    1 ≤ l.maxBatchSize && l.maxBatchSize ≤ 500

/-- `SiteProfileDraftSchema`. -/
def SiteProfileDraft.fits (draft : SiteProfileDraft) : Bool :=
  fitsText 1 urlLengthLimit draft.baseUrl && 1 ≤ draft.seedUrls.length && draft.seedUrls.length ≤ 100 &&
    draft.seedUrls.all (fitsText 1 urlLengthLimit) && draft.authorization.fits && 1 ≤ draft.domainRules.length &&
    draft.domainRules.length ≤ 200 && draft.domainRules.all DomainRule.fits && draft.pathRules.length ≤ 500 &&
    draft.pathRules.all PathRule.fits && draft.queryPolicy.fits && draft.allowedIpClasses.length ≤ 7 &&
    draft.allowedIpClasses.all (fun c => c != .invalid && c != .unknownHostname) && draft.limits.fits

/-! ### The rules -/

variable (env : ScopeEnv)

/-- `domainMatches(host, rule, url)`. -/
def domainMatches (host : JsString) (rule : DomainRule) (url : Url) : Bool :=
  let hostMatch := host == rule.hostname || (rule.kind == .subdomains && ('.' :: rule.hostname).isSuffixOf host)
  let schemeMatch := rule.schemes.any fun scheme => scheme.text ++ [':'] == url.protocol
  let port : ℤ := if url.port = [] then (if url.protocol = "https:".toList then 443 else 80) else decimal url.port
  hostMatch && schemeMatch && (rule.ports.isEmpty || rule.ports.contains port)

/-- `path.endsWith("/") ? path.slice(0, -1) : path`. -/
def withoutSlash (path : JsString) : JsString := if path.getLast? = some '/' then path.dropLast else path

/-- `pathMatches(pathname, rule)`. -/
def pathMatches (pathname : JsString) (rule : PathRule) : Bool :=
  match rule.kind with
  | .exact => pathname == rule.path
  | .pathPrefix =>
    if rule.path = ['/'] then true
    else pathname == withoutSlash rule.path || (withoutSlash rule.path ++ ['/']).isPrefixOf pathname

/-- `canonicalPathRule(value)`. -/
def canonicalPathRule (value : JsString) : Except ScopeThrown JsString :=
  if value.any (fun c => c == '?' || c == '#' || c == '\\' || c.toNat ≤ 0x1f) then
    .error (.profileInvalid "Path rules must contain only a URL pathname")
  else
    match env.parseUrl value (some "https://example.invalid".toList) with
    | none => .error .invalidUrl
    | some parsed => .ok (uppercaseEscapes parsed.pathname)

/-- `new URL(value)`. -/
def newUrl (value : JsString) : Except ScopeThrown Url :=
  match env.parseUrl value none with
  | none => .error .invalidUrl
  | some url => .ok url

/-- `normalizeSeed(value)`. -/
def normalizeSeed (value : JsString) : Except ScopeThrown JsString := do
  match validateRawUrl value with
  | some checked => .error (.profileInvalid ("Invalid seed URL: " ++ checked.text))
  | none =>
    let url ← newUrl env value
    failIf (.profileInvalid "Seed URLs must be credential-free HTTP(S) URLs")
      (isHttp url = false ∨ url.username ≠ [] ∨ url.password ≠ [])
    let host ← canonicalHostname env url.hostname
    return { setHostname env url host with fragment := [] }.href

/-- `normalizeBaseUrl(value)`. -/
def normalizeBaseUrl (value : JsString) : Except ScopeThrown JsString := do
  let seed ← normalizeSeed env value
  let url ← newUrl env seed
  return { url with query := [], fragment := [] }.href

/-! ### The normal form -/

/-- The first element that was seen before. -/
def firstRepeated (seen : List JsString) : List JsString → Option JsString
  | [] => none
  | value :: rest => if seen.contains value then some value else firstRepeated (value :: seen) rest

/-- `uniqueIds(values, label)` and the check of the query keys. -/
def uniqueTexts (values : List JsString) (message : String) : Except ScopeThrown Unit :=
  match firstRepeated [] values with
  | some value => .error (.profileInvalid (message ++ String.ofList value))
  | none => .ok ()

/-- `xs.join(",")`. -/
def joinComma (xs : List JsString) : JsString := List.intercalate [','] xs

/-- The key of a domain rule among its conflicts. -/
def DomainRule.conflictKey (rule : DomainRule) : JsString :=
  rule.kind.text ++ ':' :: rule.hostname ++ ':' :: joinComma (rule.schemes.map Scheme.text) ++
    ':' :: joinComma (rule.ports.map fun port => (toString port).toList)

/-- The key of a path rule among its conflicts. -/
def PathRule.conflictKey (rule : PathRule) : JsString :=
  rule.kind.text ++ ':' :: (if rule.kind = .pathPrefix ∧ rule.path ≠ ['/'] then withoutSlash rule.path else rule.path)

/-- One of the two loops over `conflicts`: the rules by id, key and effect. -/
def conflictFree (label : String) (conflicts : List JsString) :
    List (JsString × JsString × RuleEffect) → Except ScopeThrown Unit
  | [] => .ok ()
  | (id, key, effect) :: rest =>
    if conflicts.contains (key ++ ':' :: effect.text) then
      .error (.profileInvalid ("Duplicate equivalent " ++ label ++ " rule " ++ String.ofList id))
    else if conflicts.contains (key ++ ':' :: effect.opposite.text) then
      .error (.profileInvalid ("Conflicting " ++ label ++ " rule " ++ String.ofList id))
    else conflictFree label ((key ++ ':' :: effect.text) :: conflicts) rest

/-- `[...new Set(values)].sort()`. -/
def sortedSet (values : List JsString) : List JsString := values.eraseDups.mergeSort ordinalNotAfter

/-- A domain rule in normal form. -/
def normalizeDomainRule (rule : DomainRule) : Except ScopeThrown DomainRule := do
  let hostname ← canonicalHostname env rule.hostname
  return { rule with
    hostname := hostname
    schemes := rule.schemes.eraseDups.mergeSort fun a b => ordinalNotAfter a.text b.text
    ports := rule.ports.eraseDups.mergeSort fun a b => decide (a ≤ b) }

/-- A path rule in normal form. -/
def normalizePathRule (rule : PathRule) : Except ScopeThrown PathRule := do
  let path ← canonicalPathRule env rule.path
  return { rule with path := path }

/-- The text of a class in the schema. -/
def IpAddressClass.text : IpAddressClass → JsString
  | .publicNetwork => "public".toList
  | .loopback => "loopback".toList
  | .privateNetwork => "private".toList
  | .linkLocal => "link-local".toList
  | .multicast => "multicast".toList
  | .reserved => "reserved".toList
  | .unspecified => "unspecified".toList
  | .invalid => "invalid".toList
  | .unknownHostname => "unknown-hostname".toList

/-- `normalized`, before the checks. -/
def normalizedDraft (draft : SiteProfileDraft) : Except ScopeThrown SiteProfileDraft := do
  let baseUrl ← normalizeBaseUrl env draft.baseUrl
  let seeds ← draft.seedUrls.mapM (normalizeSeed env)
  let domainRules ← draft.domainRules.mapM (normalizeDomainRule env)
  let pathRules ← draft.pathRules.mapM (normalizePathRule env)
  return { draft with
    baseUrl := baseUrl
    seedUrls := sortedSet seeds
    authorization := { draft.authorization with approvedBy := sortedSet (draft.authorization.approvedBy.map env.trim) }
    domainRules := domainRules.mergeSort fun a b => ordinalNotAfter a.ruleId b.ruleId
    pathRules := pathRules.mergeSort fun a b => ordinalNotAfter a.ruleId b.ruleId
    queryPolicy :=
      { draft.queryPolicy with
        rules := (draft.queryPolicy.rules.map fun rule => { rule with key := env.lower rule.key }).mergeSort
          fun a b => ordinalNotAfter a.key b.key }
    allowedIpClasses := draft.allowedIpClasses.eraseDups.mergeSort fun a b => ordinalNotAfter a.text b.text }

/-- Whether the rules let a URL through: the check of the base URL and of the seeds. -/
def inScope (draft : SiteProfileDraft) (host : JsString) (url : Url) : Bool :=
  let allows := draft.pathRules.filter (·.effect == .allow)
  !(draft.domainRules.any fun rule => rule.effect == .deny && domainMatches host rule url) &&
    (draft.domainRules.any fun rule => rule.effect == .allow && domainMatches host rule url) &&
    !(draft.pathRules.any fun rule => rule.effect == .deny && pathMatches url.pathname rule) &&
    (allows.isEmpty || allows.any (pathMatches url.pathname))

/-- The check of one candidate. -/
def checkCandidate (draft : SiteProfileDraft) (label : String) (value : JsString) : Except ScopeThrown Unit := do
  let candidate ← newUrl env value
  let host ← canonicalHostname env candidate.hostname
  failIf (.profileInvalid (label ++ " is outside the configured scope: " ++ String.ofList candidate.origin))
    (inScope draft host candidate = false)

/-- The checks of the normal form. -/
def checkDraft (draft : SiteProfileDraft) : Except ScopeThrown Unit := do
  uniqueTexts (draft.domainRules.map (·.ruleId)) "Duplicate domain rule ID "
  uniqueTexts (draft.pathRules.map (·.ruleId)) "Duplicate path rule ID "
  uniqueTexts (draft.queryPolicy.rules.map (·.key)) "Duplicate query classification for "
  conflictFree "domain" [] (draft.domainRules.map fun rule => (rule.ruleId, rule.conflictKey, rule.effect))
  conflictFree "path" [] (draft.pathRules.map fun rule => (rule.ruleId, rule.conflictKey, rule.effect))
  let a := draft.authorization
  failIf (.profileInvalid "Approved authorization requires a reference, approver, and approval time")
    (a.status = .approved ∧ (a.legalBasisReference = none ∨ a.approvedBy = [] ∨ a.approvedAt = none))
  failIf (.profileInvalid "Authorization expiry must be later than approval time")
    ((match a.approvedAt.bind parseUtc, a.expiresAt.bind parseUtc with
      | some approved, some expires => decide (expires ≤ approved)
      | _, _ => false) = true)
  checkCandidate env draft "Base URL" draft.baseUrl
  draft.seedUrls.forM (checkCandidate env draft "Seed URL")

/-- `normalizeSiteProfileDraft(value)`. -/
def normalizeSiteProfileDraft (draft : SiteProfileDraft) : Except ScopeThrown SiteProfileDraft := do
  failIf .schema (draft.fits = false)
  let normalized ← normalizedDraft env draft
  checkDraft env normalized
  failIf .schema (normalized.fits = false)
  return normalized

end OfflineWebArchiver.Scope
