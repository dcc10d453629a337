import OfflineWebArchiver.Lib.Sha256
import OfflineWebArchiver.Scope.Accepted

/-!
# A sample profile

A platform that can parse a few plain URLs, and a profile of one site.
-/

namespace OfflineWebArchiver.Scope.Sample

/-- `http://host/path?query#fragment` -/
def url (hostname pathname query fragment : String) : Url where
  protocol := "http:".toList
  username := []
  password := []
  hostname := hostname.toList
  port := []
  pathname := pathname.toList
  query := query.toList
  fragment := fragment.toList

/-- `name=value`, or the name alone. -/
def parameter (text : JsString) : JsString × JsString :=
  (text.takeWhile (· != '='), (text.dropWhile (· != '=')).drop 1)

/-- The parameters of a search without escapes. -/
def parameters (search : JsString) : List (JsString × JsString) :=
  ((search.drop 1).splitOn '&').filterMap fun text => if text = [] then none else some (parameter text)

/-- The search of parameters without escapes. -/
def searchOf (pairs : List (JsString × JsString)) : JsString :=
  if pairs = [] then [] else '?' :: List.intercalate ['&'] (pairs.map fun pair => pair.1 ++ '=' :: pair.2)

/-- The platform, on these URL texts, path references and hosts. -/
def platform (texts : List (String × Url)) (paths : List (String × String)) (hosts : List (String × String)) :
    ScopeEnv where
  lower := List.map Char.toLower
  trim := jsTrim
  parseUrl value base :=
    ((texts.find? fun entry => entry.1.toList == value).map (·.2)).or
      (if base = some "https://example.invalid".toList then
        (paths.find? fun entry => entry.1.toList == value).map fun entry =>
          { url "example.invalid" entry.2 "" "" with protocol := "https:".toList }
      else none)
  parseHost value := (hosts.find? fun entry => entry.1.toList == value).map (·.2.toList)
  parsePath := id
  domainToASCII value := ((hosts.find? fun entry => entry.1.toList == value).map (·.2.toList)).getD []
  searchParams := parameters
  searchText := searchOf
  getDomain := some
  sha256 value := Sha256.digestChars (String.ofList value).toUTF8.data.toList

variable {texts : List (String × Url)} {paths hosts : List (String × String)}

theorem platform_parseHost {text host : JsString} (h : (platform texts paths hosts).parseHost text = some host) :
    ∃ entry ∈ hosts, entry.1.toList = text ∧ entry.2.toList = host := by
  obtain ⟨entry, hentry, hhost⟩ := Option.map_eq_some_iff.1 h
  have hfound := List.find?_some hentry
  exact ⟨entry, List.mem_of_find?_eq_some hentry, beq_iff_eq.1 hfound, hhost⟩

theorem platform_parseUrl {value : JsString} {base : Option JsString} {found : Url}
    (h : (platform texts paths hosts).parseUrl value base = some found) :
    (∃ entry ∈ texts, found = entry.2) ∨
      ∃ entry ∈ paths, found = { url "example.invalid" entry.2 "" "" with protocol := "https:".toList } := by
  rcases Option.or_eq_some_iff.1 h with htext | ⟨-, hpath⟩
  · obtain ⟨entry, hentry, rfl⟩ := Option.map_eq_some_iff.1 htext
    exact .inl ⟨entry, List.mem_of_find?_eq_some hentry, rfl⟩
  · split_ifs at hpath
    obtain ⟨entry, hentry, rfl⟩ := Option.map_eq_some_iff.1 hpath
    exact .inr ⟨entry, List.mem_of_find?_eq_some hentry, rfl⟩

/-- On the characters of plain hosts `toLowerCase` does nothing. -/
theorem platform_lower (text : JsString)
    (h : text.all (fun c => isLowerAlphanum c || c == '.' || c == '-' || c == ':') = true) :
    (platform texts paths hosts).lower text = text := by
  rw [List.all_eq_true] at h
  refine (List.map_congr_left fun c hc => ?_).trans (List.map_id text)
  have hfound := h c hc
  rw [Bool.or_eq_true, Bool.or_eq_true, Bool.or_eq_true, beq_iff_eq, beq_iff_eq, beq_iff_eq] at hfound
  rcases hfound with ((hfound | rfl) | rfl) | rfl
  · unfold isLowerAlphanum Char.isLower Char.isDigit at hfound
    unfold Char.toLower
    grind
  · rfl
  · rfl
  · rfl

def site (ruleId : String) (effect : RuleEffect) (hostname : String) : DomainRule where
  ruleId := ruleId.toList
  effect := effect
  kind := .exact
  hostname := hostname.toList
  schemes := [.http]
  ports := []

def path (ruleId : String) (effect : RuleEffect) (kind : PathMatch) (text : String) : PathRule where
  ruleId := ruleId.toList
  effect := effect
  kind := kind
  path := text.toList

/-- The profile of a site with these rules, for addresses of one class. -/
def profile (baseUrl : String) (ipClass : IpAddressClass) (domainRules : List DomainRule) (pathRules : List PathRule)
    (queryPolicy : QueryPolicy) : SiteProfile where
  baseUrl := baseUrl.toList
  seedUrls := [baseUrl.toList]
  authorization := ⟨.incomplete, none, [], none, none⟩
  domainRules := domainRules
  pathRules := pathRules
  queryPolicy := queryPolicy
  fragmentPolicy := .ignoreAll
  allowedIpClasses := [ipClass]
  limits := ⟨none, none, 10, 100⟩
  profileId := "profile".toList
  revisionId := "revision".toList

/-- The rule for a site with a canonical host is in normal form. -/
theorem site_normal {env : ScopeEnv} {ruleId hostname : String} {effect : RuleEffect}
    (hhost : canonicalHostname env hostname.toList = .ok hostname.toList) :
    normalizeDomainRule env (site ruleId effect hostname) = .ok (site ruleId effect hostname) := by
  unfold normalizeDomainRule site
  simp only [hhost, Checks.ok_bind, List.eraseDups_cons, List.eraseDups_nil, List.filter_nil, List.mergeSort_nil,
    List.mergeSort_singleton]
  rfl

def request (rawUrl : String) : ScopeEvaluationInput := { rawUrl := some rawUrl.toList }

variable {env : ScopeEnv} {baseUrl : String} {ipClass : IpAddressClass} {domainRules : List DomainRule}
  {pathRules : List PathRule} {queryPolicy : QueryPolicy}

/-- A profile is its own normal form when its parts are and its rules are listed in their order. -/
theorem accepted (hfits : (profile baseUrl ipClass domainRules pathRules queryPolicy).fits = true)
    (hbase : normalizeBaseUrl env baseUrl.toList = .ok baseUrl.toList)
    (hseed : normalizeSeed env baseUrl.toList = .ok baseUrl.toList)
    (hdomain : domainRules.mapM (normalizeDomainRule env) = .ok domainRules)
    (hdomainOrder : domainRules.Pairwise fun a b => ordinalNotAfter a.ruleId b.ruleId = true)
    (hpath : pathRules.mapM (normalizePathRule env) = .ok pathRules)
    (hpathOrder : pathRules.Pairwise fun a b => ordinalNotAfter a.ruleId b.ruleId = true)
    (hquery : queryPolicy.rules.map (fun rule => { rule with key := env.lower rule.key }) = queryPolicy.rules)
    (hqueryOrder : queryPolicy.rules.Pairwise fun a b => ordinalNotAfter a.key b.key = true)
    (hchecked : checkDraft env (profile baseUrl ipClass domainRules pathRules queryPolicy).toSiteProfileDraft = .ok ()) :
    Accepted env (profile baseUrl ipClass domainRules pathRules queryPolicy).toSiteProfileDraft
      (profile baseUrl ipClass domainRules pathRules queryPolicy).toSiteProfileDraft := by
  refine ⟨hfits, ?_, hchecked, hfits⟩
  have hseeds : [baseUrl.toList].mapM (normalizeSeed env) = .ok [baseUrl.toList] :=
    Checks.mapM_ok.2 (.cons hseed .nil)
  unfold normalizedDraft profile sortedSet
  simp only [hbase, hseeds, hdomain, hpath, hquery, Checks.ok_bind, List.mergeSort_of_pairwise hdomainOrder,
    List.mergeSort_of_pairwise hpathOrder, List.mergeSort_of_pairwise hqueryOrder, List.map_nil, List.eraseDups_nil,
    List.eraseDups_cons, List.filter_nil, List.mergeSort_nil, List.mergeSort_singleton]
  rfl

end OfflineWebArchiver.Scope.Sample
