import OfflineWebArchiver.Scope.Eligible

/-!
# Evaluating a URL of a decision

A decision names two URLs of its target: the identity, and the normalized URL with all parameters
that are not sensitive. Both are read back by the parser, and evaluated again they lead to the same
target, or to one whose host has lost another dot.

* `CanonicalHost.again`: a canonical host is canonical, unless it ends with a dot.
* `resolveTarget_text`: the target of another text.
* `resolveTarget_again`: **the target of a URL of a decision.**
* `keepingUrl_again`: **its identity.**
-/

namespace OfflineWebArchiver.Scope

open Checks

variable {env : ScopeEnv} {profile : SiteProfile} {input : ScopeEvaluationInput} {url : Url} {target : Target}
  {host value : JsString}

/-! ### Canonical hosts -/

/-- What the host parser, `toLowerCase` and `domainToASCII` make of a host that is canonical. -/
structure CanonicalHost (env : ScopeEnv) (host : JsString) : Prop where
  parsed : env.parseHost (bracketed host) = some (bracketed host)
  lower : env.lower host = host
  opened : '[' ∉ host
  name : ':' ∉ host → env.domainToASCII host = host
  /-- An address has no dots. -/
  address : ':' ∈ host → '.' ∉ host
  /-- A name that has lost its last dot is kept, or it is an address, which does not end with one. -/
  dot : ':' ∉ host → host.getLast? = some '.' →
    env.lower (env.domainToASCII (withoutDot host)) = withoutDot host ∨
      (env.lower (env.domainToASCII (withoutDot host))).getLast? ≠ some '.'

theorem withoutDot_kept (h : host.getLast? ≠ some '.') : withoutDot host = host := if_neg h

theorem withoutDot_subset {c : Char} (h : c ∈ withoutDot host) : c ∈ host := by
  unfold withoutDot at h
  split_ifs at h
  · exact List.dropLast_subset _ h
  · exact h

theorem canonicalHostname_ne_nil (h : canonicalHostname env value = .ok host) : host ≠ [] := by
  unfold canonicalHostname at h
  simp only at h
  split_ifs at h with hcolon hwords hempty
  · cases Except.ok.inj h
    rintro hnil
    refine hwords ?_
    unfold ipv6Words
    rw [hnil]
    rfl
  · cases Except.ok.inj h
    exact hempty

/-- A canonical address can be read as one. -/
theorem ipv6Words_canonical (hascii : ∀ text, ':' ∉ text → ':' ∉ env.lower (env.domainToASCII text))
    (hlower : env.lower host = host) (h : canonicalHostname env value = .ok host) (hcolon : ':' ∈ host) :
    ipv6Words env host ≠ none := by
  unfold canonicalHostname at h
  simp only at h
  split_ifs at h with hinner hwords hempty
  · have hsame : ipv6Words env host = ipv6Words env (withoutBrackets value) := by
      unfold ipv6Words
      rw [hlower, Except.ok.inj h]
    rw [hsame]
    exact hwords
  · rw [← Except.ok.inj h] at hcolon
    rw [List.contains_iff_mem] at hinner
    exact absurd hcolon (hascii _ fun hmem => hinner (withoutDot_subset hmem))

/-- **A canonical host is canonical**, unless it ends with a dot. -/
theorem CanonicalHost.again (hhost : CanonicalHost env host)
    (hascii : ∀ text, ':' ∉ text → ':' ∉ env.lower (env.domainToASCII text))
    (h : canonicalHostname env value = .ok host) (hdot : host.getLast? ≠ some '.') :
    canonicalHostname env (bracketed host) = .ok host := by
  unfold bracketed
  by_cases hcolon : ':' ∈ host
  · rw [if_pos (List.contains_iff_mem.2 hcolon), canonicalHostname_bracketed hcolon,
      if_neg (ipv6Words_canonical hascii hhost.lower h hcolon), hhost.lower]
  · rw [if_neg fun hmem => hcolon (List.contains_iff_mem.1 hmem), canonicalHostname_name hhost.opened hcolon,
      withoutDot_kept hdot, hhost.name hcolon, hhost.lower, if_neg (canonicalHostname_ne_nil h)]

/-- A canonical host that ends with a dot is not: it loses the dot. -/
theorem CanonicalHost.changes (hhost : CanonicalHost env host) (hdot : host.getLast? = some '.') {host' : JsString}
    (h : canonicalHostname env (bracketed host) = .ok host') : bracketed host' ≠ bracketed host := by
  have hmem : '.' ∈ host := List.mem_of_getLast? hdot
  have hcolon : ':' ∉ host := fun hcolon => hhost.address hcolon hmem
  have hbare : bracketed host = host := if_neg fun hmem => hcolon (List.contains_iff_mem.1 hmem)
  rw [hbare] at h ⊢
  rw [canonicalHostname_name hhost.opened hcolon] at h
  split_ifs at h
  have hfound := Except.ok.inj h
  intro heq
  have hname : host' = host := by
    unfold bracketed at heq
    split_ifs at heq
    · exact absurd (heq ▸ List.mem_cons_self) hhost.opened
    · exact heq
  rw [hname] at hfound
  rcases hhost.dot hcolon hdot with hkept | hnot
  · rw [hkept] at hfound
    unfold withoutDot at hfound
    rw [if_pos hdot] at hfound
    have hlength := congrArg List.length hfound
    rw [List.length_dropLast] at hlength
    have hpos := List.length_pos_of_mem hmem
    omega
  · rw [hfound] at hnot
    exact hnot hdot

/-! ### Targets -/

/-- The base that the URL of an input is resolved against. -/
def resolutionBase (profile : SiteProfile) (input : ScopeEvaluationInput) : JsString :=
  (input.sourceUrl.or input.baseUrl).getD profile.baseUrl

/-- The same input for another text. -/
def ScopeEvaluationInput.withText (input : ScopeEvaluationInput) (text : JsString) : ScopeEvaluationInput :=
  { input with rawUrl := some text, url := none }

/-- **The target of another text.** What comes before the text is read is the same. -/
theorem resolveTarget_text (h : resolveTarget env profile input = .ok target) {text : JsString}
    (hparse : env.parseUrl text (some (resolutionBase profile input)) = some url) (hhttp : isHttp url = true)
    (hplain : url.username = [] ∧ url.password = []) :
    resolveTarget env profile (input.withText text) =
      match validateRawUrl text with
      | some code => .error code
      | none =>
        match canonicalHostname env url.hostname with
        | .error _ => .error .urlInvalid
        | .ok host =>
          .ok ⟨host, { setHostname env url host with pathname := env.parsePath (uppercaseEscapes url.pathname) }⟩ := by
  unfold resolveTarget at h
  obtain ⟨hdepth, h⟩ := failIf_bind_ok.1 h
  obtain ⟨hcount, h⟩ := failIf_bind_ok.1 h
  obtain ⟨hrevision, -⟩ := failIf_bind_ok.1 h
  have hdepth' : ¬(input.withText text).boundedDepth ≠ (input.withText text).requestedDepth := hdepth
  have hcount' : ¬((input.withText text).currentEligibleCount.all fun n => 0 ≤ n && n ≤ 10000000) = false := hcount
  have hrevision' : ¬((input.withText text).profileRevision.all (· == profile.revisionId)) = false := hrevision
  have htext : (input.withText text).text? = some text := rfl
  have hbase : ((input.withText text).sourceUrl.or (input.withText text).baseUrl).getD profile.baseUrl =
      resolutionBase profile input := rfl
  unfold resolveTarget
  rw [failIf_bind, if_neg hdepth', failIf_bind, if_neg hcount', failIf_bind, if_neg hrevision', htext]
  simp only [hbase, hparse]
  have hhttp' : ¬isHttp url = false := by simp [hhttp]
  have hplain' : ¬(url.username ≠ [] ∨ url.password ≠ []) := by simp [hplain.1, hplain.2]
  cases validateRawUrl text with
  | some code => rfl
  | none =>
    simp only
    rw [failIf_bind, if_neg hhttp', failIf_bind, if_neg hplain']
    cases canonicalHostname env url.hostname with
    | error e => rfl
    | ok host => rfl

/-! ### Read back -/

/-- What the platform does with the hosts and the paths of its URLs. -/
structure IdentityLaws (env : ScopeEnv) : Prop where
  ascii : ∀ text, ':' ∉ text → ':' ∉ env.lower (env.domainToASCII text)
  host : ∀ text base url host, env.parseUrl text base = some url → isHttp url = true →
    canonicalHostname env url.hostname = .ok host → CanonicalHost env host
  /-- A path that is set again with its escapes in capital letters is kept. -/
  path : ∀ text base url, env.parseUrl text base = some url → isHttp url = true →
    env.parsePath (uppercaseEscapes url.pathname) = uppercaseEscapes url.pathname

/-- The parser reads back a URL whose query was written from these parameters. Its text has no
controls, no backslashes and no malformed escapes. -/
structure ReadBack (env : ScopeEnv) (base : JsString) (url : Url) (pairs : List (JsString × JsString)) : Prop where
  parsed : env.parseUrl url.href (some base) = some url
  params : env.searchParams url.search = pairs
  clean : validateRawUrl url.href = none ∨ validateRawUrl url.href = some .urlTooLong

theorem validateRawUrl_clean {url : Url} {base : JsString} {pairs : List (JsString × JsString)}
    (h : ReadBack env base url pairs) :
    validateRawUrl url.href = if utf16Length url.href ≤ urlLengthLimit then none else some .urlTooLong := by
  rcases h.clean with hclean | hclean
  · have hlength : utf16Length url.href ≤ urlLengthLimit := by
      by_contra hlong
      unfold validateRawUrl at hclean
      rw [if_pos (by omega)] at hclean
      cases hclean
    rw [if_pos hlength, hclean]
  · have hlength : ¬utf16Length url.href ≤ urlLengthLimit := by
      intro hshort
      unfold validateRawUrl at hclean
      rw [if_neg (by omega)] at hclean
      split_ifs at hclean <;> cases hclean
    rw [if_neg hlength, hclean]

variable {keeps : JsString → Bool}

/-- The host and the path of a target are those that a URL of its decision has. -/
theorem TargetOf.canonical (hlaws : IdentityLaws env) {text : JsString} {base : Option JsString}
    (hparse : env.parseUrl text base = some url) (h : TargetOf env url target) :
    target.url.hostname = bracketed target.host ∧ target.url.pathname = uppercaseEscapes url.pathname := by
  have hhost := hlaws.host text base url target.host hparse h.http h.host
  constructor
  · rw [h.url]
    unfold setHostname
    simp only [hhost.parsed, Option.getD_some]
  · rw [h.pathname, hlaws.path text base url hparse h.http]

/-- **The target of a URL of a decision**: the URL itself, under the canonical form of its host. -/
theorem resolveTarget_again (hlaws : IdentityLaws env) (h : resolveTarget env profile input = .ok target)
    {pairs : List (JsString × JsString)}
    (hback : ReadBack env (resolutionBase profile input) (keepingUrl env profile target keeps) pairs)
    {text : JsString} (htext : (keepingUrl env profile target keeps).href = text) :
    resolveTarget env profile (input.withText text) =
      if utf16Length text ≤ urlLengthLimit then
        match canonicalHostname env (bracketed target.host) with
        | .error _ => .error .urlInvalid
        | .ok host => .ok ⟨host, { keepingUrl env profile target keeps with hostname := bracketed host }⟩
      else .error .urlTooLong := by
  subst htext
  obtain ⟨url, hurl, hof⟩ := resolveTarget_ok h
  unfold inputUrl at hurl
  obtain ⟨text, -, hparse⟩ := Option.bind_eq_some_iff.1 hurl
  obtain ⟨hhostname, hpathname⟩ := hof.canonical hlaws hparse
  have hhttp : isHttp (keepingUrl env profile target keeps) = true := by
    have hfound := hof.http
    unfold isHttp at hfound ⊢
    rw [← hof.protocol] at hfound
    exact hfound
  have hplain : (keepingUrl env profile target keeps).username = [] ∧ (keepingUrl env profile target keeps).password = [] := by
    have husername : (keepingUrl env profile target keeps).username = target.url.username := rfl
    have hpassword : (keepingUrl env profile target keeps).password = target.url.password := rfl
    rw [husername, hpassword, hof.url]
    exact hof.plain
  have hhost : (keepingUrl env profile target keeps).hostname = bracketed target.host := hhostname
  have hpath : (keepingUrl env profile target keeps).pathname = uppercaseEscapes url.pathname := hpathname
  rw [resolveTarget_text h hback.parsed hhttp hplain, validateRawUrl_clean hback, hhost, hpath, uppercaseEscapes_idem]
  by_cases hlength : utf16Length (keepingUrl env profile target keeps).href ≤ urlLengthLimit
  · rw [if_pos hlength, if_pos hlength]
    simp only
    cases hagain : canonicalHostname env (bracketed target.host) with
    | error e => rfl
    | ok host =>
      have hcanonical := hlaws.host _ _ _ host hback.parsed hhttp (hhost ▸ hagain)
      unfold setHostname
      simp only [hcanonical.parsed, Option.getD_some]
      rw [hlaws.path text _ url hparse hof.http, ← hpath]
  · rw [if_neg hlength, if_neg hlength]

/-- **The identity of a URL that was read back** is the identity of its target, under its own host. -/
theorem keepingUrl_again {base : JsString}
    (hkeeps : ∀ name, profile.queryPolicy.identifies env name = true → keeps name = true)
    (hback : ReadBack env base (keepingUrl env profile target keeps)
      (sortPairs ((env.searchParams target.url.search).filter fun pair => keeps pair.1))) {host : JsString} :
    keepingUrl env profile ⟨host, { keepingUrl env profile target keeps with hostname := bracketed host }⟩
        (profile.queryPolicy.identifies env) =
      { keepingUrl env profile target (profile.queryPolicy.identifies env) with hostname := bracketed host } := by
  have hpairs : sortPairs ((sortPairs ((env.searchParams target.url.search).filter fun pair => keeps pair.1)).filter
        fun pair => profile.queryPolicy.identifies env pair.1) =
      sortPairs ((env.searchParams target.url.search).filter fun pair => profile.queryPolicy.identifies env pair.1) := by
    rw [sortPairs_filter, sortPairs_sortPairs, ← sortPairs_filter, List.filter_filter]
    congr 1
    refine List.filter_congr fun pair _ => ?_
    cases hidentifies : profile.queryPolicy.identifies env pair.1 with
    | false => rfl
    | true => rw [hkeeps _ hidentifies, Bool.and_true]
  have hfragment : (if preservesFragment profile.fragmentPolicy (keepingUrl env profile target keeps).hash = true then
        (keepingUrl env profile target keeps).fragment else []) =
      if preservesFragment profile.fragmentPolicy target.url.hash = true then target.url.fragment else [] := by
    by_cases hkept : preservesFragment profile.fragmentPolicy target.url.hash = true
    · have hsame : (keepingUrl env profile target keeps).fragment = target.url.fragment := if_pos hkept
      have hhash : (keepingUrl env profile target keeps).hash = target.url.hash := by
        unfold Url.hash
        rw [hsame]
      rw [hhash, hsame]
    · have hnone : (keepingUrl env profile target keeps).fragment = [] := if_neg hkept
      rw [hnone, if_neg hkept, ite_self]
  have hquery : env.searchText (sortPairs ((env.searchParams (keepingUrl env profile target keeps).search).filter
        fun pair => profile.queryPolicy.identifies env pair.1)) =
      env.searchText (sortPairs ((env.searchParams target.url.search).filter
        fun pair => profile.queryPolicy.identifies env pair.1)) := by
    rw [hback.params, hpairs]
  exact Url.mk.injEq .. ▸ ⟨rfl, rfl, rfl, rfl, rfl, rfl, hquery, hfragment⟩

end OfflineWebArchiver.Scope
