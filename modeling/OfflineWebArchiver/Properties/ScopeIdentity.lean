import OfflineWebArchiver.Scope.Identity
import OfflineWebArchiver.Scope.Sample

/-!
# Canonical identities

Evaluating the identity of a URL, or its normalized URL, leads to the same identity again, and so does
every URL that differs in what the identity leaves out. It fails for a host that ends with two dots,
which loses one dot in each evaluation, and for a normalized URL that is too long to be evaluated.

* `SamePage`: URLs that differ in the order of their parameters, in those that are tracked or ignored,
  and in a fragment that is dropped.
* `samePage_identity`: they have one identity.
* `identity_canonical_iff`: **when the identity is canonical.**
-/

namespace OfflineWebArchiver.Scope

section Identity

variable {env : ScopeEnv} {profile parsed : SiteProfile} {normalized : SiteProfileDraft}
  {input : ScopeEvaluationInput} {url : Url} {target : Target}

/-- The parameters of two URLs, up to their order and to those that are tracked or ignored. -/
inductive QueryChange (env : ScopeEnv) (policy : QueryPolicy) :
    List (JsString × JsString) → List (JsString × JsString) → Prop
  | permuted {pairs pairs' : List (JsString × JsString)} (h : pairs.Perm pairs') : QueryChange env policy pairs pairs'
  | added {pair : JsString × JsString} {rest : List (JsString × JsString)}
      (h : policy.classify env pair.1 = .tracking ∨ policy.classify env pair.1 = .ignored) :
      QueryChange env policy rest (pair :: rest)
  | removed {pair : JsString × JsString} {rest : List (JsString × JsString)}
      (h : policy.classify env pair.1 = .tracking ∨ policy.classify env pair.1 = .ignored) :
      QueryChange env policy (pair :: rest) rest
  | trans {pairs pairs' pairs'' : List (JsString × JsString)} (h : QueryChange env policy pairs pairs')
      (h' : QueryChange env policy pairs' pairs'') : QueryChange env policy pairs pairs''

/-- Two fragments that are the same or that the policy drops. -/
def SameFragment (policy : FragmentPolicy) (url url' : Url) : Prop :=
  url'.fragment = url.fragment ∨
    (preservesFragment policy url.hash = false ∧ preservesFragment policy url'.hash = false)

/-- Inputs whose URLs differ in what the identity leaves out. -/
def SamePage (env : ScopeEnv) (parsed : SiteProfile) (input input' : ScopeEvaluationInput) : Prop :=
  ∃ url url', inputUrl env parsed input = some url ∧ inputUrl env parsed input' = some url' ∧
    url' = { url with query := url'.query, fragment := url'.fragment } ∧
    QueryChange env parsed.queryPolicy (env.searchParams url.search) (env.searchParams url'.search) ∧
    SameFragment parsed.fragmentPolicy url url'

/-- An evaluation yields this identity. -/
def HasIdentity (env : ScopeEnv) (profile : SiteProfile) (input : ScopeEvaluationInput) (hash : JsString) : Prop :=
  ∃ decision, evaluateScope env profile input = .ok decision ∧ decision.identityHash = some hash

/-- The identity of a decision is canonical: the two URLs of the decision have it, and so has every
other URL of the same page that has any. -/
structure CanonicalIdentity (env : ScopeEnv) (profile parsed : SiteProfile) (input : ScopeEvaluationInput)
    (identityUrl normalizedUrl hash : JsString) : Prop where
  identity : HasIdentity env profile (input.withText identityUrl) hash
  normalized : HasIdentity env profile (input.withText normalizedUrl) hash
  samePage : ∀ input' hash', SamePage env parsed input input' → HasIdentity env profile input' hash' → hash' = hash

/-! ### Pages -/

theorem identifies_eq_false {policy : QueryPolicy} {name : JsString}
    (h : policy.classify env name = .tracking ∨ policy.classify env name = .ignored) :
    policy.identifies env name = false := by
  unfold QueryPolicy.identifies
  rcases h with h | h <;> rw [h] <;> simp

/-- Changes of the query leave the parameters of the identity, up to their order. -/
theorem QueryChange.identifies {policy : QueryPolicy} {pairs pairs' : List (JsString × JsString)}
    (h : QueryChange env policy pairs pairs') :
    (pairs.filter fun pair => policy.identifies env pair.1).Perm
      (pairs'.filter fun pair => policy.identifies env pair.1) := by
  induction h with
  | permuted h => exact h.filter _
  | added h => rw [List.filter_cons_of_neg (by rw [identifies_eq_false h]; exact Bool.false_ne_true)]
  | removed h => rw [List.filter_cons_of_neg (by rw [identifies_eq_false h]; exact Bool.false_ne_true)]
  | trans _ _ ih ih' => exact ih.trans ih'

/-- **URLs of one page have one identity.** -/
theorem samePage_identity {input' : ScopeEvaluationInput} {target' : Target} (hpage : SamePage env parsed input input')
    (h : resolveTarget env parsed input = .ok target) (h' : resolveTarget env parsed input' = .ok target') :
    identityUrlOf env parsed target' = identityUrlOf env parsed target := by
  obtain ⟨url, url', hurl, hurl', hsame, hquery, hfragment⟩ := hpage
  obtain ⟨found, hfound, hof⟩ := resolveTarget_ok h
  obtain ⟨found', hfound', hof'⟩ := resolveTarget_ok h'
  cases hurl.symm.trans hfound
  cases hurl'.symm.trans hfound'
  have hhost : target'.host = target.host := by
    have hok := hof'.host
    rw [hsame, hof.host] at hok
    exact (Except.ok.inj hok).symm
  have htarget' : target'.url = { target.url with query := url'.query, fragment := url'.fragment } := by
    rw [hof'.url, hof.url, hhost, hsame]
    rfl
  have hsearch : target.url.search = url.search ∧ target.url.hash = url.hash ∧ target.url.fragment = url.fragment := by
    rw [hof.url]
    exact ⟨rfl, rfl, rfl⟩
  have hsearch' : target'.url.search = url'.search ∧ target'.url.hash = url'.hash := by
    rw [htarget']
    exact ⟨rfl, rfl⟩
  have hpairs : env.searchText (sortPairs ((env.searchParams target'.url.search).filter
        fun pair => parsed.queryPolicy.identifies env pair.1)) =
      env.searchText (sortPairs ((env.searchParams target.url.search).filter
        fun pair => parsed.queryPolicy.identifies env pair.1)) := by
    rw [hsearch.1, hsearch'.1, sortPairs_perm hquery.identifies]
  have hkept : (if preservesFragment parsed.fragmentPolicy target'.url.hash = true then target'.url.fragment else []) =
      if preservesFragment parsed.fragmentPolicy target.url.hash = true then target.url.fragment else [] := by
    rw [hsearch'.2, hsearch.2.1, hsearch.2.2]
    have hfragment' : target'.url.fragment = url'.fragment := by rw [htarget']
    rw [hfragment']
    rcases hfragment with heq | ⟨hdropped, hdropped'⟩
    · have hhash : url'.hash = url.hash := by
        unfold Url.hash
        rw [heq]
      rw [hhash, heq]
    · rw [hdropped, hdropped']
      rfl
  have hurls : keepingUrl env parsed target' (parsed.queryPolicy.identifies env) =
      keepingUrl env parsed target (parsed.queryPolicy.identifies env) := by
    unfold keepingUrl withPairs
    rw [hpairs, hkept, htarget']
  unfold identityUrlOf
  rw [hurls]

/-! ### Evaluations -/

theorem hasIdentity_iff (haccepted : normalizeSiteProfileDraft env profile.toSiteProfileDraft = .ok normalized)
    {hash : JsString} :
    HasIdentity env profile input hash ↔
      ∃ target, resolveTarget env { profile with toSiteProfileDraft := normalized } input = .ok target ∧
        identityHashOf env { profile with toSiteProfileDraft := normalized } target = hash := by
  constructor
  · rintro ⟨decision, hdecision, hhash⟩
    obtain ⟨other, hother, h⟩ := evaluateScope_ok.1 hdecision
    cases haccepted.symm.trans (normalizeSiteProfileDraft_ok.2 hother)
    rcases h with ⟨code, -, rfl⟩ | ⟨target, htarget, rfl⟩
    · cases hhash
    · rw [scopeDecision_identity.2.1] at hhash
      exact ⟨target, htarget, Option.some.inj hhash⟩
  · rintro ⟨target, htarget, hhash⟩
    refine ⟨_, evaluateScope_ok.2 ⟨normalized, normalizeSiteProfileDraft_ok.1 haccepted, .inr ⟨target, htarget, rfl⟩⟩, ?_⟩
    rw [scopeDecision_identity.2.1, hhash]

/-- The serialization tells two hosts apart when all else is the same. -/
theorem href_hostname {host host' : JsString}
    (h : ({ url with hostname := host } : Url).href = ({ url with hostname := host' } : Url).href) : host = host' := by
  unfold Url.href Url.origin at h
  simpa using h

variable {identityUrl normalizedUrl hash : JsString}

/-- The URL under the host it has. -/
theorem identityUrlOf_same (hhost : target.url.hostname = bracketed target.host) :
    ({ keepingUrl env parsed target (parsed.queryPolicy.identifies env) with hostname := bracketed target.host } : Url).href =
      identityUrlOf env parsed target := by
  rw [← hhost]
  rfl

/-- **When the identity of a decision is canonical.** -/
theorem identity_canonical_iff (hlaws : IdentityLaws env)
    (haccepted : normalizeSiteProfileDraft env profile.toSiteProfileDraft = .ok normalized)
    (hparsed : parsed = { profile with toSiteProfileDraft := normalized })
    (htarget : resolveTarget env parsed input = .ok target)
    (hidentityUrl : identityUrl = identityUrlOf env parsed target)
    (hnormalizedUrl : normalizedUrl = normalizedUrlOf env parsed target)
    (hhash : hash = identityHashOf env parsed target)
    (hidentity : ReadBack env (resolutionBase parsed input)
      (keepingUrl env parsed target (parsed.queryPolicy.identifies env))
      (sortPairs ((env.searchParams target.url.search).filter fun pair => parsed.queryPolicy.identifies env pair.1)))
    (hnormalized : ReadBack env (resolutionBase parsed input)
      (keepingUrl env parsed target fun name => !parsed.queryPolicy.isSensitive env name)
      (sortPairs ((env.searchParams target.url.search).filter fun pair => !parsed.queryPolicy.isSensitive env pair.1)))
    (hlimit : utf16Length identityUrl ≤ urlLengthLimit)
    (hsha : ∀ target', resolveTarget env parsed (input.withText identityUrl) = .ok target' →
      identityHashOf env parsed target' = hash → identityUrlOf env parsed target' = identityUrl) :
    CanonicalIdentity env profile parsed input identityUrl normalizedUrl hash ↔
      target.host.getLast? ≠ some '.' ∧ utf16Length normalizedUrl ≤ urlLengthLimit := by
  subst hidentityUrl hnormalizedUrl hhash
  obtain ⟨url, hurl, hof⟩ := resolveTarget_ok htarget
  have hparse := hurl
  unfold inputUrl at hparse
  obtain ⟨text, -, hparse⟩ := Option.bind_eq_some_iff.1 hparse
  obtain ⟨hhostname, -⟩ := hof.canonical hlaws hparse
  have hcanonical := hlaws.host _ _ url target.host hparse hof.http hof.host
  have hagain := resolveTarget_again hlaws htarget hidentity (rfl : _ = identityUrlOf env parsed target)
  rw [if_pos hlimit] at hagain
  have hagain' := resolveTarget_again hlaws htarget hnormalized (rfl : _ = normalizedUrlOf env parsed target)
  constructor
  · intro h
    constructor
    · intro hdot
      have hfound := h.identity
      rw [hasIdentity_iff haccepted, ← hparsed] at hfound
      obtain ⟨target', htarget', hsame⟩ := hfound
      have hurls := hsha target' htarget' hsame
      rw [hagain] at htarget'
      cases hhost : canonicalHostname env (bracketed target.host) with
      | error e =>
        rw [hhost] at htarget'
        cases htarget'
      | ok host =>
        rw [hhost] at htarget'
        cases htarget'
        unfold identityUrlOf at hurls
        rw [keepingUrl_again (fun _ h => h) hidentity] at hurls
        refine hcanonical.changes hdot hhost ?_
        rw [← hhostname]
        exact href_hostname hurls
    · have hfound := h.normalized
      rw [hasIdentity_iff haccepted, ← hparsed] at hfound
      obtain ⟨target', htarget', -⟩ := hfound
      by_contra hlong
      rw [hagain', if_neg hlong] at htarget'
      cases htarget'
  · rintro ⟨hdot, hshort⟩
    have hkept := hcanonical.again hlaws.ascii hof.host hdot
    have hidentifies : ∀ name, parsed.queryPolicy.identifies env name = true →
        (!parsed.queryPolicy.isSensitive env name) = true := by
      intro name h
      unfold QueryPolicy.identifies at h
      rw [Bool.and_eq_true] at h
      exact h.1
    refine ⟨?_, ?_, ?_⟩
    · rw [hasIdentity_iff haccepted, ← hparsed]
      rw [hkept] at hagain
      refine ⟨_, hagain, ?_⟩
      unfold identityHashOf
      rw [← identityUrlOf_same hhostname]
      unfold identityUrlOf
      rw [keepingUrl_again (fun _ h => h) hidentity]
    · rw [hasIdentity_iff haccepted, ← hparsed]
      rw [if_pos hshort, hkept] at hagain'
      refine ⟨_, hagain', ?_⟩
      unfold identityHashOf
      rw [← identityUrlOf_same hhostname]
      unfold identityUrlOf
      rw [keepingUrl_again hidentifies hnormalized]
    · intro input' hash' hpage hfound
      rw [hasIdentity_iff haccepted, ← hparsed] at hfound
      obtain ⟨target', htarget', rfl⟩ := hfound
      unfold identityHashOf
      rw [samePage_identity hpage htarget htarget']

end Identity

namespace Sample

/-- A page with a parameter that is tracked, its identity and its normalized URL, and two dots. -/
def tracked : ScopeEnv :=
  platform [("http://site.test/", url "site.test" "/" "" ""), ("http://site.test/a", url "site.test" "/a" "" ""),
    ("http://site.test/a?t=2", url "site.test" "/a" "?t=2" ""), ("http://site.test/a?t=2#x", url "site.test" "/a" "?t=2" "#x"),
    ("http://site.test../", url "site.test.." "/" "" ""), ("http://site.test./", url "site.test." "/" "" "")]
    [] [("site.test", "site.test"), ("site.test.", "site.test.")]

def tracking : SiteProfile :=
  profile "http://site.test/" .loopback [site "here" .allow "site.test"] []
    ⟨.identity, [⟨['t'], .tracking, false⟩]⟩

theorem tracking_accepted : Accepted tracked tracking.toSiteProfileDraft tracking.toSiteProfileDraft :=
  accepted (by decide) (by decide) (by decide)
    (Checks.mapM_ok.2 (.cons (site_normal (by decide)) .nil)) (List.pairwise_singleton _ _)
    rfl List.Pairwise.nil (by decide) (List.pairwise_singleton _ _) (by decide)

theorem tracked_hosts (text : JsString) :
    tracked.domainToASCII text ∈ ["".toList, "site.test".toList, "site.test.".toList] := by
  have hcases : tracked.parseHost text = none ∨
      ∃ entry ∈ [("site.test", "site.test"), ("site.test.", "site.test.")], tracked.parseHost text = some entry.2.toList := by
    cases hfound : tracked.parseHost text with
    | none => exact .inl rfl
    | some host =>
      obtain ⟨entry, hentry, -, rfl⟩ := platform_parseHost hfound
      exact .inr ⟨entry, hentry, rfl⟩
  have hascii : tracked.domainToASCII text = (tracked.parseHost text).getD [] := rfl
  rw [hascii]
  rcases hcases with hnone | ⟨entry, hentry, hsome⟩
  · rw [hnone]
    decide
  · rw [hsome]
    clear hsome hascii
    revert entry
    decide

theorem tracked_laws : IdentityLaws tracked where
  ascii := by
    intro text _
    have hmem := tracked_hosts text
    generalize tracked.domainToASCII text = ascii at hmem ⊢
    revert ascii
    decide
  host := by
    intro text base found host hparse _ hhost
    have hmem : found.hostname ∈ ["site.test".toList, "site.test..".toList, "site.test.".toList] := by
      rcases platform_parseUrl hparse with ⟨entry, hentry, rfl⟩ | ⟨entry, hentry, -⟩
      · clear hparse hhost
        revert entry
        decide
      · cases hentry
    have hcanonical : host = "site.test".toList ∨ host = "site.test.".toList := by
      generalize found.hostname = hostname at hmem hhost
      simp only [List.mem_cons, List.not_mem_nil, or_false] at hmem
      rcases hmem with rfl | rfl | rfl
      · exact .inl (Except.ok.inj (hhost.symm.trans (by decide)))
      · exact .inr (Except.ok.inj (hhost.symm.trans (by decide)))
      · exact .inl (Except.ok.inj (hhost.symm.trans (by decide)))
    rcases hcanonical with rfl | rfl
    · exact ⟨by decide, by decide, by decide, fun _ => by decide, by decide, by decide⟩
    · exact ⟨by decide, by decide, by decide, fun _ => by decide, by decide, by decide⟩
  path := fun _ _ _ _ _ => rfl

/-- The tracked page. -/
def trackedPage : Target := ⟨"site.test".toList, url "site.test" "/a" "?t=2" "#x"⟩

theorem trackedPage_target : resolveTarget tracked tracking (request "http://site.test/a?t=2#x") = .ok trackedPage := by
  decide

end Sample

open Sample in
theorem identity_canonical_tracked :
    CanonicalIdentity tracked tracking tracking (request "http://site.test/a?t=2#x") "http://site.test/a".toList
        "http://site.test/a?t=2".toList (identityHashOf tracked tracking trackedPage) ↔
      trackedPage.host.getLast? ≠ some '.' ∧ utf16Length "http://site.test/a?t=2".toList ≤ urlLengthLimit :=
  identity_canonical_iff tracked_laws (normalizeSiteProfileDraft_ok.2 tracking_accepted) rfl trackedPage_target
    (by decide +kernel) (by decide +kernel) rfl ⟨by decide +kernel, by decide +kernel, by decide +kernel⟩
    ⟨by decide +kernel, by decide +kernel, by decide +kernel⟩ (by decide +kernel) fun target' htarget' _ => by
      have hsame : resolveTarget tracked tracking ((request "http://site.test/a?t=2#x").withText "http://site.test/a".toList) =
          .ok ⟨"site.test".toList, url "site.test" "/a" "" ""⟩ := by decide
      cases hsame.symm.trans htarget'
      decide +kernel

open Sample in
/-- A host that ends with two dots loses one of them in each evaluation. -/
theorem identity_drifts :
    ∃ decision decision', evaluateScope tracked tracking (request "http://site.test../") = .ok decision ∧
      decision.identityUrl = some "http://site.test./".toList ∧
      evaluateScope tracked tracking (request "http://site.test./") = .ok decision' ∧
      decision'.identityUrl = some "http://site.test/".toList ∧ decision'.identityHash ≠ decision.identityHash := by
  have hfirst : resolveTarget tracked tracking (request "http://site.test../") =
      .ok ⟨"site.test.".toList, url "site.test." "/" "" ""⟩ := by decide
  have hsecond : resolveTarget tracked tracking (request "http://site.test./") =
      .ok ⟨"site.test".toList, url "site.test" "/" "" ""⟩ := by decide
  refine ⟨_, _, evaluateScope_ok.2 ⟨_, tracking_accepted, .inr ⟨_, hfirst, rfl⟩⟩, ?_,
    evaluateScope_ok.2 ⟨_, tracking_accepted, .inr ⟨_, hsecond, rfl⟩⟩, ?_, ?_⟩
  · rw [scopeDecision_identity.1]
    decide +kernel
  · rw [scopeDecision_identity.1]
    decide +kernel
  · rw [scopeDecision_identity.2.1, scopeDecision_identity.2.1]
    decide +kernel

end OfflineWebArchiver.Scope
