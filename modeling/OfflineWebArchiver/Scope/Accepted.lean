import OfflineWebArchiver.Scope.Decision

/-!
# Accepted profiles and their decisions

* `Accepted.rules`: **an accepted profile has the rules of its draft, each in its normal form.**
* `resolveTarget_ok`: what the target of an evaluation is.
* `evaluateScope_ok`: what an evaluation returns.
* `applyDomainRules_eligible`: what has passed the domain rules.
-/

namespace OfflineWebArchiver.Scope

open Checks

variable {env : ScopeEnv} {draft normalized : SiteProfileDraft} {profile : SiteProfile}

/-! ### Acceptance -/

/-- What an accepted draft has passed. -/
structure Accepted (env : ScopeEnv) (draft normalized : SiteProfileDraft) : Prop where
  fits : draft.fits = true
  form : normalizedDraft env draft = .ok normalized
  checked : checkDraft env normalized = .ok ()
  formFits : normalized.fits = true

theorem normalizeSiteProfileDraft_ok :
    normalizeSiteProfileDraft env draft = .ok normalized ↔ Accepted env draft normalized := by
  unfold normalizeSiteProfileDraft
  rw [failIf_bind_ok, Bool.not_eq_false]
  constructor
  · rintro ⟨hfits, h⟩
    obtain ⟨found, hform, h⟩ := bind_ok.1 h
    obtain ⟨_, hchecked, h⟩ := bind_ok.1 h
    obtain ⟨hformFits, h⟩ := failIf_bind_ok.1 h
    obtain rfl := pure_ok.1 h
    exact ⟨hfits, hform, hchecked, by simpa using hformFits⟩
  · intro h
    refine ⟨h.fits, bind_ok.2 ⟨normalized, h.form, bind_ok.2 ⟨(), h.checked, failIf_bind_ok.2 ⟨?_, rfl⟩⟩⟩⟩
    simp [h.formFits]

/-- The rules of a normal form are those of the draft, one by one, and the rest of it is kept. -/
structure RulesNormal (env : ScopeEnv) (draft normalized : SiteProfileDraft) : Prop where
  domain : ∀ rule ∈ draft.domainRules, ∃ rule' ∈ normalized.domainRules, normalizeDomainRule env rule = .ok rule'
  domainOf : ∀ rule' ∈ normalized.domainRules, ∃ rule ∈ draft.domainRules, normalizeDomainRule env rule = .ok rule'
  path : ∀ rule ∈ draft.pathRules, ∃ rule' ∈ normalized.pathRules, normalizePathRule env rule = .ok rule'
  pathOf : ∀ rule' ∈ normalized.pathRules, ∃ rule ∈ draft.pathRules, normalizePathRule env rule = .ok rule'
  query : ∀ rule', rule' ∈ normalized.queryPolicy.rules ↔
    ∃ rule ∈ draft.queryPolicy.rules, { rule with key := env.lower rule.key } = rule'
  unknown : normalized.queryPolicy.unknown = draft.queryPolicy.unknown
  baseUrl : normalizeBaseUrl env draft.baseUrl = .ok normalized.baseUrl
  fragmentPolicy : normalized.fragmentPolicy = draft.fragmentPolicy
  limits : normalized.limits = draft.limits
  classes : ∀ c, c ∈ normalized.allowedIpClasses ↔ c ∈ draft.allowedIpClasses

theorem Accepted.rules (h : Accepted env draft normalized) : RulesNormal env draft normalized := by
  have hform := h.form
  unfold normalizedDraft at hform
  obtain ⟨baseUrl, hbase, hform⟩ := bind_ok.1 hform
  obtain ⟨seeds, -, hform⟩ := bind_ok.1 hform
  obtain ⟨domainRules, hdomain, hform⟩ := bind_ok.1 hform
  obtain ⟨pathRules, hpath, hform⟩ := bind_ok.1 hform
  obtain rfl := pure_ok.1 hform
  refine ⟨?_, ?_, ?_, ?_, fun rule' => ?_, rfl, hbase, rfl, rfl, fun c => List.mem_mergeSort.trans List.mem_eraseDups⟩
  · intro rule hrule
    obtain ⟨rule', hrule', hnormal⟩ := (mapM_mem hdomain).1 rule hrule
    exact ⟨rule', List.mem_mergeSort.2 hrule', hnormal⟩
  · intro rule' hrule'
    exact (mapM_mem hdomain).2 rule' (List.mem_mergeSort.1 hrule')
  · intro rule hrule
    obtain ⟨rule', hrule', hnormal⟩ := (mapM_mem hpath).1 rule hrule
    exact ⟨rule', List.mem_mergeSort.2 hrule', hnormal⟩
  · intro rule' hrule'
    exact (mapM_mem hpath).2 rule' (List.mem_mergeSort.1 hrule')
  · exact List.mem_mergeSort.trans List.mem_map

theorem firstRepeated_none {seen values : List JsString} (h : firstRepeated seen values = none) :
    values.Nodup ∧ ∀ value ∈ values, value ∉ seen := by
  induction values generalizing seen with
  | nil => exact ⟨List.nodup_nil, fun _ h => absurd h List.not_mem_nil⟩
  | cons value rest ih =>
    unfold firstRepeated at h
    split_ifs at h with hseen
    obtain ⟨hnodup, hnew⟩ := ih h
    rw [List.contains_iff_mem] at hseen
    refine ⟨List.nodup_cons.2 ⟨fun hmem => hnew value hmem List.mem_cons_self, hnodup⟩, fun other hother => ?_⟩
    rcases List.mem_cons.1 hother with rfl | hother
    · exact hseen
    · exact fun hmem => hnew other hother (List.mem_cons_of_mem _ hmem)

theorem uniqueTexts_ok {values : List JsString} {message : String} {u : Unit} (h : uniqueTexts values message = .ok u) :
    values.Nodup := by
  unfold uniqueTexts at h
  cases hrepeated : firstRepeated [] values with
  | some value =>
    rw [hrepeated] at h
    cases h
  | none => exact (firstRepeated_none hrepeated).1

/-- The ids of the rules are distinct. -/
theorem Accepted.ids (h : Accepted env draft normalized) :
    (normalized.domainRules.map (·.ruleId)).Nodup ∧ (normalized.pathRules.map (·.ruleId)).Nodup := by
  have hchecked := h.checked
  unfold checkDraft at hchecked
  obtain ⟨_, hdomain, hchecked⟩ := bind_ok.1 hchecked
  obtain ⟨_, hpath, -⟩ := bind_ok.1 hchecked
  exact ⟨uniqueTexts_ok hdomain, uniqueTexts_ok hpath⟩

/-- A normal domain rule keeps all but the spelling of its host and the order of its lists. -/
structure SameDomainRule (env : ScopeEnv) (rule rule' : DomainRule) : Prop where
  ruleId : rule'.ruleId = rule.ruleId
  effect : rule'.effect = rule.effect
  kind : rule'.kind = rule.kind
  hostname : canonicalHostname env rule.hostname = .ok rule'.hostname
  schemes : ∀ scheme, scheme ∈ rule'.schemes ↔ scheme ∈ rule.schemes
  ports : ∀ port, port ∈ rule'.ports ↔ port ∈ rule.ports

theorem normalizeDomainRule_ok {rule rule' : DomainRule} (h : normalizeDomainRule env rule = .ok rule') :
    SameDomainRule env rule rule' := by
  unfold normalizeDomainRule at h
  obtain ⟨hostname, hhost, h⟩ := bind_ok.1 h
  obtain rfl := pure_ok.1 h
  refine ⟨rfl, rfl, rfl, hhost, fun scheme => ?_, fun port => ?_⟩
  · exact List.mem_mergeSort.trans List.mem_eraseDups
  · exact List.mem_mergeSort.trans List.mem_eraseDups

/-! ### Targets -/

/-- The URL that an input names, before it is canonical. -/
def inputUrl (env : ScopeEnv) (profile : SiteProfile) (input : ScopeEvaluationInput) : Option Url :=
  input.text?.bind fun text => env.parseUrl text (some ((input.sourceUrl.or input.baseUrl).getD profile.baseUrl))

/-- What a target is: a URL without credentials under its canonical host, and its path with escapes in
capital letters. -/
structure TargetOf (env : ScopeEnv) (url : Url) (target : Target) : Prop where
  http : isHttp url = true
  plain : url.username = [] ∧ url.password = []
  host : canonicalHostname env url.hostname = .ok target.host
  url : target.url =
    { setHostname env url target.host with pathname := env.parsePath (uppercaseEscapes url.pathname) }

theorem TargetOf.protocol {url : Url} {target : Target} (h : TargetOf env url target) :
    target.url.protocol = url.protocol := by
  rw [h.url]
  rfl

theorem TargetOf.port {url : Url} {target : Target} (h : TargetOf env url target) : target.url.port = url.port := by
  rw [h.url]
  rfl

theorem TargetOf.pathname {url : Url} {target : Target} (h : TargetOf env url target) :
    target.url.pathname = env.parsePath (uppercaseEscapes url.pathname) := by
  rw [h.url]

theorem resolveTarget_ok {input : ScopeEvaluationInput} {target : Target}
    (h : resolveTarget env profile input = .ok target) :
    ∃ url, inputUrl env profile input = some url ∧ TargetOf env url target := by
  unfold resolveTarget at h
  obtain ⟨-, h⟩ := failIf_bind_ok.1 h
  obtain ⟨-, h⟩ := failIf_bind_ok.1 h
  obtain ⟨-, h⟩ := failIf_bind_ok.1 h
  unfold inputUrl
  cases htext : input.text? with
  | none =>
    rw [htext] at h
    cases h
  | some text =>
    rw [htext] at h
    simp only at h
    cases hraw : validateRawUrl text with
    | some code =>
      rw [hraw] at h
      cases h
    | none =>
      rw [hraw] at h
      simp only at h
      rw [Option.bind_some]
      cases hparse : env.parseUrl text (some ((input.sourceUrl.or input.baseUrl).getD profile.baseUrl)) with
      | none =>
        rw [hparse] at h
        cases h
      | some url =>
        rw [hparse] at h
        obtain ⟨hhttp, h⟩ := failIf_bind_ok.1 h
        obtain ⟨hplain, h⟩ := failIf_bind_ok.1 h
        cases hhost : canonicalHostname env url.hostname with
        | error e =>
          rw [hhost] at h
          cases h
        | ok host =>
          rw [hhost] at h
          obtain rfl := pure_ok.1 h
          rw [not_or, not_not, not_not] at hplain
          exact ⟨url, rfl, by simpa using hhttp, hplain, hhost, rfl⟩

/-! ### Evaluations -/

/-- **What an evaluation returns**: the decision on the target under the normal form of the profile,
or the failure to find the target. -/
theorem evaluateScope_ok {input : ScopeEvaluationInput} {decision : ScopeDecision} :
    evaluateScope env profile input = .ok decision ↔
      ∃ normalized, Accepted env profile.toSiteProfileDraft normalized ∧
        ((∃ code, resolveTarget env { profile with toSiteProfileDraft := normalized } input = .error code ∧
            decision = safeFailure env { profile with toSiteProfileDraft := normalized } input.boundedDepth code) ∨
          ∃ target, resolveTarget env { profile with toSiteProfileDraft := normalized } input = .ok target ∧
            decision = scopeDecision env { profile with toSiteProfileDraft := normalized } input target) := by
  unfold evaluateScope parseSiteProfile
  constructor
  · intro h
    obtain ⟨parsed, hparsed, h⟩ := bind_ok.1 h
    obtain ⟨normalized, hnormalized, hparsed⟩ := bind_ok.1 hparsed
    obtain rfl := pure_ok.1 hparsed
    refine ⟨normalized, normalizeSiteProfileDraft_ok.1 hnormalized, ?_⟩
    cases htarget : resolveTarget env { profile with toSiteProfileDraft := normalized } input with
    | error code =>
      rw [htarget] at h
      exact .inl ⟨code, rfl, (pure_ok.1 h).symm⟩
    | ok target =>
      rw [htarget] at h
      exact .inr ⟨target, rfl, (pure_ok.1 h).symm⟩
  · rintro ⟨normalized, haccepted, h⟩
    refine bind_ok.2 ⟨{ profile with toSiteProfileDraft := normalized },
      bind_ok.2 ⟨normalized, normalizeSiteProfileDraft_ok.2 haccepted, rfl⟩, ?_⟩
    rcases h with ⟨code, htarget, rfl⟩ | ⟨target, htarget, rfl⟩
    · rw [htarget]
      rfl
    · rw [htarget]
      rfl

/-! ### Eligibility -/

variable {f : Findings}

@[simp] theorem reject_eligible (code : ScopeReasonCode) : (f.reject code).eligible = false := rfl

/-- What passed the domain rules: no rule denies it, and one allows it. -/
theorem applyDomainRules_eligible {rules : List DomainRule} {target : Target} :
    (applyDomainRules rules target f).eligible = true ↔ f.eligible = true ∧
      (∀ rule ∈ rules, rule.effect = .deny → domainMatches target.host rule target.url = false) ∧
      ∃ rule ∈ rules, rule.effect = .allow ∧ domainMatches target.host rule target.url = true := by
  unfold applyDomainRules
  simp only
  cases hdeny : rules.find? fun rule => rule.effect == .deny && domainMatches target.host rule target.url with
  | some rule =>
    have hmem := List.mem_of_find?_eq_some hdeny
    have hmatch := List.find?_some hdeny
    simp only [Bool.and_eq_true, beq_iff_eq] at hmatch
    refine ⟨fun h => absurd h Bool.false_ne_true, fun h => ?_⟩
    rw [h.2.1 rule hmem hmatch.1] at hmatch
    exact absurd hmatch.2 Bool.false_ne_true
  | none =>
    have hnone : ∀ rule ∈ rules, rule.effect = .deny → domainMatches target.host rule target.url = false := by
      intro rule hrule heffect
      have hnot := List.find?_eq_none.1 hdeny rule hrule
      simpa [heffect] using hnot
    cases hallow : rules.find? fun rule => rule.effect == .allow && domainMatches target.host rule target.url with
    | none =>
      refine ⟨fun h => absurd h Bool.false_ne_true, fun ⟨_, _, rule, hrule, heffect, hmatch⟩ => ?_⟩
      have hnot := List.find?_eq_none.1 hallow rule hrule
      simp [heffect, hmatch] at hnot
    | some rule =>
      have hmatch := List.find?_some hallow
      simp only [Bool.and_eq_true, beq_iff_eq] at hmatch
      exact ⟨fun h => ⟨h, hnone, rule, List.mem_of_find?_eq_some hallow, hmatch.1, hmatch.2⟩, fun h => h.1⟩

end OfflineWebArchiver.Scope
