import OfflineWebArchiver.Scope.Eligible
import OfflineWebArchiver.Scope.Sample

/-!
# Deny rules dominate

One more rule that denies makes no URL eligible, and the order of the rules decides nothing.

* `OneMoreDeny`: a draft with one more domain rule, path rule or query classification that denies.
* `Stricter.normal`: its normal form is stricter.
* `Stricter.passes`: what passes the stricter profile passes the other.
* `deny_dominates`: **the two-run statement, and the order of the rules.**
-/

namespace OfflineWebArchiver.Scope

variable {env : ScopeEnv} {draft draft' normalized normalized' : SiteProfileDraft}

/-- A draft with one more rule that denies, anywhere among the others. A query classification denies
by a rule of its own, by a rule that is about the key already, or for the unknown keys. -/
inductive OneMoreDeny (draft : SiteProfileDraft) : SiteProfileDraft → Prop
  | domain {rule : DomainRule} {rules : List DomainRule} (hdeny : rule.effect = .deny)
      (hrules : rules.Perm (rule :: draft.domainRules)) : OneMoreDeny draft { draft with domainRules := rules }
  | path {rule : PathRule} {rules : List PathRule} (hdeny : rule.effect = .deny)
      (hrules : rules.Perm (rule :: draft.pathRules)) : OneMoreDeny draft { draft with pathRules := rules }
  | query {rule : QueryRule} {rules : List QueryRule} (hdeny : rule.classification = .denied)
      (hrules : rules.Perm (rule :: draft.queryPolicy.rules)) :
      OneMoreDeny draft { draft with queryPolicy := { draft.queryPolicy with rules := rules } }
  | reclassified {before after : QueryRule} {others rules : List QueryRule}
      (hbefore : draft.queryPolicy.rules.Perm (before :: others)) (hkey : after.key = before.key)
      (hdeny : after.classification = .denied) (hrules : rules.Perm (after :: others)) :
      OneMoreDeny draft { draft with queryPolicy := { draft.queryPolicy with rules := rules } }
  | unknown : OneMoreDeny draft { draft with queryPolicy := { draft.queryPolicy with unknown := .denied } }

/-- A list that keeps every rule of another and adds only rules that deny. -/
structure AddsDenials {α : Type} (denies : α → Prop) (rules rules' : List α) : Prop where
  kept : ∀ rule ∈ rules, rule ∈ rules'
  added : ∀ rule ∈ rules', rule ∈ rules ∨ denies rule

/-- A draft that adds rules that deny to those of another. -/
structure Stricter (draft draft' : SiteProfileDraft) : Prop where
  domain : AddsDenials (fun rule : DomainRule => rule.effect = .deny) draft.domainRules draft'.domainRules
  path : AddsDenials (fun rule : PathRule => rule.effect = .deny) draft.pathRules draft'.pathRules
  queryKept : ∀ rule ∈ draft.queryPolicy.rules, ∃ rule' ∈ draft'.queryPolicy.rules, rule'.key = rule.key
  queryAdded : ∀ rule ∈ draft'.queryPolicy.rules, rule ∈ draft.queryPolicy.rules ∨ rule.classification = .denied
  unknown : draft'.queryPolicy.unknown = draft.queryPolicy.unknown ∨ draft'.queryPolicy.unknown = .denied
  baseUrl : draft'.baseUrl = draft.baseUrl
  fragmentPolicy : draft'.fragmentPolicy = draft.fragmentPolicy
  limits : draft'.limits = draft.limits
  classes : ∀ c, c ∈ draft'.allowedIpClasses ↔ c ∈ draft.allowedIpClasses

/-! ### Drafts -/

section Lists

variable {α β : Type} {denies : α → Prop} {rules rules' : List α}

theorem AddsDenials.refl (denies : α → Prop) (rules : List α) : AddsDenials denies rules rules :=
  ⟨fun _ h => h, fun _ h => .inl h⟩

theorem AddsDenials.of_perm {rule : α} (hdeny : denies rule) (h : rules'.Perm (rule :: rules)) :
    AddsDenials denies rules rules' := by
  refine ⟨fun other hother => h.mem_iff.2 (List.mem_cons_of_mem _ hother), fun other hother => ?_⟩
  rcases List.mem_cons.1 (h.mem_iff.1 hother) with rfl | hother
  · exact .inr hdeny
  · exact .inl hother

/-- Normal forms that keep what a rule does keep the relation. -/
theorem AddsDenials.normal {normal : α → β → Prop} {denies' : β → Prop} {found found' : List β}
    (h : AddsDenials denies rules rules') (hfound : ∀ b, b ∈ found ↔ ∃ a ∈ rules, normal a b)
    (hfound' : ∀ b, b ∈ found' ↔ ∃ a ∈ rules', normal a b) (hdenies : ∀ a b, normal a b → denies a → denies' b) :
    AddsDenials denies' found found' := by
  constructor
  · intro b hb
    obtain ⟨a, ha, hnormal⟩ := (hfound b).1 hb
    exact (hfound' b).2 ⟨a, h.kept a ha, hnormal⟩
  · intro b hb
    obtain ⟨a, ha, hnormal⟩ := (hfound' b).1 hb
    rcases h.added a ha with ha | hdeny
    · exact .inl ((hfound b).2 ⟨a, ha, hnormal⟩)
    · exact .inr (hdenies a b hnormal hdeny)

end Lists

theorem Stricter.refl (draft : SiteProfileDraft) : Stricter draft draft :=
  ⟨.refl _ _, .refl _ _, fun rule h => ⟨rule, h, rfl⟩, fun _ h => .inl h, .inl rfl, rfl, rfl, rfl, fun _ => Iff.rfl⟩

theorem OneMoreDeny.stricter (h : OneMoreDeny draft draft') : Stricter draft draft' := by
  cases h with
  | domain hdeny hrules => exact { Stricter.refl draft with domain := .of_perm hdeny hrules }
  | path hdeny hrules => exact { Stricter.refl draft with path := .of_perm hdeny hrules }
  | query hdeny hrules =>
    have hadds : AddsDenials (fun rule : QueryRule => rule.classification = .denied) _ _ := .of_perm hdeny hrules
    exact { Stricter.refl draft with
      queryKept := fun rule hrule => ⟨rule, hadds.kept rule hrule, rfl⟩
      queryAdded := hadds.added }
  | @reclassified before after others rules hbefore hkey hdeny hrules =>
    refine { Stricter.refl draft with queryKept := fun rule hrule => ?_, queryAdded := fun rule hrule => ?_ }
    · rcases List.mem_cons.1 (hbefore.mem_iff.1 hrule) with rfl | hother
      · exact ⟨after, hrules.mem_iff.2 List.mem_cons_self, hkey⟩
      · exact ⟨rule, hrules.mem_iff.2 (List.mem_cons_of_mem _ hother), rfl⟩
    · rcases List.mem_cons.1 (hrules.mem_iff.1 hrule) with rfl | hother
      · exact .inr hdeny
      · exact .inl (hbefore.mem_iff.2 (List.mem_cons_of_mem _ hother))
  | unknown => exact { Stricter.refl draft with unknown := .inr rfl }

/-! ### Normal forms -/

theorem RulesNormal.domain_iff (h : RulesNormal env draft normalized) (rule' : DomainRule) :
    rule' ∈ normalized.domainRules ↔ ∃ rule ∈ draft.domainRules, normalizeDomainRule env rule = .ok rule' := by
  refine ⟨h.domainOf rule', fun ⟨rule, hrule, hnormal⟩ => ?_⟩
  obtain ⟨other, hother, hsame⟩ := h.domain rule hrule
  rw [hnormal] at hsame
  cases hsame
  exact hother

theorem RulesNormal.path_iff (h : RulesNormal env draft normalized) (rule' : PathRule) :
    rule' ∈ normalized.pathRules ↔ ∃ rule ∈ draft.pathRules, normalizePathRule env rule = .ok rule' := by
  refine ⟨h.pathOf rule', fun ⟨rule, hrule, hnormal⟩ => ?_⟩
  obtain ⟨other, hother, hsame⟩ := h.path rule hrule
  rw [hnormal] at hsame
  cases hsame
  exact hother

theorem normalizePathRule_effect {rule rule' : PathRule} (h : normalizePathRule env rule = .ok rule') :
    rule'.effect = rule.effect := by
  unfold normalizePathRule at h
  obtain ⟨path, -, h⟩ := Checks.bind_ok.1 h
  obtain rfl := Checks.pure_ok.1 h
  rfl

/-- **The normal form of a stricter draft is stricter.** -/
theorem Stricter.normal (hstrict : Stricter draft draft') (h : RulesNormal env draft normalized)
    (h' : RulesNormal env draft' normalized') : Stricter normalized normalized' where
  domain := hstrict.domain.normal h.domain_iff h'.domain_iff fun _ _ hnormal hdeny =>
    (normalizeDomainRule_ok hnormal).effect.trans hdeny
  path := hstrict.path.normal h.path_iff h'.path_iff fun _ _ hnormal hdeny =>
    (normalizePathRule_effect hnormal).trans hdeny
  queryKept := by
    intro rule hrule
    obtain ⟨source, hsource, rfl⟩ := (h.query rule).1 hrule
    obtain ⟨source', hsource', hkey⟩ := hstrict.queryKept source hsource
    refine ⟨_, (h'.query _).2 ⟨source', hsource', rfl⟩, ?_⟩
    simp only [hkey]
  queryAdded := by
    intro rule hrule
    obtain ⟨source, hsource, rfl⟩ := (h'.query rule).1 hrule
    rcases hstrict.queryAdded source hsource with hsource | hdeny
    · exact .inl ((h.query _).2 ⟨source, hsource, rfl⟩)
    · exact .inr hdeny
  unknown := by
    rw [h.unknown, h'.unknown]
    exact hstrict.unknown
  baseUrl := by
    have hbase := h'.baseUrl
    rw [hstrict.baseUrl, h.baseUrl] at hbase
    exact (Except.ok.inj hbase).symm
  fragmentPolicy := h'.fragmentPolicy.trans (hstrict.fragmentPolicy.trans h.fragmentPolicy.symm)
  limits := h'.limits.trans (hstrict.limits.trans h.limits.symm)
  classes := fun c => (h'.classes c).trans ((hstrict.classes c).trans (h.classes c).symm)

/-! ### Decisions -/

variable {parsed parsed' : SiteProfile} {input : ScopeEvaluationInput} {target : Target}

/-- A parameter that the stricter policy does not deny has the same rule under both. -/
theorem Stricter.ruleOf (h : Stricter draft draft') (hkeys : (draft.queryPolicy.rules.map (·.key)).Nodup)
    {name : JsString} (hkept : draft'.queryPolicy.classify env name ≠ .denied) :
    draft.queryPolicy.ruleOf env name = draft'.queryPolicy.ruleOf env name ∧
      draft.queryPolicy.classify env name = draft'.queryPolicy.classify env name := by
  have hrule : draft.queryPolicy.ruleOf env name = draft'.queryPolicy.ruleOf env name := by
    unfold QueryPolicy.classify at hkept
    cases hfound' : draft'.queryPolicy.ruleOf env name with
    | none =>
      refine ruleOf_none.2 fun rule hmem hkey => ?_
      obtain ⟨rule', hmem', hkey'⟩ := h.queryKept rule hmem
      exact ruleOf_none.1 hfound' rule' hmem' (hkey'.trans hkey)
    | some rule =>
      obtain ⟨hmem', hkey⟩ := ruleOf_some hfound'
      have hmem : rule ∈ draft.queryPolicy.rules := by
        refine (h.queryAdded rule hmem').resolve_right fun hdeny => hkept ?_
        rw [hfound', Option.map_some, Option.getD_some, hdeny]
      cases hfound : draft.queryPolicy.ruleOf env name with
      | none => exact absurd hkey (ruleOf_none.1 hfound rule hmem)
      | some other =>
        obtain ⟨hother, hotherKey⟩ := ruleOf_some hfound
        rw [List.inj_on_of_nodup_map hkeys hother hmem (hotherKey.trans hkey.symm)]
  refine ⟨hrule, ?_⟩
  unfold QueryPolicy.classify at hkept ⊢
  rw [hrule]
  cases hfound' : draft'.queryPolicy.ruleOf env name with
  | some rule => rfl
  | none =>
    rw [hfound', Option.map_none, Option.getD_none] at hkept
    exact (h.unknown.resolve_right hkept).symm

/-- **What passes the stricter profile passes the other.** -/
theorem Stricter.passes (h : Stricter parsed.toSiteProfileDraft parsed'.toSiteProfileDraft)
    (hkeys : (parsed.queryPolicy.rules.map (·.key)).Nodup) (hpasses : Passes env parsed' input target) :
    Passes env parsed input target := by
  have hclassify : ∀ pair ∈ env.searchParams target.url.search,
      parsed.queryPolicy.ruleOf env pair.1 = parsed'.queryPolicy.ruleOf env pair.1 ∧
        parsed.queryPolicy.classify env pair.1 = parsed'.queryPolicy.classify env pair.1 :=
    fun pair hpair => h.ruleOf hkeys (hpasses.query pair hpair)
  refine ⟨fun rule hrule => hpasses.domainKept rule (h.domain.kept rule hrule), ?_,
    fun rule hrule => hpasses.pathKept rule (h.path.kept rule hrule), ?_, fun pair hpair => ?_, ?_⟩
  · obtain ⟨rule, hrule, hallow, hmatch⟩ := hpasses.domainAllowed
    refine ⟨rule, (h.domain.added rule hrule).resolve_right fun hdeny => ?_, hallow, hmatch⟩
    rw [hallow] at hdeny
    cases hdeny
  · rintro ⟨rule, hrule, hallow⟩
    obtain ⟨rule', hrule', hallow', hmatch⟩ := hpasses.pathAllowed ⟨rule, h.path.kept rule hrule, hallow⟩
    refine ⟨rule', (h.path.added rule' hrule').resolve_right fun hdeny => ?_, hallow', hmatch⟩
    rw [hallow'] at hdeny
    cases hdeny
  · rw [(hclassify pair hpair).2]
    exact hpasses.query pair hpair
  · -- No denied parameter is left, so the identity and what is known of it are the same.
    have hidentity : identityHashOf env parsed target = identityHashOf env parsed' target := by
      unfold identityHashOf identityUrlOf keepingUrl
      have hfilter : ((env.searchParams target.url.search).filter fun pair => parsed.queryPolicy.identifies env pair.1) =
          (env.searchParams target.url.search).filter fun pair => parsed'.queryPolicy.identifies env pair.1 := by
        refine List.filter_congr fun pair hpair => ?_
        unfold QueryPolicy.identifies QueryPolicy.isSensitive
        rw [(hclassify pair hpair).1, (hclassify pair hpair).2]
      rw [hfilter, h.fragmentPolicy]
    have hclasses : ∀ c, parsed.allowedIpClasses.contains c = parsed'.allowedIpClasses.contains c := by
      intro c
      rw [Bool.eq_iff_iff, List.contains_iff_mem, List.contains_iff_mem]
      exact (h.classes c).symm
    rw [hidentity]
    have hlimits := hpasses.limits
    unfold applyLimits at hlimits ⊢
    rw [h.limits] at hlimits
    rw [hclasses]
    exact hlimits

/-- The steps up to the target read the base and the revision of a profile. -/
theorem resolveTarget_congr (hbase : parsed'.baseUrl = parsed.baseUrl) (hrevision : parsed'.revisionId = parsed.revisionId) :
    resolveTarget env parsed' input = resolveTarget env parsed input := by
  unfold resolveTarget
  rw [hbase, hrevision]

/-- **Deny rules dominate, and the order of the rules decides nothing.** A URL that is eligible under
a profile with one more rule that denies is eligible without it, and a profile whose rules are listed
in another order takes the same decisions. -/
theorem deny_dominates (profile : SiteProfile) (draft' : SiteProfileDraft) (input : ScopeEvaluationInput)
    (decision : ScopeDecision) (h : evaluateScope env profile input = .ok decision) :
    (∀ decision', OneMoreDeny profile.toSiteProfileDraft draft' →
        evaluateScope env { profile with toSiteProfileDraft := draft' } input = .ok decision' →
        decision'.eligible = true → decision.eligible = true) ∧
      (Reordered profile.toSiteProfileDraft draft' →
        evaluateScope env { profile with toSiteProfileDraft := draft' } input = .ok decision) := by
  refine ⟨fun decision' hmore h' heligible => ?_, fun horder => evaluateScope_reordered horder h⟩
  obtain ⟨normalized, haccepted, h⟩ := evaluateScope_ok.1 h
  obtain ⟨normalized', haccepted', h'⟩ := evaluateScope_ok.1 h'
  have hstrict := hmore.stricter.normal haccepted.rules haccepted'.rules
  have htargets : resolveTarget env { profile with toSiteProfileDraft := normalized' } input =
      resolveTarget env { profile with toSiteProfileDraft := normalized } input :=
    resolveTarget_congr hstrict.baseUrl rfl
  rcases h' with ⟨code, -, rfl⟩ | ⟨target, htarget', rfl⟩
  · cases heligible
  · rcases h with ⟨code, htarget, -⟩ | ⟨other, htarget, rfl⟩
    · cases htarget.symm.trans (htargets.symm.trans htarget')
    · cases htarget.symm.trans (htargets.symm.trans htarget')
      have hpasses := scopeDecision_passes.1 heligible
      exact scopeDecision_passes.2 (Stricter.passes hstrict haccepted.keys hpasses)

namespace Sample

/-- A site with two pages, and another one. -/
def twoSites : ScopeEnv :=
  platform [("http://site.test/", url "site.test" "/" "" ""), ("http://site.test/a", url "site.test" "/a" "" "")]
    [("/b", "/b")] [("site.test", "site.test"), ("other.test", "other.test")]

def openProfile : SiteProfile :=
  profile "http://site.test/" .loopback [site "here" .allow "site.test", site "there" .deny "other.test"] []
    ⟨.identity, []⟩

def guarded : SiteProfile :=
  profile "http://site.test/" .loopback [site "here" .allow "site.test", site "there" .deny "other.test"]
    [path "private" .deny .pathPrefix "/b"] ⟨.identity, []⟩

theorem openProfile_accepted :
    Accepted twoSites openProfile.toSiteProfileDraft openProfile.toSiteProfileDraft :=
  accepted (by decide) (by decide) (by decide)
    (Checks.mapM_ok.2 (.cons (site_normal (by decide)) (.cons (site_normal (by decide)) .nil))) (by decide) rfl
    List.Pairwise.nil rfl List.Pairwise.nil (by decide)

theorem guarded_accepted : Accepted twoSites guarded.toSiteProfileDraft guarded.toSiteProfileDraft :=
  accepted (by decide) (by decide) (by decide)
    (Checks.mapM_ok.2 (.cons (site_normal (by decide)) (.cons (site_normal (by decide)) .nil))) (by decide)
    (by decide) (List.pairwise_singleton _ _) rfl List.Pairwise.nil (by decide)

/-- The first page, as both profiles see it. -/
def firstPage : Target := ⟨"site.test".toList, url "site.test" "/a" "" ""⟩

theorem openProfile_decision : evaluateScope twoSites openProfile (request "http://site.test/a") =
    .ok (scopeDecision twoSites openProfile (request "http://site.test/a") firstPage) :=
  evaluateScope_ok.2 ⟨_, openProfile_accepted, .inr ⟨firstPage, by decide, rfl⟩⟩

theorem guarded_decision : evaluateScope twoSites guarded (request "http://site.test/a") =
    .ok (scopeDecision twoSites guarded (request "http://site.test/a") firstPage) :=
  evaluateScope_ok.2 ⟨_, guarded_accepted, .inr ⟨firstPage, by decide, rfl⟩⟩

end Sample

open Sample in
theorem deny_dominates_sites :
    (scopeDecision twoSites openProfile (request "http://site.test/a") firstPage).eligible = true ∧
      evaluateScope twoSites
          (profile "http://site.test/" .loopback [site "there" .deny "other.test", site "here" .allow "site.test"] []
            ⟨.identity, []⟩) (request "http://site.test/a") =
        .ok (scopeDecision twoSites openProfile (request "http://site.test/a") firstPage) :=
  ⟨(deny_dominates openProfile guarded.toSiteProfileDraft _ _ openProfile_decision).1 _
      (.path rfl (List.Perm.refl _)) guarded_decision (by decide),
    (deny_dominates openProfile _ _ _ openProfile_decision).2
      (.intro (List.Perm.swap _ _ _) (List.Perm.refl _) (List.Perm.refl _))⟩

end OfflineWebArchiver.Scope
