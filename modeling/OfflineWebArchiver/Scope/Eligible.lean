import OfflineWebArchiver.Lib.Sorting
import OfflineWebArchiver.Scope.Accepted

/-!
# The order of the rules

The normal form sorts the rules by what tells them apart, so the order in which a draft lists them
is lost.

* `sortPairs_perm`, `sortPairs_filter`: the order of the parameters is lost as well.
* `Accepted.reordered`: **a draft with its rules in another order has the same normal form.**
* `evaluateScope_reordered`: and the same decisions.
-/

namespace OfflineWebArchiver.Scope

open Checks Sorting

variable {env : ScopeEnv} {draft draft' normalized : SiteProfileDraft}

/-- The same draft with its domain, path and query rules in another order. -/
inductive Reordered (draft : SiteProfileDraft) : SiteProfileDraft → Prop
  | intro {domainRules : List DomainRule} {pathRules : List PathRule} {queryRules : List QueryRule}
      (domain : draft.domainRules.Perm domainRules) (path : draft.pathRules.Perm pathRules)
      (query : draft.queryPolicy.rules.Perm queryRules) :
      Reordered draft
        { draft with
          domainRules := domainRules
          pathRules := pathRules
          queryPolicy := { draft.queryPolicy with rules := queryRules } }

theorem Reordered.fits (h : Reordered draft draft') (hfits : draft.fits = true) : draft'.fits = true := by
  obtain ⟨hdomain, hpath, hquery⟩ := h
  unfold SiteProfileDraft.fits QueryPolicy.fits at hfits ⊢
  rw [← hdomain.length_eq, ← hpath.length_eq, ← hquery.length_eq, ← hdomain.all_eq, ← hpath.all_eq, ← hquery.all_eq]
  exact hfits

/-! ### The sort by id -/

theorem ordinalNotAfter_trans (a b c : JsString) (hab : ordinalNotAfter a b = true) (hbc : ordinalNotAfter b c = true) :
    ordinalNotAfter a c = true := by
  unfold ordinalNotAfter at hab hbc ⊢
  rw [Bool.not_eq_true'] at hab hbc ⊢
  by_contra hca
  rw [Bool.not_eq_false] at hca
  by_cases h : a = b
  · rw [h, hbc] at hca
    cases hca
  · rcases jsLt_total h with hlt | hlt
    · rw [jsLt_trans hca hlt] at hbc
      cases hbc
    · rw [hlt] at hab
      cases hab

theorem ordinalNotAfter_total (a b : JsString) : (ordinalNotAfter a b || ordinalNotAfter b a) = true := by
  unfold ordinalNotAfter
  cases hlt : jsLt b a with
  | false => rfl
  | true => rw [jsLt_asymm hlt, Bool.not_false, Bool.or_true]

theorem ordinalNotAfter_antisymm {a b : JsString} (hab : ordinalNotAfter a b = true)
    (hba : ordinalNotAfter b a = true) : a = b := by
  unfold ordinalNotAfter at hab hba
  by_contra hne
  rcases jsLt_total hne with hlt | hlt
  · rw [hlt] at hba
    cases hba
  · rw [hlt] at hab
    cases hab

/-- Elements with distinct texts have one order by them. -/
theorem mergeSort_byText {α : Type} {text : α → JsString} {l l' : List α} (hdistinct : (l.map text).Nodup)
    (h : l.Perm l') :
    (l.mergeSort fun a b => ordinalNotAfter (text a) (text b)) =
      l'.mergeSort fun a b => ordinalNotAfter (text a) (text b) := by
  apply mergeSort_eq_of_perm
  · exact fun a b c => ordinalNotAfter_trans (text a) (text b) (text c)
  · exact fun a b => ordinalNotAfter_total (text a) (text b)
  · intro a ha b hb hab hba
    exact List.inj_on_of_nodup_map hdistinct ha hb (ordinalNotAfter_antisymm hab hba)
  · exact h

theorem distinct_of_sorted {α : Type} {text : α → JsString} {le : α → α → Bool} {l : List α}
    (h : ((l.mergeSort le).map text).Nodup) : (l.map text).Nodup :=
  ((List.mergeSort_perm l le).map text).nodup_iff.1 h

/-! ### The sort of parameters -/

theorem pairNotAfter_iff {left right : JsString × JsString} :
    pairNotAfter left right = true ↔
      jsLt left.1 right.1 = true ∨ (left.1 = right.1 ∧ ordinalNotAfter left.2 right.2 = true) := by
  unfold pairNotAfter ordinalNotAfter
  rw [Bool.or_eq_true, Bool.and_eq_true, beq_iff_eq]

theorem pairNotAfter_trans (a b c : JsString × JsString) (hab : pairNotAfter a b = true)
    (hbc : pairNotAfter b c = true) : pairNotAfter a c = true := by
  rw [pairNotAfter_iff] at hab hbc ⊢
  rcases hab with hab | ⟨hkey, hab⟩
  · rcases hbc with hbc | ⟨hkey', -⟩
    · exact .inl (jsLt_trans hab hbc)
    · exact .inl (hkey' ▸ hab)
  · rcases hbc with hbc | ⟨hkey', hbc⟩
    · exact .inl (hkey ▸ hbc)
    · exact .inr ⟨hkey.trans hkey', ordinalNotAfter_trans _ _ _ hab hbc⟩

theorem pairNotAfter_total (a b : JsString × JsString) : (pairNotAfter a b || pairNotAfter b a) = true := by
  rw [Bool.or_eq_true, pairNotAfter_iff, pairNotAfter_iff]
  by_cases hkey : a.1 = b.1
  · rcases Bool.or_eq_true_iff.1 (ordinalNotAfter_total a.2 b.2) with h | h
    · exact .inl (.inr ⟨hkey, h⟩)
    · exact .inr (.inr ⟨hkey.symm, h⟩)
  · rcases jsLt_total hkey with h | h
    · exact .inl (.inl h)
    · exact .inr (.inl h)

theorem pairNotAfter_antisymm {a b : JsString × JsString} (hab : pairNotAfter a b = true)
    (hba : pairNotAfter b a = true) : a = b := by
  rw [pairNotAfter_iff] at hab hba
  rcases hab with hab | ⟨hkey, hab⟩
  · rcases hba with hba | ⟨hkey', -⟩
    · rw [jsLt_asymm hab] at hba
      cases hba
    · rw [hkey', jsLt_irrefl] at hab
      cases hab
  · rcases hba with hba | ⟨-, hba⟩
    · rw [hkey, jsLt_irrefl] at hba
      cases hba
    · exact Prod.ext hkey (ordinalNotAfter_antisymm hab hba)

theorem sortPairs_perm {pairs pairs' : List (JsString × JsString)} (h : pairs.Perm pairs') :
    sortPairs pairs = sortPairs pairs' :=
  mergeSort_eq_of_perm pairNotAfter_trans pairNotAfter_total (fun _ _ _ _ => pairNotAfter_antisymm) h

theorem sortPairs_filter (pairs : List (JsString × JsString)) (p : JsString × JsString → Bool) :
    sortPairs (pairs.filter p) = (sortPairs pairs).filter p :=
  mergeSort_filter pairNotAfter_trans pairNotAfter_total (fun _ _ _ _ => pairNotAfter_antisymm) p

theorem sortPairs_sortPairs (pairs : List (JsString × JsString)) : sortPairs (sortPairs pairs) = sortPairs pairs :=
  sortPairs_perm (List.mergeSort_perm _ _)

/-! ### The normal form -/

/-- The keys of the query rules are distinct. -/
theorem Accepted.keys (h : Accepted env draft normalized) : (normalized.queryPolicy.rules.map (·.key)).Nodup := by
  have hchecked := h.checked
  unfold checkDraft at hchecked
  obtain ⟨_, -, hchecked⟩ := bind_ok.1 hchecked
  obtain ⟨_, -, hchecked⟩ := bind_ok.1 hchecked
  obtain ⟨_, hkeys, -⟩ := bind_ok.1 hchecked
  exact uniqueTexts_ok hkeys

/-- **A draft with its rules in another order has the same normal form.** -/
theorem Accepted.reordered (h : Accepted env draft normalized) (horder : Reordered draft draft') :
    Accepted env draft' normalized := by
  refine ⟨horder.fits h.fits, ?_, h.checked, h.formFits⟩
  obtain ⟨hdomainIds, hpathIds⟩ := h.ids
  have hkeys := h.keys
  have hform := h.form
  obtain ⟨hdomain, hpath, hquery⟩ := horder
  unfold normalizedDraft at hform ⊢
  obtain ⟨baseUrl, hbase, hform⟩ := bind_ok.1 hform
  obtain ⟨seeds, hseeds, hform⟩ := bind_ok.1 hform
  obtain ⟨domainFound, hdomainFound, hform⟩ := bind_ok.1 hform
  obtain ⟨pathFound, hpathFound, hform⟩ := bind_ok.1 hform
  obtain rfl := pure_ok.1 hform
  obtain ⟨domainFound', hdomainFound', hdomainPerm⟩ := mapM_perm hdomain hdomainFound
  obtain ⟨pathFound', hpathFound', hpathPerm⟩ := mapM_perm hpath hpathFound
  refine bind_ok.2 ⟨baseUrl, hbase, bind_ok.2 ⟨seeds, hseeds, bind_ok.2 ⟨domainFound', hdomainFound',
    bind_ok.2 ⟨pathFound', hpathFound', pure_ok.2 ?_⟩⟩⟩⟩
  rw [mergeSort_byText (distinct_of_sorted hdomainIds) hdomainPerm,
    mergeSort_byText (distinct_of_sorted hpathIds) hpathPerm,
    mergeSort_byText (distinct_of_sorted hkeys) (hquery.map _)]

/-- **The order of the rules changes no decision.** -/
theorem evaluateScope_reordered {profile : SiteProfile} {input : ScopeEvaluationInput} {decision : ScopeDecision}
    (horder : Reordered profile.toSiteProfileDraft draft') (h : evaluateScope env profile input = .ok decision) :
    evaluateScope env { profile with toSiteProfileDraft := draft' } input = .ok decision := by
  obtain ⟨normalized, haccepted, h⟩ := evaluateScope_ok.1 h
  exact evaluateScope_ok.2 ⟨normalized, haccepted.reordered horder, h⟩

end OfflineWebArchiver.Scope

/-!
## Eligible targets

Eligibility accumulates over the rules, the query, the address and the limits. Each of them can only
take it away.

* `scanQuery_eq`: the loop over the query in closed form.
* `scopeDecision_passes`: **a decision is eligible when its target passes every part.**
-/

namespace OfflineWebArchiver.Scope

open Checks

variable {env : ScopeEnv} {profile : SiteProfile} {f : Findings}

/-! ### The path rules -/

/-- What passed the path rules: no rule denies it, and one allows it if any rule allows. -/
theorem applyPathRules_passes {rules : List PathRule} {pathname : JsString} :
    (applyPathRules rules pathname f).eligible = true ↔ f.eligible = true ∧
      (∀ rule ∈ rules, rule.effect = .deny → pathMatches pathname rule = false) ∧
      ((∃ rule ∈ rules, rule.effect = .allow) →
        ∃ rule ∈ rules, rule.effect = .allow ∧ pathMatches pathname rule = true) := by
  unfold applyPathRules
  simp only
  cases hdeny : rules.find? fun rule => rule.effect == .deny && pathMatches pathname rule with
  | some rule =>
    have hmem := List.mem_of_find?_eq_some hdeny
    have hmatch := List.find?_some hdeny
    simp only [Bool.and_eq_true, beq_iff_eq] at hmatch
    refine ⟨fun h => absurd h Bool.false_ne_true, fun h => ?_⟩
    rw [h.2.1 rule hmem hmatch.1] at hmatch
    exact absurd hmatch.2 Bool.false_ne_true
  | none =>
    have hnone : ∀ rule ∈ rules, rule.effect = .deny → pathMatches pathname rule = false := by
      intro rule hrule heffect
      have hnot := List.find?_eq_none.1 hdeny rule hrule
      simpa [heffect] using hnot
    have hallows : ∀ rule, rule ∈ rules.filter (·.effect == .allow) ↔ rule ∈ rules ∧ rule.effect = .allow := by
      intro rule
      rw [List.mem_filter, beq_iff_eq]
    cases hallow : (rules.filter (·.effect == .allow)).find? (pathMatches pathname) with
    | none =>
      have hmiss : ¬∃ rule ∈ rules, rule.effect = .allow ∧ pathMatches pathname rule = true := by
        rintro ⟨rule, hrule, heffect, hmatch⟩
        exact List.find?_eq_none.1 hallow rule ((hallows rule).2 ⟨hrule, heffect⟩) hmatch
      by_cases hempty : rules.filter (·.effect == .allow) = []
      · simp only [if_pos hempty]
        refine ⟨fun h => ⟨h, hnone, fun ⟨rule, hrule⟩ => ?_⟩, fun h => h.1⟩
        have hmem := (hallows rule).2 hrule
        rw [hempty] at hmem
        exact absurd hmem List.not_mem_nil
      · simp only [if_neg hempty, reject_eligible]
        refine ⟨fun h => absurd h Bool.false_ne_true, fun h => ?_⟩
        obtain ⟨rule, hrule⟩ := List.exists_mem_of_ne_nil _ hempty
        exact absurd (h.2.2 ⟨rule, (hallows rule).1 hrule⟩) hmiss
    | some rule =>
      have hrule := (hallows rule).1 (List.mem_of_find?_eq_some hallow)
      have hmatch := List.find?_some hallow
      exact ⟨fun h => ⟨h, hnone, fun _ => ⟨rule, hrule.1, hrule.2, hmatch⟩⟩, fun h => h.1⟩

/-! ### The query -/

/-- The rule about a parameter. -/
def QueryPolicy.ruleOf (env : ScopeEnv) (policy : QueryPolicy) (name : JsString) : Option QueryRule :=
  policy.rules.find? (·.key == env.lower name)

/-- `classification`. -/
def QueryPolicy.classify (env : ScopeEnv) (policy : QueryPolicy) (name : JsString) : QueryClassification :=
  ((policy.ruleOf env name).map (·.classification)).getD policy.unknown

/-- `rule?.sensitive === true`. -/
def QueryPolicy.isSensitive (env : ScopeEnv) (policy : QueryPolicy) (name : JsString) : Bool :=
  (policy.ruleOf env name).any (·.sensitive)

/-- Whether a parameter is part of the identity. -/
def QueryPolicy.identifies (env : ScopeEnv) (policy : QueryPolicy) (name : JsString) : Bool :=
  !policy.isSensitive env name &&
    (policy.classify env name == .identity || policy.classify env name == .functional)

variable {policy : QueryPolicy} {name : JsString}

theorem ruleOf_some {rule : QueryRule} (h : policy.ruleOf env name = some rule) :
    rule ∈ policy.rules ∧ rule.key = env.lower name := by
  unfold QueryPolicy.ruleOf at h
  have hkey := List.find?_some h
  rw [beq_iff_eq] at hkey
  exact ⟨List.mem_of_find?_eq_some h, hkey⟩

theorem ruleOf_none : policy.ruleOf env name = none ↔ ∀ rule ∈ policy.rules, rule.key ≠ env.lower name := by
  unfold QueryPolicy.ruleOf
  simp only [List.find?_eq_none, beq_iff_eq, ne_eq]

theorem queryStep_eq (scan : QueryScan) (pair : JsString × JsString) :
    (scan.step env policy pair).eligible = (scan.eligible && policy.classify env pair.1 != .denied) ∧
      (scan.step env policy pair).normalizedPairs =
        scan.normalizedPairs ++ (if policy.isSensitive env pair.1 then [] else [pair]) ∧
      (scan.step env policy pair).identityPairs =
        scan.identityPairs ++ (if policy.identifies env pair.1 then [pair] else []) := by
  unfold QueryScan.step QueryPolicy.identifies QueryPolicy.classify QueryPolicy.isSensitive QueryPolicy.ruleOf
  simp only
  cases policy.rules.find? (·.key == env.lower pair.1) with
  | none => cases policy.unknown <;> simp [Findings.reject]
  | some rule =>
    obtain ⟨key, classification, sensitive⟩ := rule
    simp only [Option.any_some, Option.map_some, Option.getD_some]
    -- Listing the rule touches neither the eligibility nor the pairs.
    by_cases hseen : scan.matchedRules.contains (.query key classification) = true
    · rw [if_pos hseen]
      cases classification <;> cases sensitive <;> simp [Findings.reject]
    · rw [if_neg hseen]
      cases classification <;> cases sensitive <;> simp [Findings.reject, Findings.note]

/-- **The loop over the query in closed form.** -/
theorem scanQuery_eq (search : JsString) (f : Findings) :
    (scanQuery env policy search f).eligible =
        (f.eligible && (env.searchParams search).all fun pair => policy.classify env pair.1 != .denied) ∧
      (scanQuery env policy search f).normalizedPairs =
        (env.searchParams search).filter (fun pair => !policy.isSensitive env pair.1) ∧
      (scanQuery env policy search f).identityPairs =
        (env.searchParams search).filter (fun pair => policy.identifies env pair.1) := by
  have hloop : ∀ (pairs : List (JsString × JsString)) (scan : QueryScan),
      (pairs.foldl (QueryScan.step env policy) scan).eligible =
          (scan.eligible && pairs.all fun pair => policy.classify env pair.1 != .denied) ∧
        (pairs.foldl (QueryScan.step env policy) scan).normalizedPairs =
          scan.normalizedPairs ++ pairs.filter (fun pair => !policy.isSensitive env pair.1) ∧
        (pairs.foldl (QueryScan.step env policy) scan).identityPairs =
          scan.identityPairs ++ pairs.filter (fun pair => policy.identifies env pair.1) := by
    intro pairs
    induction pairs with
    | nil => intro scan; simp
    | cons pair rest ih =>
      intro scan
      obtain ⟨heligible, hnormalized, hidentity⟩ := @queryStep_eq env policy scan pair
      obtain ⟨ih1, ih2, ih3⟩ := ih (scan.step env policy pair)
      rw [List.foldl_cons, ih1, ih2, ih3, heligible, hnormalized, hidentity]
      refine ⟨?_, ?_, ?_⟩
      · rw [List.all_cons, Bool.and_assoc]
      · rw [List.filter_cons]
        cases policy.isSensitive env pair.1 <;> simp
      · rw [List.filter_cons]
        cases policy.identifies env pair.1 <;> simp
  exact hloop (env.searchParams search) { toFindings := f }

/-! ### The decision -/

/-- The address and the limits take eligibility away from any findings alike. -/
theorem applyLimits_passes {input : ScopeEvaluationInput} {hostClass : IpAddressClass} {known : Bool} :
    (applyLimits profile input hostClass known f).eligible =
      (f.eligible && (applyLimits profile input hostClass known {}).eligible) := by
  unfold applyLimits
  simp only
  split_ifs <;> simp [Findings.reject]

/-- The URL of a target with the parameters that are kept. -/
def keepingUrl (env : ScopeEnv) (profile : SiteProfile) (target : Target) (keeps : JsString → Bool) : Url :=
  withPairs env profile.fragmentPolicy target.url ((env.searchParams target.url.search).filter fun pair => keeps pair.1)

/-- The identity of a target under a profile. -/
def identityUrlOf (env : ScopeEnv) (profile : SiteProfile) (target : Target) : JsString :=
  (keepingUrl env profile target (profile.queryPolicy.identifies env)).href

/-- Its normalized URL. -/
def normalizedUrlOf (env : ScopeEnv) (profile : SiteProfile) (target : Target) : JsString :=
  (keepingUrl env profile target fun name => !profile.queryPolicy.isSensitive env name).href

/-- Its hash. -/
def identityHashOf (env : ScopeEnv) (profile : SiteProfile) (target : Target) : JsString :=
  env.sha256 ("scope-identity-v1\n".toList ++ identityUrlOf env profile target)

theorem scopeDecision_identity {input : ScopeEvaluationInput} {target : Target} :
    (scopeDecision env profile input target).identityUrl = some (identityUrlOf env profile target) ∧
      (scopeDecision env profile input target).identityHash = some (identityHashOf env profile target) ∧
      (scopeDecision env profile input target).normalizedUrl = some (normalizedUrlOf env profile target) := by
  unfold scopeDecision identityHashOf identityUrlOf normalizedUrlOf keepingUrl
  simp only
  rw [(scanQuery_eq target.url.search _).2.2, (scanQuery_eq target.url.search _).2.1]
  exact ⟨rfl, rfl, rfl⟩

/-- A target that passes every part of a profile. -/
structure Passes (env : ScopeEnv) (profile : SiteProfile) (input : ScopeEvaluationInput) (target : Target) : Prop where
  domainKept : ∀ rule ∈ profile.domainRules, rule.effect = .deny → domainMatches target.host rule target.url = false
  domainAllowed : ∃ rule ∈ profile.domainRules, rule.effect = .allow ∧ domainMatches target.host rule target.url = true
  pathKept : ∀ rule ∈ profile.pathRules, rule.effect = .deny → pathMatches target.url.pathname rule = false
  pathAllowed : (∃ rule ∈ profile.pathRules, rule.effect = .allow) →
    ∃ rule ∈ profile.pathRules, rule.effect = .allow ∧ pathMatches target.url.pathname rule = true
  query : ∀ pair ∈ env.searchParams target.url.search, profile.queryPolicy.classify env pair.1 ≠ .denied
  limits : (applyLimits profile input (classifyHost env target.host)
    (input.knownIdentityHashes.contains (identityHashOf env profile target)) {}).eligible = true

/-- **A decision is eligible when its target passes every part.** -/
theorem scopeDecision_passes {input : ScopeEvaluationInput} {target : Target} :
    (scopeDecision env profile input target).eligible = true ↔ Passes env profile input target := by
  have hdecision : (scopeDecision env profile input target).eligible = true ↔
      ((scanQuery env profile.queryPolicy target.url.search (applyPathRules profile.pathRules target.url.pathname
          (applyDomainRules profile.domainRules target {}))).eligible = true ∧
        (applyLimits profile input (classifyHost env target.host)
          (input.knownIdentityHashes.contains (identityHashOf env profile target)) {}).eligible = true) := by
    unfold scopeDecision identityHashOf identityUrlOf keepingUrl
    simp only
    rw [(scanQuery_eq target.url.search _).2.2, applyLimits_passes, Bool.and_eq_true]
    split_ifs <;> exact Iff.rfl
  rw [hdecision, (scanQuery_eq target.url.search _).1, Bool.and_eq_true, List.all_eq_true, applyPathRules_passes,
    applyDomainRules_eligible]
  constructor
  · rintro ⟨⟨⟨⟨-, hdeny, hallow⟩, hpathDeny, hpathAllow⟩, hquery⟩, hlimits⟩
    exact ⟨hdeny, hallow, hpathDeny, hpathAllow, fun pair hpair => by simpa using hquery pair hpair, hlimits⟩
  · intro h
    exact ⟨⟨⟨⟨rfl, h.domainKept, h.domainAllowed⟩, h.pathKept, h.pathAllowed⟩,
      fun pair hpair => by simpa using h.query pair hpair⟩, h.limits⟩

end OfflineWebArchiver.Scope
