import OfflineWebArchiver.Scope.Eligible
import OfflineWebArchiver.Scope.Sample

/-!
# Hosts that a deny rule covers

A rule names its host by a text, a URL by what the parser made of one. Names and IPv4 addresses are
brought to one form on both sides. An IPv6 address of a rule is only read, never written again, so a
rule covers the address in the spelling of the parser and in no other.

* `matches_iff_spelled`: when the rule matches the host that its text denotes.
* `deny_covers_iff`: **a deny rule covers its host exactly when it spells an IPv6 address as the
  parser does.**
-/

namespace OfflineWebArchiver.Scope

section Rules

variable {env : ScopeEnv} {profile : SiteProfile} {normalized : SiteProfileDraft} {input : ScopeEvaluationInput}
  {rule rule' : DomainRule} {url : Url} {target : Target} {text host : JsString}

/-- The characters of a rule's hostname without `:`. -/
def isNameChar (c : Char) : Bool := isLowerAlphanum c || c == '.' || c == '-'

/-- The characters of a serialized IPv6 address. -/
def isAddressChar (c : Char) : Bool := c.isDigit || ('a' ≤ c && c ≤ 'f') || c == ':'

/-- A text that the URL parser maps to the host: an IPv6 address stands in brackets. -/
def TextForm (env : ScopeEnv) (text host : JsString) : Prop := env.parseHost (bracketed text) = some host

/-- What the host parser does with plain texts, and `domainToASCII` and `toLowerCase` with its results. -/
structure HostLaws (env : ScopeEnv) : Prop where
  /-- A name is kept. What is read as an IPv4 address is written as one, with or without a last dot. -/
  names : ∀ text host, text.all isNameChar = true → env.parseHost text = some host →
    host = text ∨ (host.all (fun c => c.isDigit || c == '.') = true ∧
      env.domainToASCII (withoutDot text) = host ∧ env.domainToASCII (withoutDot host) = host)
  /-- An IPv6 address is serialized between brackets. -/
  addresses : ∀ text host, ':' ∈ text → env.parseHost ('[' :: text ++ [']']) = some host →
    ∃ address, host = '[' :: address ++ [']'] ∧ ':' ∈ address ∧ address.all isAddressChar = true
  lower : ∀ text, text.all (fun c => isNameChar c || c == ':') = true → env.lower text = text

/-- The scheme and the port of the URL are those of the rule. -/
def Covers (rule : DomainRule) (url : Url) : Prop :=
  (∃ scheme ∈ rule.schemes, scheme.text ++ [':'] = url.protocol) ∧
    (rule.ports = [] ∨ (if url.port = [] then (if url.protocol = "https:".toList then 443 else 80)
      else (decimal url.port : ℤ)) ∈ rule.ports)

/-- The rule is about a name or an IPv4 address, or spells its IPv6 address as the host does. -/
def Spelled (text host : JsString) : Prop := ':' ∉ text ∨ '[' :: text ++ [']'] = host

/-- The profile without its domain rule of this id. -/
def SiteProfile.withoutRule (profile : SiteProfile) (ruleId : JsString) : SiteProfile :=
  { profile with domainRules := profile.domainRules.filter (·.ruleId != ruleId) }

/-! ### Canonical hosts -/

theorem isAddressChar_plain {c : Char} (h : isAddressChar c = true) : (isNameChar c || c == ':') = true := by
  unfold isAddressChar at h
  unfold isNameChar isLowerAlphanum
  rw [Bool.or_eq_true, Bool.or_eq_true, Bool.and_eq_true, decide_eq_true_iff, decide_eq_true_iff] at h
  rcases h with (hdigit | ⟨hlow, hhigh⟩) | hcolon
  · rw [hdigit]
    simp
  · have hz : c ≤ 'z' := Char.le_trans hhigh (by decide : 'f' ≤ 'z')
    have hlower : c.isLower = true := by
      unfold Char.isLower
      rw [Bool.and_eq_true, decide_eq_true_iff, decide_eq_true_iff]
      exact ⟨hlow, hz⟩
    rw [hlower]
    simp
  · rw [hcolon]
    simp

/-- **A name and the host it denotes have one canonical form.** -/
theorem canonicalHostname_textForm (hlaws : HostLaws env) (hname : text.all isNameChar = true)
    (hform : env.parseHost text = some host) : canonicalHostname env text = canonicalHostname env host := by
  have hnot : ∀ c, isNameChar c = false → c ∉ text := by
    intro c hc hmem
    rw [List.all_eq_true.1 hname c hmem] at hc
    cases hc
  rcases hlaws.names text host hname hform with rfl | ⟨hdigits, htext, hhost⟩
  · rfl
  · have hnot' : ∀ c, (c.isDigit || c == '.') = false → c ∉ host := by
      intro c hc hmem
      rw [List.all_eq_true.1 hdigits c hmem] at hc
      cases hc
    rw [canonicalHostname_name (hnot '[' (by decide)) (hnot ':' (by decide)),
      canonicalHostname_name ( hnot' '[' (by decide)) ( hnot' ':' (by decide)), htext, hhost]

/-! ### Matching -/

theorem domainMatches_iff (hsame : SameDomainRule env rule rule') (hcovers : Covers rule url)
    (hprotocol : target.url.protocol = url.protocol) (hport : target.url.port = url.port) :
    domainMatches target.host rule' target.url = true ↔
      target.host = rule'.hostname ∨
        (rule'.kind = .subdomains ∧ ('.' :: rule'.hostname).isSuffixOf target.host = true) := by
  obtain ⟨⟨scheme, hscheme, hprotocol'⟩, hports⟩ := hcovers
  have hschemes : (rule'.schemes.any fun scheme => scheme.text ++ [':'] == target.url.protocol) = true := by
    rw [List.any_eq_true]
    exact ⟨scheme, (hsame.schemes scheme).2 hscheme, by rw [hprotocol, hprotocol', beq_self_eq_true]⟩
  have hportMatch : (rule'.ports.isEmpty || rule'.ports.contains
      (if target.url.port = [] then (if target.url.protocol = "https:".toList then 443 else 80)
        else (decimal target.url.port : ℤ))) = true := by
    rw [hprotocol, hport, Bool.or_eq_true, List.isEmpty_iff, List.contains_iff_mem]
    rcases hports with hempty | hmem
    · left
      apply List.eq_nil_iff_forall_not_mem.2
      intro port hmem
      have hfound := (hsame.ports port).1 hmem
      rw [hempty] at hfound
      exact List.not_mem_nil hfound
    · exact .inr ((hsame.ports _).2 hmem)
  unfold domainMatches
  simp only
  rw [hschemes, hportMatch, Bool.and_true, Bool.and_true, Bool.or_eq_true, Bool.and_eq_true, beq_iff_eq, beq_iff_eq]

/-- **When the rule matches the host that its text denotes.** -/
theorem matches_iff_spelled (hlaws : HostLaws env) (hsame : SameDomainRule env rule rule') (hcovers : Covers rule url)
    (hhostname : isRuleHostname rule.hostname = true) (hform : TextForm env rule.hostname url.hostname)
    (htarget : TargetOf env url target) :
    domainMatches target.host rule' target.url = true ↔ Spelled rule.hostname url.hostname := by
  have hchars : rule.hostname.all (fun c => isNameChar c || c == ':') = true := by
    unfold isRuleHostname at hhostname
    rw [Bool.and_eq_true, List.all_eq_true] at hhostname
    rw [List.all_eq_true]
    intro c hc
    have hfound := hhostname.2 c hc
    unfold isNameChar
    grind
  rw [domainMatches_iff hsame hcovers htarget.protocol htarget.port]
  by_cases hcolon : ':' ∈ rule.hostname
  · -- An IPv6 address: the rule keeps its own spelling.
    unfold TextForm bracketed at hform
    rw [if_pos (List.contains_iff_mem.2 hcolon)] at hform
    obtain ⟨address, haddress, hmem, hplain⟩ := hlaws.addresses _ _ hcolon hform
    have hlower : env.lower address = address := by
      apply hlaws.lower
      rw [List.all_eq_true] at hplain ⊢
      exact fun c hc => isAddressChar_plain (hplain c hc)
    have hhost : target.host = address := by
      have hok := htarget.host
      rw [haddress, canonicalHostname_bracketed hmem] at hok
      split_ifs at hok
      rw [← Except.ok.inj hok, hlower]
    have hruleHost : rule'.hostname = rule.hostname := by
      have hopened : withoutBrackets rule.hostname = rule.hostname := by
        apply withoutBrackets_plain
        intro hhead
        have hbad := List.all_eq_true.1 hchars '[' (List.mem_of_head? hhead)
        exact absurd hbad (by decide)
      have hok := hsame.hostname
      unfold canonicalHostname at hok
      simp only [hopened, List.contains_iff_mem.2 hcolon, if_true] at hok
      split_ifs at hok
      rw [← Except.ok.inj hok, hlaws.lower _ hchars]
    have hnoSuffix : ¬(rule'.kind = .subdomains ∧ ('.' :: rule'.hostname).isSuffixOf target.host = true) := by
      rintro ⟨-, hsuffix⟩
      rw [hhost, List.isSuffixOf_iff_suffix] at hsuffix
      have hdot : '.' ∈ address := hsuffix.subset List.mem_cons_self
      have hbad := List.all_eq_true.1 hplain '.' hdot
      exact absurd hbad (by decide)
    rw [or_iff_left hnoSuffix, hhost, hruleHost]
    unfold Spelled
    rw [or_iff_right (not_not.2 hcolon), haddress]
    constructor
    · intro heq
      rw [heq]
    · intro heq
      simpa using heq.symm
  · -- A name: both sides have one canonical form.
    have hname : rule.hostname.all isNameChar = true := by
      rw [List.all_eq_true] at hchars ⊢
      intro c hc
      have hfound := hchars c hc
      rw [Bool.or_eq_true, beq_iff_eq] at hfound
      exact hfound.resolve_right fun heq => hcolon (heq ▸ hc)
    unfold TextForm bracketed at hform
    rw [if_neg fun h => hcolon (List.contains_iff_mem.1 h)] at hform
    have hcanonical := canonicalHostname_textForm hlaws hname hform
    rw [hsame.hostname, htarget.host] at hcanonical
    exact iff_of_true (.inl (Except.ok.inj hcanonical).symm) (.inl hcolon)

/-- A deny rule takes away what it matches, and the rest of the profile decides the rest. -/
theorem passes_withoutRule (hids : (profile.domainRules.map (·.ruleId)).Nodup) (hrule : rule ∈ profile.domainRules)
    (hdeny : rule.effect = .deny) :
    Passes env profile input target ↔
      domainMatches target.host rule target.url = false ∧ Passes env (profile.withoutRule rule.ruleId) input target := by
  have hmem : ∀ other, other ∈ (profile.withoutRule rule.ruleId).domainRules ↔
      other ∈ profile.domainRules ∧ other ≠ rule := by
    intro other
    unfold SiteProfile.withoutRule
    simp only [List.mem_filter, bne_iff_ne, ne_eq]
    refine and_congr_right fun hother => not_congr ⟨fun heq => ?_, fun heq => heq ▸ rfl⟩
    exact List.inj_on_of_nodup_map hids hother hrule heq
  constructor
  · intro h
    refine ⟨h.domainKept rule hrule hdeny, fun other hother => h.domainKept other ((hmem other).1 hother).1, ?_,
      h.pathKept, h.pathAllowed, h.query, h.limits⟩
    obtain ⟨other, hother, hallow, hmatch⟩ := h.domainAllowed
    refine ⟨other, (hmem other).2 ⟨hother, fun heq => ?_⟩, hallow, hmatch⟩
    rw [heq, hdeny] at hallow
    cases hallow
  · rintro ⟨hmiss, h⟩
    refine ⟨fun other hother heffect => ?_, ?_, h.pathKept, h.pathAllowed, h.query, h.limits⟩
    · by_cases heq : other = rule
      · rw [heq, hmiss]
      · exact h.domainKept other ((hmem other).2 ⟨hother, heq⟩) heffect
    · obtain ⟨other, hother, hallow⟩ := h.domainAllowed
      exact ⟨other, ((hmem other).1 hother).1, hallow⟩

/-- **A deny rule covers its host exactly when it spells it as the parser does**, apart from URLs that
the rest of the profile leaves out. -/
theorem deny_covers_iff (hlaws : HostLaws env)
    (haccepted : normalizeSiteProfileDraft env profile.toSiteProfileDraft = .ok normalized)
    (hrule : rule ∈ profile.domainRules) (hdeny : rule.effect = .deny)
    (hurl : inputUrl env { profile with toSiteProfileDraft := normalized } input = some url)
    (hform : TextForm env rule.hostname url.hostname) (hcovers : Covers rule url) {decision : ScopeDecision}
    (h : evaluateScope env profile input = .ok decision) :
    decision.eligible = false ↔
      Spelled rule.hostname url.hostname ∨
        ¬∃ target, resolveTarget env { profile with toSiteProfileDraft := normalized } input = .ok target ∧
          Passes env (SiteProfile.withoutRule { profile with toSiteProfileDraft := normalized } rule.ruleId) input
            target := by
  obtain ⟨other, hother, h⟩ := evaluateScope_ok.1 h
  cases haccepted.symm.trans (normalizeSiteProfileDraft_ok.2 hother)
  have hfits : isRuleHostname rule.hostname = true := by
    have hdraft := hother.fits
    unfold SiteProfileDraft.fits at hdraft
    simp only [Bool.and_eq_true, List.all_eq_true] at hdraft
    have hruleFits : rule.fits = true := by grind
    unfold DomainRule.fits at hruleFits
    simp only [Bool.and_eq_true] at hruleFits
    grind
  rcases h with ⟨code, htarget, rfl⟩ | ⟨target, htarget, rfl⟩
  · refine iff_of_true rfl (.inr ?_)
    rintro ⟨target, hok, -⟩
    cases htarget.symm.trans hok
  · obtain ⟨found, hfound, hof⟩ := resolveTarget_ok htarget
    cases hurl.symm.trans hfound
    obtain ⟨rule', hrule', hnormal⟩ := hother.rules.domain rule hrule
    have hsame := normalizeDomainRule_ok hnormal
    have hmatch := matches_iff_spelled hlaws hsame hcovers hfits hform hof
    have hpasses : Passes env { profile with toSiteProfileDraft := normalized } input target ↔ _ :=
      passes_withoutRule hother.ids.1 hrule' (hsame.effect.trans hdeny)
    rw [← Bool.not_eq_true, scopeDecision_passes, hpasses, hsame.ruleId, not_and_or, Bool.not_eq_false, hmatch]
    refine or_congr_right (not_congr ⟨fun hrest => ⟨target, htarget, hrest⟩, fun ⟨other, hok, hrest⟩ => ?_⟩)
    cases htarget.symm.trans hok
    exact hrest

end Rules

namespace Sample

/-- The loopback address, in the spelling of the parser and in full. -/
def loopback : ScopeEnv :=
  platform [("http://[::1]/", url "[::1]" "/" "" ""), ("http://[::1]/x", url "[::1]" "/x" "" "")] []
    [("[::1]", "[::1]"), ("[0:0:0:0:0:0:0:1]", "[::1]")]

/-- A profile that allows the address and denies it in full. -/
def inFull : SiteProfile :=
  profile "http://[::1]/" .loopback [site "allowed" .allow "::1", site "denied" .deny "0:0:0:0:0:0:0:1"] []
    ⟨.identity, []⟩

theorem inFull_accepted : Accepted loopback inFull.toSiteProfileDraft inFull.toSiteProfileDraft :=
  accepted (by decide) (by decide) (by decide)
    (Checks.mapM_ok.2 (.cons (site_normal (by decide)) (.cons (site_normal (by decide)) .nil))) (by decide) rfl
    List.Pairwise.nil rfl List.Pairwise.nil (by decide)

/-- The page of the address, as the profile sees it. -/
def loopbackPage : Target := ⟨"::1".toList, url "[::1]" "/x" "" ""⟩

theorem inFull_decision : evaluateScope loopback inFull (request "http://[::1]/x") =
    .ok (scopeDecision loopback inFull (request "http://[::1]/x") loopbackPage) :=
  evaluateScope_ok.2 ⟨_, inFull_accepted, .inr ⟨loopbackPage, by decide, rfl⟩⟩

theorem loopbackPage_url : inputUrl loopback inFull (request "http://[::1]/x") = some (url "[::1]" "/x" "" "") := by
  decide

theorem inFull_textForm : TextForm loopback "0:0:0:0:0:0:0:1".toList "[::1]".toList := by
  unfold TextForm
  decide

theorem inFull_covers : Covers (site "denied" .deny "0:0:0:0:0:0:0:1") (url "[::1]" "/x" "" "") :=
  ⟨⟨.http, List.mem_cons_self, rfl⟩, .inl rfl⟩

theorem loopback_laws : HostLaws loopback where
  names := by
    intro text host hname hfound
    obtain ⟨entry, hentry, rfl, rfl⟩ := platform_parseHost hfound
    revert hname
    revert hentry entry
    decide
  addresses := by
    intro text host hcolon hfound
    obtain ⟨entry, hentry, -, rfl⟩ := platform_parseHost hfound
    refine ⟨"::1".toList, ?_, by decide, by decide⟩
    clear hfound
    revert hentry entry
    decide
  lower := platform_lower

end Sample

open Sample in
theorem deny_covers_loopback :
    (scopeDecision loopback inFull (request "http://[::1]/x") loopbackPage).eligible = false ↔
      Spelled "0:0:0:0:0:0:0:1".toList "[::1]".toList ∨
        ¬∃ target, resolveTarget loopback inFull (request "http://[::1]/x") = .ok target ∧
          Passes loopback (inFull.withoutRule "denied".toList) (request "http://[::1]/x") target :=
  deny_covers_iff loopback_laws (normalizeSiteProfileDraft_ok.2 inFull_accepted)
    (List.mem_cons_of_mem _ List.mem_cons_self) rfl loopbackPage_url inFull_textForm inFull_covers inFull_decision

open Sample in
/-- A rule that denies the loopback address in full lets the address through. -/
theorem denied_address_eligible :
    normalizeSiteProfileDraft loopback inFull.toSiteProfileDraft = .ok inFull.toSiteProfileDraft ∧
      site "denied" .deny "0:0:0:0:0:0:0:1" ∈ inFull.domainRules ∧
      TextForm loopback "0:0:0:0:0:0:0:1".toList "[::1]".toList ∧
      inputUrl loopback inFull (request "http://[::1]/x") = some (url "[::1]" "/x" "" "") ∧
      Covers (site "denied" .deny "0:0:0:0:0:0:0:1") (url "[::1]" "/x" "" "") ∧
      ∃ decision, evaluateScope loopback inFull (request "http://[::1]/x") = .ok decision ∧ decision.eligible = true :=
  ⟨normalizeSiteProfileDraft_ok.2 inFull_accepted, List.mem_cons_of_mem _ List.mem_cons_self,
    inFull_textForm, loopbackPage_url, inFull_covers, _, inFull_decision, by decide⟩

end OfflineWebArchiver.Scope
