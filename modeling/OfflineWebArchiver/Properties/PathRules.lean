import OfflineWebArchiver.Scope.Accepted
import OfflineWebArchiver.Scope.Sample

/-!
# Paths that a rule matches

A path rule is resolved as a reference, a URL has the path that the parser gave it. The two agree on
every path of a URL that does not begin with two slashes.

* `pathMatches_prefix`: what a prefix rule matches.
* `path_rule_matches`: **an exact rule matches its path, and a prefix rule its path, what extends it
  at a segment boundary, and its path without a last slash.**
-/

namespace OfflineWebArchiver.Scope

section Rules

variable {env : ScopeEnv} {profile : SiteProfile} {normalized : SiteProfileDraft} {rule rule' : PathRule}
  {path pathname : JsString}

/-- A text that is the path of some URL. -/
def PathOfUrl (env : ScopeEnv) (path : JsString) : Prop :=
  ∃ text base url, env.parseUrl text base = some url ∧ isHttp url = true ∧ url.pathname = path

/-- Two slashes at the front of a reference stand before a host. -/
def BeginsWithHost (path : JsString) : Prop := ∃ rest, path = '/' :: '/' :: rest

/-- What the parser does with the paths of its own URLs. -/
structure PathLaws (env : ScopeEnv) : Prop where
  rooted : ∀ path, PathOfUrl env path → ∃ rest, path = '/' :: rest
  /-- Queries, fragments, backslashes and controls are not part of a path. -/
  plain : ∀ path, PathOfUrl env path → ∀ c ∈ path, c ≠ '?' ∧ c ≠ '#' ∧ c ≠ '\\' ∧ 0x1f < c.toNat
  /-- A path is a reference to itself. -/
  resolved : ∀ path, PathOfUrl env path → ¬BeginsWithHost path →
    ∃ url, env.parseUrl path (some "https://example.invalid".toList) = some url ∧ url.pathname = path
  /-- So is the path that is set again with its escapes in capital letters. -/
  kept : ∀ path, PathOfUrl env path → env.parsePath (uppercaseEscapes path) = uppercaseEscapes path

/-- Equal up to the letter case of percent-escapes. -/
def SamePath (p q : JsString) : Prop := uppercaseEscapes p = uppercaseEscapes q

/-- `q` is `p` or goes on after it with another segment, up to the letter case of percent-escapes. -/
def ExtendsPath (p q : JsString) : Prop :=
  SamePath p q ∨ (∃ rest, uppercaseEscapes q = uppercaseEscapes p ++ '/' :: rest) ∨
    ((uppercaseEscapes p).getLast? = some '/' ∧ ∃ rest, uppercaseEscapes q = uppercaseEscapes p ++ rest)

/-- `q` is `p` without its last slash, up to the letter case of percent-escapes. -/
def DropsSlash (p q : JsString) : Prop := uppercaseEscapes p = uppercaseEscapes q ++ ['/']

theorem uppercaseEscapes_slash (rest : JsString) : uppercaseEscapes ('/' :: rest) = '/' :: uppercaseEscapes rest := by
  rw [uppercaseEscapes]
  intro a b rest h
  cases h

theorem withoutSlash_append : withoutSlash (path ++ ['/']) = path := by
  unfold withoutSlash
  rw [if_pos List.getLast?_concat, List.dropLast_concat]

/-- **What a prefix rule matches.** -/
theorem pathMatches_prefix (hkind : rule.kind = .pathPrefix) (hrooted : ∃ rest, pathname = '/' :: rest) :
    pathMatches pathname rule = true ↔
      pathname = rule.path ∨ (∃ rest, pathname = rule.path ++ '/' :: rest) ∨
        (rule.path.getLast? = some '/' ∧ ∃ rest, pathname = rule.path ++ rest) ∨ rule.path = pathname ++ ['/'] := by
  have hprefix : ∀ p : JsString, (p ++ ['/']).isPrefixOf pathname = true ↔ ∃ rest, pathname = p ++ '/' :: rest := by
    intro p
    rw [List.isPrefixOf_iff_prefix]
    constructor
    · rintro ⟨rest, rfl⟩
      exact ⟨rest, by simp⟩
    · rintro ⟨rest, rfl⟩
      exact ⟨rest, by simp⟩
  unfold pathMatches
  rw [hkind]
  simp only
  by_cases hroot : rule.path = ['/']
  · obtain ⟨rest, rfl⟩ := hrooted
    rw [if_pos hroot, hroot]
    exact iff_of_true rfl (.inr (.inr (.inl ⟨rfl, rest, rfl⟩)))
  · rw [if_neg hroot, Bool.or_eq_true, beq_iff_eq, hprefix]
    by_cases hslash : rule.path.getLast? = some '/'
    · obtain ⟨p, hp⟩ := List.getLast?_eq_some_iff.1 hslash
      rw [hp, withoutSlash_append]
      constructor
      · rintro (rfl | ⟨rest, rfl⟩)
        · exact .inr (.inr (.inr rfl))
        · exact .inr (.inr (.inl ⟨List.getLast?_concat, rest, by simp⟩))
      · rintro (rfl | ⟨rest, rfl⟩ | ⟨-, rest, rfl⟩ | heq)
        · exact .inr ⟨[], by simp⟩
        · exact .inr ⟨'/' :: rest, by simp⟩
        · exact .inr ⟨rest, by simp⟩
        · exact .inl (List.append_cancel_right heq).symm
    · have hkept : withoutSlash rule.path = rule.path := if_neg hslash
      rw [hkept]
      constructor
      · rintro (heq | hrest)
        · exact .inl heq
        · exact .inr (.inl hrest)
      · rintro (heq | hrest | ⟨hlast, -⟩ | heq)
        · exact .inl heq
        · exact .inr hrest
        · exact absurd hlast hslash
        · rw [heq, List.getLast?_concat] at hslash
          exact absurd rfl hslash

/-- The path of a URL is its own rule, with its escapes in capital letters. -/
theorem canonicalPathRule_pathOfUrl (hlaws : PathLaws env) (hpath : PathOfUrl env path)
    (hslashes : ¬BeginsWithHost path) : canonicalPathRule env path = .ok (uppercaseEscapes path) := by
  obtain ⟨url, hurl, hpathname⟩ := hlaws.resolved path hpath hslashes
  have hplain : (path.any fun c => c == '?' || c == '#' || c == '\\' || c.toNat ≤ 0x1f) = false := by
    rw [List.any_eq_false]
    intro c hc
    have hfound := hlaws.plain path hpath c hc
    have hcontrol : ¬c.toNat ≤ 0x1f := by omega
    simp [hfound.1, hfound.2.1, hfound.2.2.1, hcontrol]
  unfold canonicalPathRule
  rw [hplain, hurl, ← hpathname]
  rfl

/-- **What a path rule matches.** A rule that is written as the path of a URL, and not as a host,
matches the targets with that path if it is exact. If it is a prefix, it matches the targets that
extend it at a segment boundary, and its path without a last slash. -/
theorem path_rule_matches (hlaws : PathLaws env)
    (haccepted : normalizeSiteProfileDraft env profile.toSiteProfileDraft = .ok normalized)
    (hrule : rule ∈ profile.pathRules) (hpath : PathOfUrl env rule.path) (hslashes : ¬BeginsWithHost rule.path) :
    ∃ rule' ∈ normalized.pathRules, rule'.ruleId = rule.ruleId ∧ rule'.effect = rule.effect ∧
      ∀ input url target, inputUrl env { profile with toSiteProfileDraft := normalized } input = some url →
        resolveTarget env { profile with toSiteProfileDraft := normalized } input = .ok target →
        (pathMatches target.url.pathname rule' = true ↔
          match rule.kind with
          | .exact => SamePath rule.path url.pathname
          | .pathPrefix => ExtendsPath rule.path url.pathname ∨ DropsSlash rule.path url.pathname) := by
  obtain ⟨rule', hrule', hnormal⟩ := (normalizeSiteProfileDraft_ok.1 haccepted).rules.path rule hrule
  unfold normalizePathRule at hnormal
  obtain ⟨found, hfound, hnormal⟩ := Checks.bind_ok.1 hnormal
  obtain rfl := Checks.pure_ok.1 hnormal
  rw [canonicalPathRule_pathOfUrl hlaws hpath hslashes] at hfound
  cases hfound
  refine ⟨_, hrule', rfl, rfl, fun input url target hurl htarget => ?_⟩
  obtain ⟨other, hother, hof⟩ := resolveTarget_ok htarget
  cases hurl.symm.trans hother
  have hurlPath : PathOfUrl env url.pathname := by
    unfold inputUrl at hurl
    obtain ⟨text, -, hparse⟩ := Option.bind_eq_some_iff.1 hurl
    exact ⟨text, _, url, hparse, hof.http, rfl⟩
  have hpathname : target.url.pathname = uppercaseEscapes url.pathname := hof.pathname.trans (hlaws.kept _ hurlPath)
  cases hkind : rule.kind with
  | exact =>
    unfold pathMatches SamePath
    simp only
    rw [hpathname, beq_iff_eq]
    exact eq_comm
  | pathPrefix =>
    have hrooted : ∃ rest, target.url.pathname = '/' :: rest := by
      obtain ⟨rest, hrest⟩ := hlaws.rooted _ hurlPath
      exact ⟨uppercaseEscapes rest, by rw [hpathname, hrest, uppercaseEscapes_slash]⟩
    rw [ pathMatches_prefix rfl hrooted]
    unfold ExtendsPath DropsSlash SamePath
    rw [hpathname, or_assoc, or_assoc]
    exact or_congr_left eq_comm

end Rules

namespace Sample

/-- A page with and without a last slash. -/
def slashes : ScopeEnv :=
  platform [("http://site.test/", url "site.test" "/" "" ""), ("http://site.test/a", url "site.test" "/a" "" ""),
    ("http://site.test/a/", url "site.test" "/a/" "" "")] [("/", "/"), ("/a", "/a"), ("/a/", "/a/")]
    [("site.test", "site.test")]

def unruled : SiteProfile :=
  profile "http://site.test/" .loopback [site "here" .allow "site.test"] [] ⟨.identity, []⟩

def belowDenied : SiteProfile :=
  profile "http://site.test/" .loopback [site "here" .allow "site.test"] [path "below" .deny .pathPrefix "/a/"]
    ⟨.identity, []⟩

theorem unruled_accepted : Accepted slashes unruled.toSiteProfileDraft unruled.toSiteProfileDraft :=
  accepted (by decide) (by decide) (by decide)
    (Checks.mapM_ok.2 (.cons (site_normal (by decide)) .nil)) (List.pairwise_singleton _ _)
    rfl List.Pairwise.nil rfl List.Pairwise.nil (by decide)

theorem belowDenied_accepted : Accepted slashes belowDenied.toSiteProfileDraft belowDenied.toSiteProfileDraft :=
  accepted (by decide) (by decide) (by decide)
    (Checks.mapM_ok.2 (.cons (site_normal (by decide)) .nil)) (List.pairwise_singleton _ _)
    (by decide) (List.pairwise_singleton _ _) rfl List.Pairwise.nil (by decide)

theorem unruled_decision : evaluateScope slashes unruled (request "http://site.test/a/") =
    .ok (scopeDecision slashes unruled (request "http://site.test/a/") ⟨"site.test".toList, url "site.test" "/a/" "" ""⟩) :=
  evaluateScope_ok.2 ⟨_, unruled_accepted, .inr ⟨_, by decide, rfl⟩⟩

theorem slashes_paths {path : JsString} (h : PathOfUrl slashes path) :
    path ∈ ["/".toList, "/a".toList, "/a/".toList] := by
  obtain ⟨text, base, found, hparse, -, rfl⟩ := h
  rcases platform_parseUrl hparse with ⟨entry, hentry, rfl⟩ | ⟨entry, hentry, rfl⟩
  · clear hparse
    revert entry
    decide
  · clear hparse
    revert entry
    decide

theorem slashes_laws : PathLaws slashes where
  rooted := by
    intro path hpath
    have hmem := slashes_paths hpath
    simp only [List.mem_cons, List.not_mem_nil, or_false] at hmem
    rcases hmem with rfl | rfl | rfl <;> exact ⟨_, rfl⟩
  plain := by
    intro path hpath
    have hall : (["/".toList, "/a".toList, "/a/".toList].all fun path =>
        path.all fun c => c != '?' && c != '#' && c != '\\' && 0x1f < c.toNat) = true := by decide
    intro c hc
    have hfound := List.all_eq_true.1 (List.all_eq_true.1 hall path (slashes_paths hpath)) c hc
    simpa [and_assoc] using hfound
  resolved := by
    intro path hpath _
    have hmem := slashes_paths hpath
    simp only [List.mem_cons, List.not_mem_nil, or_false] at hmem
    rcases hmem with rfl | rfl | rfl <;> exact ⟨_, rfl, rfl⟩
  kept := fun _ _ => rfl

theorem slashes_below : PathOfUrl slashes "/a/".toList :=
  ⟨"http://site.test/a/".toList, none, url "site.test" "/a/" "" "", by decide, rfl, rfl⟩

theorem below_beginsWithHost : ¬BeginsWithHost "/a/".toList := by
  rintro ⟨rest, hrest⟩
  have hsecond := congrArg (fun path : JsString => path.tail.head?) hrest
  simp at hsecond

end Sample

open Sample in
theorem path_rule_matches_below :
    ∃ rule' ∈ belowDenied.pathRules, rule'.ruleId = "below".toList ∧ rule'.effect = .deny ∧
      ∀ input url target, inputUrl slashes belowDenied input = some url →
        resolveTarget slashes belowDenied input = .ok target →
        (pathMatches target.url.pathname rule' = true ↔
          ExtendsPath "/a/".toList url.pathname ∨ DropsSlash "/a/".toList url.pathname) :=
  @path_rule_matches _ belowDenied _ _ slashes_laws (normalizeSiteProfileDraft_ok.2 belowDenied_accepted)
    (List.mem_singleton.2 rfl) slashes_below below_beginsWithHost

open Sample in
/-- A prefix rule that is written as the path of an accepted page, with a last slash, matches the page
without it. -/
theorem prefix_drops_slash :
    normalizeSiteProfileDraft slashes belowDenied.toSiteProfileDraft = .ok belowDenied.toSiteProfileDraft ∧
      (∃ decision, evaluateScope slashes unruled (request "http://site.test/a/") = .ok decision ∧
        decision.eligible = true) ∧
      inputUrl slashes unruled (request "http://site.test/a/") = some (url "site.test" "/a/" "" "") ∧
      (∃ target, resolveTarget slashes belowDenied (request "http://site.test/a") = .ok target ∧
        pathMatches target.url.pathname (path "below" .deny .pathPrefix "/a/") = true) ∧
      inputUrl slashes belowDenied (request "http://site.test/a") = some (url "site.test" "/a" "" "") ∧
      ¬ExtendsPath "/a/".toList "/a".toList := by
  refine ⟨normalizeSiteProfileDraft_ok.2 belowDenied_accepted, ⟨_, unruled_decision, by decide⟩,
    by decide, ⟨⟨"site.test".toList, url "site.test" "/a" "" ""⟩, by decide, by decide⟩,
    by decide, ?_⟩
  rintro (hsame | ⟨rest, hrest⟩ | ⟨-, rest, hrest⟩)
  · exact absurd hsame (by unfold SamePath; decide)
  · have hlength := congrArg List.length hrest
    simp [uppercaseEscapes] at hlength
  · have hlength := congrArg List.length hrest
    simp [uppercaseEscapes] at hlength

end OfflineWebArchiver.Scope
