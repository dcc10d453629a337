import OfflineWebArchiver.Html.CssCollect
import OfflineWebArchiver.Html.Sample

/-!
# What a rewrite leaves alone

* `Substituted`: a text with values in the places of disjoint spans, and otherwise unchanged.
* `rewrite_substitutes`: what `rewriteHtml` and `rewriteCss` return is their text with the collected
  edits substituted.
-/

namespace OfflineWebArchiver

open Checks Splice

/-- **Exactly the spans of the edits are substituted.** The spans are within bounds and disjoint;
the output without the values is the text without the spans; the values stand where the spans
stood, and with the old texts in their places the output is the text again. -/
structure Substituted (text output : Text) (edits : List (Edit CodeUnit)) : Prop where
  separate : Separate text.length edits
  spliced : output = splice text 0 edits
  rest : cut output 0 (moved text 0 0 edits) = cut text 0 edits
  values : List.Forall₂ (fun m e => between output m.start m.stop = e.value) (moved text 0 0 edits) edits
  restored : splice output 0 (moved text 0 0 edits) = text

variable {env : RewriteEnv} {text : Text} {edits : List (Edit CodeUnit)}

theorem substituted_applyFromEnd (h : Separate text.length edits) :
    Substituted text (applyFromEnd text edits) edits := by
  have heq := applyFromEnd_eq h
  obtain ⟨hcut, hrestore, hvalues⟩ := moved_spec h (fun e _ => Nat.zero_le e.start) []
  rw [List.nil_append, List.length_nil, ← heq] at hcut hrestore hvalues
  exact ⟨h, heq, hcut, hvalues, hrestore⟩

/-- What the loop over the tags collects is separate. -/
theorem rewriteTokens_separate {context : RewriteContext} {tokens : List HtmlToken}
    {state : RewriteState} (hscan : Scan env.lower text 0 tokens)
    (h : rewriteTokens env context tokens = .ok state) : Separate text.length state.replacements := by
  obtain ⟨edits, hadds, hseparate, -⟩ := rewriteTokens_add hscan.located hscan.closed h
  rw [hadds.replacements]
  exact hseparate

/-- The page that `rewriteHtml` returns. -/
theorem rewriteHtml_ok {input : HtmlRewriteInput} {result : HtmlRewriteResult} :
    (rewriteHtml env input).Returns (.ok result) ↔ ∃ sourcePage tokens state,
      assertHtmlInput env input = .ok sourcePage ∧ (tokenizeHtml env.lower input.html).Returns tokens ∧
        rewriteTokens env (htmlContext env input sourcePage tokens) tokens = .ok state ∧
        htmlResult input (htmlContext env input sourcePage tokens) state = .ok result := by
  rw [rewriteHtml]
  cases hinput : assertHtmlInput env input with
  | error e => simp
  | ok sourcePage =>
    simp only [Fueled.returns_bind, Fueled.returns_pure, Except.ok.injEq, exists_and_left,
      exists_eq_left']
    refine exists_congr fun tokens => and_congr_right fun _ => ?_
    rw [eq_comm, bind_ok]

theorem rewriteCss_ok {input : CssRewriteInput} {result : CssRewriteResult} :
    (rewriteCss env input).Returns (.ok result) ↔ ∃ sourcePage state,
      assertCssInput env input = .ok sourcePage ∧
        (Fueled.iterate (cssRound env { input with sourcePage }) (0, none, {})).Returns (.ok state) ∧
        cssResult { input with sourcePage } state = .ok result := by
  rw [rewriteCss]
  cases hinput : assertCssInput env input with
  | error e => simp
  | ok sourcePage =>
    simp only [Fueled.returns_bind, Fueled.returns_pure, Except.ok.injEq, exists_and_left,
      exists_eq_left']
    constructor
    · rintro ⟨collected, hloop, h⟩
      obtain ⟨state, rfl, hresult⟩ := bind_ok.1 h.symm
      exact ⟨state, hloop, hresult⟩
    · rintro ⟨state, hloop, hresult⟩
      exact ⟨.ok state, hloop, (bind_ok.2 ⟨state, rfl, hresult⟩).symm⟩

/-- **A rewrite substitutes exactly the spans that it collected**, in a page and in a style sheet. -/
theorem rewrite_substitutes (env : RewriteEnv) :
    (∀ input result, (rewriteHtml env input).Returns (.ok result) → ∃ sourcePage tokens state,
      (tokenizeHtml env.lower input.html).Returns tokens ∧
        rewriteTokens env (htmlContext env input sourcePage tokens) tokens = .ok state ∧
        Substituted input.html result.html state.replacements) ∧
    ∀ input result, (rewriteCss env input).Returns (.ok result) → ∃ sourcePage state,
      (Fueled.iterate (cssRound env { input with sourcePage }) (0, none, {})).Returns (.ok state) ∧
        Substituted input.css result.css state.replacements := by
  constructor
  · intro input result h
    obtain ⟨sourcePage, tokens, state, -, htokens, hstate, hresult⟩ := rewriteHtml_ok.1 h
    refine ⟨sourcePage, tokens, state, htokens, hstate, ?_⟩
    obtain ⟨dependencies, -, hresult⟩ := bind_ok.1 hresult
    obtain rfl := pure_ok.1 hresult
    exact substituted_applyFromEnd (rewriteTokens_separate (tokenizeHtml_returns.1 htokens) hstate)
  · intro input result h
    obtain ⟨sourcePage, state, -, hstate, hresult⟩ := rewriteCss_ok.1 h
    refine ⟨sourcePage, state, hstate, ?_⟩
    obtain ⟨dependencies, -, hresult⟩ := bind_ok.1 hresult
    obtain rfl := pure_ok.1 hresult
    have hseparate := cssLoop_separate hstate
    exact substituted_applyFromEnd hseparate

theorem rewrite_substitutes_sample :
    (∃ edits, Substituted (asciiUnits "<a href='/a'>b</a>") (asciiUnits "<a href='/r'>b</a>") edits) ∧
      ∃ edits, Substituted (asciiUnits "a{b:url(/c)}") (asciiUnits "a{b:url(http://x.y/c)}") edits := by
  constructor
  · obtain ⟨result, hreturns, hhtml⟩ := Sample.exists_of_rewritten (by decide +kernel :
      Sample.rewritten 30 (Sample.htmlInput [Sample.page "a" "/r" "r.html"] "<a href='/a'>b</a>") =
        some (.ok (asciiUnits "<a href='/r'>b</a>")))
    obtain ⟨_, _, state, -, -, hsubstituted⟩ :=
      (rewrite_substitutes Sample.rewriteEnv).1 _ result hreturns
    rw [hhtml] at hsubstituted
    exact ⟨state.replacements, hsubstituted⟩
  · obtain ⟨result, hreturns, hcss⟩ := Sample.exists_of_rewrittenCss (by decide +kernel :
      Sample.rewrittenCss 20 (Sample.cssInput "a{b:url(/c)}") =
        some (.ok (asciiUnits "a{b:url(http://x.y/c)}")))
    obtain ⟨_, state, -, hsubstituted⟩ := (rewrite_substitutes Sample.rewriteEnv).2 _ result hreturns
    rw [hcss] at hsubstituted
    exact ⟨state.replacements, hsubstituted⟩

end OfflineWebArchiver

/-!
## One bad reference and the page

`resolveRewriteReference` passes every reference to `assertText`, which throws, and nothing catches
what it throws.

* `HtmlReferencesAccepted`, `CssReferencesAccepted`: every reference is a text that it accepts.
* `rewrite_returns_iff`: the page and the style sheet are rewritten exactly then.
* `empty_reference`: a page with an empty `href` is lost.
-/

namespace OfflineWebArchiver

open Checks Splice

/-- The references of a page: those of its tags, and the one of its base. -/
def referenceCount (env : RewriteEnv) (context : RewriteContext) (tokens : List HtmlToken) : ℕ :=
  (tokens.flatMap (tokenReferences env context)).length + context.baseInfo.href.toList.length

/-- **Every reference of the page is accepted**: no URL attribute and no candidate of a `srcset` is
empty, longer than the limit or holds a control character, and no attribute is named like a
property that throws when it is read. -/
def HtmlReferencesAccepted (env : RewriteEnv) (context : RewriteContext) (tokens : List HtmlToken) :
    Prop :=
  ∀ token ∈ tokens, isRestrictedToken env context token = false ∧
    ∀ r ∈ tokenReferences env context token, isReferenceText r = true

/-- **Every reference of the style sheet is accepted.** -/
def CssReferencesAccepted (lower : Text → Text) (css : Text) : Prop :=
  ∀ v ∈ cssReferences lower css, isReferenceText (slice css v.valueStart v.valueEnd) = true

variable {env : RewriteEnv} {context : RewriteContext} {tokens : List HtmlToken}

theorem dependencyMap_ok {values : List ExternalDependency} (h : values.length ≤ maximumDependencyCount) :
    ∃ sorted, dependencyMap values = .ok sorted := by
  rw [dependencyMap, if_neg (by omega)]
  exact ⟨_, rfl⟩

/-- Within the bound the loop has no more dependencies than the map takes. -/
theorem rewriteTokens_dependencies {text : Text} {state : RewriteState}
    (hscan : Scan env.lower text 0 tokens)
    (hcount : referenceCount env context tokens ≤ maximumDependencyCount)
    (h : rewriteTokens env context tokens = .ok state) :
    state.dependencies.length ≤ maximumDependencyCount := by
  obtain ⟨edits, hadds, -⟩ := rewriteTokens_add hscan.located hscan.closed h
  have hbase : (baseDependencies env context.sourcePage context.baseInfo).length ≤
      context.baseInfo.href.toList.length := by
    unfold baseDependencies
    cases context.baseInfo.href with
    | none => exact Nat.le_refl 0
    | some href =>
      simp only []
      split_ifs
      · exact Nat.le_refl 1
      · exact Nat.zero_le 1
  have hdeps := hadds.dependencies
  simp only [] at hdeps
  unfold referenceCount at hcount
  omega

/-- **When a rewrite returns**: a valid page or style sheet with no more references than the bound,
on which the tokenizer returns, is rewritten if and only if every reference is accepted. -/
theorem rewrite_returns_iff (env : RewriteEnv) :
    (∀ input sourcePage tokens, assertHtmlInput env input = .ok sourcePage →
      (tokenizeHtml env.lower input.html).Returns tokens →
      referenceCount env (htmlContext env input sourcePage tokens) tokens ≤ maximumDependencyCount →
      ((∃ result, (rewriteHtml env input).Returns (.ok result)) ↔
        HtmlReferencesAccepted env (htmlContext env input sourcePage tokens) tokens)) ∧
    ∀ input sourcePage, assertCssInput env input = .ok sourcePage →
      (cssReferences env.lower input.css).length ≤ maximumDependencyCount →
      ((∃ result, (rewriteCss env input).Returns (.ok result)) ↔
        CssReferencesAccepted env.lower input.css) := by
  constructor
  · intro input sourcePage tokens hinput htokens hcount
    rw [HtmlReferencesAccepted, ← rewriteTokens_ok_iff]
    constructor
    · rintro ⟨result, hresult⟩
      obtain ⟨sourcePage', tokens', state, hinput', htokens', hstate, -⟩ := rewriteHtml_ok.1 hresult
      obtain rfl := Except.ok.inj (hinput.symm.trans hinput')
      obtain rfl := htokens.unique htokens'
      exact ⟨state, hstate⟩
    · rintro ⟨state, hstate⟩
      obtain ⟨sorted, hsorted⟩ := dependencyMap_ok
        (rewriteTokens_dependencies (tokenizeHtml_returns.1 htokens) hcount hstate)
      exact ⟨_, rewriteHtml_ok.2 ⟨sourcePage, tokens, state, hinput, htokens, hstate,
        bind_ok.2 ⟨sorted, hsorted, rfl⟩⟩⟩
  · intro input sourcePage hinput hcount
    obtain ⟨r, hr, hok, hdeps⟩ := cssLoop_returns env { input with sourcePage } input.css.length 0 none {}
      (Nat.sub_le _ _)
    rw [CssReferencesAccepted, cssReferences, ← hok]
    constructor
    · rintro ⟨result, hresult⟩
      obtain ⟨sourcePage', state, hinput', hstate, -⟩ := rewriteCss_ok.1 hresult
      obtain rfl := Except.ok.inj (hinput.symm.trans hinput')
      exact ⟨state, hr.unique hstate⟩
    · rintro ⟨state, rfl⟩
      have hle := hdeps state rfl
      simp only [List.length_nil, Nat.zero_add] at hle
      obtain ⟨sorted, hsorted⟩ := dependencyMap_ok (Nat.le_trans hle hcount)
      exact ⟨_, rewriteCss_ok.2 ⟨sourcePage, state, hinput, hr, bind_ok.2 ⟨sorted, hsorted, rfl⟩⟩⟩

/-! ### A lost page -/

/-- The tokens of a page with one link, whose value stands from 9 up to `stop`. -/
def linkTokens (value : String) (stop : ℕ) : List HtmlToken :=
  [⟨0, stop + 2, some (asciiUnits "a"),
    [⟨asciiUnits "href", some (asciiUnits value), some 9, some stop, some (unit '\'')⟩], true, false⟩]

/-- A page and a style sheet with one reference each. -/
theorem rewrite_returns_sample :
    (∃ result, (rewriteHtml Sample.rewriteEnv (Sample.htmlInput [] "<a href='/c'>")).Returns
        (.ok result)) ∧
      ∃ result, (rewriteCss Sample.rewriteEnv (Sample.cssInput "a{b:url(/c)}")).Returns
        (.ok result) := by
  constructor
  · refine ((rewrite_returns_iff Sample.rewriteEnv).1 (Sample.htmlInput [] "<a href='/c'>")
      Sample.sourcePage (linkTokens "/c" 11) (by decide) ⟨14, by decide⟩
      (by decide)).2 fun token hmem => ?_
    obtain rfl := List.mem_singleton.1 hmem
    decide
  · refine ((rewrite_returns_iff Sample.rewriteEnv).2 (Sample.cssInput "a{b:url(/c)}")
      Sample.sourcePage (by decide) (by decide)).2 ?_
    unfold CssReferencesAccepted
    decide

/-- **An empty `href` loses the page**: it is valid and has one reference, and the rewriter
throws. -/
theorem empty_reference :
    let input := Sample.htmlInput [] "<a href=''>"
    assertHtmlInput Sample.rewriteEnv input = .ok Sample.sourcePage ∧
      (tokenizeHtml Sample.rewriteEnv.lower input.html).Returns (linkTokens "" 9) ∧
      referenceCount Sample.rewriteEnv
        (htmlContext Sample.rewriteEnv input Sample.sourcePage (linkTokens "" 9)) (linkTokens "" 9) = 1 ∧
      ¬∃ result, (rewriteHtml Sample.rewriteEnv input).Returns (.ok result) := by
  refine ⟨by decide, ⟨14, by decide⟩, by decide, ?_⟩
  rintro ⟨result, hresult⟩
  have hthrow : (rewriteHtml Sample.rewriteEnv (Sample.htmlInput [] "<a href=''>")).Returns
      (.error (.operation ⟨.inputInvalid, "The URL reference is invalid"⟩)) := ⟨14, by decide⟩
  cases hthrow.unique hresult

end OfflineWebArchiver
