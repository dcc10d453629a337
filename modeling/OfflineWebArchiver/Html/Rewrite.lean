import OfflineWebArchiver.Html.References
import OfflineWebArchiver.Lib.Splice

/-!
# Rewriting a page

* `resourceKindFor`: the attributes that hold a reference.
* `baseFromTokens`: the base of the page.
* `rewriteToken`, `rewriteTokens`: the references of the tags, with the edits that they ask for.
* `rewriteHtml`: the page with the edits applied.
-/

namespace OfflineWebArchiver

open Checks Splice

/-- `URL_ATTRIBUTE_RULES`. -/
def urlAttributeRules : List (String × List (String × RewriteResourceKind)) :=
  [("a", [("href", .page)]), ("area", [("href", .page)]),
    ("img", [("src", .asset), ("srcset", .asset)]), ("script", [("src", .asset)]),
    ("link", [("href", .asset)]), ("source", [("src", .asset), ("srcset", .asset)]),
    ("video", [("src", .asset), ("poster", .asset)]), ("audio", [("src", .asset)]),
    ("iframe", [("src", .page)]), ("form", [("action", .page)]), ("object", [("data", .asset)]),
    ("embed", [("src", .asset)]), ("track", [("src", .asset)]), ("input", [("src", .asset)]),
    ("image", [("href", .asset), ("xlink:href", .asset)]),
    ("use", [("href", .asset), ("xlink:href", .asset)])]

/-- The names in lower case of the properties that a rule inherits from every object. -/
def inheritedNames : List String := ["constructor", "__proto__"]

/-- The same for the function `Object`, which is what the rules hold under `constructor`. -/
def constructorNames : List String :=
  ["length", "name", "prototype", "assign", "create", "entries", "freeze", "is", "keys", "seal",
    "values", "apply", "bind", "call", "constructor", "__proto__"]

/-- `rules[attributeName] ?? resourceKindForTag(tagName, attributeName)`. The rules are plain
objects, so a name that is not listed may still be a property that all objects have; two
properties of a function throw when they are read. -/
def resourceKindFor (tagName attributeName : Text) :
    Except RewriteThrown (Option RewriteResourceKind) :=
  if tagName = asciiUnits "constructor" then
    if ["caller", "arguments"].any fun name => attributeName == asciiUnits name then
      throw .typeError
    else if constructorNames.any fun name => attributeName == asciiUnits name then
      return some .inherited
    else return none
  else
    let rules := ((urlAttributeRules.find? fun rule => asciiUnits rule.1 == tagName).map (·.2)).getD []
    match rules.find? fun rule => asciiUnits rule.1 == attributeName with
    | some rule => return some rule.2
    | none =>
      if inheritedNames.any fun name => attributeName == asciiUnits name then
        return some .inherited
      else return none

/-- `value.split(/\s+/u)`, from a text whose current piece is `piece`. -/
def splitSpaces : Text → Text → List Text
  | piece, [] => [piece]
  | piece, c :: t =>
    if isSpaceUnit c then
      match t with
      | d :: _ => if isSpaceUnit d then splitSpaces piece t else piece :: splitSpaces [] t
      | [] => [piece, []]
    else splitSpaces (piece ++ [c]) t

example : splitSpaces [] (asciiUnits " a  b ") = [[], asciiUnits "a", asciiUnits "b", []] := by
  decide

variable (env : RewriteEnv)

/-- `isCanonicalLink(tagName, attributes)`. -/
def isCanonicalLink (tagName : Text) (attributes : List HtmlAttribute) : Bool :=
  tagName == asciiUnits "link" &&
    match attributes.find? fun item => item.name == asciiUnits "rel" with
    | some ⟨_, some rel, _, _, _⟩ =>
      (splitSpaces [] rel).any fun value => env.lower value == asciiUnits "canonical"
    | _ => false

structure BaseUrl where
  url : JsString
  original : Option Text
  isInvalid : Bool
deriving DecidableEq

/-- `effectiveBaseUrl(documentUrl, baseHref)` for a `baseHref` that is not `null`. -/
def effectiveBaseUrl (documentUrl : JsString) (baseHref : Text) : BaseUrl :=
  let raw := trimUnits (decodeHtmlEntities baseHref)
  match env.urls.resolve (scalarsOf raw) documentUrl with
  | some url => ⟨url.href, some raw, false⟩
  | none => ⟨documentUrl, some raw, true⟩

structure BaseInfo where
  token : Option HtmlToken
  href : Option Text
  base : BaseUrl
deriving DecidableEq

/-- `baseFromTokens(documentUrl, tokens, text)`. -/
def baseFromTokens (documentUrl : JsString) (tokens : List HtmlToken) : BaseInfo :=
  match tokens.find? fun token => token.isStartTag && token.tagName == some (asciiUnits "base") with
  | none => ⟨none, none, ⟨documentUrl, none, false⟩⟩
  | some token =>
    match token.attributes.find? fun item => item.name == asciiUnits "href" with
    | some ⟨_, some href, _, _, _⟩ =>
      ⟨some token, some (decodeHtmlEntities href), effectiveBaseUrl env documentUrl href⟩
    | _ => ⟨some token, none, ⟨documentUrl, none, false⟩⟩

structure CanonicalReferenceObservation where
  rawReference : Text
  resolvedUrl : Option Text
  normalizedUrl : Option Text
deriving DecidableEq

/-- What the loop over the tokens collects. -/
structure RewriteState where
  dependencies : List ExternalDependency := []
  observations : List RewriteReferenceObservation := []
  canonicalReferences : List CanonicalReferenceObservation := []
  replacements : List (Edit CodeUnit) := []
  rewrittenReferenceCount : ℕ := 0
  removedBaseElement : Bool := false
deriving DecidableEq

/-- The page and its base, as the loop sees them. -/
structure RewriteContext where
  sourcePage : RewritePageInput
  mappings : RewriteMappingIndex
  baseInfo : BaseInfo

namespace RewriteState

variable (state : RewriteState) (value : Text) (start stop : ℕ)

/-- `replacements.push(applyAttributeReplacement(html, attribute, output))` for an attribute whose
value stands between `start` and `stop`. -/
def replace (output : Text) : RewriteState :=
  { state with replacements := state.replacements ++ [⟨start, stop, escapeAttributeValue output⟩] }

/-- A canonical link whose `href` is `resolved`. -/
def addCanonical (resolved : ResolvedReference) : RewriteState :=
  let observed : CanonicalReferenceObservation :=
    ⟨value, safeMetadataUrl env resolved.resolvedUrl,
      safeMetadataUrl env (resolved.normalizedUrl.map unitsOf)⟩
  let state := { state with canonicalReferences := state.canonicalReferences ++ [observed] }
  match resolved.resolvedUrl with
  | some resolvedUrl =>
    if !resolved.isFragmentOnly && resolved.scheme.all isHttpName then
      state.replace start stop resolvedUrl
    else state
  | none => state

def addSrcset (rewritten : RewrittenSrcset) : RewriteState :=
  { state with
    dependencies := state.dependencies ++ rewritten.pushed
    observations := state.observations ++ rewritten.observations
    rewrittenReferenceCount := state.rewrittenReferenceCount + rewritten.rewrittenCount }.replace
      start stop rewritten.output

def addProcessed (processed : ProcessedReference) : RewriteState :=
  let state := { state with
    dependencies := state.dependencies ++ processed.pushed
    observations := state.observations ++ [processed.observation] }
  if processed.rewritten then
    { state with rewrittenReferenceCount := state.rewrittenReferenceCount + 1 }.replace
      start stop processed.output
  else state

end RewriteState

variable (context : RewriteContext)

/-- One attribute with a value that stands between `start` and `stop`. -/
def rewriteAttribute (tagName : Text) (canonical : Bool) (state : RewriteState)
    (attributeName value : Text) (start stop : ℕ) : Except RewriteThrown RewriteState := do
  let baseUrl := context.baseInfo.base.url
  if canonical && attributeName == asciiUnits "href" then
    let resolved ← resolveRewriteReference env value baseUrl
    return state.addCanonical env value start stop resolved
  else
    match ← resourceKindFor tagName attributeName with
    | none => return state
    | some kind =>
      let site : ReferenceSite :=
        { sourcePage := context.sourcePage, baseUrl, element := tagName, attributeName, kind }
      if attributeName = asciiUnits "srcset" then
        let rewritten ← rewriteSrcset env context.mappings site (decodeHtmlEntities value)
        return state.addSrcset start stop rewritten
      else
        let processed ← processReference env context.mappings site value
        return state.addProcessed start stop processed

/-- One attribute, which is passed over when it has no value. -/
def rewriteItem (tagName : Text) (canonical : Bool) (state : RewriteState) (item : HtmlAttribute) :
    Except RewriteThrown RewriteState :=
  match item.value, item.valueStart, item.valueEnd with
  | some value, some start, some stop =>
    rewriteAttribute env context tagName canonical state item.name value start stop
  | _, _, _ => return state

/-- The base element that the loop removes. -/
def isRemovedBase (tagName : Text) (token : HtmlToken) : Bool :=
  tagName == asciiUnits "base" &&
    context.baseInfo.token.any fun base => token.start == base.start

/-- One token. -/
def rewriteToken (state : RewriteState) (token : HtmlToken) : Except RewriteThrown RewriteState :=
  match token.tagName with
  | none => return state
  | some tagName =>
    if token.isEndTag || !token.isStartTag then return state
    else if isRemovedBase context tagName token then
      return { state with
        replacements := state.replacements ++ [⟨token.start, token.stop, []⟩]
        removedBaseElement := true }
    else
      token.attributes.foldlM
        (rewriteItem env context tagName (isCanonicalLink env tagName token.attributes)) state

structure HtmlRewriteInput where
  html : Text
  documentUrl : JsString
  page : RewritePageInput
  mappings : RewriteMappingIndex

/-- The resource and the URL checks that `rewriteHtml` and `rewriteCss` make of their page. -/
def assertSourcePage (page : RewritePageInput) : Except RewriteThrown RewritePageInput := do
  checked (assertHttpUrl env.urls page.originalUrl "The source Page URL")
  checked (assertHttpUrl env.urls page.normalizedUrl "The source normalized Page URL")
  let localResource ← checked (canonicalResourcePath env.unicode page.localResource)
  return { page with localResource }

/-- `dependencyMap(sourcePage, values)`. -/
def dependencyMap (values : List ExternalDependency) :
    Except RewriteThrown (List ExternalDependency) :=
  if values.length > maximumDependencyCount then
    throw (.operation
      ⟨.dependencyLimitExceeded, "The External Dependency Map exceeds its configured bound"⟩)
  else
    return values.mergeSort fun left right => !textLt right.dependencyId left.dependencyId

structure HtmlRewriteResult where
  html : Text
  page : RewritePageInput
  effectiveBaseUrl : JsString
  originalBaseUrl : Option Text
  removedBaseElement : Bool
  references : List RewriteReferenceObservation
  canonicalReferences : List CanonicalReferenceObservation
  dependencies : List ExternalDependency
  rewrittenReferenceCount : ℕ
deriving DecidableEq

/-- The dependency of a base that cannot be resolved. -/
def baseDependency (sourcePage : RewritePageInput) (href : Text) : ExternalDependency :=
  let site : ReferenceSite :=
    { sourcePage, baseUrl := [], element := asciiUnits "base", attributeName := asciiUnits "href",
      kind := .other }
  dependency site href (safeMetadataUrl env (some href)) none .unresolved
    "base-url-could-not-be-resolved-and-was-removed"

/-- The dependencies before the loop. -/
def baseDependencies (sourcePage : RewritePageInput) (baseInfo : BaseInfo) :
    List ExternalDependency :=
  match baseInfo.href with
  | some href => if baseInfo.base.isInvalid then [baseDependency env sourcePage href] else []
  | none => []

/-- The loop over the tokens. -/
def rewriteTokens (tokens : List HtmlToken) : Except RewriteThrown RewriteState :=
  tokens.foldlM (rewriteToken env context)
    { dependencies := baseDependencies env context.sourcePage context.baseInfo }

/-- The checks before the tokenizer runs. -/
def assertHtmlInput (input : HtmlRewriteInput) : Except RewriteThrown RewritePageInput := do
  failIf (.operation ⟨.htmlTooLarge, "The HTML document exceeds the rewrite bound"⟩)
    (encodedLength input.html > maximumHtmlBytes)
  checked (assertHttpUrl env.urls input.documentUrl "The document URL")
  assertSourcePage env input.page

/-- What the loop runs in. -/
def htmlContext (input : HtmlRewriteInput) (sourcePage : RewritePageInput)
    (tokens : List HtmlToken) : RewriteContext :=
  { sourcePage, mappings := input.mappings,
    baseInfo := baseFromTokens env input.documentUrl tokens }

/-- The result from what the loop collected. -/
def htmlResult (input : HtmlRewriteInput) (context : RewriteContext) (state : RewriteState) :
    Except RewriteThrown HtmlRewriteResult := do
  let dependencies ← dependencyMap state.dependencies
  return { html := applyFromEnd input.html state.replacements, page := context.sourcePage,
           effectiveBaseUrl := context.baseInfo.base.url, originalBaseUrl := context.baseInfo.href,
           removedBaseElement := state.removedBaseElement, references := state.observations,
           canonicalReferences := state.canonicalReferences, dependencies,
           rewrittenReferenceCount := state.rewrittenReferenceCount }

/-- `rewriteHtml(input)`. -/
def rewriteHtml (input : HtmlRewriteInput) : Fueled (Except RewriteThrown HtmlRewriteResult) :=
  match assertHtmlInput env input with
  | .error e => pure (.error e)
  | .ok sourcePage => do
    let tokens ← tokenizeHtml env.lower input.html
    let context := htmlContext env input sourcePage tokens
    pure (rewriteTokens env context tokens >>= htmlResult input context)

end OfflineWebArchiver

/-!
## Rewriting a style sheet

* `cssMove`: what the scan does at its cursor: it moves on, or it has found a reference.
* `rewriteCss`: the loop, and the sheet with the edits applied.
-/

namespace OfflineWebArchiver

open Checks Splice

/-- `while (/\s/u.test(text[cursor] ?? "")) cursor += 1`. -/
def skipSpaces (text : Text) (cursor : ℕ) : ℕ :=
  cursor + ((text.drop cursor).takeWhile isSpaceUnit).length

structure CssValue where
  stop : ℕ
  valueStart : ℕ
  valueEnd : ℕ
deriving DecidableEq

/-- `scanCssReplacement(css, start)`. -/
def scanCssReplacement (css : Text) (start : ℕ) : Option CssValue :=
  let cursor := skipSpaces css start
  match css[cursor]?.filter isQuote with
  | some quote =>
    let valueStart := cursor + 1
    let valueEnd := valueStart + ((css.drop valueStart).takeWhile (· != quote)).length
    if css[valueEnd]? ≠ some quote then none else some ⟨valueEnd + 1, valueStart, valueEnd⟩
  | none =>
    let valueEnd :=
      cursor + ((css.drop cursor).takeWhile fun c => c != unit ')' && !isSpaceUnit c).length
    some ⟨valueEnd, cursor, valueEnd⟩

/-- `/[A-Za-z0-9_-]/`. -/
def isWordUnit (c : CodeUnit) : Bool := (isTagNameUnit c && c != unit ':') || c == unit '_'

/-- Where the scan goes from here. -/
inductive CssMove
  | next (cursor : ℕ) (quote : Option CodeUnit)
  | reference (isImport : Bool) (value : CssValue) (cursor : ℕ)
deriving DecidableEq

/-- The units from `cursor` on begin with the word, which is in lower case, and no word goes on
in front of it. -/
def wordAt (lower : Text → Text) (css : Text) (word : String) (cursor : ℕ) : Bool :=
  (asciiUnits word).isPrefixOf (lower (css.drop cursor)) &&
    !(decide (0 < cursor) && testAt css isWordUnit (cursor - 1))

/-- An `@import` at the cursor, when it is no `url(…)`. -/
def cssImport (lower : Text → Text) (css : Text) (cursor : ℕ) : Option CssValue :=
  if wordAt lower css "@import" cursor then
    let importCursor := skipSpaces css (cursor + 7)
    if css[importCursor]? = some (unit 'u') ∨ css[importCursor]? = some (unit 'U') then none
    else scanCssReplacement css importCursor
  else none

/-- The body of the loop up to the reference that it finds. -/
def cssMove (lower : Text → Text) (css : Text) (cursor : ℕ) (quote : Option CodeUnit) : CssMove :=
  if startsWithAt css (asciiUnits "/*") cursor then
    match indexOf css (asciiUnits "*/") (cursor + 2) with
    | some stop => .next (stop + 2) quote
    | none => .next css.length quote
  else
    match quote with
    | some quote =>
      if css[cursor]? = some (unit '\\') then .next (cursor + 2) (some quote)
      else .next (cursor + 1) (if css[cursor]? = some quote then none else some quote)
    | none =>
      if testAt css isQuote cursor then .next (cursor + 1) css[cursor]?
      else if wordAt lower css "url" cursor then
        let opening := skipSpaces css (cursor + 3)
        if css[opening]? ≠ some (unit '(') then .next (cursor + 3) none
        else
          match scanCssReplacement css (opening + 1) with
          | none => .next (opening + 1) none
          | some value => .reference false value (max value.stop (opening + 1))
      else
        match cssImport lower css cursor with
        | some value => .reference true value value.stop
        | none => .next (cursor + 1) none

/-- `escapeCssUrl(value)`. -/
def escapeCssUrl (value : Text) : Text :=
  replaceUnits (asciiUnits ")") (asciiUnits "\\)") 0
    (replaceUnits (asciiUnits "\\") (asciiUnits "\\\\") 0 value)

variable (env : RewriteEnv)

structure CssRewriteInput where
  css : Text
  cssUrl : JsString
  sourcePage : RewritePageInput
  mappings : RewriteMappingIndex

/-- What the loop over the style sheet collects. -/
structure CssState where
  dependencies : List ExternalDependency := []
  observations : List RewriteReferenceObservation := []
  replacements : List (Edit CodeUnit) := []
  rewrittenReferenceCount : ℕ := 0
deriving DecidableEq

/-- The reference that the scan has found. -/
def rewriteCssReference (input : CssRewriteInput) (state : CssState) (isImport : Bool)
    (value : CssValue) : Except RewriteThrown CssState := do
  let site : ReferenceSite :=
    { sourcePage := input.sourcePage, baseUrl := input.cssUrl, element := asciiUnits "css",
      attributeName := asciiUnits (if isImport then "@import" else "url"),
      kind := if isImport then .css else .asset }
  let processed ← processReference env input.mappings site
    (slice input.css value.valueStart value.valueEnd)
  return { dependencies := state.dependencies ++ processed.pushed,
           observations := state.observations ++ [processed.observation],
           rewrittenReferenceCount := state.rewrittenReferenceCount +
             (if processed.rewritten then 1 else 0),
           replacements := state.replacements ++
             [⟨value.valueStart, value.valueEnd, escapeCssUrl processed.output⟩] }

/-- One round of the loop. -/
def cssRound (input : CssRewriteInput) :
    ℕ × Option CodeUnit × CssState →
      Fueled ((ℕ × Option CodeUnit × CssState) ⊕ Except RewriteThrown CssState)
  | (cursor, quote, state) =>
    if cursor < input.css.length then
      match cssMove env.lower input.css cursor quote with
      | .next cursor quote => pure (.inl (cursor, quote, state))
      | .reference isImport value cursor =>
        match rewriteCssReference env input state isImport value with
        | .error e => pure (.inr (.error e))
        | .ok state => pure (.inl (cursor, quote, state))
    else pure (.inr (.ok state))

structure CssRewriteResult where
  css : Text
  cssUrl : JsString
  references : List RewriteReferenceObservation
  dependencies : List ExternalDependency
  rewrittenReferenceCount : ℕ
deriving DecidableEq

/-- The checks before the loop. -/
def assertCssInput (input : CssRewriteInput) : Except RewriteThrown RewritePageInput := do
  failIf (.operation ⟨.cssTooLarge, "The CSS resource exceeds the rewrite bound"⟩)
    (encodedLength input.css > maximumCssBytes)
  checked (assertHttpUrl env.urls input.cssUrl "The CSS URL")
  assertSourcePage env input.sourcePage

/-- The result from what the loop collected. -/
def cssResult (input : CssRewriteInput) (state : CssState) :
    Except RewriteThrown CssRewriteResult := do
  let dependencies ← dependencyMap state.dependencies
  return { css := applyFromEnd input.css state.replacements, cssUrl := input.cssUrl,
           references := state.observations, dependencies,
           rewrittenReferenceCount := state.rewrittenReferenceCount }

/-- `rewriteCss(input)`. -/
def rewriteCss (input : CssRewriteInput) : Fueled (Except RewriteThrown CssRewriteResult) :=
  match assertCssInput env input with
  | .error e => pure (.error e)
  | .ok sourcePage => do
    let input := { input with sourcePage }
    let collected ← Fueled.iterate (cssRound env input) (0, none, {})
    pure (collected >>= cssResult input)

end OfflineWebArchiver
