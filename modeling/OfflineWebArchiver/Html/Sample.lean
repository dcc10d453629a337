import OfflineWebArchiver.Archive.Sample
import OfflineWebArchiver.Html.Rewrite
import OfflineWebArchiver.Properties.Tokenizing

/-!
# A sample page

A page with plain ASCII texts and URLs, and an archive of one other page.
-/

namespace OfflineWebArchiver.Sample

/-- The runtime on ASCII texts, and on URLs without credentials and parameters. -/
def rewriteEnv : RewriteEnv :=
  { unicode := ascii, urls, lower := lowerAscii, clearCredentials := id,
    searchParams := fun _ => [], hrefWithParams := fun url _ => url.href }

def sourcePage : RewritePageInput :=
  { pageId := ['p'], projectId := ['p'], runId := ['r'], projectRevisionId := ['v'],
    pageIdentity := ['p'], originalUrl := "http://x.y/p".toList,
    normalizedUrl := "http://x.y/p".toList, localResource := "p.html".toList }

/-- The index of an archive. -/
def indexOfPages (pages : List PageRouteMappingInput) : RewriteMappingIndex :=
  match RewriteMappingIndex.create ascii urls pages [] none with
  | .ok index => index
  | .error _ => ⟨[], [], fun _ => none, []⟩

/-- A page of the sample site, to be rewritten. -/
def htmlInput (pages : List PageRouteMappingInput) (html : String) : HtmlRewriteInput :=
  { html := asciiUnits html, documentUrl := "http://x.y/p".toList, page := sourcePage,
    mappings := indexOfPages pages }

def cssInput (css : String) : CssRewriteInput :=
  { css := asciiUnits css, cssUrl := "http://x.y/s".toList, sourcePage, mappings := indexOfPages [] }

/-- What becomes of a page, when the rewriter returns within the fuel. -/
def rewritten (fuel : ℕ) (input : HtmlRewriteInput) : Option (Except RewriteThrown Text) :=
  ((rewriteHtml rewriteEnv input).run fuel).map fun result => result.map (·.html)

/-- What becomes of a style sheet. -/
def rewrittenCss (fuel : ℕ) (input : CssRewriteInput) : Option (Except RewriteThrown Text) :=
  ((rewriteCss rewriteEnv input).run fuel).map fun result => result.map (·.css)

theorem exists_of_rewritten {fuel : ℕ} {input : HtmlRewriteInput} {text : Text}
    (h : rewritten fuel input = some (.ok text)) :
    ∃ result, (rewriteHtml rewriteEnv input).Returns (.ok result) ∧ result.html = text := by
  obtain ⟨r, hr, hmap⟩ := Option.map_eq_some_iff.1 h
  cases r with
  | error e => cases hmap
  | ok result => exact ⟨result, ⟨fuel, hr⟩, Except.ok.inj hmap⟩

theorem exists_of_rewrittenCss {fuel : ℕ} {input : CssRewriteInput} {text : Text}
    (h : rewrittenCss fuel input = some (.ok text)) :
    ∃ result, (rewriteCss rewriteEnv input).Returns (.ok result) ∧ result.css = text := by
  obtain ⟨r, hr, hmap⟩ := Option.map_eq_some_iff.1 h
  cases r with
  | error e => cases hmap
  | ok result => exact ⟨result, ⟨fuel, hr⟩, Except.ok.inj hmap⟩

example : rewritten 30 (htmlInput [page "a" "/r" "r.html"] "<a href='/a'>b</a>") =
    some (.ok (asciiUnits "<a href='/r'>b</a>")) := by decide +kernel

end OfflineWebArchiver.Sample
