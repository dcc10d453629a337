import OfflineWebArchiver.Base.LowerCase
import OfflineWebArchiver.Html.Scan

/-!
# Where the tokenizer goes on

Behind the start tag of a script or a style the tokenizer looks for the close text in the
lower-case copy of the document, and goes on at that index in the document itself.

* `PositionsCorrect`: tokens and values lie where they should, and behind a script or a style
  the scan goes on at its close text.
* `positionsCorrect_iff`: this holds if and only if no U+0130 moves a search.
* `moved_script`: a document on which one does.
-/

namespace OfflineWebArchiver

/-- The name of a script or a style start tag. -/
def HtmlToken.rawName (token : HtmlToken) : Option Text :=
  token.startName.filter fun name => name == asciiUnits "script" || name == asciiUnits "style"

/-- The text that ends the text of a script or a style. -/
def closeNeedle (name : Text) : Text := asciiUnits "</" ++ name

/-- **The scan goes on at the close text**: at its first place behind the start tag, which ends at
`stop`, ignoring the case of ASCII letters. Without one the rest of the document is raw text. -/
def ResumesAtClose (lower : Text → Text) (text : Text) (stop : ℕ) (name : Text)
    (after : List HtmlToken) : Prop :=
  match indexOfAscii text (closeNeedle name) stop with
  | some close => afterTag lower text stop (some name) = close ∧ Scan lower text close after
  | none => text.length ≤ afterTag lower text stop (some name) ∧ after = []

/-- **The positions that the tokenizer reports are correct.** -/
structure PositionsCorrect (lower : Text → Text) (text : Text) (tokens : List HtmlToken) : Prop where
  located : TokensLocated text 0 tokens
  resumes : ∀ before token after name, tokens = before ++ token :: after →
    token.rawName = some name → ResumesAtClose lower text token.stop name after

/-- No U+0130 moves the search behind `stop`: the first match that the units in front move behind
`stop` is the first one behind `stop`, and moves there. Where none stands behind `stop`, a match
in front of it may still be moved behind the end of the document. -/
def SearchUnmoved (text : Text) (stop : ℕ) (name : Text) : Prop :=
  match indexOfAscii text (closeNeedle name) stop with
  | some close => movedIndexOf text (closeNeedle name) stop = some close
  | none => ∀ m ∈ movedIndexOf text (closeNeedle name) stop, text.length ≤ m

/-- The name of the script or style tag at `start`. -/
def rawNameAt (lower : Text → Text) (text : Text) (start : ℕ) : Option Text :=
  ((startTag lower (rawTag text start)).map (·.1)).filter fun name =>
    name == asciiUnits "script" || name == asciiUnits "style"

variable {lower : Text → Text} {text name : Text} {stop : ℕ} {tokens after : List HtmlToken}

theorem rawName_eq {token : HtmlToken} (h : token.rawName = some name) :
    token.startName = some name ∧ (name = asciiUnits "script" ∨ name = asciiUnits "style") := by
  obtain ⟨hname, hraw⟩ := Option.filter_eq_some_iff.1 h
  exact ⟨hname, by simpa using hraw⟩

/-- The scan goes on at the moved match. -/
theorem afterTag_raw (text : Text) (stop : ℕ) (hlower : LowerCase lower)
    (hraw : name = asciiUnits "script" ∨ name = asciiUnits "style") :
    afterTag lower text stop (some name) =
      (movedIndexOf text (closeNeedle name) stop).getD text.length := by
  have hneedle : isNeedle (closeNeedle name) = true := by
    rcases hraw with rfl | rfl <;> decide
  have hne : closeNeedle name ≠ [] := by simp [closeNeedle, asciiUnits]
  rw [afterTag, if_pos hraw]
  change (indexOf (lower text) (closeNeedle name) stop).getD text.length = _
  rw [hlower.indexOf_eq hne hneedle]

/-- Nothing is reported behind the end of the document. -/
theorem Scan.eq_nil (h : Scan lower text stop after) (hstop : text.length ≤ stop) : after = [] := by
  cases h with
  | done => rfl
  | comment hstart =>
    obtain ⟨hle, hlt, -⟩ := indexOf_some hstart
    omega
  | tag hstart =>
    obtain ⟨hle, hlt, -⟩ := indexOf_some hstart
    omega

/-- One script or style. -/
theorem resumesAtClose_iff (hlower : LowerCase lower)
    (hraw : name = asciiUnits "script" ∨ name = asciiUnits "style")
    (hafter : Scan lower text (afterTag lower text stop (some name)) after) :
    ResumesAtClose lower text stop name after ↔ SearchUnmoved text stop name := by
  have hcursor := afterTag_raw text stop hlower hraw
  unfold ResumesAtClose SearchUnmoved
  cases hclose : indexOfAscii text (closeNeedle name) stop with
  | some close =>
    have hlt : close < text.length := by
      have := (indexOf_some hclose).2.1
      rwa [List.length_map] at this
    simp only []
    constructor
    · rintro ⟨heq, -⟩
      rw [hcursor] at heq
      cases hmoved : movedIndexOf text (closeNeedle name) stop with
      | none => rw [hmoved] at heq; simp only [Option.getD_none] at heq; omega
      | some m => rw [hmoved] at heq; exact congrArg some heq
    · intro hmoved
      rw [hmoved, Option.getD_some] at hcursor
      exact ⟨hcursor, hcursor ▸ hafter⟩
  | none =>
    simp only []
    constructor
    · rintro ⟨hle, -⟩ m hm
      rw [hcursor, hm] at hle
      exact hle
    · intro hmoved
      have hle : text.length ≤ afterTag lower text stop (some name) := by
        rw [hcursor]
        cases hm : movedIndexOf text (closeNeedle name) stop with
        | none => exact Nat.le_refl _
        | some m => exact hmoved m hm
      exact ⟨hle, hafter.eq_nil hle⟩

/-- **The positions are correct if and only if no U+0130 moves a search**: on every document on
which the tokenizer returns, tokens and values lie where they should, and the scan goes on at the
close text of every script and style exactly when this holds for each of these tags. -/
theorem positionsCorrect_iff (hlower : LowerCase lower) (h : (tokenizeHtml lower text).Returns tokens) :
    PositionsCorrect lower text tokens ↔
      ∀ start name, TagAt lower text start → rawNameAt lower text start = some name →
        SearchUnmoved text (findTagEnd text start) name := by
  have hscan := tokenizeHtml_returns.1 h
  have hone : ∀ before token after name, tokens = before ++ token :: after →
      token.rawName = some name →
      (ResumesAtClose lower text token.stop name after ↔ SearchUnmoved text token.stop name) := by
    rintro before token after name rfl hname
    obtain ⟨hstart, hraw⟩ := rawName_eq hname
    have hafter := hscan.split
    rw [hstart] at hafter
    exact resumesAtClose_iff hlower hraw hafter
  have hname : ∀ {start : ℕ} {token : HtmlToken}, token.Of lower text start →
      token.rawName = rawNameAt lower text start := by
    intro start token hof
    rw [HtmlToken.rawName, hof.named, rawNameAt]
  constructor
  · intro hcorrect start name htag hraw
    obtain ⟨token, hmem, hof⟩ := (hscan.mem_iff start).1 htag
    rw [← hname hof] at hraw
    obtain ⟨before, after, heq⟩ := List.append_of_mem hmem
    rw [← hof.ends]
    exact (hone before token after name heq hraw).1 (hcorrect.resumes before token after name heq hraw)
  · intro hunmoved
    refine ⟨hscan.located, fun before token after name heq hraw => ?_⟩
    have hmem : token ∈ tokens := by
      rw [heq]
      exact List.mem_append_right _ List.mem_cons_self
    obtain ⟨start, htag, hof⟩ := hscan.tagAt .start token hmem
    refine (hone before token after name heq hraw).2 ?_
    rw [hof.ends]
    exact hunmoved start name htag (by rw [← hname hof, hraw])

/-! ### A moved search -/

/-- A style with its end tag in capitals. -/
def styled : Text := asciiUnits "<style>a<b</STYLE>"

def styledTokens : List HtmlToken :=
  [⟨0, 7, some (asciiUnits "style"), [], true, false⟩,
    ⟨10, 18, some (asciiUnits "style"), [], false, true⟩]

theorem styledTokens_returned : (tokenizeHtml lowerDotted styled).Returns styledTokens :=
  ⟨12, by decide⟩

theorem positionsCorrect_styled : PositionsCorrect lowerDotted styled styledTokens := by
  refine (positionsCorrect_iff lowerDotted_lowerCase styledTokens_returned).2 fun start name htag hname => ?_
  obtain ⟨token, hmem, hof⟩ := ((tokenizeHtml_returns.1 styledTokens_returned).mem_iff start).1 htag
  have hstart : start = 0 ∨ start = 10 := by
    rw [← hof.begins]
    rcases List.mem_cons.1 hmem with rfl | hmem
    · exact Or.inl rfl
    · obtain rfl := List.mem_singleton.1 hmem
      exact Or.inr rfl
  rcases hstart with rfl | rfl
  · obtain rfl : asciiUnits "style" = name := by
      have hstyle : rawNameAt lowerDotted styled 0 = some (asciiUnits "style") := by decide
      exact Option.some.inj (hstyle.symm.trans hname)
    have hclose : indexOfAscii styled (closeNeedle (asciiUnits "style")) 7 = some 10 := by
      decide
    have hstop : findTagEnd styled 0 = 7 := by decide
    rw [hstop, SearchUnmoved, hclose]
    decide
  · have hnone : rawNameAt lowerDotted styled 10 = none := by decide
    cases hnone.symm.trans hname

/-- A script behind U+0130. -/
def movedScript : Text := 0x130 :: asciiUnits "<script></script><a>"

/-- **The end tag of the script is skipped.** -/
theorem moved_script : LowerCase lowerDotted ∧ ∃ tokens,
    (tokenizeHtml lowerDotted movedScript).Returns tokens ∧
      ¬PositionsCorrect lowerDotted movedScript tokens := by
  refine ⟨lowerDotted_lowerCase, [⟨1, 9, some (asciiUnits "script"), [], true, false⟩,
    ⟨18, 21, some (asciiUnits "a"), [], true, false⟩], ⟨14, by decide⟩, fun h => ?_⟩
  have hresumes := h.resumes [] _ _ (asciiUnits "script") rfl rfl
  have hclose : indexOfAscii movedScript (closeNeedle (asciiUnits "script")) 9 = some 9 := by
    decide
  rw [ResumesAtClose, hclose] at hresumes
  have hcursor : afterTag lowerDotted movedScript 9 (some (asciiUnits "script")) = 10 := by
    decide
  exact absurd (hcursor.symm.trans hresumes.1) (by decide)

end OfflineWebArchiver
