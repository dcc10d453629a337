import OfflineWebArchiver.Base.Utf16
import OfflineWebArchiver.Lib.Loop

/-!
# The HTML tokenizer

`tokenizeHtml` with its cursor loops. `lower` is `toLowerCase`.
-/

namespace OfflineWebArchiver

structure HtmlAttribute where
  name : Text
  value : Option Text
  valueStart : Option ℕ
  valueEnd : Option ℕ
  quote : Option CodeUnit
deriving DecidableEq

structure HtmlToken where
  start : ℕ
  stop : ℕ
  tagName : Option Text
  attributes : List HtmlAttribute
  isStartTag : Bool
  isEndTag : Bool
deriving DecidableEq

def isQuote (c : CodeUnit) : Bool := c == unit '\'' || c == unit '"'

/-- `/[A-Za-z0-9:-]/`. -/
def isTagNameUnit (c : CodeUnit) : Bool :=
  (unit 'A' ≤ c && c ≤ unit 'Z') || (unit 'a' ≤ c && c ≤ unit 'z') ||
    (unit '0' ≤ c && c ≤ unit '9') || c == unit ':' || c == unit '-'

/-- `/[\s=>/]/`. -/
def isDelimiter (c : CodeUnit) : Bool :=
  isSpaceUnit c || c == unit '=' || c == unit '>' || c == unit '/'

/-- The rest of the scan of `findTagEnd`, at `index`. -/
def findTagEndFrom (text : Text) : Option CodeUnit → ℕ → Text → ℕ
  | _, _, [] => text.length
  | some quote, index, character :: rest =>
    findTagEndFrom text (if character = quote then none else some quote) (index + 1) rest
  | none, index, character :: rest =>
    if isQuote character then findTagEndFrom text (some character) (index + 1) rest
    else if character = unit '>' then index + 1
    else findTagEndFrom text none (index + 1) rest

def findTagEnd (text : Text) (start : ℕ) : ℕ :=
  findTagEndFrom text none (start + 1) (text.drop (start + 1))

example : findTagEnd ("<a b='>'>".toList.map unit) 0 = 9 := by decide

/-- `test(raw[cursor] ?? "")` for a character class. -/
def testAt (raw : Text) (test : CodeUnit → Bool) (cursor : ℕ) : Bool := (raw[cursor]?).any test

/-- The test of the loops over a value. -/
def valueTest (raw : Text) (quote : Option CodeUnit) (cursor : ℕ) : Bool :=
  decide (cursor < raw.length - 1) &&
    match quote with
    | some quote => raw[cursor]? != some quote
    | none => !testAt raw (fun c => isSpaceUnit c || c == unit '>') cursor

/-- The value of an attribute, from behind the `=`. -/
def parseValue (raw : Text) (start : ℕ) (name : Text) (cursor : ℕ) : Fueled (ℕ × HtmlAttribute) := do
  let cursor ← Fueled.scan (testAt raw isSpaceUnit) cursor
  let quote := raw[cursor]?.filter isQuote
  let valueStart := if quote.isSome then cursor + 1 else cursor
  let valueEnd ← Fueled.scan (valueTest raw quote) valueStart
  pure (if quote.isSome ∧ raw[valueEnd]? = quote then valueEnd + 1 else valueEnd,
    ⟨name, some (slice raw valueStart valueEnd), some (start + valueStart), some (start + valueEnd),
      quote⟩)

/-- An attribute, from its name on. -/
def parseAttribute (lower : Text → Text) (raw : Text) (start cursor : ℕ)
    (attributes : List HtmlAttribute) : Fueled (ℕ × List HtmlAttribute) := do
  let nameStart := cursor
  let cursor ← Fueled.scan (fun cursor => !testAt raw isDelimiter cursor) nameStart
  if cursor = nameStart then pure (cursor + 1, attributes)
  else
    let name := lower (slice raw nameStart cursor)
    let cursor ← Fueled.scan (testAt raw isSpaceUnit) cursor
    if raw[cursor]? ≠ some (unit '=') then
      pure (cursor, attributes ++ [⟨name, none, none, none, none⟩])
    else do
      let (cursor, item) ← parseValue raw start name (cursor + 1)
      pure (cursor, attributes ++ [item])

/-- One round of the loop over the attributes. -/
def attributeRound (lower : Text → Text) (raw : Text) (start : ℕ) :
    ℕ × List HtmlAttribute → Fueled ((ℕ × List HtmlAttribute) ⊕ List HtmlAttribute)
  | (cursor, attributes) =>
    if cursor < raw.length - 1 then do
      let cursor ← Fueled.scan (testAt raw fun c => isSpaceUnit c || c == unit '/') cursor
      if raw.length - 1 ≤ cursor then pure (.inr attributes)
      else do
        let next ← parseAttribute lower raw start cursor attributes
        pure (.inl next)
    else pure (.inr attributes)

def parseTag (lower : Text → Text) (text : Text) (start stop : ℕ) : Fueled HtmlToken :=
  let raw := slice text start stop
  if !startsWithAt raw (asciiUnits "<") 0 || startsWithAt raw (asciiUnits "<!--") 0 ||
      startsWithAt raw (asciiUnits "<!") 0 || startsWithAt raw (asciiUnits "<?") 0 then
    pure ⟨start, stop, none, [], false, false⟩
  else do
    let cursor ← Fueled.scan (testAt raw isSpaceUnit) 1
    let isEndTag := raw[cursor]? == some (unit '/')
    let tagStart := if isEndTag then cursor + 1 else cursor
    let cursor ← Fueled.scan (testAt raw isTagNameUnit) tagStart
    let tagName := lower (slice raw tagStart cursor)
    if tagName.length = 0 then pure ⟨start, stop, none, [], false, isEndTag⟩
    else if isEndTag then pure ⟨start, stop, some tagName, [], false, true⟩
    else do
      let attributes ← Fueled.iterate (attributeRound lower raw start) (cursor, [])
      pure ⟨start, stop, some tagName, attributes, true, false⟩

/-- The cursor behind a comment. -/
def afterComment (text : Text) (start : ℕ) : ℕ :=
  match indexOf text (asciiUnits "-->") (start + 4) with
  | some commentEnd => commentEnd + 3
  | none => text.length

/-- The cursor behind a tag that ends at `stop`; `name` is its name if it is a start tag.
The text of a script or a style is skipped. -/
def afterTag (lower : Text → Text) (text : Text) (stop : ℕ) (name : Option Text) : ℕ :=
  match name with
  | some name =>
    if name = asciiUnits "script" ∨ name = asciiUnits "style" then
      (indexOf (lower text) (asciiUnits "</" ++ name) stop).getD text.length
    else stop
  | none => stop

/-- One round of the loop over the tags. -/
def tagRound (lower : Text → Text) (text : Text) :
    ℕ × List HtmlToken → Fueled ((ℕ × List HtmlToken) ⊕ List HtmlToken)
  | (cursor, tokens) =>
    if cursor < text.length then
      match indexOf text (asciiUnits "<") cursor with
      | none => pure (.inr tokens)
      | some start =>
        if startsWithAt text (asciiUnits "<!--") start then pure (.inl (afterComment text start, tokens))
        else do
          let stop := findTagEnd text start
          let token ← parseTag lower text start stop
          let name := if token.isStartTag then token.tagName else none
          pure (.inl (afterTag lower text stop name, tokens ++ [token]))
    else pure (.inr tokens)

def tokenizeHtml (lower : Text → Text) (text : Text) : Fueled (List HtmlToken) :=
  Fueled.iterate (tagRound lower text) (0, [])

end OfflineWebArchiver
