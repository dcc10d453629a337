import Mathlib.Data.List.Basic
import OfflineWebArchiver.Base.JsString

/-!
# Texts as the scanners see them

The scanners of HTML index a string by its UTF-16 code units, and a code unit need not be
a character. `Text` is the list of the units.

* `slice`, `startsWithAt`, `indexOf`: the string operations by these names.
* `indexOf_some`: where a match lies.
-/

namespace OfflineWebArchiver

abbrev CodeUnit := UInt16

/-- A string, as its code units. -/
abbrev Text := List CodeUnit

instance instLawfulBEqText : LawfulBEq Text := inferInstance

/-- The unit of a character of the basic plane. -/
def unit (c : Char) : CodeUnit := c.toNat.toUInt16

/-- An ASCII literal. -/
def asciiUnits (s : String) : Text := s.toList.map unit

/-- `/\s/`. -/
def isSpaceUnit (c : CodeUnit) : Bool :=
  (9 ≤ c && c ≤ 13) || c == 0x20 || c == 0xa0 || c == 0x1680 || (0x2000 ≤ c && c ≤ 0x200a) ||
    c == 0x2028 || c == 0x2029 || c == 0x202f || c == 0x205f || c == 0x3000 || c == 0xfeff

/-- `text.slice(start, stop)`. -/
def slice (text : Text) (start stop : ℕ) : Text := (text.drop start).take (stop - start)

/-- `text.startsWith(needle, position)`. -/
def startsWithAt (text needle : Text) (position : ℕ) : Bool := needle.isPrefixOf (text.drop position)

/-- `text.indexOf(needle, position)` for a needle that is not empty. -/
def indexOf (text needle : Text) (position : ℕ) : Option ℕ :=
  (List.range text.length).find? fun i => decide (position ≤ i) && startsWithAt text needle i

variable {text needle : Text} {position i : ℕ}

theorem indexOf_some (h : indexOf text needle position = some i) :
    position ≤ i ∧ i < text.length ∧ startsWithAt text needle i = true := by
  have hi := List.find?_some h
  have hmem := List.mem_of_find?_eq_some h
  simp only [Bool.and_eq_true, decide_eq_true_eq] at hi
  exact ⟨hi.1, List.mem_range.1 hmem, hi.2⟩

end OfflineWebArchiver

/-!
## Code units and characters

The scanners work on code units, the URL parser and the archive on characters.

* `unitsOf`: the code units of a string of characters.
* `scalarsOf`: the characters of a text; a lone surrogate is U+FFFD.
* `replaceUnits`, `trimUnits`, `joinUnits`: `replaceAll` with a fixed text, `trim` and `join`.
-/

namespace OfflineWebArchiver

def unitsOf (s : JsString) : Text := (codeUnits s).map Nat.toUInt16

def isHighSurrogate (c : CodeUnit) : Bool := 0xd800 ≤ c && c ≤ 0xdbff

def isLowSurrogate (c : CodeUnit) : Bool := 0xdc00 ≤ c && c ≤ 0xdfff

/-- The character of a unit that is not part of a pair. -/
def unitScalar (c : CodeUnit) : Char :=
  if isHighSurrogate c || isLowSurrogate c then Char.ofNat 0xfffd else Char.ofNat c.toNat

/-- The conversion that the URL parser and the text encoder begin with. -/
def scalarsOf : Text → JsString
  | [] => []
  | [c] => [unitScalar c]
  | high :: low :: rest =>
    if isHighSurrogate high && isLowSurrogate low then
      Char.ofNat (0x10000 + (high.toNat - 0xd800) * 0x400 + (low.toNat - 0xdc00)) :: scalarsOf rest
    else unitScalar high :: scalarsOf (low :: rest)

/-- `new TextEncoder().encode(text).byteLength`. -/
def encodedLength (text : Text) : ℕ := utf8Length (scalarsOf text)

/-- `/[\u0000-\u001f\u007f]/` on one unit. -/
def isControlUnit (c : CodeUnit) : Bool := c ≤ 0x1f || c == 0x7f

/-- `replaceAll(needle, replacement)`, from the left; the counter skips the rest of a match. -/
def replaceUnits (needle replacement : Text) : ℕ → Text → Text
  | _, [] => []
  | k + 1, _ :: t => replaceUnits needle replacement k t
  | 0, c :: t =>
    if needle.isPrefixOf (c :: t) then
      replacement ++ replaceUnits needle replacement (needle.length - 1) t
    else c :: replaceUnits needle replacement 0 t

/-- `text.trim()`. -/
def trimUnits (text : Text) : Text :=
  ((text.dropWhile isSpaceUnit).reverse.dropWhile isSpaceUnit).reverse

/-- `texts.join(separator)`. -/
def joinUnits (separator : Text) (texts : List Text) : Text :=
  (texts.intersperse separator).flatten

/-- `left < right` on texts. -/
def textLt (left right : Text) : Bool := unitsLt (left.map UInt16.toNat) (right.map UInt16.toNat)

example : scalarsOf [0x61, 0xd83d, 0xde00, 0xd83d] =
    ['a', Char.ofNat 0x1f600, Char.ofNat 0xfffd] := by decide

end OfflineWebArchiver
