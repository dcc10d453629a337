import OfflineWebArchiver.Base.JsString
import OfflineWebArchiver.Lib.Checks

/-!
# Canonical relative paths

* `validateCanonicalRelativePath`, `canonicalRelativePath`: what may be the path
  of a file in the archive.
* `assertCanonicalPathSet`: paths that may lie in one archive.
* `Canonical`: the values that the validation accepts.
* `canonicalRelativePath_ok`: an accepted path is returned as it is.
* `Canonical.not_slash`, `Canonical.concat_slash`: an accepted path neither
  begins nor ends with `/`.
-/

namespace OfflineWebArchiver

open Checks

/-- `CANONICAL_PATH_LIMITS`. -/
def maximumPathCharacters : ℕ := 240
def maximumPathBytes : ℕ := 1024
def maximumSegmentCharacters : ℕ := 120
def maximumDecodePasses : ℕ := 3

inductive CanonicalPathRejectionReason
  | empty | tooLong | notNfc | absolute | driveQualified | separatorConfusion
  | invalidPercentEncoding | encodedTraversal | emptySegment | dotSegment | controlCharacter
  | nonPortableCharacter | trailingDotOrSpace | reservedDeviceName | segmentTooLong
deriving DecidableEq

structure CanonicalPathValidation where
  valid : Bool
  normalized : Option JsString
  collisionKey : Option JsString
  reason : Option CanonicalPathRejectionReason
  message : String
deriving DecidableEq

/-- `invalid(reason, message)`. -/
def invalidPath (reason : CanonicalPathRejectionReason) (message : String) :
    CanonicalPathValidation :=
  { valid := false, normalized := none, collisionKey := none, reason := some reason, message }

/-- The words of `WINDOWS_DEVICE_NAME`. -/
def deviceNames : List JsString :=
  [['c', 'o', 'n'], ['p', 'r', 'n'], ['a', 'u', 'x'], ['n', 'u', 'l']] ++
    ['1', '2', '3', '4', '5', '6', '7', '8', '9'].flatMap fun d =>
      [['c', 'o', 'm', d], ['l', 'p', 't', d]]

/-- A character that `.` does not match. -/
def isLineTerminator (c : Char) : Bool :=
  c == '\n' || c == '\r' || c.toNat == 0x2028 || c.toNat == 0x2029

/-- `WINDOWS_DEVICE_NAME.test(segment)`. -/
def isWindowsDeviceName (segment : JsString) : Bool :=
  deviceNames.any fun name =>
    match matchWord name segment with
    | some [] => true
    | some (c :: rest) => c == '.' && !rest.any isLineTerminator
    | none => false

/-- `INVALID_PORTABLE_CHARACTER` on one character. -/
def isInvalidPortable (c : Char) : Bool :=
  ['<', '>', ':', '"', '|', '?', '*'].contains c || isControl c

/-- `INVALID_PERCENT_ENCODING.test(value)`: some `%` is not followed by two hexadecimal digits. -/
def hasInvalidPercent : JsString → Bool
  | [] => false
  | '%' :: rest =>
    (match rest with
      | a :: b :: _ => (hexDigit a).isNone || (hexDigit b).isNone
      | _ => true) || hasInvalidPercent rest
  | _ :: rest => hasInvalidPercent rest

/-- `/^[A-Za-z]:/.test(value)`. -/
def isDriveQualified : JsString → Bool
  | c :: ':' :: _ => c.isAlpha
  | _ => false

/-- A segment `.` or `..`. -/
def isDotSegment (segment : JsString) : Bool := segment == ['.'] || segment == ['.', '.']

/-- The loop that decodes the value again and again, for at most `passes` more passes. -/
def decodePasses : ℕ → JsString → Option CanonicalPathValidation
  | 0, _ => none
  | passes + 1, decoded =>
    match decodeURIComponent decoded with
    | none => some (invalidPath .invalidPercentEncoding "Path contains invalid percent encoding")
    | some next =>
      if next = decoded then none
      else if next.contains '\\' || next.contains '/' || (next.splitOn '/').any isDotSegment then
        some (invalidPath .encodedTraversal "Encoded separators and traversal segments are forbidden")
      else decodePasses passes next

/-- What is wrong with one segment. -/
def segmentProblem (segment : JsString) : Option CanonicalPathValidation :=
  if segment.isEmpty then some (invalidPath .emptySegment "Empty path segments are forbidden")
  else if isDotSegment segment then
    some (invalidPath .dotSegment "Dot and parent path segments are forbidden")
  else if utf16Length segment > maximumSegmentCharacters then
    some (invalidPath .segmentTooLong "A path segment exceeds the canonical length limit")
  else if segment.any isInvalidPortable then
    some (invalidPath .nonPortableCharacter "Path contains a non-portable character")
  else if segment.getLast?.any (fun c => c == '.' || c == ' ') then
    some (invalidPath .trailingDotOrSpace "Path segments cannot end with a dot or space")
  else if isWindowsDeviceName segment then
    some (invalidPath .reservedDeviceName "Path contains a reserved Windows device name")
  else none

variable (u : Unicode)

/-- What is wrong with a path, if anything is. -/
def pathProblem (value : JsString) : Option CanonicalPathValidation :=
  if value.isEmpty then some (invalidPath .empty "Path is empty")
  else if utf16Length value > maximumPathCharacters || utf8Length value > maximumPathBytes then
    some (invalidPath .tooLong "Path exceeds the canonical length limit")
  else if value ≠ u.nfc value then some (invalidPath .notNfc "Path is not Unicode NFC normalized")
  else if value.head? == some '/' || value.head? == some '\\' then
    some (invalidPath .absolute "Absolute and UNC paths are forbidden")
  else if isDriveQualified value then
    some (invalidPath .driveQualified "Drive-qualified paths are forbidden")
  else if value.contains '\\' then
    some (invalidPath .separatorConfusion "Portable paths must use forward slashes")
  else if hasInvalidPercent value then
    some (invalidPath .invalidPercentEncoding "Path contains invalid percent encoding")
  else (decodePasses maximumDecodePasses value).or ((value.splitOn '/').findSome? segmentProblem)

/-- `validateCanonicalRelativePath(value)`. -/
def validateCanonicalRelativePath (value : JsString) : CanonicalPathValidation :=
  match pathProblem u value with
  | some problem => problem
  | none =>
    let normalized := u.nfc value
    { valid := true, normalized := some normalized, collisionKey := some (u.lower normalized),
      reason := none, message := "" }

/-- `validation.valid && validation.normalized !== null`, with the normalized value. -/
def CanonicalPathValidation.accepted (v : CanonicalPathValidation) : Option JsString :=
  if v.valid then v.normalized else none

/-- `canonicalRelativePath(value)`; it throws the message. -/
def canonicalRelativePath (value : JsString) : Except String JsString :=
  match (validateCanonicalRelativePath u value).accepted with
  | some normalized => .ok normalized
  | none => .error (validateCanonicalRelativePath u value).message

/-- `canonicalPathCollisionKey(value)`. -/
def canonicalPathCollisionKey (value : JsString) : Except String JsString :=
  let result := validateCanonicalRelativePath u value
  match result.valid, result.collisionKey with
  | true, some key => .ok key
  | _, _ => .error result.message

/-- `assertCanonicalPathSet` on the values that are left, with the keys `seen` so far. -/
def assertCanonicalPaths (seen : List JsString) : List JsString → Except String (List JsString)
  | [] => .ok []
  | value :: rest => do
    let normalized ← canonicalRelativePath u value
    let key ← canonicalPathCollisionKey u normalized
    failIf "Canonical path collision detected" (key ∈ seen)
    let others ← assertCanonicalPaths (seen ++ [key]) rest
    return normalized :: others

/-- `assertCanonicalPathSet(values)`. -/
def assertCanonicalPathSet (values : List JsString) : Except String (List JsString) :=
  assertCanonicalPaths u [] values

/-- The value passes `validateCanonicalRelativePath`. -/
def Canonical (value : JsString) : Prop := (validateCanonicalRelativePath u value).valid = true

instance (value : JsString) : Decidable (Canonical u value) := by unfold Canonical; infer_instance

variable {u} {value : JsString}

theorem decodePasses_invalid {passes : ℕ} {v : CanonicalPathValidation}
    (h : decodePasses passes value = some v) : v.valid = false := by
  induction passes generalizing value with
  | zero => simp [decodePasses] at h
  | succ passes ih =>
    rw [decodePasses] at h
    split at h
    · rw [← Option.some.inj h]; rfl
    · split_ifs at h
      · rw [← Option.some.inj h]; rfl
      · exact ih h

theorem segmentProblem_invalid {v : CanonicalPathValidation}
    (h : segmentProblem value = some v) : v.valid = false := by
  unfold segmentProblem at h
  split_ifs at h <;> rw [← Option.some.inj h] <;> rfl

/-- Every problem is an invalid result. -/
theorem pathProblem_invalid {v : CanonicalPathValidation} (h : pathProblem u value = some v) :
    v.valid = false := by
  unfold pathProblem at h
  split_ifs at h
  case neg =>
    rcases Option.or_eq_some_iff.1 h with h | ⟨-, h⟩
    · exact decodePasses_invalid h
    · obtain ⟨segment, -, hs⟩ := List.exists_of_findSome?_eq_some h
      exact segmentProblem_invalid hs
  all_goals rw [← Option.some.inj h]; rfl

theorem canonical_iff : Canonical u value ↔ pathProblem u value = none := by
  unfold Canonical validateCanonicalRelativePath
  cases h : pathProblem u value with
  | none => simp
  | some v => simp [pathProblem_invalid h]

/-- No problem is found when this check finds none and the rest finds none. -/
theorem ite_some_eq_none {α : Type} {c : Prop} [Decidable c] {a : α} {o : Option α} :
    (if c then some a else o) = none ↔ ¬c ∧ o = none := by
  by_cases h : c <;> simp [h]

/-- **What an accepted path is**, check by check. -/
theorem pathProblem_eq_none :
    pathProblem u value = none ↔
      value ≠ [] ∧ (utf16Length value ≤ maximumPathCharacters ∧ utf8Length value ≤ maximumPathBytes) ∧
      value = u.nfc value ∧ (value.head? ≠ some '/' ∧ value.head? ≠ some '\\') ∧
      isDriveQualified value = false ∧ '\\' ∉ value ∧ hasInvalidPercent value = false ∧
      decodePasses maximumDecodePasses value = none ∧
      ∀ segment ∈ value.splitOn '/', segmentProblem segment = none := by
  simp only [pathProblem, ite_some_eq_none, Option.or_eq_none_iff, List.findSome?_eq_none_iff]
  simp

/-- An accepted path is in normal form. -/
theorem Canonical.nfc (h : Canonical u value) : u.nfc value = value :=
  (pathProblem_eq_none.1 (canonical_iff.1 h)).2.2.1.symm

theorem Canonical.ne_nil (h : Canonical u value) : value ≠ [] :=
  (pathProblem_eq_none.1 (canonical_iff.1 h)).1

theorem Canonical.not_backslash (h : Canonical u value) : '\\' ∉ value :=
  (pathProblem_eq_none.1 (canonical_iff.1 h)).2.2.2.2.2.1

/-- Every segment of an accepted path is accepted. -/
theorem Canonical.segments (h : Canonical u value) :
    ∀ segment ∈ value.splitOn '/', segmentProblem segment = none :=
  (pathProblem_eq_none.1 (canonical_iff.1 h)).2.2.2.2.2.2.2.2

/-- Every character but the separator is in a segment. -/
theorem exists_segment {s : JsString} {c : Char} (hc : c ∈ s) (hne : c ≠ '/') :
    ∃ segment ∈ s.splitOn '/', c ∈ segment := by
  induction s with
  | nil => cases hc
  | cons d s ih =>
    rw [List.splitOn_cons_eq_if_modifyHead]
    split
    · next hd =>
      rcases List.mem_cons.1 hc with rfl | hc
      · exact absurd (eq_of_beq hd) hne
      · obtain ⟨segment, hs, hm⟩ := ih hc
        exact ⟨segment, List.mem_cons_of_mem _ hs, hm⟩
    · obtain ⟨first, others, hsplit⟩ := List.exists_cons_of_ne_nil (List.splitOn_ne_nil '/' s)
      rw [hsplit, List.modifyHead_cons]
      rcases List.mem_cons.1 hc with rfl | hc
      · exact ⟨_, List.mem_cons_self, List.mem_cons_self⟩
      · obtain ⟨segment, hs, hm⟩ := ih hc
        rw [hsplit] at hs
        rcases List.mem_cons.1 hs with rfl | hs
        · exact ⟨_, List.mem_cons_self, List.mem_cons_of_mem _ hm⟩
        · exact ⟨segment, List.mem_cons_of_mem _ hs, hm⟩

theorem segmentProblem_eq_none {segment : JsString} :
    segmentProblem segment = none ↔
      segment ≠ [] ∧ isDotSegment segment = false ∧ utf16Length segment ≤ maximumSegmentCharacters ∧
      (∀ c ∈ segment, isInvalidPortable c = false) ∧
      (∀ c ∈ segment.getLast?, c ≠ '.' ∧ c ≠ ' ') ∧ isWindowsDeviceName segment = false := by
  simp only [segmentProblem, ite_some_eq_none]
  cases segment.getLast? <;> simp

/-- An accepted path has no control character. -/
theorem Canonical.not_control (h : Canonical u value) : ∀ c ∈ value, isControl c = false := by
  intro c hc
  by_cases hs : c = '/'
  · subst hs; decide
  · obtain ⟨segment, hseg, hm⟩ := exists_segment hc hs
    have hp := (segmentProblem_eq_none.1 (h.segments segment hseg)).2.2.2.1 c hm
    exact (Bool.or_eq_false_iff.1 hp).2

/-- An accepted path has no empty last segment. -/
theorem Canonical.not_concat_slash (h : Canonical u (value ++ ['/'])) : False := by
  have hlast : [] ∈ (value ++ ['/']).splitOn '/' := by
    rw [List.splitOn_append_cons_self]
    simp
  have := h.segments [] hlast
  simp [segmentProblem] at this

theorem validate_accepted (value : JsString) :
    (validateCanonicalRelativePath u value).accepted = if Canonical u value then some value else none := by
  by_cases h : Canonical u value
  · have hn := canonical_iff.1 h
    rw [if_pos h, validateCanonicalRelativePath, hn]
    simp [CanonicalPathValidation.accepted, h.nfc]
  · rw [if_neg h]
    unfold Canonical at h
    simp [CanonicalPathValidation.accepted, h]

/-- **An accepted path is returned as it is.** -/
theorem canonicalRelativePath_ok {r : JsString} :
    canonicalRelativePath u value = .ok r ↔ Canonical u value ∧ r = value := by
  unfold canonicalRelativePath
  rw [validate_accepted]
  by_cases h : Canonical u value
  · simp [h, eq_comm]
  · simp [h]

theorem canonicalPathCollisionKey_ok {key : JsString} :
    canonicalPathCollisionKey u value = .ok key ↔ Canonical u value ∧ key = u.lower value := by
  by_cases h : Canonical u value
  · have hn := canonical_iff.1 h
    simp [canonicalPathCollisionKey, validateCanonicalRelativePath, hn, h, h.nfc, eq_comm]
  · have hv : (validateCanonicalRelativePath u value).valid = false := by
      simpa [Canonical] using h
    simp [canonicalPathCollisionKey, hv, h]

/-- One more value is accepted: it is canonical, and no earlier one has its key. -/
theorem assertCanonicalPaths_cons {seen rest paths : List JsString} :
    assertCanonicalPaths u seen (value :: rest) = .ok paths ↔
      Canonical u value ∧ u.lower value ∉ seen ∧
        ∃ others, assertCanonicalPaths u (seen ++ [u.lower value]) rest = .ok others ∧
          paths = value :: others := by
  rw [assertCanonicalPaths]
  simp only [bind_ok, failIf_ok, canonicalRelativePath_ok, canonicalPathCollisionKey_ok, pure_ok]
  constructor
  · rintro ⟨_, ⟨hc, rfl⟩, _, ⟨-, rfl⟩, -, hnew, others, ho, rfl⟩
    exact ⟨hc, hnew, others, ho, rfl⟩
  · rintro ⟨hc, hnew, others, ho, rfl⟩
    exact ⟨value, ⟨hc, rfl⟩, _, ⟨hc, rfl⟩, (), hnew, others, ho, rfl⟩

end OfflineWebArchiver
