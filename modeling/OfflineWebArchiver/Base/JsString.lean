import Mathlib.Algebra.GroupWithZero.Nat
import Mathlib.Data.List.Basic

/-!
# Text rules of the queue

* `sanitizeSafeMessage`: error messages lose URLs, credentials and control
  characters and are cut to the message limit.
* `isIdempotencyKey`, `matchesSafeIdentifier`: the characters a key or an identifier may have.
-/

namespace OfflineWebArchiver

instance instLawfulBEqChars : LawfulBEq (List Char) := inferInstance

/-- The characters that `\s` matches and `trim` removes. -/
def isJsSpace (c : Char) : Bool :=
  let n := c.toNat
  (9 ≤ n && n ≤ 13) || n == 32 || n == 0xa0 || n == 0x1680 || (0x2000 ≤ n && n ≤ 0x200a) ||
    n == 0x2028 || n == 0x2029 || n == 0x202f || n == 0x205f || n == 0x3000 || n == 0xfeff

/-- `String.prototype.trim`. -/
def jsTrim (cs : List Char) : List Char :=
  ((cs.dropWhile isJsSpace).reverse.dropWhile isJsSpace).reverse

/-- Length in UTF-16 code units. -/
def utf16Length (cs : List Char) : ℕ := (cs.map fun c => if c.toNat < 0x10000 then 1 else 2).sum

/-- The first `n` UTF-16 code units; half of a surrogate pair is stored as U+FFFD. -/
def utf16Take : ℕ → List Char → List Char
  | _, [] => []
  | 0, _ => []
  | 1, c :: _ => if c.toNat < 0x10000 then [c] else [Char.ofNat 0xfffd]
  | n + 2, c :: cs => c :: if c.toNat < 0x10000 then utf16Take (n + 1) cs else utf16Take n cs

/-- `SAFE_IDENTIFIER.test(value)`: a letter or digit, and at most 127 of these, `.`, `_`, `:` and `-`. -/
def matchesSafeIdentifier (value : String) : Bool :=
  match value.toList with
  | [] => false
  | c :: cs => c.isAlphanum && cs.length ≤ 127 &&
      cs.all fun c => c.isAlphanum || c == '.' || c == '_' || c == ':' || c == '-'

/-- Length of the match of a lower-case word at the front, ignoring ASCII case. -/
def matchWord : List Char → List Char → Option (List Char)
  | [], cs => some cs
  | w :: ws, c :: cs => if c.toLower == w then matchWord ws cs else none
  | _ :: _, [] => none

/-- Replace every match of `m`, from the left. `m` returns the replacement and
the length of the match; the counter skips the rest of a match. -/
def replaceAll (m : List Char → Option (List Char × ℕ)) : ℕ → List Char → List Char
  | _, [] => []
  | k + 1, _ :: cs => replaceAll m k cs
  | 0, c :: cs =>
    match m (c :: cs) with
    | some (r, n) => r ++ replaceAll m (n - 1) cs
    | none => c :: replaceAll m 0 cs

/-- `/https?:\/\/[^\s]+/gi` with its replacement. -/
def matchUrl (cs : List Char) : Option (List Char × ℕ) := do
  let rest ← (matchWord "https://".toList cs).or (matchWord "http://".toList cs)
  let tail := rest.takeWhile (!isJsSpace ·)
  if tail.isEmpty then none else some ("[redacted-url]".toList, cs.length - rest.length + tail.length)

/-- `/(token|password|secret|cookie|authorization)\s*[:=]\s*[^\s,;]+/gi` with its replacement. -/
def matchCredential (cs : List Char) : Option (List Char × ℕ) :=
  ["token", "password", "secret", "cookie", "authorization"].findSome? fun word => do
    let rest ← matchWord word.toList cs
    match rest.dropWhile isJsSpace with
    | sep :: rest' =>
      let value := rest'.dropWhile isJsSpace
      let tail := value.takeWhile fun c => !(isJsSpace c || c == ',' || c == ';')
      if (sep == ':' || sep == '=') && !tail.isEmpty then
        some (cs.take word.length ++ "=[redacted]".toList, cs.length - value.length + tail.length)
      else none
    | [] => none

/-- `QUEUE_LIMITS.safeMessageLength`. -/
def safeMessageLength : ℕ := 400

/-- `sanitizeSafeMessage(value)`. -/
def sanitizeSafeMessage (value : String) : String :=
  let withoutUrls := replaceAll matchUrl 0 value.toList
  let withoutCredentials := replaceAll matchCredential 0 withoutUrls
  let printable := withoutCredentials.map fun c => if c.toNat ≤ 0x1f || c.toNat == 0x7f then ' ' else c
  let sanitized := jsTrim printable
  if sanitized.isEmpty then "Queue operation failed safely."
  else String.ofList (utf16Take safeMessageLength sanitized)

/-- `QUEUE_LIMITS.idempotencyKeyLength`. -/
def idempotencyKeyLength : ℕ := 128

/-- `KEY_PATTERN` and the length bound of an idempotency key. -/
def isIdempotencyKey (value : String) : Bool :=
  match value.toList with
  | [] => false
  | c :: cs =>
    (c :: cs).length ≤ idempotencyKeyLength && c.isAlphanum &&
      cs.all fun c => c.isAlphanum || c == '.' || c == '_' || c == ':' || c == '-'

example : sanitizeSafeMessage "GET https://a.b/c failed, Token: xyz;" =
    "GET [redacted-url] failed, Token=[redacted];" := by decide

end OfflineWebArchiver

/-!
## Strings of the archive

A string is the list of its characters. Its JavaScript length is the number of
its UTF-16 code units (`utf16Length`), and strings are ordered by these units
(`jsLt`).

* `decodeURIComponent`: percent decoding, in the two stages of its definition:
  escapes become octets, octets become characters.
* `decodeURIComponent_of_not_mem`: a string without `%` decodes to itself.
* `decodeURIComponent_lt`: a string with `%` that decodes becomes shorter.
* `decodeURIComponent_concat_slash`, `decodeURIComponent_slash`: decoding keeps a
  trailing `/` and every other one.
-/

namespace OfflineWebArchiver

/-- A string, as the characters it is made of. -/
abbrev JsString := List Char

/-- What the runtime takes from the Unicode tables: the composed normal form and lower case. -/
structure Unicode where
  nfc : JsString → JsString
  lower : JsString → JsString

/-- The UTF-16 code units of a string. -/
def codeUnits (s : JsString) : List ℕ :=
  s.flatMap fun c =>
    let n := c.toNat
    if n < 0x10000 then [n] else [0xd800 + (n - 0x10000) / 0x400, 0xdc00 + (n - 0x10000) % 0x400]

/-- The number of bytes of a string in UTF-8. -/
def utf8Length (s : JsString) : ℕ := (s.map fun c => c.utf8Size).sum

/-- The first list is before the second one in lexicographic order. -/
def unitsLt : List ℕ → List ℕ → Bool
  | _, [] => false
  | [], _ :: _ => true
  | a :: as, b :: bs => if a < b then true else if b < a then false else unitsLt as bs

/-- `left < right` on strings. -/
def jsLt (left right : JsString) : Bool := unitsLt (codeUnits left) (codeUnits right)

/-- `/[\u0000-\u001f\u007f]/` on one character. -/
def isControl (c : Char) : Bool := c.toNat ≤ 0x1f || c.toNat == 0x7f

/-- The value of a hexadecimal digit. -/
def hexDigit (c : Char) : Option ℕ :=
  if '0' ≤ c ∧ c ≤ '9' then some (c.toNat - '0'.toNat)
  else if 'a' ≤ c ∧ c ≤ 'f' then some (c.toNat - 'a'.toNat + 10)
  else if 'A' ≤ c ∧ c ≤ 'F' then some (c.toNat - 'A'.toNat + 10)
  else none

/-- The escapes of a string read as octets; the other characters stay. -/
def octets : JsString → Option (List (Char ⊕ ℕ))
  | [] => some []
  | '%' :: a :: b :: rest => do
    let hi ← hexDigit a
    let lo ← hexDigit b
    let us ← octets rest
    return .inr (16 * hi + lo) :: us
  | c :: rest =>
    if c = '%' then none
    else do
      let us ← octets rest
      return .inl c :: us

/-- What a first octet announces: how many octets follow, its own bits, and the
least code point that needs so many. -/
def leadOctet (b : ℕ) : Option (ℕ × ℕ × ℕ) :=
  if b < 0xc0 then none
  else if b < 0xe0 then some (1, b - 0xc0, 0x80)
  else if b < 0xf0 then some (2, b - 0xe0, 0x800)
  else if b < 0xf8 then some (3, b - 0xf0, 0x10000)
  else none

/-- Read octets as UTF-8. Of the character being read `k` octets are missing, `n`
holds the bits so far and `low` is the least code point of its length. -/
def decodeOctets : ℕ → ℕ → ℕ → List (Char ⊕ ℕ) → Option JsString
  | 0, _, _, [] => some []
  | 0, _, _, .inl c :: us => (decodeOctets 0 0 0 us).map (c :: ·)
  | 0, _, _, .inr b :: us =>
    if b < 0x80 then (decodeOctets 0 0 0 us).map (Char.ofNat b :: ·)
    else do
      let (k, n, low) ← leadOctet b
      decodeOctets k n low us
  | k + 1, n, low, .inr b :: us =>
    if 0x80 ≤ b ∧ b < 0xc0 then
      let n := n * 0x40 + (b - 0x80)
      if k = 0 then
        if low ≤ n ∧ n.isValidChar then (decodeOctets 0 0 0 us).map (Char.ofNat n :: ·) else none
      else decodeOctets k n low us
    else none
  | _ + 1, _, _, _ => none

/-- `decodeURIComponent`; `none` where it throws. -/
def decodeURIComponent (s : JsString) : Option JsString := do
  let us ← octets s
  decodeOctets 0 0 0 us

example : decodeURIComponent ['c', '%', 'C', '3', '%', 'A', '9', '%', '2', '5'] =
    some ['c', 'é', '%'] := by decide

theorem octets_cons {c : Char} (hc : c ≠ '%') (rest : JsString) :
    octets (c :: rest) = (octets rest).map (.inl c :: ·) := by
  rw [octets.eq_def]
  split
  · simp_all
  · simp_all
  · next h => simp_all [Option.map_eq_bind, Function.comp_def]

/-- Only escapes become octets, each of three characters. -/
theorem octets_length {s : JsString} {us : List (Char ⊕ ℕ)} (h : octets s = some us) :
    us.length ≤ s.length ∧ ('%' ∈ s → us.length < s.length) := by
  induction s using octets.induct generalizing us with
  | case1 => simp_all [octets]
  | case2 a b rest ih =>
    simp only [octets, Option.bind_eq_bind, Option.bind_eq_some_iff] at h
    obtain ⟨hi, -, lo, -, us', hus, h⟩ := h
    obtain rfl := Option.some.inj h
    have := (ih hus).1
    simp only [List.length_cons]
    omega
  | case3 rest hshort =>
    match rest with
    | [] | [_] => simp [octets] at h
    | _ :: _ :: _ => exact (hshort _ _ _ rfl rfl).elim
  | case4 c rest _ hc ih =>
    rw [octets_cons hc, Option.map_eq_some_iff] at h
    obtain ⟨us', hus, rfl⟩ := h
    obtain ⟨h₁, h₂⟩ := ih hus
    refine ⟨by simpa using h₁, fun hm => ?_⟩
    have hm : '%' ∈ rest := by
      rcases List.mem_cons.1 hm with h | h
      · exact absurd h.symm hc
      · exact h
    simpa using h₂ hm

/-- Without an escape every character stays. -/
theorem octets_of_not_mem {s : JsString} (h : '%' ∉ s) : octets s = some (s.map .inl) := by
  induction s with
  | nil => rfl
  | cons c rest ih =>
    rw [List.mem_cons, not_or] at h
    rw [octets_cons (fun e => h.1 e.symm), ih h.2]
    rfl

theorem octets_concat_slash {s : JsString} {us : List (Char ⊕ ℕ)}
    (h : octets (s ++ ['/']) = some us) : ∃ us', us = us' ++ [.inl '/'] := by
  induction s using octets.induct generalizing us with
  | case1 => exact ⟨[], by simpa [octets] using h.symm⟩
  | case2 a b rest ih =>
    simp only [List.cons_append, octets, Option.bind_eq_bind, Option.bind_eq_some_iff] at h
    obtain ⟨hi, -, lo, -, us', hus, h⟩ := h
    obtain rfl := Option.some.inj h
    obtain ⟨us'', rfl⟩ := ih hus
    exact ⟨.inr (16 * hi + lo) :: us'', rfl⟩
  | case3 rest hshort =>
    match rest with
    | [] => simp [octets] at h
    | [a] => simp [octets, show hexDigit '/' = none by decide] at h
    | _ :: _ :: _ => exact (hshort _ _ _ rfl rfl).elim
  | case4 c rest _ hc ih =>
    rw [List.cons_append, octets_cons hc, Option.map_eq_some_iff] at h
    obtain ⟨us', hus, rfl⟩ := h
    obtain ⟨us'', rfl⟩ := ih hus
    exact ⟨.inl c :: us'', rfl⟩

theorem decodeOctets_length {k n low : ℕ} {us : List (Char ⊕ ℕ)} {t : JsString}
    (h : decodeOctets k n low us = some t) : t.length ≤ us.length := by
  induction us generalizing k n low t with
  | nil => cases k <;> simp_all [decodeOctets]
  | cons x us ih =>
    have hmap : ∀ {c : Char}, (decodeOctets 0 0 0 us).map (c :: ·) = some t →
        t.length ≤ us.length + 1 := by
      intro c h
      obtain ⟨t', ht, rfl⟩ := Option.map_eq_some_iff.1 h
      exact Nat.succ_le_succ (ih ht)
    rcases k with _ | k <;> rcases x with c | b
    · exact hmap h
    · rw [decodeOctets] at h
      split at h
      · exact hmap h
      · obtain ⟨⟨k, n, low⟩, -, h⟩ := Option.bind_eq_some_iff.1 h
        exact Nat.le_trans (ih h) (Nat.le_succ _)
    · simp [decodeOctets] at h
    · simp only [decodeOctets] at h
      split_ifs at h
      · exact hmap h
      · exact Nat.le_trans (ih h) (Nat.le_succ _)

theorem decodeOctets_map_inl (s : JsString) : decodeOctets 0 0 0 (s.map .inl) = some s := by
  induction s with
  | nil => rfl
  | cons c s ih => rw [List.map_cons, decodeOctets, ih]; rfl

theorem decodeOctets_concat {k n low : ℕ} {us : List (Char ⊕ ℕ)} {c : Char} {t : JsString}
    (h : decodeOctets k n low (us ++ [.inl c]) = some t) : ∃ t', t = t' ++ [c] := by
  induction us generalizing k n low t with
  | nil =>
    rcases k with _ | k
    · exact ⟨[], by simpa [decodeOctets] using h.symm⟩
    · simp [decodeOctets] at h
  | cons x us ih =>
    have hmap : ∀ {d : Char}, (decodeOctets 0 0 0 (us ++ [.inl c])).map (d :: ·) = some t →
        ∃ t', t = t' ++ [c] := by
      intro d h
      obtain ⟨t', ht, rfl⟩ := Option.map_eq_some_iff.1 h
      obtain ⟨t'', rfl⟩ := ih ht
      exact ⟨d :: t'', rfl⟩
    rw [List.cons_append] at h
    rcases k with _ | k <;> rcases x with d | b
    · exact hmap h
    · rw [decodeOctets] at h
      split at h
      · exact hmap h
      · obtain ⟨⟨k, n, low⟩, -, h⟩ := Option.bind_eq_some_iff.1 h
        exact ih h
    · simp [decodeOctets] at h
    · simp only [decodeOctets] at h
      split_ifs at h
      · exact hmap h
      · exact ih h

/-- **A string without `%` decodes to itself.** -/
theorem decodeURIComponent_of_not_mem {s : JsString} (h : '%' ∉ s) :
    decodeURIComponent s = some s := by
  unfold decodeURIComponent
  rw [octets_of_not_mem h]
  exact decodeOctets_map_inl s

/-- **An escape that decodes makes the string shorter.** -/
theorem decodeURIComponent_lt {s t : JsString} (h : decodeURIComponent s = some t)
    (hm : '%' ∈ s) : t.length < s.length := by
  obtain ⟨us, hus, h⟩ := Option.bind_eq_some_iff.1 h
  exact Nat.lt_of_le_of_lt (decodeOctets_length h) ((octets_length hus).2 hm)

/-- A character outside the escapes stays in front. -/
theorem decodeURIComponent_cons {c : Char} (hc : c ≠ '%') (s : JsString) :
    decodeURIComponent (c :: s) = (decodeURIComponent s).map (c :: ·) := by
  unfold decodeURIComponent
  rw [octets_cons hc]
  cases octets s <;> rfl

/-- **Decoding keeps a trailing slash.** -/
theorem decodeURIComponent_concat_slash {s t : JsString}
    (h : decodeURIComponent (s ++ ['/']) = some t) : ∃ t', t = t' ++ ['/'] := by
  obtain ⟨us, hus, h⟩ := Option.bind_eq_some_iff.1 h
  obtain ⟨us', rfl⟩ := octets_concat_slash hus
  exact decodeOctets_concat h

theorem hexDigit_slash : hexDigit '/' = none := by decide

/-- A slash is no part of an escape. -/
theorem octets_slash {s : JsString} {us : List (Char ⊕ ℕ)} (h : octets s = some us)
    (hm : '/' ∈ s) : .inl '/' ∈ us := by
  induction s using octets.induct generalizing us with
  | case1 => cases hm
  | case2 a b rest ih =>
    simp only [octets, Option.bind_eq_bind, Option.bind_eq_some_iff] at h
    obtain ⟨hi, ha, lo, hb, us', hus, h⟩ := h
    obtain rfl := Option.some.inj h
    have hrest : '/' ∈ rest := by
      rcases List.mem_cons.1 hm with h | hm
      · exact absurd h (by decide)
      rcases List.mem_cons.1 hm with rfl | hm
      · rw [hexDigit_slash] at ha; cases ha
      rcases List.mem_cons.1 hm with rfl | hm
      · rw [hexDigit_slash] at hb; cases hb
      · exact hm
    exact List.mem_cons_of_mem _ (ih hus hrest)
  | case3 rest hshort =>
    match rest with
    | [] | [_] => simp [octets] at h
    | _ :: _ :: _ => exact (hshort _ _ _ rfl rfl).elim
  | case4 c rest _ hc ih =>
    rw [octets_cons hc, Option.map_eq_some_iff] at h
    obtain ⟨us', hus, rfl⟩ := h
    rcases List.mem_cons.1 hm with rfl | hm
    · exact List.mem_cons_self
    · exact List.mem_cons_of_mem _ (ih hus hm)

theorem decodeOctets_mem {k n low : ℕ} {us : List (Char ⊕ ℕ)} {c : Char} {t : JsString}
    (h : decodeOctets k n low us = some t) (hm : .inl c ∈ us) : c ∈ t := by
  induction us generalizing k n low t with
  | nil => cases hm
  | cons x us ih =>
    have hmap : ∀ {d : Char}, (decodeOctets 0 0 0 us).map (d :: ·) = some t → .inl c ∈ us →
        c ∈ t := by
      intro d h hm
      obtain ⟨t', ht, rfl⟩ := Option.map_eq_some_iff.1 h
      exact List.mem_cons_of_mem _ (ih ht hm)
    rcases x with d | b
    · rcases k with _ | k
      · rcases List.mem_cons.1 hm with e | hm
        · obtain ⟨t', -, rfl⟩ := Option.map_eq_some_iff.1 h
          obtain rfl := Sum.inl.inj e
          exact List.mem_cons_self
        · exact hmap h hm
      · simp [decodeOctets] at h
    · have hm : .inl c ∈ us := by simpa using hm
      rcases k with _ | k <;> simp only [decodeOctets] at h
      · split at h
        · exact hmap h hm
        · obtain ⟨⟨k, n, low⟩, -, h⟩ := Option.bind_eq_some_iff.1 h
          exact ih h hm
      · split_ifs at h
        · exact hmap h hm
        · exact ih h hm

/-- **Decoding keeps every slash.** -/
theorem decodeURIComponent_slash {s t : JsString} (h : decodeURIComponent s = some t)
    (hm : '/' ∈ s) : '/' ∈ t := by
  obtain ⟨us, hus, h⟩ := Option.bind_eq_some_iff.1 h
  exact decodeOctets_mem h (octets_slash hus hm)

theorem decodeOctets_ne_nil {k n low : ℕ} {us : List (Char ⊕ ℕ)} {t : JsString}
    (h : decodeOctets k n low us = some t) (hne : k ≠ 0 ∨ us ≠ []) : t ≠ [] := by
  induction us generalizing k n low t with
  | nil =>
    rcases k with _ | k
    · simp at hne
    · simp [decodeOctets] at h
  | cons x us ih =>
    have hmap : ∀ {d : Char}, (decodeOctets 0 0 0 us).map (d :: ·) = some t → t ≠ [] := by
      intro d h
      obtain ⟨t', -, rfl⟩ := Option.map_eq_some_iff.1 h
      exact List.cons_ne_nil _ _
    rcases k with _ | k <;> rcases x with d | b <;> simp only [decodeOctets] at h
    · exact hmap h
    · split at h
      · exact hmap h
      · obtain ⟨⟨k, n, low⟩, hlead, h⟩ := Option.bind_eq_some_iff.1 h
        refine ih h (.inl ?_)
        unfold leadOctet at hlead
        split_ifs at hlead <;> simp at hlead <;> omega
    · cases h
    · split_ifs at h
      · exact hmap h
      · exact ih h (.inl ‹_›)

theorem octets_ne_nil {s : JsString} {us : List (Char ⊕ ℕ)} (h : octets s = some us)
    (hs : s ≠ []) : us ≠ [] := by
  rintro rfl
  induction s using octets.induct with
  | case1 => exact hs rfl
  | case2 a b rest ih =>
    simp only [octets, Option.bind_eq_bind, Option.bind_eq_some_iff] at h
    obtain ⟨hi, -, lo, -, us', -, h⟩ := h
    cases Option.some.inj h
  | case3 rest hshort =>
    match rest with
    | [] | [_] => simp [octets] at h
    | _ :: _ :: _ => exact (hshort _ _ _ rfl rfl).elim
  | case4 c rest _ hc ih => simp [octets_cons hc] at h

/-- Nothing decodes to the empty string but the empty string. -/
theorem decodeURIComponent_ne_nil {s t : JsString} (h : decodeURIComponent s = some t)
    (hs : s ≠ []) : t ≠ [] := by
  obtain ⟨us, hus, h⟩ := Option.bind_eq_some_iff.1 h
  exact decodeOctets_ne_nil h (.inr (octets_ne_nil hus hs))

end OfflineWebArchiver
