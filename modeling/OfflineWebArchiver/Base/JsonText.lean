import Mathlib.Data.Rat.Defs
import OfflineWebArchiver.Base.JsString
import OfflineWebArchiver.Base.Json

/-!
# JSON texts

What `JSON.parse` reads, and the indented texts that `JSON.stringify` writes.

* `parse`: `JSON.parse` on strings of Unicode scalar values.
* `printArray`, `printObject`: the layout of `JSON.stringify` with an indentation.
* `Reads`: **a text is read back as its value**, whatever follows it.
* `Reads.quote`, `Reads.nat`, `Reads.array`, `Reads.object`: the texts that are.
-/

namespace OfflineWebArchiver.JsonText

/-- A parsed value. Numbers are exact. -/
inductive Value
  | null
  | bool (b : Bool)
  | number (q : ℚ)
  | text (s : JsString)
  | array (items : List Value)
  | object (fields : List (JsString × Value))

/-- `value[key]`; the last field of a key counts. -/
def Value.get? : Value → JsString → Option Value
  | .object fields, key => (fields.reverse.find? fun f => f.1 = key).map Prod.snd
  | _, _ => none

def isJsonSpace (c : Char) : Bool := c == ' ' || c == '\n' || c == '\r' || c == '\t'

def skipSpace (s : JsString) : JsString := s.dropWhile isJsonSpace

/-- Four hexadecimal digits. -/
def hex4 : JsString → Option (ℕ × JsString)
  | a :: b :: c :: d :: rest => do
    let a ← hexDigit a
    let b ← hexDigit b
    let c ← hexDigit c
    let d ← hexDigit d
    return (((a * 16 + b) * 16 + c) * 16 + d, rest)
  | _ => none

/-- The code unit after `\u`; the two halves of a surrogate pair make one character. -/
def readUnit (s : JsString) : Option (Char × JsString) := do
  let (n, rest) ← hex4 s
  if 0xd800 ≤ n ∧ n < 0xdc00 then
    match rest with
    | '\\' :: 'u' :: rest =>
      let (m, rest) ← hex4 rest
      if 0xdc00 ≤ m ∧ m < 0xe000 then
        return (Char.ofNat (0x10000 + (n - 0xd800) * 0x400 + (m - 0xdc00)), rest)
      else none
    | _ => none
  else if 0xdc00 ≤ n ∧ n < 0xe000 then none
  else return (Char.ofNat n, rest)

/-- What a backslash and the characters after it stand for. -/
def readEscape : JsString → Option (Char × JsString)
  | [] => none
  | c :: rest =>
    if c = 'u' then readUnit rest
    else if c = '"' ∨ c = '\\' ∨ c = '/' then some (c, rest)
    else if c = 'b' then some (Char.ofNat 8, rest)
    else if c = 'f' then some (Char.ofNat 12, rest)
    else if c = 'n' then some ('\n', rest)
    else if c = 'r' then some ('\r', rest)
    else if c = 't' then some ('\t', rest)
    else none

/-- The rest of a string whose opening quote is read. -/
def readChars : ℕ → JsString → Option (JsString × JsString)
  | 0, _ => none
  | _ + 1, [] => none
  | n + 1, c :: rest =>
    if c = '"' then some ([], rest)
    else if c = '\\' then do
      let (c, rest) ← readEscape rest
      let (s, rest) ← readChars n rest
      return (c :: s, rest)
    else if c.toNat < 0x20 then none
    else do
      let (s, rest) ← readChars n rest
      return (c :: s, rest)

/-- At least one digit. -/
def readDigits (s : JsString) : Option (JsString × JsString) :=
  let digits := s.takeWhile Char.isDigit
  if digits = [] then none else some (digits, s.dropWhile Char.isDigit)

/-- `.` and digits, or nothing. -/
def readFraction (s : JsString) : Option (ℚ × JsString) :=
  match s with
  | '.' :: rest => do
    let (digits, rest) ← readDigits rest
    return ((Nat.ofDigitChars 10 digits 0 : ℚ) / 10 ^ digits.length, rest)
  | _ => some (0, s)

/-- `e` and an integer, or nothing. -/
def readExponent (s : JsString) : Option (ℚ × JsString) :=
  match s with
  | c :: rest =>
    if c = 'e' ∨ c = 'E' then
      match rest with
      | '-' :: rest => do
        let (digits, rest) ← readDigits rest
        return ((1 / 10 : ℚ) ^ Nat.ofDigitChars 10 digits 0, rest)
      | _ => do
        let (digits, rest) ← readDigits (if rest.head? = some '+' then rest.drop 1 else rest)
        return ((10 : ℚ) ^ Nat.ofDigitChars 10 digits 0, rest)
    else some (1, s)
  | [] => some (1, s)

def readNumber (s : JsString) : Option (ℚ × JsString) := do
  let negative := s.head? = some '-'
  let (digits, rest) ← readDigits (if negative then s.drop 1 else s)
  if digits.head? = some '0' ∧ 1 < digits.length then none
  else
    let (fraction, rest) ← readFraction rest
    let (scale, rest) ← readExponent rest
    let q := ((Nat.ofDigitChars 10 digits 0 : ℚ) + fraction) * scale
    return (if negative then -q else q, rest)

/-- `null`, `true` and `false`. -/
def readWord (s : JsString) : Option (Value × JsString) :=
  if "null".toList.isPrefixOf s then some (.null, s.drop 4)
  else if "true".toList.isPrefixOf s then some (.bool true, s.drop 4)
  else if "false".toList.isPrefixOf s then some (.bool false, s.drop 5)
  else none

def leftBrace : Char := Char.ofNat 123
def rightBrace : Char := Char.ofNat 125

mutual

/-- One value; the fuel bounds the text that is read. -/
def readValue : ℕ → JsString → Option (Value × JsString)
  | 0, _ => none
  | n + 1, s =>
    match skipSpace s with
    | [] => none
    | c :: rest =>
      if c = '"' then (readChars n rest).map fun p => (.text p.1, p.2)
      else if c = '[' then
        if (skipSpace rest).head? = some ']' then some (.array [], (skipSpace rest).drop 1)
        else (readItems n rest).map fun p => (.array p.1, p.2)
      else if c = leftBrace then
        if (skipSpace rest).head? = some rightBrace then some (.object [], (skipSpace rest).drop 1)
        else (readFields n rest).map fun p => (.object p.1, p.2)
      else if c.isDigit ∨ c = '-' then (readNumber (c :: rest)).map fun p => (.number p.1, p.2)
      else readWord (c :: rest)

/-- The items of an array up to its bracket. -/
def readItems : ℕ → JsString → Option (List Value × JsString)
  | 0, _ => none
  | n + 1, s => do
    let (v, rest) ← readValue n s
    match skipSpace rest with
    | ',' :: rest => (readItems n rest).map fun p => (v :: p.1, p.2)
    | ']' :: rest => some ([v], rest)
    | _ => none

/-- The fields of an object up to its brace. -/
def readFields : ℕ → JsString → Option (List (JsString × Value) × JsString)
  | 0, _ => none
  | n + 1, s =>
    match skipSpace s with
    | '"' :: rest => do
      let (key, rest) ← readChars n rest
      match skipSpace rest with
      | ':' :: rest => do
        let (v, rest) ← readValue n rest
        match skipSpace rest with
        | ',' :: rest => (readFields n rest).map fun p => ((key, v) :: p.1, p.2)
        | c :: rest => if c = rightBrace then some ([(key, v)], rest) else none
        | [] => none
      | _ => none
    | _ => none

end

/-- `JSON.parse(text)`. -/
def parse (text : JsString) : Option Value := do
  let (v, rest) ← readValue (text.length + 1) text
  if skipSpace rest = [] then some v else none

/-! ### Writing -/

/-- `JSON.stringify(s)` of a string. -/
def quote (s : JsString) : JsString := '"' :: (s.flatMap Json.escapeChar ++ ['"'])

/-- `JSON.stringify(n)` of a natural number. -/
def printNat (n : ℕ) : JsString := Nat.toDigits 10 n

/-- The items behind their indentation, with commas between them. -/
def printItems (pad : JsString) : List JsString → JsString
  | [] => []
  | [t] => pad ++ t
  | t :: ts => pad ++ t ++ ',' :: printItems pad ts

/-- An array of written items; `inner` and `outer` are the line breaks with their indentation. -/
def printArray (inner outer : JsString) (items : List JsString) : JsString :=
  if items = [] then ['[', ']'] else '[' :: (printItems inner items ++ (outer ++ [']']))

def printField (f : JsString × JsString) : JsString := quote f.1 ++ ':' :: ' ' :: f.2

def printObject (inner outer : JsString) (fields : List (JsString × JsString)) : JsString :=
  if fields = [] then [leftBrace, rightBrace]
  else leftBrace :: (printItems inner (fields.map printField) ++ (outer ++ [rightBrace]))

example : (parse "[1, \"a\\u0041\\n\", -2.5e1]".toList).isSome = true := by decide +kernel

/-! ### Reading back -/

/-- Nothing that would go on with a number. -/
def Stops (rest : JsString) : Prop :=
  ∀ c, rest.head? = some c → c.isDigit = false ∧ c ≠ '.' ∧ c ≠ 'e' ∧ c ≠ 'E'

/-- The text is read as this value, whatever follows it. -/
def Reads (text : JsString) (v : Value) : Prop :=
  ∀ n rest, text.length ≤ n → Stops rest → readValue n (text ++ rest) = some (v, rest)

/-- Only white space. -/
def Blank (pad : JsString) : Prop := ∀ c ∈ pad, isJsonSpace c = true

theorem Blank.stops {pad : JsString} (h : Blank pad) {c : Char} (hc : Stops [c]) (rest : JsString) :
    Stops (pad ++ c :: rest) := by
  intro d hd
  cases pad with
  | nil => exact hc d (by simpa using hd)
  | cons a pad =>
    have ha : isJsonSpace a = true := h a List.mem_cons_self
    obtain rfl : a = d := by simpa using hd
    simp only [isJsonSpace, Bool.or_eq_true, beq_iff_eq] at ha
    rcases ha with ((rfl | rfl) | rfl) | rfl <;> decide

theorem skipSpace_pad {pad : JsString} (h : Blank pad) (s : JsString) :
    skipSpace (pad ++ s) = skipSpace s := List.dropWhile_append_of_pos h

theorem skipSpace_cons {c : Char} (h : isJsonSpace c = false) (s : JsString) :
    skipSpace (c :: s) = c :: s := by
  simp [skipSpace, h]

theorem readValue_pad {pad : JsString} (h : Blank pad) (n : ℕ) (s : JsString) :
    readValue n (pad ++ s) = readValue n s := by
  cases n with
  | zero => simp only [readValue]
  | succ n => rw [readValue, readValue, skipSpace_pad h]

/-! #### Strings -/

theorem hexDigit_digitChar {n : ℕ} (h : n < 16) : hexDigit (Nat.digitChar n) = some n := by
  have hall : ∀ n < 16, hexDigit (Nat.digitChar n) = some n := by decide
  exact hall n h

/-- A control character is written as `\u00` and two digits. -/
theorem readUnit_control {c : Char} (h : c.toNat < 32) (rest : JsString) :
    readUnit ('0' :: '0' :: Nat.digitChar (c.toNat / 16) :: Nat.digitChar (c.toNat % 16) :: rest) =
      some (c, rest) := by
  have hzero : hexDigit '0' = some 0 := by decide
  have hhex : hex4 ('0' :: '0' :: Nat.digitChar (c.toNat / 16) :: Nat.digitChar (c.toNat % 16) :: rest) =
      some (c.toNat, rest) := by
    have hvalue : ((0 * 16 + 0) * 16 + c.toNat / 16) * 16 + c.toNat % 16 = c.toNat := by omega
    rw [hex4, hzero, hexDigit_digitChar (by omega), hexDigit_digitChar (Nat.mod_lt _ (by decide))]
    exact congrArg (fun n => some (n, rest)) hvalue
  have hlow : ¬(0xd800 ≤ c.toNat ∧ c.toNat < 0xdc00) := by omega
  have hhigh : ¬(0xdc00 ≤ c.toNat ∧ c.toNat < 0xe000) := by omega
  rw [readUnit, hhex]
  simp only [Option.bind_eq_bind, Option.bind_some, if_neg hlow, if_neg hhigh, Char.ofNat_toNat]
  rfl

/-- A character is written as itself or as an escape that reads as it. -/
theorem escapeChar_cases (c : Char) :
    (Json.escapeChar c = [c] ∧ c ≠ '"' ∧ c ≠ '\\' ∧ ¬c.toNat < 0x20) ∨
      ∃ e, Json.escapeChar c = '\\' :: e ∧ ∀ rest, readEscape (e ++ rest) = some (c, rest) := by
  have heq : ∀ {n : ℕ} {d : Char}, (c.toNat == n) = true → d.toNat = n → c = d := fun h h' =>
    Char.toNat_inj.1 ((eq_of_beq h).trans h'.symm)
  unfold Json.escapeChar
  split_ifs with h1 h2 h3 h4 h5 h6 h7 h8
  · exact .inr ⟨['"'], rfl, fun rest => by rw [eq_of_beq h1]; rfl⟩
  · exact .inr ⟨['\\'], rfl, fun rest => by rw [eq_of_beq h2]; rfl⟩
  · exact .inr ⟨['b'], rfl, fun rest => by rw [heq (d := Char.ofNat 8) h3 rfl]; rfl⟩
  · exact .inr ⟨['t'], rfl, fun rest => by rw [heq (d := '\t') h4 rfl]; rfl⟩
  · exact .inr ⟨['n'], rfl, fun rest => by rw [heq (d := '\n') h5 rfl]; rfl⟩
  · exact .inr ⟨['f'], rfl, fun rest => by rw [heq (d := Char.ofNat 12) h6 rfl]; rfl⟩
  · exact .inr ⟨['r'], rfl, fun rest => by rw [heq (d := '\r') h7 rfl]; rfl⟩
  · exact .inr ⟨_, rfl, fun rest => readUnit_control h8 rest⟩
  · exact .inl ⟨rfl, by simpa using h1, by simpa using h2, h8⟩

/-- **A written string is read back.** -/
theorem readChars_escape (s : JsString) {n : ℕ} (h : s.length < n) (rest : JsString) :
    readChars n (s.flatMap Json.escapeChar ++ '"' :: rest) = some (s, rest) := by
  induction s generalizing n with
  | nil =>
    obtain ⟨n, rfl⟩ : ∃ m, n = m + 1 := ⟨n - 1, by simp at h; omega⟩
    rfl
  | cons c s ih =>
    rw [List.length_cons] at h
    obtain ⟨n, rfl⟩ : ∃ m, n = m + 1 := ⟨n - 1, by omega⟩
    have hrec := ih (n := n) (by omega)
    rw [List.flatMap_cons, List.append_assoc]
    rcases escapeChar_cases c with ⟨he, hq, hb, hc⟩ | ⟨e, he, hread⟩
    · rw [he, List.singleton_append, readChars, if_neg hq, if_neg hb, if_neg hc, hrec]
      rfl
    · rw [he, List.cons_append, readChars, if_neg (by decide), if_pos rfl, hread]
      simp only [Option.bind_eq_bind, Option.bind_some, hrec]
      rfl

theorem length_flatMap_escape (s : JsString) : s.length ≤ (s.flatMap Json.escapeChar).length := by
  induction s with
  | nil => exact Nat.le_refl 0
  | cons c s ih =>
    have hc : 1 ≤ (Json.escapeChar c).length := by
      rcases escapeChar_cases c with ⟨he, -⟩ | ⟨e, he, -⟩ <;> simp [he]
    rw [List.flatMap_cons, List.length_append, List.length_cons]
    omega

/-- A quoted string, read behind its opening quote. -/
theorem readChars_quote (s : JsString) {n : ℕ} (h : (quote s).length ≤ n + 1) (rest : JsString) :
    ∃ body, quote s = '"' :: body ∧ readChars n (body ++ rest) = some (s, rest) := by
  have hlen := length_flatMap_escape s
  rw [quote, List.length_cons, List.length_append, List.length_singleton] at h
  refine ⟨_, rfl, ?_⟩
  rw [List.append_assoc]
  exact readChars_escape s (by omega) rest

theorem Reads.quote (s : JsString) : Reads (quote s) (.text s) := by
  intro n rest hn _
  obtain ⟨n, rfl⟩ : ∃ m, n = m + 1 := ⟨n - 1, by simp [JsonText.quote] at hn; omega⟩
  obtain ⟨body, hbody, hread⟩ := readChars_quote s hn rest
  rw [hbody, List.cons_append, readValue, skipSpace_cons (by decide)]
  simp only [if_true, hread, Option.map_some]

/-! #### Numbers -/

theorem toDigits_head {n : ℕ} (h : 0 < n) : (Nat.toDigits 10 n).head? ≠ some '0' := by
  induction n using Nat.strong_induction_on with
  | _ n ih =>
    by_cases hn : n < 10
    · rw [Nat.toDigits_of_lt_base hn]
      simp; omega
    · rw [Nat.toDigits_of_base_le (by decide) (by omega), List.head?_append_of_ne_nil _ Nat.toDigits_ne_nil]
      exact ih (n / 10) (by omega) (by omega)

theorem readDigits_append {digits rest : JsString} (hne : digits ≠ []) (h : ∀ c ∈ digits, c.isDigit = true)
    (hstop : Stops rest) : readDigits (digits ++ rest) = some (digits, rest) := by
  have hstop' : rest.takeWhile Char.isDigit = [] ∧ rest.dropWhile Char.isDigit = rest := by
    cases rest with
    | nil => exact ⟨rfl, rfl⟩
    | cons c rest => simp [(hstop c rfl).1]
  unfold readDigits
  rw [List.takeWhile_append_of_pos h, List.dropWhile_append_of_pos h, hstop'.1, hstop'.2,
    List.append_nil, if_neg hne]

theorem Reads.nat (k : ℕ) : Reads (printNat k) (.number k) := by
  intro n rest hn hstop
  have hdigits : ∀ c ∈ Nat.toDigits 10 k, c.isDigit = true := fun c hc =>
    Nat.isDigit_of_mem_toDigits (by decide) (by decide) hc
  obtain ⟨c, cs, hcs⟩ := List.exists_cons_of_ne_nil (Nat.toDigits_ne_nil (n := k) (b := 10))
  have hc : c.isDigit = true := hdigits c (by rw [hcs]; exact List.mem_cons_self)
  have hminus : ¬(c :: (cs ++ rest)).head? = some '-' := by
    rintro h
    obtain rfl : c = '-' := by simpa using h
    exact absurd hc (by decide)
  have hzero : ¬((Nat.toDigits 10 k).head? = some '0' ∧ 1 < (Nat.toDigits 10 k).length) := by
    rintro ⟨h, hlen⟩
    rcases Nat.eq_zero_or_pos k with rfl | hk
    · rw [Nat.toDigits_zero] at hlen; simp at hlen
    · exact toDigits_head hk h
  have hfraction : readFraction rest = some (0, rest) := by
    unfold readFraction
    split
    · next r => exact absurd rfl (hstop '.' rfl).2.1
    · rfl
  have hexponent : readExponent rest = some (1, rest) := by
    unfold readExponent
    split
    · next d r =>
      have hd := (hstop d rfl).2.2
      rw [if_neg (not_or.2 hd)]
    · rfl
  have hnumber : readNumber (c :: (cs ++ rest)) = some ((k : ℚ), rest) := by
    have hread := readDigits_append (Nat.toDigits_ne_nil (n := k) (b := 10)) hdigits hstop
    rw [hcs, List.cons_append, ← hcs] at hread
    have hof : (Nat.ofDigitChars 10 (Nat.toDigits 10 k) 0 : ℚ) = k := by
      rw [Nat.ofDigitChars_toDigits (by decide) (by decide)]
    unfold readNumber
    simp only [hminus, if_false, hread, Option.bind_eq_bind,
      Option.bind_some, if_neg hzero, hfraction, hexponent, hof, add_zero, mul_one]
    rfl
  obtain ⟨n, rfl⟩ : ∃ m, n = m + 1 := ⟨n - 1, by rw [printNat, hcs, List.length_cons] at hn; omega⟩
  have hne : ∀ d : Char, d.isDigit = false → c ≠ d := by
    rintro d hd rfl
    rw [hc] at hd
    cases hd
  have hspace : isJsonSpace c = false := by
    simp [isJsonSpace, hne ' ' (by decide), hne '\n' (by decide), hne '\r' (by decide),
      hne '\t' (by decide)]
  rw [printNat, hcs, List.cons_append, readValue, skipSpace_cons hspace]
  simp only [if_neg (hne '"' (by decide)), if_neg (hne '[' (by decide)),
    if_neg (hne leftBrace (by decide)), if_pos (Or.inl hc), hnumber, Option.map_some]

/-! #### Arrays and objects -/

variable {inner outer : JsString}

theorem printItems_cons (t : JsString) {ts : List JsString} (h : ts ≠ []) :
    printItems inner (t :: ts) = inner ++ t ++ ',' :: printItems inner ts := by
  obtain ⟨t', ts, rfl⟩ := List.exists_cons_of_ne_nil h
  rfl

theorem stops_of {c : Char} {r : JsString}
    (h : c.isDigit = false ∧ c ≠ '.' ∧ c ≠ 'e' ∧ c ≠ 'E') : Stops (c :: r) := by
  intro d hd
  obtain rfl : c = d := by simpa using hd
  exact h

theorem readItems_print (hinner : Blank inner) (houter : Blank outer) {ts : List JsString}
    {vs : List Value} (h : List.Forall₂ Reads ts vs) (hne : ts ≠ []) {n : ℕ}
    (hn : (printItems inner ts).length < n) (rest : JsString) :
    readItems n (printItems inner ts ++ (outer ++ ']' :: rest)) = some (vs, rest) := by
  induction h generalizing n with
  | nil => exact absurd rfl hne
  | @cons t v ts vs ht hts ih =>
    obtain ⟨n, rfl⟩ : ∃ m, n = m + 1 := ⟨n - 1, by omega⟩
    by_cases hnil : ts = []
    · subst hnil
      obtain rfl := List.forall₂_nil_left_iff.1 hts
      rw [printItems, List.length_append] at hn
      have hread := ht n (outer ++ ']' :: rest) (by omega) (houter.stops (stops_of (by decide)) rest)
      rw [printItems, readItems, List.append_assoc, readValue_pad hinner, hread]
      simp only [Option.bind_eq_bind, Option.bind_some]
      rw [skipSpace_pad houter, skipSpace_cons (by decide)]
      rfl
    · rw [printItems_cons t hnil, List.length_append, List.length_append, List.length_cons] at hn
      have hread := ht n (',' :: (printItems inner ts ++ (outer ++ ']' :: rest))) (by omega)
        (stops_of (by decide))
      rw [printItems_cons t hnil, readItems, List.append_assoc, List.append_assoc,
        readValue_pad hinner, List.cons_append, hread]
      simp only [Option.bind_eq_bind, Option.bind_some]
      rw [skipSpace_cons (by decide)]
      simp only [ih hnil (n := n) (by omega), Option.map_some]

/-- What is read as a value begins with a character that closes nothing. -/
theorem Reads.head {t : JsString} {v : Value} (h : Reads t v) :
    ∃ c rest, skipSpace t = c :: rest ∧ c ≠ ']' ∧ c ≠ rightBrace := by
  have hread := h (t.length + 1) [] (Nat.le_succ _) (fun c hc => by cases hc)
  rw [List.append_nil, readValue] at hread
  cases hs : skipSpace t with
  | nil => rw [hs] at hread; cases hread
  | cons c rest =>
    rw [hs] at hread
    refine ⟨c, rest, rfl, ?_, ?_⟩
    · rintro rfl
      have hnone : readWord (']' :: rest) = none := rfl
      simp [leftBrace, hnone] at hread
    · rintro rfl
      have hnone : readWord (Char.ofNat 125 :: rest) = none := rfl
      simp [leftBrace, rightBrace, hnone] at hread

theorem skipSpace_head {pad t : JsString} (hpad : Blank pad) {c : Char} {rest : JsString}
    (h : skipSpace t = c :: rest) (s : JsString) : skipSpace (pad ++ t ++ s) = c :: (rest ++ s) := by
  rw [List.append_assoc, skipSpace_pad hpad]
  unfold skipSpace at h ⊢
  rw [List.dropWhile_append, h]
  rfl

/-- **A written array is read back.** -/
theorem Reads.array (hinner : Blank inner) (houter : Blank outer) {ts : List JsString} {vs : List Value}
    (h : List.Forall₂ Reads ts vs) : Reads (printArray inner outer ts) (.array vs) := by
  intro n rest hn _
  by_cases hne : ts = []
  · subst hne
    obtain rfl := List.forall₂_nil_left_iff.1 h
    obtain ⟨n, rfl⟩ : ∃ m, n = m + 1 := ⟨n - 1, by simp [printArray] at hn; omega⟩
    rw [printArray, if_pos rfl, List.cons_append, readValue, skipSpace_cons (by decide)]
    rfl
  · rw [printArray, if_neg hne] at hn ⊢
    rw [List.length_cons, List.length_append, List.length_append, List.length_singleton] at hn
    obtain ⟨n, rfl⟩ : ∃ m, n = m + 1 := ⟨n - 1, by omega⟩
    have hitems := readItems_print hinner houter h hne (n := n) (by omega) rest
    have hopen : ¬(skipSpace (printItems inner ts ++ (outer ++ ']' :: rest))).head? = some ']' := by
      cases h with
      | nil => exact absurd rfl hne
      | @cons t v ts vs ht hts =>
        obtain ⟨c, t', hskip, hc, -⟩ := ht.head
        obtain ⟨s, hs⟩ : ∃ s, printItems inner (t :: ts) = inner ++ t ++ s := by
          by_cases hnil : ts = []
          · exact ⟨[], by rw [hnil, printItems, List.append_nil]⟩
          · exact ⟨_, printItems_cons t hnil⟩
        rw [hs, List.append_assoc, skipSpace_head hinner hskip]
        simpa using hc
    rw [List.cons_append, readValue, skipSpace_cons (by decide), List.append_assoc, List.append_assoc,
      List.singleton_append]
    simp only [show ('[' : Char) ≠ '"' by decide, if_false, if_true, if_neg hopen, hitems, Option.map_some]

/-- A written field: the key, and the value behind the colon. -/
theorem read_field (hinner : Blank inner) (key : JsString) {t : JsString} {v : Value} (ht : Reads t v) {n : ℕ}
    (hn : (printField (key, t)).length ≤ n) {tail : JsString} (hstop : Stops tail) :
    ∃ body, skipSpace (inner ++ (printField (key, t) ++ tail)) = '"' :: body ∧
      readChars n body = some (key, ':' :: ' ' :: (t ++ tail)) ∧
      readValue n (' ' :: (t ++ tail)) = some (v, tail) := by
  have hlen : (quote key).length + (t.length + 2) ≤ n := by
    simpa [printField] using hn
  obtain ⟨body, hbody, hread⟩ := readChars_quote key (n := n) (by omega) (':' :: ' ' :: (t ++ tail))
  refine ⟨_, ?_, hread, ?_⟩
  · rw [skipSpace_pad hinner, printField, hbody, List.cons_append, List.cons_append, List.append_assoc]
    exact skipSpace_cons (by decide) _
  · have hblank : Blank [' '] := by simp [Blank, isJsonSpace]
    have hpad := readValue_pad hblank n (t ++ tail)
    rw [List.singleton_append] at hpad
    rw [hpad]
    exact ht n tail (by omega) hstop

theorem readFields_print (hinner : Blank inner) (houter : Blank outer) {fs : List (JsString × JsString)}
    {vs : List (JsString × Value)} (h : List.Forall₂ (fun f g => f.1 = g.1 ∧ Reads f.2 g.2) fs vs)
    (hne : fs ≠ []) {n : ℕ} (hn : (printItems inner (fs.map printField)).length < n) (rest : JsString) :
    readFields n (printItems inner (fs.map printField) ++ (outer ++ rightBrace :: rest)) = some (vs, rest) := by
  induction h generalizing n with
  | nil => exact absurd rfl hne
  | @cons f g fs vs hf hfs ih =>
    obtain ⟨key, t⟩ := f
    obtain ⟨key', v⟩ := g
    obtain ⟨rfl, ht⟩ : key = key' ∧ Reads t v := hf
    obtain ⟨n, rfl⟩ : ∃ m, n = m + 1 := ⟨n - 1, by omega⟩
    by_cases hnil : fs = []
    · subst hnil
      obtain rfl := List.forall₂_nil_left_iff.1 hfs
      rw [List.map_cons, List.map_nil, printItems, List.length_append] at hn
      obtain ⟨body, hbody, hkey, hvalue⟩ := read_field hinner key ht (n := n) (by omega)
        (houter.stops (c := rightBrace) (stops_of (by decide)) rest)
      rw [List.map_cons, List.map_nil, printItems, readFields, List.append_assoc, hbody]
      simp only [hkey, Option.bind_eq_bind, Option.bind_some]
      rw [skipSpace_cons (by decide)]
      simp only [hvalue, Option.bind_some]
      rw [skipSpace_pad houter, skipSpace_cons (by decide)]
      rfl
    · have hmap : fs.map printField ≠ [] := by simpa using hnil
      rw [List.map_cons, printItems_cons _ hmap, List.length_append, List.length_append,
        List.length_cons] at hn
      obtain ⟨body, hbody, hkey, hvalue⟩ := read_field hinner key ht (n := n) (by omega)
        (stops_of (c := ',') (r := printItems inner (fs.map printField) ++ (outer ++ rightBrace :: rest))
          (by decide))
      rw [List.map_cons, printItems_cons _ hmap, readFields, List.append_assoc, List.append_assoc,
        List.cons_append, hbody]
      simp only [hkey, Option.bind_eq_bind, Option.bind_some]
      rw [skipSpace_cons (by decide)]
      simp only [hvalue, Option.bind_some]
      rw [skipSpace_cons (by decide)]
      simp only [ih hnil (n := n) (by omega), Option.map_some]

/-- **A written object is read back.** -/
theorem Reads.object (hinner : Blank inner) (houter : Blank outer) {fs : List (JsString × JsString)}
    {vs : List (JsString × Value)} (h : List.Forall₂ (fun f g => f.1 = g.1 ∧ Reads f.2 g.2) fs vs) :
    Reads (printObject inner outer fs) (.object vs) := by
  intro n rest hn _
  by_cases hne : fs = []
  · subst hne
    obtain rfl := List.forall₂_nil_left_iff.1 h
    obtain ⟨n, rfl⟩ : ∃ m, n = m + 1 := ⟨n - 1, by simp [printObject] at hn; omega⟩
    rw [printObject, if_pos rfl, List.cons_append, readValue, skipSpace_cons (by decide)]
    rfl
  · rw [printObject, if_neg hne] at hn ⊢
    rw [List.length_cons, List.length_append, List.length_append, List.length_singleton] at hn
    obtain ⟨n, rfl⟩ : ∃ m, n = m + 1 := ⟨n - 1, by omega⟩
    have hfields := readFields_print hinner houter h hne (n := n) (by omega) rest
    have hopen : ¬(skipSpace (printItems inner (fs.map printField) ++ (outer ++ rightBrace :: rest))).head? =
        some rightBrace := by
      cases h with
      | nil => exact absurd rfl hne
      | @cons f g fs vs hf hfs =>
        have hquote : skipSpace (printField f) = '"' :: (f.1.flatMap Json.escapeChar ++ ['"'] ++ ':' :: ' ' :: f.2) :=
          skipSpace_cons (by decide) _
        obtain ⟨s, hs⟩ : ∃ s, printItems inner ((f :: fs).map printField) = inner ++ printField f ++ s := by
          by_cases hnil : fs = []
          · exact ⟨[], by rw [hnil, List.map_cons, List.map_nil, printItems, List.append_nil]⟩
          · exact ⟨_, printItems_cons _ (by simpa using hnil)⟩
        rw [hs, List.append_assoc, skipSpace_head hinner hquote]
        simp [rightBrace]
    rw [List.cons_append, readValue, skipSpace_cons (by decide), List.append_assoc, List.append_assoc,
      List.singleton_append]
    simp only [show leftBrace ≠ '"' by decide, show leftBrace ≠ '[' by decide, if_false, if_true,
      if_neg hopen, hfields, Option.map_some]

/-- **`JSON.parse` returns the value that was written**, white space behind it or not. -/
theorem Reads.parse {t : JsString} {v : Value} (h : Reads t v) {pad : JsString} (hpad : Blank pad)
    (hstop : Stops pad) : JsonText.parse (t ++ pad) = some v := by
  have hread := h ((t ++ pad).length + 1) pad (by rw [List.length_append]; omega) hstop
  have hend : skipSpace pad = [] := by
    have := skipSpace_pad hpad []
    rwa [List.append_nil] at this
  unfold JsonText.parse
  rw [hread]
  simp only [Option.bind_eq_bind, Option.bind_some, hend, if_true]

end OfflineWebArchiver.JsonText
