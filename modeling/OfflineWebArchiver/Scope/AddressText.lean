import OfflineWebArchiver.Scope.Host

/-!
# The texts of addresses

What an IPv4 and an IPv6 address look like, and what the parsers of the scope engine read as one.

* `IsDotted`, `Ipv6Raw`: dotted texts, by their octets, and IPv6 texts, by their two sides.
* `Ipv6Text`: the valid IPv6 texts, whose dotted part is the last one.
* `ipv4Bytes_iff`, `ipv6Words_iff`: **the parsers read the loose texts**, which have leading zeros
  in their octets and dotted parts anywhere.
-/

namespace OfflineWebArchiver.Scope

/-- The parts, separated by a character. -/
def joinWith (separator : Char) (parts : List JsString) : JsString := [separator].intercalate parts

/-! ### Dotted texts -/

/-- An octet with up to three digits. -/
structure LooseOctet (part : JsString) : Prop where
  ne_nil : part ≠ []
  short : part.length ≤ 3
  digits : part.all Char.isDigit = true
  small : decimal part ≤ 255

/-- An octet has no leading zero. -/
structure Octet (part : JsString) : Prop extends LooseOctet part where
  unpadded : part.length = 1 ∨ part.head? ≠ some '0'

/-- Four octets between dots, and the bytes that they write. -/
def IsDotted (octet : JsString → Prop) (text : JsString) (bytes : List ℕ) : Prop :=
  ∃ parts, text = joinWith '.' parts ∧ parts.length = 4 ∧ (∀ part ∈ parts, octet part) ∧ bytes = parts.map decimal

theorem LooseOctet.noDot {part : JsString} (h : LooseOctet part) : '.' ∉ part := by
  intro hdot
  have hdigit := List.all_eq_true.1 h.digits '.' hdot
  exact absurd hdigit (by decide)

theorem splitOn_joinWith {separator : Char} {parts : List JsString} (hne : parts ≠ [])
    (h : ∀ part ∈ parts, separator ∉ part) : (joinWith separator parts).splitOn separator = parts :=
  List.splitOn_intercalate separator h hne

theorem joinWith_cons_cons {separator : Char} {part next : JsString} {parts : List JsString} :
    joinWith separator (part :: next :: parts) = part ++ separator :: joinWith separator (next :: parts) := rfl

theorem joinWith_append {separator : Char} {left right : List JsString} (hleft : left ≠ []) (hright : right ≠ []) :
    joinWith separator (left ++ right) = joinWith separator left ++ separator :: joinWith separator right := by
  induction left with
  | nil => exact absurd rfl hleft
  | cons part parts ih =>
    cases parts with
    | nil =>
      obtain ⟨next, rest, rfl⟩ := List.exists_cons_of_ne_nil hright
      simp [joinWith]
    | cons next parts =>
      rw [List.cons_append, List.cons_append, joinWith_cons_cons, ← List.cons_append, ih (List.cons_ne_nil _ _),
        joinWith_cons_cons, List.append_assoc, List.cons_append]

theorem joinWith_splitOn (separator : Char) (text : JsString) : joinWith separator (text.splitOn separator) = text :=
  List.intercalate_splitOn separator

theorem mem_joinWith {separator c : Char} {parts : List JsString} (h : c ∈ joinWith separator parts) :
    c = separator ∨ ∃ part ∈ parts, c ∈ part := by
  induction parts with
  | nil => cases h
  | cons part parts ih =>
    cases parts with
    | nil => exact .inr ⟨part, List.mem_singleton_self _, by simpa [joinWith] using h⟩
    | cons next parts =>
      rw [joinWith_cons_cons, List.mem_append, List.mem_cons] at h
      rcases h with h | h | h
      · exact .inr ⟨part, List.mem_cons_self, h⟩
      · exact .inl h
      · rcases ih h with h | ⟨other, hother, hc⟩
        · exact .inl h
        · exact .inr ⟨other, List.mem_cons_of_mem _ hother, hc⟩

/-- The bytes of a dotted text are four small numbers. -/
theorem IsDotted.length {octet : JsString → Prop} {text : JsString} {bytes : List ℕ} (h : IsDotted octet text bytes) :
    bytes.length = 4 := by
  obtain ⟨parts, -, hlength, -, rfl⟩ := h
  rw [List.length_map, hlength]

/-- **`ipv4Bytes` reads the loose dotted texts.** -/
theorem ipv4Bytes_iff {text : JsString} {bytes : List ℕ} :
    ipv4Bytes text = some bytes ↔ IsDotted LooseOctet text bytes := by
  unfold ipv4Bytes
  simp only
  constructor
  · intro h
    split_ifs at h with hshape hsmall
    rw [not_or, not_not, Bool.not_eq_true, List.any_eq_false] at hshape
    refine ⟨text.splitOn '.', (joinWith_splitOn '.' text).symm, hshape.1, fun part hpart => ?_, (Option.some.inj h).symm⟩
    have hpartShape := hshape.2 part hpart
    simp only [decide_eq_true_eq, not_or, Nat.not_lt, Bool.not_eq_eq_eq_not, Bool.not_true,
      Bool.not_eq_false] at hpartShape
    exact ⟨hpartShape.1, hpartShape.2.1, hpartShape.2.2, by simpa using List.all_eq_true.1 hsmall part hpart⟩
  · rintro ⟨parts, rfl, hlength, hoctets, rfl⟩
    have hne : parts ≠ [] := by
      rintro rfl
      cases hlength
    rw [splitOn_joinWith hne fun part hpart => (hoctets part hpart).noDot, if_neg, if_pos]
    · rw [List.all_eq_true]
      exact fun part hpart => decide_eq_true (hoctets part hpart).small
    · rw [not_or, not_not, Bool.not_eq_true, List.any_eq_false]
      refine ⟨hlength, fun part hpart => ?_⟩
      have h := hoctets part hpart
      simp [h.ne_nil, h.short, h.digits]

/-! ### IPv6 texts -/

/-- One to four hexadecimal digits. -/
structure IsGroup (part : JsString) : Prop where
  ne_nil : part ≠ []
  short : part.length ≤ 4
  digits : ∀ c ∈ part, (hexDigit c).isSome = true

/-- The number that hexadecimal digits write. -/
def groupValue (part : JsString) : ℕ := part.foldl (fun n c => 16 * n + (hexDigit c).getD 0) 0

/-- A side of groups, with its words. -/
inductive HexSide : List JsString → List ℕ → Prop
  | nil : HexSide [] []
  | group {part parts words} : IsGroup part → HexSide parts words → HexSide (part :: parts) (groupValue part :: words)

/-- A side of groups whose last part may be dotted. -/
inductive Side : List JsString → List ℕ → Prop
  | nil : Side [] []
  | group {part parts words} : IsGroup part → Side parts words → Side (part :: parts) (groupValue part :: words)
  | dotted {part a b c d} : IsDotted Octet part [a, b, c, d] → Side [part] [a * 256 + b, c * 256 + d]

/-- A side of groups and dotted parts in any order. -/
inductive LooseSide : List JsString → List ℕ → Prop
  | nil : LooseSide [] []
  | group {part parts words} : IsGroup part → LooseSide parts words → LooseSide (part :: parts) (groupValue part :: words)
  | dotted {part parts words a b c d} : IsDotted LooseOctet part [a, b, c, d] → LooseSide parts words →
      LooseSide (part :: parts) ((a * 256 + b) :: (c * 256 + d) :: words)

/-- An IPv6 text without its zone: eight words, or two sides with `::` for the zeros between. -/
inductive Ipv6Raw (front back : List JsString → List ℕ → Prop) : JsString → List ℕ → Prop
  | full {parts words} : back parts words → words.length = 8 → Ipv6Raw front back (joinWith ':' parts) words
  | compressed {left before right after} : front left before → back right after → before.length + after.length < 8 →
      Ipv6Raw front back (joinWith ':' left ++ ':' :: ':' :: joinWith ':' right)
        (before ++ List.replicate (8 - before.length - after.length) 0 ++ after)

/-- The text without its zone. -/
def withoutZone (text : JsString) : JsString := text.takeWhile (· != '%')

/-- **The valid IPv6 texts** and their words. -/
def Ipv6Text (text : JsString) (words : List ℕ) : Prop := Ipv6Raw HexSide Side (withoutZone text) words

/-- The texts that are read as IPv6 addresses, and their words. -/
abbrev LooseIpv6 (raw : JsString) (words : List ℕ) : Prop := Ipv6Raw LooseSide LooseSide raw words

/-- The characters of IPv6 texts. -/
def isIpv6Char (c : Char) : Bool := (hexDigit c).isSome || c == ':' || c == '.'

theorem IsGroup.plain {part : JsString} (h : IsGroup part) : ':' ∉ part ∧ '.' ∉ part :=
  ⟨fun hc => absurd (h.digits ':' hc) (by decide), fun hc => absurd (h.digits '.' hc) (by decide)⟩

theorem hexDigit_of_isDigit {c : Char} (h : c.isDigit = true) : (hexDigit c).isSome = true := by
  unfold hexDigit
  unfold Char.isDigit at h
  rw [if_pos]
  · rfl
  · simpa [Char.le_def] using h

/-! ### Lower case -/

/-- `toLower` changes only the letters from `A` to `Z`. -/
theorem toLower_fixed_or (c : Char) : c.toLower = c ∨ c ∈ "ABCDEFGHIJKLMNOPQRSTUVWXYZ".toList := by
  by_cases h : 65 ≤ c.toNat ∧ c.toNat ≤ 90
  · obtain ⟨hlow, hhigh⟩ := h
    refine .inr ?_
    have hval : c = Char.ofNat c.toNat := (Char.ofNat_toNat c).symm
    rw [hval]
    interval_cases c.toNat <;> decide
  · refine .inl ?_
    unfold Char.toLower
    rw [dif_neg]
    simpa [UInt32.le_iff_toNat_le] using h

theorem toLower_letter {c : Char} (h : 'A' ≤ c ∧ c ≤ 'Z') : c.toLower.toNat = c.toNat + 32 := by
  have hlow : 65 ≤ c.toNat := UInt32.le_iff_toNat_le.1 h.1
  have hhigh : c.toNat ≤ 90 := UInt32.le_iff_toNat_le.1 h.2
  have hval : c = Char.ofNat c.toNat := (Char.ofNat_toNat c).symm
  rw [hval]
  interval_cases c.toNat <;> rfl

/-- What does not tell the two cases of a letter apart. -/
theorem toLower_reads (c : Char) : hexDigit c.toLower = hexDigit c ∧ c.toLower.isDigit = c.isDigit ∧
    (c.toLower = ':' ↔ c = ':') ∧ (c.toLower = '.' ↔ c = '.') ∧
    (c.toLower.isDigit || ('a' ≤ c.toLower && c.toLower ≤ 'f')) = (hexDigit c).isSome := by
  rcases toLower_fixed_or c with h | h
  · rw [h]
    refine ⟨rfl, rfl, Iff.rfl, Iff.rfl, ?_⟩
    have hupper : ¬('A' ≤ c ∧ c ≤ 'F') := by
      intro hletter
      have hmoved : c.toLower.toNat = c.toNat + 32 := by
        exact toLower_letter ⟨hletter.1, Char.le_trans hletter.2 (by decide)⟩
      rw [h] at hmoved
      omega
    unfold hexDigit Char.isDigit
    simp only [if_neg hupper]
    split_ifs with hdigit hlower
    · simpa [Char.le_def] using .inl hdigit
    · simp [hlower]
    · simp only [Option.isSome_none, Bool.or_eq_false_iff, Bool.and_eq_false_iff, decide_eq_false_iff_not]
      rw [not_and_or] at hdigit hlower
      exact ⟨hdigit, hlower⟩
  · have hall : ("ABCDEFGHIJKLMNOPQRSTUVWXYZ".toList.all fun c => decide (hexDigit c.toLower = hexDigit c) &&
        decide (c.toLower.isDigit = c.isDigit) && decide (c.toLower = ':' ↔ c = ':') &&
        decide (c.toLower = '.' ↔ c = '.') &&
        decide ((c.toLower.isDigit || ('a' ≤ c.toLower && c.toLower ≤ 'f')) = (hexDigit c).isSome)) = true := by decide
    have hfound := List.all_eq_true.1 hall c h
    simpa [and_assoc] using hfound

/-- The characters of a dotted text are digits and dots. -/
theorem IsDotted.chars {octet : JsString → Prop} (hoctet : ∀ {part}, octet part → LooseOctet part) {text : JsString}
    {bytes : List ℕ} (h : IsDotted octet text bytes) : ∀ c ∈ text, c.isDigit = true ∨ c = '.' := by
  obtain ⟨parts, rfl, -, hoctets, -⟩ := h
  intro c hc
  rcases mem_joinWith hc with rfl | ⟨part, hpart, hc⟩
  · exact .inr rfl
  · exact .inl (List.all_eq_true.1 (hoctet (hoctets part hpart)).digits c hc)

theorem IsDotted.dot {octet : JsString → Prop} {text : JsString} {bytes : List ℕ} (h : IsDotted octet text bytes) :
    '.' ∈ text := by
  obtain ⟨parts, rfl, hlength, -, -⟩ := h
  match parts, hlength with
  | first :: next :: rest, _ =>
    rw [joinWith_cons_cons]
    simp

/-- Digits and dots are in lower case. -/
theorem map_toLower_plain {text : JsString} (h : ∀ c ∈ text.map Char.toLower, c.isDigit = true ∨ c = '.') :
    text.map Char.toLower = text := by
  refine (List.map_congr_left fun c hc => ?_).trans (List.map_id text)
  rcases toLower_fixed_or c with hfixed | hletter
  · exact hfixed
  · have hall : ("ABCDEFGHIJKLMNOPQRSTUVWXYZ".toList.all fun c =>
        !(c.toLower.isDigit || c.toLower == '.')) = true := by decide
    have hfound := List.all_eq_true.1 hall c hletter
    have hplain := h c.toLower (List.mem_map_of_mem hc)
    simp only [Bool.not_eq_true', Bool.or_eq_false_iff, beq_eq_false_iff_ne] at hfound
    rcases hplain with hdigit | hdot
    · rw [hfound.1] at hdigit
      cases hdigit
    · exact absurd hdot hfound.2

/-- A dotted text has one case. -/
theorem isDotted_lower {text : JsString} {bytes : List ℕ} :
    IsDotted LooseOctet (text.map Char.toLower) bytes ↔ IsDotted LooseOctet text bytes := by
  constructor
  · intro h
    rwa [map_toLower_plain (h.chars id)] at h
  · intro h
    have hsame : text.map Char.toLower = text := by
      refine map_toLower_plain fun c hc => ?_
      obtain ⟨d, hd, rfl⟩ := List.mem_map.1 hc
      rw [(toLower_reads d).2.1, (toLower_reads d).2.2.2.1]
      exact h.chars id d hd
    rwa [hsame]

theorem ipv4Bytes_lower (text : JsString) : ipv4Bytes (text.map Char.toLower) = ipv4Bytes text := by
  refine Option.ext fun bytes => ?_
  rw [ipv4Bytes_iff, ipv4Bytes_iff, isDotted_lower]

/-! ### The parser -/

theorem groupValue_lower (part : JsString) :
    (part.map Char.toLower).foldl (fun n c => 16 * n + (hexDigit c).getD 0) 0 = groupValue part := by
  rw [List.foldl_map]
  unfold groupValue
  congr 1
  funext n c
  rw [(toLower_reads c).1]

/-- What `ipv6Part` reads. -/
theorem ipv6Part_lower {part : JsString} {words : List ℕ} : ipv6Part (part.map Char.toLower) = some words ↔
    (∃ a b c d, IsDotted LooseOctet part [a, b, c, d] ∧ words = [a * 256 + b, c * 256 + d]) ∨
      (IsGroup part ∧ words = [groupValue part]) := by
  unfold ipv6Part
  rw [ipv4Bytes_lower]
  cases hbytes : ipv4Bytes part with
  | some bytes =>
    have hdotted := ipv4Bytes_iff.1 hbytes
    obtain ⟨a, b, c, d, rfl⟩ := List.length_eq_four.1 hdotted.length
    simp only [Option.some.injEq]
    constructor
    · rintro rfl
      exact .inl ⟨a, b, c, d, hdotted, rfl⟩
    · rintro (⟨a', b', c', d', hother, rfl⟩ | ⟨hgroup, -⟩)
      · have hsame := hbytes.symm.trans (ipv4Bytes_iff.2 hother)
        simp only [Option.some.injEq, List.cons.injEq, and_true] at hsame
        obtain ⟨rfl, rfl, rfl, rfl⟩ := hsame
        rfl
      · exact absurd hdotted.dot hgroup.plain.2
  | none =>
    have hplain : ¬∃ a b c d, IsDotted LooseOctet part [a, b, c, d] ∧ words = [a * 256 + b, c * 256 + d] := by
      rintro ⟨a, b, c, d, hdotted, -⟩
      cases hbytes.symm.trans (ipv4Bytes_iff.2 hdotted)
    have hgroup : (part.map Char.toLower ≠ [] ∧ (part.map Char.toLower).length ≤ 4 ∧
        ((part.map Char.toLower).all fun c => c.isDigit || ('a' ≤ c && c ≤ 'f')) = true) ↔ IsGroup part := by
      rw [List.all_map, List.all_eq_true, List.length_map]
      simp only [Function.comp_apply, (toLower_reads _).2.2.2.2, ne_eq, List.map_eq_nil_iff]
      exact ⟨fun h => ⟨h.1, h.2.1, h.2.2⟩, fun h => ⟨h.ne_nil, h.short, h.digits⟩⟩
    simp only [groupValue_lower, hplain, false_or]
    by_cases hpart : IsGroup part
    · rw [if_pos (hgroup.2 hpart), Option.some.injEq]
      exact ⟨fun h => ⟨hpart, h.symm⟩, fun h => h.2.symm⟩
    · rw [if_neg fun h => hpart (hgroup.1 h)]
      exact ⟨fun h => (nomatch h), fun h => absurd h.1 hpart⟩

theorem splitOn_map_lower {separator : Char} (hkept : ∀ c : Char, c.toLower = separator ↔ c = separator) (text : JsString) :
    (text.map Char.toLower).splitOn separator = (text.splitOn separator).map (List.map Char.toLower) := by
  induction text with
  | nil => rfl
  | cons c text ih =>
    rw [List.map_cons, List.splitOn_cons_eq_if_modifyHead, List.splitOn_cons_eq_if_modifyHead, ih]
    by_cases hc : c = separator
    · rw [if_pos (by simpa using (hkept c).2 hc), if_pos (by simpa using hc)]
      rfl
    · rw [if_neg (by simpa using fun h => hc ((hkept c).1 h)), if_neg (by simpa using hc)]
      cases text.splitOn separator with
      | nil => rfl
      | cons first rest => rfl

/-- What the parts of a side are read as. -/
theorem mapM_ipv6Part {parts : List JsString} {words : List ℕ} :
    ((parts.map (List.map Char.toLower)).mapM ipv6Part).map List.flatten = some words ↔ LooseSide parts words := by
  induction parts generalizing words with
  | nil =>
    constructor
    · intro h
      cases h
      exact .nil
    · intro h
      cases h
      rfl
  | cons part parts ih =>
    rw [List.map_cons, List.mapM_cons]
    constructor
    · intro h
      obtain ⟨lists, hlists, rfl⟩ := Option.map_eq_some_iff.1 h
      obtain ⟨first, hfirst, hlists⟩ := Option.bind_eq_some_iff.1 hlists
      obtain ⟨rest, hrest, hlists⟩ := Option.bind_eq_some_iff.1 hlists
      cases hlists
      have hside := ih.1 (Option.map_eq_some_iff.2 ⟨rest, hrest, rfl⟩)
      rcases ipv6Part_lower.1 hfirst with ⟨a, b, c, d, hdotted, rfl⟩ | ⟨hgroup, rfl⟩
      · exact .dotted hdotted hside
      · exact .group hgroup hside
    · intro h
      cases h with
      | group hgroup hside =>
        obtain ⟨rest, hrest, rfl⟩ := Option.map_eq_some_iff.1 (ih.2 hside)
        have hfirst := ipv6Part_lower.2 (.inr ⟨hgroup, rfl⟩)
        simp [hfirst, hrest]
      | dotted hdotted hside =>
        obtain ⟨rest, hrest, rfl⟩ := Option.map_eq_some_iff.1 (ih.2 hside)
        have hfirst := ipv6Part_lower.2 (.inl ⟨_, _, _, _, hdotted, rfl⟩)
        simp [hfirst, hrest]

theorem LooseSide.plain {parts : List JsString} {words : List ℕ} (h : LooseSide parts words) :
    ∀ part ∈ parts, part ≠ [] ∧ ':' ∉ part := by
  induction h with
  | nil => simp
  | group hgroup _ ih =>
    intro part hpart
    rcases List.mem_cons.1 hpart with rfl | hpart
    · exact ⟨hgroup.ne_nil, hgroup.plain.1⟩
    · exact ih part hpart
  | dotted hdotted _ ih =>
    intro part hpart
    rcases List.mem_cons.1 hpart with rfl | hpart
    · refine ⟨List.ne_nil_of_mem hdotted.dot, fun hcolon => ?_⟩
      rcases hdotted.chars id ':' hcolon with hdigit | hdot
      · cases hdigit
      · cases hdot
    · exact ih part hpart

/-- What `parseSide` reads. -/
theorem parseSide_lower {side : JsString} {words : List ℕ} :
    parseSide (side.map Char.toLower) = some words ↔ ∃ parts, side = joinWith ':' parts ∧ LooseSide parts words := by
  unfold parseSide
  constructor
  · intro h
    by_cases hside : side = []
    · subst hside
      cases h
      exact ⟨[], rfl, .nil⟩
    · rw [if_neg (by simpa using hside), splitOn_map_lower fun c => (toLower_reads c).2.2.1] at h
      exact ⟨side.splitOn ':', (joinWith_splitOn ':' side).symm, mapM_ipv6Part.1 h⟩
  · rintro ⟨parts, rfl, hside⟩
    cases parts with
    | nil =>
      cases hside
      rfl
    | cons part parts =>
      have hne : joinWith ':' (part :: parts) ≠ [] := by
        have hpart := (hside.plain part List.mem_cons_self).1
        cases parts with
        | nil => simpa [joinWith] using hpart
        | cons next parts =>
          rw [joinWith_cons_cons]
          simp [hpart]
      rw [if_neg (by simpa using hne), splitOn_map_lower fun c => (toLower_reads c).2.2.1,
        splitOn_joinWith (List.cons_ne_nil _ _) fun p hp => (hside.plain p hp).2]
      exact mapM_ipv6Part.2 hside

/-! ### The two sides -/

theorem splitDouble_ne_nil (text : JsString) : splitDouble text ≠ [] := by
  induction text using splitDouble.induct with
  | case1 => simp [splitDouble]
  | case2 rest ih => simp [splitDouble]
  | case3 c rest hother ih =>
    rw [splitDouble]
    · cases hrest : splitDouble rest with
      | nil => exact absurd hrest ih
      | cons first others => simp
    · exact hother

theorem notDouble {c : Char} {rest : JsString} (h : ∀ after, c = ':' → rest = ':' :: after → False) :
    ¬(c = ':' ∧ rest.head? = some ':') := by
  rintro ⟨hc, hhead⟩
  cases rest with
  | nil => cases hhead
  | cons d rest => exact h rest hc (by rw [Option.some.inj hhead])

/-- A character that does not begin a `::` stays in front. -/
theorem splitDouble_cons {c : Char} {rest : JsString} (h : ¬(c = ':' ∧ rest.head? = some ':')) :
    splitDouble (c :: rest) = (splitDouble rest).modifyHead (c :: ·) := by
  rw [splitDouble]
  rintro after rfl rfl
  exact h ⟨rfl, rfl⟩

/-- The text is its pieces, with `::` between them. -/
theorem intercalate_splitDouble (text : JsString) : [':', ':'].intercalate (splitDouble text) = text := by
  induction text using splitDouble.induct with
  | case1 => rfl
  | case2 rest ih =>
    obtain ⟨first, others, hrest⟩ := List.exists_cons_of_ne_nil (splitDouble_ne_nil rest)
    rw [splitDouble, hrest]
    rw [hrest] at ih
    exact congrArg (fun t => ':' :: ':' :: t) ih
  | case3 c rest hother ih =>
    obtain ⟨first, others, hrest⟩ := List.exists_cons_of_ne_nil (splitDouble_ne_nil rest)
    rw [splitDouble_cons (notDouble hother), hrest, List.modifyHead_cons]
    rw [hrest] at ih
    cases others with
    | nil =>
      rw [List.intercalate_singleton] at ih ⊢
      rw [ih]
    | cons next others => exact congrArg (fun t => c :: t) ih

theorem splitDouble_map_lower (text : JsString) :
    splitDouble (text.map Char.toLower) = (splitDouble text).map (List.map Char.toLower) := by
  induction text using splitDouble.induct with
  | case1 => rfl
  | case2 rest ih =>
    have hdouble : splitDouble (':' :: ':' :: rest.map Char.toLower) = [] :: splitDouble (rest.map Char.toLower) := by
      rw [splitDouble]
    exact hdouble.trans (congrArg ([] :: ·) ih)
  | case3 c rest hother ih =>
    have hlower : ¬(c.toLower = ':' ∧ (rest.map Char.toLower).head? = some ':') := by
      rw [(toLower_reads c).2.2.1]
      rintro ⟨rfl, hhead⟩
      cases rest with
      | nil => cases hhead
      | cons d rest =>
        rw [List.map_cons, List.head?_cons, Option.some.injEq, (toLower_reads d).2.2.1] at hhead
        exact hother rest rfl (by rw [hhead])
    rw [List.map_cons, splitDouble_cons hlower, ih, splitDouble_cons (notDouble hother)]
    cases splitDouble rest with
    | nil => rfl
    | cons first others => rfl

theorem splitDouble_append {part : JsString} (h : ':' ∉ part) (tail : JsString) :
    splitDouble (part ++ tail) = (splitDouble tail).modifyHead (part ++ ·) := by
  induction part with
  | nil =>
    rw [List.nil_append]
    cases splitDouble tail with
    | nil => rfl
    | cons first others => rfl
  | cons c part ih =>
    rw [List.mem_cons, not_or] at h
    rw [List.cons_append, splitDouble_cons fun hc => h.1 hc.1.symm, ih h.2, List.modifyHead_modifyHead]
    rfl

/-- Parts without colons stay together. -/
theorem splitDouble_joinWith {parts : List JsString} (h : ∀ part ∈ parts, part ≠ [] ∧ ':' ∉ part) (tail : JsString) :
    splitDouble (joinWith ':' parts ++ tail) = (splitDouble tail).modifyHead (joinWith ':' parts ++ ·) := by
  induction parts with
  | nil =>
    have hnil : ':' ∉ ([] : JsString) := List.not_mem_nil
    exact splitDouble_append hnil tail
  | cons part parts ih =>
    have hpart := (h part List.mem_cons_self).2
    cases parts with
    | nil =>
      rw [show joinWith ':' [part] = part from List.intercalate_singleton]
      exact splitDouble_append hpart tail
    | cons next parts =>
      obtain ⟨hne, hcolon⟩ := h next (List.mem_cons_of_mem _ List.mem_cons_self)
      obtain ⟨d, next', rfl⟩ := List.exists_cons_of_ne_nil hne
      have hd : d ≠ ':' := fun hd => hcolon (hd ▸ List.mem_cons_self)
      obtain ⟨after, hafter⟩ : ∃ after, joinWith ':' ((d :: next') :: parts) = d :: after := by
        cases parts with
        | nil => exact ⟨next', List.intercalate_singleton⟩
        | cons third parts => exact ⟨next' ++ ':' :: joinWith ':' (third :: parts), rfl⟩
      rw [joinWith_cons_cons, List.append_assoc, splitDouble_append hpart, List.cons_append, splitDouble_cons,
        ih fun p hp => h p (List.mem_cons_of_mem _ hp), List.modifyHead_modifyHead, List.modifyHead_modifyHead]
      · congr 1
        funext t
        simp
      · rw [hafter]
        simp [hd]

/-- Every part has at most two words. -/
theorem LooseSide.length_le {parts : List JsString} {words : List ℕ} (h : LooseSide parts words) :
    words.length ≤ 2 * parts.length := by
  induction h with
  | nil => simp
  | group _ _ ih =>
    simp only [List.length_cons]
    omega
  | dotted _ _ ih =>
    simp only [List.length_cons]
    omega

/-- The steps of `ipv6Words` after the zone is cut off. -/
def wordsOfRaw (raw : JsString) : Option (List ℕ) :=
  if !raw.contains ':' then none
  else
    match splitDouble raw with
    | [whole] => do
      let words ← parseSide whole
      if words.length = 8 then some words else none
    | [left, right] => do
      let before ← parseSide left
      let after ← parseSide right
      if before.length + after.length < 8 then
        some (before ++ List.replicate (8 - before.length - after.length) 0 ++ after)
      else none
    | _ => none

theorem contains_map_lower (raw : JsString) : (raw.map Char.toLower).contains ':' = raw.contains ':' := by
  induction raw with
  | nil => rfl
  | cons c raw ih =>
    rw [List.map_cons, List.contains_cons, List.contains_cons, ih]
    congr 1
    rw [Bool.eq_iff_iff, beq_iff_eq, beq_iff_eq, eq_comm, (toLower_reads c).2.2.1, eq_comm]

/-- **What is read as an IPv6 address**: exactly the loose texts. -/
theorem wordsOfRaw_lower {raw : JsString} {words : List ℕ} :
    wordsOfRaw (raw.map Char.toLower) = some words ↔ LooseIpv6 raw words := by
  unfold wordsOfRaw
  rw [contains_map_lower, splitDouble_map_lower]
  constructor
  · intro h
    have hjoined := intercalate_splitDouble raw
    split_ifs at h
    rcases hsplit : splitDouble raw with - | ⟨left, - | ⟨right, - | ⟨third, others⟩⟩⟩
    · exact absurd hsplit (splitDouble_ne_nil raw)
    · rw [hsplit] at h hjoined
      rw [List.intercalate_singleton] at hjoined
      obtain ⟨found, hfound, h⟩ := Option.bind_eq_some_iff.1 h
      split_ifs at h with hlength
      cases h
      obtain ⟨parts, rfl, hside⟩ := parseSide_lower.1 hfound
      rw [← hjoined]
      exact .full hside hlength
    · rw [hsplit] at h hjoined
      obtain ⟨before, hbefore, h⟩ := Option.bind_eq_some_iff.1 h
      obtain ⟨after, hafter, h⟩ := Option.bind_eq_some_iff.1 h
      split_ifs at h with hlength
      cases h
      obtain ⟨parts, rfl, hleft⟩ := parseSide_lower.1 hbefore
      obtain ⟨parts', rfl, hright⟩ := parseSide_lower.1 hafter
      have htext : raw = joinWith ':' parts ++ ':' :: ':' :: joinWith ':' parts' := by
        rw [← hjoined]
        simp [List.intercalate]
      rw [htext]
      exact .compressed hleft hright hlength
    · rw [hsplit] at h
      cases h
  · intro h
    cases h with
    | @full parts _ hside hlength =>
      have hsplit : splitDouble (joinWith ':' parts) = [joinWith ':' parts] := by
        have hjoined := splitDouble_joinWith hside.plain []
        rwa [List.append_nil, splitDouble, List.modifyHead_cons, List.append_nil] at hjoined
      have hcolon : ':' ∈ joinWith ':' parts := by
        have hparts := hside.length_le
        match parts, hparts with
        | [], hparts | [_], hparts =>
          simp only [List.length_nil, List.length_cons] at hparts
          omega
        | first :: next :: rest, _ =>
          rw [joinWith_cons_cons]
          simp
      rw [if_neg (by simpa using hcolon), hsplit]
      have hparsed := parseSide_lower.2 ⟨parts, rfl, hside⟩
      simp only [List.map_cons, List.map_nil, hparsed, Option.bind_eq_bind, Option.bind_some, if_pos hlength]
    | @compressed left before right after hleft hright hlength =>
      have hsplit : splitDouble (joinWith ':' left ++ ':' :: ':' :: joinWith ':' right) =
          [joinWith ':' left, joinWith ':' right] := by
        have hjoined := splitDouble_joinWith hright.plain []
        rw [List.append_nil, splitDouble, List.modifyHead_cons, List.append_nil] at hjoined
        rw [splitDouble_joinWith hleft.plain, splitDouble, hjoined, List.modifyHead_cons, List.append_nil]
      rw [if_neg (by simp), hsplit]
      have hbefore := parseSide_lower.2 ⟨left, rfl, hleft⟩
      have hafter := parseSide_lower.2 ⟨right, rfl, hright⟩
      simp only [List.map_cons, List.map_nil, hbefore, hafter, Option.bind_eq_bind, Option.bind_some, if_pos hlength]

end OfflineWebArchiver.Scope
