import OfflineWebArchiver.Scope.AddressText
import OfflineWebArchiver.Scope.Sample
import Mathlib.Data.List.TakeWhile

/-!
# Addresses are classified by value

* `ipv6Words_iff`: what is read as an IPv6 address, whatever the case of its letters and its zone.
* `loose_iff_valid`: a text that is read as an address is valid if and only if it is tidy.
* `classifyHost_address`: the class of a host that is read as an address is the class of its value.
* `address_by_value_iff`: **the texts that are read by their value and are no public address unless
  they are valid.**
-/

namespace OfflineWebArchiver.Scope

/-! ### Lower case -/

/-- What `toLowerCase` makes of a character: of an ASCII character one, and of any other none that
is ASCII but `i` and `k`, from U+0130 and the Kelvin sign. -/
def LowersTo (c : Char) (piece : JsString) : Prop :=
  if c.toNat < 0x80 then piece = [c.toLower]
  else piece ≠ [] ∧ ∀ d ∈ piece, 0x80 ≤ d.toNat ∨ d = 'i' ∨ d = 'k'

/-- **Lower case by the Unicode tables.** -/
def LowersTexts (lower : JsString → JsString) : Prop :=
  ∀ text, ∃ pieces, lower text = pieces.flatten ∧ List.Forall₂ LowersTo text pieces

/-- A set of ASCII characters that is told from the lower case. -/
structure Plain (good : Char → Bool) : Prop where
  ascii : ∀ c, good c = true → c.toNat < 0x80 ∧ c ≠ 'i' ∧ c ≠ 'k'
  lower : ∀ c, good c.toLower = good c

theorem plain_ipv6Char : Plain isIpv6Char where
  ascii := by
    intro c h
    unfold isIpv6Char at h
    rw [Bool.or_eq_true, Bool.or_eq_true, beq_iff_eq, beq_iff_eq] at h
    have hall : ("0123456789abcdefABCDEF".toList.all fun c => decide (c.toNat < 0x80) && c != 'i' && c != 'k') = true := by
      decide
    rcases h with (h | rfl) | rfl
    · simpa [and_assoc] using List.all_eq_true.1 hall c (mem_hexDigits h)
    · decide
    · decide
  lower := by
    intro c
    unfold isIpv6Char
    have hreads := toLower_reads c
    rw [hreads.1, Bool.eq_iff_iff]
    simp only [Bool.or_eq_true, beq_iff_eq, hreads.2.2.1, hreads.2.2.2.1]

theorem plain_dotted : Plain fun c => c.isDigit || c == '.' where
  ascii := by
    intro c h
    refine plain_ipv6Char.ascii c ?_
    rw [Bool.or_eq_true, beq_iff_eq] at h
    unfold isIpv6Char
    rcases h with h | rfl
    · simp [hexDigit_of_isDigit h]
    · rfl
  lower := by
    intro c
    have hreads := toLower_reads c
    rw [hreads.2.1, Bool.eq_iff_iff]
    simp only [Bool.or_eq_true, beq_iff_eq, hreads.2.2.2.1]

section Lower

variable {good : Char → Bool} {text : JsString} {pieces : List JsString}

/-- A text of plain characters is lowered character by character. -/
theorem flatten_plain (hgood : Plain good) (h : List.Forall₂ LowersTo text pieces) (hall : ∀ c ∈ text, good c = true) :
    pieces.flatten = text.map Char.toLower := by
  induction h with
  | nil => rfl
  | @cons c piece text pieces hpiece _ ih =>
    have hascii := (hgood.ascii c (hall c List.mem_cons_self)).1
    rw [LowersTo, if_pos hascii] at hpiece
    rw [List.flatten_cons, hpiece, List.map_cons, ih fun d hd => hall d (List.mem_cons_of_mem _ hd)]
    rfl

/-- Only a text of plain characters has such a lower case. -/
theorem plain_of_flatten (hgood : Plain good) (h : List.Forall₂ LowersTo text pieces)
    (hall : ∀ d ∈ pieces.flatten, good d = true) : ∀ c ∈ text, good c = true := by
  induction h with
  | nil => simp
  | @cons c piece text pieces hpiece _ ih =>
    intro d hd
    rcases List.mem_cons.1 hd with rfl | hd
    · by_cases hascii : d.toNat < 0x80
      · rw [LowersTo, if_pos hascii] at hpiece
        rw [← hgood.lower]
        exact hall _ (by simp [hpiece])
      · rw [LowersTo, if_neg hascii] at hpiece
        obtain ⟨e, rest, hrest⟩ := List.exists_cons_of_ne_nil hpiece.1
        have hplain := hgood.ascii e (hall e (by simp [hrest]))
        rcases hpiece.2 e (by simp [hrest]) with he | he | he
        · omega
        · exact absurd he hplain.2.1
        · exact absurd he hplain.2.2
    · exact ih (fun e he => hall e (by simp [he])) d hd

/-- The zone of the lower case begins where the zone of the text does. -/
theorem withoutZone_flatten (h : List.Forall₂ LowersTo text pieces) :
    ∃ before, withoutZone pieces.flatten = before.flatten ∧ List.Forall₂ LowersTo (withoutZone text) before := by
  induction h with
  | nil => exact ⟨[], rfl, .nil⟩
  | @cons c piece text pieces hpiece _ ih =>
    obtain ⟨before, hbefore, hpieces⟩ := ih
    by_cases hc : c = '%'
    · subst hc
      rw [LowersTo, if_pos (by decide)] at hpiece
      refine ⟨[], ?_, ?_⟩
      · rw [hpiece]
        rfl
      · exact .nil
    · have hkept : ∀ d ∈ piece, d ≠ '%' := by
        intro d hd
        by_cases hascii : c.toNat < 0x80
        · rw [LowersTo, if_pos hascii] at hpiece
          rw [hpiece, List.mem_singleton] at hd
          rw [hd]
          rcases toLower_fixed_or c with hfixed | hletter
          · rwa [hfixed]
          · have hall : ("ABCDEFGHIJKLMNOPQRSTUVWXYZ".toList.all fun c => c.toLower != '%') = true := by decide
            simpa using List.all_eq_true.1 hall c hletter
        · rw [LowersTo, if_neg hascii] at hpiece
          rintro rfl
          rcases hpiece.2 '%' hd with h | h | h <;> revert h <;> decide
      refine ⟨piece :: before, ?_, ?_⟩
      · unfold withoutZone at hbefore ⊢
        rw [List.flatten_cons, List.takeWhile_append_of_pos (by simpa using hkept), hbefore, List.flatten_cons]
      · have hstay : withoutZone (c :: text) = c :: withoutZone text := by
          unfold withoutZone
          rw [List.takeWhile_cons_of_pos (by simpa using hc)]
        rw [hstay]
        exact .cons hpiece hpieces

end Lower

/-! ### What is read as an address -/

variable {env : ScopeEnv} {text raw : JsString} {words : List ℕ} {bytes : List ℕ}

/-- The characters of what is read are those of IPv6 texts. -/
theorem ipv6Part_chars {part : JsString} (h : ipv6Part part = some words) : ∀ c ∈ part, isIpv6Char c = true := by
  intro c hc
  unfold ipv6Part at h
  unfold isIpv6Char
  split at h
  · rename_i hbytes
    rcases (ipv4Bytes_iff.1 hbytes).chars id c hc with hdigit | rfl
    · simp [hexDigit_of_isDigit hdigit]
    · rfl
  · split_ifs at h with hgroup
    have hdigit := List.all_eq_true.1 hgroup.2.2 c hc
    rw [Bool.or_eq_true, Bool.and_eq_true, decide_eq_true_eq, decide_eq_true_eq] at hdigit
    rcases hdigit with hdigit | hletter
    · simp [hexDigit_of_isDigit hdigit]
    · have hsome : (hexDigit c).isSome = true := by
        unfold hexDigit
        split_ifs
        · rfl
        · rfl
      simp [hsome]

theorem mapM_ipv6Part_some {parts : List JsString} {lists : List (List ℕ)} (h : parts.mapM ipv6Part = some lists) :
    ∀ part ∈ parts, ∃ words, ipv6Part part = some words := by
  induction parts generalizing lists with
  | nil => simp
  | cons part parts ih =>
    rw [List.mapM_cons] at h
    obtain ⟨first, hfirst, h⟩ := Option.bind_eq_some_iff.1 h
    obtain ⟨rest, hrest, -⟩ := Option.bind_eq_some_iff.1 h
    intro p hp
    rcases List.mem_cons.1 hp with rfl | hp
    · exact ⟨first, hfirst⟩
    · exact ih hrest p hp

theorem parseSide_chars {side : JsString} (h : parseSide side = some words) : ∀ c ∈ side, isIpv6Char c = true := by
  unfold parseSide at h
  split_ifs at h with hside
  · simp [hside]
  · obtain ⟨lists, hlists, -⟩ := Option.map_eq_some_iff.1 h
    intro c hc
    rw [← joinWith_splitOn ':' side] at hc
    rcases mem_joinWith hc with rfl | ⟨part, hpart, hc⟩
    · rfl
    · obtain ⟨found, hfound⟩ := mapM_ipv6Part_some hlists part hpart
      exact ipv6Part_chars hfound c hc

theorem wordsOfRaw_chars (h : wordsOfRaw raw = some words) : ∀ c ∈ raw, isIpv6Char c = true := by
  have hjoined := intercalate_splitDouble raw
  unfold wordsOfRaw at h
  split_ifs at h
  intro c hc
  rcases hsplit : splitDouble raw with - | ⟨left, - | ⟨right, - | ⟨third, others⟩⟩⟩
  · exact absurd hsplit (splitDouble_ne_nil raw)
  · rw [hsplit] at h hjoined
    obtain ⟨found, hfound, -⟩ := Option.bind_eq_some_iff.1 h
    rw [List.intercalate_singleton] at hjoined
    exact parseSide_chars hfound c (hjoined ▸ hc)
  · rw [hsplit] at h hjoined
    obtain ⟨before, hbefore, h⟩ := Option.bind_eq_some_iff.1 h
    obtain ⟨after, hafter, -⟩ := Option.bind_eq_some_iff.1 h
    rw [← hjoined] at hc
    simp only [List.intercalate, List.intersperse_cons_cons, List.intersperse_singleton, List.flatten_cons, List.flatten_nil,
      List.append_nil, List.cons_append, List.nil_append, List.mem_append, List.mem_cons] at hc
    rcases hc with hc | rfl | rfl | hc
    · exact parseSide_chars hbefore c hc
    · rfl
    · rfl
    · exact parseSide_chars hafter c hc
  · rw [hsplit] at h
    cases h

theorem map_toLower_twice (raw : JsString) : (raw.map Char.toLower).map Char.toLower = raw.map Char.toLower := by
  rw [List.map_map]
  refine List.map_congr_left fun c _ => ?_
  rcases toLower_fixed_or c with hfixed | hletter
  · simp only [Function.comp_apply, hfixed]
  · have hall : ("ABCDEFGHIJKLMNOPQRSTUVWXYZ".toList.all fun c => c.toLower.toLower == c.toLower) = true := by decide
    simpa using List.all_eq_true.1 hall c hletter

/-- A loose text has one case. -/
theorem looseIpv6_map : LooseIpv6 (raw.map Char.toLower) words ↔ LooseIpv6 raw words := by
  rw [← wordsOfRaw_lower, map_toLower_twice, wordsOfRaw_lower]

theorem LooseIpv6.chars (h : LooseIpv6 raw words) : ∀ c ∈ raw, isIpv6Char c = true := by
  intro c hc
  rw [← plain_ipv6Char.lower]
  exact wordsOfRaw_chars (wordsOfRaw_lower.2 h) c.toLower (List.mem_map_of_mem hc)

variable (hlower : LowersTexts env.lower)

include hlower

/-- The lower case of an IPv6 text is lowered character by character. -/
theorem withoutZone_lower (text : JsString) :
    ((∀ c ∈ withoutZone (env.lower text), isIpv6Char c = true) → ∀ c ∈ withoutZone text, isIpv6Char c = true) ∧
      ((∀ c ∈ withoutZone text, isIpv6Char c = true) →
        withoutZone (env.lower text) = (withoutZone text).map Char.toLower) := by
  obtain ⟨pieces, hpieces, hlowers⟩ := hlower text
  obtain ⟨before, hbefore, hlowers⟩ := withoutZone_flatten hlowers
  rw [hpieces, hbefore]
  exact ⟨plain_of_flatten plain_ipv6Char hlowers, flatten_plain plain_ipv6Char hlowers⟩

theorem looseIpv6_lower : LooseIpv6 (withoutZone (env.lower text)) words ↔ LooseIpv6 (withoutZone text) words := by
  obtain ⟨hplain, hlowered⟩ := withoutZone_lower hlower text
  constructor
  · intro h
    rw [hlowered (hplain h.chars)] at h
    exact looseIpv6_map.1 h
  · intro h
    rw [hlowered h.chars]
    exact looseIpv6_map.2 h

/-- **What `ipv6Words` reads**: the loose texts. -/
theorem ipv6Words_iff : ipv6Words env text = some words ↔ LooseIpv6 (withoutZone text) words := by
  have hraw : ipv6Words env text = wordsOfRaw (withoutZone (env.lower text)) := rfl
  obtain ⟨hplain, hlowered⟩ := withoutZone_lower hlower text
  rw [hraw]
  constructor
  · intro h
    rw [hlowered (hplain (wordsOfRaw_chars h))] at h
    exact wordsOfRaw_lower.1 h
  · intro h
    rw [hlowered h.chars]
    exact wordsOfRaw_lower.2 h

theorem ipv4Bytes_lowered : ipv4Bytes (env.lower text) = some bytes ↔ IsDotted LooseOctet text bytes := by
  obtain ⟨pieces, hpieces, hlowers⟩ := hlower text
  have hchars {text : JsString} (h : IsDotted LooseOctet text bytes) :
      ∀ c ∈ text, (c.isDigit || c == '.') = true := by
    intro c hc
    simpa using h.chars id c hc
  rw [ipv4Bytes_iff, hpieces]
  constructor
  · intro h
    rw [flatten_plain plain_dotted hlowers (plain_of_flatten plain_dotted hlowers (hchars h))] at h
    exact isDotted_lower.1 h
  · intro h
    rw [flatten_plain plain_dotted hlowers (hchars h)]
    exact isDotted_lower.2 h

omit hlower

/-! ### Valid texts -/

/-- An octet of a dotted text is not padded with zeros. -/
def Unpadded (part : JsString) : Prop := ∀ octet ∈ part.splitOn '.', octet.length = 1 ∨ octet.head? ≠ some '0'

instance (part : JsString) : Decidable (Unpadded part) :=
  inferInstanceAs (Decidable (∀ octet ∈ part.splitOn '.', octet.length = 1 ∨ octet.head? ≠ some '0'))

/-- Only the last part has dots, and no octet is padded. -/
structure TidyParts (parts : List JsString) : Prop where
  last : ∀ part ∈ parts.dropLast, '.' ∉ part
  unpadded : ∀ part ∈ parts, '.' ∈ part → Unpadded part

/-- **A tidy text** has dots only behind its last colon, and no padded octet. -/
def Tidy (raw : JsString) : Prop := TidyParts (raw.splitOn ':')

theorem isDotted_octet (h : IsDotted LooseOctet text bytes) : IsDotted Octet text bytes ↔ Unpadded text := by
  obtain ⟨parts, rfl, hlength, hoctets, rfl⟩ := h
  have hne : parts ≠ [] := by
    rintro rfl
    cases hlength
  have hsplit := splitOn_joinWith hne fun part hpart => (hoctets part hpart).noDot
  unfold Unpadded
  rw [hsplit]
  constructor
  · rintro ⟨others, hothers, hlength', hoctets', -⟩ octet hoctet
    have hne' : others ≠ [] := by
      rintro rfl
      cases hlength'
    have hsame : parts = others := by
      rw [← hsplit, hothers, splitOn_joinWith hne' fun part hpart => (hoctets' part hpart).noDot]
    exact (hoctets' octet (hsame ▸ hoctet)).unpadded
  · intro h
    exact ⟨parts, rfl, hlength, fun part hpart => ⟨hoctets part hpart, h part hpart⟩, rfl⟩

variable {parts : List JsString}

theorem HexSide.side (h : HexSide parts words) : Side parts words := by
  induction h with
  | nil => exact .nil
  | group hgroup _ ih => exact .group hgroup ih

theorem isDotted_loose (h : IsDotted Octet text bytes) : IsDotted LooseOctet text bytes := by
  obtain ⟨parts, htext, hlength, hoctets, hbytes⟩ := h
  exact ⟨parts, htext, hlength, fun part hpart => (hoctets part hpart).toLooseOctet, hbytes⟩

theorem Side.loose (h : Side parts words) : LooseSide parts words := by
  induction h with
  | nil => exact .nil
  | group hgroup _ ih => exact .group hgroup ih
  | dotted hdotted => exact .dotted (isDotted_loose hdotted) .nil

/-- A loose side is one of groups if and only if it has no dots. -/
theorem LooseSide.hex_iff (h : LooseSide parts words) : HexSide parts words ↔ ∀ part ∈ parts, '.' ∉ part := by
  constructor
  · intro hhex
    clear h
    induction hhex with
    | nil => simp
    | group hgroup _ ih => exact List.forall_mem_cons.2 ⟨hgroup.plain.2, ih⟩
  · intro hplain
    induction h with
    | nil => exact .nil
    | group hgroup _ ih => exact .group hgroup (ih (List.forall_mem_cons.1 hplain).2)
    | dotted hdotted _ _ => exact absurd hdotted.dot (List.forall_mem_cons.1 hplain).1

theorem tidyParts_cons {part next : JsString} :
    TidyParts (part :: next :: parts) ↔ '.' ∉ part ∧ TidyParts (next :: parts) := by
  constructor
  · intro h
    obtain ⟨hpart, hlast⟩ := List.forall_mem_cons.1 h.last
    exact ⟨hpart, hlast, (List.forall_mem_cons.1 h.unpadded).2⟩
  · rintro ⟨hpart, h⟩
    exact ⟨List.forall_mem_cons.2 ⟨hpart, h.last⟩, List.forall_mem_cons.2 ⟨fun hdot => absurd hdot hpart, h.unpadded⟩⟩

theorem tidyParts_singleton {part : JsString} : TidyParts [part] ↔ ('.' ∈ part → Unpadded part) := by
  constructor
  · intro h
    exact h.unpadded part (List.mem_singleton_self part)
  · intro h
    exact ⟨by simp, by simpa using h⟩

theorem tidyParts_nil : TidyParts [] := ⟨by simp, by simp⟩

/-- A loose side is a valid one if and only if it is tidy. -/
theorem LooseSide.side_iff (h : LooseSide parts words) : Side parts words ↔ TidyParts parts := by
  constructor
  · intro hside
    clear h
    induction hside with
    | nil => exact tidyParts_nil
    | @group part parts words hgroup _ ih =>
      cases parts with
      | nil => exact tidyParts_singleton.2 fun hdot => absurd hdot hgroup.plain.2
      | cons next parts => exact tidyParts_cons.2 ⟨hgroup.plain.2, ih⟩
    | dotted hdotted => exact tidyParts_singleton.2 fun _ => (isDotted_octet (isDotted_loose hdotted)).1 hdotted
  · intro htidy
    induction h with
    | nil => exact .nil
    | @group part parts words hgroup _ ih =>
      cases parts with
      | nil => exact .group hgroup (ih tidyParts_nil)
      | cons next parts => exact .group hgroup (ih (tidyParts_cons.1 htidy).2)
    | @dotted part parts words a b c d hdotted hrest ih =>
      cases parts with
      | nil =>
        cases hrest
        exact .dotted ((isDotted_octet hdotted).2 (tidyParts_singleton.1 htidy hdotted.dot))
      | cons next parts => exact absurd hdotted.dot (tidyParts_cons.1 htidy).1

/-- The parts that the text of a side is split into: an empty side has one empty part. -/
def written (parts : List JsString) : List JsString := if parts = [] then [[]] else parts

theorem written_ne_nil (parts : List JsString) : written parts ≠ [] := by
  unfold written
  split_ifs with h
  · exact List.cons_ne_nil _ _
  · exact h

theorem joinWith_written (separator : Char) (parts : List JsString) :
    joinWith separator (written parts) = joinWith separator parts := by
  unfold written
  split_ifs with h
  · rw [h]
    rfl
  · rfl

theorem forall_written {P : JsString → Prop} (hnil : P []) : (∀ part ∈ written parts, P part) ↔ ∀ part ∈ parts, P part := by
  unfold written
  split_ifs with h
  · simp [h, hnil]
  · rfl

theorem tidyParts_written : TidyParts (written parts) ↔ TidyParts parts := by
  unfold written
  split_ifs with h
  · rw [h]
    exact ⟨fun _ => tidyParts_nil, fun _ => tidyParts_singleton.2 (by simp)⟩
  · rfl

/-- `::` separates the parts of its sides by an empty part. -/
theorem splitOn_compressed {left right : List JsString} (hleft : ∀ part ∈ left, ':' ∉ part)
    (hright : ∀ part ∈ right, ':' ∉ part) :
    (joinWith ':' left ++ ':' :: ':' :: joinWith ':' right).splitOn ':' = written left ++ [] :: written right := by
  have hjoined : joinWith ':' left ++ ':' :: ':' :: joinWith ':' right =
      joinWith ':' (written left ++ [] :: written right) := by
    obtain ⟨part, parts, hparts⟩ := List.exists_cons_of_ne_nil (written_ne_nil right)
    rw [joinWith_append (written_ne_nil left) (List.cons_ne_nil _ _), joinWith_written, hparts, joinWith_cons_cons,
      List.nil_append, ← hparts, joinWith_written]
  rw [hjoined]
  refine splitOn_joinWith (by simp) fun part hpart => ?_
  rcases List.mem_append.1 hpart with hpart | hpart
  · exact (forall_written (P := fun p => ':' ∉ p) (by simp)).2 hleft part hpart
  · rcases List.mem_cons.1 hpart with rfl | hpart
    · simp
    · exact (forall_written (P := fun p => ':' ∉ p) (by simp)).2 hright part hpart

theorem tidyParts_append {left right : List JsString} (hright : right ≠ []) :
    TidyParts (left ++ right) ↔ (∀ part ∈ left, '.' ∉ part) ∧ TidyParts right := by
  obtain ⟨next, rest, rfl⟩ := List.exists_cons_of_ne_nil hright
  induction left with
  | nil => simp
  | cons part left ih =>
    rw [List.forall_mem_cons, and_assoc, ← ih]
    cases left with
    | nil => exact tidyParts_cons
    | cons other left => exact tidyParts_cons

theorem tidy_compressed {left right : List JsString} (hleft : ∀ part ∈ left, ':' ∉ part) (hright : ∀ part ∈ right, ':' ∉ part) :
    Tidy (joinWith ':' left ++ ':' :: ':' :: joinWith ':' right) ↔ (∀ part ∈ left, '.' ∉ part) ∧ TidyParts right := by
  obtain ⟨part, parts, hparts⟩ := List.exists_cons_of_ne_nil (written_ne_nil right)
  unfold Tidy
  rw [splitOn_compressed hleft hright, tidyParts_append (List.cons_ne_nil _ _), forall_written (by simp), hparts, tidyParts_cons,
    ← hparts, tidyParts_written]
  simp

/-- **A loose text is valid if and only if it is tidy.** -/
theorem loose_iff_valid (h : LooseIpv6 raw words) : Ipv6Raw HexSide Side raw words ↔ Tidy raw := by
  constructor
  · intro hvalid
    cases hvalid with
    | full hside hlength =>
      rename_i parts
      have hne : parts ≠ [] := by
        rintro rfl
        cases hside
        cases hlength
      unfold Tidy
      rw [splitOn_joinWith hne fun part hpart => (hside.loose.plain part hpart).2]
      exact hside.loose.side_iff.1 hside
    | compressed hleft hright hlength =>
      have hleft' := hleft.side.loose
      rw [tidy_compressed (fun part hpart => (hleft'.plain part hpart).2) fun part hpart => (hright.loose.plain part hpart).2]
      exact ⟨hleft'.hex_iff.1 hleft, hright.loose.side_iff.1 hright⟩
  · intro htidy
    cases h with
    | full hside hlength =>
      rename_i parts
      have hne : parts ≠ [] := by
        rintro rfl
        cases hside
        cases hlength
      unfold Tidy at htidy
      rw [splitOn_joinWith hne fun part hpart => (hside.plain part hpart).2] at htidy
      exact .full (hside.side_iff.2 htidy) hlength
    | compressed hleft hright hlength =>
      rw [tidy_compressed (fun part hpart => (hleft.plain part hpart).2) fun part hpart => (hright.plain part hpart).2] at htidy
      exact .compressed (hleft.hex_iff.2 htidy.1) (hright.side_iff.2 htidy.2) hlength

theorem ipv6_loose (h : Ipv6Raw HexSide Side raw words) : LooseIpv6 raw words := by
  cases h with
  | full hside hlength => exact .full hside.loose hlength
  | compressed hleft hright hlength => exact .compressed hleft.side.loose hright.loose hlength

variable {other : JsString}

/-! ### Addresses -/

/-- The value of an address: four bytes, or eight words. -/
inductive Address
  | v4 (bytes : List ℕ)
  | v6 (words : List ℕ)

def Address.networkClass : Address → IpAddressClass
  | .v4 bytes => classifyIpv4 (bytes.getD 0 0) (bytes.getD 1 0) (bytes.getD 2 0)
  | .v6 words => classifyIpv6 words

/-- The texts of an address: valid, and an IPv6 text may stand between brackets. -/
inductive IsLiteral : JsString → Address → Prop
  | dotted {core values} : IsDotted Octet core values → IsLiteral core (.v4 values)
  | colons {core values} : Ipv6Text core values → IsLiteral core (.v6 values)
  | bracketed {core values} : Ipv6Text core values → IsLiteral ('[' :: core ++ [']']) (.v6 values)

/-- The texts that are read as an address. -/
inductive LooseAddress : JsString → Address → Prop
  | dotted {core values} : IsDotted LooseOctet core values → LooseAddress core (.v4 values)
  | colons {core values} : LooseIpv6 (withoutZone core) values → LooseAddress core (.v6 values)

/-- The brackets of a text are two, around a text with colons. -/
def Paired (text : JsString) : Prop :=
  if text.head? = some '[' then text.getLast? = some ']' ∧ ':' ∈ stripBrackets text else ']' ∉ withoutZone text

theorem LooseIpv6.colon (h : LooseIpv6 raw words) : ':' ∈ raw := by
  cases h with
  | @full parts _ hside hlength =>
    have hparts := hside.length_le
    match parts, hparts with
    | [], hparts | [_], hparts =>
      simp only [List.length_nil, List.length_cons] at hparts
      omega
    | first :: next :: rest, _ =>
      rw [joinWith_cons_cons]
      simp
  | compressed => simp

theorem mem_of_withoutZone {c : Char} (h : c ∈ withoutZone text) : c ∈ text := (List.takeWhile_sublist _).mem h

section

variable (hlower : LowersTexts env.lower)

include hlower

/-- **A host that is read as an address has the class of its value.** -/
theorem classifyHost_address {a : Address} (h : LooseAddress (stripBrackets text) a) :
    classifyHost env text = a.networkClass := by
  unfold classifyHost
  simp only
  cases h with
  | @dotted bytes hdotted =>
    rw [(ipv4Bytes_lowered hlower).2 hdotted]
    rfl
  | @colons words hcolons =>
    have hbytes : ipv4Bytes (env.lower (stripBrackets text)) = none := by
      refine Option.eq_none_iff_forall_ne_some.2 fun bytes hbytes => ?_
      have hdotted := (ipv4Bytes_lowered hlower).1 hbytes
      rcases hdotted.chars id ':' (mem_of_withoutZone hcolons.colon) with hdigit | hdot
      · cases hdigit
      · cases hdot
    rw [hbytes, (ipv6Words_iff hlower).2 ((looseIpv6_lower hlower).2 hcolons)]
    rfl

/-- A host that is not read as an address has no network. -/
theorem classifyHost_public (h : classifyHost env text = .publicNetwork) :
    ∃ a, LooseAddress (stripBrackets text) a ∧ a.networkClass = .publicNetwork := by
  have hfound : ∃ a, LooseAddress (stripBrackets text) a := by
    unfold classifyHost at h
    simp only at h
    split at h
    · rename_i bytes hbytes
      exact ⟨.v4 bytes, .dotted ((ipv4Bytes_lowered hlower).1 hbytes)⟩
    · split at h
      · rename_i words hwords
        exact ⟨.v6 words, .colons ((looseIpv6_lower hlower).1 ((ipv6Words_iff hlower).1 hwords))⟩
      · split_ifs at h
  obtain ⟨a, ha⟩ := hfound
  exact ⟨a, ha, (classifyHost_address hlower ha).symm.trans h⟩

end

/-! ### Brackets -/

theorem stripBrackets_bracketed : stripBrackets ('[' :: text ++ [']']) = text := by
  unfold stripBrackets
  simp

theorem stripBrackets_unopened (h : text.head? ≠ some '[') :
    stripBrackets text = text ∨ text = stripBrackets text ++ [']'] := by
  have hstrip : stripBrackets text = if text.getLast? = some ']' then text.dropLast else text := by
    unfold stripBrackets
    split
    · exact absurd rfl ‹_›
    · simp only
  rw [hstrip]
  split_ifs with hlast
  · exact .inr (List.dropLast_append_getLast? ']' hlast).symm
  · exact .inl rfl

theorem stripBrackets_plain (hopen : text.head? ≠ some '[') (hclose : text.getLast? ≠ some ']') : stripBrackets text = text := by
  rcases stripBrackets_unopened hopen with h | h
  · exact h
  · rw [h, List.getLast?_concat] at hclose
    exact absurd rfl hclose

theorem stripBrackets_opened (hopen : text.head? = some '[') (hclose : text.getLast? = some ']') :
    text = '[' :: stripBrackets text ++ [']'] := by
  cases text with
  | nil => cases hopen
  | cons c rest =>
    cases hopen
    have hlast : rest.getLast? = some ']' := by
      cases rest with
      | nil => cases hclose
      | cons d rest => simpa using hclose
    have hstrip : stripBrackets ('[' :: rest) = rest.dropLast := by
      unfold stripBrackets
      simp only
      rw [if_pos hlast]
    rw [hstrip, List.cons_append, List.dropLast_append_getLast? ']' hlast]

/-! ### Reading by value -/

/-- **A text is read by its value.** -/
structure ByValue (env : ScopeEnv) (text : JsString) : Prop where
  /-- `ipv6Words` has words exactly of a valid text, and they are its words -/
  words : ∀ words, ipv6Words env text = some words ↔ Ipv6Text text words
  /-- two texts of an address have one class -/
  same : ∀ a other, IsLiteral text a → IsLiteral other a → classifyHost env text = classifyHost env other
  /-- a mapped address has the class of the IPv4 address -/
  mapped : ∀ a b c d other, IsLiteral other (.v4 [a, b, c, d]) →
    IsLiteral text (.v6 [0, 0, 0, 0, 0, 0xffff, a * 256 + b, c * 256 + d]) → classifyHost env text = classifyHost env other
  /-- only a literal is public -/
  valid : classifyHost env text = .publicNetwork → ∃ a, IsLiteral text a

theorem isDotted_bounds (h : IsDotted Octet text bytes) : ∀ byte ∈ bytes, byte ≤ 255 := by
  obtain ⟨parts, -, -, hoctets, rfl⟩ := h
  intro byte hbyte
  obtain ⟨part, hpart, rfl⟩ := List.mem_map.1 hbyte
  exact (hoctets part hpart).small

theorem dotted_ends (h : IsDotted LooseOctet text bytes) (c : Char) (hdigit : c.isDigit = false) (hdot : c ≠ '.') : c ∉ text := by
  intro hc
  rcases h.chars id c hc with hfound | hfound
  · rw [hdigit] at hfound
    cases hfound
  · exact hdot hfound

/-- An IPv6 text neither opens nor closes a bracket before its zone. -/
theorem colons_ends (h : LooseIpv6 (withoutZone text) words) : text.head? ≠ some '[' ∧ ']' ∉ withoutZone text := by
  have hclose : ']' ∉ withoutZone text := fun hc => absurd (h.chars ']' hc) (by decide)
  refine ⟨fun hopen => ?_, hclose⟩
  cases text with
  | nil => cases hopen
  | cons c rest =>
    cases hopen
    exact absurd (h.chars '[' (by simp [withoutZone])) (by decide)

/-- A bracket in the zone is no part of the address. -/
theorem withoutZone_strip (hopen : text.head? ≠ some '[') (hclose : ']' ∉ withoutZone text) :
    withoutZone (stripBrackets text) = withoutZone text := by
  rcases stripBrackets_unopened hopen with h | h
  · rw [h]
  · generalize stripBrackets text = core at h
    subst h
    unfold withoutZone at hclose ⊢
    rw [List.takeWhile_append] at hclose ⊢
    split_ifs at hclose ⊢ with hwhole
    · exact absurd (List.mem_append_right core (by decide)) hclose
    · rfl

/-- A literal is read as its address. -/
theorem IsLiteral.loose {a : Address} (h : IsLiteral text a) : LooseAddress (stripBrackets text) a := by
  cases h with
  | dotted hdotted =>
    have hloose := isDotted_loose hdotted
    rw [stripBrackets_plain]
    · exact .dotted hloose
    · exact fun h => dotted_ends hloose '[' rfl (by decide) (List.mem_of_head? h)
    · exact fun h => dotted_ends hloose ']' rfl (by decide) (List.mem_of_getLast? h)
  | colons hcolons =>
    have hloose := ipv6_loose hcolons
    obtain ⟨hopen, hclose⟩ := colons_ends hloose
    refine .colons ?_
    rwa [withoutZone_strip hopen hclose]
  | bracketed hcolons =>
    rw [stripBrackets_bracketed]
    exact .colons (ipv6_loose hcolons)

theorem bytes_of_word {high low : ℕ} (h : low ≤ 255) : (high * 256 + low) / 256 = high ∧ (high * 256 + low) % 256 = low := by
  omega

/-- The mapped address has the class of the IPv4 address. -/
theorem classifyIpv6_mapped {a b c d : ℕ} (hb : b ≤ 255) (hd : d ≤ 255) :
    classifyIpv6 [0, 0, 0, 0, 0, 0xffff, a * 256 + b, c * 256 + d] = classifyIpv4 a b c := by
  have hmapped (x y : ℕ) : classifyIpv6 [0, 0, 0, 0, 0, 0xffff, x, y] = classifyIpv4 (x / 256) (x % 256) (y / 256) := by
    unfold classifyIpv6
    simp only [List.getD_cons_zero, List.getD_cons_succ, List.all_cons, List.take_succ_cons, List.take_zero, List.all_nil]
    simp
  rw [hmapped, (bytes_of_word hb).1, (bytes_of_word hb).2, (bytes_of_word hd).1]

theorem withoutZone_plain (h : '%' ∉ text) : withoutZone text = text := by
  refine List.takeWhile_eq_self_iff.2 fun c hc => ?_
  rw [bne_iff_ne]
  rintro rfl
  exact h hc

/-- A dotted text is tidy if and only if no octet is padded. -/
theorem tidy_dotted (h : IsDotted LooseOctet text bytes) : Tidy (withoutZone text) ↔ IsDotted Octet text bytes := by
  have hplain : ':' ∉ text := dotted_ends h ':' rfl (by decide)
  have hsplit : text.splitOn ':' = [text] := by
    have hjoined := splitOn_joinWith (List.cons_ne_nil text []) (List.forall_mem_singleton.2 hplain)
    rwa [joinWith, List.intercalate_singleton] at hjoined
  rw [withoutZone_plain (dotted_ends h '%' rfl (by decide)), isDotted_octet h, Tidy, hsplit, tidyParts_singleton]
  exact ⟨fun htidy => htidy h.dot, fun hunpadded _ => hunpadded⟩

/-- The two brackets of a public host are paired if and only if it is a literal. -/
theorem literal_iff {a : Address} (h : LooseAddress (stripBrackets text) a) :
    (∃ b, IsLiteral text b) ↔ Tidy (withoutZone (stripBrackets text)) ∧ Paired text := by
  constructor
  · rintro ⟨b, hb⟩
    unfold Paired
    cases hb with
    | dotted hdotted =>
      have hloose := isDotted_loose hdotted
      have hopen : text.head? ≠ some '[' := fun h => dotted_ends hloose '[' rfl (by decide) (List.mem_of_head? h)
      have hclose : ']' ∉ text := dotted_ends hloose ']' rfl (by decide)
      rw [if_neg hopen, stripBrackets_plain hopen fun h => hclose (List.mem_of_getLast? h)]
      exact ⟨(tidy_dotted hloose).2 hdotted, fun h => hclose (mem_of_withoutZone h)⟩
    | colons hcolons =>
      have hloose := ipv6_loose hcolons
      obtain ⟨hopen, hclose⟩ := colons_ends hloose
      rw [if_neg hopen, withoutZone_strip hopen hclose]
      exact ⟨(loose_iff_valid hloose).1 hcolons, hclose⟩
    | @bracketed core values hcolons =>
      have hloose := ipv6_loose hcolons
      rw [stripBrackets_bracketed, if_pos (by rfl)]
      exact ⟨(loose_iff_valid hloose).1 hcolons, List.getLast?_concat, mem_of_withoutZone hloose.colon⟩
  · rintro ⟨htidy, hpaired⟩
    unfold Paired at hpaired
    by_cases hopen : text.head? = some '['
    · rw [if_pos hopen] at hpaired
      obtain ⟨hclose, hcolon⟩ := hpaired
      have htext := stripBrackets_opened hopen hclose
      generalize stripBrackets text = core at h htidy hcolon htext
      subst htext
      cases h with
      | dotted hdotted => exact absurd hcolon (dotted_ends hdotted ':' rfl (by decide))
      | colons hcolons => exact ⟨_, .bracketed ((loose_iff_valid hcolons).2 htidy)⟩
    · rw [if_neg hopen] at hpaired
      have hzone := withoutZone_strip hopen hpaired
      have hstrip := stripBrackets_unopened hopen
      cases h with
      | dotted hdotted =>
        have hsame : stripBrackets text = text := by
          rcases hstrip with hsame | hclosed
          · exact hsame
          · have hnone : '%' ∉ text := by
              rw [hclosed, List.mem_append, not_or]
              exact ⟨dotted_ends hdotted '%' rfl (by decide), by decide⟩
            rw [withoutZone_plain hnone, hclosed] at hpaired
            exact absurd (List.mem_append_right _ (List.mem_singleton_self _)) hpaired
        rw [hsame] at hdotted htidy
        exact ⟨_, .dotted ((tidy_dotted hdotted).1 htidy)⟩
      | colons hcolons =>
        rw [hzone] at hcolons htidy
        exact ⟨_, .colons ((loose_iff_valid hcolons).2 htidy)⟩

/-- **When the texts of addresses are read by value**: what is read as an IPv6 address is tidy, and
so is a public host, with its brackets in pairs. -/
theorem address_by_value_iff (hlower : LowersTexts env.lower) : ByValue env text ↔
    (∀ words, LooseIpv6 (withoutZone text) words → Tidy (withoutZone text)) ∧
      ∀ a, LooseAddress (stripBrackets text) a → a.networkClass = .publicNetwork →
        Tidy (withoutZone (stripBrackets text)) ∧ Paired text := by
  constructor
  · intro h
    refine ⟨fun words hloose => ?_, fun a ha hpublic => ?_⟩
    · exact (loose_iff_valid hloose).1 ((h.words words).1 ((ipv6Words_iff hlower).2 hloose))
    · exact (literal_iff ha).1 (h.valid ((classifyHost_address hlower ha).trans hpublic))
  · rintro ⟨htidy, hpaired⟩
    refine ⟨fun words => ?_, fun a other htext hother => ?_, fun a b c d other hother htext => ?_, fun hpublic => ?_⟩
    · rw [ipv6Words_iff hlower]
      exact ⟨fun h => (loose_iff_valid h).2 (htidy words h), ipv6_loose⟩
    · rw [classifyHost_address hlower htext.loose, classifyHost_address hlower hother.loose]
    · rw [classifyHost_address hlower htext.loose, classifyHost_address hlower hother.loose]
      cases hother with
      | dotted hdotted =>
        have hsmall := isDotted_bounds hdotted
        simp only [List.forall_mem_cons] at hsmall
        exact classifyIpv6_mapped hsmall.2.1 hsmall.2.2.2.1
    · obtain ⟨a, ha, hclass⟩ := classifyHost_public hlower hpublic
      exact (literal_iff ha).2 (hpaired a ha hclass)

theorem lowersTexts_map : LowersTexts (List.map Char.toLower) := by
  intro text
  refine ⟨text.map fun c => [c.toLower], ?_, ?_⟩
  · induction text with
    | nil => rfl
    | cons c text ih => exact congrArg (c.toLower :: ·) ih
  · induction text with
    | nil => exact .nil
    | cons c text ih =>
      refine .cons ?_ ih
      unfold LowersTo
      split_ifs with hascii
      · rfl
      · refine ⟨List.cons_ne_nil _ _, fun d hd => .inl ?_⟩
        rw [List.mem_singleton.1 hd]
        rcases toLower_fixed_or c with hfixed | hletter
        · rw [hfixed]
          omega
        · have hall : ("ABCDEFGHIJKLMNOPQRSTUVWXYZ".toList.all fun c => decide (c.toNat < 0x80)) = true := by decide
          exact absurd (of_decide_eq_true (List.all_eq_true.1 hall c hletter)) hascii

/-- The address of a name server is read by its value. -/
theorem address_by_value : ByValue (Sample.platform [] [] []) "2001:4860:4860::8888".toList := by
  have htidy : Tidy (withoutZone "2001:4860:4860::8888".toList) := ⟨by decide, by decide⟩
  refine (address_by_value_iff lowersTexts_map).2 ⟨fun _ _ => htidy, fun _ _ _ => ⟨htidy, ?_⟩⟩
  unfold Paired
  decide

/-- **A text that is no address is read as a public one**: its dotted part is not the last. -/
theorem dotted_front_public : ipv6Words (Sample.platform [] [] []) "1.2.3.4::1".toList = some [0x102, 0x304, 0, 0, 0, 0, 0, 1] ∧
    classifyHost (Sample.platform [] [] []) "1.2.3.4::1".toList = .publicNetwork ∧
    ¬∃ a, IsLiteral "1.2.3.4::1".toList a := by
  refine ⟨by decide, by decide, fun hliteral => ?_⟩
  have hread : ipv6Words (Sample.platform [] [] []) "1.2.3.4::1".toList = some [0x102, 0x304, 0, 0, 0, 0, 0, 1] := by decide
  have hloose : LooseAddress (stripBrackets "1.2.3.4::1".toList) (.v6 [0x102, 0x304, 0, 0, 0, 0, 0, 1]) :=
    .colons ((ipv6Words_iff lowersTexts_map).1 hread)
  have htidy := ((literal_iff hloose).1 hliteral).1
  exact absurd (htidy.last "1.2.3.4".toList (by decide)) (by decide)

end OfflineWebArchiver.Scope
