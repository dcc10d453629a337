import Mathlib.Data.List.Forall2
import OfflineWebArchiver.Base.Utf16

/-!
# Lower case

`toLowerCase` by the Unicode tables, as far as a search for an ASCII text depends on it.

* `LowerPiece`: what one unit becomes. Only U+0130 becomes two units, and only the Kelvin sign
  becomes an ASCII letter.
* `LowerCase`: a function that maps every text unit by unit in this way.
* `LowerCase.indexOf_eq`: a search in the lower-case text finds what a search ignoring ASCII case
  finds, moved by the number of U+0130 in front.
-/

namespace OfflineWebArchiver

def lowerUnit (c : CodeUnit) : CodeUnit := if unit 'A' ≤ c && c ≤ unit 'Z' then c + 32 else c

/-- What `toLowerCase` makes of a unit. For the units that are neither ASCII nor named here the
result is one unit, which may depend on the units around. -/
inductive LowerPiece : CodeUnit → Text → Prop
  | ascii {c : CodeUnit} (hc : c < 0x80) : LowerPiece c [lowerUnit c]
  | dotted : LowerPiece 0x130 [0x69, 0x307]
  | kelvin : LowerPiece 0x212a [0x6b]
  | other {c d : CodeUnit} (hc : 0x80 ≤ c) (hdotted : c ≠ 0x130) (hd : 0x80 ≤ d) : LowerPiece c [d]

/-- **Lower case by the Unicode tables.** -/
def LowerCase (lower : Text → Text) : Prop :=
  ∀ text, ∃ pieces, lower text = pieces.flatten ∧ List.Forall₂ LowerPiece text pieces

/-- How many units in front of `i` become two units. -/
def dotsBefore (text : Text) (i : ℕ) : ℕ := (text.take i).count 0x130

/-- `indexOf` that ignores the case of ASCII letters; the needle is in lower case. -/
def indexOfAscii (text needle : Text) (position : ℕ) : Option ℕ :=
  indexOf (text.map lowerUnit) needle position

/-- The first match that is not in front of `position` once it is moved by the number of U+0130
in front of it, at its moved place. -/
def movedIndexOf (text needle : Text) (position : ℕ) : Option ℕ :=
  ((List.range text.length).find? fun i => decide (position ≤ i + dotsBefore text i) &&
    startsWithAt (text.map lowerUnit) needle i).map fun i => i + dotsBefore text i

/-- What a needle must be for the search: ASCII in lower case, without `k`, not ended by `i`. -/
def isNeedle : Text → Bool
  | [] => true
  | [c] => c < 0x80 && c != 0x6b && c != 0x69
  | c :: d :: t => c < 0x80 && c != 0x6b && isNeedle (d :: t)

variable {lower : Text → Text} {text needle : Text} {pieces : List Text}
variable {i j m position : ℕ}

theorem isNeedle_cons {c : CodeUnit} (h : isNeedle (c :: needle) = true) :
    c < 0x80 ∧ c ≠ 0x6b ∧ (needle = [] → c ≠ 0x69) ∧ isNeedle needle = true := by
  cases needle with
  | nil => simp_all [isNeedle]
  | cons d t =>
    simp only [isNeedle, Bool.and_eq_true, bne_iff_ne, decide_eq_true_eq] at h
    exact ⟨h.1.1, h.1.2, by simp, h.2⟩

theorem lowerUnit_of_le {c : CodeUnit} (hc : 0x80 ≤ c) : lowerUnit c = c := by
  rw [lowerUnit, if_neg]
  simp only [Bool.and_eq_true, decide_eq_true_eq, not_and, UInt16.not_le]
  intro _
  exact UInt16.lt_of_lt_of_le (by decide) hc

/-- A needle stands at the front of the lower-case text when it stands there ignoring ASCII case. -/
theorem isPrefixOf_pieces (hneedle : isNeedle needle = true)
    (hpieces : List.Forall₂ LowerPiece text pieces) :
    needle.isPrefixOf pieces.flatten = needle.isPrefixOf (text.map lowerUnit) := by
  induction needle generalizing text pieces with
  | nil => simp
  | cons c needle ih =>
    obtain ⟨hascii, hkelvin, hlast, hrest⟩ := isNeedle_cons hneedle
    cases hpieces with
    | nil => rfl
    | @cons u piece text pieces hpiece hpieces =>
      have hupper : ∀ {v : CodeUnit}, 0x80 ≤ v → (c == v) = false := by
        intro v hv
        rw [beq_eq_false_iff_ne]
        rintro rfl
        exact absurd hascii (UInt16.not_lt.2 hv)
      rw [List.map_cons, List.flatten_cons]
      cases hpiece with
      | ascii hc =>
        rw [List.singleton_append, List.isPrefixOf_cons_cons, List.isPrefixOf_cons_cons, ih hrest hpieces]
      | dotted =>
        rw [lowerUnit_of_le (by decide), List.cons_append, List.isPrefixOf_cons_cons, List.isPrefixOf_cons_cons,
          hupper (v := 0x130) (by decide), Bool.false_and]
        -- an `i` is followed by an ASCII unit in the needle
        cases hneedle' : needle with
        | nil => simp [hlast hneedle']
        | cons d t =>
          rw [hneedle'] at hrest
          have hd := (isNeedle_cons hrest).1
          have : (d == 0x307) = false := by
            rw [beq_eq_false_iff_ne]
            rintro rfl
            exact absurd hd (by decide)
          rw [List.cons_append, List.isPrefixOf_cons_cons, this, Bool.false_and, Bool.and_false]
      | kelvin =>
        rw [lowerUnit_of_le (by decide), List.singleton_append, List.isPrefixOf_cons_cons, List.isPrefixOf_cons_cons,
          hupper (v := 0x212a) (by decide), Bool.false_and, beq_eq_false_iff_ne.2 hkelvin,
          Bool.false_and]
      | other hc _ hd =>
        rw [lowerUnit_of_le hc, List.singleton_append, List.isPrefixOf_cons_cons, List.isPrefixOf_cons_cons, hupper hd,
          hupper hc, Bool.false_and, Bool.false_and]

/-! ### Where a search finds its needle -/

theorem startsWithAt_lt (hne : needle ≠ []) (h : startsWithAt text needle i = true) :
    i < text.length := by
  by_contra hlt
  rw [startsWithAt, List.drop_eq_nil_of_le (by omega)] at h
  cases needle with
  | nil => exact hne rfl
  | cons c t => cases h

theorem indexOf_eq_some (hne : needle ≠ []) : indexOf text needle position = some i ↔
    position ≤ i ∧ startsWithAt text needle i = true ∧
      ∀ j, position ≤ j → j < i → startsWithAt text needle j = false := by
  rw [indexOf, List.find?_range_eq_some]
  simp only [Bool.and_eq_true, decide_eq_true_eq, List.mem_range, Bool.not_eq_true',
    Bool.and_eq_false_iff, decide_eq_false_iff_not]
  constructor
  · rintro ⟨⟨hle, hstart⟩, -, hmin⟩
    refine ⟨hle, hstart, fun j hj hji => ?_⟩
    exact (hmin j hji).resolve_left (not_not_intro hj)
  · rintro ⟨hle, hstart, hmin⟩
    refine ⟨⟨hle, hstart⟩, startsWithAt_lt hne hstart, fun j hji => ?_⟩
    by_cases hj : position ≤ j
    · exact Or.inr (hmin j hj hji)
    · exact Or.inl hj

theorem indexOf_eq_none (hne : needle ≠ []) : indexOf text needle position = none ↔
    ∀ j, position ≤ j → startsWithAt text needle j = false := by
  rw [indexOf, List.find?_eq_none]
  simp only [List.mem_range, Bool.and_eq_true, decide_eq_true_eq, not_and, Bool.not_eq_true]
  constructor
  · intro h j hj
    by_contra hstart
    have hstart : startsWithAt text needle j = true := by simpa using hstart
    exact Bool.false_ne_true ((h j (startsWithAt_lt hne hstart) hj).symm.trans hstart)
  · exact fun h j _ hj => h j hj

theorem dotsBefore_succ (c : CodeUnit) (t : Text) (i : ℕ) :
    dotsBefore (c :: t) (i + 1) = dotsBefore t i + if c = 0x130 then 1 else 0 := by
  rw [dotsBefore, List.take_succ_cons, List.count_cons]
  simp [dotsBefore]

theorem dotsBefore_mono (text : Text) (h : i ≤ j) : dotsBefore text i ≤ dotsBefore text j :=
  List.Sublist.count_le _ (List.take_sublist_take_left h)

/-- **A match in the lower-case text** is a match that ignores ASCII case, moved. -/
theorem startsWithAt_pieces (hne : needle ≠ []) (hneedle : isNeedle needle = true)
    (hpieces : List.Forall₂ LowerPiece text pieces) :
    startsWithAt pieces.flatten needle m = true ↔
      ∃ i, i + dotsBefore text i = m ∧ startsWithAt (text.map lowerUnit) needle i = true := by
  obtain ⟨c, t, rfl⟩ := List.exists_cons_of_ne_nil hne
  induction hpieces generalizing m with
  | nil => simp [startsWithAt]
  | @cons u piece text pieces hpiece hpieces ih =>
    cases m with
    | zero =>
      have hfront := isPrefixOf_pieces hneedle (.cons hpiece hpieces)
      constructor
      · intro h
        refine ⟨0, by simp [dotsBefore], ?_⟩
        rw [startsWithAt, List.drop_zero] at h ⊢
        rw [← hfront, h]
      · rintro ⟨i, hi, h⟩
        obtain rfl : i = 0 := by omega
        rw [startsWithAt, List.drop_zero] at h ⊢
        rw [hfront, h]
    | succ m =>
      -- behind the first unit
      have hbehind : (∃ i, i + dotsBefore (u :: text) i = m + 1 ∧
            startsWithAt ((u :: text).map lowerUnit) (c :: t) i = true) ↔
          ∃ i, i + dotsBefore text i + (if u = 0x130 then 1 else 0) = m ∧
            startsWithAt (text.map lowerUnit) (c :: t) i = true := by
        constructor
        · rintro ⟨i, hi, h⟩
          cases i with
          | zero => simp [dotsBefore] at hi
          | succ i =>
            rw [dotsBefore_succ] at hi
            exact ⟨i, by omega, by simpa [startsWithAt] using h⟩
        · rintro ⟨i, hi, h⟩
          exact ⟨i + 1, by rw [dotsBefore_succ]; omega, by simpa [startsWithAt] using h⟩
      rw [hbehind, List.flatten_cons]
      have hsingle : ∀ d, piece = [d] → u ≠ 0x130 →
          (startsWithAt (piece ++ pieces.flatten) (c :: t) (m + 1) = true ↔
            ∃ i, i + dotsBefore text i + (if u = 0x130 then 1 else 0) = m ∧
              startsWithAt (text.map lowerUnit) (c :: t) i = true) := by
        rintro d rfl hu
        rw [if_neg hu]
        exact ih
      cases hpiece with
      | ascii hc => exact hsingle _ rfl (by rintro rfl; exact absurd hc (by decide))
      | kelvin => exact hsingle _ rfl (by decide)
      | other _ hdotted _ => exact hsingle _ rfl hdotted
      | dotted =>
        rw [if_pos rfl]
        cases m with
        | zero =>
          have hc := (isNeedle_cons hneedle).1
          have hdot : c ≠ 0x307 := by
            rintro rfl
            exact absurd hc (by decide)
          simp [startsWithAt, hdot]
        | succ m => simpa [startsWithAt] using ih (m := m)

/-- **A search in the lower-case text** finds the moved match. -/
theorem LowerCase.indexOf_eq (hlower : LowerCase lower) (hne : needle ≠ [])
    (hneedle : isNeedle needle = true) :
    indexOf (lower text) needle position = movedIndexOf text needle position := by
  obtain ⟨pieces, heq, hpieces⟩ := hlower text
  have hmatch : ∀ m, startsWithAt (lower text) needle m = true ↔
      ∃ i, i + dotsBefore text i = m ∧ startsWithAt (text.map lowerUnit) needle i = true := by
    intro m
    rw [heq]
    exact startsWithAt_pieces hne hneedle hpieces
  rw [movedIndexOf]
  cases hfind : (List.range text.length).find? fun i =>
      decide (position ≤ i + dotsBefore text i) && startsWithAt (text.map lowerUnit) needle i with
  | none =>
    rw [List.find?_eq_none] at hfind
    refine (indexOf_eq_none hne).2 fun j hj => ?_
    by_contra hstart
    obtain ⟨i, rfl, hi⟩ := (hmatch j).1 (by simpa using hstart)
    have hlt := startsWithAt_lt hne hi
    rw [List.length_map] at hlt
    exact hfind i (List.mem_range.2 hlt) (by simp [hj, hi])
  | some i =>
    rw [List.find?_range_eq_some] at hfind
    obtain ⟨hi, -, hmin⟩ := hfind
    simp only [Bool.and_eq_true, decide_eq_true_eq] at hi
    refine (indexOf_eq_some hne).2 ⟨hi.1, (hmatch _).2 ⟨i, rfl, hi.2⟩, fun j hj hji => ?_⟩
    by_contra hstart
    obtain ⟨k, rfl, hk⟩ := (hmatch j).1 (by simpa using hstart)
    simp only [] at hji
    -- an earlier match that is moved less far
    have hki : k < i := by
      by_contra hik
      have := dotsBefore_mono text (Nat.le_of_not_lt hik)
      omega
    have := hmin k hki
    simp [hj, hk] at this

/-- Lower case of texts with no letters but ASCII letters, U+0130 and the Kelvin sign. -/
def lowerDotted (text : Text) : Text :=
  text.flatMap fun c => if c = 0x130 then [0x69, 0x307] else if c = 0x212a then [0x6b] else [lowerUnit c]

theorem lowerDotted_lowerCase : LowerCase lowerDotted := by
  intro text
  refine ⟨text.map fun c => if c = 0x130 then [0x69, 0x307] else if c = 0x212a then [0x6b]
    else [lowerUnit c], List.flatMap_def, ?_⟩
  rw [List.forall₂_map_right_iff, List.forall₂_same]
  intro c _
  split_ifs with hdotted hkelvin
  · rw [hdotted]; exact .dotted
  · rw [hkelvin]; exact .kelvin
  · by_cases hc : c < 0x80
    · exact .ascii hc
    · have hc : 0x80 ≤ c := UInt16.not_lt.1 hc
      exact .other hc hdotted (by rw [lowerUnit_of_le hc]; exact hc)

end OfflineWebArchiver
