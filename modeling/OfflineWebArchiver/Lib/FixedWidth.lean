import Mathlib.Data.List.Forall2
import Mathlib.Tactic.Ring

/-!
# Texts of fixed width

A pattern is a list of characters in which `d` stands for a decimal digit and every
other character for itself. A text that fits a pattern writes one number with all
its digits, the `reading`.

* `lt_iff_reading_lt`: texts that fit one pattern are ordered as their readings.
* `reading_append`: the reading of a text by its parts.
* `reading_field`: the reading of a text that begins with a field of digits.
-/

namespace FixedWidth

/-- The value of a decimal digit. -/
def digit (c : Char) : ℕ := c.toNat - '0'.toNat

/-- The text fits the pattern. -/
abbrev Fits (pattern text : List Char) : Prop :=
  List.Forall₂ (fun p c => if p = 'd' then c.isDigit = true else c = p) pattern text

/-- The number that the digits at the places of the pattern write. -/
def reading : List Char → List Char → ℕ
  | p :: ps, c :: cs =>
    if p = 'd' then digit c * 10 ^ ps.count 'd' + reading ps cs else reading ps cs
  | _, _ => 0

attribute [local simp] reading

variable {ps qs cs ds : List Char} {c d : Char}

theorem digit_le (h : c.isDigit = true) : digit c ≤ 9 := by
  have hc := Char.isDigit_iff_toNat.1 h
  have h0 : '0'.toNat = 48 := rfl
  have h9 : '9'.toNat = 57 := rfl
  unfold digit
  omega

theorem lt_iff_digit_lt (hc : c.isDigit = true) (hd : d.isDigit = true) : c < d ↔ digit c < digit d := by
  have h1 := Char.isDigit_iff_toNat.1 hc
  have h2 := Char.isDigit_iff_toNat.1 hd
  rw [Char.lt_def, UInt32.lt_iff_toNat_lt]
  change c.toNat < d.toNat ↔ _
  unfold digit
  omega

theorem eq_iff_digit_eq (hc : c.isDigit = true) (hd : d.isDigit = true) : c = d ↔ digit c = digit d := by
  have h1 := lt_iff_digit_lt hc hd
  have h2 := lt_iff_digit_lt hd hc
  constructor
  · rintro rfl
    rfl
  · intro h
    exact Char.le_antisymm (Char.not_lt.1 (by rw [h2]; omega)) (Char.not_lt.1 (by rw [h1]; omega))

/-- The order of two numbers by their leading digits. -/
theorem lead_lt_iff {x y r s unit : ℕ} (hr : r < unit) (hs : s < unit) :
    x * unit + r < y * unit + s ↔ x < y ∨ x = y ∧ r < s := by
  rcases lt_trichotomy x y with hlt | rfl | hgt
  · have hstep := Nat.mul_le_mul_right unit hlt
    rw [Nat.succ_mul] at hstep
    exact ⟨fun _ => Or.inl hlt, fun _ => by omega⟩
  · simp
  · have hstep := Nat.mul_le_mul_right unit hgt
    rw [Nat.succ_mul] at hstep
    constructor
    · intro h
      omega
    · rintro (h | ⟨h, -⟩) <;> omega

/-- The digits behind a place are worth less than one unit of it. -/
theorem reading_lt (h : Fits ps cs) : reading ps cs < 10 ^ ps.count 'd' := by
  induction h with
  | nil => simp [reading]
  | @cons p c ps cs hpc _ ih =>
    by_cases hp : p = 'd'
    · subst hp
      have hmul := Nat.mul_le_mul_right (10 ^ ps.count 'd') (digit_le hpc)
      simp only [reading, if_true, List.count_cons_self, Nat.pow_succ]
      omega
    · simp only [reading, if_neg hp, List.count_cons_of_ne hp]
      exact ih

/-- **Texts that fit one pattern are ordered as their readings.** -/
theorem lt_iff_reading_lt (hc : Fits ps cs) (hd : Fits ps ds) : cs < ds ↔ reading ps cs < reading ps ds := by
  induction hc generalizing ds with
  | nil =>
    cases hd
    simp [reading]
  | @cons p c ps cs hpc hrest ih =>
    cases hd with
    | @cons _ d _ ds hpd hds =>
      rw [List.cons_lt_cons_iff, ih hds]
      by_cases hp : p = 'd'
      · subst hp
        simp only [reading, if_true]
        rw [lead_lt_iff (reading_lt hrest) (reading_lt hds), lt_iff_digit_lt hpc hpd, eq_iff_digit_eq hpc hpd]
      · rw [if_neg hp] at hpc hpd
        subst hpc hpd
        simp [reading, hp]

/-- The reading of a text by its parts. -/
theorem reading_append (qs ds : List Char) (h : Fits ps cs) : reading (ps ++ qs) (cs ++ ds) =
    reading ps cs * 10 ^ qs.count 'd' + reading qs ds := by
  induction h with
  | nil => simp [reading]
  | @cons p c ps cs _ _ ih =>
    simp only [List.cons_append, reading, ih, List.count_append]
    split_ifs
    · ring
    · rfl

/-- A field of digits reads as the number that it writes. -/
theorem reading_digits (cs : List Char) :
    reading (List.replicate cs.length 'd') cs = Nat.ofDigitChars 10 cs 0 := by
  induction cs with
  | nil => rfl
  | cons c cs ih =>
    rw [Nat.ofDigitChars_cons, Nat.ofDigitChars_eq_ofDigitChars_zero]
    simp only [List.length_cons, List.replicate_succ, reading, if_true, List.count_replicate_self, ih, digit]
    ring

theorem fits_digits (h : ∀ c ∈ cs, c.isDigit = true) : Fits (List.replicate cs.length 'd') cs := by
  induction cs with
  | nil => exact .nil
  | cons c cs ih =>
    rw [List.length_cons, List.replicate_succ]
    exact .cons (by simpa using h c (by simp)) (ih fun d hd => h d (by simp [hd]))

/-- A text that begins with a field of `n` digits and a fixed character. -/
theorem reading_field {n : ℕ} {p : Char} (hp : p ≠ 'd') (h : Fits (List.replicate n 'd' ++ p :: ps) cs) :
    Fits ps (cs.drop (n + 1)) ∧ Nat.ofDigitChars 10 (cs.take n) 0 < 10 ^ n ∧
      reading (List.replicate n 'd' ++ p :: ps) cs =
        Nat.ofDigitChars 10 (cs.take n) 0 * 10 ^ ps.count 'd' + reading ps (cs.drop (n + 1)) := by
  have hlen := h.length_eq
  rw [List.length_append, List.length_replicate] at hlen
  have hfield : Fits (List.replicate n 'd') (cs.take n) := by
    have := List.forall₂_take n h
    rwa [List.take_left' (List.length_replicate ..)] at this
  have hrest : Fits (p :: ps) (cs.drop n) := by
    have := List.forall₂_drop n h
    rwa [List.drop_left' (List.length_replicate ..)] at this
  have hread := reading_append (p :: ps) (cs.drop n) hfield
  have hnumber := reading_digits (cs.take n)
  rw [List.length_take, Nat.min_eq_left (by omega)] at hnumber
  have hlt := reading_lt hfield
  rw [hnumber, List.count_replicate_self] at hlt
  rw [List.take_append_drop, hnumber, List.count_cons_of_ne hp] at hread
  rw [hread, ← List.tail_drop]
  cases hds : cs.drop n with
  | nil => rw [hds] at hrest; cases hrest
  | cons c ds =>
    rw [hds] at hrest
    obtain ⟨-, hps⟩ := List.forall₂_cons.1 hrest
    exact ⟨hps, hlt, by simp [reading, hp]⟩

end FixedWidth
