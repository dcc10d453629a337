import Mathlib.Data.List.Lex
import OfflineWebArchiver.Base.JsString

/-!
# The order of strings

The runtime compares strings by their UTF-16 code units. The database compares them by their UTF-8
bytes, which is the order of their characters and that of `String`.

* `jsLt_trans`, `jsLt_total`: the order of the runtime is a strict total order.
* `jsLt_iff`: **on plain texts the two orders agree.**
-/

namespace OfflineWebArchiver

theorem unitsLt_iff : ∀ {as bs : List ℕ}, unitsLt as bs = true ↔ as < bs
  | as, [] => by simp [unitsLt]
  | [], b :: bs => by simp [unitsLt]
  | a :: as, b :: bs => by
    rw [List.cons_lt_cons_iff, ← unitsLt_iff, unitsLt]
    rcases Nat.lt_trichotomy a b with h | h | h
    · simp [h]
    · simp [h]
    · have h1 : ¬a < b := by omega
      have h2 : a ≠ b := by omega
      simp [h, h1, h2]

/-- The code units of one character. -/
def charUnits (c : Char) : List ℕ :=
  let n := c.toNat
  if n < 0x10000 then [n] else [0xd800 + (n - 0x10000) / 0x400, 0xdc00 + (n - 0x10000) % 0x400]

theorem codeUnits_cons (c : Char) (s : JsString) : codeUnits (c :: s) = charUnits c ++ codeUnits s :=
  rfl

/-- No character is a surrogate. -/
theorem toNat_not_surrogate (c : Char) : c.toNat < 0xd800 ∨ 0xdfff < c.toNat ∧ c.toNat < 0x110000 :=
  c.valid

/-- **The units of a string determine it.** -/
theorem codeUnits_injective : ∀ {s t : JsString}, codeUnits s = codeUnits t → s = t
  | [], [], _ => rfl
  | [], d :: t, h => by
    rw [codeUnits_cons] at h
    unfold charUnits at h
    dsimp only at h
    split at h <;> cases h
  | c :: s, [], h => by
    rw [codeUnits_cons] at h
    unfold charUnits at h
    dsimp only at h
    split at h <;> cases h
  | c :: s, d :: t, h => by
    rw [codeUnits_cons, codeUnits_cons] at h
    have hc := toNat_not_surrogate c
    have hd := toNat_not_surrogate d
    have hunits : c.toNat = d.toNat ∧ codeUnits s = codeUnits t := by
      unfold charUnits at h
      dsimp only at h
      split_ifs at h with h1 h2 h2 <;>
        simp only [List.cons_append, List.nil_append, List.cons.injEq] at h
      · exact h
      · omega
      · omega
      · refine ⟨?_, h.2.2⟩
        have := Nat.div_add_mod (c.toNat - 0x10000) 0x400
        have := Nat.div_add_mod (d.toNat - 0x10000) 0x400
        omega
    rw [Char.toNat_inj.1 hunits.1, codeUnits_injective hunits.2]

theorem jsLt_irrefl (s : JsString) : jsLt s s = false := by
  rw [← Bool.not_eq_true]
  unfold jsLt
  rw [unitsLt_iff]
  exact lt_irrefl _

theorem jsLt_trans {s t u : JsString} (h : jsLt s t = true) (h' : jsLt t u = true) : jsLt s u = true := by
  unfold jsLt at h h' ⊢
  rw [unitsLt_iff] at h h' ⊢
  exact h.trans h'

theorem jsLt_asymm {s t : JsString} (h : jsLt s t = true) : jsLt t s = false := by
  rw [← Bool.not_eq_true]
  intro h'
  have := jsLt_trans h h'
  rw [jsLt_irrefl] at this
  cases this

/-- Of two different strings one comes first. -/
theorem jsLt_total {s t : JsString} (h : s ≠ t) : jsLt s t = true ∨ jsLt t s = true := by
  unfold jsLt
  rw [unitsLt_iff, unitsLt_iff]
  exact lt_or_gt_of_ne fun hunits => h (codeUnits_injective hunits)

/-- Every character is below the surrogates. -/
def Plain (s : String) : Prop := ∀ c ∈ s.toList, c.toNat < 0xd800

theorem unitsLt_plain : ∀ {s t : JsString}, (∀ c ∈ s, c.toNat < 0xd800) → (∀ c ∈ t, c.toNat < 0xd800) →
    (codeUnits s < codeUnits t ↔ s < t)
  | s, [], _, _ => by simp [codeUnits]
  | [], d :: t, _, ht => by
    have hd := ht d (by simp)
    have hunits : charUnits d = [d.toNat] := by
      unfold charUnits
      rw [if_pos (by omega)]
    rw [codeUnits_cons, hunits]
    simp [codeUnits]
  | c :: s, d :: t, hs, ht => by
    have hc := hs c (by simp)
    have hd := ht d (by simp)
    have hcu : charUnits c = [c.toNat] := by
      unfold charUnits
      rw [if_pos (by omega)]
    have hdu : charUnits d = [d.toNat] := by
      unfold charUnits
      rw [if_pos (by omega)]
    have ih := unitsLt_plain (fun c hc => hs c (List.mem_cons_of_mem _ hc))
      fun c hc => ht c (List.mem_cons_of_mem _ hc)
    rw [codeUnits_cons, codeUnits_cons, hcu, hdu, List.singleton_append, List.singleton_append,
      List.cons_lt_cons_iff, List.cons_lt_cons_iff, ih, Char.toNat_inj]
    exact Iff.rfl

/-- **On plain texts the two orders agree.** -/
theorem jsLt_iff {s t : String} (hs : Plain s) (ht : Plain t) :
    jsLt s.toList t.toList = true ↔ s < t := by
  unfold jsLt
  rw [unitsLt_iff, unitsLt_plain hs ht]
  exact String.lt_iff.symm

end OfflineWebArchiver
