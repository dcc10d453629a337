import Mathlib.Data.Nat.Basic
import Mathlib.Order.Basic

/-!
# Fencing tokens

Resources are handed out one holder at a time. Each grant raises the resource's
generation, so a former holder can be told from the current one; a holder may be
dropped at any time, and only a grant makes a new one.

`Move s l t` is one move, with the grant it makes as its label, and `Trace` a run
of them.

* `Trace.mono`, `Trace.lt_of_grant`: generations never fall and rise at grants.
* `Trace.holder_latest`: **whoever holds a resource got it by its latest grant.**
* `Trace.held_or_lost`: while the generation of a grant is current, nobody else
  holds the resource.
* `Trace.free_of_generation`: a free resource is free until its generation rises.
-/

namespace Fencing

variable {K A : Type}

/-- The generation of each resource and what its holder was given. -/
structure State (K A : Type) where
  generation : K → ℕ
  holder : K → Option A

/-- One move. The label is the grant that it makes, if any. -/
inductive Move (s : State K A) : Option (K × A) → State K A → Prop
  | drop {t : State K A} (hg : ∀ k, t.generation k = s.generation k)
      (hh : ∀ k, t.holder k = s.holder k ∨ t.holder k = none) : Move s none t
  | grant {t : State K A} (k : K) (a : A) (hg : t.generation k = s.generation k + 1)
      (hk : t.holder k = some a)
      (hother : ∀ k', k' ≠ k → t.generation k' = s.generation k' ∧ t.holder k' = s.holder k') :
      Move s (some (k, a)) t

/-- A run of moves through the states `σ` with the labels `l`. -/
def Trace (σ : ℕ → State K A) (l : ℕ → Option (K × A)) : Prop := ∀ n, Move (σ n) (l n) (σ (n + 1))

theorem Move.generation_le {s t : State K A} {l : Option (K × A)} (h : Move s l t) (k : K) :
    s.generation k ≤ t.generation k := by
  cases h with
  | drop hg hh => exact (hg k).ge
  | grant k' a hg hk hother =>
    by_cases hkk : k = k'
    · subst hkk; omega
    · exact (hother k hkk).1.ge

/-- A move that grants nothing on `k` leaves its generation, and its holder or nobody. -/
theorem Move.of_not_grant {s t : State K A} {l : Option (K × A)} (h : Move s l t) {k : K}
    (hl : ∀ a, l ≠ some (k, a)) :
    t.generation k = s.generation k ∧ (t.holder k = s.holder k ∨ t.holder k = none) := by
  cases h with
  | drop hg hh => exact ⟨hg k, hh k⟩
  | grant k' a hg hk hother =>
    have hkk : k ≠ k' := by rintro rfl; exact hl a rfl
    exact ⟨(hother k hkk).1, Or.inl (hother k hkk).2⟩

theorem Move.of_grant {s t : State K A} {k : K} {a : A} (h : Move s (some (k, a)) t) :
    t.generation k = s.generation k + 1 ∧ t.holder k = some a := by
  cases h with
  | grant _ _ hg hk _ => exact ⟨hg, hk⟩

namespace Trace

variable {σ : ℕ → State K A} {l : ℕ → Option (K × A)}

/-- Generations never fall. -/
theorem mono (h : Trace σ l) (k : K) {m n : ℕ} (hmn : m ≤ n) :
    (σ m).generation k ≤ (σ n).generation k := by
  induction n with
  | zero => obtain rfl : m = 0 := by omega
            exact le_rfl
  | succ n ih =>
    rcases Nat.eq_or_lt_of_le hmn with h' | h'
    · rw [h']
    · exact (ih (by omega)).trans ((h n).generation_le k)

/-- A grant between two points raises the generation. -/
theorem lt_of_grant (h : Trace σ l) {k : K} {a : A} {m i n : ℕ} (hmi : m ≤ i) (hin : i < n)
    (hl : l i = some (k, a)) : (σ m).generation k < (σ n).generation k := by
  have h1 := h.mono k hmi
  have h2 := h i
  rw [hl] at h2
  have h3 := h2.of_grant.1
  have h4 := h.mono k (show i + 1 ≤ n by omega)
  omega

/-- **The holder is the latest grantee.** -/
theorem holder_latest (h : Trace σ l) {k : K} (h0 : (σ 0).holder k = none) {n : ℕ}
    {a : A} (ha : (σ n).holder k = some a) :
    ∃ m < n, l m = some (k, a) ∧ (σ n).generation k = (σ (m + 1)).generation k ∧
      ∀ i, m < i → i < n → ∀ b, l i ≠ some (k, b) := by
  induction n with
  | zero => rw [h0] at ha; cases ha
  | succ n ih =>
    have hmove := h n
    by_cases hl : ∃ b, l n = some (k, b)
    · obtain ⟨b, hb⟩ := hl
      rw [hb] at hmove
      have hba : b = a := by
        have := hmove.of_grant.2
        rw [ha] at this
        exact (Option.some.inj this).symm
      subst hba
      exact ⟨n, by omega, hb, rfl, fun i hi hi' => by omega⟩
    · have hno : ∀ b, l n ≠ some (k, b) := fun b hb => hl ⟨b, hb⟩
      obtain ⟨hgen, hholder⟩ := hmove.of_not_grant hno
      have hprev : (σ n).holder k = some a := by
        rcases hholder with hholder | hholder
        · rw [← hholder]; exact ha
        · rw [hholder] at ha; cases ha
      obtain ⟨m, hm, hlm, hg, hlast⟩ := ih hprev
      refine ⟨m, by omega, hlm, hgen.trans hg, fun i hi hi' b => ?_⟩
      rcases Nat.lt_succ_iff_lt_or_eq.1 hi' with hin | rfl
      · exact hlast i hi hin b
      · exact hno b

/-- While the generation of a grant is current, its grantee holds the resource or
nobody does. -/
theorem held_or_lost (h : Trace σ l) {k : K} {a : A} {m n : ℕ} (hmn : m < n)
    (hl : l m = some (k, a)) (hg : (σ n).generation k = (σ (m + 1)).generation k) :
    (σ n).holder k = some a ∨ (σ n).holder k = none := by
  induction n with
  | zero => omega
  | succ n ih =>
    have hmove := h n
    rcases Nat.lt_succ_iff_lt_or_eq.1 hmn with hmn' | rfl
    · -- no grant can lie between, since it would raise the generation
      have hno : ∀ b, l n ≠ some (k, b) := by
        intro b hb
        have hlt : (σ (m + 1)).generation k < (σ (n + 1)).generation k :=
          h.lt_of_grant (show m + 1 ≤ n by omega) (Nat.lt_succ_self n) hb
        omega
      obtain ⟨hgen, hholder⟩ := hmove.of_not_grant hno
      rcases hholder with hholder | hholder
      · rw [hholder]; exact ih hmn' (hgen ▸ hg)
      · exact Or.inr hholder
    · rw [hl] at hmove
      exact Or.inl hmove.of_grant.2

/-- While the generation stands, a free resource stays free. -/
theorem free_of_generation (h : Trace σ l) {k : K} {m n : ℕ} (hmn : m ≤ n)
    (hfree : (σ m).holder k = none) (hg : (σ n).generation k = (σ m).generation k) :
    (σ n).holder k = none := by
  induction n with
  | zero =>
    obtain rfl : m = 0 := by omega
    exact hfree
  | succ n ih =>
    rcases Nat.eq_or_lt_of_le hmn with rfl | hlt
    · exact hfree
    · have hno : ∀ b, l n ≠ some (k, b) := by
        intro b hb
        have hraise : (σ m).generation k < (σ (n + 1)).generation k :=
          h.lt_of_grant (show m ≤ n by omega) (Nat.lt_succ_self n) hb
        omega
      obtain ⟨hgen, hholder⟩ := (h n).of_not_grant hno
      rcases hholder with hholder | hholder
      · rw [hholder]
        exact ih (by omega) (hgen.symm.trans hg)
      · exact hholder

end Trace

end Fencing
