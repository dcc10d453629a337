import Mathlib.Data.List.Forall2

/-!
# Checks that collect their errors

A computation that goes on after a failed check, and keeps a list of all that has failed.

* `report`, `reportIf`: add an error, perhaps only if a condition holds.
* `Quiet`: the computation returns a value and adds no error.
* `quiet_bind`, `quiet_reportIf`, `of_quiet_collectFrom`: what a quiet computation is made of.
-/

/-- A value, and the errors on the way. -/
structure Collect (ε α : Type) where
  value : α
  errors : List ε

namespace Collect

variable {ε α β : Type}

instance : Monad (Collect ε) where
  pure a := ⟨a, []⟩
  bind x f := ⟨(f x.value).value, x.errors ++ (f x.value).errors⟩

def report (e : ε) : Collect ε Unit := ⟨(), [e]⟩

/-- `if (c) errors.push(e)`. -/
def reportIf (c : Prop) [Decidable c] (e : ε) : Collect ε Unit := if c then report e else pure ()

/-- Returns `a`, without errors. -/
def Quiet (x : Collect ε α) (a : α) : Prop := x.value = a ∧ x.errors = []

variable {x : Collect ε α} {f : α → Collect ε β} {a b : α} {e : ε}

theorem quiet_pure : Quiet (pure a : Collect ε α) b ↔ a = b := by
  unfold Quiet
  exact ⟨fun h => h.1, fun h => ⟨h, rfl⟩⟩

theorem quiet_bind {b : β} : Quiet (x >>= f) b ↔ ∃ a, Quiet x a ∧ Quiet (f a) b := by
  unfold Quiet
  constructor
  · rintro ⟨hvalue, herrors⟩
    obtain ⟨hx, hf⟩ := List.append_eq_nil_iff.1 herrors
    exact ⟨x.value, ⟨rfl, hx⟩, hvalue, hf⟩
  · rintro ⟨a, ⟨rfl, hx⟩, hvalue, hf⟩
    exact ⟨hvalue, List.append_eq_nil_iff.2 ⟨hx, hf⟩⟩

theorem not_quiet_report {u : Unit} : ¬Quiet (report e) u := by
  rintro ⟨-, h⟩
  cases h

theorem quiet_reportIf {c : Prop} [Decidable c] {u : Unit} : Quiet (reportIf c e) u ↔ ¬c := by
  unfold reportIf
  by_cases h : c
  · rw [if_pos h]
    exact ⟨fun hquiet => absurd hquiet not_quiet_report, fun hnot => absurd h hnot⟩
  · rw [if_neg h]
    exact ⟨fun _ => h, fun _ => ⟨rfl, rfl⟩⟩

/-- A check that ends with an error and nothing is never quiet. -/
theorem not_quiet_report_bind {b : β} {k : Unit → Collect ε β} : ¬Quiet (report e >>= k) b := by
  rw [quiet_bind]
  rintro ⟨u, hu, -⟩
  exact not_quiet_report hu

/-- Check the elements one after the other, from the index `i` on, and keep those that have a value. -/
def collectFrom (g : ℕ → α → Collect ε (Option β)) : ℕ → List α → Collect ε (List β)
  | _, [] => pure []
  | i, a :: rest => do
    let found ← g i a
    let others ← collectFrom g (i + 1) rest
    return found.toList ++ others

section collectFrom

variable {g : ℕ → α → Collect ε (Option β)} {P : α → β → Prop} {i : ℕ} {l : List α} {r : List β}

/-- Where only elements with a value are quiet, a quiet run has one value for each element. -/
theorem of_quiet_collectFrom (hg : ∀ i a found, Quiet (g i a) found → ∃ b, found = some b ∧ P a b)
    (h : Quiet (collectFrom g i l) r) : List.Forall₂ P l r := by
  induction l generalizing i r with
  | nil =>
    rw [collectFrom, quiet_pure] at h
    subst h
    exact .nil
  | cons a l ih =>
    rw [collectFrom] at h
    obtain ⟨found, hfound, hrest⟩ := quiet_bind.1 h
    obtain ⟨others, hothers, hpure⟩ := quiet_bind.1 hrest
    obtain ⟨b, rfl, hb⟩ := hg i a found hfound
    have hr : b :: others = r := quiet_pure.1 hpure
    rw [← hr]
    exact .cons hb (ih hothers)

/-- The values are found again in what is made of them. -/
theorem quiet_collectFrom_map {write : β → α} (hg : ∀ i, ∀ b ∈ r, Quiet (g i (write b)) (some b)) :
    Quiet (collectFrom g i (r.map write)) r := by
  induction r generalizing i with
  | nil => exact quiet_pure.2 rfl
  | cons b r ih =>
    obtain ⟨hb, hr⟩ : (∀ i, Quiet (g i (write b)) (some b)) ∧ ∀ i, ∀ b ∈ r, Quiet (g i (write b)) (some b) :=
      ⟨fun i => hg i b (by simp), fun i c hc => hg i c (by simp [hc])⟩
    rw [List.map_cons, collectFrom]
    exact quiet_bind.2 ⟨some b, hb i, quiet_bind.2 ⟨r, ih hr, quiet_pure.2 rfl⟩⟩

/-- What holds of the value of every element holds of every value. -/
theorem forall_of_forall₂ {Q : β → Prop} (h : List.Forall₂ (fun _ b => Q b) l r) : ∀ b ∈ r, Q b := by
  induction h with
  | nil =>
    intro b hb
    cases hb
  | cons hb _ ih => exact List.forall_mem_cons.2 ⟨hb, ih⟩

end collectFrom

end Collect
