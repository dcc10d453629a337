import Mathlib.Data.Nat.Notation
import Mathlib.Logic.Function.Basic

/-!
# Lock files

A lock is a file at a fixed path. Whoever creates the file exclusively holds the lock
until the file is removed. `Lock` keeps the identity of the file at the path, the file
that each holder has created, and the next identity.

* `Lock.Move`: what keeps the discipline. A holder removes its own file; anybody else
  removes only a file without a holder.
* `Lock.Move.sound`: under these moves the file of every holder stays at the path.
* `Lock.Sound.unique`: so there is one holder at most.
-/

/-- The file at the path, by its identity, and the files of the holders. -/
structure Lock (A : Type) where
  file : Option ℕ
  owns : A → Option ℕ
  fresh : ℕ

namespace Lock

variable {A : Type} {l l' : Lock A} {a b : A} {i : ℕ}

/-- The file of a holder is at the path, and its own. -/
structure Sound (l : Lock A) : Prop where
  placed : ∀ a i, l.owns a = some i → l.file = some i
  fresh : ∀ i, l.file = some i → i < l.fresh
  own : ∀ a b i, l.owns a = some i → l.owns b = some i → a = b

/-- **One holder at most.** -/
theorem Sound.unique (h : l.Sound) {j : ℕ} (ha : l.owns a = some i) (hb : l.owns b = some j) :
    a = b := by
  have hij : some i = some j := (h.placed a i ha).symm.trans (h.placed b j hb)
  rw [Option.some.inj hij] at ha
  exact h.own a b j ha hb

/-- A holder has no file when there is none. -/
theorem Sound.free (h : l.Sound) (hf : l.file = none) : ∀ a, l.owns a = none := by
  intro a
  cases ha : l.owns a with
  | none => rfl
  | some i => rw [h.placed a i ha] at hf; cases hf

/-- No file and no holder. -/
theorem sound_of_free (hf : l.file = none) (ho : ∀ a i, l.owns a ≠ some i) : l.Sound := by
  refine ⟨fun a i h => absurd h (ho a i), fun i h => ?_, fun a b i h => absurd h (ho a i)⟩
  rw [hf] at h
  cases h

/-- A step that keeps the discipline. -/
inductive Move (l l' : Lock A) : Prop
  /-- Somebody creates the file, which is not there, and holds the lock. -/
  | create (a : A) (hfile : l.file = none) (hfile' : l'.file = some l.fresh)
      (hfresh : l'.fresh = l.fresh + 1) (howner : l'.owns a = some l.fresh)
      (hothers : ∀ b, b ≠ a → l'.owns b = none ∨ l'.owns b = l.owns b)
  /-- A holder removes its own file. -/
  | release (a : A) (i : ℕ) (hown : l.owns a = some i) (hfile' : l'.file = none)
      (hfresh : l'.fresh = l.fresh) (howner : l'.owns a = none)
      (hothers : ∀ b, b ≠ a → l'.owns b = none ∨ l'.owns b = l.owns b)
  /-- Somebody removes a file that nobody holds. -/
  | takeover (hnone : ∀ a i, l.file = some i → l.owns a ≠ some i) (hfile' : l'.file = none)
      (hfresh : l'.fresh = l.fresh) (hothers : ∀ b, l'.owns b = none ∨ l'.owns b = l.owns b)
  /-- The file stays; a holder may end without removing it. -/
  | stay (hfile' : l'.file = l.file) (hfresh : l'.fresh = l.fresh)
      (hothers : ∀ b, l'.owns b = none ∨ l'.owns b = l.owns b)

/-- **The discipline keeps the lock sound.** -/
theorem Move.sound (m : Move l l') (h : l.Sound) : l'.Sound := by
  have hkeep : ∀ {c j}, (l'.owns c = none ∨ l'.owns c = l.owns c) → l'.owns c = some j →
      l.owns c = some j := by
    intro c j hc hj
    rcases hc with hc | hc
    · rw [hc] at hj; cases hj
    · rw [← hc]; exact hj
  cases m with
  | create a hfile hfile' hfresh howner hothers =>
    have honly : ∀ b j, l'.owns b = some j → b = a ∧ j = l.fresh := by
      intro b j hb
      by_cases hba : b = a
      · rw [hba, howner] at hb
        exact ⟨hba, (Option.some.inj hb).symm⟩
      · have := hkeep (hothers b hba) hb
        rw [h.free hfile b] at this
        cases this
    refine ⟨fun b j hb => ?_, fun j hj => ?_, fun b c j hb hc => ?_⟩
    · rw [hfile', (honly b j hb).2]
    · rw [hfile'] at hj
      rw [hfresh, ← Option.some.inj hj]
      exact Nat.lt_succ_self _
    · rw [(honly b j hb).1, (honly c j hc).1]
  | release a i hown hfile' hfresh howner hothers =>
    have hnone : ∀ b j, l'.owns b ≠ some j := by
      intro b j hb
      by_cases hba : b = a
      · rw [hba, howner] at hb; cases hb
      · exact hba (h.unique (hkeep (hothers b hba) hb) hown)
    exact sound_of_free hfile' hnone
  | takeover hnone hfile' hfresh hothers =>
    have hfree : ∀ b j, l'.owns b ≠ some j := by
      intro b j hb
      have hb := hkeep (hothers b) hb
      exact hnone b j (h.placed b j hb) hb
    exact sound_of_free hfile' hfree
  | stay hfile' hfresh hothers =>
    refine ⟨fun b j hb => ?_, fun j hj => ?_, fun b c j hb hc => ?_⟩
    · rw [hfile']; exact h.placed b j (hkeep (hothers b) hb)
    · rw [hfile'] at hj
      rw [hfresh]
      exact h.fresh j hj
    · exact h.own b c j (hkeep (hothers b) hb) (hkeep (hothers c) hc)

end Lock
