import Mathlib.Data.List.Basic
import Mathlib.Order.Defs.Unbundled

/-!
# Programs that throw, and their weakest preconditions

A `Program σ ε α` runs on a state, returns a value and a new state, or throws.
A throw carries no state: whoever catches it still holds the state before.

`wp m Q R s` says that `m`, started in `s`, either returns with `Q` or throws
with `R`. With `R` true it is partial correctness, with `R` false it says that
`m` does return. The `simp` lemmas push `wp` through the program text, so a
program is verified by unfolding it.

* `wp_bind`: the rule of composition.
* `wp_mono`: consequence.
* `wp_forM_done`, `wp_foldlM_done`: loops, from an invariant of the body.
* `safe`: partial correctness, with `safe_bind` for composition.
-/

/-- A program on states `σ` that returns an `α` or throws an `ε`. -/
abbrev Program (σ ε α : Type) := StateT σ (Except ε) α

namespace Program

variable {σ ε α β : Type}

/-- The weakest precondition of `m` for returning with `Q` or throwing with `R`. -/
def wp (m : Program σ ε α) (Q : α → σ → Prop) (R : ε → Prop) (s : σ) : Prop :=
  match m.run s with
  | .ok (a, t) => Q a t
  | .error e => R e

/-- Throw `e` unless `b` holds. -/
def require (b : Bool) (e : ε) : Program σ ε Unit :=
  if b then pure () else throw e

/-- The value of an option, or throw `e`. -/
def orThrow (o : Option α) (e : ε) : Program σ ε α :=
  match o with
  | some a => pure a
  | none => throw e

/-- The result of a check, in a program. -/
def check (x : Except ε α) : Program σ ε α :=
  match x with
  | .ok a => pure a
  | .error e => throw e

/-- Replace what `m` throws. -/
def mapError (f : ε → ε) (m : Program σ ε α) : Program σ ε α := fun s =>
  match m.run s with
  | .ok r => .ok r
  | .error e => .error (f e)

variable {Q : α → σ → Prop} {R : ε → Prop} {s t : σ}

theorem wp_ok {m : Program σ ε α} {a : α} (h : wp m Q R s) (hm : m.run s = .ok (a, t)) : Q a t := by
  unfold wp at h; rw [hm] at h; exact h

theorem wp_error {m : Program σ ε α} {e : ε} (h : wp m Q R s) (hm : m.run s = .error e) : R e := by
  unfold wp at h; rw [hm] at h; exact h

/-- A program that may not throw returns. -/
theorem exists_of_wp {m : Program σ ε α} (h : wp m Q (fun _ => False) s) :
    ∃ a t, m.run s = .ok (a, t) ∧ Q a t := by
  unfold wp at h
  cases hm : m.run s with
  | ok p => rw [hm] at h; exact ⟨p.1, p.2, rfl, h⟩
  | error e => rw [hm] at h; exact h.elim

theorem wp_mono {m : Program σ ε α} {Q' : α → σ → Prop} {R' : ε → Prop} (h : wp m Q R s)
    (hQ : ∀ a t, Q a t → Q' a t) (hR : ∀ e, R e → R' e) : wp m Q' R' s := by
  unfold wp at h ⊢
  cases hm : m.run s with
  | ok p => rw [hm] at h; exact hQ _ _ h
  | error e => rw [hm] at h; exact hR _ h

/-- What always holds on return holds besides. -/
theorem wp_and {m : Program σ ε α} {Q' : α → σ → Prop} (h : wp m Q R s)
    (h' : wp m Q' (fun _ => True) s) : wp m (fun a t => Q a t ∧ Q' a t) R s := by
  unfold wp at h h' ⊢
  cases hm : m.run s with
  | ok p => rw [hm] at h h'; exact ⟨h, h'⟩
  | error e => rw [hm] at h; exact h

@[simp] theorem wp_pure (a : α) : wp (pure a : Program σ ε α) Q R s ↔ Q a s := Iff.rfl

@[simp] theorem wp_throw (e : ε) : wp (throw e : Program σ ε α) Q R s ↔ R e := Iff.rfl

@[simp] theorem wp_bind {γ : Type} (m : Program σ ε γ) (f : γ → Program σ ε α) :
    wp (m >>= f) Q R s ↔ wp m (fun a t => wp (f a) Q R t) R s := by
  unfold wp
  simp only [StateT.run_bind]
  cases m.run s <;> rfl

@[simp] theorem wp_map {γ : Type} (m : Program σ ε γ) (f : γ → α) :
    wp (f <$> m) Q R s ↔ wp m (fun a t => Q (f a) t) R s := by
  unfold wp
  simp only [StateT.run_map]
  cases m.run s <;> rfl

@[simp] theorem wp_ite (c : Prop) [Decidable c] (m n : Program σ ε α) :
    wp (if c then m else n) Q R s ↔ (c → wp m Q R s) ∧ (¬c → wp n Q R s) := by
  by_cases h : c <;> simp [h]

@[simp] theorem wp_require {Q : Unit → σ → Prop} (b : Bool) (e : ε) :
    wp (require b e) Q R s ↔ (b = true → Q () s) ∧ (b = false → R e) := by
  cases b <;> simp [require]

@[simp] theorem wp_orThrow (o : Option α) (e : ε) :
    wp (orThrow o e) Q R s ↔ (∀ a, o = some a → Q a s) ∧ (o = none → R e) := by
  cases o <;> simp [orThrow]

@[simp] theorem wp_check (x : Except ε α) :
    wp (check x) Q R s ↔ (∀ a, x = .ok a → Q a s) ∧ (∀ e, x = .error e → R e) := by
  cases x <;> simp [check]

@[simp] theorem wp_mapError (f : ε → ε) (m : Program σ ε α) :
    wp (mapError f m) Q R s ↔ wp m Q (fun e => R (f e)) s := by
  unfold wp
  show (match (mapError f m) s with | .ok (a, t) => Q a t | .error e => R e) ↔ _
  unfold mapError
  cases m.run s <;> rfl

/-- **Loops.** The invariant speaks of the part of the list that is done. -/
theorem wp_forM_done {I : List β → σ → Prop} {l : List β} {f : β → Program σ ε PUnit}
    (hf : ∀ done b rest, l = done ++ b :: rest → ∀ s, I done s →
      wp (f b) (fun _ t => I (done ++ [b]) t) R s) (hs : I [] s) :
    wp (l.forM f) (fun _ t => I l t) R s := by
  have hgen : ∀ rest done s, l = done ++ rest → I done s → wp (rest.forM f) (fun _ t => I l t) R s := by
    intro rest
    induction rest with
    | nil =>
      intro done s hl hs
      rw [List.append_nil] at hl
      subst hl
      exact hs
    | cons b rest ih =>
      intro done s hl hs
      show wp (f b >>= fun _ => rest.forM f) _ _ _
      rw [wp_bind]
      refine wp_mono (hf done b rest hl s hs) (fun _ t ht => ?_) fun _ h => h
      exact ih (done ++ [b]) t (by simpa using hl) ht
  exact hgen l [] s rfl hs

/-- Loops with an invariant of the state alone. -/
theorem wp_forM {I : σ → Prop} {l : List β} {f : β → Program σ ε PUnit}
    (hf : ∀ b ∈ l, ∀ s, I s → wp (f b) (fun _ t => I t) R s) (hs : I s) :
    wp (l.forM f) (fun _ t => I t) R s :=
  wp_forM_done (I := fun _ => I) (fun _ b _ hl s hs => hf b (by rw [hl]; simp) s hs) hs

/-- Loops with an accumulator. -/
theorem wp_foldlM_done {I : List β → α → σ → Prop} {l : List β} {f : α → β → Program σ ε α} {a : α}
    (hf : ∀ done b rest, l = done ++ b :: rest → ∀ a s, I done a s →
      wp (f a b) (I (done ++ [b])) R s) (hs : I [] a s) :
    wp (l.foldlM f a) (I l) R s := by
  have hgen : ∀ rest done a s, l = done ++ rest → I done a s → wp (rest.foldlM f a) (I l) R s := by
    intro rest
    induction rest with
    | nil =>
      intro done a s hl hs
      rw [List.append_nil] at hl
      subst hl
      exact hs
    | cons b rest ih =>
      intro done a s hl hs
      rw [List.foldlM_cons, wp_bind]
      refine wp_mono (hf done b rest hl a s hs) (fun a' t ht => ?_) fun _ h => h
      exact ih (done ++ [b]) a' t (by simpa using hl) ht
  exact hgen l [] a s rfl hs

theorem wp_foldlM {I : α → σ → Prop} {l : List β} {f : α → β → Program σ ε α} {a : α}
    (hf : ∀ b ∈ l, ∀ a s, I a s → wp (f a b) I R s) (hs : I a s) :
    wp (l.foldlM f a) I R s :=
  wp_foldlM_done (I := fun _ => I) (fun _ b _ hl a s hs => hf b (by rw [hl]; simp) a s hs) hs

/-! ### Partial correctness -/

/-- Whenever `m` returns, it returns with `Q`. -/
abbrev safe (m : Program σ ε α) (Q : α → σ → Prop) (s : σ) : Prop := wp m Q (fun _ => True) s

theorem safe_mono {m : Program σ ε α} {Q' : α → σ → Prop} (h : safe m Q s)
    (hQ : ∀ a t, Q a t → Q' a t) : safe m Q' s := wp_mono h hQ fun _ h => h

/-- Composition: the second program is verified from what the first one ensures. -/
theorem safe_bind {γ : Type} {m : Program σ ε γ} {f : γ → Program σ ε α} {P : γ → σ → Prop}
    (hm : safe m P s) (hf : ∀ a t, P a t → safe (f a) Q t) : safe (m >>= f) Q s :=
  (wp_bind m f).2 (safe_mono hm hf)

/-- What holds whatever a program does. -/
theorem safe_of_forall {m : Program σ ε α} (h : ∀ a t, Q a t) : safe m Q s := by
  unfold safe wp
  cases m.run s with
  | ok p => exact h p.1 p.2
  | error e => trivial

end Program

/-!
## What every step of a program respects

A relation between the states before and after that is reflexive and transitive holds of a program
when it holds of each of its statements, whatever the program tests and however often it loops.

* `Respects.bind`, `Respects.forM`, `Respects.foldlM`: **composition and loops.**
-/

namespace Program

variable {σ ε α β : Type} {r : σ → σ → Prop}

/-- Every run of `m` that returns takes the state along `r`. -/
def Respects (r : σ → σ → Prop) (m : Program σ ε α) : Prop := ∀ s, safe m (fun _ t => r s t) s

@[simp] theorem Respects.throw (e : ε) : Respects r (MonadExcept.throw e : Program σ ε α) :=
  fun _ => trivial

@[simp] theorem Respects.map {m : Program σ ε α} {f : α → β} (hm : Respects r m) :
    Respects r (f <$> m) := fun s => (wp_map m f).2 (hm s)

@[simp] theorem Respects.ite {c : Prop} [Decidable c] {m n : Program σ ε α} (hm : Respects r m)
    (hn : Respects r n) : Respects r (if c then m else n) := by
  split
  · exact hm
  · exact hn

@[simp] theorem Respects.mapError {m : Program σ ε α} {f : ε → ε} (hm : Respects r m) :
    Respects r (Program.mapError f m) := fun s => (wp_mapError f m).2 (hm s)

variable [IsPreorder σ r]

@[simp] theorem Respects.pure (a : α) : Respects r (Pure.pure a : Program σ ε α) :=
  fun s => refl_of r s

/-- **Composition.** -/
@[simp] theorem Respects.bind {m : Program σ ε α} {f : α → Program σ ε β} (hm : Respects r m)
    (hf : ∀ a, Respects r (f a)) : Respects r (m >>= f) := by
  intro s
  refine safe_bind (hm s) fun a t ht => ?_
  exact safe_mono (hf a t) fun _ u hu => trans_of r ht hu

@[simp] theorem Respects.require (b : Bool) (e : ε) : Respects r (Program.require b e) := by
  unfold Program.require
  split
  · exact Respects.pure _
  · exact Respects.throw _

@[simp] theorem Respects.orThrow (o : Option α) (e : ε) : Respects r (Program.orThrow o e) := by
  cases o
  · exact Respects.throw _
  · exact Respects.pure _

@[simp] theorem Respects.check (x : Except ε α) : Respects r (Program.check x) := by
  cases x
  · exact Respects.throw _
  · exact Respects.pure _

/-- **Loops.** -/
@[simp] theorem Respects.forM {l : List β} {f : β → Program σ ε PUnit} (hf : ∀ b, Respects r (f b)) :
    Respects r (l.forM f) := by
  intro s
  refine wp_forM (I := fun t => r s t) (fun b _ t ht => ?_) (refl_of r s)
  exact safe_mono (hf b t) fun _ u hu => trans_of r ht hu

@[simp] theorem Respects.foldlM {l : List β} {f : α → β → Program σ ε α}
    (hf : ∀ a b, Respects r (f a b)) (a : α) : Respects r (l.foldlM f a) := by
  intro s
  refine wp_foldlM (I := fun _ t => r s t) (fun b _ a t ht => ?_) (refl_of r s)
  exact safe_mono (hf a b t) fun _ u hu => trans_of r ht hu

end Program
