import Mathlib.Data.Nat.Notation
import Mathlib.Order.Defs.Unbundled

/-!
# Procedures whose state outlives a throw

A procedure runs on a state. It returns, throws, or is left pending, when it awaits what never
comes; whatever it has done to the state stays done. So what a procedure acquires and does not
release is still acquired after a throw.

* `wp`: a procedure returns, throws or is left pending, each with its own property. The `simp`
  lemmas push it through the program text.
* `Yields`: what a procedure returns has a property.
* `Keeps`: every run of a procedure takes the state along a relation, however it ends.
* `rounds`: a loop with a bound on its rounds. `wp_rounds` is its rule for invariants.
* `rounds_stable`: **a loop whose rounds count down has rounds enough.**
-/

namespace Procedure

/-- How a procedure ends. -/
inductive Result (ε α : Type)
  | returned (a : α)
  | threw (e : ε)
  | pending

/-- The procedure has ended. -/
def Result.settled {ε α : Type} : Result ε α → Bool
  | .pending => false
  | _ => true

end Procedure

/-- A procedure on states `σ` that returns an `α` or throws an `ε`. -/
def Procedure (σ ε α : Type) := σ → Procedure.Result ε α × σ

namespace Procedure

variable {σ τ ε α β γ : Type}

instance : Monad (Procedure σ ε) where
  pure a := fun s => (.returned a, s)
  bind m k := fun s =>
    match m s with
    | (.returned a, t) => k a t
    | (.threw e, t) => (.threw e, t)
    | (.pending, t) => (.pending, t)

/-- Throw `e`. -/
def raise (e : ε) : Procedure σ ε α := fun s => (.threw e, s)

/-- Await what never comes. -/
def hang : Procedure σ ε α := fun s => (.pending, s)

/-- Throw `e` when `c` holds. -/
def raiseIf (e : ε) (c : Prop) [Decidable c] : Procedure σ ε Unit := if c then raise e else pure ()

/-- The value of an option, or throw `e`. -/
def orRaise (o : Option α) (e : ε) : Procedure σ ε α :=
  match o with
  | some a => pure a
  | none => raise e

/-- The result of a check, in a procedure. -/
def check (x : Except ε α) : Procedure σ ε α :=
  match x with
  | .ok a => pure a
  | .error e => raise e

/-- Settle as is given. -/
def ofResult (result : Result ε α) : Procedure σ ε α := fun s => (result, s)

/-- The state. -/
def read : Procedure σ ε σ := fun s => (.returned s, s)

def modify (f : σ → σ) : Procedure σ ε Unit := fun s => (.returned (), f s)

/-- `try { m } catch (e) { handler(e) }`. -/
def catching (m : Procedure σ ε α) (handler : ε → Procedure σ ε α) : Procedure σ ε α := fun s =>
  match m s with
  | (.threw e, t) => handler e t
  | r => r

/-- `try { m } finally { finalizer }`. What the finalizer throws replaces what `m` does. -/
def ensuring (m : Procedure σ ε α) (finalizer : Procedure σ ε Unit) : Procedure σ ε α := fun s =>
  match m s with
  | (.returned a, t) => (finalizer >>= fun _ => pure a) t
  | (.threw e, t) => (finalizer >>= fun _ => raise e) t
  | (.pending, t) => (.pending, t)

/-! ### Weakest preconditions -/

/-- What a run comes to. -/
def Ends (Q : α → σ → Prop) (R : ε → σ → Prop) (N : σ → Prop) : Result ε α × σ → Prop
  | (.returned a, t) => Q a t
  | (.threw e, t) => R e t
  | (.pending, t) => N t

/-- The procedure returns with `Q`, throws with `R` or is left pending with `N`. -/
def wp (m : Procedure σ ε α) (Q : α → σ → Prop) (R : ε → σ → Prop) (N : σ → Prop) (s : σ) : Prop := Ends Q R N (m s)

variable {Q : α → σ → Prop} {R : ε → σ → Prop} {N : σ → Prop} {s : σ}

@[simp] theorem ends_returned {a : α} : Ends Q R N (.returned a, s) ↔ Q a s := Iff.rfl

theorem wp_mono {m : Procedure σ ε α} {Q' : α → σ → Prop} {R' : ε → σ → Prop} {N' : σ → Prop} (h : wp m Q R N s)
    (hQ : ∀ a t, Q a t → Q' a t) (hR : ∀ e t, R e t → R' e t) (hN : ∀ t, N t → N' t) : wp m Q' R' N' s := by
  unfold wp at h ⊢
  rcases hm : m s with ⟨_ | _ | _, t⟩
  · rw [hm] at h
    exact hQ _ _ h
  · rw [hm] at h
    exact hR _ _ h
  · rw [hm] at h
    exact hN _ h

theorem wp_and {m : Procedure σ ε α} {Q' : α → σ → Prop} {R' : ε → σ → Prop} {N' : σ → Prop} (h : wp m Q R N s)
    (h' : wp m Q' R' N' s) :
    wp m (fun a t => Q a t ∧ Q' a t) (fun e t => R e t ∧ R' e t) (fun t => N t ∧ N' t) s := by
  unfold wp at h h' ⊢
  rcases hm : m s with ⟨_ | _ | _, t⟩
  · rw [hm] at h h'
    exact ⟨h, h'⟩
  · rw [hm] at h h'
    exact ⟨h, h'⟩
  · rw [hm] at h h'
    exact ⟨h, h'⟩

/-- What holds however the run ends. -/
theorem wp_always {m : Procedure σ ε α} {P : σ → Prop} : wp m (fun _ t => P t) (fun _ t => P t) P s ↔ P (m s).2 := by
  unfold wp
  rcases m s with ⟨_ | _ | _, t⟩
  · exact Iff.rfl
  · exact Iff.rfl
  · exact Iff.rfl

/-- What holds when the run has ended. -/
theorem wp_settled {m : Procedure σ ε α} {P : σ → Prop} (h : wp m (fun _ t => P t) (fun _ t => P t) N s)
    (hsettled : (m s).1.settled = true) : P (m s).2 := by
  unfold wp at h
  rcases hm : m s with ⟨_ | _ | _, t⟩
  · rwa [hm] at h
  · rwa [hm] at h
  · rw [hm] at hsettled
    cases hsettled

@[simp] theorem wp_pure (a : α) : wp (pure a : Procedure σ ε α) Q R N s ↔ Q a s := Iff.rfl

@[simp] theorem wp_raise (e : ε) : wp (raise e : Procedure σ ε α) Q R N s ↔ R e s := Iff.rfl

theorem bind_returned {m : Procedure σ ε β} {k : β → Procedure σ ε α} {b : β} {t : σ} (h : m s = (.returned b, t)) :
    (m >>= k) s = k b t := by
  change (match m s with | (.returned b, t) => k b t | (.threw e, t) => (.threw e, t) | (.pending, t) => (.pending, t)) = _
  rw [h]

theorem bind_threw {m : Procedure σ ε β} {k : β → Procedure σ ε α} {e : ε} {t : σ} (h : m s = (.threw e, t)) :
    (m >>= k) s = (.threw e, t) := by
  change (match m s with | (.returned b, t) => k b t | (.threw e, t) => (.threw e, t) | (.pending, t) => (.pending, t)) = _
  rw [h]

theorem bind_pending {m : Procedure σ ε β} {k : β → Procedure σ ε α} {t : σ} (h : m s = (.pending, t)) :
    (m >>= k) s = (.pending, t) := by
  change (match m s with | (.returned b, t) => k b t | (.threw e, t) => (.threw e, t) | (.pending, t) => (.pending, t)) = _
  rw [h]

@[simp] theorem wp_bind (m : Procedure σ ε β) (k : β → Procedure σ ε α) :
    wp (m >>= k) Q R N s ↔ wp m (fun b t => wp (k b) Q R N t) R N s := by
  unfold wp
  rcases hm : m s with ⟨b | e | _, t⟩
  · rw [bind_returned hm]
    exact Iff.rfl
  · rw [bind_threw hm]
    exact Iff.rfl
  · rw [bind_pending hm]
    exact Iff.rfl

@[simp] theorem wp_map (m : Procedure σ ε β) (f : β → α) :
    wp (f <$> m) Q R N s ↔ wp m (fun b t => Q (f b) t) R N s := wp_bind m fun b => pure (f b)

@[simp] theorem wp_raiseIf {Q : Unit → σ → Prop} (e : ε) (c : Prop) [Decidable c] :
    wp (raiseIf e c) Q R N s ↔ (c → R e s) ∧ (¬c → Q () s) := by
  unfold raiseIf
  by_cases h : c
  · simp [h]
  · simp [h]

@[simp] theorem wp_ofResult (result : Result ε α) :
    wp (ofResult result) Q R N s ↔ Ends Q R N (result, s) := Iff.rfl

@[simp] theorem wp_orRaise (o : Option α) (e : ε) :
    wp (orRaise o e) Q R N s ↔ (∀ a, o = some a → Q a s) ∧ (o = none → R e s) := by
  cases o with
  | none => simp [orRaise]
  | some a => simp [orRaise]

@[simp] theorem wp_check (x : Except ε α) :
    wp (check x) Q R N s ↔ (∀ a, x = .ok a → Q a s) ∧ ∀ e, x = .error e → R e s := by
  cases x with
  | ok a => simp [check]
  | error e => simp [check]

@[simp] theorem wp_read {Q : σ → σ → Prop} : wp (read : Procedure σ ε σ) Q R N s ↔ Q s s := Iff.rfl

@[simp] theorem wp_modify {Q : Unit → σ → Prop} (f : σ → σ) :
    wp (modify f : Procedure σ ε Unit) Q R N s ↔ Q () (f s) := Iff.rfl

@[simp] theorem wp_catching (m : Procedure σ ε α) (handler : ε → Procedure σ ε α) :
    wp (catching m handler) Q R N s ↔ wp m Q (fun e t => wp (handler e) Q R N t) N s := by
  unfold wp catching
  rcases hm : m s with ⟨a | e | _, t⟩
  · exact Iff.rfl
  · exact Iff.rfl
  · exact Iff.rfl

@[simp] theorem wp_ensuring (m : Procedure σ ε α) (finalizer : Procedure σ ε Unit) :
    wp (ensuring m finalizer) Q R N s ↔
      wp m (fun a t => wp finalizer (fun _ u => Q a u) R N t) (fun e t => wp finalizer (fun _ u => R e u) R N t) N s := by
  have hthen : ∀ (m' : Procedure σ ε α) (t : σ), Ends Q R N ((finalizer >>= fun _ => m') t) ↔
      wp finalizer (fun _ u => wp m' Q R N u) R N t := fun m' t => wp_bind finalizer fun _ => m'
  unfold wp ensuring
  rcases hm : m s with ⟨a | e | _, t⟩
  · exact hthen _ t
  · exact hthen _ t
  · exact Iff.rfl

theorem wp_ite (c : Prop) [Decidable c] (m n : Procedure σ ε α) :
    wp (if c then m else n) Q R N s ↔ (c → wp m Q R N s) ∧ (¬c → wp n Q R N s) := by
  by_cases h : c
  · simp [h]
  · simp [h]

/-! ### What is returned -/

/-- Whatever `m` returns has the property. -/
def Yields (m : Procedure σ ε α) (P : α → Prop) : Prop :=
  ∀ s, wp m (fun a _ => P a) (fun _ _ => True) (fun _ => True) s

variable {P : α → Prop}

theorem Yields.apply {m : Procedure σ ε α} {a : α} {t : σ} (h : Yields m P) (hm : m s = (.returned a, t)) : P a := by
  have hs := h s
  unfold wp at hs
  rw [hm] at hs
  exact hs

theorem yields_pure {a : α} (h : P a) : Yields (pure a : Procedure σ ε α) P := fun _ => h

theorem yields_raise (e : ε) : Yields (raise e : Procedure σ ε α) P := fun _ => trivial

theorem Yields.bind {m : Procedure σ ε β} {k : β → Procedure σ ε α} {P' : β → Prop} (hm : Yields m P')
    (hk : ∀ b, P' b → Yields (k b) P) : Yields (m >>= k) P := fun s =>
  (wp_bind m k).2 (wp_mono (hm s) (fun b t hb => hk b hb t) (fun _ _ h => h) fun _ h => h)

theorem yields_bind {m : Procedure σ ε β} {k : β → Procedure σ ε α} (hk : ∀ b, Yields (k b) P) : Yields (m >>= k) P := by
  -- the first procedure may return anything
  have hm : Yields m fun _ => True := by
    intro s
    unfold wp
    rcases m s with ⟨_ | _ | _, t⟩
    · trivial
    · trivial
    · trivial
  exact hm.bind fun b _ => hk b

theorem Yields.ite {c : Prop} [Decidable c] {m n : Procedure σ ε α} (hm : c → Yields m P) (hn : ¬c → Yields n P) :
    Yields (if c then m else n) P := by
  by_cases h : c
  · rw [if_pos h]
    exact hm h
  · rw [if_neg h]
    exact hn h

theorem yields_raiseIf (e : ε) (c : Prop) [Decidable c] : Yields (raiseIf e c : Procedure σ ε Unit) fun _ => ¬c := by
  intro s
  rw [wp_raiseIf]
  exact ⟨fun _ => trivial, fun h => h⟩

theorem Yields.map {m : Procedure σ ε β} {f : β → α} (hm : Yields m fun b => P (f b)) : Yields (f <$> m) P := by
  change Yields (m >>= fun b => pure (f b)) P
  exact hm.bind fun _ h => yields_pure h

/-- A handler that throws again returns nothing. -/
theorem Yields.catching {m : Procedure σ ε α} {handler : ε → Procedure σ ε α} (hm : Yields m P)
    (hh : ∀ e, Yields (handler e) P) : Yields (Procedure.catching m handler) P := fun s =>
  (wp_catching m handler).2 (wp_mono (hm s) (fun _ _ h => h) (fun e t _ => hh e t) fun _ h => h)

theorem Yields.ensuring {m : Procedure σ ε α} {finalizer : Procedure σ ε Unit} (hm : Yields m P) :
    Yields (Procedure.ensuring m finalizer) P := by
  intro s
  rw [wp_ensuring]
  have hlast : ∀ {Q : Prop} (t : σ), Q → wp finalizer (fun _ _ => Q) (fun _ _ => True) (fun _ => True) t := by
    intro Q t hQ
    unfold wp
    rcases finalizer t with ⟨_ | _ | _, u⟩
    · exact hQ
    · trivial
    · trivial
  exact wp_mono (hm s) (fun _ t h => hlast t h) (fun _ t h => hlast t h) fun _ h => h

/-! ### What every run keeps -/

/-- Every run of `m` takes the state along `r`. -/
def Keeps (r : σ → σ → Prop) (m : Procedure σ ε α) : Prop := ∀ s, r s (m s).2

theorem keeps_iff {r : σ → σ → Prop} {m : Procedure σ ε α} :
    Keeps r m ↔ ∀ s, wp m (fun _ t => r s t) (fun _ t => r s t) (fun t => r s t) s :=
  forall_congr' fun _ => wp_always.symm

/-- What a relation keeps holds after a procedure that keeps the relation, however it ends. -/
theorem wp_keeps_bind {r : σ → σ → Prop} {m : Procedure σ ε β} {k : β → Procedure σ ε α} {P : σ → Prop}
    (hm : Keeps r m) (hr : ∀ s t, r s t → P s → P t) (hs : P s) (hR : ∀ e t, P t → R e t) (hN : ∀ t, P t → N t)
    (hk : ∀ b t, P t → wp (k b) Q R N t) : wp (m >>= k) Q R N s :=
  (wp_bind m k).2 (wp_mono (keeps_iff.1 hm s) (fun b t h => hk b t (hr s t h hs))
    (fun e t h => hR e t (hr s t h hs)) fun t h => hN t (hr s t h hs))

theorem Keeps.ite {r : σ → σ → Prop} {c : Prop} [Decidable c] {m n : Procedure σ ε α} (hm : Keeps r m) (hn : Keeps r n) :
    Keeps r (if c then m else n) := by
  split
  · exact hm
  · exact hn

variable {r : σ → σ → Prop} [IsPreorder σ r]

@[simp] theorem keeps_pure (a : α) : Keeps r (pure a : Procedure σ ε α) := fun s => refl_of r s

@[simp] theorem keeps_raise (e : ε) : Keeps r (raise e : Procedure σ ε α) := fun s => refl_of r s

@[simp] theorem keeps_read : Keeps r (read : Procedure σ ε σ) := fun s => refl_of r s

@[simp] theorem keeps_ofResult (result : Result ε α) : Keeps r (ofResult result) := fun s => refl_of r s

@[simp] theorem keeps_orRaise (o : Option α) (e : ε) : Keeps r (orRaise o e : Procedure σ ε α) := by
  cases o with
  | none => exact keeps_raise e
  | some a => exact keeps_pure a

@[simp] theorem keeps_check (x : Except ε α) : Keeps r (check x : Procedure σ ε α) := by
  cases x with
  | ok a => exact keeps_pure a
  | error e => exact keeps_raise e

@[simp] theorem keeps_raiseIf (e : ε) (c : Prop) [Decidable c] : Keeps r (raiseIf e c : Procedure σ ε Unit) := by
  unfold raiseIf
  split
  · exact keeps_raise e
  · exact keeps_pure ()

/-- **Composition.** -/
theorem Keeps.bind {m : Procedure σ ε β} {k : β → Procedure σ ε α} (hm : Keeps r m) (hk : ∀ b, Keeps r (k b)) :
    Keeps r (m >>= k) := by
  refine keeps_iff.2 fun s => (wp_bind m k).2 ?_
  refine wp_mono (keeps_iff.1 hm s) (fun b t hst => ?_) (fun _ _ h => h) fun _ h => h
  exact wp_mono (keeps_iff.1 (hk b) t) (fun _ _ h => trans_of r hst h) (fun _ _ h => trans_of r hst h)
    fun _ h => trans_of r hst h

theorem Keeps.catching {m : Procedure σ ε α} {handler : ε → Procedure σ ε α} (hm : Keeps r m)
    (hh : ∀ e, Keeps r (handler e)) : Keeps r (Procedure.catching m handler) := by
  refine keeps_iff.2 fun s => (wp_catching m handler).2 ?_
  refine wp_mono (keeps_iff.1 hm s) (fun _ _ h => h) (fun e t hst => ?_) fun _ h => h
  exact wp_mono (keeps_iff.1 (hh e) t) (fun _ _ h => trans_of r hst h) (fun _ _ h => trans_of r hst h)
    fun _ h => trans_of r hst h

theorem Keeps.ensuring {m : Procedure σ ε α} {finalizer : Procedure σ ε Unit} (hm : Keeps r m)
    (hf : Keeps r finalizer) : Keeps r (Procedure.ensuring m finalizer) := by
  refine keeps_iff.2 fun s => (wp_ensuring m finalizer).2 ?_
  have hlast : ∀ t, r s t → wp finalizer (fun _ u => r s u) (fun _ u => r s u) (fun u => r s u) t :=
    fun t hst => wp_mono (keeps_iff.1 hf t) (fun _ _ h => trans_of r hst h) (fun _ _ h => trans_of r hst h)
      fun _ h => trans_of r hst h
  exact wp_mono (keeps_iff.1 hm s) (fun _ t hst => hlast t hst) (fun _ t hst => hlast t hst) fun _ h => h

/-! ### Loops -/

/-- At most `n` rounds of a loop. The body goes on with a new state of the loop or ends with a
result. -/
def rounds (body : β → Procedure σ ε (β ⊕ α)) : ℕ → β → Procedure σ ε α
  | 0, _ => hang
  | n + 1, b => body b >>= fun next =>
    match next with
    | .inl b => rounds body n b
    | .inr a => pure a

omit [IsPreorder σ r] in
/-- **Invariants of a loop.** -/
theorem wp_rounds {body : β → Procedure σ ε (β ⊕ α)} (I : β → σ → Prop)
    (hstep : ∀ b s, I b s → wp (body b) (fun next t => next.elim (fun b => I b t) fun a => Q a t) R N s)
    (hstop : ∀ b s, I b s → N s) (n : ℕ) {b : β} (hs : I b s) : wp (rounds body n b) Q R N s := by
  induction n generalizing b s with
  | zero => exact hstop b s hs
  | succ n ih =>
    rw [rounds, wp_bind]
    refine wp_mono (hstep b s hs) (fun next t ht => ?_) (fun _ _ h => h) fun _ h => h
    cases next with
    | inl b => exact ih ht
    | inr a => exact ht

omit [IsPreorder σ r] in
/-- **A loop whose rounds count down has rounds enough.** -/
theorem rounds_stable {body : β → Procedure σ ε (β ⊕ α)} (μ : β → ℕ)
    (hμ : ∀ b s b' t, body b s = (.returned (.inl b'), t) → μ b' < μ b) {n m : ℕ} {b : β} (hn : μ b < n) (hm : μ b < m) :
    rounds body n b = rounds body m b := by
  induction n generalizing m b with
  | zero => omega
  | succ n ih =>
    cases m with
    | zero => omega
    | succ m =>
      funext s
      unfold rounds
      rcases hb : body b s with ⟨(b' | a) | e | _, t⟩
      · have hlt := hμ b s b' t hb
        rw [bind_returned hb, bind_returned hb]
        exact congrFun (ih (by omega) (by omega)) t
      · rw [bind_returned hb, bind_returned hb]
      · rw [bind_threw hb, bind_threw hb]
      · rw [bind_pending hb, bind_pending hb]

end Procedure
