import Mathlib.Data.List.Forall2

/-!
# Checks that throw

What a chain of checks in `Except` returned says about each of them.

* `bind_ok`, `guard_ok`: peel one check off the chain.
* `failIf`: a check that only throws.
* `mapM_ok`, `forM_ok`: the same check for every element of a list.
* `errorOf`: the error of a chain is that of its first check that throws.
* `foldlM_ok_iff`: a loop over a list that may throw.
-/

namespace Checks

variable {ε α β : Type} {x : Except ε α} {f : α → Except ε β} {a : α} {b : β} {e : ε}

theorem bind_ok : x >>= f = .ok b ↔ ∃ a, x = .ok a ∧ f a = .ok b := by
  cases x with
  | ok a => simp [bind, Except.bind]
  | error e => simp [bind, Except.bind]

@[simp] theorem ok_bind : (Except.ok a : Except ε α) >>= f = f a := rfl

theorem pure_ok {a' : α} : (pure a : Except ε α) = .ok a' ↔ a = a' := by
  simp [pure, Except.pure]

theorem throw_ok : (throw e : Except ε α) ≠ .ok a := by
  simp [throw, throwThe, MonadExceptOf.throw]

/-- A check that throws when `c` holds, and the rest of the chain. -/
theorem guard_ok {c : Prop} [Decidable c] :
    (if c then throw e else x) = .ok a ↔ ¬c ∧ x = .ok a := by
  by_cases h : c <;> simp [h, throw_ok]

/-- The same check with the rest of the chain behind the throw, too. -/
theorem guard_bind_ok {c : Prop} [Decidable c] {k : β → Except ε α} :
    (if c then throw e >>= k else x) = .ok a ↔ ¬c ∧ x = .ok a := by
  by_cases h : c
  · rw [if_pos h]
    refine ⟨fun hthrow => ?_, fun hok => absurd h hok.1⟩
    obtain ⟨_, hthrow, -⟩ := bind_ok.1 hthrow
    exact absurd hthrow throw_ok
  · rw [if_neg h]
    exact ⟨fun hok => ⟨h, hok⟩, fun hok => hok.2⟩

/-- Throw when `c` holds. -/
def failIf (e : ε) (c : Prop) [Decidable c] : Except ε Unit := if c then .error e else .ok ()

theorem failIf_ok {c : Prop} [Decidable c] {u : Unit} : failIf e c = .ok u ↔ ¬c := by
  unfold failIf
  by_cases h : c <;> simp [h]

@[simp] theorem failIf_bind {c : Prop} [Decidable c] {k : Unit → Except ε α} :
    failIf e c >>= k = if c then .error e else k () := by
  unfold failIf
  by_cases h : c
  · rw [if_pos h, if_pos h]; rfl
  · rw [if_neg h, if_neg h]; rfl

theorem failIf_bind_ok {c : Prop} [Decidable c] {k : Unit → Except ε α} :
    failIf e c >>= k = .ok a ↔ ¬c ∧ k () = .ok a := by
  rw [failIf_bind]
  by_cases h : c <;> simp [h]

theorem bind_error : x >>= f = .error e ↔ x = .error e ∨ ∃ a, x = .ok a ∧ f a = .error e := by
  cases x with
  | ok a => simp [bind, Except.bind]
  | error e => simp [bind, Except.bind]

theorem failIf_bind_error {c : Prop} [Decidable c] {e' : ε} {k : Unit → Except ε α} :
    failIf e c >>= k = .error e' ↔ c ∧ e = e' ∨ ¬c ∧ k () = .error e' := by
  rw [failIf_bind]
  by_cases h : c <;> simp [h]

theorem forM_ok {l : List α} {g : α → Except ε Unit} :
    forM l g = .ok () ↔ ∀ a ∈ l, g a = .ok () := by
  induction l with
  | nil => exact ⟨fun _ _ h => absurd h List.not_mem_nil, fun _ => rfl⟩
  | cons a l ih =>
    rw [List.forM_cons, bind_ok, List.forall_mem_cons, ← ih]
    exact ⟨fun ⟨_, ha, hl⟩ => ⟨ha, hl⟩, fun ⟨ha, hl⟩ => ⟨(), ha, hl⟩⟩

/-- **A list that passes a check passes it element by element.** -/
theorem mapM_ok {l : List α} {l' : List β} :
    l.mapM f = .ok l' ↔ List.Forall₂ (fun a b => f a = .ok b) l l' := by
  induction l generalizing l' with
  | nil =>
    rw [List.mapM_nil, pure_ok, List.forall₂_nil_left_iff]
    exact eq_comm
  | cons a l ih =>
    rw [List.mapM_cons, bind_ok]
    simp only [bind_ok, ih, pure_ok]
    constructor
    · rintro ⟨b, hb, bs, hbs, rfl⟩
      exact .cons hb hbs
    · intro h
      cases h with
      | cons hb hbs => exact ⟨_, hb, _, hbs, rfl⟩

/-- Every element has its result, and every result its element. -/
theorem mapM_mem {l : List α} {l' : List β} (h : l.mapM f = .ok l') :
    (∀ a ∈ l, ∃ b ∈ l', f a = .ok b) ∧ ∀ b ∈ l', ∃ a ∈ l, f a = .ok b := by
  have hall := mapM_ok.1 h
  clear h
  induction hall with
  | nil => exact ⟨fun _ h => absurd h List.not_mem_nil, fun _ h => absurd h List.not_mem_nil⟩
  | cons hb _ ih =>
    obtain ⟨hleft, hright⟩ := ih
    constructor
    · intro x hx
      rcases List.mem_cons.1 hx with rfl | hx
      · exact ⟨_, List.mem_cons_self, hb⟩
      · obtain ⟨y, hy, hxy⟩ := hleft x hx
        exact ⟨y, List.mem_cons_of_mem _ hy, hxy⟩
    · intro y hy
      rcases List.mem_cons.1 hy with rfl | hy
      · exact ⟨_, List.mem_cons_self, hb⟩
      · obtain ⟨x, hx, hxy⟩ := hright y hy
        exact ⟨x, List.mem_cons_of_mem _ hx, hxy⟩

/-- A list that does not pass has an element that throws the error. -/
theorem mapM_error {l : List α} (h : l.mapM f = .error e) : ∃ a ∈ l, f a = .error e := by
  induction l with
  | nil => cases h
  | cons a l ih =>
    rw [List.mapM_cons] at h
    rcases bind_error.1 h with ha | ⟨b, -, h⟩
    · exact ⟨a, List.mem_cons_self, ha⟩
    · rcases bind_error.1 h with hl | ⟨bs, -, h⟩
      · obtain ⟨a', hmem, ha'⟩ := ih hl
        exact ⟨a', List.mem_cons_of_mem _ hmem, ha'⟩
      · cases h

/-! ### The error of a chain -/

/-- The error, if the computation throws. -/
def errorOf : Except ε α → Option ε
  | .error e => some e
  | .ok _ => none

theorem errorOf_eq_none : errorOf x = none ↔ ∃ a, x = .ok a := by
  cases x with
  | ok a => exact ⟨fun _ => ⟨a, rfl⟩, fun _ => rfl⟩
  | error e => exact ⟨fun h => (nomatch h), fun ⟨_, h⟩ => (nomatch h)⟩

theorem errorOf_eq_some : errorOf x = some e ↔ x = .error e := by
  cases x with
  | ok a => exact ⟨fun h => (nomatch h), fun h => (nomatch h)⟩
  | error e' => simp [errorOf]

/-- A chain throws at its first check, or behind it. -/
theorem errorOf_bind {later : Option ε} (h : ∀ a, errorOf (f a) = later) :
    errorOf (x >>= f) = (errorOf x).or later := by
  cases x with
  | ok a => exact h a
  | error e => rfl

/-! ### Loops over a list -/

variable {σ : Type} {step : σ → α → Except ε σ} {s s' : σ} {l : List α}

/-- **A loop that throws on the elements outside `P`** ends when all elements are in `P`. -/
theorem foldlM_ok_iff {P : α → Prop} (h : ∀ s a, (∃ s', step s a = .ok s') ↔ P a) :
    (∃ s', l.foldlM step s = .ok s') ↔ ∀ a ∈ l, P a := by
  induction l generalizing s with
  | nil => exact ⟨fun _ _ hmem => absurd hmem List.not_mem_nil, fun _ => ⟨s, rfl⟩⟩
  | cons a l ih =>
    rw [List.forall_mem_cons]
    constructor
    · rintro ⟨s', hs'⟩
      obtain ⟨t, ht, hl⟩ := bind_ok.1 hs'
      exact ⟨(h s a).1 ⟨t, ht⟩, ih.1 ⟨s', hl⟩⟩
    · rintro ⟨ha, hl⟩
      obtain ⟨t, ht⟩ := (h s a).2 ha
      obtain ⟨s', hs'⟩ := ih (s := t).2 hl
      exact ⟨s', bind_ok.2 ⟨t, ht, hs'⟩⟩

end Checks

/-!
## Guarded computations

A guarded computation returns, throws an error of its own, or goes wrong: it uses a value that is
not there, or runs into an error that it does not expect. To verify one is to show that it never
goes wrong.

* `wp`: a computation returns with a property, or throws its own error with one; it does not go
  wrong. The `simp` lemmas push it through the program text.
* `wp_iff`: what it says about the outcome.
* `ofExcept_bind`: a computation without guards is one that cannot go wrong.
-/

/-- A computation with its own errors `ε`; it goes wrong with `none`. -/
abbrev Guarded (ε α : Type) := Except (Option ε) α

namespace Guarded

variable {ε α β : Type} {P Q : α → Prop} {R : ε → Prop}

/-- The value, which has to be there. -/
def ofOption : Option α → Guarded ε α
  | some a => .ok a
  | none => .error none

/-- A computation that throws only its own errors. -/
def ofExcept : Except ε α → Guarded ε α
  | .ok a => .ok a
  | .error e => .error (some e)

/-- The result of a computation whose errors are not expected. -/
def expect {ε' : Type} : Except ε' α → Guarded ε α
  | .ok a => .ok a
  | .error _ => .error none

/-- Throw `e` when `c` holds. -/
def throwIf (e : ε) (c : Prop) [Decidable c] : Guarded ε Unit := Checks.failIf (some e) c

/-- The computation returns with `P` or throws with `R`. -/
def wp (g : Guarded ε α) (P : α → Prop) (R : ε → Prop) : Prop :=
  match g with
  | .ok a => P a
  | .error (some e) => R e
  | .error none => False

/-- **What the computation comes to.** -/
theorem wp_iff {g : Guarded ε α} :
    wp g P R ↔ (∃ a, g = .ok a ∧ P a) ∨ ∃ e, g = .error (some e) ∧ R e := by
  rcases g with (_ | e) | a
  · simp [wp]
  · simp [wp]
  · simp [wp]

theorem wp_mono {g : Guarded ε α} (h : wp g P R) (hPQ : ∀ a, P a → Q a) : wp g Q R := by
  rcases g with (_ | e) | a
  · exact h
  · exact h
  · exact hPQ a h

@[simp] theorem wp_pure (a : α) : wp (pure a : Guarded ε α) P R ↔ P a := Iff.rfl

@[simp] theorem wp_ok (a : α) : wp (.ok a : Guarded ε α) P R ↔ P a := Iff.rfl

@[simp] theorem wp_error (e : ε) : wp (.error (some e) : Guarded ε α) P R ↔ R e := Iff.rfl

@[simp] theorem wp_bind (g : Guarded ε β) (k : β → Guarded ε α) :
    wp (g >>= k) P R ↔ wp g (fun b => wp (k b) P R) R := by
  rcases g with (_ | e) | b
  · exact Iff.rfl
  · exact Iff.rfl
  · exact Iff.rfl

@[simp] theorem wp_throwIf {P : Unit → Prop} (e : ε) (c : Prop) [Decidable c] :
    wp (throwIf e c) P R ↔ (c → R e) ∧ (¬c → P ()) := by
  unfold throwIf Checks.failIf
  by_cases h : c
  · simp [h]
  · simp [h]

@[simp] theorem wp_ofOption (o : Option α) : wp (ofOption o : Guarded ε α) P R ↔ ∃ a ∈ o, P a := by
  cases o with
  | none => simp [ofOption, wp]
  | some a => simp [ofOption]

@[simp] theorem wp_ofExcept (x : Except ε α) :
    wp (ofExcept x) P R ↔ (∀ a, x = .ok a → P a) ∧ ∀ e, x = .error e → R e := by
  cases x with
  | ok a => simp [ofExcept]
  | error e => simp [ofExcept]

@[simp] theorem wp_expect {ε' : Type} (x : Except ε' α) :
    wp (expect x : Guarded ε α) P R ↔ ∃ a, x = .ok a ∧ P a := by
  cases x with
  | ok a => simp [expect]
  | error e => simp [expect, wp]

/-! ### Computations without guards -/

@[simp] theorem ofExcept_bind (x : Except ε β) (f : β → Except ε α) :
    ofExcept (x >>= f) = ofExcept x >>= fun b => ofExcept (f b) := by
  cases x with
  | ok b => rfl
  | error e => rfl

@[simp] theorem ofExcept_failIf (e : ε) (c : Prop) [Decidable c] : ofExcept (Checks.failIf e c) = throwIf e c := by
  unfold throwIf Checks.failIf
  by_cases h : c
  · rw [if_pos h, if_pos h]
    rfl
  · rw [if_neg h, if_neg h]
    rfl

/-- Two computations with the same beginning are the same when they are for what it returns. -/
theorem ofExcept_bind_congr {x : Except ε β} {k k' : β → Guarded ε α} (h : ∀ b, x = .ok b → k b = k' b) :
    ofExcept x >>= k = ofExcept x >>= k' := by
  cases x with
  | ok b => exact h b rfl
  | error e => rfl

theorem throwIf_bind_congr {e : ε} {c : Prop} [Decidable c] {k k' : Unit → Guarded ε α} (h : ¬c → k () = k' ()) :
    throwIf e c >>= k = throwIf e c >>= k' := by
  rw [← ofExcept_failIf]
  exact ofExcept_bind_congr fun _ hok => h (Checks.failIf_ok.1 hok)

/-- Two checks with one error are one. -/
theorem throwIf_or {e : ε} {c d : Prop} [Decidable c] [Decidable d] :
    throwIf e (c ∨ d) = throwIf e c >>= fun _ => throwIf e d := by
  unfold throwIf Checks.failIf
  by_cases h : c
  · simp only [h, true_or, if_true]
    rfl
  · simp only [h, false_or, if_false]
    rfl

end Guarded
