import Mathlib.Data.Nat.Find
import Mathlib.Logic.Relation

/-!
# Loops that may not end

A computation is given fuel and more fuel never changes its result. It halts when some
fuel is enough.

* `iterate`: a loop. The body goes on with a new state or ends with a result.
* `halts_iterate`: one round; a loop halts when its body does and so does the rest.
* `iterate_invariant`: what every round keeps holds when the loop ends.
* `halts_iterate_iff`: a loop that makes progress halts if and only if its body halts in
  every state that it reaches.
* `scan`: the loop that moves a cursor while a test holds. It halts if and only if the
  test fails somewhere.
-/

/-- A computation with fuel. -/
structure Fueled (α : Type) where
  run : ℕ → Option α
  mono : ∀ n a, run n = some a → run (n + 1) = some a

namespace Fueled

variable {α β σ : Type}

/-- The result, with enough fuel. -/
def Returns (c : Fueled α) (a : α) : Prop := ∃ n, c.run n = some a

def Halts (c : Fueled α) : Prop := ∃ a, c.Returns a

theorem run_mono {c : Fueled α} {a : α} {m n : ℕ} (hmn : m ≤ n) (h : c.run m = some a) :
    c.run n = some a := by
  induction hmn with
  | refl => exact h
  | step _ ih => exact c.mono _ a ih

/-- **One result.** -/
theorem Returns.unique {c : Fueled α} {a b : α} (ha : c.Returns a) (hb : c.Returns b) : a = b := by
  obtain ⟨m, hm⟩ := ha
  obtain ⟨n, hn⟩ := hb
  have hm := run_mono (Nat.le_max_left m n) hm
  have hn := run_mono (Nat.le_max_right m n) hn
  exact Option.some.inj (hm.symm.trans hn)

theorem Returns.halts {c : Fueled α} {a : α} (h : c.Returns a) : c.Halts := ⟨a, h⟩

/-- A computation that does not halt has no result with any fuel. -/
theorem run_eq_none {c : Fueled α} (h : ¬c.Halts) (n : ℕ) : c.run n = none := by
  cases hr : c.run n with
  | none => rfl
  | some a => exact absurd ⟨a, n, hr⟩ h

instance : Monad Fueled where
  pure a := ⟨fun _ => some a, fun _ _ h => h⟩
  bind c k :=
    { run := fun n => (c.run n).bind fun a => (k a).run n
      mono := by
        intro n b h
        obtain ⟨a, ha, hb⟩ := Option.bind_eq_some_iff.1 h
        exact Option.bind_eq_some_iff.2 ⟨a, c.mono n a ha, (k a).mono n b hb⟩ }

@[simp] theorem returns_pure {a b : α} : (pure a : Fueled α).Returns b ↔ b = a := by
  constructor
  · rintro ⟨n, hn⟩
    exact (Option.some.inj hn).symm
  · rintro rfl
    exact ⟨0, rfl⟩

@[simp] theorem halts_pure {a : α} : (pure a : Fueled α).Halts := ⟨a, returns_pure.2 rfl⟩

/-- **A sequence** returns what its second part returns after the first. -/
theorem returns_bind {c : Fueled α} {k : α → Fueled β} {b : β} :
    (c >>= k).Returns b ↔ ∃ a, c.Returns a ∧ (k a).Returns b := by
  constructor
  · rintro ⟨n, hn⟩
    obtain ⟨a, ha, hb⟩ := Option.bind_eq_some_iff.1 hn
    exact ⟨a, ⟨n, ha⟩, ⟨n, hb⟩⟩
  · rintro ⟨a, ⟨m, hm⟩, ⟨n, hn⟩⟩
    have hm := run_mono (Nat.le_max_left m n) hm
    have hn := run_mono (Nat.le_max_right m n) hn
    exact ⟨max m n, Option.bind_eq_some_iff.2 ⟨a, hm, hn⟩⟩

theorem halts_bind {c : Fueled α} {k : α → Fueled β} :
    (c >>= k).Halts ↔ ∃ a, c.Returns a ∧ (k a).Halts := by
  constructor
  · rintro ⟨b, hb⟩
    obtain ⟨a, ha, hb⟩ := returns_bind.1 hb
    exact ⟨a, ha, b, hb⟩
  · rintro ⟨a, ha, b, hb⟩
    exact ⟨b, returns_bind.2 ⟨a, ha, hb⟩⟩

/-- After a part whose result is known. -/
theorem bind_of_returns {c : Fueled α} {k : α → Fueled β} {a : α} (ha : c.Returns a) :
    (∀ b, (c >>= k).Returns b ↔ (k a).Returns b) ∧ ((c >>= k).Halts ↔ (k a).Halts) := by
  have hb : ∀ b, (c >>= k).Returns b ↔ (k a).Returns b := by
    intro b
    rw [returns_bind]
    constructor
    · rintro ⟨a', ha', hb⟩
      rw [ha.unique ha']
      exact hb
    · exact fun hb => ⟨a, ha, hb⟩
  exact ⟨hb, exists_congr hb⟩

/-! ### Loops -/

/-- The rounds of a loop. -/
def rounds (body : σ → Fueled (σ ⊕ α)) : ℕ → σ → Option α
  | 0, _ => none
  | n + 1, s =>
    match (body s).run n with
    | none => none
    | some (.inl s') => rounds body n s'
    | some (.inr a) => some a

theorem rounds_mono (body : σ → Fueled (σ ⊕ α)) :
    ∀ n s a, rounds body n s = some a → rounds body (n + 1) s = some a := by
  intro n
  induction n with
  | zero => intro s a h; cases h
  | succ n ih =>
    intro s a h
    rw [rounds] at h ⊢
    cases hr : (body s).run n with
    | none => rw [hr] at h; cases h
    | some r =>
      rw [hr] at h
      rw [(body s).mono n r hr]
      cases r with
      | inl s' => exact ih s' a h
      | inr b => exact h

/-- A loop: the body goes on with a new state or ends with a result. -/
def iterate (body : σ → Fueled (σ ⊕ α)) (s : σ) : Fueled α where
  run n := rounds body n s
  mono n a := rounds_mono body n s a

/-- One round of the loop goes on. -/
def Next (body : σ → Fueled (σ ⊕ α)) (s s' : σ) : Prop := (body s).Returns (.inl s')

variable {body : σ → Fueled (σ ⊕ α)} {s s' : σ} {a : α}

/-- **One round.** -/
theorem returns_iterate : (iterate body s).Returns a ↔
    (body s).Returns (.inr a) ∨ ∃ s', Next body s s' ∧ (iterate body s').Returns a := by
  constructor
  · rintro ⟨n, hn⟩
    cases n with
    | zero => cases hn
    | succ n =>
      change rounds body (n + 1) s = some a at hn
      rw [rounds] at hn
      cases hr : (body s).run n with
      | none => rw [hr] at hn; cases hn
      | some r =>
        rw [hr] at hn
        cases r with
        | inl s' => exact Or.inr ⟨s', ⟨n, hr⟩, ⟨n, hn⟩⟩
        | inr b =>
          obtain rfl := Option.some.inj hn
          exact Or.inl ⟨n, hr⟩
  · rintro (⟨n, hn⟩ | ⟨s', ⟨m, hm⟩, ⟨n, hn⟩⟩)
    · refine ⟨n + 1, ?_⟩
      change rounds body (n + 1) s = some a
      rw [rounds, hn]
    · refine ⟨max m n + 1, ?_⟩
      change rounds body (max m n + 1) s = some a
      rw [rounds, run_mono (Nat.le_max_left m n) hm]
      exact run_mono (c := iterate body s') (Nat.le_max_right m n) hn

theorem halts_iterate : (iterate body s).Halts ↔
    (body s).Halts ∧ ∀ s', Next body s s' → (iterate body s').Halts := by
  constructor
  · rintro ⟨a, ha⟩
    rcases returns_iterate.1 ha with hr | ⟨s', hn, ha⟩
    · refine ⟨⟨_, hr⟩, fun s' hn => ?_⟩
      have := hr.unique hn
      cases this
    · refine ⟨⟨_, hn⟩, fun s'' hn' => ?_⟩
      obtain rfl := Sum.inl.inj (Returns.unique hn hn')
      exact ⟨a, ha⟩
  · rintro ⟨⟨r, hr⟩, hnext⟩
    cases r with
    | inl s' =>
      obtain ⟨a, ha⟩ := hnext s' hr
      exact ⟨a, returns_iterate.2 (Or.inr ⟨s', hr, ha⟩)⟩
    | inr a => exact ⟨a, returns_iterate.2 (Or.inl hr)⟩

theorem halts_iterate_of_next (h : Next body s s') :
    (iterate body s).Halts ↔ (iterate body s').Halts := by
  rw [halts_iterate]
  constructor
  · exact fun hs => hs.2 s' h
  · intro hs
    refine ⟨⟨_, h⟩, fun s'' h' => ?_⟩
    obtain rfl := Sum.inl.inj (Returns.unique h h')
    exact hs

theorem halts_iterate_of_inr (h : (body s).Returns (.inr a)) : (iterate body s).Halts :=
  ⟨a, returns_iterate.2 (Or.inl h)⟩

/-- **A loop returns what its body ends with** in a state that the rounds reach. -/
theorem returns_iterate_iff : (iterate body s).Returns a ↔
    ∃ s', Relation.ReflTransGen (Next body) s s' ∧ (body s').Returns (.inr a) := by
  constructor
  · rintro ⟨n, hn⟩
    induction n generalizing s with
    | zero => cases hn
    | succ n ih =>
      change rounds body (n + 1) s = some a at hn
      rw [rounds] at hn
      cases hr : (body s).run n with
      | none => rw [hr] at hn; cases hn
      | some r =>
        rw [hr] at hn
        cases r with
        | inl s' =>
          obtain ⟨s'', hreach, hend⟩ := ih hn
          exact ⟨s'', .head ⟨n, hr⟩ hreach, hend⟩
        | inr b =>
          obtain rfl := Option.some.inj hn
          exact ⟨s, .refl, n, hr⟩
  · rintro ⟨s', hreach, hend⟩
    induction hreach using Relation.ReflTransGen.head_induction_on with
    | refl => exact returns_iterate.2 (Or.inl hend)
    | head hn _ ih => exact returns_iterate.2 (Or.inr ⟨_, hn, ih⟩)

/-- **An invariant of the rounds** holds when the loop ends. -/
theorem iterate_invariant {P : σ → Prop} (hstep : ∀ s s', P s → Next body s s' → P s') (hs : P s)
    (h : (iterate body s).Returns a) : ∃ s', P s' ∧ (body s').Returns (.inr a) := by
  obtain ⟨s', hreach, hend⟩ := returns_iterate_iff.1 h
  refine ⟨s', ?_, hend⟩
  clear hend h
  induction hreach with
  | refl => exact hs
  | tail _ hn ih => exact hstep _ _ ih hn

/-- **A loop that makes progress** halts if and only if its body halts in every state that
it reaches. -/
theorem halts_iterate_iff (μ : σ → ℕ) (hμ : ∀ s s', Next body s s' → μ s' < μ s) :
    (iterate body s).Halts ↔ ∀ s', Relation.ReflTransGen (Next body) s s' → (body s').Halts := by
  constructor
  · intro h s' hs'
    suffices (iterate body s').Halts from (halts_iterate.1 this).1
    induction hs' with
    | refl => exact h
    | tail _ hn ih => exact (halts_iterate.1 ih).2 _ hn
  · intro h
    induction hk : μ s using Nat.strongRecOn generalizing s with
    | ind k ih =>
      refine halts_iterate.2 ⟨h s .refl, fun s' hn => ?_⟩
      exact ih (μ s') (hk ▸ hμ s s' hn) (fun s'' hs'' => h s'' (.head hn hs'')) rfl

/-! ### Cursors -/

def scanRound (test : ℕ → Bool) (cursor : ℕ) : Fueled (ℕ ⊕ ℕ) :=
  if test cursor then pure (.inl (cursor + 1)) else pure (.inr cursor)

/-- `while (test(cursor)) cursor += 1`. -/
def scan (test : ℕ → Bool) (cursor : ℕ) : Fueled ℕ := iterate (scanRound test) cursor

variable {test : ℕ → Bool} {i j : ℕ}

theorem returns_scan_true (h : test i = true) :
    (scan test i).Returns j ↔ (scan test (i + 1)).Returns j := by
  unfold scan
  rw [returns_iterate (s := i)]
  simp [Next, scanRound, h]

theorem returns_scan_false (h : test i = false) : (scan test i).Returns j ↔ j = i := by
  rw [scan, returns_iterate]
  simp [Next, scanRound, h]

/-- The cursor stops at the first place where the test fails. -/
theorem returns_scan_of (hij : i ≤ j) (hpass : ∀ k, i ≤ k → k < j → test k = true)
    (hstop : test j = false) : (scan test i).Returns j := by
  obtain ⟨d, rfl⟩ := Nat.exists_eq_add_of_le hij
  induction d generalizing i with
  | zero => exact (returns_scan_false hstop).2 rfl
  | succ d ih =>
    have hnext : i + (d + 1) = i + 1 + d := by omega
    rw [returns_scan_true (hpass i (Nat.le_refl i) (by omega)), hnext]
    rw [hnext] at hstop hpass
    exact ih (by omega) (fun k hk => hpass k (by omega)) hstop

theorem returns_scan : (scan test i).Returns j ↔
    i ≤ j ∧ (∀ k, i ≤ k → k < j → test k = true) ∧ test j = false := by
  constructor
  · rintro ⟨n, hn⟩
    induction n generalizing i with
    | zero => cases hn
    | succ n ih =>
      by_cases hi : test i = true
      · have hn' : (scan test (i + 1)).run n = some j := by
          change rounds (scanRound test) (n + 1) i = some j at hn
          rw [rounds, scanRound, if_pos hi] at hn
          exact hn
        obtain ⟨hle, hpass, hstop⟩ := ih hn'
        refine ⟨by omega, fun k hk hkj => ?_, hstop⟩
        rcases Nat.eq_or_lt_of_le hk with rfl | hk
        · exact hi
        · exact hpass k hk hkj
      · have hi : test i = false := by simpa using hi
        obtain rfl := (returns_scan_false hi).1 ⟨n + 1, hn⟩
        exact ⟨Nat.le_refl _, fun k hk hkj => absurd hkj (Nat.not_lt.2 hk), hi⟩
  · rintro ⟨hij, hpass, hstop⟩
    exact returns_scan_of hij hpass hstop

end Fueled
