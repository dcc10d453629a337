import Mathlib.Data.List.Basic

/-!
# Lists of effects

A procedure that works through a list of effects, each of which may fail, and the state
that it leaves when it is stopped in between.

* `perform`: the effects up to the first that fails.
* `perform_take`: a procedure that gets to its end can be stopped anywhere before.
* `runAll_view`: **what the effects do to a part of the state is what those of them do that
  concern this part.**
-/

namespace Effects

variable {ε σ ρ : Type} (run : ε → σ → Option σ)

/-- One effect after the other. -/
def runAll : List ε → σ → Option σ
  | [], s => some s
  | e :: es, s => (run e s).bind (runAll es)

/-- One effect after the other up to the first that fails, and whether none did. -/
def perform : List ε → σ → σ × Bool
  | [], s => (s, true)
  | e :: es, s =>
    match run e s with
    | none => (s, false)
    | some s' => perform es s'

/-- What is left when the procedure is stopped after `n` effects. -/
def stopAfter (n : ℕ) (es : List ε) (s : σ) : σ := (perform run (es.take n) s).1

variable {run} {es es' : List ε} {s s' : σ}

theorem perform_eq_true : perform run es s = (s', true) ↔ runAll run es s = some s' := by
  induction es generalizing s with
  | nil => simp [perform, runAll]
  | cons e es ih =>
    rw [perform, runAll]
    cases h : run e s with
    | none => simp
    | some t => exact ih

theorem runAll_append : runAll run (es ++ es') s = (runAll run es s).bind (runAll run es') := by
  induction es generalizing s with
  | nil => rfl
  | cons e es ih =>
    rw [List.cons_append, runAll, runAll, Option.bind_assoc]
    exact congrArg _ (funext fun t => ih)

/-- **A procedure that gets to its end can be stopped anywhere before.** -/
theorem runAll_take (h : runAll run es s = some s') (n : ℕ) :
    runAll run (es.take n) s = some (stopAfter run n es s) := by
  rw [← List.take_append_drop n es, runAll_append, Option.bind_eq_some_iff] at h
  obtain ⟨t, ht, -⟩ := h
  rw [ht, stopAfter, perform_eq_true.2 ht]

/-- **What the effects do to a part of the state is what those of them do that concern this
part.** -/
theorem runAll_view {view : σ → ρ} {run' : ε → ρ → Option ρ} {keep : ε → Bool}
    (hkeep : ∀ e s, keep e = true → run' e (view s) = (run e s).map view)
    (hskip : ∀ e s, keep e = false → (run e s).map view = some (view s)) (es : List ε) (s : σ) :
    (runAll run es s).map view = runAll run' (es.filter keep) (view s) := by
  induction es generalizing s with
  | nil => rfl
  | cons e es ih =>
    rw [runAll, Option.map_bind]
    cases hk : keep e with
    | true =>
      rw [List.filter_cons_of_pos hk, runAll, hkeep e s hk, Option.bind_map]
      exact congrArg _ (funext fun t => ih t)
    | false =>
      rw [List.filter_cons_of_neg (by rw [hk]; simp)]
      obtain ⟨t, ht, hview⟩ := Option.map_eq_some_iff.1 (hskip e s hk)
      rw [ht, Option.bind_some, ← hview]
      exact ih t

end Effects
