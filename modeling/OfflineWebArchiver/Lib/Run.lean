import Mathlib.Data.List.Basic
import Mathlib.Data.List.Count
import Mathlib.Order.RelClasses
import Mathlib.Order.WellFounded

/-!
# Runs of a transition function

`stAt step s₀ es n` is the state after the first `n` events of `es`, from `s₀`; when
the events are used up it stays. `Meets C es` says that every event of the run is
taken in a state where the condition `C` allows it.

* `stAt_induction`: what holds at the start and is kept by every event of the
  run holds at every point of the run.
* `stAt_trans`: a reflexive and transitive relation that every event respects
  relates any two points of the run.
-/

namespace Run

variable {σ ι : Type}

/-- The state after the first `n` events. -/
def stAt (step : σ → ι → σ) (s₀ : σ) (es : List ι) (n : ℕ) : σ := (es.take n).foldl step s₀

/-- Every event of the run satisfies `C` in the state where it is taken. -/
def Meets (step : σ → ι → σ) (s₀ : σ) (C : σ → ι → Prop) (es : List ι) : Prop :=
  ∀ n e, es[n]? = some e → C (stAt step s₀ es n) e

variable {step : σ → ι → σ} {s₀ : σ} {es : List ι} {n : ℕ}

instance {C : σ → ι → Prop} [∀ s e, Decidable (C s e)] : Decidable (Meets step s₀ C es) :=
  decidable_of_iff (∀ n : Fin es.length, C (stAt step s₀ es n) es[n])
    ⟨fun h n e he => by
      obtain ⟨hn, rfl⟩ := List.getElem?_eq_some_iff.1 he
      exact h ⟨n, hn⟩,
     fun h n => h n _ (List.getElem?_eq_getElem n.2)⟩

@[simp] theorem stAt_zero : stAt step s₀ es 0 = s₀ := rfl

theorem stAt_succ {e : ι} (he : es[n]? = some e) :
    stAt step s₀ es (n + 1) = step (stAt step s₀ es n) e := by
  unfold stAt
  rw [List.take_add_one, he, Option.toList_some, List.foldl_append]
  rfl

/-- Nothing happens after the last event. -/
theorem stAt_succ_none (he : es[n]? = none) : stAt step s₀ es (n + 1) = stAt step s₀ es n := by
  unfold stAt
  rw [List.take_add_one, he, Option.toList_none, List.append_nil]

/-- **Invariants of a run.** -/
theorem stAt_induction {P : σ → Prop} (h₀ : P s₀)
    (hs : ∀ n e, es[n]? = some e → P (stAt step s₀ es n) → P (step (stAt step s₀ es n) e)) :
    ∀ n, P (stAt step s₀ es n) := by
  intro n
  induction n with
  | zero => exact h₀
  | succ n ih =>
    cases he : es[n]? with
    | none => rw [stAt_succ_none he]; exact ih
    | some e => rw [stAt_succ he]; exact hs n e he ih

/-- Any two points of a run are related by what every event respects. -/
theorem stAt_trans {r : σ → σ → Prop} (hrefl : ∀ s, r s s) (htrans : ∀ s t u, r s t → r t u → r s u)
    (hs : ∀ n e, es[n]? = some e → r (stAt step s₀ es n) (step (stAt step s₀ es n) e))
    {m n : ℕ} (hmn : m ≤ n) : r (stAt step s₀ es m) (stAt step s₀ es n) := by
  induction n with
  | zero => obtain rfl : m = 0 := by omega
            exact hrefl _
  | succ n ih =>
    rcases Nat.eq_or_lt_of_le hmn with h | h
    · rw [h]; exact hrefl _
    · have hm := ih (by omega)
      cases he : es[n]? with
      | none => rw [stAt_succ_none he]; exact hm
      | some e => rw [stAt_succ he]; exact htrans _ _ _ hm (hs n e he)

end Run

/-!
## Infinite runs

`runAt step s₀ es n` is the state after the first `n` events of an infinite run.

* `runAt_induction`: what holds at the start and is kept by every event holds at every point.
* `exists_change`: what holds at one point and not at a later one is lost by one event.
* `eventually_of_variant`: a measure that never rises, and that drops again and again until the
  goal is reached, leads to the goal.
-/

namespace Liveness

variable {σ ι β : Type}

/-- The state after the first `n` events. -/
def runAt (step : σ → ι → σ) (s₀ : σ) (es : ℕ → ι) : ℕ → σ
  | 0 => s₀
  | n + 1 => step (runAt step s₀ es n) (es n)

variable {step : σ → ι → σ} {s₀ : σ} {es : ℕ → ι} {st : ℕ → σ}

/-- **Invariants of a run.** -/
theorem runAt_induction {P : σ → Prop} (h₀ : P s₀)
    (hs : ∀ n, P (runAt step s₀ es n) → P (step (runAt step s₀ es n) (es n))) (n : ℕ) :
    P (runAt step s₀ es n) := by
  induction n with
  | zero => exact h₀
  | succ n ih => exact hs n ih

/-- The event at which something is lost. -/
theorem exists_change {P : σ → Prop} {m n : ℕ} (hmn : m ≤ n) (hm : P (st m)) (hn : ¬P (st n)) :
    ∃ k, m ≤ k ∧ P (st k) ∧ ¬P (st (k + 1)) := by
  induction n, hmn using Nat.le_induction with
  | base => exact absurd hm hn
  | succ n hmn ih =>
    by_cases hlast : P (st n)
    · exact ⟨n, hmn, hlast, hn⟩
    · exact ih hlast

variable [Preorder β] [WellFoundedLT β]

/-- **Progress.** -/
theorem eventually_of_variant {Goal : σ → Prop} (μ : σ → β)
    (hle : ∀ n, ¬Goal (st n) → ¬Goal (st (n + 1)) → μ (st (n + 1)) ≤ μ (st n))
    (hlt : ∀ n, ¬Goal (st n) → ∃ m, n ≤ m ∧ (Goal (st m) ∨ μ (st (m + 1)) < μ (st m) ∨ Goal (st (m + 1))))
    (n : ℕ) : ∃ m, n ≤ m ∧ Goal (st m) := by
  -- by induction on the measure: until it drops, it stays at most what it is now
  induction hμ : μ (st n) using WellFoundedLT.induction generalizing n with
  | ind b ih =>
    by_contra hnever
    have hnot : ∀ m, n ≤ m → ¬Goal (st m) := fun m hm hg => hnever ⟨m, hm, hg⟩
    have hmono : ∀ m, n ≤ m → μ (st m) ≤ μ (st n) := by
      intro m hm
      induction m, hm using Nat.le_induction with
      | base => exact le_rfl
      | succ m hm ihm => exact (hle m (hnot m hm) (hnot (m + 1) (by omega))).trans ihm
    obtain ⟨m, hm, hgoal | hdrop | hgoal⟩ := hlt n (hnot n le_rfl)
    · exact hnot m hm hgoal
    · obtain ⟨k, hk, hgoal⟩ := ih (μ (st (m + 1))) (hμ ▸ hdrop.trans_le (hmono m hm)) (m + 1) rfl
      exact hnot k (by omega) hgoal
    · exact hnot (m + 1) (by omega) hgoal

end Liveness

/-!
## A limit on the events of a window

A limiter records the times of the events it lets through, forgets those older than the window,
and refuses an event while it remembers `limit` of them. `Limited` relates what it remembers to
the whole history; the clock does not go back.

* `Limited.admit`: an event that is let through keeps at most `limit` events in every window.
-/

namespace Window

/-- An event that is at most a window old. -/
def recent (window now time : ℕ) : Bool := now - time ≤ window

/-- `times` is what the limiter remembers of `history` at the time `now`. -/
structure Limited (window limit now : ℕ) (times history : List ℕ) : Prop where
  past : ∀ time ∈ history, time ≤ now
  remembered : ∀ later, now ≤ later →
    history.countP (recent window later) = times.countP (recent window later)
  bounded : ∀ start,
    history.countP (fun time => start ≤ time && time ≤ start + window) ≤ limit

variable {window limit now later : ℕ} {times history : List ℕ}

theorem Limited.nil : Limited window limit now [] [] :=
  ⟨by simp, fun _ _ => rfl, fun _ => Nat.zero_le _⟩

/-- The clock moves on. -/
theorem Limited.clock (h : Limited window limit now times history) (hle : now ≤ later) :
    Limited window limit later times history :=
  ⟨fun time ht => Nat.le_trans (h.past time ht) hle,
    fun t ht => h.remembered t (Nat.le_trans hle ht), h.bounded⟩

/-- What is older than the window is forgotten. -/
theorem Limited.prune (h : Limited window limit now times history) :
    Limited window limit now (times.filter (recent window now)) history := by
  refine ⟨h.past, fun t ht => ?_, h.bounded⟩
  rw [h.remembered t ht, List.countP_filter]
  refine List.countP_congr fun time _ => ?_
  unfold recent
  simp only [Bool.and_eq_true, decide_eq_true_eq]
  omega

/-- **An event is let through.** -/
theorem Limited.admit (h : Limited window limit now times history)
    (hlt : (times.filter (recent window now)).length < limit) :
    Limited window limit now (times.filter (recent window now) ++ [now]) (now :: history) := by
  have hpruned := h.prune
  refine ⟨fun time ht => ?_, fun t ht => ?_, fun start => ?_⟩
  · rcases List.mem_cons.1 ht with rfl | ht
    · exact Nat.le_refl _
    · exact h.past time ht
  · rw [List.countP_cons, List.countP_append, hpruned.remembered t ht, List.countP_singleton]
  · rw [List.countP_cons]
    split_ifs with hin
    · -- every other event of this window is remembered
      have hsub : history.countP (fun time => start ≤ time && time ≤ start + window) ≤
          history.countP (recent window now) := by
        refine List.countP_mono_left fun time _ htime => ?_
        simp only [Bool.and_eq_true, decide_eq_true_eq] at hin htime
        unfold recent
        simp only [decide_eq_true_eq]
        omega
      have hcount : times.countP (recent window now) =
          (times.filter (recent window now)).length := List.countP_eq_length_filter
      rw [h.remembered now (Nat.le_refl _)] at hsub
      omega
    · exact h.bounded start

end Window
