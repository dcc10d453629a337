import Mathlib.Data.List.Chain
import Mathlib.Logic.Function.Basic

/-!
# Logs that are paths

A log names, for each move, the state it leaves and the state it enters; nothing is left by the
move that creates. A `Trail` is a log whose moves follow one another. A `Journal` keeps a current
state and a log for every key.

* `Trail.append`: trails compose.
* `Trail.linked`, `Trail.last`: what a reader of the log finds.
* `Journal.Extends`: a journal only grew, and what it grew by leads from the old states to the new.
* `Journal.Extends.valid`: growth keeps every log a trail from the beginning.
-/

variable {σ κ : Type} {R : Option σ → σ → Prop} {s t u : Option σ} {a b : List (Option σ × σ)}

/-- The moves of the log lead from the first state to the second. -/
inductive Trail (R : Option σ → σ → Prop) : Option σ → List (Option σ × σ) → Option σ → Prop
  | nil (s : Option σ) : Trail R s [] s
  | cons {s u : Option σ} {t : σ} {log : List (Option σ × σ)} (allowed : R s t)
      (rest : Trail R (some t) log u) : Trail R s ((s, t) :: log) u

namespace Trail

theorem single {t : σ} (h : R s t) : Trail R s [(s, t)] (some t) := .cons h (.nil _)

/-- **Trails compose.** -/
theorem append (h : Trail R s a t) (h' : Trail R t b u) : Trail R s (a ++ b) u := by
  induction h with
  | nil s => exact h'
  | cons allowed rest ih => exact .cons allowed (ih h')

theorem allowed (h : Trail R s a t) : ∀ e ∈ a, R e.1 e.2 := by
  induction h with
  | nil s => intro e he; cases he
  | cons hR rest ih =>
    intro e he
    rcases List.mem_cons.1 he with rfl | he
    · exact hR
    · exact ih e he

theorem first (h : Trail R s a t) : ∀ e ∈ a.head?, e.1 = s := by
  cases h with
  | nil s => intro e he; cases he
  | cons hR rest =>
    intro e he
    obtain rfl := Option.some.inj he
    rfl

/-- Each move leaves the state that the move before it enters. -/
theorem linked (h : Trail R s a t) : a.IsChain fun e f => f.1 = some e.2 := by
  induction h with
  | nil s => exact .nil
  | cons hR rest ih => exact List.isChain_cons.2 ⟨fun f hf => rest.first f hf, ih⟩

/-- A log leads from nothing to something only through moves, the last of which enters it. -/
theorem last (h : Trail R s a t) : (a.getLast?.map fun e => some e.2).getD s = t := by
  induction h with
  | nil s => rfl
  | @cons s u t log hR rest ih =>
    cases log with
    | nil => exact ih
    | cons e log =>
      rw [List.getLast?_cons_cons]
      rw [List.getLast?_eq_some_getLast (List.cons_ne_nil e log)] at ih ⊢
      exact ih

end Trail

/-- A current state and a log for every key. -/
structure Journal (κ σ : Type) where
  state : κ → Option σ
  log : κ → List (Option σ × σ)

namespace Journal

variable {j j' j'' : Journal κ σ}

/-- Every log is a trail from the beginning to the current state. -/
def Valid (R : Option σ → σ → Prop) (j : Journal κ σ) : Prop :=
  ∀ k, Trail R none (j.log k) (j.state k)

/-- The logs only grew, by trails from the old states to the new. -/
def Extends (R : Option σ → σ → Prop) (j j' : Journal κ σ) : Prop :=
  ∀ k, ∃ new, j'.log k = j.log k ++ new ∧ Trail R (j.state k) new (j'.state k)

theorem Extends.refl : Extends R j j := fun k => ⟨[], by simp, .nil _⟩

theorem Extends.trans (h : Extends R j j') (h' : Extends R j' j'') : Extends R j j'' := by
  intro k
  obtain ⟨new, hlog, htrail⟩ := h k
  obtain ⟨new', hlog', htrail'⟩ := h' k
  refine ⟨new ++ new', ?_, htrail.append htrail'⟩
  rw [hlog', hlog, List.append_assoc]

/-- **Growth keeps the logs trails.** -/
theorem Extends.valid (h : Extends R j j') (hj : Valid R j) : Valid R j' := by
  intro k
  obtain ⟨new, hlog, htrail⟩ := h k
  rw [hlog]
  exact (hj k).append htrail

/-- One key moves and its log says so. -/
theorem Extends.of_move [DecidableEq κ] {k : κ} {t : σ}
    (hstate : j'.state = Function.update j.state k (some t))
    (hlog : j'.log = Function.update j.log k (j.log k ++ [(j.state k, t)])) (hR : R (j.state k) t) :
    Extends R j j' := by
  intro x
  rw [hstate, hlog]
  by_cases hx : x = k
  · subst hx
    rw [Function.update_self, Function.update_self]
    exact ⟨_, rfl, .single hR⟩
  · rw [Function.update_of_ne hx, Function.update_of_ne hx]
    exact ⟨[], by simp, .nil _⟩

end Journal
