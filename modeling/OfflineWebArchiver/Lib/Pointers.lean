import Mathlib.Data.Finset.Card
import Mathlib.Data.List.Basic
import Mathlib.Data.Finset.Dedup
import Mathlib.Tactic.Common
import OfflineWebArchiver.Lib.Loop

/-!
# Following pointers

A partial function `next` says where each place points to.

* `acyclic_insert_iff`: **a new edge closes a cycle if and only if its end leads to its start.**
* `chase`: the loop that follows the pointers from a place until it meets the target, comes to a
  place for the second time, or to one that points nowhere.
* `chase_halts`: it ends when only the places of some list point anywhere.
* `chase_returns`: on acyclic pointers it tells whether the start leads to the target.
-/

namespace Pointers

open Relation

variable {α : Type}

/-- No place leads back to itself. -/
def Acyclic (r : α → α → Prop) : Prop := ∀ a, ¬TransGen r a a

/-- The edges of `r` and one more. -/
def Insert (r : α → α → Prop) (a b : α) : α → α → Prop := fun c d => r c d ∨ (c = a ∧ d = b)

variable {r : α → α → Prop} {a b c d : α}

/-- A path with the new edge is a path without it, or passes the new edge. -/
theorem transGen_insert (h : TransGen (Insert r a b) c d) :
    TransGen r c d ∨ (ReflTransGen r c a ∧ ReflTransGen r b d) := by
  induction h with
  | single h =>
    rcases h with h | ⟨rfl, rfl⟩
    · exact .inl (.single h)
    · exact .inr ⟨.refl, .refl⟩
  | tail _ h ih =>
    rcases ih, h with ⟨ih | ⟨hca, hbd⟩, h | ⟨rfl, rfl⟩⟩
    · exact .inl (ih.tail h)
    · exact .inr ⟨ih.to_reflTransGen, .refl⟩
    · exact .inr ⟨hca, hbd.tail h⟩
    · exact .inr ⟨hca, .refl⟩

/-- **A new edge closes a cycle if and only if its end leads to its start.** -/
theorem acyclic_insert_iff (hr : Acyclic r) : Acyclic (Insert r a b) ↔ ¬ReflTransGen r b a := by
  constructor
  · intro hacyclic hba
    have hba : ReflTransGen (Insert r a b) b a := ReflTransGen.mono (fun _ _ h => .inl h) _ _ hba
    exact hacyclic a (.head' (.inr ⟨rfl, rfl⟩) hba)
  · intro hba c hc
    rcases transGen_insert hc with hc | ⟨hca, hbc⟩
    · exact hr c hc
    · exact hba (hbc.trans hca)

/-- A new edge from a place that has none, or has this one, keeps the edges functional. -/
theorem rightUnique_insert (hr : Relator.RightUnique r) (ha : ∀ d, r a d → d = b) :
    Relator.RightUnique (Insert r a b) := by
  intro c d e hd he
  rcases hd, he with ⟨hd | ⟨rfl, rfl⟩, he | ⟨hc, rfl⟩⟩
  · exact hr hd he
  · subst hc
    exact ha d hd
  · exact (ha e he).symm
  · rfl

/-! ### The loop -/

variable (next : α → Option α)

/-- Where the places point to. -/
def Edge (a b : α) : Prop := next a = some b

theorem edge_rightUnique : Relator.RightUnique (Edge next) := by
  intro a b c hb hc
  exact Option.some.inj (hb.symm.trans hc)

variable [DecidableEq α]

/-- The places that the loop has visited, and where it is. -/
structure Cursor (α : Type) where
  visited : List α := []
  place : Option α

/-- One round: the loop ends with `true` at the target and at a place for the second time. -/
def chaseRound (target : α) (s : Cursor α) : Fueled (Cursor α ⊕ Bool) :=
  match s.place with
  | none => pure (.inr false)
  | some place =>
    if place = target ∨ place ∈ s.visited then pure (.inr true)
    else pure (.inl ⟨place :: s.visited, next place⟩)

/-- The loop. -/
def chase (target start : α) : Fueled Bool := Fueled.iterate (chaseRound next target) { place := some start }

variable {next} {target start : α}

/-- What one round does. -/
theorem chaseRound_next {s s' : Cursor α} (h : Fueled.Next (chaseRound next target) s s') :
    ∃ place, s.place = some place ∧ place ≠ target ∧ place ∉ s.visited ∧ s' = ⟨place :: s.visited, next place⟩ := by
  unfold Fueled.Next chaseRound at h
  cases hplace : s.place with
  | none =>
    rw [hplace] at h
    cases Fueled.returns_pure.1 h
  | some place =>
    rw [hplace] at h
    by_cases hmet : place = target ∨ place ∈ s.visited
    · simp only [if_pos hmet, Fueled.returns_pure] at h
      cases h
    · simp only [if_neg hmet, Fueled.returns_pure, Sum.inl.injEq] at h
      rw [not_or] at hmet
      exact ⟨place, rfl, hmet.1, hmet.2, h⟩

/-- How a round ends the loop. -/
theorem chaseRound_done {s : Cursor α} {met : Bool} (h : (chaseRound next target s).Returns (.inr met)) :
    match s.place with
    | none => met = false
    | some place => met = true ∧ (place = target ∨ place ∈ s.visited) := by
  unfold chaseRound at h
  cases hplace : s.place with
  | none =>
    rw [hplace] at h
    simpa using h
  | some place =>
    rw [hplace] at h
    by_cases hmet : place = target ∨ place ∈ s.visited
    · simp only [if_pos hmet, Fueled.returns_pure, Sum.inr.injEq] at h
      exact ⟨h, hmet⟩
    · simp only [if_neg hmet, Fueled.returns_pure] at h
      cases h

/-- Every round visits a place more, so the loop ends when only the places of a list point anywhere. -/
theorem chase_halts {keys : List α} (hkeys : ∀ a b, next a = some b → a ∈ keys) :
    (chase next target start).Halts := by
  -- The measure: the places of the list that are left to visit, and the place where the loop is.
  refine (Fueled.halts_iterate_iff
    (fun s : Cursor α => (keys.toFinset \ s.visited.toFinset).card + s.place.toList.length) ?_).2 ?_
  · intro s s' h
    obtain ⟨place, hplace, -, hnew, rfl⟩ := chaseRound_next h
    have hsub : keys.toFinset \ (place :: s.visited).toFinset ⊆ keys.toFinset \ s.visited.toFinset := by
      refine Finset.sdiff_subset_sdiff (Finset.Subset.refl _) fun a ha => ?_
      exact List.mem_toFinset.2 (List.mem_cons_of_mem _ (List.mem_toFinset.1 ha))
    simp only [hplace, Option.toList_some, List.length_singleton]
    cases hnext : next place with
    | none =>
      have hle := Finset.card_le_card hsub
      simp only [Option.toList_none, List.length_nil]
      omega
    | some later =>
      have hlt : (keys.toFinset \ (place :: s.visited).toFinset).card < (keys.toFinset \ s.visited.toFinset).card := by
        refine Finset.card_lt_card ((Finset.ssubset_iff_of_subset hsub).2 ⟨place, ?_, ?_⟩)
        · simpa using ⟨hkeys place later hnext, hnew⟩
        · simp
      simp only [Option.toList_some, List.length_singleton]
      omega
  · intro s _
    unfold chaseRound
    cases s.place with
    | none => exact Fueled.halts_pure
    | some place =>
      by_cases hmet : place = target ∨ place ∈ s.visited
      · simp only [if_pos hmet, Fueled.halts_pure]
      · simp only [if_neg hmet, Fueled.halts_pure]

/-- What the loop knows of the places it has passed. -/
structure Chased (next : α → Option α) (target start : α) (s : Cursor α) : Prop where
  begun : start ∈ s.visited ∨ s.place = some start
  reached : ∀ place, s.place = some place → ReflTransGen (Edge next) start place
  other : ∀ a ∈ s.visited, a ≠ target
  closed : ∀ a ∈ s.visited, ∀ b, next a = some b → b ∈ s.visited ∨ s.place = some b
  ahead : ∀ a ∈ s.visited, ∀ place, s.place = some place → TransGen (Edge next) a place

omit [DecidableEq α] in
theorem chased_start : Chased next target start { place := some start } where
  begun := .inr rfl
  reached := by
    intro place h
    rw [Option.some.inj h]
  other := by simp
  closed := by simp
  ahead := by simp

theorem Chased.step {s s' : Cursor α} (hs : Chased next target start s)
    (h : Fueled.Next (chaseRound next target) s s') : Chased next target start s' := by
  obtain ⟨place, hplace, hother, -, rfl⟩ := chaseRound_next h
  have hplaces : ∀ later, next place = some later → Edge next place later := fun _ hlater => hlater
  refine ⟨?_, ?_, ?_, ?_, ?_⟩
  · rcases hs.begun with hbegun | hbegun
    · exact .inl (List.mem_cons_of_mem _ hbegun)
    · rw [hplace] at hbegun
      exact .inl (by simp [Option.some.inj hbegun])
  · intro later hlater
    exact (hs.reached place hplace).tail (hplaces later hlater)
  · intro a ha
    rcases List.mem_cons.1 ha with rfl | ha
    · exact hother
    · exact hs.other a ha
  · intro a ha b hab
    rcases List.mem_cons.1 ha with rfl | ha
    · exact .inr hab
    · rcases hs.closed a ha b hab with hb | hb
      · exact .inl (List.mem_cons_of_mem _ hb)
      · rw [hplace] at hb
        exact .inl (by simp [Option.some.inj hb])
  · intro a ha later hlater
    rcases List.mem_cons.1 ha with rfl | ha
    · exact .single (hplaces later hlater)
    · exact (hs.ahead a ha place hplace).tail (hplaces later hlater)

omit [DecidableEq α] in
/-- What the loop passes when it ends at a place that points nowhere is all that the start leads to. -/
theorem Chased.all {s : Cursor α} (hs : Chased next target start s) (hend : s.place = none)
    (h : ReflTransGen (Edge next) start a) : a ∈ s.visited := by
  induction h with
  | refl =>
    rcases hs.begun with hbegun | hbegun
    · exact hbegun
    · cases hend.symm.trans hbegun
  | tail _ hab ih =>
    rcases hs.closed _ ih _ hab with hb | hb
    · exact hb
    · cases hend.symm.trans hb

/-- **The loop on acyclic pointers** tells whether the start leads to the target. -/
theorem chase_returns (hacyclic : Acyclic (Edge next)) {met : Bool} (h : (chase next target start).Returns met) :
    met = true ↔ ReflTransGen (Edge next) start target := by
  obtain ⟨s, hs, hend⟩ := Fueled.iterate_invariant (P := Chased next target start) (fun _ _ => Chased.step) chased_start h
  have hdone := chaseRound_done hend
  cases hplace : s.place with
  | none =>
    simp only [hplace] at hdone
    simp only [hdone, Bool.false_eq_true, false_iff]
    exact fun hpath => hs.other target (hs.all hplace hpath) rfl
  | some place =>
    simp only [hplace] at hdone
    obtain ⟨rfl, hmet⟩ := hdone
    simp only [true_iff]
    rcases hmet with rfl | hmet
    · exact hs.reached place hplace
    · exact absurd (hs.ahead place hmet place hplace) (hacyclic place)

end Pointers
