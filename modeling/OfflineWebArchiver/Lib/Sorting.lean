import Mathlib.Data.List.Perm.Basic
import OfflineWebArchiver.Lib.Checks

/-!
# Sorting

A sort forgets the order that it was given.

* `mergeSort_eq_of_perm`: **two orders of the same elements sort to one list.**
* `mergeSort_filter`: what passes of a sorted list is sorted already.
* `mapM_perm`: a check that is made in another order finds the same results.
-/

namespace OfflineWebArchiver.Sorting

open Checks

variable {α β ε : Type} {le : α → α → Bool} {l l' : List α}

/-- **Two orders of the same elements sort to one list**, when no two of them tie. -/
theorem mergeSort_eq_of_perm (htrans : ∀ a b c, le a b → le b c → le a c) (htotal : ∀ a b, le a b || le b a)
    (hanti : ∀ a ∈ l, ∀ b ∈ l, le a b → le b a → a = b) (h : l.Perm l') :
    l.mergeSort le = l'.mergeSort le := by
  have hperm : (l.mergeSort le).Perm (l'.mergeSort le) :=
    (List.mergeSort_perm l le).trans (h.trans (List.mergeSort_perm l' le).symm)
  refine List.Perm.eq_of_pairwise (fun a b ha hb => ?_) (List.pairwise_mergeSort htrans htotal l)
    (List.pairwise_mergeSort htrans htotal l') hperm
  exact hanti a (List.mem_mergeSort.1 ha) b (h.symm.mem_iff.1 (List.mem_mergeSort.1 hb))

/-- What passes of a sorted list is sorted already. -/
theorem mergeSort_filter (htrans : ∀ a b c, le a b → le b c → le a c) (htotal : ∀ a b, le a b || le b a)
    (hanti : ∀ a ∈ l, ∀ b ∈ l, le a b → le b a → a = b) (p : α → Bool) :
    (l.filter p).mergeSort le = (l.mergeSort le).filter p := by
  have hsorted : ((l.mergeSort le).filter p).Pairwise (le · ·) := (List.pairwise_mergeSort htrans htotal l).filter p
  rw [← List.mergeSort_of_pairwise hsorted]
  apply mergeSort_eq_of_perm htrans htotal
  · intro a ha b hb
    exact hanti a (List.mem_of_mem_filter ha) b (List.mem_of_mem_filter hb)
  · exact (List.mergeSort_perm l le).symm.filter p

/-- A check that is made in another order finds the same results. -/
theorem mapM_perm {f : α → Except ε β} {found : List β} (hperm : l.Perm l') (h : l.mapM f = .ok found) :
    ∃ found', l'.mapM f = .ok found' ∧ found.Perm found' := by
  obtain ⟨found', hall, hfound⟩ : Relation.Comp (List.Forall₂ fun a b => f a = .ok b) List.Perm l' found := by
    rw [List.forall₂_comp_perm_eq_perm_comp_forall₂]
    exact ⟨l, hperm.symm, mapM_ok.1 h⟩
  exact ⟨found', mapM_ok.2 hall, hfound.symm⟩

end OfflineWebArchiver.Sorting
