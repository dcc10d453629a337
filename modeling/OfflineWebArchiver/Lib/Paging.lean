import Mathlib.Data.List.Basic
import Mathlib.Data.List.Pairwise

/-!
# Pages with a cursor

A reader asks for the rows after a cursor, at most `limit` of them, and learns the cursor of the
next page by asking for one row more. The rows are in the order of their keys.

* `rest_append`: what lies after a cursor is the end of the list.
* `next_some`, `next_none`: a page and the next cursor cut the list in two, or end it.
-/

namespace Paging

variable {α : Type} (key : α → ℕ)

/-- The rows after a cursor. -/
def rest (rows : List α) (cursor : ℕ) : List α := rows.filter fun a => cursor < key a

/-- One page. -/
def page (rows : List α) (limit cursor : ℕ) : List α := (rest key rows cursor).take limit

/-- The cursor of the next page, when one row more than the page was found. -/
def next (rows : List α) (limit cursor : ℕ) : Option ℕ :=
  if limit < ((rest key rows cursor).take (limit + 1)).length then
    (page key rows limit cursor).getLast?.map key
  else none

variable {key} {rows front back : List α} {limit cursor c : ℕ} {a : α}

/-- A cut of the list at the last key of its front. -/
theorem rest_append (hsorted : (front ++ back).Pairwise fun a b => key a < key b)
    (hlast : front.getLast?.map key = some c) : rest key (front ++ back) c = back := by
  obtain ⟨a, ha, rfl⟩ := Option.map_eq_some_iff.1 hlast
  obtain ⟨before, rfl⟩ := List.getLast?_eq_some_iff.1 ha
  obtain ⟨hfront, -, hcross⟩ := List.pairwise_append.1 hsorted
  obtain ⟨-, -, hbefore⟩ := List.pairwise_append.1 hfront
  have hdrop : rest key (before ++ [a]) (key a) = [] := by
    refine List.filter_eq_nil_iff.2 fun b hb => ?_
    have hle : key b ≤ key a := by
      rcases List.mem_append.1 hb with hb | hb
      · exact Nat.le_of_lt (hbefore b hb a (List.mem_singleton_self a))
      · exact Nat.le_of_eq (congrArg key (List.mem_singleton.1 hb))
    simpa using hle
  have hkeep : rest key back (key a) = back := by
    refine List.filter_eq_self.2 fun b hb => ?_
    simpa using hcross a (by simp) b hb
  unfold rest at hdrop hkeep ⊢
  rw [List.filter_append, hdrop, hkeep, List.nil_append]

/-- More than one page was left. -/
theorem next_lt (h : next key rows limit cursor = some c) :
    limit < (rest key rows cursor).length := by
  unfold next at h
  split_ifs at h with hmore
  rw [List.length_take] at hmore
  omega

/-- **A page is full and more follows**: the next cursor leads to what the page has left over. -/
theorem next_some (hsorted : rows.Pairwise fun a b => key a < key b)
    (h : next key rows limit cursor = some c) :
    rest key rows c = (rest key rows cursor).drop limit ∧ cursor < c := by
  unfold next at h
  split_ifs at h
  have hsub : (rest key rows cursor).Sublist rows := List.filter_sublist
  have hrest : (page key rows limit cursor ++ (rest key rows cursor).drop limit) =
      rest key rows cursor := List.take_append_drop ..
  have hpair : (rest key rows cursor).Pairwise fun a b => key a < key b := hsorted.sublist hsub
  obtain ⟨a, ha, hac⟩ := Option.map_eq_some_iff.1 h
  have hmem : a ∈ rest key rows cursor := List.mem_of_mem_take (List.mem_of_getLast? ha)
  have hlt : cursor < key a := by simpa [rest] using (List.mem_filter.1 hmem).2
  have hsplit : (page key rows limit cursor ++ (rest key rows cursor).drop limit).Pairwise
      fun a b => key a < key b := hrest.symm ▸ hpair
  have hcut := rest_append hsplit h
  rw [hrest] at hcut
  refine ⟨?_, hac ▸ hlt⟩
  -- a row after the new cursor is a row after the old one
  rw [← hcut]
  unfold rest
  rw [List.filter_filter]
  refine List.filter_congr fun b _ => ?_
  by_cases hb : c < key b
  · have : cursor < key b := by omega
    simp [hb, this]
  · simp [hb]

/-- **The last page**: nothing is left over. -/
theorem next_none (hlimit : 0 < limit) (h : next key rows limit cursor = none) :
    page key rows limit cursor = rest key rows cursor := by
  refine List.take_of_length_le ?_
  unfold next at h
  split_ifs at h with hmore
  · have hnone : (page key rows limit cursor).getLast? = none := by
      cases hl : (page key rows limit cursor).getLast? with
      | none => rfl
      | some a => rw [hl] at h; cases h
    have hnil := List.getLast?_eq_none_iff.1 hnone
    unfold page at hnil
    rcases List.take_eq_nil_iff.1 hnil with h0 | h0
    · omega
    · rw [h0]; simp
  · rw [List.length_take] at hmore
    omega

/-- A cursor before the first key leaves all. -/
theorem rest_zero (hpos : ∀ a ∈ rows, 0 < key a) : rest key rows 0 = rows :=
  List.filter_eq_self.2 fun a ha => by simpa using hpos a ha

end Paging
