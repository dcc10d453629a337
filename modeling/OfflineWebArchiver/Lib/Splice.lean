import Mathlib.Data.List.Basic

/-!
# Edits of a list

An edit puts a value in the place of a span. The edits of a list are collected from the front
and applied from the end, so that the spans in front keep their places.

* `Separate`: the spans are within bounds and lie one behind the other.
* `splice`: the list with the values in the places of the spans, from the front.
* `applyFromEnd_eq`: for separate edits the two agree.
* `cut`, `moved`: the list without the spans, and where the values stand in the result.
* `moved_spec`: without the values the result is the list without the spans; with the old texts in
  the places of the values it is the list.
-/

namespace Splice

structure Edit (α : Type) where
  start : ℕ
  stop : ℕ
  value : List α
deriving DecidableEq

variable {α : Type}

/-- The elements from `i` up to `j`. -/
def between (text : List α) (i j : ℕ) : List α := (text.drop i).take (j - i)

/-- Put the value in the place of the span. -/
def replaceAt (text : List α) (e : Edit α) : List α :=
  text.take e.start ++ e.value ++ text.drop e.stop

/-- The edit that starts last is applied first. -/
def applyFromEnd (text : List α) (edits : List (Edit α)) : List α :=
  (edits.mergeSort fun left right => decide (right.start ≤ left.start)).foldl replaceAt text

/-- The text from `i` on with the values in the places of the spans. -/
def splice (text : List α) : ℕ → List (Edit α) → List α
  | i, [] => text.drop i
  | i, e :: es => between text i e.start ++ e.value ++ splice text e.stop es

/-- The text from `i` on without the spans. -/
def cut (text : List α) : ℕ → List (Edit α) → List α
  | i, [] => text.drop i
  | i, e :: es => between text i e.start ++ cut text e.stop es

/-- Where the values stand in the result, with the texts that they replaced. The cursor is at `i`
in the text and at `o` in the result. -/
def moved (text : List α) : ℕ → ℕ → List (Edit α) → List (Edit α)
  | _, _, [] => []
  | i, o, e :: es =>
    let start := o + (e.start - i)
    let stop := start + e.value.length
    ⟨start, stop, between text e.start e.stop⟩ :: moved text e.stop stop es

/-- **The spans are within bounds and pairwise disjoint**, in the order in which they stand. -/
structure Separate (n : ℕ) (edits : List (Edit α)) : Prop where
  bounds : ∀ e ∈ edits, e.start ≤ e.stop ∧ e.stop ≤ n
  disjoint : edits.Pairwise fun a b => a.stop ≤ b.start ∧ a.start < b.start

variable {text out pre : List α} {edits es : List (Edit α)} {e : Edit α} {n i j o : ℕ}

/-! ### Pieces -/

theorem length_between (hij : i ≤ j) (hj : j ≤ text.length) :
    (between text i j).length = j - i := by
  rw [between, List.length_take, List.length_drop]
  omega

theorem take_append_between (hij : i ≤ j) : text.take i ++ between text i j = text.take j := by
  rw [between, ← List.take_add, Nat.add_sub_cancel' hij]

theorem between_append_drop (hij : i ≤ j) : between text i j ++ text.drop j = text.drop i := by
  have h := List.take_append_drop (j - i) (text.drop i)
  rwa [List.drop_drop, Nat.add_sub_cancel' hij] at h

/-- A piece of a text that starts with `pre`. -/
theorem between_append (pre x y : List α) :
    between (pre ++ x ++ y) pre.length (pre.length + x.length) = x := by
  rw [between, List.append_assoc, List.drop_left, Nat.add_sub_cancel_left, List.take_left]

/-! ### Separate edits -/

theorem separate_nil : Separate n ([] : List (Edit α)) := ⟨by simp, .nil⟩

theorem Separate.tail (h : Separate n (e :: es)) : Separate n es :=
  ⟨fun x hx => h.bounds x (List.mem_cons_of_mem e hx), (List.pairwise_cons.1 h.disjoint).2⟩

theorem Separate.head (h : Separate n (e :: es)) : e.start ≤ e.stop ∧ e.stop ≤ n :=
  h.bounds e List.mem_cons_self

theorem Separate.behind (h : Separate n (e :: es)) : ∀ x ∈ es, e.stop ≤ x.start :=
  fun x hx => ((List.pairwise_cons.1 h.disjoint).1 x hx).1

/-- One more edit behind all others. -/
theorem Separate.concat (h : Separate n edits) (hle : e.start ≤ e.stop) (hn : e.stop ≤ n)
    (hbehind : ∀ x ∈ edits, x.stop ≤ e.start ∧ x.start < e.start) : Separate n (edits ++ [e]) := by
  refine ⟨fun x hx => ?_, List.pairwise_append.2 ⟨h.disjoint, List.pairwise_singleton _ _, ?_⟩⟩
  · rcases List.mem_append.1 hx with hx | hx
    · exact h.bounds x hx
    · rw [List.mem_singleton.1 hx]
      exact ⟨hle, hn⟩
  · intro a ha b hb
    rw [List.mem_singleton.1 hb]
    exact hbehind a ha

/-- Edits that start in order are applied from the last one to the first one. -/
theorem sort_eq_reverse (h : edits.Pairwise fun a b => a.start < b.start) :
    (edits.mergeSort fun left right => decide (right.start ≤ left.start)) = edits.reverse := by
  have hsorted : (edits.mergeSort fun left right => decide (right.start ≤ left.start)).Pairwise
      fun left right => decide (right.start ≤ left.start) = true :=
    List.pairwise_mergeSort
      (fun a b c hab hbc => by simp only [decide_eq_true_eq] at *; omega)
      (fun a b => by simp only [Bool.or_eq_true, decide_eq_true_eq]; omega) edits
  have hreverse : edits.reverse.Pairwise fun left right =>
      decide (right.start ≤ left.start) = true := by
    rw [List.pairwise_reverse]
    exact h.imp fun hab => by simpa using Nat.le_of_lt hab
  -- two edits with the same start are the same edit
  have hinj : ∀ a b, a ∈ edits → b ∈ edits → a.start = b.start → a = b := by
    intro a b ha hb hab
    have hget := List.pairwise_iff_getElem.1 h
    obtain ⟨k, hk, rfl⟩ := List.mem_iff_getElem.1 ha
    obtain ⟨l, hl, rfl⟩ := List.mem_iff_getElem.1 hb
    rcases Nat.lt_trichotomy k l with hlt | rfl | hlt
    · have := hget k l hk hl hlt
      omega
    · rfl
    · have := hget l k hl hk hlt
      omega
  refine List.Perm.eq_of_pairwise (fun a b ha hb hab hba => ?_) hsorted hreverse
    ((List.mergeSort_perm edits _).trans (List.reverse_perm edits).symm)
  simp only [decide_eq_true_eq] at hab hba
  exact hinj a b (List.mem_mergeSort.1 ha) (List.mem_reverse.1 hb) (by omega)

theorem foldr_replaceAt (h : Separate text.length edits) (hi : i ≤ text.length)
    (hbehind : ∀ e ∈ edits, i ≤ e.start) :
    edits.foldr (fun e out => replaceAt out e) text = text.take i ++ splice text i edits := by
  induction edits generalizing i with
  | nil => exact (List.take_append_drop i text).symm
  | cons e es ih =>
    obtain ⟨hle, hn⟩ := h.head
    have hie := hbehind e List.mem_cons_self
    rw [List.foldr_cons, ih h.tail hn h.behind, replaceAt]
    have hfront : (text.take e.stop ++ splice text e.stop es).take e.start = text.take e.start := by
      rw [List.take_append_of_le_length (by rw [List.length_take]; omega), List.take_take,
        Nat.min_eq_left hle]
    have hback : (text.take e.stop ++ splice text e.stop es).drop e.stop =
        splice text e.stop es := by
      rw [List.drop_append_of_le_length (by rw [List.length_take]; omega),
        List.drop_eq_nil_of_le (by rw [List.length_take]; omega), List.nil_append]
    rw [hfront, hback, splice, ← take_append_between hie, List.append_assoc, List.append_assoc,
      List.append_assoc]

/-- **Applied from the end, separate edits put each value in the place of its span.** -/
theorem applyFromEnd_eq (h : Separate text.length edits) :
    applyFromEnd text edits = splice text 0 edits := by
  rw [applyFromEnd, sort_eq_reverse (h.disjoint.imp And.right), List.foldl_reverse,
    foldr_replaceAt h (Nat.zero_le _) fun e _ => Nat.zero_le _]
  rfl

/-! ### What is left of the text -/

/-- What the values are surrounded by, with the cursor at `i` in the text and at the end of `pre`
in the result. -/
theorem moved_spec (h : Separate text.length edits) (hbehind : ∀ e ∈ edits, i ≤ e.start)
    (pre : List α) :
    cut (pre ++ splice text i edits) pre.length (moved text i pre.length edits) = cut text i edits ∧
      splice (pre ++ splice text i edits) pre.length (moved text i pre.length edits) =
        text.drop i ∧
      List.Forall₂ (fun m e => between (pre ++ splice text i edits) m.start m.stop = e.value)
        (moved text i pre.length edits) edits := by
  induction edits generalizing i pre with
  | nil => simp [splice, cut, moved]
  | cons e es ih =>
    obtain ⟨hle, hn⟩ := h.head
    have hie := hbehind e List.mem_cons_self
    have hlen : (between text i e.start).length = e.start - i := length_between hie (by omega)
    have hout : pre ++ splice text i (e :: es) =
        pre ++ between text i e.start ++ e.value ++ splice text e.stop es := by
      simp only [splice, List.append_assoc]
    have hpre : (pre ++ between text i e.start ++ e.value).length =
        pre.length + (e.start - i) + e.value.length := by
      simp only [List.length_append, hlen]
    obtain ⟨hcut, hrestore, hvalues⟩ := ih h.tail h.behind (pre ++ between text i e.start ++ e.value)
    rw [hpre, ← hout] at hcut hrestore hvalues
    have hfront : between (pre ++ splice text i (e :: es)) pre.length (pre.length + (e.start - i)) =
        between text i e.start := by
      rw [hout, List.append_assoc (pre ++ _), ← hlen]
      exact between_append _ _ _
    have hvalue : between (pre ++ splice text i (e :: es)) (pre.length + (e.start - i))
        (pre.length + (e.start - i) + e.value.length) = e.value := by
      have := between_append (pre ++ between text i e.start) e.value (splice text e.stop es)
      rwa [List.length_append, hlen, ← hout] at this
    refine ⟨?_, ?_, ?_⟩
    · simp only [moved, cut]
      rw [hfront, hcut]
    · simp only [moved, splice] at hfront hrestore ⊢
      rw [hfront, hrestore, List.append_assoc, between_append_drop hle, between_append_drop hie]
    · exact .cons hvalue hvalues

end Splice
