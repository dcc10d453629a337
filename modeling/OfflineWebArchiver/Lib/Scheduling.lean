import Mathlib.Algebra.BigOperators.Ring.Finset
import Mathlib.Algebra.Order.BigOperators.Group.Finset
import Mathlib.Algebra.Order.Field.Basic
import Mathlib.Data.List.Count
import Mathlib.Data.List.Nodup
import Mathlib.Data.Nat.Periodic
import Mathlib.Tactic.Linarith
import Mathlib.Tactic.Ring

/-!
# Tickets

What a resource has granted, in order, and which grants are still held. A grant is named by
its place, its ticket, so two equal grants are told apart.

* `grant`, `giveBack`: a new ticket, and the end of one.
* `count_grant`, `count_giveBack`: how many held grants have a property.
* `keys_giveBack`: the keys of the held grants, when no two share one.
-/

/-- The grants and the held ones among them. -/
structure Tickets (ρ : Type) where
  granted : List ρ
  live : List (ℕ × ρ)
  named : ∀ t r, (t, r) ∈ live → granted[t]? = some r
  nodup : live.Nodup

namespace Tickets

variable {ρ κ : Type}

def empty : Tickets ρ where
  granted := []
  live := []
  named t r h := by cases h
  nodup := List.nodup_nil

/-- How many held grants have the property. -/
def count (p : ρ → Bool) (l : Tickets ρ) : ℕ := l.live.countP fun held => p held.2

/-- The keys of the held grants. -/
def keys (f : ρ → κ) (l : Tickets ρ) : List κ := l.live.map fun held => f held.2

/-- A new ticket. -/
def grant (r : ρ) (l : Tickets ρ) : Tickets ρ where
  granted := l.granted ++ [r]
  live := l.live ++ [(l.granted.length, r)]
  named t r' h := by
    rcases List.mem_append.1 h with h | h
    · have hold := l.named t r' h
      rw [List.getElem?_append_left (List.getElem?_eq_some_iff.1 hold).1, hold]
    · obtain ⟨rfl, rfl⟩ := Prod.mk.injEq .. ▸ List.mem_singleton.1 h
      rw [List.getElem?_concat_length]
  nodup := by
    refine List.nodup_append.2 ⟨l.nodup, List.nodup_singleton _, ?_⟩
    rintro ⟨t, r'⟩ hheld new hnew rfl
    -- a ticket that is held is older than the new one
    have hold := (List.getElem?_eq_some_iff.1 (l.named t r' hheld)).1
    obtain ⟨rfl, -⟩ := Prod.mk.injEq .. ▸ List.mem_singleton.1 hnew
    omega

/-- The end of the ticket `t`, which was granted as `r`. -/
def giveBack [DecidableEq ρ] (t : ℕ) (r : ρ) (l : Tickets ρ) : Tickets ρ where
  granted := l.granted
  live := l.live.erase (t, r)
  named t' r' h := l.named t' r' (List.mem_of_mem_erase h)
  nodup := l.nodup.erase _

variable {l : Tickets ρ} {r : ρ} {t : ℕ} {p : ρ → Bool} {f : ρ → κ}

theorem count_grant : (l.grant r).count p = l.count p + if p r then 1 else 0 := by
  unfold count grant
  rw [List.countP_append, List.countP_singleton]

theorem keys_grant : (l.grant r).keys f = l.keys f ++ [f r] := by
  unfold keys grant
  rw [List.map_append, List.map_singleton]

theorem count_le_count {q : ρ → Bool} (h : ∀ r, p r = true → q r = true) : l.count p ≤ l.count q :=
  List.countP_mono_left fun held _ => h held.2

variable [DecidableEq ρ]

theorem count_giveBack (hlive : (t, r) ∈ l.live) :
    l.count p = (l.giveBack t r).count p + if p r then 1 else 0 := by
  unfold count giveBack
  have hperm := (List.perm_cons_erase hlive).countP_eq fun held => p held.2
  rw [hperm, List.countP_cons]

/-- The end of a ticket that is not held changes nothing. -/
theorem giveBack_of_not_live (h : (t, r) ∉ l.live) : l.giveBack t r = l := by
  obtain ⟨granted, live, named, nodup⟩ := l
  unfold giveBack
  congr 1
  exact List.erase_of_not_mem h

/-- **The end of a ticket ends its key.** -/
theorem keys_giveBack [DecidableEq κ] (hkeys : (l.keys f).Nodup) (hlive : (t, r) ∈ l.live) :
    (l.giveBack t r).keys f = (l.keys f).filter (· ≠ f r) := by
  unfold keys at *
  change (l.live.erase (t, r)).map _ = _
  rw [l.nodup.erase_eq_filter, List.filter_map]
  congr 1
  refine List.filter_congr fun held hheld => ?_
  -- a held grant with the key of the ticket is the ticket
  have hinj := List.inj_on_of_nodup_map hkeys hheld hlive
  by_cases hkey : f held.2 = f r
  · have hsame := hinj hkey
    simp [hsame]
  · have hother : held ≠ (t, r) := by
      rintro rfl
      exact hkey rfl
    simp [hother, hkey]

end Tickets

/-!
## Token buckets

A bucket holds at most `burst` tokens and gains `rate` of them for each unit of time. Each event
takes one. `Metered` relates the bucket to the times of the events that it has let through.

* `Metered.refill`, `Metered.take`: what the two operations keep.
* `Metered.window`: at most `burst + rate * span` events in every window of length `span`.
-/

namespace TokenBucket

variable {K : Type} [Field K] [LinearOrder K]

/-- `history` has the times of the events that the bucket has let through until `last`, its last
refill. The field `since` is the potential: tokens that are still there were not spent. -/
structure Metered (rate burst tokens last : K) (history : List K) : Prop where
  nonneg : 0 ≤ tokens
  full : tokens ≤ burst
  past : ∀ time ∈ history, time ≤ last
  since : ∀ start ≤ last,
    (history.countP (start ≤ ·) : K) + tokens ≤ burst + rate * (last - start)
  window : ∀ start span, 0 ≤ span →
    (history.countP (fun time => start ≤ time && time ≤ start + span) : K) ≤ burst + rate * span

variable [IsStrictOrderedRing K] {rate burst tokens last now : K} {history : List K}

/-- A new bucket is full. -/
theorem Metered.start (hrate : 0 ≤ rate) (hburst : 0 ≤ burst) : Metered rate burst burst now [] := by
  refine ⟨hburst, le_rfl, by simp, fun start hstart => ?_, fun start span hspan => ?_⟩
  · have hgain : 0 ≤ rate * (now - start) := mul_nonneg hrate (sub_nonneg.2 hstart)
    simp only [List.countP_nil, Nat.cast_zero, zero_add]
    linarith
  · have hgain : 0 ≤ rate * span := mul_nonneg hrate hspan
    simp only [List.countP_nil, Nat.cast_zero]
    linarith

/-- **A refill.** -/
theorem Metered.refill (h : Metered rate burst tokens last history) (hrate : 0 ≤ rate) (hle : last ≤ now) :
    Metered rate burst (min burst (tokens + rate * (now - last))) now history := by
  have hgain : 0 ≤ rate * (now - last) := mul_nonneg hrate (sub_nonneg.2 hle)
  refine ⟨le_min (h.nonneg.trans h.full) (add_nonneg h.nonneg hgain), min_le_left _ _,
    fun time htime => (h.past time htime).trans hle, fun start hstart => ?_, h.window⟩
  by_cases hold : start ≤ last
  · have hsince := h.since start hold
    have htokens : min burst (tokens + rate * (now - last)) ≤ tokens + rate * (now - last) := min_le_right _ _
    have hsplit : rate * (now - start) = rate * (now - last) + rate * (last - start) := by ring
    linarith
  · -- nothing was let through after the last refill, and the bucket holds at most a burst
    have hnone : history.countP (start ≤ ·) = 0 := by
      refine List.countP_eq_zero.2 fun time htime => ?_
      simpa using (h.past time htime).trans_lt (not_le.1 hold)
    have hfull : min burst (tokens + rate * (now - last)) ≤ burst := min_le_left _ _
    have hspan : 0 ≤ rate * (now - start) := mul_nonneg hrate (sub_nonneg.2 hstart)
    rw [hnone, Nat.cast_zero, zero_add]
    linarith

/-- **An event takes a token.** -/
theorem Metered.take (h : Metered rate burst tokens last history) (hrate : 0 ≤ rate) (htoken : 1 ≤ tokens) :
    Metered rate burst (tokens - 1) last (history ++ [last]) := by
  have hcount : ∀ start ≤ last, ((history ++ [last]).countP (start ≤ ·) : K) =
      history.countP (start ≤ ·) + 1 := by
    intro start hstart
    simp [List.countP_append, hstart]
  have hfull := h.full
  refine ⟨sub_nonneg.2 htoken, by linarith, fun time htime => ?_, fun start hstart => ?_, fun start span hspan => ?_⟩
  · rcases List.mem_append.1 htime with hold | hnew
    · exact h.past time hold
    · exact (List.mem_singleton.1 hnew).le
  · have hsince := h.since start hstart
    rw [hcount start hstart]
    linarith
  · by_cases hin : start ≤ last ∧ last ≤ start + span
    · -- the potential bounds everything since the start of the window
      have hsub : (history ++ [last]).countP (fun time => start ≤ time && time ≤ start + span) ≤
          (history ++ [last]).countP (start ≤ ·) := by
        refine List.countP_mono_left fun time _ htime => ?_
        simp only [Bool.and_eq_true, decide_eq_true_eq] at htime ⊢
        exact htime.1
      have hcast : ((history ++ [last]).countP (fun time => start ≤ time && time ≤ start + span) : K) ≤
          ((history ++ [last]).countP (start ≤ ·) : K) := Nat.cast_le.2 hsub
      have hsince := h.since start hin.1
      have hspan : rate * (last - start) ≤ rate * span :=
        mul_le_mul_of_nonneg_left (sub_le_iff_le_add'.2 hin.2) hrate
      rw [hcount start hin.1] at hcast
      linarith
    · have hout : (start ≤ last && last ≤ start + span) = false := by simpa using hin
      have hwindow := h.window start span hspan
      rw [List.countP_append, List.countP_singleton, hout]
      simpa using hwindow

end TokenBucket

/-!
## Smooth weighted rounds

In every round each candidate gains its weight, the one with the most credit is
picked, and the picked one pays the total weight.

* `credit`: what a candidate has after some rounds.
* `Smooth.sum_credit`: the credits sum to zero.
* `Smooth.credit_gt`: no credit falls to minus the total.
* `Smooth.picks_total`: in as many rounds as the total weight, every candidate
  is picked as often as its weight.
* `Smooth.periodic`, `Smooth.window`: where the credits decide the pick, the same
  holds of every window of so many rounds.
-/

namespace SmoothWeights

open Finset

variable {ι : Type} [DecidableEq ι]

/-- How often `i` is among the first `n` picks. -/
def picks (pick : ℕ → ι) (i : ι) (n : ℕ) : ℕ := n.count (pick · = i)

/-- The credit of `i` after `n` rounds: its weight for each round, less the total
for each time it was picked. -/
def credit (S : Finset ι) (w : ι → ℤ) (pick : ℕ → ι) (n : ℕ) (i : ι) : ℤ :=
  n * w i - (∑ j ∈ S, w j) * picks pick i n

variable {S : Finset ι} {w : ι → ℤ} {pick : ℕ → ι}

theorem picks_succ (i : ι) (n : ℕ) :
    picks pick i (n + 1) = picks pick i n + if pick n = i then 1 else 0 := by
  rw [picks, Nat.count_succ, picks]

@[simp] theorem credit_zero (i : ι) : credit S w pick 0 i = 0 := by simp [credit, picks]

theorem credit_succ (n : ℕ) (i : ι) :
    credit S w pick (n + 1) i =
      credit S w pick n i + w i - if pick n = i then ∑ j ∈ S, w j else 0 := by
  rw [credit, credit, picks_succ]
  by_cases h : pick n = i <;> simp only [h, if_true, if_false] <;> push_cast <;> ring

/-- **Every pick has the most credit of its round.** -/
structure Smooth (S : Finset ι) (w : ι → ℤ) (pick : ℕ → ι) : Prop where
  mem : ∀ n, pick n ∈ S
  most : ∀ n, ∀ i ∈ S, credit S w pick n i + w i ≤ credit S w pick n (pick n) + w (pick n)

namespace Smooth

/-- **The credits sum to zero.** -/
theorem sum_credit (h : Smooth S w pick) (n : ℕ) : ∑ i ∈ S, credit S w pick n i = 0 := by
  induction n with
  | zero => simp
  | succ n ih =>
    have hpaid : ∑ i ∈ S, (if pick n = i then ∑ j ∈ S, w j else 0) = ∑ j ∈ S, w j := by
      rw [sum_ite_eq, if_pos (h.mem n)]
    simp only [credit_succ]
    rw [sum_sub_distrib, sum_add_distrib, ih, hpaid]
    ring

/-- What is picked has a positive credit before it pays. -/
theorem pick_pos (h : Smooth S w pick) (hw : 0 < ∑ j ∈ S, w j) (n : ℕ) :
    0 < credit S w pick n (pick n) + w (pick n) := by
  by_contra hle
  have hall : ∑ i ∈ S, (credit S w pick n i + w i) ≤ 0 :=
    sum_nonpos fun i hi => le_trans (h.most n i hi) (not_lt.1 hle)
  rw [sum_add_distrib, h.sum_credit] at hall
  omega

/-- **No credit falls to minus the total.** -/
theorem credit_gt (h : Smooth S w pick) (hpos : ∀ i ∈ S, 0 ≤ w i) (hw : 0 < ∑ j ∈ S, w j)
    (n : ℕ) : ∀ i ∈ S, -∑ j ∈ S, w j < credit S w pick n i := by
  induction n with
  | zero => intro i _; rw [credit_zero]; omega
  | succ n ih =>
    intro i hi
    rw [credit_succ]
    by_cases hpick : pick n = i
    · have := h.pick_pos hw n
      rw [hpick] at this
      rw [if_pos hpick]
      omega
    · have := ih i hi
      have := hpos i hi
      rw [if_neg hpick]
      omega

variable {W : ℕ} (hW : ∑ j ∈ S, w j = W)
include hW

/-- **After as many rounds as the total weight every credit is zero.** -/
theorem credit_total (h : Smooth S w pick) (hpos : ∀ i ∈ S, 0 ≤ w i) (hw : 0 < W) :
    ∀ i ∈ S, credit S w pick W i = 0 := by
  have hnonneg : ∀ i ∈ S, 0 ≤ credit S w pick W i := by
    intro i hi
    have hgt := h.credit_gt hpos (by omega) W i hi
    -- the credit is a multiple of the total
    have hmul : credit S w pick W i = W * (w i - picks pick i W) := by rw [credit, hW]; ring
    rw [hW, hmul] at hgt
    rw [hmul]
    have hge : -1 < w i - picks pick i W := by
      by_contra hle
      have : (W : ℤ) * (w i - picks pick i W) ≤ W * (-1) :=
        mul_le_mul_of_nonneg_left (not_lt.1 hle) (Int.natCast_nonneg W)
      omega
    exact mul_nonneg (Int.natCast_nonneg W) (by omega)
  exact (sum_eq_zero_iff_of_nonneg hnonneg).1 (h.sum_credit W)

/-- **In as many rounds as the total weight every candidate is picked as often as its weight.** -/
theorem picks_total (h : Smooth S w pick) (hpos : ∀ i ∈ S, 0 ≤ w i) (hw : 0 < W) :
    ∀ i ∈ S, (picks pick i W : ℤ) = w i := by
  intro i hi
  have hzero := h.credit_total hW hpos hw i hi
  have hmul : (W : ℤ) * (w i - picks pick i W) = 0 := by
    rw [← hzero, credit, hW]; ring
  rcases mul_eq_zero.1 hmul with h0 | h0
  · omega
  · omega

section Periodic

variable (h : Smooth S w pick) (hpos : ∀ i ∈ S, 0 ≤ w i) (hw : 0 < W)
  (hdecide : ∀ m n, (∀ i ∈ S, credit S w pick m i = credit S w pick n i) → pick m = pick n)
include h hpos hw hdecide

/-- The credits repeat after as many rounds as the total weight. -/
theorem credit_add (n : ℕ) : ∀ i ∈ S, credit S w pick (n + W) i = credit S w pick n i := by
  induction n with
  | zero =>
    intro i hi
    rw [Nat.zero_add, credit_zero]
    exact h.credit_total hW hpos hw i hi
  | succ n ih =>
    intro i hi
    rw [Nat.add_right_comm, credit_succ, credit_succ, ih i hi,
      hdecide _ _ ih]

/-- **The picks repeat.** -/
theorem periodic (n : ℕ) : pick (n + W) = pick n :=
  hdecide _ _ (h.credit_add hW hpos hw hdecide n)

/-- **Every window of as many rounds as the total weight is fair.** -/
theorem window (k : ℕ) : ∀ i ∈ S, (#{n ∈ Ico k (k + W) | pick n = i} : ℤ) = w i := by
  intro i hi
  have hperiodic : Function.Periodic (fun n => pick n = i) W := fun n => by
    simp only [h.periodic hW hpos hw hdecide n]
  rw [Nat.filter_Ico_card_eq_of_periodic k W _ hperiodic]
  exact h.picks_total hW hpos hw i hi

/-- The credits are zero after every so many rounds. -/
theorem credit_mul (m : ℕ) : ∀ i ∈ S, credit S w pick (m * W) i = 0 := by
  induction m with
  | zero => intro i _; rw [Nat.zero_mul, credit_zero]
  | succ m ih =>
    intro i hi
    rw [Nat.succ_mul, h.credit_add hW hpos hw hdecide _ i hi]
    exact ih i hi

end Periodic

end Smooth

end SmoothWeights
