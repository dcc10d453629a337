import OfflineWebArchiver.Lib.Scheduling
import OfflineWebArchiver.Scheduler.Sample

/-!
# Weighted selection is fair

* `selectWeighted_picks`: one selection, as a round of smooth weights.
* `selection_fair`: **in every window of as many selections as the total weight
  each candidate is chosen as often as its weight, and then the smooth weights
  are zero.**
-/

namespace OfflineWebArchiver

open Scheduler SmoothWeights

/-- The smooth weight of a candidate. -/
def smoothWeight (s : Scheduler.Pool) (candidate : ProxyMetadata) : ℤ := (s.proxies candidate.id).smoothWeight

/-- The pool after `n` selections from the candidates. -/
def poolAfter (env : SchedulerEnv) (candidates : List ProxyMetadata) (s : Scheduler.Pool) : ℕ → Scheduler.Pool
  | 0 => s
  | n + 1 => (selectWeighted env candidates (poolAfter env candidates s n)).2

/-- The result of selection `n`, counted from zero. -/
def chosen (env : SchedulerEnv) (candidates : List ProxyMetadata) (s : Scheduler.Pool) (n : ℕ) :
    Option ProxyMetadata :=
  (selectWeighted env candidates (poolAfter env candidates s n)).1

variable {env : SchedulerEnv} {candidates l : List ProxyMetadata} {s t : Scheduler.Pool}

/-! ### The loop over the candidates -/

/-- The pool with a new smooth weight for a candidate. -/
def Pool.setSmoothWeight (s : Scheduler.Pool) (candidate : ProxyMetadata) (w : ℤ) : Scheduler.Pool :=
  s.setProxy candidate.id { s.proxies candidate.id with smoothWeight := w }

/-- The condition of the loop: the candidate replaces the one selected so far. -/
def beats (env : SchedulerEnv) (candidate : ProxyMetadata) (score : ℤ) :
    Option (ProxyMetadata × ℤ) → Bool
  | none => true
  | some (best, bestScore) =>
    bestScore < score || (score == bestScore && env.localeLess candidate.id best.id)

theorem weigh_cons (candidate : ProxyMetadata) (total : ℤ) (selected : Option (ProxyMetadata × ℤ)) :
    weigh env (candidate :: l) total selected s =
      weigh env l (total + candidate.weight)
        (if beats env candidate (smoothWeight s candidate + candidate.weight) selected then
          some (candidate, smoothWeight s candidate + candidate.weight) else selected)
        (Pool.setSmoothWeight s candidate (smoothWeight s candidate + candidate.weight)) := by
  cases selected <;> rfl

/-- Another candidate keeps its smooth weight. -/
theorem smoothWeight_set {candidate other : ProxyMetadata} {w : ℤ} :
    smoothWeight (Pool.setSmoothWeight s candidate w) other =
      if other.id = candidate.id then w else smoothWeight s other := by
  unfold smoothWeight Pool.setSmoothWeight Scheduler.Pool.setProxy
  by_cases h : other.id = candidate.id
  · rw [if_pos h, h]; simp
  · rw [if_neg h]; simp [Function.update_of_ne h]

/-- The loop adds up the weights. -/
theorem weigh_total (total : ℤ) (selected : Option (ProxyMetadata × ℤ)) :
    (weigh env l total selected s).1 = total + (l.map (·.weight)).sum := by
  induction l generalizing total selected s with
  | nil => simp [weigh]
  | cons candidate rest ih =>
    rw [weigh_cons, ih, List.map_cons, List.sum_cons]
    omega

/-- The loop adds its weight to each candidate, and leaves the others. -/
theorem weigh_smoothWeight (hids : (l.map (·.id)).Nodup) (total : ℤ)
    (selected : Option (ProxyMetadata × ℤ)) (other : ProxyMetadata) :
    (other ∈ l → smoothWeight (weigh env l total selected s).2.2 other =
        smoothWeight s other + other.weight) ∧
      (other.id ∉ l.map (·.id) → smoothWeight (weigh env l total selected s).2.2 other =
        smoothWeight s other) := by
  induction l generalizing total selected s with
  | nil => simp [weigh]
  | cons candidate rest ih =>
    rw [List.map_cons, List.nodup_cons] at hids
    rw [weigh_cons]
    constructor
    · intro hm
      rcases List.mem_cons.1 hm with rfl | hm
      · rw [(ih hids.2 _ _).2 hids.1, smoothWeight_set, if_pos rfl]
      · have hne : other.id ≠ candidate.id := fun e => hids.1 (e ▸ List.mem_map_of_mem hm)
        rw [(ih hids.2 _ _).1 hm, smoothWeight_set, if_neg hne]
    · intro hm
      rw [List.map_cons, List.mem_cons, not_or] at hm
      rw [(ih hids.2 _ _).2 hm.2, smoothWeight_set, if_neg hm.1]

/-- What is selected so far has at least the score it replaces. -/
theorem le_of_beats {candidate : ProxyMetadata} {score : ℤ} {selected : Option (ProxyMetadata × ℤ)} :
    ∃ p, (if beats env candidate score selected then some (candidate, score) else selected) = some p ∧
      score ≤ p.2 ∧ (∀ q ∈ selected, q.2 ≤ p.2) ∧ (p = (candidate, score) ∨ selected = some p) := by
  cases selected with
  | none => exact ⟨_, rfl, le_rfl, by simp, .inl rfl⟩
  | some q =>
    obtain ⟨best, bestScore⟩ := q
    by_cases h : beats env candidate score (some (best, bestScore)) = true
    · rw [if_pos h]
      simp only [beats, Bool.or_eq_true, Bool.and_eq_true, decide_eq_true_eq, beq_iff_eq] at h
      refine ⟨_, rfl, le_rfl, ?_, .inl rfl⟩
      rintro _ ⟨⟩
      simp only
      omega
    · rw [if_neg h]
      simp only [beats, Bool.or_eq_true, decide_eq_true_eq, not_or, not_lt] at h
      exact ⟨_, rfl, h.1, by rintro _ ⟨⟩; exact le_rfl, .inr rfl⟩

/-- **The loop ends with a candidate that has the largest score.** -/
theorem weigh_selected (hids : (l.map (·.id)).Nodup) {total : ℤ}
    {selected : Option (ProxyMetadata × ℤ)} (hsome : l ≠ [] ∨ selected.isSome) :
    ∃ p, (weigh env l total selected s).2.1 = some p ∧ (∀ q ∈ selected, q.2 ≤ p.2) ∧
      (∀ c ∈ l, smoothWeight s c + c.weight ≤ p.2) ∧
      (selected = some p ∨ p.1 ∈ l ∧ p.2 = smoothWeight s p.1 + p.1.weight) := by
  induction l generalizing total selected s with
  | nil =>
    obtain ⟨p, rfl⟩ := Option.isSome_iff_exists.1 (hsome.resolve_left (absurd rfl))
    exact ⟨p, rfl, by rintro _ ⟨⟩; exact le_rfl, by simp, .inl rfl⟩
  | cons candidate rest ih =>
    rw [List.map_cons, List.nodup_cons] at hids
    rw [weigh_cons]
    obtain ⟨p, hp, hscore, hsel, hcase⟩ := @le_of_beats env candidate
      (smoothWeight s candidate + candidate.weight) selected
    rw [hp]
    obtain ⟨p', hp', hbest, hall, hcase'⟩ := ih hids.2 (.inr (Option.isSome_some (a := p)))
    have hpp : p.2 ≤ p'.2 := hbest p rfl
    -- the scores of the candidates that are left do not move
    have hrest : ∀ c ∈ rest, smoothWeight (Pool.setSmoothWeight s candidate
        (smoothWeight s candidate + candidate.weight)) c = smoothWeight s c := by
      intro c hc
      have hne : c.id ≠ candidate.id := fun e => hids.1 (e ▸ List.mem_map_of_mem hc)
      rw [smoothWeight_set, if_neg hne]
    refine ⟨p', hp', fun q hq => le_trans (hsel q hq) hpp, ?_, ?_⟩
    · intro c hc
      rcases List.mem_cons.1 hc with rfl | hc
      · exact le_trans hscore hpp
      · rw [← hrest c hc]; exact hall c hc
    · rcases hcase' with h | ⟨hm, he⟩
      · obtain rfl := Option.some.inj h
        rcases hcase with rfl | h
        · exact .inr ⟨List.mem_cons_self, rfl⟩
        · exact .inl h
      · rw [hrest _ hm] at he
        exact .inr ⟨List.mem_cons_of_mem _ hm, he⟩

/-- **The smooth weights of the candidates decide.** -/
theorem weigh_congr (h : ∀ c ∈ l, smoothWeight s c = smoothWeight t c) (total : ℤ)
    (selected : Option (ProxyMetadata × ℤ)) :
    (weigh env l total selected s).2.1 = (weigh env l total selected t).2.1 := by
  induction l generalizing total selected s t with
  | nil => rfl
  | cons candidate rest ih =>
    rw [weigh_cons, weigh_cons, h candidate List.mem_cons_self]
    refine ih (fun c hc => ?_) _ _
    rw [smoothWeight_set, smoothWeight_set, h c (List.mem_cons_of_mem _ hc)]

/-! ### One selection -/

/-- The smooth weights of the candidates decide what is selected. -/
theorem selectWeighted_congr (h : ∀ c ∈ candidates, smoothWeight s c = smoothWeight t c) :
    (selectWeighted env candidates s).1 = (selectWeighted env candidates t).1 := by
  have hweigh := @weigh_congr env candidates s t h 0 none
  unfold selectWeighted
  rcases hs : weigh env candidates 0 none s with ⟨_, selected, _⟩
  rcases ht : weigh env candidates 0 none t with ⟨_, selected', _⟩
  rw [hs, ht] at hweigh
  obtain rfl : selected = selected' := hweigh
  cases selected <;> rfl

/-- **One selection is a round of smooth weights**: every candidate gains its weight,
one with the largest score is chosen, and it pays the total. -/
theorem selectWeighted_picks (hids : (candidates.map (·.id)).Nodup) (hne : candidates ≠ []) (s : Scheduler.Pool) :
    ∃ best ∈ candidates, (selectWeighted env candidates s).1 = some best ∧
      (∀ c ∈ candidates, smoothWeight s c + c.weight ≤ smoothWeight s best + best.weight) ∧
      ∀ c ∈ candidates, smoothWeight (selectWeighted env candidates s).2 c =
        smoothWeight s c + c.weight -
          if best = c then (candidates.map (·.weight)).sum else 0 := by
  obtain ⟨p, hp, -, hall, hcase⟩ :=
    @weigh_selected env candidates s hids 0 none (.inl hne)
  obtain ⟨hm, he⟩ := hcase.resolve_left (by simp)
  have htotal := @weigh_total env candidates s 0 none
  rcases hw : weigh env candidates 0 none s with ⟨total, selected, after⟩
  rw [hw] at hp htotal
  simp only at hp htotal
  subst hp
  have hafter := fun c => @weigh_smoothWeight env candidates s hids 0 none c
  rw [hw] at hafter
  have hresult : selectWeighted env candidates s =
      (some p.1, Pool.setSmoothWeight after p.1 (smoothWeight after p.1 - total)) := by
    rw [selectWeighted, hw]; rfl
  refine ⟨p.1, hm, by rw [hresult], fun c hc => he ▸ hall c hc, fun c hc => ?_⟩
  rw [hresult]
  simp only
  rw [smoothWeight_set, htotal, Int.zero_add]
  by_cases hc' : c.id = p.1.id
  · obtain rfl : p.1 = c := List.inj_on_of_nodup_map hids hm hc hc'.symm
    rw [if_pos rfl, if_pos rfl, (hafter _).1 hm]
  · have hne : p.1 ≠ c := fun e => hc' (e ▸ rfl)
    rw [if_neg hc', if_neg hne, (hafter _).1 hc, sub_zero]

/-! ### Many selections -/

section

variable (hne : candidates ≠ []) (hids : (candidates.map (·.id)).Nodup)
  (hpos : ∀ c ∈ candidates, 0 < c.weight) (hzero : ∀ c ∈ candidates, smoothWeight s c = 0)
include hids

theorem sum_candidates (f : ProxyMetadata → ℤ) :
    ∑ c ∈ candidates.toFinset, f c = (candidates.map f).sum :=
  List.sum_toFinset f (List.Nodup.of_map _ hids)

include hne hzero

/-- **The selections are rounds of smooth weights**, and the credits are the smooth weights. -/
theorem selections_smooth (env : SchedulerEnv) :
    ∃ pick : ℕ → ProxyMetadata, Smooth candidates.toFinset (·.weight) pick ∧
      (∀ n, chosen env candidates s n = some (pick n)) ∧
      (∀ n, ∀ c ∈ candidates, credit candidates.toFinset (·.weight) pick n c =
        smoothWeight (poolAfter env candidates s n) c) ∧
      ∀ m n, (∀ c ∈ candidates.toFinset, credit candidates.toFinset (·.weight) pick m c =
        credit candidates.toFinset (·.weight) pick n c) → pick m = pick n := by
  choose pick hmem hchosen hmost hnext using fun n =>
    @selectWeighted_picks env candidates hids hne (poolAfter env candidates s n)
  have hcredit : ∀ n, ∀ c ∈ candidates, credit candidates.toFinset (·.weight) pick n c =
      smoothWeight (poolAfter env candidates s n) c := by
    intro n
    induction n with
    | zero => intro c hc; rw [credit_zero, poolAfter, hzero c hc]
    | succ n ih =>
      intro c hc
      rw [credit_succ, ih c hc, sum_candidates hids, poolAfter, hnext n c hc]
  refine ⟨pick, ⟨fun n => List.mem_toFinset.2 (hmem n), fun n c hc => ?_⟩, hchosen, hcredit,
    fun m n h => ?_⟩
  · have hc := List.mem_toFinset.1 hc
    rw [hcredit n c hc, hcredit n _ (hmem n)]
    exact hmost n c hc
  · -- equal credits are equal smooth weights, and these decide
    have hsame : ∀ c ∈ candidates, smoothWeight (poolAfter env candidates s m) c =
        smoothWeight (poolAfter env candidates s n) c := by
      intro c hc
      rw [← hcredit m c hc, ← hcredit n c hc]
      exact h c (List.mem_toFinset.2 hc)
    have hsame' : (selectWeighted env candidates (poolAfter env candidates s m)).1 =
        (selectWeighted env candidates (poolAfter env candidates s n)).1 := selectWeighted_congr hsame
    exact Option.some.inj ((hchosen m).symm.trans (hsame'.trans (hchosen n)))

include hpos

/-- **Weighted selection is fair.** From smooth weights of zero, with `W` the sum of
the weights: in every `W` selections in a row each candidate is chosen as often as its
weight, after each `W` of them the smooth weights are zero, and their sum is always zero. -/
theorem selection_fair (env : SchedulerEnv) (W : ℕ) (hW : (candidates.map (·.weight)).sum = W) :
    (∀ k, ∀ c ∈ candidates,
      (Finset.card {n ∈ Finset.Ico k (k + W) | chosen env candidates s n = some c} : ℤ) = c.weight) ∧
    (∀ m, ∀ c ∈ candidates, smoothWeight (poolAfter env candidates s (m * W)) c = 0) ∧
    ∀ n, (candidates.map (smoothWeight (poolAfter env candidates s n))).sum = 0 := by
  obtain ⟨pick, hsmooth, hchosen, hcredit, hdecide⟩ := selections_smooth hne hids hzero env
  have hsum : ∑ c ∈ candidates.toFinset, c.weight = W := (sum_candidates hids _).trans hW
  have hnonneg : ∀ c ∈ candidates.toFinset, 0 ≤ c.weight := fun c hc =>
    (hpos c (List.mem_toFinset.1 hc)).le
  have hW0 : 0 < W := by
    obtain ⟨c, rest, rfl⟩ := List.exists_cons_of_ne_nil hne
    have hle := Finset.single_le_sum hnonneg (List.mem_toFinset.2 (List.mem_cons_self (a := c)))
    have := hpos c List.mem_cons_self
    omega
  refine ⟨fun k c hc => ?_, fun m c hc => ?_, fun n => ?_⟩
  · have hwindow := hsmooth.window hsum hnonneg hW0 hdecide k c (List.mem_toFinset.2 hc)
    rw [← hwindow]
    simp only [hchosen, Option.some.injEq]
  · rw [← hcredit _ c hc]
    exact hsmooth.credit_mul hsum hnonneg hW0 hdecide m c (List.mem_toFinset.2 hc)
  · rw [← sum_candidates hids, ← hsmooth.sum_credit n]
    exact Finset.sum_congr rfl fun c hc => (hcredit n c (List.mem_toFinset.1 hc)).symm

end

namespace Scheduler.Sample

/-- A second proxy, with twice the weight. -/
def heavy : ProxyMetadata := { proxy with id := "q", weight := 2 }

/-- Of three selections in a row two take the heavy proxy. -/
theorem heavy_twice :
    (Finset.card {n ∈ Finset.Ico 5 (5 + 3) | chosen Sample.env [proxy, heavy] {} n = some heavy} : ℤ) = 2 :=
  (selection_fair (by decide) (by decide) (by decide) (by decide) Sample.env 3 (by decide)).1 5 heavy (by decide)

end Scheduler.Sample

end OfflineWebArchiver
