import Mathlib.Data.List.Dedup
import Mathlib.Data.List.Induction

/-!
# Maps in insertion order, and grouping

A map is the list of its pairs, in the order in which the keys came.

* `upsert`: replace the value of a key, or add the key at the end.
* `mem_groupBy`: the groups of `groupBy key l` are the nonempty filters of `l`.
* `mem_collect`: `collect` loses no pair and makes up none.
* `one_lt_setSize`: more than one value means two that differ.
-/

namespace Grouping

variable {α β κ : Type} [DecidableEq κ]

/-- Replace the value of `k`, or add `k` at the end. -/
def upsert (k : κ) (f : Option β → β) : List (κ × β) → List (κ × β)
  | [] => [(k, f none)]
  | (k', b) :: m => if k' = k then (k', f (some b)) :: m else (k', b) :: upsert k f m

/-- Append every element to the group of its key. -/
def groupBy (key : α → κ) (l : List α) : List (κ × List α) :=
  l.foldl (fun m a => upsert (key a) (fun g => g.getD [] ++ [a]) m) []

/-- The distinct values of every key. -/
def collect [DecidableEq β] (l : List (κ × β)) : List (κ × List β) :=
  l.foldl (fun m p => upsert p.1
    (fun g => if p.2 ∈ g.getD [] then g.getD [] else g.getD [] ++ [p.2]) m) []

/-- The number of distinct values. -/
def setSize [DecidableEq β] (l : List β) : ℕ := l.dedup.length

attribute [local simp] upsert

variable {m : List (κ × β)} {k k₀ : κ} {b : β} {f : Option β → β}

theorem mem_upsert_of_ne (h : k ≠ k₀) : (k, b) ∈ upsert k₀ f m ↔ (k, b) ∈ m := by
  induction m with
  | nil => simp [upsert, h]
  | cons p m ih =>
    obtain ⟨k', b'⟩ := p
    rw [upsert]
    split
    · next hk => subst hk; simp [h]
    · simp [ih]

/-- The new value of a key, from the old one or from nothing. -/
theorem mem_upsert_self (hm : (m.map Prod.fst).Nodup) :
    (k₀, b) ∈ upsert k₀ f m ↔
      (∃ b', (k₀, b') ∈ m ∧ b = f (some b')) ∨ ((∀ b', (k₀, b') ∉ m) ∧ b = f none) := by
  induction m with
  | nil => simp [upsert]
  | cons p m ih =>
    obtain ⟨k', b'⟩ := p
    rw [List.map_cons, List.nodup_cons] at hm
    rw [upsert]
    split
    · next hk =>
      subst hk
      have hno : ∀ c, (k', c) ∉ m := fun c hc => hm.1 (List.mem_map.2 ⟨_, hc, rfl⟩)
      simp [hno]
    · next hk =>
      have hk' : k₀ ≠ k' := fun h => hk h.symm
      rw [List.mem_cons, ih hm.2]
      simp [hk']

theorem mem_upsert_keys : k ∈ (upsert k₀ f m).map Prod.fst ↔ k ∈ m.map Prod.fst ∨ k = k₀ := by
  induction m with
  | nil => simp [upsert]
  | cons p m ih =>
    obtain ⟨k', b'⟩ := p
    rw [upsert]
    split
    · next hk => subst hk; simp only [List.map_cons, List.mem_cons]; tauto
    · rw [List.map_cons, List.mem_cons, ih, List.map_cons, List.mem_cons]; tauto

theorem nodup_upsert (hm : (m.map Prod.fst).Nodup) : ((upsert k₀ f m).map Prod.fst).Nodup := by
  induction m with
  | nil => simp [upsert]
  | cons p m ih =>
    obtain ⟨k', b'⟩ := p
    rw [List.map_cons, List.nodup_cons] at hm
    rw [upsert]
    split
    · rw [List.map_cons, List.nodup_cons]; exact hm
    · next hk =>
      rw [List.map_cons, List.nodup_cons, mem_upsert_keys]
      refine ⟨?_, ih hm.2⟩
      rintro (h | h)
      · exact hm.1 h
      · exact hk h

section groupBy

variable {key : α → κ} {l : List α} {a : α} {g : List α}

theorem groupBy_concat :
    groupBy key (l ++ [a]) = upsert (key a) (fun g => g.getD [] ++ [a]) (groupBy key l) := by
  unfold groupBy
  rw [List.foldl_append]
  rfl

theorem groupBy_nodup : ((groupBy key l).map Prod.fst).Nodup := by
  induction l using List.reverseRecOn with
  | nil => simp [groupBy]
  | append_singleton l a ih => rw [groupBy_concat]; exact nodup_upsert ih

/-- **The groups are the nonempty filters.** -/
theorem mem_groupBy :
    (k, g) ∈ groupBy key l ↔ g = l.filter (fun a => key a = k) ∧ g ≠ [] := by
  induction l using List.reverseRecOn generalizing k g with
  | nil => simp [groupBy]
  | append_singleton l a ih =>
    rw [groupBy_concat, List.filter_append]
    by_cases hk : k = key a
    · subst hk
      have hone : [a].filter (fun b => key b = key a) = [a] := by simp
      rw [mem_upsert_self groupBy_nodup, hone]
      simp only [ih, Option.getD_some, Option.getD_none, List.nil_append]
      by_cases he : l.filter (fun b => key b = key a) = []
      · rw [he]
        constructor
        · rintro (⟨g', ⟨rfl, h⟩, -⟩ | ⟨-, rfl⟩)
          · exact absurd rfl h
          · exact ⟨rfl, by simp⟩
        · rintro ⟨rfl, -⟩
          exact Or.inr ⟨fun g' h => h.2 h.1, rfl⟩
      · constructor
        · rintro (⟨g', ⟨rfl, -⟩, rfl⟩ | ⟨h, -⟩)
          · exact ⟨rfl, by simp⟩
          · exact absurd ⟨rfl, he⟩ (h _)
        · rintro ⟨rfl, -⟩
          exact Or.inl ⟨_, ⟨rfl, he⟩, rfl⟩
    · have hone : [a].filter (fun b => key b = k) = [] := by
        simpa using fun h : key a = k => hk h.symm
      rw [mem_upsert_of_ne hk, ih, hone, List.append_nil]

/-- Every element is in the group of its key. -/
theorem group_of_mem (h : a ∈ l) : (key a, l.filter fun b => key b = key a) ∈ groupBy key l := by
  rw [mem_groupBy]
  refine ⟨rfl, fun hn => ?_⟩
  have : a ∈ l.filter fun b => key b = key a := by simp [h]
  rw [hn] at this
  cases this

end groupBy

section collect

variable [DecidableEq β] {l : List (κ × β)} {p : κ × β}

theorem collect_concat :
    collect (l ++ [p]) = upsert p.1
      (fun g => if p.2 ∈ g.getD [] then g.getD [] else g.getD [] ++ [p.2]) (collect l) := by
  unfold collect
  rw [List.foldl_append]
  rfl

theorem collect_nodup : ((collect l).map Prod.fst).Nodup := by
  induction l using List.reverseRecOn with
  | nil => simp [collect]
  | append_singleton l p ih => rw [collect_concat]; exact nodup_upsert ih

/-- **Collecting neither loses a pair nor makes one up.** -/
theorem mem_collect : (∃ g, (k, g) ∈ collect l ∧ b ∈ g) ↔ (k, b) ∈ l := by
  induction l using List.reverseRecOn with
  | nil => simp [collect]
  | append_singleton l p ih =>
    obtain ⟨k₀, b₀⟩ := p
    have hmem : (k, b) ∈ l ++ [(k₀, b₀)] ↔ (∃ g, (k, g) ∈ collect l ∧ b ∈ g) ∨ k = k₀ ∧ b = b₀ := by
      rw [ih, List.mem_append, List.mem_singleton, Prod.mk.injEq]
    rw [collect_concat, hmem]
    by_cases hk : k = k₀
    · subst hk
      constructor
      · rintro ⟨g, hg, hb⟩
        rw [mem_upsert_self collect_nodup] at hg
        rcases hg with ⟨g', hg', rfl⟩ | ⟨-, rfl⟩
        · simp only [Option.getD_some] at hb
          split_ifs at hb with h
          · exact Or.inl ⟨g', hg', hb⟩
          · rcases List.mem_append.1 hb with hb | hb
            · exact Or.inl ⟨g', hg', hb⟩
            · exact Or.inr ⟨rfl, List.mem_singleton.1 hb⟩
        · simp only [Option.getD_none, List.not_mem_nil, if_false, List.nil_append,
            List.mem_singleton] at hb
          exact Or.inr ⟨rfl, hb⟩
      · intro h
        by_cases hg : ∃ g, (k, g) ∈ collect l
        · obtain ⟨g, hg⟩ := hg
          refine ⟨_, (mem_upsert_self collect_nodup).2 (Or.inl ⟨g, hg, rfl⟩), ?_⟩
          simp only [Option.getD_some]
          rcases h with ⟨g', hg', hb⟩ | ⟨-, rfl⟩
          · -- the key has one group only
            obtain rfl : g' = g := by
              have := List.inj_on_of_nodup_map collect_nodup hg' hg rfl
              exact (Prod.mk.inj this).2
            split_ifs
            · exact hb
            · exact List.mem_append_left _ hb
          · split_ifs with h
            · exact h
            · simp
        · have hno : ∀ g, (k, g) ∉ collect l := fun g h => hg ⟨g, h⟩
          rcases h with ⟨g', hg', -⟩ | ⟨-, rfl⟩
          · exact absurd hg' (hno _)
          · exact ⟨_, (mem_upsert_self collect_nodup).2 (Or.inr ⟨hno, rfl⟩), by simp⟩
    · simp [mem_upsert_of_ne hk, hk]

end collect

/-- **More than one value means two that differ.** -/
theorem one_lt_setSize [DecidableEq β] {l : List α} {f : α → β} :
    1 < setSize (l.map f) ↔ ∃ a ∈ l, ∃ b ∈ l, f a ≠ f b := by
  unfold setSize
  constructor
  · intro h
    have hn := List.nodup_dedup (l.map f)
    obtain ⟨x, y, t, ht⟩ : ∃ x y t, (l.map f).dedup = x :: y :: t := by
      match hd : (l.map f).dedup with
      | [] | [_] => simp [hd] at h
      | x :: y :: t => exact ⟨x, y, t, rfl⟩
    have hx : x ∈ l.map f := List.mem_dedup.1 (by simp [ht])
    have hy : y ∈ l.map f := List.mem_dedup.1 (by simp [ht])
    obtain ⟨a, ha, rfl⟩ := List.mem_map.1 hx
    obtain ⟨b, hb, rfl⟩ := List.mem_map.1 hy
    refine ⟨a, ha, b, hb, fun he => ?_⟩
    rw [ht, he] at hn
    simp at hn
  · rintro ⟨a, ha, b, hb, hne⟩
    by_contra hle
    have ha' : f a ∈ (l.map f).dedup := List.mem_dedup.2 (List.mem_map_of_mem ha)
    have hb' : f b ∈ (l.map f).dedup := List.mem_dedup.2 (List.mem_map_of_mem hb)
    match hd : (l.map f).dedup with
    | [] => simp [hd] at ha'
    | [x] =>
      rw [hd, List.mem_singleton] at ha' hb'
      exact hne (ha'.trans hb'.symm)
    | _ :: _ :: _ => simp [hd] at hle

end Grouping
