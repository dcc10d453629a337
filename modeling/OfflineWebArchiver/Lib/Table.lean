import Mathlib.Data.List.Pairwise
import Mathlib.Data.List.Sort
import Mathlib.Logic.Function.Basic

/-!
# Tables with checked rows and unique keys

A `Table S` is a list of rows in insertion order. The schema `S` says which rows
its `CHECK` constraints allow and which two rows its unique keys and partial
unique indexes exclude from standing together, and the table carries the proof
that its rows obey both. A statement that would break a constraint fails and
leaves no table behind.

* `Table.insert`, `Table.update`: the statements that write.
* `Index.eq_of_key`: two rows that share a unique key are one row.
* `Index.lookup_insert`, `Index.lookup_update`, `Index.lookup_update_drop`: what a
  statement does to the map from keys to rows.
-/

namespace Relational

open Function

variable {α : Type}

/-- The constraints of a table. -/
structure Schema (α : Type) where
  /-- The row constraint. -/
  check : α → Bool
  /-- Two different rows may not stand in this relation. -/
  conflict : α → α → Bool

/-- A table that obeys its schema. -/
structure Table (S : Schema α) where
  rows : List α
  checked : ∀ r ∈ rows, S.check r = true
  unique : rows.Pairwise fun a b => S.conflict a b = false

/-- One `UPDATE ... WHERE` on one row. -/
def rewrite (p : α → Bool) (f : α → α) (a : α) : α := if p a then f a else a

@[simp] theorem rewrite_pos {p : α → Bool} {f : α → α} {a : α} (h : p a = true) :
    rewrite p f a = f a := by simp [rewrite, h]

@[simp] theorem rewrite_neg {p : α → Bool} {f : α → α} {a : α} (h : p a = false) :
    rewrite p f a = a := by simp [rewrite, h]

namespace Table

variable {S : Schema α}

/-- The rows as a table, when they obey the schema. -/
def ofRows (S : Schema α) (rows : List α) : Option (Table S) :=
  if h : (∀ r ∈ rows, S.check r = true) ∧ rows.Pairwise fun a b => S.conflict a b = false then
    some ⟨rows, h.1, h.2⟩
  else none

def empty (S : Schema α) : Table S := ⟨[], by simp, List.Pairwise.nil⟩

/-- `INSERT`. -/
def insert (t : Table S) (r : α) : Option (Table S) := ofRows S (t.rows ++ [r])

/-- `UPDATE ... WHERE p`. -/
def update (t : Table S) (p : α → Bool) (f : α → α) : Option (Table S) :=
  ofRows S (t.rows.map (rewrite p f))

/-- `SELECT ... WHERE p` for a single row. -/
def find (t : Table S) (p : α → Bool) : Option α := t.rows.find? p

/-- `SELECT ... WHERE p ORDER BY le`. -/
def select (t : Table S) (p : α → Bool) (le : α → α → Prop) [DecidableRel le] : List α :=
  (t.rows.filter p).insertionSort le

/-- `SELECT COUNT(*) ... WHERE p`. -/
def count (t : Table S) (p : α → Bool) : ℕ := t.rows.countP p

@[simp] theorem empty_rows : (empty S).rows = [] := rfl

theorem ofRows_rows {rows : List α} {t : Table S} (h : ofRows S rows = some t) : t.rows = rows := by
  unfold ofRows at h
  split at h
  · cases h; rfl
  · cases h

theorem insert_rows {t t' : Table S} {r : α} (h : t.insert r = some t') : t'.rows = t.rows ++ [r] :=
  ofRows_rows h

theorem update_rows {t t' : Table S} {p : α → Bool} {f : α → α} (h : t.update p f = some t') :
    t'.rows = t.rows.map (rewrite p f) := ofRows_rows h

/-- A row that an update does not select stays. -/
theorem mem_update {t t' : Table S} {p : α → Bool} {f : α → α} {a : α} (h : t.update p f = some t')
    (ha : a ∈ t.rows) (hp : p a = false) : a ∈ t'.rows := by
  rw [update_rows h]
  exact List.mem_map.2 ⟨a, ha, rewrite_neg hp⟩

/-- An insert succeeds when the new row passes its check and meets no old row. -/
theorem insert_some {t : Table S} {r : α} (hr : S.check r = true)
    (hu : ∀ a ∈ t.rows, S.conflict a r = false) : ∃ t', t.insert r = some t' := by
  have h : (∀ a ∈ t.rows ++ [r], S.check a = true) ∧
      (t.rows ++ [r]).Pairwise fun a b => S.conflict a b = false := by
    refine ⟨?_, List.pairwise_append.2 ⟨t.unique, List.pairwise_singleton _ _, ?_⟩⟩
    · intro a ha
      rcases List.mem_append.1 ha with ha | ha
      · exact t.checked a ha
      · rw [List.mem_singleton.1 ha]; exact hr
    · intro a ha b hb
      rw [List.mem_singleton.1 hb]; exact hu a ha
  exact ⟨⟨_, h.1, h.2⟩, by unfold insert ofRows; rw [dif_pos h]⟩

/-- An update succeeds when the rows it writes pass their check and it makes no
two rows share a key. -/
theorem update_some {t : Table S} {p : α → Bool} {f : α → α}
    (hf : ∀ a ∈ t.rows, p a = true → S.check (f a) = true)
    (hu : ∀ a ∈ t.rows, ∀ b ∈ t.rows, S.conflict (rewrite p f a) (rewrite p f b) = true →
      S.conflict a b = true) : ∃ t', t.update p f = some t' := by
  have h : (∀ a ∈ t.rows.map (rewrite p f), S.check a = true) ∧
      (t.rows.map (rewrite p f)).Pairwise fun a b => S.conflict a b = false := by
    constructor
    · intro b hb
      obtain ⟨a, ha, rfl⟩ := List.mem_map.1 hb
      cases hp : p a with
      | true => rw [rewrite_pos hp]; exact hf a ha hp
      | false => rw [rewrite_neg hp]; exact t.checked a ha
    · rw [List.pairwise_map]
      refine t.unique.imp_of_mem fun {a b} ha hb hab => ?_
      by_contra hc
      have := hu a ha b hb (by simpa using hc)
      rw [hab] at this; cases this
  exact ⟨⟨_, h.1, h.2⟩, by unfold update ofRows; rw [dif_pos h]⟩

/-- An update succeeds when the rows it writes pass their check and keep all that the
unique keys read. -/
theorem update_some_of_key {κ : Type} (key : α → κ) {g : κ → κ → Bool}
    (hg : ∀ a b, S.conflict a b = g (key a) (key b)) {t : Table S} {p : α → Bool} {f : α → α}
    (hf : ∀ a ∈ t.rows, p a = true → S.check (f a) = true) (hk : ∀ a, key (f a) = key a) :
    ∃ t', t.update p f = some t' := by
  have hkeep : ∀ a, key (rewrite p f a) = key a := fun a => by
    cases hp : p a with
    | true => rw [rewrite_pos hp, hk]
    | false => rw [rewrite_neg hp]
  refine update_some hf fun a _ b _ hab => ?_
  rw [hg, hkeep, hkeep, ← hg] at hab
  exact hab

theorem find_mem {t : Table S} {p : α → Bool} {a : α} (h : t.find p = some a) :
    a ∈ t.rows ∧ p a = true := ⟨List.mem_of_find?_eq_some h, List.find?_some h⟩

theorem find_none {t : Table S} {p : α → Bool} (h : t.find p = none) :
    ∀ a ∈ t.rows, p a = false := by
  intro a ha
  have := List.find?_eq_none.1 h a ha
  simpa using this

theorem mem_select {t : Table S} {p : α → Bool} {le : α → α → Prop} [DecidableRel le] {a : α} :
    a ∈ t.select p le ↔ a ∈ t.rows ∧ p a = true := by
  unfold select
  rw [List.mem_insertionSort, List.mem_filter]

theorem count_eq_zero {t : Table S} {p : α → Bool} :
    t.count p = 0 ↔ ∀ a ∈ t.rows, p a = false := by
  unfold count
  rw [List.countP_eq_zero]
  simp

end Table

/-- A unique index, possibly partial: rows with the same key conflict. -/
structure Index (S : Schema α) (κ : Type) where
  key : α → Option κ
  unique : ∀ a b k, key a = some k → key b = some k → S.conflict a b = true

namespace Index

variable {S : Schema α} {κ β : Type}

/-- **Unique keys.** Two rows with one key are the same row. -/
theorem eq_of_key (I : Index S κ) {t : Table S} {a b : α} {k : κ} (ha : a ∈ t.rows) (hb : b ∈ t.rows)
    (hka : I.key a = some k) (hkb : I.key b = some k) : a = b := by
  by_contra hne
  have hp : t.rows.Pairwise fun a b => S.conflict a b = false ∨ S.conflict b a = false :=
    t.unique.imp Or.inl
  have : Std.Symm fun a b => S.conflict a b = false ∨ S.conflict b a = false :=
    ⟨fun _ _ h => h.symm⟩
  rcases hp.forall ha hb hne with h | h
  · rw [I.unique a b k hka hkb] at h; cases h
  · rw [I.unique b a k hkb hka] at h; cases h

/-- No key twice in what a `SELECT` returns. -/
theorem select_pairwise (I : Index S κ) {t : Table S} {p : α → Bool} {le : α → α → Prop}
    [DecidableRel le] : (t.select p le).Pairwise fun a b => ∀ k, I.key a = some k → I.key b ≠ some k := by
  have hrows : t.rows.Pairwise fun a b => ∀ k, I.key a = some k → I.key b ≠ some k := by
    refine t.unique.imp fun {a b} hab k ha hb => ?_
    rw [I.unique a b k ha hb] at hab; cases hab
  have hsymm : Std.Symm fun a b => ∀ k, I.key a = some k → I.key b ≠ some k :=
    ⟨fun _ _ h k hb ha => h k ha hb⟩
  unfold Table.select
  exact (List.perm_insertionSort le _).symm.pairwise (hrows.filter p) (fun h => hsymm.symm _ _ h)

/-- At most one row with a key. -/
theorem count_le_one (I : Index S κ) {t : Table S} {p : α → Bool} {k : κ}
    (hp : ∀ a, p a = true → I.key a = some k) : t.count p ≤ 1 := by
  unfold Table.count
  rw [List.countP_eq_length_filter]
  have hpair : (t.rows.filter p).Pairwise fun a b => S.conflict a b = false := t.unique.filter p
  have hkey : ∀ a ∈ t.rows.filter p, I.key a = some k := fun a ha => hp a (List.mem_filter.1 ha).2
  match h : t.rows.filter p with
  | [] => simp
  | [_] => simp
  | a :: b :: rest =>
    rw [h] at hpair hkey
    have hab : S.conflict a b = false := (List.pairwise_cons.1 hpair).1 b (by simp)
    rw [I.unique a b k (hkey a (by simp)) (hkey b (by simp))] at hab
    cases hab

/-- No key twice among the rows of a condition that all have one. -/
theorem keys_nodup (I : Index S κ) {t : Table S} {p : α → Bool}
    (hp : ∀ a ∈ t.rows, p a = true → (I.key a).isSome) : ((t.rows.filter p).map I.key).Nodup := by
  have hpair : (t.rows.filter p).Pairwise fun a b => S.conflict a b = false := t.unique.filter p
  refine List.pairwise_map.2 (hpair.imp_of_mem fun {a b} ha _ hab hkey => ?_)
  obtain ⟨hmem, hpa⟩ := List.mem_filter.1 ha
  obtain ⟨k, hk⟩ := Option.isSome_iff_exists.1 (hp a hmem hpa)
  rw [I.unique a b k hk (hkey.symm.trans hk)] at hab
  cases hab

/-- **Counting by keys.** Two tables have as many rows of a kind when the same keys have one. -/
theorem count_eq_of_keys {γ : Type} {S' : Schema γ} (I : Index S κ) (J : Index S' κ) {t : Table S}
    {t' : Table S'} {p : α → Bool} {q : γ → Bool}
    (hp : ∀ a ∈ t.rows, p a = true → (I.key a).isSome) (hq : ∀ b ∈ t'.rows, q b = true → (J.key b).isSome)
    (hpq : ∀ a ∈ t.rows, p a = true → ∃ b ∈ t'.rows, q b = true ∧ J.key b = I.key a)
    (hqp : ∀ b ∈ t'.rows, q b = true → ∃ a ∈ t.rows, p a = true ∧ I.key a = J.key b) :
    t.count p = t'.count q := by
  have hperm : ((t.rows.filter p).map I.key).Perm ((t'.rows.filter q).map J.key) := by
    refine (List.perm_ext_iff_of_nodup (I.keys_nodup hp) (J.keys_nodup hq)).2 fun k => ?_
    constructor
    · intro hk
      obtain ⟨a, ha, rfl⟩ := List.mem_map.1 hk
      obtain ⟨hmem, hpa⟩ := List.mem_filter.1 ha
      obtain ⟨b, hb, hqb, hkey⟩ := hpq a hmem hpa
      exact List.mem_map.2 ⟨b, List.mem_filter.2 ⟨hb, hqb⟩, hkey⟩
    · intro hk
      obtain ⟨b, hb, rfl⟩ := List.mem_map.1 hk
      obtain ⟨hmem, hqb⟩ := List.mem_filter.1 hb
      obtain ⟨a, ha, hpa, hkey⟩ := hqp b hmem hqb
      exact List.mem_map.2 ⟨a, List.mem_filter.2 ⟨ha, hpa⟩, hkey⟩
  have hlength := hperm.length_eq
  rw [List.length_map, List.length_map] at hlength
  unfold Table.count
  rw [List.countP_eq_length_filter, List.countP_eq_length_filter, hlength]

variable [DecidableEq κ]

/-- What `π` shows of the row with key `k`. -/
def lookup (I : Index S κ) (π : α → β) (t : Table S) (k : κ) : Option β :=
  (t.find fun a => I.key a = some k).map π

variable {I : Index S κ} {π : α → β} {t t' : Table S} {p : α → Bool} {f : α → α} {a : α} {k : κ}

theorem lookup_eq_some {b : β} :
    I.lookup π t k = some b ↔ ∃ a ∈ t.rows, I.key a = some k ∧ π a = b := by
  unfold lookup
  constructor
  · intro h
    obtain ⟨a, ha, rfl⟩ := Option.map_eq_some_iff.1 h
    obtain ⟨hmem, hk⟩ := Table.find_mem ha
    exact ⟨a, hmem, by simpa using hk, rfl⟩
  · rintro ⟨a, ha, hk, rfl⟩
    cases hf : t.find fun a => I.key a = some k with
    | none =>
      have := Table.find_none hf a ha
      simp [hk] at this
    | some b =>
      obtain ⟨hb, hkb⟩ := Table.find_mem hf
      rw [I.eq_of_key hb ha (by simpa using hkb) hk]; rfl

theorem lookup_mem (ha : a ∈ t.rows) (hk : I.key a = some k) : I.lookup π t k = some (π a) :=
  lookup_eq_some.2 ⟨a, ha, hk, rfl⟩

theorem lookup_eq_none : I.lookup π t k = none ↔ ∀ a ∈ t.rows, I.key a ≠ some k := by
  rw [Option.eq_none_iff_forall_ne_some]
  constructor
  · intro h a ha hk; exact h _ (lookup_mem ha hk)
  · rintro h b hb
    obtain ⟨a, ha, hk, -⟩ := lookup_eq_some.1 hb
    exact h a ha hk

/-- A new row shows up under its key, where nothing was. -/
theorem lookup_insert (h : t.insert a = some t') (hk : I.key a = some k) :
    I.lookup π t k = none ∧ I.lookup π t' = update (I.lookup π t) k (some (π a)) := by
  have hrows := Table.insert_rows h
  have hnone : I.lookup π t k = none := by
    refine lookup_eq_none.2 fun b hb hkb => ?_
    have hu := t'.unique
    rw [hrows, List.pairwise_append] at hu
    have := hu.2.2 b hb a (List.mem_singleton_self a)
    rw [I.unique b a k hkb hk] at this; cases this
  refine ⟨hnone, funext fun k' => ?_⟩
  by_cases hkk : k' = k
  · subst hkk
    rw [update_self]
    exact lookup_mem (by rw [hrows]; simp) hk
  · rw [update_of_ne hkk]
    refine Option.ext fun b => ?_
    rw [lookup_eq_some, lookup_eq_some, hrows]
    constructor
    · rintro ⟨c, hc, hkc, rfl⟩
      rcases List.mem_append.1 hc with hc | hc
      · exact ⟨c, hc, hkc, rfl⟩
      · rw [List.mem_singleton.1 hc, hk] at hkc
        exact absurd (Option.some.inj hkc).symm hkk
    · rintro ⟨c, hc, hkc, rfl⟩
      exact ⟨c, List.mem_append_left _ hc, hkc, rfl⟩

/-- What an update leaves alone under its key. -/
theorem lookup_update_same (h : t.update p f = some t')
    (hf : ∀ a ∈ t.rows, p a = true → I.key (f a) = I.key a ∧ π (f a) = π a) :
    I.lookup π t' = I.lookup π t := by
  have hrows := Table.update_rows h
  have hkeep : ∀ a ∈ t.rows, I.key (rewrite p f a) = I.key a ∧ π (rewrite p f a) = π a := by
    intro a ha
    cases hp : p a with
    | true => rw [rewrite_pos hp]; exact hf a ha hp
    | false => rw [rewrite_neg hp]; exact ⟨rfl, rfl⟩
  refine funext fun k => Option.ext fun b => ?_
  rw [lookup_eq_some, lookup_eq_some, hrows]
  constructor
  · rintro ⟨c, hc, hk, rfl⟩
    obtain ⟨d, hd, rfl⟩ := List.mem_map.1 hc
    exact ⟨d, hd, (hkeep d hd).1.symm.trans hk, (hkeep d hd).2.symm⟩
  · rintro ⟨d, hd, hk, rfl⟩
    exact ⟨_, List.mem_map_of_mem hd, (hkeep d hd).1.trans hk, (hkeep d hd).2⟩

/-- An update of the row with key `k` alone, which keeps its key. -/
theorem lookup_update (h : t.update p f = some t') (ha : a ∈ t.rows) (hk : I.key a = some k)
    (hpa : p a = true) (hp : ∀ b ∈ t.rows, p b = true → I.key b = some k)
    (hfk : I.key (f a) = some k) :
    I.lookup π t' = update (I.lookup π t) k (some (π (f a))) := by
  have hrows := Table.update_rows h
  refine funext fun k' => ?_
  by_cases hkk : k' = k
  · subst hkk
    rw [update_self]
    exact lookup_mem (by rw [hrows]; exact List.mem_map.2 ⟨a, ha, rewrite_pos hpa⟩) hfk
  · rw [update_of_ne hkk]
    have hkey : ∀ b ∈ t.rows, I.key (rewrite p f b) = some k' → p b = false := by
      intro b hb hkb
      by_contra hpb
      have hpb : p b = true := by simpa using hpb
      obtain rfl := I.eq_of_key hb ha (hp b hb hpb) hk
      rw [rewrite_pos hpb, hfk] at hkb
      exact hkk (Option.some.inj hkb).symm
    have hother : ∀ b ∈ t.rows, I.key b = some k' → p b = false := by
      intro b hb hkb
      by_contra hpb
      rw [hp b hb (by simpa using hpb)] at hkb
      exact hkk (Option.some.inj hkb).symm
    refine Option.ext fun b => ?_
    rw [lookup_eq_some, lookup_eq_some, hrows]
    constructor
    · rintro ⟨c, hc, hkc, rfl⟩
      obtain ⟨d, hd, rfl⟩ := List.mem_map.1 hc
      have hpd := hkey d hd hkc
      rw [rewrite_neg hpd] at hkc ⊢
      exact ⟨d, hd, hkc, rfl⟩
    · rintro ⟨d, hd, hkd, rfl⟩
      have hpd := hother d hd hkd
      exact ⟨d, List.mem_map.2 ⟨d, hd, rewrite_neg hpd⟩, hkd, rfl⟩

/-- An update that takes the row with key `k` out of the index. -/
theorem lookup_update_drop (h : t.update p f = some t')
    (hp : ∀ b ∈ t.rows, p b = true → I.key b = some k ∧ I.key (f b) = none)
    (hk : ∀ b ∈ t.rows, I.key b = some k → p b = true) :
    I.lookup π t' = update (I.lookup π t) k none := by
  have hrows := Table.update_rows h
  refine funext fun k' => ?_
  by_cases hkk : k' = k
  · subst hkk
    rw [update_self, lookup_eq_none, hrows]
    intro c hc hkc
    obtain ⟨d, hd, rfl⟩ := List.mem_map.1 hc
    cases hpd : p d with
    | true => rw [rewrite_pos hpd, (hp d hd hpd).2] at hkc; cases hkc
    | false => rw [rewrite_neg hpd] at hkc; rw [hk d hd hkc] at hpd; cases hpd
  · rw [update_of_ne hkk]
    refine Option.ext fun b => ?_
    rw [lookup_eq_some, lookup_eq_some, hrows]
    constructor
    · rintro ⟨c, hc, hkc, rfl⟩
      obtain ⟨d, hd, rfl⟩ := List.mem_map.1 hc
      cases hpd : p d with
      | true => rw [rewrite_pos hpd, (hp d hd hpd).2] at hkc; cases hkc
      | false => rw [rewrite_neg hpd] at hkc ⊢; exact ⟨d, hd, hkc, rfl⟩
    · rintro ⟨d, hd, hkd, rfl⟩
      cases hpd : p d with
      | true =>
        rw [(hp d hd hpd).1] at hkd
        exact absurd (Option.some.inj hkd).symm hkk
      | false => exact ⟨d, List.mem_map.2 ⟨d, hd, rewrite_neg hpd⟩, hkd, rfl⟩

end Index

end Relational
