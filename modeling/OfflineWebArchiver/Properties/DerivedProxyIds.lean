import OfflineWebArchiver.Properties.ProxyImport
import OfflineWebArchiver.ProxyManager.DerivedId

/-!
# Derived identifiers collide

The identifier of an imported proxy forgets the separators of its endpoint, and what lies behind
112 units of the rest.

* `Separated`: two endpoints whose words differ in the part that is kept.
* `derivedIds_differ_iff`: **two identifiers differ exactly when their endpoints are separated**.
* `importDerived_iff`: an import takes every proxy exactly when their endpoints are separated.
-/

namespace OfflineWebArchiver.ProxyManager

open Checks Relational

variable {env : ProxyEnv} {d d' : ProxyDraft} {item : ImportItem} {items : List ImportItem} {s : ImportState}

/-- The draft is one that `normalizeProxyDraft` returns. -/
def Accepted (env : ProxyEnv) (d : ProxyDraft) : Prop := ∃ value requireId, normalizeProxyDraft env value requireId = .ok d

/-- Two drafts have the same canonical identity. -/
def SameIdentity (d d' : ProxyDraft) : Prop := d.protocol = d'.protocol ∧ d.host = d'.host ∧ d.port = d'.port

/-- **The words of protocol, host and port differ** within the first 112 units, joined with hyphens. -/
def Separated (d d' : ProxyDraft) : Prop :=
  (hyphenatedEndpoint d.protocol d.host d.port).take 112 ≠ (hyphenatedEndpoint d'.protocol d'.host d'.port).take 112

theorem Accepted.parts (h : Accepted env d) : DraftParts env d := by
  obtain ⟨value, requireId, h⟩ := h
  unfold normalizeProxyDraft at h
  split at h
  · obtain ⟨draft, hfields, h⟩ := bind_ok.1 h
    obtain ⟨-, h⟩ := failIf_bind_ok.1 h
    obtain rfl := pure_ok.1 h
    exact normalizeProxyFields_ok hfields
  · cases h

/-- The endpoint of an accepted draft. -/
def Accepted.endpoint (h : Accepted env d) : Endpoint :=
  ⟨d.protocol, d.host, d.port, h.parts.isHost, h.parts.isPort⟩

theorem Accepted.canonical (h : Accepted env d) :
    canonicalProxyIdentity env d.protocol d.host d.port = .ok h.endpoint.identity :=
  h.endpoint.canonical

theorem Accepted.derived (h : Accepted env d) :
    deriveImportedProxyId env d = .ok (endpointId d.protocol d.host d.port) :=
  h.endpoint.deriveImportedProxyId_eq rfl rfl rfl

theorem Accepted.identity_eq (h : Accepted env d) (h' : Accepted env d') :
    h.endpoint.identity = h'.endpoint.identity ↔ SameIdentity d d' := by
  refine ⟨fun heq => Endpoint.identity_injective heq, fun heq => ?_⟩
  unfold Accepted.endpoint Endpoint.identity
  simp only [heq.1, heq.2.1, heq.2.2]

theorem endpointId_eq_iff :
    endpointId d.protocol d.host d.port = endpointId d'.protocol d'.host d'.port ↔ ¬Separated d d' := by
  unfold endpointId Separated
  rw [List.append_cancel_left_eq, ne_eq, not_not]

theorem SameIdentity.not_separated (h : SameIdentity d d') : ¬Separated d d' := by
  rw [← endpointId_eq_iff, h.1, h.2.1, h.2.2]

/-! ### Short endpoints -/

/-! ### New records in a table -/

theorem scalarsOf_length (t : Text) : (scalarsOf t).length ≤ t.length ∧ (t ≠ [] → scalarsOf t ≠ []) := by
  induction t using scalarsOf.induct with
  | case1 => simp [scalarsOf]
  | case2 c => simp [scalarsOf]
  | case3 high low rest hpair ih =>
    rw [scalarsOf, if_pos hpair]
    simp only [List.length_cons]
    exact ⟨by omega, by simp⟩
  | case4 high low rest hpair ih =>
    rw [scalarsOf, if_neg hpair]
    simp only [List.length_cons] at ih ⊢
    exact ⟨by omega, by simp⟩

theorem lengthWithin_text {t : Text} {high : ℕ} (hne : t ≠ []) (hlen : t.length ≤ high) :
    lengthWithin 1 high t = true := by
  obtain ⟨hle, hsome⟩ := scalarsOf_length t
  have hpos := List.length_pos_iff.2 (hsome hne)
  simp only [lengthWithin, Bool.and_eq_true, decide_eq_true_eq]
  omega

/-- A new record passes the `CHECK` constraints. -/
theorem createProxyMetadata_check {input : List (Text × JsValue)} {now : Timestamp} {made : ProxyMetadata}
    (h : createProxyMetadata env input now = .ok made) : proxyCheck made = true := by
  obtain ⟨draft, hfields, hid, -, -, hhost, hport, -, -, hweight, hpriority, hmax, -⟩ := createProxyMetadata_ok h
  have hparts := normalizeProxyFields_ok hfields
  obtain ⟨hidne, hidlen, -⟩ := matchesSafeText_ok (by decide) (hparts.id _ hid).2
  have hw := hparts.weight
  have hp := hparts.priority
  have hm := hparts.maxConcurrency
  have hn := hparts.isPort
  rw [← hweight] at hw
  rw [← hpriority] at hp
  rw [← hmax] at hm
  rw [← hport] at hn
  have hh := hparts.isHost
  rw [← hhost] at hh
  unfold createProxyMetadata at h
  obtain ⟨draft', -, h⟩ := bind_ok.1 h
  obtain ⟨_, -, h⟩ := bind_ok.1 h
  obtain rfl := pure_ok.1 h
  unfold proxyCheck
  simp [lengthWithin_text hidne hidlen, lengthWithin_text hh.ne_nil hh.length_le, hw, hp, hm, hn]

/-- Nothing in the way of an item: neither the table nor the batch knows its identifier or its
endpoint. -/
structure Fresh (env : ProxyEnv) (s : ImportState) (item : ImportItem) : Prop where
  valid : assertProxyMetadata env item.metadata = .ok ()
  check : proxyCheck item.metadata = true
  rows : ∀ row ∈ s.db.rows, row.id ≠ item.metadata.id ∧ ¬SameEndpoint row item.metadata
  seenIds : item.metadata.id ∉ s.seenIds
  seenIdentities : ∀ h : HasEndpoint item.metadata, h.endpoint.identity ∉ s.seenIdentities

/-- A fresh item is imported. -/
theorem importItem_fresh (h : Fresh env s item) (hitem : HasEndpoint item.metadata) :
    ∃ db, s.db.insert item.metadata = some db ∧ importItem env s item =
      { s with
        imported := s.imported + 1, seenIds := item.metadata.id :: s.seenIds
        seenIdentities := hitem.endpoint.identity :: s.seenIdentities, db } := by
  have hconflict : ∀ row ∈ s.db.rows, proxies.conflict row item.metadata = false := by
    intro row hrow
    obtain ⟨hid, hend⟩ := h.rows row hrow
    rw [← sameEndpoint_iff, Bool.not_eq_true] at hend
    simp [proxies, hid, hend]
  obtain ⟨db, hdb⟩ := Table.insert_some h.check hconflict
  refine ⟨db, hdb, ?_⟩
  have hidentity : itemIdentity env item = .ok hitem.endpoint.identity := by
    unfold itemIdentity
    rw [h.valid, ok_bind, hitem.canonical]
    rfl
  have hbyId : (s.db.find fun r => r.id = item.metadata.id) = none :=
    List.find?_eq_none.2 fun row hrow => by simp [(h.rows row hrow).1]
  have hbyEndpoint : (s.db.find fun r => sameEndpoint r item.metadata) = none :=
    List.find?_eq_none.2 fun row hrow => by rw [sameEndpoint_iff]; exact (h.rows row hrow).2
  unfold importItem
  rw [hidentity]
  dsimp only
  rw [if_neg (by rw [not_or]; exact ⟨h.seenIds, h.seenIdentities hitem⟩)]
  unfold importUnseen
  dsimp only
  rw [hbyId]
  dsimp only
  rw [hbyEndpoint]
  dsimp only
  rw [hdb]

/-- Items that differ in their identifiers and in their endpoints. -/
def Apart (a b : ImportItem) : Prop := a.metadata.id ≠ b.metadata.id ∧ ¬SameEndpoint a.metadata b.metadata

/-- Fresh items that lie apart are all imported. -/
theorem foldl_fresh (hitems : ∀ item ∈ items, HasEndpoint item.metadata) (hfresh : ∀ item ∈ items, Fresh env s item)
    (hapart : items.Pairwise Apart) : (items.foldl (importItem env) s).imported = s.imported + items.length := by
  induction items generalizing s with
  | nil => rfl
  | cons item items ih =>
    have hitem := hitems item List.mem_cons_self
    obtain ⟨db, hdb, hstep⟩ := importItem_fresh (hfresh item List.mem_cons_self) hitem
    obtain ⟨hfirst, hrest⟩ := List.pairwise_cons.1 hapart
    rw [List.foldl_cons, hstep, ih (fun i hi => hitems i (List.mem_cons_of_mem _ hi)) (fun i hi => ?_) hrest]
    · simp only [List.length_cons]
      omega
    · -- the rest stays fresh, because it lies apart from the item
      have hold := hfresh i (List.mem_cons_of_mem _ hi)
      obtain ⟨hid, hend⟩ := hfirst i hi
      refine ⟨hold.valid, hold.check, fun row hrow => ?_, ?_, fun hi' => ?_⟩
      · dsimp only at hrow
        rw [Table.insert_rows hdb, List.mem_append, List.mem_singleton] at hrow
        rcases hrow with hrow | rfl
        · exact hold.rows row hrow
        · exact ⟨hid, hend⟩
      · rw [List.mem_cons, not_or]
        exact ⟨Ne.symm hid, hold.seenIds⟩
      · rw [List.mem_cons, not_or]
        refine ⟨fun heq => hend ?_, hold.seenIdentities hi'⟩
        exact (hitem.identity_eq hi').1 heq.symm

/-- An import counts at most one proxy for each item, and where it counts all of them, the table
holds all of them. -/
theorem foldl_imported (hrows : ∀ row ∈ s.db.rows, HasEndpoint row)
    (hitems : ∀ item ∈ items, HasEndpoint item.metadata) :
    (items.foldl (importItem env) s).imported ≤ s.imported + items.length ∧
      ((items.foldl (importItem env) s).imported = s.imported + items.length →
        (items.foldl (importItem env) s).db.rows = s.db.rows ++ items.map ImportItem.metadata) := by
  induction items generalizing s with
  | nil => simp
  | cons item items ih =>
    have hitem := hitems item List.mem_cons_self
    have hbooked : Booked item s (importItem env s item) := importItem_booked hrows hitem
    obtain ⟨hle, hall⟩ := @ih (importItem env s item) (hbooked.hasEndpoint hrows hitem)
      fun i hi => hitems i (List.mem_cons_of_mem _ hi)
    rw [List.foldl_cons, List.length_cons]
    cases hbooked with
    | imported hcount _ hdb =>
      have := hcount.1
      refine ⟨by omega, fun heq => ?_⟩
      rw [hall (by omega), hdb, List.append_assoc]
      rfl
    | updated _ hcount _ _ _ _ _ | skipped _ hcount _ _ | failed _ hcount _ _ =>
      have := hcount.1
      exact ⟨by omega, fun heq => by omega⟩

/-- The item is the record of a draft without an identifier, under its derived identifier. -/
structure DerivedItem (env : ProxyEnv) (d : ProxyDraft) (item : ImportItem) : Prop where
  accepted : Accepted env d
  made : ∃ input now, createProxyMetadata env input now = .ok item.metadata
  id : deriveImportedProxyId env d = .ok item.metadata.id
  endpoint : item.metadata.protocol = d.protocol ∧ item.metadata.host = d.host ∧ item.metadata.port = d.port

theorem DerivedItem.metadata_id (h : DerivedItem env d item) : item.metadata.id = endpointId d.protocol d.host d.port :=
  Except.ok.inj (h.id.symm.trans h.accepted.derived)

/-- A relation between neighbours of two lists that stand side by side. -/
theorem pairwise_forall₂ {α β : Type} {R : α → β → Prop} {S : α → α → Prop} {T : β → β → Prop} {as : List α}
    {bs : List β} (h : List.Forall₂ R as bs) (hST : ∀ a a' b b', R a b → R a' b' → (S a a' ↔ T b b')) :
    as.Pairwise S ↔ bs.Pairwise T := by
  induction h with
  | nil => simp
  | @cons a b as bs hab hrest ih =>
    rw [List.pairwise_cons, List.pairwise_cons, ih]
    refine and_congr ?_ Iff.rfl
    clear ih
    induction hrest with
    | nil => simp
    | cons hab' _ ih' =>
      rw [List.forall_mem_cons, List.forall_mem_cons, ih', hST _ _ _ _ hab hab']

/-- **An import into an empty table takes every proxy** exactly when their endpoints are
separated. -/
theorem importDerived_iff {ds : List ProxyDraft} (hitems : List.Forall₂ (DerivedItem env) ds items)
    (hdistinct : ds.Pairwise fun d d' => ¬SameIdentity d d') :
    (importProxies env items (.empty proxies)).imported = items.length ↔ ds.Pairwise Separated := by
  have hapart : ds.Pairwise (fun d d' => Separated d d' ∧ ¬SameIdentity d d') ↔ items.Pairwise Apart := by
    refine pairwise_forall₂ hitems fun d d' item item' h h' => ?_
    unfold Apart SameEndpoint SameIdentity
    rw [h.metadata_id, h'.metadata_id, ne_eq, endpointId_eq_iff, not_not, h.endpoint.1, h.endpoint.2.1,
      h.endpoint.2.2, h'.endpoint.1, h'.endpoint.2.1, h'.endpoint.2.2]
  have hmem : ∀ item ∈ items, ∃ d, DerivedItem env d item := by
    intro item hitem
    obtain ⟨n, hn, rfl⟩ := List.getElem_of_mem hitem
    exact ⟨_, hitems.get (by rw [hitems.length_eq]; exact hn) hn⟩
  have hendpoint : ∀ item ∈ items, HasEndpoint item.metadata := by
    intro item hitem
    obtain ⟨d, hd⟩ := hmem item hitem
    obtain ⟨input, now, hmade⟩ := hd.made
    exact Made.hasEndpoint ⟨input, now, _, _, _, hmade, rfl⟩
  constructor
  · intro himported
    have hrows := (@foldl_imported env items { db := .empty proxies } (by simp) hendpoint).2
      (by simpa [importProxies] using himported)
    have hpairs := rows_apart (items.foldl (importItem env) { db := .empty proxies }).db
    rw [hrows, Table.empty_rows, List.nil_append, List.pairwise_map] at hpairs
    exact (hapart.2 hpairs).imp And.left
  · intro hseparated
    have hpairs := hapart.1 (hseparated.and hdistinct)
    have hcount := @foldl_fresh env items { db := .empty proxies } hendpoint (fun item hitem => ?_) hpairs
    · simpa [importProxies] using hcount
    · obtain ⟨d, hd⟩ := hmem item hitem
      obtain ⟨input, now, hmade⟩ := hd.made
      exact ⟨createProxyMetadata_valid hmade, createProxyMetadata_check hmade, by simp, by simp, fun _ => by simp⟩

/-- **Derived identifiers.** Every accepted draft gets one. The identifiers of two drafts tell their
identities apart exactly when the identities are equal or separated, and an import of drafts with
different identities takes all of them exactly when they are pairwise separated. -/
theorem derivedIds_differ_iff (env : ProxyEnv) :
    (∀ d d', Accepted env d → Accepted env d' → ∃ identity identity' id id',
      canonicalProxyIdentity env d.protocol d.host d.port = .ok identity ∧
      canonicalProxyIdentity env d'.protocol d'.host d'.port = .ok identity' ∧
      deriveImportedProxyId env d = .ok id ∧ deriveImportedProxyId env d' = .ok id' ∧
      ((identity = identity' ↔ id = id') ↔ SameIdentity d d' ∨ Separated d d')) ∧
    ∀ ds items, List.Forall₂ (DerivedItem env) ds items → ds.Pairwise (fun d d' => ¬SameIdentity d d') →
      ((importProxies env items (.empty proxies)).imported = items.length ↔ ds.Pairwise Separated) := by
  refine ⟨fun d d' h h' => ?_, fun ds items hitems hdistinct => importDerived_iff hitems hdistinct⟩
  refine ⟨_, _, _, _, h.canonical, h'.canonical, h.derived, h'.derived, ?_⟩
  rw [h.identity_eq h', endpointId_eq_iff]
  constructor
  · intro heq
    by_cases hsame : SameIdentity d d'
    · exact Or.inl hsame
    · exact Or.inr (not_not.1 fun hno => hsame (heq.2 hno))
  · rintro (hsame | hsep)
    · exact ⟨fun hsame => hsame.not_separated, fun _ => hsame⟩
    · exact ⟨fun hsame => hsame.not_separated, fun hno => absurd hsep hno⟩

theorem draft_accepted : Accepted Sample.env (Sample.draft "a.b" 80) :=
  ⟨some (.object (Sample.endpointFields "a.b" 80)), false, by decide⟩

theorem draft_accepted' : Accepted Sample.env (Sample.draft "a-b" 80) :=
  ⟨some (.object (Sample.endpointFields "a-b" 80)), false, by decide⟩

/-- **Two identities, one identifier**: a dot and a hyphen are the same to it, and an import skips
the second proxy. -/
theorem derivedIds_collide :
    Accepted Sample.env (Sample.draft "a.b" 80) ∧ Accepted Sample.env (Sample.draft "a-b" 80) ∧
      canonicalProxyIdentity Sample.env .http (asciiUnits "a.b") 80 = .ok (asciiUnits "http://a.b:80") ∧
      canonicalProxyIdentity Sample.env .http (asciiUnits "a-b") 80 = .ok (asciiUnits "http://a-b:80") ∧
      deriveImportedProxyId Sample.env (Sample.draft "a.b" 80) = .ok (asciiUnits "proxy-http-a-b-80") ∧
      deriveImportedProxyId Sample.env (Sample.draft "a-b" 80) = .ok (asciiUnits "proxy-http-a-b-80") ∧
      (importProxies Sample.env
        [⟨1, Sample.record "proxy-http-a-b-80" "a.b" 80⟩, ⟨2, Sample.record "proxy-http-a-b-80" "a-b" 80⟩]
        (.empty proxies)).skipped = 1 := by
  refine ⟨draft_accepted, draft_accepted', ?_⟩
  decide

theorem derivedIds_sample : ∃ identity identity' id id',
    canonicalProxyIdentity Sample.env .http (asciiUnits "a.b") 80 = .ok identity ∧
      canonicalProxyIdentity Sample.env .http (asciiUnits "a-b") 80 = .ok identity' ∧
      deriveImportedProxyId Sample.env (Sample.draft "a.b" 80) = .ok id ∧
      deriveImportedProxyId Sample.env (Sample.draft "a-b" 80) = .ok id' ∧
      ((identity = identity' ↔ id = id') ↔
        SameIdentity (Sample.draft "a.b" 80) (Sample.draft "a-b" 80) ∨
          Separated (Sample.draft "a.b" 80) (Sample.draft "a-b" 80)) :=
  (derivedIds_differ_iff Sample.env).1 _ _ draft_accepted draft_accepted'

end OfflineWebArchiver.ProxyManager
