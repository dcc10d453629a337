import OfflineWebArchiver.ProxyManager.Records
import OfflineWebArchiver.ProxyManager.Repository
import OfflineWebArchiver.ProxyManager.Sample

/-!
# The books of a proxy import

An import decides about its items one after the other, and each item has one of four outcomes.

* `Reachable`: the tables that creations, updates and imports of new records leave behind.
* `Booked`: **what one item does** to the counters, the reports and the table.
* `importItem_booked`: every item is booked.
* `importProxies_books`: **the books of a whole import**.
-/

namespace OfflineWebArchiver.ProxyManager

open Checks Relational

variable {env : ProxyEnv} {db db' : ProxyTable} {item : ImportItem} {items : List ImportItem}
variable {s s' : ImportState} {row metadata : ProxyMetadata}

/-! ### The table -/

/-- Metadata that `createProxyMetadata` made; an update carries over the creation time and counts
the revision. -/
def Made (env : ProxyEnv) (metadata : ProxyMetadata) : Prop :=
  ∃ input now made createdAt revision, createProxyMetadata env input now = .ok made ∧
    metadata = { made with createdAt, revision }

/-- The tables of a run. -/
inductive Reachable (env : ProxyEnv) : ProxyTable → Prop
  | empty : Reachable env (.empty proxies)
  | create {db db' : ProxyTable} {metadata proxy : ProxyMetadata} (h : Reachable env db) (hmade : Made env metadata)
      (hcall : createProxy env metadata db = .ok (proxy, db')) : Reachable env db'
  | update {db db' : ProxyTable} {metadata proxy : ProxyMetadata} {proxyId : Text} {expectedRevision : ℤ}
      (h : Reachable env db) (hmade : Made env metadata)
      (hcall : updateProxy env proxyId expectedRevision metadata db = .ok (proxy, db')) : Reachable env db'
  | importProxies {db : ProxyTable} {items : List ImportItem} (h : Reachable env db)
      (hmade : ∀ item ∈ items, Made env item.metadata) : Reachable env (importProxies env items db).db

/-- The record has an accepted endpoint. -/
structure HasEndpoint (row : ProxyMetadata) : Prop where
  isHost : IsHost row.host
  isPort : 1 ≤ row.port ∧ row.port ≤ 65535

/-- The accepted endpoint of a record. -/
def HasEndpoint.endpoint (h : HasEndpoint row) : Endpoint := ⟨row.protocol, row.host, row.port, h.isHost, h.isPort⟩

theorem Made.hasEndpoint (h : Made env metadata) : HasEndpoint metadata := by
  obtain ⟨input, now, made, createdAt, revision, hmade, rfl⟩ := h
  obtain ⟨draft, hfields, -, -, -, hhost, hport, -⟩ := createProxyMetadata_ok hmade
  have hparts := normalizeProxyFields_ok hfields
  exact ⟨hhost ▸ hparts.isHost, hport ▸ hparts.isPort⟩

/-- Two records have the same endpoint. -/
def SameEndpoint (a b : ProxyMetadata) : Prop := a.protocol = b.protocol ∧ a.host = b.host ∧ a.port = b.port

theorem sameEndpoint_iff {a b : ProxyMetadata} : sameEndpoint a b = true ↔ SameEndpoint a b := by
  simp [sameEndpoint, SameEndpoint, and_assoc]

theorem HasEndpoint.canonical (h : HasEndpoint row) :
    canonicalProxyIdentity env row.protocol row.host row.port = .ok h.endpoint.identity :=
  h.endpoint.canonical

/-- Records with the same identity have the same endpoint. -/
theorem HasEndpoint.identity_eq {a b : ProxyMetadata} (ha : HasEndpoint a) (hb : HasEndpoint b) :
    ha.endpoint.identity = hb.endpoint.identity ↔ SameEndpoint a b := by
  refine ⟨fun h => Endpoint.identity_injective h, fun h => ?_⟩
  unfold HasEndpoint.endpoint Endpoint.identity
  simp only [h.1, h.2.1, h.2.2]

/-- Different rows have different identifiers and endpoints. -/
theorem rows_apart (db : ProxyTable) : db.rows.Pairwise fun a b => a.id ≠ b.id ∧ ¬SameEndpoint a b := by
  refine db.unique.imp fun {a b} hab => ?_
  simp only [proxies, Bool.or_eq_false_iff, decide_eq_false_iff_not] at hab
  exact ⟨hab.1, fun h => by rw [sameEndpoint_iff.2 h] at hab; cases hab.2⟩

/-- The primary key of `proxies`. -/
def byId : Index proxies Text where
  key row := some row.id
  unique a b k ha hb := by
    cases ha
    have hid : a.id = b.id := (Option.some.inj hb).symm
    simp [proxies, hid]

theorem eq_of_id {a b : ProxyMetadata} (ha : a ∈ db.rows) (hb : b ∈ db.rows) (h : a.id = b.id) : a = b :=
  byId.eq_of_key ha hb rfl (congrArg some h.symm)

/-! ### One item -/

/-- The counters of `s'` are those of `s` and the given steps. -/
def Counted (s s' : ImportState) (imported updated skipped failed : ℕ) : Prop :=
  s'.imported = s.imported + imported ∧ s'.updated = s.updated + updated ∧
    s'.skipped = s.skipped + skipped ∧ s'.failed = s.failed + failed

/-- The row of an update: what the item brings, under the creation time and the next revision of
the row that it replaces. -/
def updatedRow (item : ImportItem) (current : ProxyMetadata) : ProxyMetadata :=
  { item.metadata with createdAt := current.createdAt, revision := current.revision + 1 }

/-- **What one item does** to the counters, the reports and the table. -/
inductive Booked (item : ImportItem) (s s' : ImportState) : Prop
  | imported (hcount : Counted s s' 1 0 0 0) (herrors : s'.errors = s.errors)
      (hdb : s'.db.rows = s.db.rows ++ [item.metadata])
  | updated (current : ProxyMetadata) (hcount : Counted s s' 0 1 0 0) (herrors : s'.errors = s.errors)
      (hcurrent : current ∈ s.db.rows) (hid : current.id = item.metadata.id)
      (hendpoint : SameEndpoint current item.metadata)
      (hdb : s'.db.rows = s.db.rows.map fun row => if row.id = current.id then updatedRow item current else row)
  | skipped (message : String) (hcount : Counted s s' 0 0 1 0)
      (herrors : s'.errors = s.errors ++ [⟨item.record, .alreadyExists, message⟩]) (hdb : s'.db = s.db)
  | failed (message : String) (hcount : Counted s s' 0 0 0 1)
      (herrors : s'.errors = s.errors ++ [⟨item.record, .configInvalid, message⟩]) (hdb : s'.db = s.db)

variable (ids identities : List Text)

theorem skip_booked (message : String) :
    Booked item s (ImportState.skip { s with seenIds := ids, seenIdentities := identities } item.record message) :=
  .skipped message ⟨rfl, rfl, rfl, rfl⟩ rfl rfl

theorem fail_booked :
    Booked item s (ImportState.fail { s with seenIds := ids, seenIdentities := identities } item.record) :=
  .failed _ ⟨rfl, rfl, rfl, rfl⟩ rfl rfl

theorem reject_booked (e : ProxyThrow) :
    Booked item s (ImportState.reject { s with seenIds := ids, seenIdentities := identities } item.record e) := by
  cases e with
  | operation e =>
    simp only [ImportState.reject]
    split_ifs
    · exact skip_booked ids identities e.message
    · exact fail_booked ids identities
  | secret e => exact fail_booked ids identities

/-- A proxy is read with the columns of its row; only the reference is written anew. -/
theorem rowToProxy_ok {proxy : ProxyMetadata} (h : rowToProxy env row = .ok proxy) :
    ∃ ref, proxy = { row with credentialRef := ref } := by
  unfold rowToProxy at h
  obtain ⟨ref, -, h⟩ := bind_ok.1 h
  dsimp only at h
  split at h
  · exact ⟨ref, (pure_ok.1 h).symm⟩
  · cases h

/-- An update under the key writes one row. -/
theorem updateRow_rows (hrow : row ∈ s.db.rows) (hid : row.id = metadata.id)
    (h : updateRow s.db metadata.id row.revision metadata = some db) :
    db.rows = s.db.rows.map fun r => if r.id = row.id then metadata else r := by
  rw [Table.update_rows h]
  refine List.map_congr_left fun r hr => ?_
  by_cases hr' : r.id = row.id
  · obtain rfl := eq_of_id hr hrow hr'
    rw [if_pos rfl, rewrite_pos (by simp [hid])]
    rw [hid]
  · rw [if_neg hr', rewrite_neg (by simp [hid ▸ hr'])]

/-- An item whose identifier has a row. -/
theorem importExisting_booked {identity : Text} (hitem : HasEndpoint item.metadata)
    (hidentity : identity = hitem.endpoint.identity) (hrow : row ∈ s.db.rows) (hid : row.id = item.metadata.id)
    (hendpoint : HasEndpoint row) :
    Booked item s (importExisting env item identity row
      { s with seenIds := ids, seenIdentities := identities }) := by
  unfold importExisting
  cases hproxy : rowToProxy env row with
  | error e => exact reject_booked ids identities _
  | ok current =>
    obtain ⟨ref, rfl⟩ := rowToProxy_ok hproxy
    dsimp only
    rw [hendpoint.canonical]
    dsimp only
    split_ifs with hsame
    · exact skip_booked ids identities _
    · rw [ne_eq, not_not, hidentity, hendpoint.identity_eq hitem] at hsame
      split
      · exact fail_booked ids identities
      next db hupdate =>
        refine .updated row ⟨rfl, rfl, rfl, rfl⟩ rfl hrow hid hsame ?_
        have hid' : row.id = (updatedRow item row).id := hid
        exact updateRow_rows hrow hid' hupdate

theorem importUnseen_booked {identity : Text} (hrows : ∀ row ∈ s.db.rows, HasEndpoint row)
    (hitem : HasEndpoint item.metadata) (hidentity : identity = hitem.endpoint.identity) :
    Booked item s (importUnseen env item identity { s with seenIds := ids, seenIdentities := identities }) := by
  unfold importUnseen
  dsimp only
  split
  next row hfound =>
    have hmem := Table.find_mem hfound
    exact importExisting_booked _ _ hitem hidentity hmem.1 (by simpa using hmem.2) (hrows row hmem.1)
  · split
    · exact skip_booked ids identities _
    · split
      · exact fail_booked ids identities
      next db hinsert => exact .imported ⟨rfl, rfl, rfl, rfl⟩ rfl (Table.insert_rows hinsert)

/-- **Every item is booked.** -/
theorem importItem_booked (hrows : ∀ row ∈ s.db.rows, HasEndpoint row) (hitem : HasEndpoint item.metadata) :
    Booked item s (importItem env s item) := by
  unfold importItem
  cases hidentity : itemIdentity env item with
  | error e => exact reject_booked s.seenIds s.seenIdentities e
  | ok identity =>
    unfold itemIdentity at hidentity
    obtain ⟨_, -, hidentity⟩ := bind_ok.1 hidentity
    rw [operation_ok, hitem.canonical] at hidentity
    dsimp only
    split_ifs
    · exact skip_booked s.seenIds s.seenIdentities _
    · exact importUnseen_booked _ _ hrows hitem (Except.ok.inj hidentity).symm

/-- An item leaves only accepted endpoints. -/
theorem Booked.hasEndpoint (h : Booked item s s') (hrows : ∀ row ∈ s.db.rows, HasEndpoint row)
    (hitem : HasEndpoint item.metadata) : ∀ row ∈ s'.db.rows, HasEndpoint row := by
  intro row hrow
  cases h with
  | imported _ _ hdb =>
    rw [hdb, List.mem_append, List.mem_singleton] at hrow
    rcases hrow with hrow | rfl
    · exact hrows row hrow
    · exact hitem
  | updated current _ _ _ _ _ hdb =>
    rw [hdb] at hrow
    obtain ⟨old, hold, rfl⟩ := List.mem_map.1 hrow
    split_ifs
    · exact ⟨hitem.isHost, hitem.isPort⟩
    · exact hrows old hold
  | skipped _ _ _ hdb => exact hrows row (hdb ▸ hrow)
  | failed _ _ _ hdb => exact hrows row (hdb ▸ hrow)

/-! ### What the batch has seen -/

@[simp] theorem reject_seenIds (record : ℕ) (e : ProxyThrow) : (s.reject record e).seenIds = s.seenIds := by
  cases e with
  | operation e => simp only [ImportState.reject]; split_ifs <;> rfl
  | secret e => rfl

theorem importUnseen_seenIds (item : ImportItem) (identity : Text) (s : ImportState) :
    (importUnseen env item identity s).seenIds = s.seenIds := by
  unfold importUnseen
  split
  · unfold importExisting
    split
    · exact reject_seenIds _ _
    · split
      · exact reject_seenIds _ _
      · split_ifs
        · rfl
        · dsimp only
          split <;> rfl
  · split
    · rfl
    · split <;> rfl

/-- The batch never forgets an identifier, and only an unseen item writes. -/
theorem importItem_seenIds (s : ImportState) (item : ImportItem) :
    (importItem env s item).seenIds = s.seenIds ∧ (importItem env s item).db = s.db ∨
      item.metadata.id ∉ s.seenIds ∧ (importItem env s item).seenIds = item.metadata.id :: s.seenIds := by
  unfold importItem
  split
  · refine Or.inl ⟨reject_seenIds _ _, ?_⟩
    next e _ =>
    cases e with
    | operation e => simp only [ImportState.reject]; split_ifs <;> rfl
    | secret e => rfl
  · split_ifs with hseen
    · exact Or.inl ⟨rfl, rfl⟩
    · rw [not_or] at hseen
      exact Or.inr ⟨hseen.1, importUnseen_seenIds _ _ _⟩

/-! ### Runs -/

/-- The state of the loop after `n` items. -/
def importState (env : ProxyEnv) (items : List ImportItem) (db : ProxyTable) (n : ℕ) : ImportState :=
  importProxies env (items.take n) db

theorem importState_succ {n : ℕ} (h : items[n]? = some item) :
    importState env items db (n + 1) = importItem env (importState env items db n) item := by
  unfold importState importProxies
  rw [List.take_add_one, h, List.foldl_append]
  rfl

theorem importState_all (n : ℕ) (h : items.length ≤ n) : importState env items db n = importProxies env items db := by
  rw [importState, List.take_of_length_le h]

/-- The endpoints stay accepted. -/
theorem importState_endpoints (hrows : ∀ row ∈ db.rows, HasEndpoint row)
    (hmade : ∀ item ∈ items, Made env item.metadata) :
    ∀ n ≤ items.length, ∀ row ∈ (importState env items db n).db.rows, HasEndpoint row := by
  intro n
  induction n with
  | zero => intro _; exact hrows
  | succ n ih =>
    intro hn
    have hitem : items[n]? = some items[n] := List.getElem?_eq_getElem (by omega)
    have hendpoint := (hmade _ (List.mem_of_getElem? hitem)).hasEndpoint
    have hrows := ih (by omega)
    rw [importState_succ hitem]
    exact (importItem_booked hrows hendpoint).hasEndpoint hrows hendpoint

theorem updateProxy_ok {proxyId : Text} {expectedRevision : ℤ} {proxy : ProxyMetadata}
    (h : updateProxy env proxyId expectedRevision metadata db = .ok (proxy, db')) :
    updateRow db proxyId expectedRevision metadata = some db' := by
  unfold updateProxy at h
  rw [check_bind_ok] at h
  obtain ⟨-, h⟩ := h
  split at h
  · cases h
  obtain ⟨_, -, h⟩ := bind_ok.1 h
  obtain ⟨_, -, h⟩ := bind_ok.1 h
  split at h
  · cases h
  split at h
  · cases h
  next updated hupdate =>
    split at h
    · cases h
    obtain ⟨_, -, h⟩ := bind_ok.1 h
    obtain ⟨_, -, h⟩ := bind_ok.1 h
    cases pure_ok.1 h
    exact hupdate

/-- The endpoints of a reachable table are accepted. -/
theorem Reachable.hasEndpoint (h : Reachable env db) : ∀ row ∈ db.rows, HasEndpoint row := by
  induction h with
  | empty => simp
  | @create db db' metadata proxy _ hmade hcall ih =>
    unfold createProxy at hcall
    rw [check_bind_ok] at hcall
    obtain ⟨-, hcall⟩ := hcall
    split at hcall
    · cases hcall
    next inserted hinsert =>
      obtain ⟨_, -, hcall⟩ := bind_ok.1 hcall
      obtain ⟨_, -, hcall⟩ := bind_ok.1 hcall
      cases pure_ok.1 hcall
      intro row hrow
      rw [Table.insert_rows hinsert, List.mem_append, List.mem_singleton] at hrow
      rcases hrow with hrow | rfl
      · exact ih row hrow
      · exact hmade.hasEndpoint
  | @update db db' metadata proxy proxyId expectedRevision _ hmade hcall ih =>
    have hupdate := updateProxy_ok hcall
    have hmetadata := hmade.hasEndpoint
    intro row hrow
    rw [Table.update_rows hupdate] at hrow
    obtain ⟨old, hold, rfl⟩ := List.mem_map.1 hrow
    unfold rewrite
    split_ifs
    · exact ⟨hmetadata.isHost, hmetadata.isPort⟩
    · exact ih old hold
  | @importProxies db items _ hmade ih =>
    have hlast := importState_endpoints ih hmade items.length le_rfl
    rwa [importState_all _ le_rfl] at hlast

/-- What becomes of a row of the table: it stays, or one item of the batch updates it. -/
def Follows (items : List ImportItem) (row : ProxyMetadata) (s : ImportState) : Prop :=
  row ∈ s.db.rows ∨ row.id ∈ s.seenIds ∧ ∃ item ∈ items, item.metadata.id = row.id ∧
    SameEndpoint row item.metadata ∧ updatedRow item row ∈ s.db.rows

theorem Follows.step (hrows : ∀ row ∈ s.db.rows, HasEndpoint row) (hitem : item ∈ items)
    (hendpoint : HasEndpoint item.metadata) (h : Follows items row s) :
    Follows items row (importItem env s item) := by
  have hbooked : Booked item s (importItem env s item) := importItem_booked hrows hendpoint
  -- a row stays in the table unless the item has its identifier
  have hstay : ∀ r ∈ s.db.rows, r.id ≠ item.metadata.id → r ∈ (importItem env s item).db.rows := by
    intro r hr hne
    cases hbooked with
    | imported _ _ hdb => rw [hdb]; exact List.mem_append_left _ hr
    | updated current _ _ _ hid _ hdb =>
      rw [hdb]
      exact List.mem_map.2 ⟨r, hr, if_neg fun heq => hne (heq.trans hid)⟩
    | skipped _ _ _ hdb => rw [hdb]; exact hr
    | failed _ _ _ hdb => rw [hdb]; exact hr
  rcases @importItem_seenIds env s item with ⟨hseen, hdb⟩ | ⟨hunseen, hseen⟩
  · unfold Follows
    rw [hdb, hseen]
    exact h
  · rcases h with hrow | ⟨hold, other, hother, hid, hsame, hmem⟩
    · by_cases hid : row.id = item.metadata.id
      · cases hbooked with
        | imported _ _ hdb => exact Or.inl (by rw [hdb]; exact List.mem_append_left _ hrow)
        | updated current _ _ hcurrent hcid hcsame hdb =>
          obtain rfl := eq_of_id hrow hcurrent (hid.trans hcid.symm)
          refine Or.inr ⟨by rw [hseen, hid]; exact List.mem_cons_self, item, hitem, hid.symm, hcsame, ?_⟩
          rw [hdb]
          exact List.mem_map.2 ⟨row, hrow, if_pos rfl⟩
        | skipped _ _ _ hdb => exact Or.inl (by rw [hdb]; exact hrow)
        | failed _ _ _ hdb => exact Or.inl (by rw [hdb]; exact hrow)
      · exact Or.inl (hstay row hrow hid)
    · have hne : row.id ≠ item.metadata.id := fun heq => hunseen (heq ▸ hold)
      refine Or.inr ⟨by rw [hseen]; exact List.mem_cons_of_mem _ hold, other, hother, hid, hsame, hstay _ hmem ?_⟩
      show other.metadata.id ≠ item.metadata.id
      rwa [hid]

/-- **The books of a whole import.** Every item is booked, the counters and the reports account for
each of them, no two proxies share an identifier or an identity, and a proxy of before is either
unchanged or updated once. -/
theorem importProxies_books (h : Reachable env db) (hmade : ∀ item ∈ items, Made env item.metadata) :
    (∀ n item, items[n]? = some item →
      Booked item (importState env items db n) (importState env items db (n + 1))) ∧
    (importProxies env items db).imported + (importProxies env items db).updated +
      (importProxies env items db).skipped + (importProxies env items db).failed = items.length ∧
    (importProxies env items db).errors.length =
      (importProxies env items db).skipped + (importProxies env items db).failed ∧
    ((importProxies env items db).db.rows.Pairwise fun a b => a.id ≠ b.id ∧
      canonicalProxyIdentity env a.protocol a.host a.port ≠ canonicalProxyIdentity env b.protocol b.host b.port) ∧
    ∀ row ∈ db.rows, row ∈ (importProxies env items db).db.rows ∨
      ∃ item ∈ items, item.metadata.id = row.id ∧ SameEndpoint row item.metadata ∧
        updatedRow item row ∈ (importProxies env items db).db.rows := by
  have hendpoints : ∀ n ≤ items.length, ∀ row ∈ (importState env items db n).db.rows, HasEndpoint row :=
    importState_endpoints h.hasEndpoint hmade
  have hbooked : ∀ n item, items[n]? = some item →
      Booked item (importState env items db n) (importState env items db (n + 1)) := by
    intro n item hitem
    have hn : n < items.length := (List.getElem?_eq_some_iff.1 hitem).1
    rw [importState_succ hitem]
    exact importItem_booked (hendpoints n hn.le) (hmade item (List.mem_of_getElem? hitem)).hasEndpoint
  have hcounts : ∀ n ≤ items.length, (importState env items db n).imported + (importState env items db n).updated +
      (importState env items db n).skipped + (importState env items db n).failed = n ∧
      (importState env items db n).errors.length =
        (importState env items db n).skipped + (importState env items db n).failed := by
    intro n
    induction n with
    | zero => intro _; exact ⟨rfl, rfl⟩
    | succ n ih =>
      intro hn
      obtain ⟨hsum, herrors⟩ := ih (by omega)
      cases hbooked n _ (List.getElem?_eq_getElem (by omega)) with
      | imported hcount herr _ | updated _ hcount herr _ _ _ _ =>
        obtain ⟨h1, h2, h3, h4⟩ := hcount
        rw [herr]
        omega
      | skipped _ hcount herr _ | failed _ hcount herr _ =>
        obtain ⟨h1, h2, h3, h4⟩ := hcount
        rw [herr, List.length_append, List.length_singleton]
        omega
  have hfollows : ∀ row ∈ db.rows, Follows items row (importProxies env items db) := by
    intro row hrow
    have hall : ∀ n ≤ items.length, Follows items row (importState env items db n) := by
      intro n
      induction n with
      | zero => intro _; exact Or.inl hrow
      | succ n ih =>
        intro hn
        have hitem : items[n]? = some items[n] := List.getElem?_eq_getElem (by omega)
        have hmem := List.mem_of_getElem? hitem
        rw [importState_succ hitem]
        exact (ih (by omega)).step (hendpoints n (by omega)) hmem (hmade _ hmem).hasEndpoint
    have hlast := hall items.length le_rfl
    rwa [importState_all _ le_rfl] at hlast
  have hlast := hcounts items.length le_rfl
  have hlastRows := hendpoints items.length le_rfl
  rw [importState_all _ le_rfl] at hlast hlastRows
  refine ⟨hbooked, hlast.1, hlast.2, ?_, fun row hrow => (hfollows row hrow).imp_right And.right⟩
  refine (rows_apart _).imp_of_mem fun {a b} ha hb hab => ⟨hab.1, fun heq => hab.2 ?_⟩
  rw [(hlastRows a ha).canonical, (hlastRows b hb).canonical] at heq
  exact ((hlastRows a ha).identity_eq (hlastRows b hb)).1 (Except.ok.inj heq)

/-- Two items with one endpoint: the second one is skipped. -/
def repeatedEndpoint : List ImportItem := [⟨1, Sample.record "a" "a.b" 80⟩, ⟨2, Sample.record "b" "a.b" 80⟩]

theorem repeatedEndpoint_made : ∀ item ∈ repeatedEndpoint, Made Sample.env item.metadata := by
  intro item hitem
  simp only [repeatedEndpoint, List.mem_cons, List.not_mem_nil, or_false] at hitem
  rcases hitem with rfl | rfl
  · exact ⟨_, _, _, _, _, Sample.record_made, rfl⟩
  · exact ⟨_, _, _, _, _, Sample.record_made', rfl⟩

theorem repeatedEndpoint_books :
    (importProxies Sample.env repeatedEndpoint (.empty proxies)).imported +
      (importProxies Sample.env repeatedEndpoint (.empty proxies)).updated +
      (importProxies Sample.env repeatedEndpoint (.empty proxies)).skipped +
      (importProxies Sample.env repeatedEndpoint (.empty proxies)).failed = 2 :=
  (importProxies_books .empty repeatedEndpoint_made).2.1

end OfflineWebArchiver.ProxyManager
