import Mathlib.Data.List.Flatten
import OfflineWebArchiver.Vault.Document

/-!
# Mutations of the vault

What the operations of the store make of the document that they have read.

* `Mutation.apply`: the function that an operation passes to `mutateRecords`.
* `rotateDocument`: the document that `rotateVaultProtection` writes.
* `apply_decrypts`: the records of the new document decrypt, provided that the operation
  encrypts with the key of the vault.
* `apply_good`: the new document is good, provided that it keeps the limits of the reader
  (`Mutation.Fits`).
-/

namespace OfflineWebArchiver

/-- The options of a store. -/
structure StoreOptions where
  projectId : JsString
  backend : SecretBackend
  testMode : Bool
  uuid : isUuid projectId = true
  lower : toLowerCase projectId = projectId

/-- What `randomUUID()` returns. -/
structure Uuid where
  text : JsString
  uuid : isUuid text = true
  lower : toLowerCase text = text
deriving DecidableEq

/-- What `now()` returns. -/
abbrev Now := { t : Timestamp // isTimestamp t = true }

/-- An operation on the records, with what it has validated. -/
inductive Mutation
  | createSecret (metadata : SecretMetadata) (value : Bytes)
  | replaceSecret (ref : JsString) (value : Bytes) (displayLabel : Option (Option JsString))
  | deleteSecret (ref : JsString)
  | rotateSecret (ref : JsString)
  | importSecrets (items : List (SecretMetadata × Bytes))
deriving DecidableEq

def recordFromDisk (o : StoreOptions) (disk : VaultDisk) (ref : JsString) :
    Except SecretError (VaultRecord × SecretMetadata) := do
  let parsed ← parseSecretRef ref
  if parsed.projectId ≠ o.projectId then throw .referenceProjectMismatch
  else
    match disk.records.find? (fun r => r.secretId == parsed.secretId) with
    | none => throw .notFound
    | some record => do
      let metadata ← metadataFromDisk record.metadata o.projectId o.backend (some o.backend)
      pure (record, metadata)

/-- `{ ...disk, updatedAt, generation: disk.generation + 1, records }`. -/
def VaultDisk.next (disk : VaultDisk) (now : Now) (records : List VaultRecord) : VaultDisk :=
  { disk with updatedAt := now.1, generation := disk.generation + 1, records := records }

def replaceRecord (secretId : JsString) (record : VaultRecord) (records : List VaultRecord) :
    List VaultRecord :=
  records.map fun candidate => if candidate.secretId = secretId then record else candidate

/-- `encryptRecord` for every item; each draws three numbers. -/
def encryptRecords (masterKey : Key) : ℕ → List (SecretMetadata × Bytes) →
    Except SecretError (List VaultRecord)
  | _, [] => pure []
  | seed, (metadata, value) :: rest => do
    let record ← encryptRecord metadata value masterKey seed
    let records ← encryptRecords masterKey (seed + 3) rest
    pure (record :: records)

/-- The new document. -/
def Mutation.apply (o : StoreOptions) (disk : VaultDisk) (masterKey : Key) (seed : ℕ) (now : Now) :
    Mutation → Except SecretError VaultDisk
  | .createSecret metadata value =>
    if disk.records.any (fun r => r.secretId == metadata.secretId) then throw .alreadyExists
    else do
      let record ← encryptRecord metadata value masterKey seed
      pure (disk.next now (disk.records ++ [record]))
  | .replaceSecret ref value displayLabel => do
    let (_, existing) ← recordFromDisk o disk ref
    if existing.lifecycleState = .deleted then throw .notFound
    else do
      let metadata := { existing with
        updatedAt := now.1
        version := existing.version + 1
        displayLabel := displayLabel.getD existing.displayLabel }
      let record ← encryptRecord metadata value masterKey seed
      pure (disk.next now (replaceRecord existing.secretId record disk.records))
  | .deleteSecret ref => do
    let (_, existing) ← recordFromDisk o disk ref
    if existing.lifecycleState = .deleted then throw .notFound
    else pure (disk.next now (disk.records.filter fun r => decide (r.secretId ≠ existing.secretId)))
  | .rotateSecret ref => do
    let (record, existing) ← recordFromDisk o disk ref
    let value ← decryptRecord record existing masterKey
    let metadata := { existing with
      updatedAt := now.1
      lastRotatedAt := some now.1
      version := existing.version + 1 }
    let record ← encryptRecord metadata value masterKey seed
    pure (disk.next now (replaceRecord existing.secretId record disk.records))
  | .importSecrets items => do
    let records ← encryptRecords masterKey seed items
    pure (disk.next now (disk.records ++ records))

/-- How many numbers a mutation draws at most. -/
def Mutation.draws : Mutation → ℕ
  | .importSecrets items => 3 * items.length
  | _ => 3

/-- The mutation encrypts without having decrypted with the same key. -/
def Mutation.encrypts : Mutation → Bool
  | .createSecret _ _ | .replaceSecret _ _ _ => true
  | .importSecrets items => !items.isEmpty
  | .deleteSecret _ | .rotateSecret _ => false

/-- The mutation passes the checks that it makes on the document. -/
def Mutation.proceeds (o : StoreOptions) (disk : VaultDisk) (masterKey : Key) : Mutation → Bool
  | .createSecret metadata _ => !disk.records.any fun r => r.secretId == metadata.secretId
  | .replaceSecret ref _ _ | .deleteSecret ref =>
    match recordFromDisk o disk ref with
    | .ok (_, existing) => decide (existing.lifecycleState ≠ .deleted)
    | .error _ => false
  | .rotateSecret ref =>
    match recordFromDisk o disk ref with
    | .ok (record, existing) => (decryptRecord record existing masterKey).isOk
    | .error _ => false
  | .importSecrets _ => true

/-- `decryptRecord` for every record, in `rotateVaultProtection`. -/
def decryptRecords (o : StoreOptions) (masterKey : Key) :
    List VaultRecord → Except SecretError (List (SecretMetadata × Bytes))
  | [] => pure []
  | raw :: rest => do
    let metadata ← metadataFromDisk raw.metadata o.projectId o.backend (some o.backend)
    let value ← decryptRecord raw metadata masterKey
    let items ← decryptRecords o masterKey rest
    pure ((metadata, value) :: items)

/-- The document of `rotateVaultProtection`: a new master key, drawn as `seed`, wrapped under
the new passphrase, and every record encrypted again. -/
def rotateDocument (o : StoreOptions) (disk : VaultDisk) (oldMaster : Key) (passphrase : Bytes)
    (vaultId : Uuid) (seed : ℕ) (now : Now) : Except SecretError VaultDisk := do
  let items ← decryptRecords o oldMaster disk.records
  let kdf := if o.testMode then testKdf (seed + 1) else productionKdf (seed + 1)
  validatePassphrase passphrase
  let records ← encryptRecords (.random seed) (seed + 3) items
  pure {
    vaultId := vaultId.text
    projectId := o.projectId
    createdAt := disk.createdAt
    updatedAt := now.1
    generation := disk.generation + 1
    kdf := kdf
    keyWrap := encryptAead (.random seed) (.derived passphrase kdf) ⟨vaultId.text, o.projectId, kdf⟩
      (seed + 2)
    records := records }

variable {o : StoreOptions} {disk disk' : VaultDisk} {key : Key} {seed : ℕ} {now : Now} {m : Mutation}
  {r record : VaultRecord} {rs : List VaultRecord} {items : List (SecretMetadata × Bytes)}
  {ref : JsString} {metadata : SecretMetadata} {value : Bytes}

/-! ### What the parts return -/

theorem recordFromDisk_ok (h : recordFromDisk o disk ref = .ok (r, metadata)) :
    (r ∈ disk.records ∧ ∃ parsed, parseSecretRef ref = .ok parsed ∧ r.secretId = parsed.secretId) ∧
      metadataFromDisk r.metadata o.projectId o.backend (some o.backend) = .ok metadata := by
  unfold recordFromDisk at h
  obtain ⟨parsed, hparsed, h⟩ := Checks.bind_ok.1 h
  obtain ⟨-, h⟩ := Checks.guard_ok.1 h
  split at h
  · cases h
  next record hfind =>
  obtain ⟨md, hmd, h⟩ := Checks.bind_ok.1 h
  obtain ⟨rfl, rfl⟩ := Prod.mk.inj (Checks.pure_ok.1 h)
  have hid := List.find?_some hfind
  exact ⟨⟨List.mem_of_find?_eq_some hfind, parsed, hparsed, by simpa using hid⟩, hmd⟩

theorem mem_replaceRecord {id : JsString} (h : r ∈ replaceRecord id record rs) : r = record ∨ r ∈ rs := by
  obtain ⟨candidate, hc, rfl⟩ := List.mem_map.1 h
  split_ifs
  · exact Or.inl rfl
  · exact Or.inr hc

/-- An encrypted record decrypts. -/
theorem encryptRecord_decrypts (h : encryptRecord metadata value key seed = .ok r) :
    r.metadata = metadata ∧ decryptRecord r r.metadata key = .ok value := by
  obtain ⟨⟨hne, hle⟩, rfl⟩ := encryptRecord_ok.1 h
  exact ⟨rfl, decryptRecord_ok.2 ⟨rfl, rfl, rfl, rfl, rfl, hne, hle⟩⟩

theorem encryptRecords_decrypts (h : encryptRecords key seed items = .ok rs) : DecryptsWith key rs := by
  induction items generalizing seed rs with
  | nil =>
    obtain rfl := Checks.pure_ok.1 h
    exact fun r hr => absurd hr List.not_mem_nil
  | cons item items ih =>
    obtain ⟨md, v⟩ := item
    obtain ⟨r, hr, h⟩ := Checks.bind_ok.1 h
    obtain ⟨rest, hrest, h⟩ := Checks.bind_ok.1 h
    obtain rfl := Checks.pure_ok.1 h
    intro r' hr'
    rcases List.mem_cons.1 hr' with rfl | hr'
    · exact ⟨v, (encryptRecord_decrypts hr).2⟩
    · exact ih hrest r' hr'

/-- The key that opens a record of the vault is the key of the vault. -/
theorem key_of_decrypts {master : Key} (hd : DecryptsWith master disk.records) (hr : r ∈ disk.records)
    (h : decryptRecord r metadata key = .ok value) : key = master := by
  obtain ⟨v, hv⟩ := hd r hr
  exact (decryptRecord_ok.1 h).1.symm.trans (decryptRecord_ok.1 hv).1

/-- A mutation that makes a document has passed its checks. -/
theorem apply_proceeds (h : m.apply o disk key seed now = .ok disk') :
    m.proceeds o disk key = true := by
  cases m with
  | createSecret metadata value =>
    obtain ⟨hnew, -⟩ := Checks.guard_ok.1 h
    simpa [Mutation.proceeds] using hnew
  | replaceSecret ref value displayLabel =>
    obtain ⟨⟨r₀, existing⟩, hfound, h⟩ := Checks.bind_ok.1 h
    obtain ⟨hactive, -⟩ := Checks.guard_ok.1 h
    simpa [Mutation.proceeds, hfound] using hactive
  | deleteSecret ref =>
    obtain ⟨⟨r₀, existing⟩, hfound, h⟩ := Checks.bind_ok.1 h
    obtain ⟨hactive, -⟩ := Checks.guard_ok.1 h
    simpa [Mutation.proceeds, hfound] using hactive
  | rotateSecret ref =>
    obtain ⟨⟨r₀, existing⟩, hfound, h⟩ := Checks.bind_ok.1 h
    obtain ⟨value, hvalue, -⟩ := Checks.bind_ok.1 h
    simp only [Mutation.proceeds, hfound, hvalue, Except.isOk, Except.toBool]
  | importSecrets items => rfl

/-- **The new document decrypts** if the old one does and the mutation encrypts with the
key of the vault. -/
theorem apply_decrypts (hd : DecryptsWith disk.masterKey disk.records)
    (hkey : m.encrypts = true → key = disk.masterKey)
    (h : m.apply o disk key seed now = .ok disk') :
    disk'.masterKey = disk.masterKey ∧ DecryptsWith disk'.masterKey disk'.records := by
  cases m with
  | createSecret metadata value =>
    obtain ⟨-, h⟩ := Checks.guard_ok.1 h
    obtain ⟨record, hrec, h⟩ := Checks.bind_ok.1 h
    obtain rfl := Checks.pure_ok.1 h
    obtain rfl := hkey rfl
    refine ⟨rfl, fun r hr => ?_⟩
    rcases List.mem_append.1 hr with hr | hr
    · exact hd r hr
    · obtain rfl := List.mem_singleton.1 hr
      exact ⟨value, (encryptRecord_decrypts hrec).2⟩
  | replaceSecret ref value displayLabel =>
    obtain ⟨⟨r₀, existing⟩, -, h⟩ := Checks.bind_ok.1 h
    obtain ⟨-, h⟩ := Checks.guard_ok.1 h
    obtain ⟨record, hrec, h⟩ := Checks.bind_ok.1 h
    obtain rfl := Checks.pure_ok.1 h
    obtain rfl := hkey rfl
    refine ⟨rfl, fun r hr => ?_⟩
    rcases mem_replaceRecord hr with rfl | hr
    · exact ⟨value, (encryptRecord_decrypts hrec).2⟩
    · exact hd r hr
  | deleteSecret ref =>
    obtain ⟨⟨r₀, existing⟩, -, h⟩ := Checks.bind_ok.1 h
    obtain ⟨-, h⟩ := Checks.guard_ok.1 h
    obtain rfl := Checks.pure_ok.1 h
    exact ⟨rfl, fun r hr => hd r (List.mem_filter.1 hr).1⟩
  | rotateSecret ref =>
    obtain ⟨⟨r₀, existing⟩, hfound, h⟩ := Checks.bind_ok.1 h
    obtain ⟨value, hvalue, h⟩ := Checks.bind_ok.1 h
    obtain ⟨record, hrec, h⟩ := Checks.bind_ok.1 h
    obtain rfl := Checks.pure_ok.1 h
    -- the key has just opened the old record
    obtain rfl := key_of_decrypts hd (recordFromDisk_ok hfound).1.1 hvalue
    refine ⟨rfl, fun r hr => ?_⟩
    rcases mem_replaceRecord hr with rfl | hr
    · exact ⟨value, (encryptRecord_decrypts hrec).2⟩
    · exact hd r hr
  | importSecrets items =>
    obtain ⟨records, hrecs, h⟩ := Checks.bind_ok.1 h
    obtain rfl := Checks.pure_ok.1 h
    refine ⟨rfl, fun r hr => ?_⟩
    rcases List.mem_append.1 hr with hr | hr
    · exact hd r hr
    · cases items with
      | nil =>
        obtain rfl := Checks.pure_ok.1 hrecs
        cases hr
      | cons item items =>
        obtain rfl := hkey rfl
        exact encryptRecords_decrypts hrecs r hr

/-- The document of a rotation decrypts with its own new key. -/
theorem rotateDocument_decrypts {passphrase : Bytes} {vaultId : Uuid}
    (h : rotateDocument o disk key passphrase vaultId seed now = .ok disk') :
    DecryptsWith disk'.masterKey disk'.records := by
  unfold rotateDocument at h
  obtain ⟨items, -, h⟩ := Checks.bind_ok.1 h
  obtain ⟨_, -, h⟩ := Checks.bind_ok.1 h
  obtain ⟨records, hrecs, h⟩ := Checks.bind_ok.1 h
  obtain rfl := Checks.pure_ok.1 h
  exact encryptRecords_decrypts hrecs

/-! ### The limits of the reader -/

/-- What an operation has checked before it reads the document. -/
def Mutation.Ready (o : StoreOptions) : Mutation → Prop
  | .createSecret metadata _ => metadata.Valid o.projectId o.backend
  | .replaceSecret _ _ displayLabel => ∀ label ∈ displayLabel, assertValidSecretLabel label = .ok ()
  | .deleteSecret _ | .rotateSecret _ => True
  | .importSecrets items =>
    (∀ item ∈ items, item.1.Valid o.projectId o.backend) ∧ (items.map (·.1.secretId)).Nodup

/-- The versions of the secret that a reference names leave room for one more. -/
def VersionFits (disk : VaultDisk) (ref : JsString) : Prop :=
  match parseSecretRef ref with
  | .ok parsed => ∀ r ∈ disk.records, r.secretId = parsed.secretId → r.metadata.version < 1000000
  | .error _ => True

/-- **The new document keeps the limits of the reader**: the generation, the number of
records, their versions, and no identifier twice. -/
def Mutation.Fits (disk : VaultDisk) (m : Mutation) : Prop :=
  disk.generation < maxSafeInteger ∧
    match m with
    | .createSecret _ _ => disk.records.length < maxVaultRecords
    | .replaceSecret ref _ _ | .rotateSecret ref => VersionFits disk ref
    | .deleteSecret _ => True
    | .importSecrets items =>
      disk.records.length + items.length ≤ maxVaultRecords ∧
        ∀ item ∈ items, item.1.secretId ∉ disk.records.map VaultRecord.secretId

instance : Decidable (VersionFits disk ref) := by
  unfold VersionFits
  split <;> infer_instance

instance : Decidable (m.Fits disk) := by
  unfold Mutation.Fits
  cases m <;> infer_instance

/-- The fields of a document with other records that the reader checks again. -/
theorem VaultDisk.Good.next (h : disk.Good o.projectId o.backend)
    (hgeneration : disk.generation < maxSafeInteger) (hcount : rs.length ≤ maxVaultRecords)
    (hvalid : ∀ r ∈ rs, r.metadata.Valid o.projectId o.backend ∧
      r.envelope.plaintext.length ≤ maxSecretBytes)
    (hids : (rs.map VaultRecord.secretId).Nodup)
    (hnonces : (disk.keyWrap.nonce :: rs.flatMap VaultRecord.nonces).Nodup)
    (hdecrypts : DecryptsWith disk.masterKey rs) :
    (disk.next now rs).Good o.projectId o.backend := by
  obtain ⟨hheader, hkdf, -, hid, hp, -, -, -⟩ := decodeVault_ok.1 h.readable
  refine ⟨decodeVault_ok.2 ⟨?_, hkdf, hcount, hid, hp, hvalid, hids, hnonces⟩, h.unlocks, hdecrypts⟩
  simp only [VaultDisk.headerOk, Bool.and_eq_true, decide_eq_true_eq] at hheader ⊢
  obtain ⟨⟨⟨⟨h1, h2⟩, h3⟩, -⟩, -⟩ := hheader
  exact ⟨⟨⟨⟨h1, h2⟩, h3⟩, now.2⟩, hgeneration⟩

/-- What a good document says of its records. -/
theorem VaultDisk.Good.valid (h : disk.Good o.projectId o.backend) :
    (∀ r ∈ disk.records, r.metadata.Valid o.projectId o.backend ∧
      r.envelope.plaintext.length ≤ maxSecretBytes) ∧
      (disk.records.map VaultRecord.secretId).Nodup ∧ disk.nonces.Nodup := by
  obtain ⟨-, -, -, -, -, hvalid, hids, hnonces⟩ := decodeVault_ok.1 h.readable
  exact ⟨hvalid, hids, hnonces⟩

theorem VaultDisk.Good.count (h : disk.Good o.projectId o.backend) :
    disk.records.length ≤ maxVaultRecords :=
  (decodeVault_ok.1 h.readable).2.2.1

/-- The record that a reference names, in a good document. -/
theorem VaultDisk.Good.found (h : disk.Good o.projectId o.backend)
    (hfound : recordFromDisk o disk ref = .ok (r, metadata)) : r ∈ disk.records ∧ metadata = r.metadata := by
  obtain ⟨⟨hr, -⟩, hmd⟩ := recordFromDisk_ok hfound
  exact ⟨hr, Except.ok.inj (hmd.symm.trans (h.valid.1 r hr).1)⟩

theorem version_of_fits (hfits : VersionFits disk ref)
    (hfound : recordFromDisk o disk ref = .ok (r, metadata)) : r.metadata.version < 1000000 := by
  obtain ⟨⟨hr, parsed, hparsed, hid⟩, -⟩ := recordFromDisk_ok hfound
  rw [VersionFits, hparsed] at hfits
  exact hfits r hr hid

/-! ### Fresh nonces -/

/-- What `encryptRecords` draws. -/
theorem encryptRecords_spec (h : encryptRecords key seed items = .ok rs) :
    rs.map VaultRecord.metadata = items.map (·.1) ∧
      (∀ r ∈ rs, r.envelope.plaintext.length ≤ maxSecretBytes) ∧
      (rs.flatMap VaultRecord.nonces).Nodup ∧
      ∀ n ∈ rs.flatMap VaultRecord.nonces, seed ≤ n ∧ n < seed + 3 * items.length := by
  induction items generalizing seed rs with
  | nil =>
    obtain rfl := Checks.pure_ok.1 h
    simp
  | cons item items ih =>
    obtain ⟨md, v⟩ := item
    obtain ⟨r, hr, h⟩ := Checks.bind_ok.1 h
    obtain ⟨rest, hrest, h⟩ := Checks.bind_ok.1 h
    obtain rfl := Checks.pure_ok.1 h
    obtain ⟨hmd, hsize, hnodup, hrange⟩ := ih hrest
    obtain ⟨⟨-, hle⟩, rfl⟩ := encryptRecord_ok.1 hr
    refine ⟨by rw [List.map_cons, List.map_cons, hmd], ?_, ?_, ?_⟩
    · intro r hr
      rcases List.mem_cons.1 hr with rfl | hr
      · exact hle
      · exact hsize r hr
    · have hfar : ∀ k ≤ 2, seed + k ∉ rest.flatMap VaultRecord.nonces := by
        intro k hk hmem
        have := (hrange _ hmem).1
        omega
      change ((seed + 1) :: (seed + 2) :: rest.flatMap VaultRecord.nonces).Nodup
      refine List.nodup_cons.2 ⟨?_, List.nodup_cons.2 ⟨hfar 2 (by omega), hnodup⟩⟩
      rw [List.mem_cons, not_or]
      exact ⟨by omega, hfar 1 (by omega)⟩
    · intro n hn
      rw [List.flatMap_cons, List.mem_append] at hn
      rw [List.length_cons]
      rcases hn with hn | hn
      · simp only [VaultRecord.nonces, List.mem_cons, List.not_mem_nil, or_false] at hn
        omega
      · have := hrange n hn
        omega

/-- Records with new nonces beside the old ones. -/
theorem nonces_append {new : List VaultRecord} {n : ℕ}
    (hold : (n :: rs.flatMap VaultRecord.nonces).Nodup)
    (hseed : ∀ k ∈ n :: rs.flatMap VaultRecord.nonces, k < seed)
    (hnew : (new.flatMap VaultRecord.nonces).Nodup)
    (hfresh : ∀ k ∈ new.flatMap VaultRecord.nonces, seed ≤ k) :
    (n :: (rs ++ new).flatMap VaultRecord.nonces).Nodup := by
  rw [List.flatMap_append, ← List.cons_append]
  refine List.nodup_append.2 ⟨hold, hnew, fun a ha b hb => ?_⟩
  have hlow := hseed a ha
  have hhigh := hfresh b hb
  omega

theorem replaceRecord_of_not_mem {id : JsString} (h : id ∉ rs.map VaultRecord.secretId) :
    replaceRecord id record rs = rs := by
  refine (List.map_congr_left fun r hr => ?_).trans (List.map_id rs)
  exact if_neg fun he => h (List.mem_map.2 ⟨r, hr, he⟩)

/-- A replaced record keeps the identifiers. -/
theorem replaceRecord_ids {id : JsString} (hid : record.secretId = id) :
    (replaceRecord id record rs).map VaultRecord.secretId = rs.map VaultRecord.secretId := by
  rw [replaceRecord, List.map_map]
  refine List.map_congr_left fun r _ => ?_
  by_cases h : r.secretId = id
  · simp [h, hid]
  · simp [h]

/-- A replaced record puts its nonces in the place of the old ones. -/
theorem replaceRecord_nonces {id : JsString} (hids : (rs.map VaultRecord.secretId).Nodup)
    (hold : (rs.flatMap VaultRecord.nonces).Nodup) (hnew : record.nonces.Nodup)
    (hfresh : ∀ n ∈ record.nonces, n ∉ rs.flatMap VaultRecord.nonces) :
    ((replaceRecord id record rs).flatMap VaultRecord.nonces).Nodup := by
  induction rs with
  | nil => exact List.nodup_nil
  | cons r rs ih =>
    rw [List.map_cons, List.nodup_cons] at hids
    rw [List.flatMap_cons, List.nodup_append] at hold
    obtain ⟨hr, hrs, hapart⟩ := hold
    have hfresh' : ∀ n ∈ record.nonces, n ∉ r.nonces ∧ n ∉ rs.flatMap VaultRecord.nonces := by
      intro n hn
      have := hfresh n hn
      rwa [List.flatMap_cons, List.mem_append, not_or] at this
    by_cases hid : r.secretId = id
    · have hsame : replaceRecord id record (r :: rs) = record :: rs := by
        rw [replaceRecord, List.map_cons, if_pos hid]
        exact congrArg (record :: ·) (replaceRecord_of_not_mem (hid ▸ hids.1))
      rw [hsame, List.flatMap_cons]
      refine List.nodup_append.2 ⟨hnew, hrs, fun a ha b hb he => ?_⟩
      exact (hfresh' a ha).2 (he ▸ hb)
    · have hcons : replaceRecord id record (r :: rs) = r :: replaceRecord id record rs := by
        rw [replaceRecord, List.map_cons, if_neg hid]; rfl
      rw [hcons, List.flatMap_cons]
      refine List.nodup_append.2 ⟨hr, ih hids.2 hrs fun n hn => (hfresh' n hn).2, fun a ha b hb he => ?_⟩
      obtain ⟨r', hr', hb'⟩ := List.mem_flatMap.1 hb
      rcases mem_replaceRecord hr' with hrec | hr'
      · exact (hfresh' b (hrec ▸ hb')).1 (he ▸ ha)
      · exact hapart a ha b (List.mem_flatMap.2 ⟨r', hr', hb'⟩) he

/-- A record that replaces one of a good document. -/
theorem VaultDisk.Good.replace (h : disk.Good o.projectId o.backend)
    (hseed : ∀ n ∈ disk.nonces, n < seed) (hgeneration : disk.generation < maxSafeInteger)
    (hrec : encryptRecord metadata value disk.masterKey seed = .ok record)
    (hvalid : metadata.Valid o.projectId o.backend) {id : JsString} (hid : metadata.secretId = id) :
    (disk.next now (replaceRecord id record disk.records)).Good o.projectId o.backend ∧
      ∀ n ∈ (disk.next now (replaceRecord id record disk.records)).nonces, n < seed + 3 := by
  obtain ⟨hall, hids, hnonces⟩ := h.valid
  obtain ⟨hmd, hdec⟩ := encryptRecord_decrypts hrec
  obtain ⟨⟨hne, hle⟩, hform⟩ := encryptRecord_ok.1 hrec
  have hid : record.secretId = id := by rw [VaultRecord.secretId, hmd, hid]
  have hown : record.nonces = [seed + 1, seed + 2] := by rw [hform]; rfl
  have hmem : ∀ n ∈ (replaceRecord id record disk.records).flatMap VaultRecord.nonces,
      n ∈ record.nonces ∨ n ∈ disk.records.flatMap VaultRecord.nonces := by
    intro n hn
    obtain ⟨r, hr, hn'⟩ := List.mem_flatMap.1 hn
    rcases mem_replaceRecord hr with hrec | hr
    · exact Or.inl (hrec ▸ hn')
    · exact Or.inr (List.mem_flatMap.2 ⟨r, hr, hn'⟩)
  have hnew : ∀ n ∈ record.nonces, seed < n ∧ n < seed + 3 := by
    intro n hn
    rw [hown] at hn
    simp only [List.mem_cons, List.not_mem_nil, or_false] at hn
    omega
  refine ⟨h.next hgeneration ?_ ?_ ?_ ?_ ?_, ?_⟩
  · rw [replaceRecord, List.length_map]; exact h.count
  · intro r hr
    rcases mem_replaceRecord hr with rfl | hr
    · exact ⟨hmd ▸ hvalid, by rw [hform]; exact hle⟩
    · exact hall r hr
  · rw [replaceRecord_ids hid]; exact hids
  · refine List.nodup_cons.2 ⟨fun hn => ?_, ?_⟩
    · rcases hmem _ hn with hn | hn
      · have := (hnew _ hn).1
        have := hseed _ List.mem_cons_self
        omega
      · exact (List.nodup_cons.1 hnonces).1 hn
    · refine replaceRecord_nonces hids (List.nodup_cons.1 hnonces).2 (by rw [hown]; simp) ?_
      intro n hn hold
      have := (hnew n hn).1
      have := hseed n (List.mem_cons_of_mem _ hold)
      omega
  · intro r hr
    rcases mem_replaceRecord hr with rfl | hr
    · exact ⟨value, hdec⟩
    · exact h.decrypts r hr
  · intro n hn
    rcases List.mem_cons.1 hn with rfl | hn
    · have := hseed _ List.mem_cons_self
      change disk.keyWrap.nonce < seed + 3
      omega
    · rcases hmem n hn with hn | hn
      · exact (hnew n hn).2
      · have := hseed n (List.mem_cons_of_mem _ hn)
        omega

/-- Records behind those of a good document. -/
theorem VaultDisk.Good.append (h : disk.Good o.projectId o.backend)
    (hseed : ∀ n ∈ disk.nonces, n < seed) (hgeneration : disk.generation < maxSafeInteger)
    (hrecs : encryptRecords disk.masterKey seed items = .ok rs)
    (hvalid : ∀ item ∈ items, item.1.Valid o.projectId o.backend)
    (hids : (items.map (·.1.secretId)).Nodup)
    (hcount : disk.records.length + items.length ≤ maxVaultRecords)
    (hnew : ∀ item ∈ items, item.1.secretId ∉ disk.records.map VaultRecord.secretId) :
    (disk.next now (disk.records ++ rs)).Good o.projectId o.backend ∧
      ∀ n ∈ (disk.next now (disk.records ++ rs)).nonces, n < seed + 3 * items.length := by
  obtain ⟨hall, holdIds, hnonces⟩ := h.valid
  obtain ⟨hmd, hsize, hnodup, hrange⟩ := encryptRecords_spec hrecs
  have hlen : rs.length = items.length := by
    rw [← List.length_map (f := VaultRecord.metadata), hmd, List.length_map]
  have hids' : rs.map VaultRecord.secretId = items.map (·.1.secretId) := by
    have := congrArg (List.map SecretMetadata.secretId) hmd
    rwa [List.map_map, List.map_map] at this
  refine ⟨h.next hgeneration ?_ ?_ ?_ ?_ ?_, ?_⟩
  · rw [List.length_append, hlen]; exact hcount
  · intro r hr
    rcases List.mem_append.1 hr with hr | hr
    · exact hall r hr
    · refine ⟨?_, hsize r hr⟩
      have hmem : r.metadata ∈ items.map (·.1) := hmd ▸ List.mem_map_of_mem hr
      obtain ⟨item, hitem, heq⟩ := List.mem_map.1 hmem
      rw [← heq]
      exact hvalid item hitem
  · rw [List.map_append, hids']
    refine List.nodup_append.2 ⟨holdIds, hids, fun a ha b hb he => ?_⟩
    obtain ⟨item, hitem, rfl⟩ := List.mem_map.1 hb
    exact hnew item hitem (he ▸ ha)
  · exact nonces_append hnonces hseed hnodup fun n hn => (hrange n hn).1
  · intro r hr
    rcases List.mem_append.1 hr with hr | hr
    · exact h.decrypts r hr
    · exact encryptRecords_decrypts hrecs r hr
  · intro n hn
    rcases List.mem_cons.1 hn with rfl | hn
    · have := hseed _ List.mem_cons_self
      change disk.keyWrap.nonce < _
      omega
    · have hn : n ∈ (disk.records ++ rs).flatMap VaultRecord.nonces := hn
      rw [List.flatMap_append, List.mem_append] at hn
      rcases hn with hn | hn
      · have := hseed n (List.mem_cons_of_mem _ hn)
        omega
      · exact (hrange n hn).2

/-- **The new document is good**, if the mutation keeps the limits of the reader and encrypts
with the key of the vault. -/
theorem apply_good (h : disk.Good o.projectId o.backend) (hseed : ∀ n ∈ disk.nonces, n < seed)
    (hready : m.Ready o) (hfits : m.Fits disk)
    (hkey : m.encrypts = true → key = disk.masterKey)
    (happly : m.apply o disk key seed now = .ok disk') :
    disk'.Good o.projectId o.backend ∧ ∀ n ∈ disk'.nonces, n < seed + m.draws := by
  obtain ⟨hgeneration, hfits⟩ := hfits
  cases m with
  | createSecret metadata value =>
    obtain ⟨hnew, happly⟩ := Checks.guard_ok.1 happly
    obtain ⟨record, hrec, happly⟩ := Checks.bind_ok.1 happly
    obtain rfl := Checks.pure_ok.1 happly
    obtain rfl := hkey rfl
    have hone : encryptRecords disk.masterKey seed [(metadata, value)] = .ok [record] := by
      rw [encryptRecords, hrec]; rfl
    refine h.append hseed hgeneration hone ?_ (by simp) hfits ?_
    · rintro item hitem
      obtain rfl := List.mem_singleton.1 hitem
      exact hready
    · rintro item hitem hmem
      obtain rfl := List.mem_singleton.1 hitem
      obtain ⟨r, hr, hid⟩ := List.mem_map.1 hmem
      exact hnew (List.any_eq_true.2 ⟨r, hr, by simpa using hid⟩)
  | replaceSecret ref value displayLabel =>
    obtain ⟨⟨r₀, existing⟩, hfound, happly⟩ := Checks.bind_ok.1 happly
    obtain ⟨-, happly⟩ := Checks.guard_ok.1 happly
    obtain ⟨record, hrec, happly⟩ := Checks.bind_ok.1 happly
    obtain rfl := Checks.pure_ok.1 happly
    obtain rfl := hkey rfl
    obtain ⟨hr, rfl⟩ := h.found hfound
    have hvalid := (h.valid.1 r₀ hr).1
    obtain ⟨-, hrotated, hlow, -, hlabel, hslot⟩ := hvalid.checks
    refine h.replace hseed hgeneration hrec
      (hvalid.update now.2 hrotated ⟨by omega, ?_⟩ ?_ hslot) rfl
    · exact version_of_fits hfits hfound
    · cases displayLabel with
      | none => exact hlabel
      | some label => exact hready label rfl
  | deleteSecret ref =>
    obtain ⟨⟨r₀, existing⟩, -, happly⟩ := Checks.bind_ok.1 happly
    obtain ⟨-, happly⟩ := Checks.guard_ok.1 happly
    obtain rfl := Checks.pure_ok.1 happly
    obtain ⟨hall, hids, hnonces⟩ := h.valid
    have hsub : (disk.records.filter fun r => decide (r.secretId ≠ existing.secretId)).Sublist
        disk.records := List.filter_sublist
    have hns : (disk.keyWrap.nonce :: (disk.records.filter fun r =>
        decide (r.secretId ≠ existing.secretId)).flatMap VaultRecord.nonces).Sublist disk.nonces :=
      (hsub.flatMap VaultRecord.nonces).cons_cons _
    refine ⟨h.next hgeneration (hsub.length_le.trans h.count) (fun r hr => hall r (hsub.subset hr))
      (hids.sublist (hsub.map _)) (hnonces.sublist hns) (fun r hr => h.decrypts r (hsub.subset hr)), ?_⟩
    intro n hn
    have := hseed n (hns.subset hn)
    omega
  | rotateSecret ref =>
    obtain ⟨⟨r₀, existing⟩, hfound, happly⟩ := Checks.bind_ok.1 happly
    obtain ⟨value, hvalue, happly⟩ := Checks.bind_ok.1 happly
    obtain ⟨record, hrec, happly⟩ := Checks.bind_ok.1 happly
    obtain rfl := Checks.pure_ok.1 happly
    obtain ⟨hr, rfl⟩ := h.found hfound
    obtain rfl := key_of_decrypts h.decrypts hr hvalue
    have hvalid := (h.valid.1 r₀ hr).1
    obtain ⟨-, -, hlow, -, hlabel, hslot⟩ := hvalid.checks
    have hnow : (some now.1).all isTimestamp = true := now.2
    exact h.replace hseed hgeneration hrec
      (hvalid.update now.2 hnow ⟨by omega, version_of_fits hfits hfound⟩ hlabel hslot) rfl
  | importSecrets items =>
    obtain ⟨records, hrecs, happly⟩ := Checks.bind_ok.1 happly
    obtain rfl := Checks.pure_ok.1 happly
    cases items with
    | nil =>
      obtain rfl := Checks.pure_ok.1 hrecs
      have hnil : encryptRecords disk.masterKey seed [] = .ok [] := rfl
      exact h.append hseed hgeneration hnil (fun _ hi => absurd hi List.not_mem_nil) List.nodup_nil
        hfits.1 fun _ hi => absurd hi List.not_mem_nil
    | cons item items =>
      obtain rfl := hkey rfl
      exact h.append hseed hgeneration hrecs hready.1 hready.2 hfits.1 hfits.2

/-! ### Rotation -/

/-- How many numbers a rotation draws. -/
def rotationDraws (disk : VaultDisk) : ℕ := 3 + 3 * disk.records.length

theorem decryptRecords_spec (hvalid : ∀ r ∈ rs, r.metadata.Valid o.projectId o.backend)
    (h : decryptRecords o key rs = .ok items) : items.map (·.1) = rs.map VaultRecord.metadata := by
  induction rs generalizing items with
  | nil => rw [← Checks.pure_ok.1 h]; rfl
  | cons r rs ih =>
    obtain ⟨md, hmd, h⟩ := Checks.bind_ok.1 h
    obtain ⟨value, -, h⟩ := Checks.bind_ok.1 h
    obtain ⟨rest, hrest, h⟩ := Checks.bind_ok.1 h
    obtain rfl := Checks.pure_ok.1 h
    have hsame : md = r.metadata := Except.ok.inj (hmd.symm.trans (hvalid r List.mem_cons_self))
    rw [List.map_cons, List.map_cons, hsame, ih (fun r hr => hvalid r (List.mem_cons_of_mem _ hr)) hrest]

theorem Uuid.isVaultId (id : Uuid) : isVaultId id.text = true := by
  rw [OfflineWebArchiver.isVaultId, isUuid_length id.uuid, Bool.and_eq_true, List.all_eq_true]
  refine ⟨rfl, fun c hc => ?_⟩
  obtain ⟨place, hplace, hc⟩ := isUuid_place id.uuid hc
  exact uuidUnits_all (p := fun _ c => decide (c ∈ '-' :: hexDigits)) (by decide) hplace hc

theorem kdf_valid (salt : ℕ) : (testKdf salt).valid = true ∧ (productionKdf salt).valid = true := by
  have htest : (testKdf salt).valid = (testKdf 0).valid := rfl
  have hproduction : (productionKdf salt).valid = (productionKdf 0).valid := rfl
  rw [htest, hproduction]
  decide

/-- **A rotation writes a good document.** -/
theorem rotateDocument_good {passphrase : Bytes} {vaultId : Uuid}
    (h : disk.Good o.projectId o.backend) (hgeneration : disk.generation < maxSafeInteger)
    (hrot : rotateDocument o disk key passphrase vaultId seed now = .ok disk') :
    disk'.Good o.projectId o.backend ∧ ∀ n ∈ disk'.nonces, n < seed + rotationDraws disk := by
  have hdecrypts := rotateDocument_decrypts hrot
  unfold rotateDocument at hrot
  obtain ⟨items, hitems, hrot⟩ := Checks.bind_ok.1 hrot
  obtain ⟨_, -, hrot⟩ := Checks.bind_ok.1 hrot
  obtain ⟨records, hrecs, hrot⟩ := Checks.bind_ok.1 hrot
  obtain rfl := Checks.pure_ok.1 hrot
  obtain ⟨hall, hids, -⟩ := h.valid
  obtain ⟨hmd, hsize, hnodup, hrange⟩ := encryptRecords_spec hrecs
  rw [decryptRecords_spec (fun r hr => (hall r hr).1) hitems] at hmd
  have hlen : records.length = disk.records.length := by
    rw [← List.length_map (f := VaultRecord.metadata), hmd, List.length_map]
  have hcount : items.length = disk.records.length := by
    have := congrArg List.length (decryptRecords_spec (fun r hr => (hall r hr).1) hitems)
    rwa [List.length_map, List.length_map] at this
  obtain ⟨hheader, -⟩ := decodeVault_ok.1 h.readable
  refine ⟨⟨decodeVault_ok.2 ⟨?_, ?_, ?_, vaultId.lower, rfl, ?_, ?_, ?_⟩, ⟨passphrase, ?_⟩, hdecrypts⟩, ?_⟩
  · simp only [VaultDisk.headerOk, Bool.and_eq_true, beq_iff_eq, decide_eq_true_eq] at hheader ⊢
    obtain ⟨⟨⟨-, hcreated⟩, -⟩, -⟩ := hheader
    exact ⟨⟨⟨⟨o.lower, vaultId.isVaultId⟩, hcreated⟩, now.2⟩, hgeneration⟩
  · change (if o.testMode = true then testKdf (seed + 1) else productionKdf (seed + 1)).valid = true
    split_ifs
    · exact (kdf_valid _).1
    · exact (kdf_valid _).2
  · rw [hlen]; exact h.count
  · intro r hr
    refine ⟨?_, hsize r hr⟩
    have hmem : r.metadata ∈ disk.records.map VaultRecord.metadata := hmd ▸ List.mem_map_of_mem hr
    obtain ⟨r', hr', heq⟩ := List.mem_map.1 hmem
    rw [← heq]
    exact (hall r' hr').1
  · have hsame := congrArg (List.map SecretMetadata.secretId) hmd
    rw [List.map_map, List.map_map] at hsame
    change (records.map (SecretMetadata.secretId ∘ VaultRecord.metadata)).Nodup
    rw [hsame]
    exact hids
  · refine List.nodup_cons.2 ⟨fun hn => ?_, hnodup⟩
    have hlow : seed + 3 ≤ seed + 2 := (hrange _ hn).1
    omega
  · exact decryptAead_ok.2 ⟨rfl, rfl, rfl⟩
  · intro n hn
    rw [rotationDraws]
    rcases List.mem_cons.1 hn with rfl | hn
    · change seed + 2 < _
      omega
    · have := hrange n hn
      omega

end OfflineWebArchiver
