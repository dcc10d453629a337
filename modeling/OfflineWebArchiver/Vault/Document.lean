import OfflineWebArchiver.Vault.Secrets

/-!
# The vault document

Encryption is ideal: an envelope opens under its own key and associated data and under no
other. Keys, salts and nonces that are drawn are numbered, and no number is drawn twice.

* `encryptRecord`, `decryptRecord`, `decodeVault`: what the store writes and reads.
* `decodeVault_ok`: the documents that the reader returns unchanged.
* `VaultDisk.Good`: a document that is read again and whose records all decrypt.
-/

namespace OfflineWebArchiver

abbrev Bytes := List UInt8

def maxSecretBytes : ℕ := 1 * 1024 * 1024
def maxVaultBytes : ℕ := 64 * 1024 * 1024
def maxVaultRecords : ℕ := 1000
def maxSafeInteger : ℕ := 2 ^ 53 - 1

/-! ### Cryptography -/

structure KdfParameters where
  salt : ℕ
  N : ℕ
  r : ℕ
  p : ℕ
  maxmem : ℕ
deriving DecidableEq

/-- The content of a key buffer. `zero` is a buffer after `clearBytes`. -/
inductive Key
  | zero
  | random (n : ℕ)
  | derived (passphrase : Bytes) (kdf : KdfParameters)
deriving DecidableEq

/-- `validateKdfParameters`. -/
def KdfParameters.valid (kdf : KdfParameters) : Bool :=
  decide (1024 ≤ kdf.N) && decide (kdf.N ≤ 131072) && kdf.N &&& (kdf.N - 1) == 0 &&
    decide (1 ≤ kdf.r) && decide (kdf.r ≤ 32) && decide (1 ≤ kdf.p) && decide (kdf.p ≤ 16) &&
    decide (16 * 1024 * 1024 ≤ kdf.maxmem) && decide (kdf.maxmem ≤ 512 * 1024 * 1024) &&
    decide (128 * kdf.N * kdf.r ≤ kdf.maxmem) && decide (128 * kdf.N * kdf.r ≤ 512 * 1024 * 1024)

/-- `PRODUCTION_KDF_PROFILE` with a salt. -/
def productionKdf (salt : ℕ) : KdfParameters := ⟨salt, 32768, 8, 1, 128 * 1024 * 1024⟩

/-- `TEST_KDF_PROFILE` with a salt. -/
def testKdf (salt : ℕ) : KdfParameters := ⟨salt, 1024, 8, 1, 32 * 1024 * 1024⟩

/-- An envelope with associated data of type `A` around a text of type `P`. -/
structure AeadEnvelope (A P : Type) where
  nonce : ℕ
  key : Key
  aad : A
  plaintext : P
deriving DecidableEq

variable {A P : Type} [DecidableEq A]

def encryptAead (plaintext : P) (key : Key) (aad : A) (nonce : ℕ) : AeadEnvelope A P :=
  ⟨nonce, key, aad, plaintext⟩

def decryptAead (envelope : AeadEnvelope A P) (key : Key) (aad : A) : Except SecretError P :=
  if ¬(envelope.key = key ∧ envelope.aad = aad) then throw .authenticationFailure
  else pure envelope.plaintext

theorem decryptAead_ok {envelope : AeadEnvelope A P} {key : Key} {aad : A} {plaintext : P} :
    decryptAead envelope key aad = .ok plaintext ↔
      envelope.key = key ∧ envelope.aad = aad ∧ envelope.plaintext = plaintext := by
  rw [decryptAead, Checks.guard_ok, not_not, Checks.pure_ok, and_assoc]

def validatePassphrase (passphrase : Bytes) : Except SecretError Unit :=
  if passphrase.length < 12 then throw .valueInvalid
  else if 4096 < passphrase.length then throw .valueTooLarge
  else pure ()

def validateSecretBytes (value : Bytes) : Except SecretError Unit :=
  if value.length = 0 then throw .valueInvalid
  else if maxSecretBytes < value.length then throw .valueTooLarge
  else pure ()

theorem validateSecretBytes_ok {value : Bytes} :
    validateSecretBytes value = .ok () ↔ value.length ≠ 0 ∧ value.length ≤ maxSecretBytes := by
  rw [validateSecretBytes, Checks.guard_ok, Checks.guard_ok, Checks.pure_ok, not_lt]
  simp

/-! ### Records and documents -/

/-- The associated data of a wrapped data key. -/
structure RecordWrapAad where
  ref : JsString
  projectId : JsString
  keySlotId : JsString
  version : ℕ
deriving DecidableEq

def recordWrapAad (m : SecretMetadata) : RecordWrapAad := ⟨m.ref, m.projectId, m.keySlotId, m.version⟩

structure VaultAad where
  vaultId : JsString
  projectId : JsString
  kdf : KdfParameters
deriving DecidableEq

/-- The associated data of the payload is the whole metadata. -/
structure VaultRecord where
  metadata : SecretMetadata
  wrappedDek : AeadEnvelope RecordWrapAad Key
  envelope : AeadEnvelope SecretMetadata Bytes
deriving DecidableEq

structure VaultDisk where
  vaultId : JsString
  projectId : JsString
  createdAt : Timestamp
  updatedAt : Timestamp
  generation : ℕ
  kdf : KdfParameters
  keyWrap : AeadEnvelope VaultAad Key
  records : List VaultRecord
deriving DecidableEq

/-- The master key of the vault. -/
def VaultDisk.masterKey (d : VaultDisk) : Key := d.keyWrap.plaintext

def VaultRecord.secretId (r : VaultRecord) : JsString := r.metadata.secretId

def VaultRecord.nonces (r : VaultRecord) : List ℕ := [r.wrappedDek.nonce, r.envelope.nonce]

def VaultDisk.nonces (d : VaultDisk) : List ℕ := d.keyWrap.nonce :: d.records.flatMap VaultRecord.nonces

/-- The data key and the two nonces are drawn as `seed`, `seed + 1` and `seed + 2`. -/
def encryptRecord (metadata : SecretMetadata) (value : Bytes) (masterKey : Key) (seed : ℕ) :
    Except SecretError VaultRecord := do
  validateSecretBytes value
  pure {
    metadata := metadata
    wrappedDek := encryptAead (.random seed) masterKey (recordWrapAad metadata) (seed + 1)
    envelope := encryptAead value (.random seed) metadata (seed + 2) }

def decryptRecord (record : VaultRecord) (metadata : SecretMetadata) (masterKey : Key) :
    Except SecretError Bytes := do
  let dek ← decryptAead record.wrappedDek masterKey (recordWrapAad metadata)
  if maxSecretBytes < record.envelope.plaintext.length then throw .formatUnsupported
  else
    let value ← decryptAead record.envelope dek metadata
    if value.length = 0 ∨ maxSecretBytes < value.length then throw .authenticationFailure
    else pure value

/-- `unwrapKey` with the key derived from a passphrase. -/
def unwrapKey (disk : VaultDisk) (passphrase : Bytes) : Except SecretError Key :=
  decryptAead disk.keyWrap (.derived passphrase disk.kdf) ⟨disk.vaultId, disk.projectId, disk.kdf⟩

/-- The loop of `decodeVault` over the records, with the identifiers and nonces seen. -/
def decodeRecords (projectId : JsString) (backend : SecretBackend) :
    List JsString → List ℕ → List VaultRecord → Except SecretError (List VaultRecord)
  | _, _, [] => pure []
  | ids, nonces, raw :: rest => do
    let metadata ← metadataFromDisk raw.metadata projectId backend (some backend)
    if metadata.secretId ∈ ids then throw .formatUnsupported
    else if maxSecretBytes < raw.envelope.plaintext.length then throw .formatUnsupported
    else if raw.wrappedDek.nonce ∈ nonces then throw .tamperDetected
    else if raw.envelope.nonce ∈ raw.wrappedDek.nonce :: nonces then throw .tamperDetected
    else do
      let records ← decodeRecords projectId backend (metadata.secretId :: ids)
        (raw.envelope.nonce :: raw.wrappedDek.nonce :: nonces) rest
      pure ({ raw with metadata := metadata } :: records)

/-- `/^[0-9a-f-]{36}$/i`. -/
def isVaultId (s : JsString) : Bool := s.length == 36 && s.all fun c => c ∈ '-' :: hexDigits

/-- The header of a document. -/
def VaultDisk.headerOk (d : VaultDisk) (projectId : JsString) : Bool :=
  toLowerCase d.projectId == projectId && isVaultId d.vaultId && isTimestamp d.createdAt &&
    isTimestamp d.updatedAt && decide (d.generation ≤ maxSafeInteger)

/-- `decodeVault` on a value of the right types. -/
def decodeVault (d : VaultDisk) (projectId : JsString) (backend : SecretBackend) :
    Except SecretError VaultDisk :=
  if !d.headerOk projectId then throw .formatUnsupported
  else if !d.kdf.valid then throw .kdfInvalid
  else if maxVaultRecords < d.records.length then throw .valueTooLarge
  else do
    let records ← decodeRecords projectId backend [] [d.keyWrap.nonce] d.records
    pure { d with vaultId := toLowerCase d.vaultId, projectId := projectId, records := records }

variable {p : JsString} {backend : SecretBackend} {d : VaultDisk} {r : VaultRecord} {m : SecretMetadata}
  {key : Key} {value : Bytes} {seed : ℕ} {ids : List JsString} {nonces : List ℕ} {rs : List VaultRecord}

theorem encryptRecord_ok : encryptRecord m value key seed = .ok r ↔
    (value.length ≠ 0 ∧ value.length ≤ maxSecretBytes) ∧
      r = ⟨m, ⟨seed + 1, key, recordWrapAad m, .random seed⟩, ⟨seed + 2, .random seed, m, value⟩⟩ := by
  unfold encryptRecord
  simp only [Checks.bind_ok, Checks.pure_ok]
  constructor
  · rintro ⟨_, hv, rfl⟩
    exact ⟨validateSecretBytes_ok.1 hv, rfl⟩
  · rintro ⟨hv, rfl⟩
    exact ⟨(), validateSecretBytes_ok.2 hv, rfl⟩

/-- A record decrypts under the key that its data key is wrapped with. -/
theorem decryptRecord_ok : decryptRecord r m key = .ok value ↔
    r.wrappedDek.key = key ∧ r.wrappedDek.aad = recordWrapAad m ∧
      r.envelope.key = r.wrappedDek.plaintext ∧ r.envelope.aad = m ∧ r.envelope.plaintext = value ∧
      value.length ≠ 0 ∧ value.length ≤ maxSecretBytes := by
  unfold decryptRecord
  simp only [Checks.bind_ok, Checks.guard_ok, Checks.pure_ok, decryptAead_ok, not_or, not_lt]
  constructor
  · rintro ⟨dek, ⟨hk, ha, rfl⟩, -, v, ⟨hek, hea, rfl⟩, ⟨hne, hle⟩, rfl⟩
    exact ⟨hk, ha, hek, hea, rfl, hne, hle⟩
  · rintro ⟨hk, ha, hek, hea, rfl, hne, hle⟩
    exact ⟨_, ⟨hk, ha, rfl⟩, hle, _, ⟨hek, hea, rfl⟩, ⟨hne, hle⟩, rfl⟩

/-- **The loop over the records** returns them unchanged if and only if their metadata is
valid, no identifier and no nonce occurs twice, and none is too large. -/
theorem decodeRecords_ok : decodeRecords p backend ids nonces rs = .ok rs ↔
    (∀ r ∈ rs, r.metadata.Valid p backend ∧ r.envelope.plaintext.length ≤ maxSecretBytes) ∧
      ((rs.map VaultRecord.secretId).Nodup ∧ ∀ i ∈ rs.map VaultRecord.secretId, i ∉ ids) ∧
      (rs.flatMap VaultRecord.nonces).Nodup ∧ ∀ n ∈ rs.flatMap VaultRecord.nonces, n ∉ nonces := by
  induction rs generalizing ids nonces with
  | nil => simp [decodeRecords, pure, Except.pure]
  | cons r rs ih =>
    have hstep : decodeRecords p backend ids nonces (r :: rs) = .ok (r :: rs) ↔
        r.metadata.Valid p backend ∧ r.secretId ∉ ids ∧
          r.envelope.plaintext.length ≤ maxSecretBytes ∧ r.wrappedDek.nonce ∉ nonces ∧
          r.envelope.nonce ∉ r.wrappedDek.nonce :: nonces ∧
          decodeRecords p backend (r.secretId :: ids)
            (r.envelope.nonce :: r.wrappedDek.nonce :: nonces) rs = .ok rs := by
      rw [decodeRecords]
      simp only [Checks.bind_ok, Checks.guard_ok, Checks.pure_ok, not_lt]
      constructor
      · rintro ⟨m, hm, hid, hsize, hw, he, records, hrs, heq⟩
        obtain ⟨hr, rfl⟩ := List.cons.inj heq
        obtain rfl : m = r.metadata := congrArg VaultRecord.metadata hr
        exact ⟨hm, hid, hsize, hw, he, hrs⟩
      · rintro ⟨hm, hid, hsize, hw, he, hrs⟩
        exact ⟨r.metadata, hm, hid, hsize, hw, he, rs, hrs, rfl⟩
    rw [hstep, ih]
    simp only [List.map_cons, List.flatMap_cons, VaultRecord.nonces, List.cons_append, List.nil_append,
      List.nodup_cons, List.mem_cons]
    grind

/-- **What the reader returns unchanged.** -/
theorem decodeVault_ok : decodeVault d p backend = .ok d ↔
    d.headerOk p = true ∧ d.kdf.valid = true ∧ d.records.length ≤ maxVaultRecords ∧
      toLowerCase d.vaultId = d.vaultId ∧ d.projectId = p ∧
      (∀ r ∈ d.records, r.metadata.Valid p backend ∧
        r.envelope.plaintext.length ≤ maxSecretBytes) ∧
      (d.records.map VaultRecord.secretId).Nodup ∧ d.nonces.Nodup := by
  have hrecords : decodeRecords p backend [] [d.keyWrap.nonce] d.records = .ok d.records ↔ _ :=
    decodeRecords_ok
  have hnonces : d.nonces.Nodup ↔ (d.records.flatMap VaultRecord.nonces).Nodup ∧
      ∀ n ∈ d.records.flatMap VaultRecord.nonces, n ∉ [d.keyWrap.nonce] := by
    rw [VaultDisk.nonces, List.nodup_cons, and_comm]
    simp only [List.mem_singleton]
    exact and_congr_right fun _ =>
      ⟨fun h n hn he => h (he ▸ hn), fun h hn => h _ hn rfl⟩
  unfold decodeVault
  rw [hnonces]
  simp only [Checks.bind_ok, Checks.guard_ok, Checks.pure_ok, not_lt]
  constructor
  · rintro ⟨hheader, hkdf, hcount, records, hrs, heq⟩
    obtain rfl : records = d.records := congrArg VaultDisk.records heq
    obtain ⟨hvalid, ⟨hids, -⟩, hns⟩ := hrecords.1 hrs
    exact ⟨by simpa using hheader, by simpa using hkdf, hcount, congrArg VaultDisk.vaultId heq,
      (congrArg VaultDisk.projectId heq).symm, hvalid, hids, hns⟩
  · rintro ⟨hheader, hkdf, hcount, hid, hp, hvalid, hids, hns⟩
    refine ⟨by simpa using hheader, by simpa using hkdf, hcount, d.records,
      hrecords.2 ⟨hvalid, ⟨hids, fun _ _ => List.not_mem_nil⟩, hns⟩, ?_⟩
    rw [hid, ← hp]

/-- Every record decrypts under a key. -/
def DecryptsWith (key : Key) (rs : List VaultRecord) : Prop :=
  ∀ r ∈ rs, ∃ value, decryptRecord r r.metadata key = .ok value

/-- **A good document**: it is read back, a passphrase unlocks it, and every record decrypts
with its master key. -/
structure VaultDisk.Good (p : JsString) (backend : SecretBackend) (d : VaultDisk) : Prop where
  readable : decodeVault d p backend = .ok d
  unlocks : ∃ passphrase, unwrapKey d passphrase = .ok d.masterKey
  decrypts : DecryptsWith d.masterKey d.records

end OfflineWebArchiver
