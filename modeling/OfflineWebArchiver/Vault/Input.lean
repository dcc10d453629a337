import OfflineWebArchiver.Vault.Mutation

/-!
# The input of the operations

What `createSecret`, `replaceSecret`, `deleteSecret`, `rotateSecret` and
`importSecretsEncrypted` check before they wait for the vault lock.

* `createSecret_ready`, `replaceSecret_ready`, `decodePayload_ready`: a mutation that has
  passed these checks is `Ready`.
-/

namespace OfflineWebArchiver

structure SecretCreateInput where
  projectId : JsString
  kind : SecretKind
  scope : SecretScope
  value : Bytes
  displayLabel : Option JsString
  secureExportPolicy : Option SecretExportPolicy
deriving DecidableEq

/-- A record of a Secure Export. `slot` is what `this.id()` returns for it. -/
structure ImportRecord where
  metadata : SecretMetadata
  value : Bytes
  slot : Uuid
deriving DecidableEq

/-- What a Secure Export decrypts to. -/
structure SecureExportPayload where
  projectId : JsString
  records : List ImportRecord
deriving DecidableEq

def ensureProject (o : StoreOptions) (projectId : JsString) : Except SecretError Unit :=
  if toLowerCase projectId ≠ o.projectId then throw .referenceProjectMismatch else pure ()

def keySlotId (id : Uuid) : JsString := "slot-".toList ++ id.text

/-- `createSecret` up to `mutateRecords`. `id` and `slot` are what `this.id()` returns. -/
def createSecret (o : StoreOptions) (input : SecretCreateInput) (id slot : Uuid) (now : Now) :
    Except SecretError Mutation := do
  ensureProject o input.projectId
  assertValidSecretScope input.scope
  if toLowerCase input.scope.projectId ≠ o.projectId then throw .scopeInvalid
  else
    validateSecretBytes input.value
    assertValidSecretLabel input.displayLabel
    let secretId ← createSecretId id.text
    let ref ← serializeSecretRef o.projectId secretId
    pure (.createSecret {
      ref := ref
      secretId := secretId
      projectId := o.projectId
      scope := input.scope
      kind := input.kind
      backend := o.backend
      createdAt := now.1
      updatedAt := now.1
      lastRotatedAt := none
      version := 1
      lifecycleState := .active
      displayLabel := input.displayLabel
      secureExportPolicy := input.secureExportPolicy.getD
        (if input.kind = .sessionStorage then .forbidden else .allowed)
      keySlotId := keySlotId slot
      migrationState := .current } input.value)

/-- `replaceSecret` up to `mutateRecords`; a label that is not given stays. -/
def replaceSecret (o : StoreOptions) (projectId ref : JsString) (value : Bytes)
    (displayLabel : Option (Option JsString)) : Except SecretError Mutation := do
  ensureProject o projectId
  validateSecretBytes value
  assertValidSecretLabel displayLabel.join
  pure (.replaceSecret ref value displayLabel)

def deleteSecret (o : StoreOptions) (projectId ref : JsString) : Except SecretError Mutation := do
  ensureProject o projectId
  pure (.deleteSecret ref)

/-- `rotateSecret` up to `mutateRecords`. -/
def rotateSecret (o : StoreOptions) (projectId ref : JsString) : Except SecretError Mutation := do
  ensureProject o projectId
  pure (.rotateSecret ref)

/-- The loop of an import over the records, with the identifiers seen. -/
def importItems (o : StoreOptions) (now : Now) : List JsString → List ImportRecord →
    Except SecretError (List (SecretMetadata × Bytes))
  | _, [] => pure []
  | ids, record :: rest => do
    let metadata ← metadataFromDisk record.metadata o.projectId o.backend none
    if metadata.secretId ∈ ids then throw .importFailed
    else
      validateSecretBytes record.value
      let items ← importItems o now (metadata.secretId :: ids) rest
      pure (({ metadata with
        backend := o.backend
        keySlotId := keySlotId record.slot
        updatedAt := now.1 }, record.value) :: items)

/-- What an import makes of the payload. -/
def decodePayload (o : StoreOptions) (payload : SecureExportPayload) (now : Now) :
    Except SecretError (List (SecretMetadata × Bytes)) :=
  if payload.projectId ≠ o.projectId ∨ maxVaultRecords < payload.records.length then throw .importFailed
  else importItems o now [] payload.records

variable {o : StoreOptions} {now : Now} {m : Mutation} {id slot : Uuid} {ids : List JsString}

/-- A key slot made of a UUID is a safe identifier. -/
theorem keySlotId_safe (id : Uuid) : isSafeIdentifier (keySlotId id) = true := by
  have hid : ∀ c ∈ id.text, (isAlphanumeric c || decide (c ∈ "._:-".toList)) = true := by
    intro c hc
    obtain ⟨place, hplace, hc⟩ := isUuid_place id.uuid hc
    exact uuidUnits_all (p := fun _ c => isAlphanumeric c || decide (c ∈ "._:-".toList)) (by decide)
      hplace hc
  have hrest : ("lot-".toList ++ id.text).all (fun c => isAlphanumeric c || decide (c ∈ "._:-".toList)) =
      true := by
    rw [List.all_append, Bool.and_eq_true]
    exact ⟨by decide, List.all_eq_true.2 hid⟩
  have hlen : ("lot-".toList ++ id.text).length ≤ 127 := by
    rw [List.length_append, isUuid_length id.uuid]
    decide
  change (isAlphanumeric 's' && decide (("lot-".toList ++ id.text).length ≤ 127) &&
    ("lot-".toList ++ id.text).all fun c => isAlphanumeric c || decide (c ∈ "._:-".toList)) = true
  rw [hrest, decide_eq_true hlen]
  decide

/-- **A created secret is ready.** -/
theorem createSecret_ready {input : SecretCreateInput}
    (h : createSecret o input id slot now = .ok m) : m.Ready o := by
  obtain ⟨_, -, h⟩ := Checks.bind_ok.1 h
  obtain ⟨_, hscope, h⟩ := Checks.bind_ok.1 h
  obtain ⟨hproject, h⟩ := Checks.guard_ok.1 h
  obtain ⟨_, -, h⟩ := Checks.bind_ok.1 h
  obtain ⟨_, hlabel, h⟩ := Checks.bind_ok.1 h
  obtain ⟨secretId, hid, h⟩ := Checks.bind_ok.1 h
  obtain ⟨ref, href, h⟩ := Checks.bind_ok.1 h
  obtain rfl := Checks.pure_ok.1 h
  obtain ⟨-, hid⟩ := Checks.guard_ok.1 hid
  obtain rfl := Checks.pure_ok.1 hid
  have huuid := isUuid_toLowerCase id.uuid
  have hparsed := parseSecretRef_serialize o.uuid huuid href
  refine metadataFromDisk_ok.2 ⟨_, hparsed, ?_, ?_, hscope, not_not.1 hproject, hlabel,
    keySlotId_safe slot, huuid, ?_⟩
  · simp [SecretMetadata.identityOk, o.lower, now.2]
  · simp
  · simp only [toLowerCase_idem id.uuid]

/-- A replacement is ready. -/
theorem replaceSecret_ready {projectId ref : JsString} {value : Bytes}
    {displayLabel : Option (Option JsString)}
    (h : replaceSecret o projectId ref value displayLabel = .ok m) : m.Ready o := by
  obtain ⟨_, -, h⟩ := Checks.bind_ok.1 h
  obtain ⟨_, -, h⟩ := Checks.bind_ok.1 h
  obtain ⟨_, hlabel, h⟩ := Checks.bind_ok.1 h
  obtain rfl := Checks.pure_ok.1 h
  intro label hmem
  obtain rfl := Option.mem_def.1 hmem
  exact hlabel

theorem deleteSecret_ready {projectId ref : JsString} (h : deleteSecret o projectId ref = .ok m) :
    m.Ready o := by
  obtain ⟨_, -, h⟩ := Checks.bind_ok.1 h
  obtain rfl := Checks.pure_ok.1 h
  trivial

theorem rotateSecret_ready {projectId ref : JsString} (h : rotateSecret o projectId ref = .ok m) :
    m.Ready o := by
  obtain ⟨_, -, h⟩ := Checks.bind_ok.1 h
  obtain rfl := Checks.pure_ok.1 h
  trivial

theorem importItems_spec {records : List ImportRecord} {items : List (SecretMetadata × Bytes)}
    (h : importItems o now ids records = .ok items) :
    (∀ item ∈ items, item.1.Valid o.projectId o.backend ∧ item.1.secretId ∉ ids) ∧
      (items.map (·.1.secretId)).Nodup := by
  induction records generalizing ids items with
  | nil =>
    obtain rfl := Checks.pure_ok.1 h
    simp
  | cons record records ih =>
    obtain ⟨metadata, hmd, h⟩ := Checks.bind_ok.1 h
    obtain ⟨hnew, h⟩ := Checks.guard_ok.1 h
    obtain ⟨_, -, h⟩ := Checks.bind_ok.1 h
    obtain ⟨rest, hrest, h⟩ := Checks.bind_ok.1 h
    obtain rfl := Checks.pure_ok.1 h
    obtain ⟨hall, hnodup⟩ := ih hrest
    have hvalid := metadataFromDisk_valid o.lower hmd
    obtain ⟨-, hrotated, hlow, hhigh, hlabel, -⟩ := hvalid.checks
    have hback : metadata.backend = o.backend := by
      obtain ⟨_, -, -, -, -, -, -, -, -, hform⟩ := metadataFromDisk_ok.1 hmd
      rw [hform]
    refine ⟨fun item hitem => ?_, ?_⟩
    · rcases List.mem_cons.1 hitem with rfl | hitem
      · refine ⟨?_, hnew⟩
        have hnext := hvalid.update now.2 hrotated ⟨hlow, hhigh⟩ hlabel (keySlotId_safe record.slot)
        rw [← hback] at hnext ⊢
        exact hnext
      · obtain ⟨hv, hid⟩ := hall item hitem
        exact ⟨hv, fun hmem => hid (List.mem_cons_of_mem _ hmem)⟩
    · rw [List.map_cons, List.nodup_cons]
      refine ⟨fun hmem => ?_, hnodup⟩
      obtain ⟨item, hitem, hid⟩ := List.mem_map.1 hmem
      exact (hall item hitem).2 (hid ▸ List.mem_cons_self)

/-- **An import is ready.** -/
theorem decodePayload_ready {payload : SecureExportPayload} {items : List (SecretMetadata × Bytes)}
    (h : decodePayload o payload now = .ok items) : (Mutation.importSecrets items).Ready o := by
  obtain ⟨-, h⟩ := Checks.guard_ok.1 h
  obtain ⟨hall, hnodup⟩ := importItems_spec h
  exact ⟨fun item hitem => (hall item hitem).1, hnodup⟩

end OfflineWebArchiver

/-!
## Canonical documents

The reader writes the identifiers and references of a document in one form. What the store
has written itself is in this form, whether or not it keeps the limits of the reader.

* `decodeVault_canonical`: a canonical document is read back unchanged, or not at all.
* `apply_canonical`, `rotateDocument_canonical`: the store writes canonical documents.
-/

namespace OfflineWebArchiver

/-- The identifying fields are in the form that the reader returns. -/
structure SecretMetadata.Canonical (p : JsString) (backend : SecretBackend) (m : SecretMetadata) : Prop where
  ref : ∀ parsed, parseSecretRef m.ref = .ok parsed → parsed.serialized = m.ref
  secretId : toLowerCase m.secretId = m.secretId
  projectId : m.projectId = p
  backend : m.backend = backend

structure VaultDisk.Canonical (p : JsString) (backend : SecretBackend) (d : VaultDisk) : Prop where
  vaultId : toLowerCase d.vaultId = d.vaultId
  projectId : d.projectId = p
  records : ∀ r ∈ d.records, r.metadata.Canonical p backend

variable {p : JsString} {backend : SecretBackend} {d d' : VaultDisk} {m m' : SecretMetadata}
  {rs rs' : List VaultRecord} {ids : List JsString} {nonces : List ℕ}

/-- What the reader returns is canonical. -/
theorem metadataFromDisk_canonical {expected : Option SecretBackend}
    (h : metadataFromDisk m p backend expected = .ok m') : m'.Canonical p backend := by
  obtain ⟨parsed, hparsed, -, -, -, -, -, -, huuid, rfl⟩ := metadataFromDisk_ok.1 h
  refine ⟨fun parsed' hparsed' => ?_, toLowerCase_idem huuid, rfl, rfl⟩
  have hsame := (parseSecretRef_ok hparsed).symm.trans hparsed'
  rw [Except.ok.inj hsame]

theorem SecretMetadata.Valid.canonical (h : m.Valid p backend) : m.Canonical p backend :=
  metadataFromDisk_canonical h

theorem SecretMetadata.Canonical.read (h : m.Canonical p backend) {expected : Option SecretBackend}
    (hread : metadataFromDisk m p backend expected = .ok m') : m' = m := by
  obtain ⟨parsed, hparsed, -, -, -, -, -, -, -, rfl⟩ := metadataFromDisk_ok.1 hread
  rw [h.ref parsed hparsed, h.secretId, ← h.projectId, ← h.backend]

/-- The fields that an operation sets anew are not among the identifying ones. -/
theorem SecretMetadata.Canonical.update (h : m.Canonical p backend) {updatedAt : Timestamp}
    {lastRotatedAt : Option Timestamp} {version : ℕ} {displayLabel : Option JsString} :
    SecretMetadata.Canonical p backend { m with
      updatedAt := updatedAt
      lastRotatedAt := lastRotatedAt
      version := version
      displayLabel := displayLabel } :=
  ⟨h.ref, h.secretId, h.projectId, h.backend⟩

theorem decodeRecords_canonical (h : ∀ r ∈ rs, r.metadata.Canonical p backend)
    (hd : decodeRecords p backend ids nonces rs = .ok rs') : rs' = rs := by
  induction rs generalizing ids nonces rs' with
  | nil => exact (Checks.pure_ok.1 hd).symm
  | cons r rs ih =>
    obtain ⟨md, hmd, hd⟩ := Checks.bind_ok.1 hd
    obtain ⟨-, hd⟩ := Checks.guard_ok.1 hd
    obtain ⟨-, hd⟩ := Checks.guard_ok.1 hd
    obtain ⟨-, hd⟩ := Checks.guard_ok.1 hd
    obtain ⟨-, hd⟩ := Checks.guard_ok.1 hd
    obtain ⟨rest, hrest, hd⟩ := Checks.bind_ok.1 hd
    obtain rfl := Checks.pure_ok.1 hd
    rw [(h r List.mem_cons_self).read hmd, ih (fun r hr => h r (List.mem_cons_of_mem _ hr)) hrest]

/-- **A canonical document is read back unchanged**, or not at all. -/
theorem decodeVault_canonical (h : d.Canonical p backend) (hd : decodeVault d p backend = .ok d') :
    d' = d := by
  obtain ⟨-, hd⟩ := Checks.guard_ok.1 hd
  obtain ⟨-, hd⟩ := Checks.guard_ok.1 hd
  obtain ⟨-, hd⟩ := Checks.guard_ok.1 hd
  obtain ⟨records, hrecords, hd⟩ := Checks.bind_ok.1 hd
  obtain rfl := Checks.pure_ok.1 hd
  rw [decodeRecords_canonical h.records hrecords, h.vaultId, ← h.projectId]

theorem VaultDisk.Good.canonical (h : d.Good p backend) : d.Canonical p backend := by
  obtain ⟨-, -, -, hid, hp, hrecords, -⟩ := decodeVault_ok.1 h.readable
  exact ⟨hid, hp, fun r hr => (hrecords r hr).1.canonical⟩

variable {o : StoreOptions} {disk disk' : VaultDisk} {key : Key} {seed : ℕ} {now : Now} {mu : Mutation}
  {items : List (SecretMetadata × Bytes)} {ref : JsString} {record : VaultRecord}

theorem recordFromDisk_canonical (h : recordFromDisk o disk ref = .ok (record, m)) :
    m.Canonical o.projectId o.backend :=
  metadataFromDisk_canonical (recordFromDisk_ok h).2

theorem encryptRecord_canonical {value : Bytes} (hm : m.Canonical p backend)
    (h : encryptRecord m value key seed = .ok record) : record.metadata.Canonical p backend :=
  (encryptRecord_decrypts h).1 ▸ hm

theorem encryptRecords_canonical (hitems : ∀ item ∈ items, item.1.Canonical p backend)
    (h : encryptRecords key seed items = .ok rs) : ∀ r ∈ rs, r.metadata.Canonical p backend := by
  intro r hr
  have hmem : r.metadata ∈ items.map (·.1) := (encryptRecords_spec h).1 ▸ List.mem_map_of_mem hr
  obtain ⟨item, hitem, heq⟩ := List.mem_map.1 hmem
  exact heq ▸ hitems item hitem

/-- Other records in a canonical document. -/
theorem VaultDisk.Canonical.next (h : disk.Canonical p backend)
    (hrecords : ∀ r ∈ rs, r.metadata.Canonical p backend) : (disk.next now rs).Canonical p backend :=
  ⟨h.vaultId, h.projectId, hrecords⟩

theorem VaultDisk.Canonical.replace (h : disk.Canonical p backend)
    (hrecord : record.metadata.Canonical p backend) {id : JsString} :
    (disk.next now (replaceRecord id record disk.records)).Canonical p backend := by
  refine h.next fun r hr => ?_
  rcases mem_replaceRecord hr with hr | hr
  · exact hr ▸ hrecord
  · exact h.records r hr

theorem VaultDisk.Canonical.append (h : disk.Canonical p backend)
    (hrecords : ∀ r ∈ rs, r.metadata.Canonical p backend) :
    (disk.next now (disk.records ++ rs)).Canonical p backend := by
  refine h.next fun r hr => ?_
  rcases List.mem_append.1 hr with hr | hr
  · exact h.records r hr
  · exact hrecords r hr

/-- **A mutation writes a canonical document.** -/
theorem apply_canonical (h : disk.Canonical o.projectId o.backend) (hready : mu.Ready o)
    (happly : mu.apply o disk key seed now = .ok disk') : disk'.Canonical o.projectId o.backend := by
  cases mu with
  | createSecret metadata value =>
    obtain ⟨-, happly⟩ := Checks.guard_ok.1 happly
    obtain ⟨record, hrec, happly⟩ := Checks.bind_ok.1 happly
    obtain rfl := Checks.pure_ok.1 happly
    refine h.append fun r hr => ?_
    obtain rfl := List.mem_singleton.1 hr
    exact encryptRecord_canonical (SecretMetadata.Valid.canonical hready) hrec
  | replaceSecret ref value displayLabel =>
    obtain ⟨⟨r₀, existing⟩, hfound, happly⟩ := Checks.bind_ok.1 happly
    obtain ⟨-, happly⟩ := Checks.guard_ok.1 happly
    obtain ⟨record, hrec, happly⟩ := Checks.bind_ok.1 happly
    obtain rfl := Checks.pure_ok.1 happly
    exact h.replace (encryptRecord_canonical (recordFromDisk_canonical hfound).update hrec)
  | deleteSecret ref =>
    obtain ⟨⟨r₀, existing⟩, -, happly⟩ := Checks.bind_ok.1 happly
    obtain ⟨-, happly⟩ := Checks.guard_ok.1 happly
    obtain rfl := Checks.pure_ok.1 happly
    exact h.next fun r hr => h.records r (List.mem_filter.1 hr).1
  | rotateSecret ref =>
    obtain ⟨⟨r₀, existing⟩, hfound, happly⟩ := Checks.bind_ok.1 happly
    obtain ⟨value, -, happly⟩ := Checks.bind_ok.1 happly
    obtain ⟨record, hrec, happly⟩ := Checks.bind_ok.1 happly
    obtain rfl := Checks.pure_ok.1 happly
    exact h.replace (encryptRecord_canonical (recordFromDisk_canonical hfound).update hrec)
  | importSecrets items =>
    obtain ⟨records, hrecs, happly⟩ := Checks.bind_ok.1 happly
    obtain rfl := Checks.pure_ok.1 happly
    exact h.append (encryptRecords_canonical (fun item hitem => (hready.1 item hitem).canonical) hrecs)

theorem decryptRecords_canonical (h : decryptRecords o key rs = .ok items) :
    ∀ item ∈ items, item.1.Canonical o.projectId o.backend := by
  induction rs generalizing items with
  | nil =>
    obtain rfl := Checks.pure_ok.1 h
    exact fun item hitem => absurd hitem List.not_mem_nil
  | cons r rs ih =>
    obtain ⟨md, hmd, h⟩ := Checks.bind_ok.1 h
    obtain ⟨value, -, h⟩ := Checks.bind_ok.1 h
    obtain ⟨rest, hrest, h⟩ := Checks.bind_ok.1 h
    obtain rfl := Checks.pure_ok.1 h
    intro item hitem
    rcases List.mem_cons.1 hitem with rfl | hitem
    · exact metadataFromDisk_canonical hmd
    · exact ih hrest item hitem

/-- A rotation writes a canonical document. -/
theorem rotateDocument_canonical {passphrase : Bytes} {vaultId : Uuid}
    (h : rotateDocument o disk key passphrase vaultId seed now = .ok disk') :
    disk'.Canonical o.projectId o.backend := by
  unfold rotateDocument at h
  obtain ⟨items, hitems, h⟩ := Checks.bind_ok.1 h
  obtain ⟨_, -, h⟩ := Checks.bind_ok.1 h
  obtain ⟨records, hrecs, h⟩ := Checks.bind_ok.1 h
  obtain rfl := Checks.pure_ok.1 h
  exact ⟨vaultId.lower, rfl, encryptRecords_canonical (decryptRecords_canonical hitems) hrecs⟩

end OfflineWebArchiver
