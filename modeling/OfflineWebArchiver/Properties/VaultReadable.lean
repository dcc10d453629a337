import OfflineWebArchiver.Vault.Commit

/-!
# Is a committed vault readable again

* `vault_readable_run`: it is, and no call that throws has changed it, in every run in which
  no mutation passes the limits of the reader or encrypts with another key than that of the
  vault, and no verification of a commit fails to read the file.
* `overlappingImports_unreadable`: it is not otherwise.
-/

namespace OfflineWebArchiver.VaultStore

/-- The condition on a step: a mutation that goes on with the document that it has read
keeps the limits of the reader, and encrypts with the key of the vault; a rotation leaves
room for the generation; a read that verifies a commit does not fail. -/
def KeepsLimits (o : StoreOptions) (s : State) : Event → Prop
  | .next c =>
    match s.pc c with
    | .compute m key disk =>
      disk.generation = s.generation → m.proceeds o disk (s.buffers key) = true →
        m.Fits disk ∧ (m.encrypts = true → s.buffers key = disk.masterKey)
    | .rotatePrepare _ _ _ disk => disk.generation < maxSafeInteger
    | _ => True
  | .fault c => (s.pc c).verifying = false
  | _ => True

instance {o : StoreOptions} {s : State} {e : Event} : Decidable (KeepsLimits o s e) := by
  unfold KeepsLimits
  split
  · split <;> infer_instance
  · infer_instance
  · infer_instance

/-- A good document, whose nonces have been drawn. -/
def GoodDrawn (o : StoreOptions) (n : ℕ) (d : VaultDisk) : Prop :=
  d.Good o.projectId o.backend ∧ ∀ k ∈ d.nonces, k < n

variable {o : StoreOptions} {size : VaultDisk → ℕ} {s s₀ : State} {es : List Event} {d : VaultDisk}

theorem readDisk_good (hd : d.Good o.projectId o.backend) (hsize : size d ≤ maxVaultBytes) :
    readDisk o size d = .ok d := by
  rw [readDisk, if_neg (not_lt.2 hsize)]
  exact hd.readable

theorem goodDrawn_kept : Kept o size (GoodDrawn o) (KeepsLimits o) := by
  refine ⟨fun hn hd => ⟨hd.1, fun k hk => (hd.2 k hk).trans_le hn⟩, fun {n d d'} hd hread => ?_, ?_, ?_⟩
  · obtain ⟨-, hread⟩ := Checks.guard_ok.1 hread
    obtain rfl := Except.ok.inj (hd.1.readable.symm.trans hread)
    exact hd
  · intro s c m key disk next hC hpc hgeneration hready hd happly
    simp only [KeepsLimits, hpc] at hC
    obtain ⟨hfits, hkey⟩ := hC hgeneration (apply_proceeds happly)
    exact apply_good hd.1 hd.2 hready hfits hkey happly
  · intro s c passphrase vaultId key disk next hC hpc hd hrotate
    simp only [KeepsLimits, hpc] at hC
    exact rotateDocument_good hd.1 hC hrotate

/-- What holds at every point of a run. -/
structure Sound (o : StoreOptions) (size : VaultDisk → ℕ) (s : State) : Prop where
  documents : Documents o (GoodDrawn o) s
  committing : Committing s
  small : size s.disk ≤ maxVaultBytes

theorem Unlocked.sound (h : Unlocked o size s) : Sound o size s :=
  ⟨h.documents ⟨h.good, h.drawn⟩, h.committing, h.small⟩

theorem Sound.readable (h : Sound o size s) : readDisk o size s.disk = .ok s.disk :=
  readDisk_good h.documents.disk.1 h.small

theorem sound_step {e : Event} (h : Sound o size s) (hC : KeepsLimits o s e) :
    Sound o size (step o size s e) := by
  refine ⟨documents_step goodDrawn_kept hC h.documents, committing_step h.committing h.readable ?_, ?_⟩
  · rintro c rfl
    exact hC
  · rcases step_disk o size s e with hsame | ⟨c, -, -, hsize⟩
    · rw [hsame]; exact h.small
    · exact hsize

/-- The promise at a point of a run: the file is read back and every record decrypts with
its master key; a call that has thrown has not replaced the file; and where the next event
changes the file, it is a part of a call that has then replaced it. -/
def ReadableAt (o : StoreOptions) (size : VaultDisk → ℕ) (s₀ : State) (es : List Event) (n : ℕ) : Prop :=
  readDisk o size (Run.stAt (step o size) s₀ es n).disk = .ok (Run.stAt (step o size) s₀ es n).disk ∧
    (Run.stAt (step o size) s₀ es n).disk.Good o.projectId o.backend ∧
    (∀ c error, (Run.stAt (step o size) s₀ es n).result c = some (.error error) →
      (Run.stAt (step o size) s₀ es n).wrote c = false) ∧
    ((Run.stAt (step o size) s₀ es (n + 1)).disk = (Run.stAt (step o size) s₀ es n).disk ∨
      ∃ c, es[n]? = some (.next c) ∧ (Run.stAt (step o size) s₀ es (n + 1)).wrote c = true)

/-- **Every committed vault is readable again**, at every point of a run. -/
theorem vault_readable_run (h₀ : Unlocked o size s₀)
    (hes : Run.Meets (step o size) s₀ (KeepsLimits o) es) (n : ℕ) : ReadableAt o size s₀ es n := by
  have hsound : Sound o size (Run.stAt (step o size) s₀ es n) :=
    Run.stAt_induction h₀.sound (fun n e he h => sound_step h (hes n e he)) n
  refine ⟨hsound.readable, hsound.documents.disk.1, fun c error => hsound.committing.clean, ?_⟩
  cases he : es[n]? with
  | none => exact Or.inl (by rw [Run.stAt_succ_none he])
  | some e =>
    rw [Run.stAt_succ he]
    rcases step_disk o size (Run.stAt (step o size) s₀ es n) e with hsame | ⟨c, rfl, hwrote, -⟩
    · exact Or.inl hsame
    · exact Or.inr ⟨c, rfl, hwrote⟩

/-! ### Runs on a small vault -/

/-- A project of the portable backend. -/
def sampleOptions : StoreOptions where
  projectId := "11111111-1111-4111-8111-111111111111".toList
  backend := .portableVault
  testMode := false
  uuid := by decide
  lower := by decide

def sampleUuid : Uuid where
  text := "22222222-2222-4222-8222-222222222222".toList
  uuid := by decide
  lower := by decide

def sampleSlot : Uuid where
  text := "33333333-3333-4333-8333-333333333333".toList
  uuid := by decide
  lower := by decide

def sampleNow : Now := ⟨"2026-01-01T00:00:00.000Z", by decide⟩

def samplePassphrase : Bytes := List.replicate 12 97

/-- About the length of a document as JSON. -/
def sampleSize (d : VaultDisk) : ℕ := 1000 + 1500 * d.records.length

/-- A new vault. -/
def sampleVault : VaultDisk where
  vaultId := sampleSlot.text
  projectId := sampleOptions.projectId
  createdAt := sampleNow.1
  updatedAt := sampleNow.1
  generation := 0
  kdf := productionKdf 1
  keyWrap := encryptAead (.random 0) (.derived samplePassphrase (productionKdf 1))
    ⟨sampleSlot.text, sampleOptions.projectId, productionKdf 1⟩ 2
  records := []

/-- The store after the vault has been initialized and unlocked. -/
def sampleState : State where
  disk := sampleVault
  holder := none
  masterKey := some 0
  state := .unlocked
  generation := 0
  buffers := fun _ => .random 0
  fresh := 1
  random := 3
  now := sampleNow
  locks := 0
  begun := fun _ => 0
  wrote := fun _ => false
  pc := fun _ => .idle
  result := fun _ => none

theorem sampleState_unlocked : Unlocked sampleOptions sampleSize sampleState := by
  refine ⟨⟨?_, ⟨samplePassphrase, ?_⟩, fun r hr => absurd hr List.not_mem_nil⟩, by decide, by decide,
    ⟨0, by decide, rfl, rfl⟩, rfl, rfl, fun _ => rfl, fun _ => ⟨rfl, rfl⟩, fun _ => le_rfl⟩
  · exact decodeVault_ok.2 ⟨by decide, (kdf_valid 1).2, Nat.zero_le _, by decide, rfl,
      fun r hr => absurd hr List.not_mem_nil, List.nodup_nil, by decide⟩
  · exact decryptAead_ok.2 ⟨rfl, rfl, rfl⟩

/-- The store after the first `n` events of a run. -/
def sampleAt (es : List Event) (n : ℕ) : State :=
  Run.stAt (step sampleOptions sampleSize) sampleState es n

def sampleRef : JsString :=
  "secret://v1/project/11111111-1111-4111-8111-111111111111/22222222-2222-4222-8222-222222222222".toList

def sampleScope : SecretScope := ⟨.project, sampleOptions.projectId, sampleOptions.projectId⟩

/-- The call creates a secret. -/
def sampleCreate : Operation :=
  .createSecret ⟨sampleOptions.projectId, .apiCredential, sampleScope, [1, 2, 3], none, none⟩ sampleUuid
    sampleSlot

/-- A Secure Export with one secret. -/
def samplePayload : SecureExportPayload where
  projectId := sampleOptions.projectId
  records := [⟨{
    ref := sampleRef
    secretId := sampleUuid.text
    projectId := sampleOptions.projectId
    scope := sampleScope
    kind := .apiCredential
    backend := .portableVault
    createdAt := sampleNow.1
    updatedAt := sampleNow.1
    lastRotatedAt := none
    version := 1
    lifecycleState := .active
    displayLabel := none
    secureExportPolicy := .allowed
    keySlotId := keySlotId sampleSlot
    migrationState := .current }, [1, 2, 3], sampleSlot⟩]

/-- A secret is created while a rotation of the vault waits for the lock; then it is replaced. -/
def quietRun : List Event :=
  [.call 0 sampleCreate] ++ List.replicate 3 (.next 0) ++
    [.call 1 (.rotateVaultProtection (samplePassphrase ++ [98]) sampleUuid)] ++
    List.replicate 3 (.next 1) ++ List.replicate 4 (.next 0) ++
    [.call 2 (.replaceSecret sampleOptions.projectId sampleRef [4, 5] none)] ++ List.replicate 7 (.next 2)

theorem quietRun_meets :
    Run.Meets (step sampleOptions sampleSize) sampleState (KeepsLimits sampleOptions) quietRun := by
  decide +kernel

/-- A run to which the condition applies, with a call that throws. -/
theorem vault_readable_run_quietRun : ReadableAt sampleOptions sampleSize sampleState quietRun 20 :=
  vault_readable_run sampleState_unlocked quietRun_meets 20

/-- The same Secure Export is imported twice at the same time. -/
def overlappingImports : List Event :=
  [.call 0 (.importSecretsEncrypted sampleOptions.projectId samplePayload),
    .call 1 (.importSecretsEncrypted sampleOptions.projectId samplePayload)] ++
    List.replicate 3 (.next 0) ++ List.replicate 3 (.next 1) ++ List.replicate 7 (.next 0) ++
    List.replicate 6 (.next 1)

theorem overlappingImports_facts :
    (sampleAt overlappingImports 21).result 0 = some (.ok ()) ∧
      (sampleAt overlappingImports 21).result 1 = some (.error .formatUnsupported) ∧
      (sampleAt overlappingImports 21).wrote 1 = true ∧
      readDisk sampleOptions sampleSize (sampleAt overlappingImports 21).disk =
        .error .formatUnsupported := by
  decide +kernel

/-- **The vault is lost**: neither import finds a conflict, the second one writes the secret
again and throws, and the file with two records of one identifier is not read any more. -/
theorem overlappingImports_unreadable :
    Unlocked sampleOptions sampleSize sampleState ∧
      ¬ReadableAt sampleOptions sampleSize sampleState overlappingImports 21 ∧
      (sampleAt overlappingImports 21).result 0 = some (.ok ()) ∧
      (sampleAt overlappingImports 21).result 1 = some (.error .formatUnsupported) ∧
      (sampleAt overlappingImports 21).wrote 1 = true := by
  obtain ⟨hfirst, hsecond, hwrote, hread⟩ := overlappingImports_facts
  refine ⟨sampleState_unlocked, fun ⟨hreadable, _⟩ => ?_, hfirst, hsecond, hwrote⟩
  exact absurd (hread.symm.trans hreadable) nofun

end OfflineWebArchiver.VaultStore
