import OfflineWebArchiver.Properties.VaultReadable
import OfflineWebArchiver.Vault.Master

/-!
# Does a lock corrupt a pending write

* `vault_keys_run`: every record decrypts with the key of the vault and a locked store stays
  locked, in every run in which no call encrypts with a buffer that has been cleared, and no
  rotation and no unlock that began before a lock sets a master key after it.
* `lockDuringCreate_lost`: neither holds otherwise.
-/

namespace OfflineWebArchiver.VaultStore

/-- The condition on a step: a mutation that encrypts finds the key of the vault in the
buffer that it holds; a rotation or an unlock does not set a master key where there is none
because of a later lock. -/
def KeepsKeys (o : StoreOptions) (s : State) : Event → Prop
  | .next c =>
    match s.pc c with
    | .compute m key disk =>
      disk.generation = s.generation → m.proceeds o disk (s.buffers key) = true →
        m.encrypts = true → s.buffers key = disk.masterKey
    | .settle true next verified =>
      verified.generation = next.generation → s.masterKey = none → s.begun c = s.locks
    | .unlockFinish passphrase disk =>
      (unlockKey disk passphrase).isOk = true → s.masterKey = none → s.begun c = s.locks
    | _ => True
  | _ => True

instance {o : StoreOptions} {s : State} {e : Event} : Decidable (KeepsKeys o s e) :=
  match e with
  | .next c => by
    dsimp only [KeepsKeys]
    exact match s.pc c with
      | .compute .. | .settle true .. | .unlockFinish .. => by dsimp only; infer_instance
      | .settle false .. | .idle | .acquire .. | .read .. | .write .. | .verify .. | .release .. | .importFile ..
      | .importRead .. | .importCheck .. | .rotateRead .. | .rotatePrepare .. | .rotateAcquire .. | .rotateCheck ..
      | .rotateEnd _ | .unlockRead _ => .isTrue trivial
  | .call .. | .fault _ | .lock | .time _ => .isTrue trivial

/-- A document in canonical form whose records decrypt. -/
def Keyed (o : StoreOptions) (_ : ℕ) (d : VaultDisk) : Prop :=
  d.Canonical o.projectId o.backend ∧ DecryptsWith d.masterKey d.records

variable {o : StoreOptions} {size : VaultDisk → ℕ} {s s' s₀ : State} {es : List Event} {e : Event}
  {c m n : ℕ}

theorem keyed_kept : Kept o size (Keyed o) (KeepsKeys o) := by
  refine ⟨fun _ hd => hd, fun {n d d'} hd hread => ?_, ?_, ?_⟩
  · obtain ⟨-, hread⟩ := Checks.guard_ok.1 hread
    obtain rfl := decodeVault_canonical hd.1 hread
    exact hd
  · intro s c m key disk next hC hpc hgeneration hready hd happly
    simp only [KeepsKeys, hpc] at hC
    have hkey := hC hgeneration (apply_proceeds happly)
    exact ⟨apply_canonical hd.1 hready happly, (apply_decrypts hd.2 hkey happly).2⟩
  · intro s c passphrase vaultId key disk next _ _ _ hrotate
    exact ⟨rotateDocument_canonical hrotate, rotateDocument_decrypts hrotate⟩

/-! ### After a lock -/

/-- The store has no master key, and the calls that may set one began before a lock. -/
structure Shut (s : State) : Prop where
  master : s.masterKey = none
  stale : ∀ c, (s.pc c).installs = true → s.begun c < s.locks

theorem Guarded.shut (h : Guarded s) : Shut s.lock :=
  ⟨rfl, fun c _ => Nat.lt_succ_of_le (h.begun c)⟩

/-- A turn of a call sets no master key in a store that is shut. -/
theorem Shut.turn_master (h : Shut s) (ht : Turn s s' c) (hC : KeepsKeys o s (.next c)) :
    s'.masterKey = none := by
  cases ht with
  | goOn frame state master rotates installs => exact master.trans h.master
  | prepare frame state master rotates installs => exact master.trans h.master
  | install frame state master settle rotates =>
    obtain ⟨next, verified, hpc, hgeneration⟩ := settle
    simp only [KeepsKeys, hpc] at hC
    have hold := h.stale c (by rw [hpc]; rfl)
    have hnew := hC hgeneration h.master
    omega
  | endRotation frame state master => exact master.trans h.master
  | unlock frame state master finish =>
    obtain ⟨passphrase, disk, key, hpc, hkey⟩ := finish
    simp only [KeepsKeys, hpc, hkey] at hC
    have hold := h.stale c (by rw [hpc]; rfl)
    have hnew := hC rfl h.master
    omega
  | relock frame state master => exact master

/-- A turn that sets no master key keeps a store shut. -/
theorem Shut.turn (h : Shut s) (ht : Turn s s' c) (hmaster : s'.masterKey = none) :
    Shut s' ∧ ∀ c', (s'.pc c').installs = true → (s.pc c').installs = true := by
  have hstale : ∀ {pc}, Frame s s' c pc → (pc.installs = true → (s.pc c).installs = true) →
      Shut s' ∧ ∀ c', (s'.pc c').installs = true → (s.pc c').installs = true := by
    intro pc frame hinstalls
    have hback : ∀ c', (s'.pc c').installs = true → (s.pc c').installs = true := by
      intro c' hc'
      rw [frame.pc] at hc'
      by_cases hcc : c' = c
      · subst hcc; rw [Function.update_self] at hc'; exact hinstalls hc'
      · rw [Function.update_of_ne hcc] at hc'; exact hc'
    refine ⟨⟨hmaster, fun c' hc' => ?_⟩, hback⟩
    rw [frame.begun, frame.locks]
    exact h.stale c' (hback c' hc')
  cases ht with
  | goOn frame state master rotates installs => exact hstale frame installs
  | prepare frame state master rotates installs => exact hstale frame fun _ => installs
  | install frame state master settle rotates => exact absurd hmaster master
  | endRotation frame state master => exact hstale frame nofun
  | unlock frame state master finish => exact absurd hmaster master
  | relock frame state master => exact hstale frame nofun

/-- A store that is shut stays so, and no call begins that may set a master key. -/
theorem shut_step (h : Shut s) (hC : KeepsKeys o s e)
    (hunlock : ∀ c passphrase, e ≠ .call c (.unlock passphrase)) :
    Shut (step o size s e) ∧
      ∀ c, ((step o size s e).pc c).installs = true → (s.pc c).installs = true := by
  cases e with
  | call c operation =>
    unfold step
    simp only
    split
    · split
      · exact ⟨⟨h.master, h.stale⟩, fun _ hc => hc⟩
      next pc hstart =>
      -- there is no master key to begin with
      have hnone : ∀ {key}, s.requireMasterKey ≠ .ok key := by
        intro key hkey
        unfold State.requireMasterKey at hkey
        rw [h.master] at hkey
        split_ifs at hkey
      rcases start_ok hstart with ⟨_, key, _, hkey, -⟩ | ⟨_, _, key, hkey, -⟩ | ⟨_, key, hkey, -⟩ |
        ⟨passphrase, rfl, -⟩
      · exact absurd hkey hnone
      · exact absurd hkey hnone
      · exact absurd hkey hnone
      · exact absurd rfl (hunlock c passphrase)
    · exact ⟨h, fun _ hc => hc⟩
  | next c =>
    change Shut (advance o size s c) ∧ ∀ c', ((advance o size s c).pc c').installs = true → _
    rcases advance_turn o size s c with hsame | hturn
    · rw [hsame]; exact ⟨h, fun _ hc => hc⟩
    · exact h.turn hturn (h.turn_master hturn hC)
  | fault c =>
    change Shut (fail s c) ∧ ∀ c', ((fail s c).pc c').installs = true → _
    have hmaster : (fail s c).masterKey = none := by
      rw [← h.master]
      unfold fail
      split <;> rfl
    rcases fail_turn s c with hsame | hturn
    · rw [hsame]; exact ⟨h, fun _ hc => hc⟩
    · exact h.turn hturn hmaster
  | lock => exact ⟨⟨rfl, fun c hc => Nat.lt_succ_of_lt (h.stale c hc)⟩, fun _ hc => hc⟩
  | time now => exact ⟨⟨h.master, h.stale⟩, fun _ hc => hc⟩

/-! ### Runs -/

/-- No unlock is called from the event `m` on and before the event `n`. -/
def NoUnlock (es : List Event) (m n : ℕ) : Prop :=
  ∀ k, m ≤ k → k < n → ∀ c passphrase, es[k]? ≠ some (.call c (.unlock passphrase))

/-- Every call that is pending at point `m` has settled at some point up to `n`. -/
def Settled (o : StoreOptions) (size : VaultDisk → ℕ) (s₀ : State) (es : List Event) (m n : ℕ) : Prop :=
  ∀ c, (Run.stAt (step o size) s₀ es m).pc c ≠ .idle →
    ∃ k, m ≤ k ∧ k ≤ n ∧ (Run.stAt (step o size) s₀ es k).pc c = .idle

/-- The promise: at every point of a run every record decrypts with the key of the vault;
and once `lock()` has returned and the calls pending then have settled, the store is locked,
unless an unlock has been called. -/
def KeysHold (o : StoreOptions) (size : VaultDisk → ℕ) (s₀ : State) (es : List Event) : Prop :=
  (∀ n, DecryptsWith (Run.stAt (step o size) s₀ es n).disk.masterKey
    (Run.stAt (step o size) s₀ es n).disk.records) ∧
  ∀ m n, es[m]? = some .lock → m + 1 ≤ n → NoUnlock es (m + 1) n → Settled o size s₀ es (m + 1) n →
    (Run.stAt (step o size) s₀ es n).state = .locked

theorem Unlocked.guarded (h : Unlocked o size s) : Guarded s := by
  refine ⟨by rw [h.unlocked]; decide, fun _ => ?_, fun hs => ?_, h.begun⟩
  · obtain ⟨b, -, hb, -⟩ := h.key
    rw [hb]; exact Option.some_ne_none b
  · rw [h.unlocked] at hs; cases hs

/-- From a lock on, the store stays shut, and a call that may set a master key has been one
that may all the time. -/
theorem shut_run (hes : Run.Meets (step o size) s₀ (KeepsKeys o) es)
    (h : Shut (Run.stAt (step o size) s₀ es m)) (hmn : m ≤ n) (hunlock : NoUnlock es m n) :
    Shut (Run.stAt (step o size) s₀ es n) ∧
      ∀ c, ((Run.stAt (step o size) s₀ es n).pc c).installs = true →
        ∀ k, m ≤ k → k ≤ n → ((Run.stAt (step o size) s₀ es k).pc c).installs = true := by
  induction n with
  | zero =>
    obtain rfl : m = 0 := by omega
    refine ⟨h, fun c hc k hk hk' => ?_⟩
    obtain rfl : k = 0 := by omega
    exact hc
  | succ n ih =>
    rcases Nat.eq_or_lt_of_le hmn with rfl | hlt
    · refine ⟨h, fun c hc k hk hk' => ?_⟩
      obtain rfl : k = n + 1 := by omega
      exact hc
    obtain ⟨hshut, hback⟩ := ih (by omega) fun k hk hk' => hunlock k hk (by omega)
    have hnext : Shut (Run.stAt (step o size) s₀ es (n + 1)) ∧
        ∀ c, ((Run.stAt (step o size) s₀ es (n + 1)).pc c).installs = true →
          ((Run.stAt (step o size) s₀ es n).pc c).installs = true := by
      cases he : es[n]? with
      | none => rw [Run.stAt_succ_none he]; exact ⟨hshut, fun _ hc => hc⟩
      | some e =>
        rw [Run.stAt_succ he]
        refine shut_step hshut (hes n e he) fun c passphrase hcall => ?_
        exact hunlock n (by omega) (by omega) c passphrase (hcall ▸ he)
    refine ⟨hnext.1, fun c hc k hk hk' => ?_⟩
    rcases Nat.eq_or_lt_of_le hk' with rfl | hlt'
    · exact hc
    · exact hback c (hnext.2 c hc) k hk (by omega)

/-- **Locking corrupts no pending write**, and the store stays locked. -/
theorem vault_keys_run (h₀ : Unlocked o size s₀)
    (hes : Run.Meets (step o size) s₀ (KeepsKeys o) es) : KeysHold o size s₀ es := by
  refine ⟨fun n => ?_, fun m n hlock hmn hunlock hsettled => ?_⟩
  · have hstart : Documents o (Keyed o) s₀ := h₀.documents ⟨h₀.good.canonical, h₀.good.decrypts⟩
    have hdocs : Documents o (Keyed o) (Run.stAt (step o size) s₀ es n) :=
      Run.stAt_induction hstart (fun n e he h => documents_step keyed_kept (hes n e he) h) n
    exact hdocs.disk.2
  have hguarded : ∀ n, Guarded (Run.stAt (step o size) s₀ es n) :=
    Run.stAt_induction h₀.guarded fun n e _ h => guarded_step h
  have hshut : Shut (Run.stAt (step o size) s₀ es (m + 1)) := by
    rw [Run.stAt_succ hlock]
    exact (hguarded m).shut
  obtain ⟨hn, hback⟩ := shut_run hes hshut hmn hunlock
  cases hstate : (Run.stAt (step o size) s₀ es n).state with
  | uninitialized => exact absurd hstate (hguarded n).initialized
  | locked => rfl
  | unlocked => exact absurd hn.master ((hguarded n).unlocked hstate)
  | rotating =>
    -- a call that rotates has been pending since the lock, and has not settled
    obtain ⟨c, hc⟩ := (hguarded n).rotating hstate
    have hall := hback c (Pc.installs_of_rotates hc)
    have hpending : (Run.stAt (step o size) s₀ es (m + 1)).pc c ≠ .idle := by
      intro hidle
      have := hall (m + 1) le_rfl hmn
      rw [hidle] at this
      cases this
    obtain ⟨k, hk, hk', hidle⟩ := hsettled c hpending
    have := hall k hk hk'
    rw [hidle] at this
    cases this

/-! ### Runs on the small vault -/

/-- A replacement is pending when the store is locked, in a vault of generation 1. -/
def lockDuringReplace : List Event :=
  [Event.call 0 sampleCreate] ++ List.replicate 7 (Event.next 0) ++
    [Event.call 1 (.replaceSecret sampleOptions.projectId sampleRef [4, 5] none), .lock] ++
    List.replicate 4 (Event.next 1)

theorem lockDuringReplace_meets :
    Run.Meets (step sampleOptions sampleSize) sampleState (KeepsKeys sampleOptions) lockDuringReplace := by
  decide +kernel

/-- A run to which the condition applies. -/
theorem vault_keys_run_lockDuringReplace :
    KeysHold sampleOptions sampleSize sampleState lockDuringReplace :=
  vault_keys_run sampleState_unlocked lockDuringReplace_meets

/-- A secret is being created when the store is locked, in a vault of generation 0. -/
def lockDuringCreate : List Event := [Event.call 0 sampleCreate, .lock] ++ List.replicate 7 (Event.next 0)

/-- The vault is being rotated when the store is locked. -/
def lockDuringRotation : List Event :=
  [Event.call 0 (.rotateVaultProtection samplePassphrase sampleUuid)] ++ List.replicate 2 (Event.next 0) ++
    [Event.lock] ++ List.replicate 7 (Event.next 0)

theorem lockDuringCreate_facts :
    (sampleAt lockDuringCreate 9).result 0 = some (.ok ()) ∧
      ((sampleAt lockDuringCreate 9).disk.records.map fun r =>
        decryptRecord r r.metadata (sampleAt lockDuringCreate 9).disk.masterKey) =
        [.error .authenticationFailure] ∧
      ((sampleAt lockDuringCreate 9).disk.records.map fun r => decryptRecord r r.metadata .zero) =
        [.ok [1, 2, 3]] := by
  decide

/-- **The secret is lost**: the creation commits it under the cleared key, and returns. And
**the store is unlocked** after the lock, when the rotation has returned. -/
theorem lockDuringCreate_lost :
    Unlocked sampleOptions sampleSize sampleState ∧
      ¬KeysHold sampleOptions sampleSize sampleState lockDuringCreate ∧
      (sampleAt lockDuringCreate 9).result 0 = some (.ok ()) ∧
      ((sampleAt lockDuringCreate 9).disk.records.map fun r => decryptRecord r r.metadata .zero) =
        [.ok [1, 2, 3]] ∧
      (sampleAt lockDuringRotation 11).result 0 = some (.ok ()) ∧
      (sampleAt lockDuringRotation 11).state = .unlocked := by
  obtain ⟨hresult, hmaster, hzero⟩ := lockDuringCreate_facts
  refine ⟨sampleState_unlocked, fun ⟨hkeys, _⟩ => ?_, hresult, hzero, by decide⟩
  have hne : (sampleAt lockDuringCreate 9).disk.records ≠ [] := by
    intro hnil
    rw [hnil] at hzero
    cases hzero
  obtain ⟨r, hr⟩ := List.exists_mem_of_ne_nil _ hne
  obtain ⟨value, hvalue⟩ := hkeys 9 r hr
  have hmem := List.mem_map_of_mem (f := fun r =>
    decryptRecord r r.metadata (sampleAt lockDuringCreate 9).disk.masterKey) hr
  rw [hmaster, List.mem_singleton] at hmem
  exact absurd (hvalue.symm.trans hmem) nofun

end OfflineWebArchiver.VaultStore
