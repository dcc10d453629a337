import OfflineWebArchiver.Lib.Run
import OfflineWebArchiver.Vault.Input

/-!
# The vault store

One `PortableVaultSecretStore` with any number of pending calls. A call runs from one
`await` to the next without interruption; between two of its parts other calls run, the
store is locked, and time passes.

* `step`: a call begins or goes on, an operation fails, `lock()`.
* `Documents`, `documents_step`: a property of the documents that reading, mutating and
  rotating keep holds of the file and of what the pending calls hold.
-/

namespace OfflineWebArchiver.VaultStore

/-- The states that a store with a vault file goes through. -/
inductive VaultState
  | uninitialized | locked | unlocked | rotating
deriving DecidableEq

/-- Where a call stands. The part of the code that is named runs next; a key is the buffer
that the call holds on to. -/
inductive Pc
  | idle
  /-- `acquireVaultLock`, in `mutateRecords`. -/
  | acquire (m : Mutation) (key : ℕ)
  /-- `readDisk()` with the lock held. -/
  | read (m : Mutation) (key : ℕ)
  /-- The check of the generation, and the new document. -/
  | compute (m : Mutation) (key : ℕ) (disk : VaultDisk)
  /-- `atomicWriteJson(vaultPath, next)`, up to the `rename`. -/
  | write (rotation : Bool) (next : VaultDisk)
  /-- The directory is synced, and `readDisk()` again. -/
  | verify (rotation : Bool) (next : VaultDisk)
  /-- What was read is compared with `next`, and the store takes it over. -/
  | settle (rotation : Bool) (next verified : VaultDisk)
  | release (rotation : Bool) (outcome : Except SecretError Unit)
  /-- The Secure Export is read and decrypted. -/
  | importFile (payload : SecureExportPayload) (key : ℕ)
  /-- `readDisk()` without the lock. -/
  | importRead (items : List (SecretMetadata × Bytes)) (key : ℕ)
  /-- The search for conflicting identifiers. -/
  | importCheck (items : List (SecretMetadata × Bytes)) (key : ℕ) (disk : VaultDisk)
  /-- `readDisk()` of `rotateVaultProtection`, without the lock. -/
  | rotateRead (passphrase : Bytes) (vaultId : Uuid) (key : ℕ)
  /-- All records are decrypted and encrypted again. -/
  | rotatePrepare (passphrase : Bytes) (vaultId : Uuid) (key : ℕ) (disk : VaultDisk)
  | rotateAcquire (disk next : VaultDisk)
  /-- `readDisk()` with the lock held, compared with `disk`. -/
  | rotateCheck (disk next : VaultDisk)
  /-- The `finally` that sets the state. -/
  | rotateEnd (outcome : Except SecretError Unit)
  | unlockRead (passphrase : Bytes)
  /-- The key is derived and the master key unwrapped. -/
  | unlockFinish (passphrase : Bytes) (disk : VaultDisk)

/-- What a caller asks for, with what the call draws before it waits. -/
inductive Operation
  | createSecret (input : SecretCreateInput) (id slot : Uuid)
  | replaceSecret (projectId ref : JsString) (value : Bytes) (displayLabel : Option (Option JsString))
  | deleteSecret (projectId ref : JsString)
  | rotateSecret (projectId ref : JsString)
  | rotateVaultProtection (newPassphrase : Bytes) (vaultId : Uuid)
  | importSecretsEncrypted (projectId : JsString) (payload : SecureExportPayload)
  | unlock (passphrase : Bytes)
deriving DecidableEq

structure State where
  /-- The vault file. -/
  disk : VaultDisk
  /-- The call that has the vault lock. -/
  holder : Option ℕ
  /-- `this.masterKey`, as the number of a buffer. -/
  masterKey : Option ℕ
  state : VaultState
  generation : ℕ
  /-- The content of the key buffers. -/
  buffers : ℕ → Key
  /-- The number of the next buffer. -/
  fresh : ℕ
  /-- The next number to be drawn. -/
  random : ℕ
  now : Now
  /-- How often `lock()` has been called. -/
  locks : ℕ
  /-- The value of `locks` when a call began. -/
  begun : ℕ → ℕ
  /-- The call has replaced the vault file. -/
  wrote : ℕ → Bool
  pc : ℕ → Pc
  /-- What the last call with this number returned or threw. -/
  result : ℕ → Option (Except SecretError Unit)

inductive Event
  | call (c : ℕ) (operation : Operation)
  | next (c : ℕ)
  /-- An operation on files fails, and the call throws. -/
  | fault (c : ℕ)
  /-- `lock()`, also by the inactivity timer. -/
  | lock
  | time (now : Now)
deriving DecidableEq

variable (o : StoreOptions) (size : VaultDisk → ℕ)

/-! ### The parts of the code -/

/-- `readDisk()`. `size` is the length of a document as JSON. -/
def readDisk (disk : VaultDisk) : Except SecretError VaultDisk :=
  if maxVaultBytes < size disk then throw .valueTooLarge else decodeVault disk o.projectId o.backend

def State.requireMasterKey (s : State) : Except SecretError ℕ :=
  if s.state = .uninitialized then throw .storeUninitialized
  else
    match s.masterKey with
    | none => throw .storeLocked
    | some key => if s.state ≠ .unlocked then throw .storeLocked else pure key

/-- `clearBytes(this.masterKey)`. -/
def State.clearBytes (s : State) : State :=
  { s with buffers := s.masterKey.elim s.buffers fun b => Function.update s.buffers b .zero }

/-- A new buffer becomes the master key. -/
def State.setMaster (s : State) (key : Key) : State :=
  { s with
    masterKey := some s.fresh
    buffers := Function.update s.buffers s.fresh key
    fresh := s.fresh + 1 }

def State.clearMaster (s : State) : State := { s.clearBytes with masterKey := none, generation := 0 }

def State.put (s : State) (c : ℕ) (pc : Pc) : State := { s with pc := Function.update s.pc c pc }

/-- The call returns or throws. -/
def State.finish (s : State) (c : ℕ) (outcome : Except SecretError Unit) : State :=
  { s with pc := Function.update s.pc c .idle, result := Function.update s.result c (some outcome) }

/-- The last `finally` of `rotateVaultProtection`. -/
def State.endRotation (s : State) (c : ℕ) (outcome : Except SecretError Unit) : State :=
  { s with state := if s.masterKey = none then .locked else .unlocked }.finish c outcome

/-- The keys that `unlock` derives and unwraps. -/
def unlockKey (disk : VaultDisk) (passphrase : Bytes) : Except SecretError Key := do
  validatePassphrase passphrase
  if !disk.kdf.valid then throw .kdfInvalid else unwrapKey disk passphrase

/-- `mutateRecords` up to its first `await`. -/
def State.mutateRecords (s : State) (m : Mutation) : Except SecretError Pc := do
  let key ← s.requireMasterKey
  pure (.acquire m key)

/-- A call up to its first `await`. -/
def start (s : State) : Operation → Except SecretError Pc
  | .createSecret input id slot => do
    let m ← createSecret o input id slot s.now
    s.mutateRecords m
  | .replaceSecret projectId ref value displayLabel => do
    let m ← replaceSecret o projectId ref value displayLabel
    s.mutateRecords m
  | .deleteSecret projectId ref => do
    let m ← deleteSecret o projectId ref
    s.mutateRecords m
  | .rotateSecret projectId ref => do
    let m ← rotateSecret o projectId ref
    s.mutateRecords m
  | .rotateVaultProtection newPassphrase vaultId => do
    validatePassphrase newPassphrase
    let key ← s.requireMasterKey
    pure (.rotateRead newPassphrase vaultId key)
  | .importSecretsEncrypted projectId payload => do
    ensureProject o projectId
    let key ← s.requireMasterKey
    pure (.importFile payload key)
  | .unlock passphrase => pure (.unlockRead passphrase)

/-- A call that begins. -/
def State.begin (s : State) (c : ℕ) (pc : Pc) : State :=
  { s with
    pc := Function.update s.pc c pc
    result := Function.update s.result c none
    begun := Function.update s.begun c s.locks
    wrote := Function.update s.wrote c false }

@[simp] theorem State.begin_pc (s : State) (c : ℕ) (pc : Pc) :
    (s.begin c pc).pc = Function.update s.pc c pc := rfl

@[simp] theorem State.begin_begun (s : State) (c : ℕ) (pc : Pc) :
    (s.begin c pc).begun = Function.update s.begun c s.locks := rfl

@[simp] theorem State.begin_wrote (s : State) (c : ℕ) (pc : Pc) :
    (s.begin c pc).wrote = Function.update s.wrote c false := rfl

@[simp] theorem State.begin_result (s : State) (c : ℕ) (pc : Pc) :
    (s.begin c pc).result = Function.update s.result c none := rfl

/-- A call that throws before it waits. -/
def State.refuse (s : State) (c : ℕ) (error : SecretError) : State :=
  { s with
    result := Function.update s.result c (some (.error error))
    wrote := Function.update s.wrote c false }

/-- The next part of a call. -/
def advance (s : State) (c : ℕ) : State :=
  match s.pc c with
  | .idle => s
  | .acquire m key =>
    if s.holder.isSome then s.finish c (.error .storeBusy)
    else { s with holder := some c }.put c (.read m key)
  | .read m key =>
    match readDisk o size s.disk with
    | .error e => s.put c (.release false (.error e))
    | .ok disk => s.put c (.compute m key disk)
  | .compute m key disk =>
    if disk.generation ≠ s.generation then s.put c (.release false (.error .storeBusy))
    else
      match m.apply o disk (s.buffers key) s.random s.now with
      | .error e => s.put c (.release false (.error e))
      | .ok next =>
        if next.generation ≤ disk.generation then s.put c (.release false (.error .operationFailed))
        else { s with random := s.random + m.draws }.put c (.write false next)
  | .write rotation next =>
    if maxVaultBytes < size next then s.put c (.release rotation (.error .valueTooLarge))
    else { s with disk := next, wrote := Function.update s.wrote c true }.put c (.verify rotation next)
  | .verify rotation next =>
    match readDisk o size s.disk with
    | .error e => s.put c (.release rotation (.error e))
    | .ok verified => s.put c (.settle rotation next verified)
  | .settle rotation next verified =>
    if verified.generation ≠ next.generation then s.put c (.release rotation (.error .tamperDetected))
    else if rotation then
      { s.clearBytes.setMaster next.masterKey with generation := verified.generation }.put c
        (.release rotation (.ok ()))
    else { s with generation := verified.generation }.put c (.release rotation (.ok ()))
  | .release rotation outcome =>
    if rotation then { s with holder := none }.put c (.rotateEnd outcome)
    else { s with holder := none }.finish c outcome
  | .importFile payload key =>
    match decodePayload o payload s.now with
    | .error e => s.finish c (.error e)
    | .ok items => s.put c (.importRead items key)
  | .importRead items key =>
    match readDisk o size s.disk with
    | .error e => s.finish c (.error e)
    | .ok disk => s.put c (.importCheck items key disk)
  | .importCheck items key disk =>
    if items.any (fun item => disk.records.any fun r => r.secretId == item.1.secretId) then
      s.finish c (.error .importFailed)
    else
      match s.requireMasterKey with
      | .error e => s.finish c (.error e)
      | .ok _ => s.put c (.acquire (.importSecrets items) key)
  | .rotateRead passphrase vaultId key =>
    match readDisk o size s.disk with
    | .error e => s.finish c (.error e)
    | .ok disk => s.put c (.rotatePrepare passphrase vaultId key disk)
  | .rotatePrepare passphrase vaultId key disk =>
    match rotateDocument o disk (s.buffers key) passphrase vaultId s.random s.now with
    | .error e => s.endRotation c (.error e)
    | .ok next =>
      { s with state := .rotating, random := s.random + rotationDraws disk }.put c
        (.rotateAcquire disk next)
  | .rotateAcquire disk next =>
    if s.holder.isSome then s.endRotation c (.error .storeBusy)
    else { s with holder := some c }.put c (.rotateCheck disk next)
  | .rotateCheck disk next =>
    match readDisk o size s.disk with
    | .error e => s.put c (.release true (.error e))
    | .ok current =>
      if current.generation ≠ disk.generation ∨ current.vaultId ≠ disk.vaultId then
        s.put c (.release true (.error .storeBusy))
      else s.put c (.write true next)
  | .rotateEnd outcome => s.endRotation c outcome
  | .unlockRead passphrase =>
    match readDisk o size s.disk with
    | .error e => s.finish c (.error e)
    | .ok disk => s.put c (.unlockFinish passphrase disk)
  | .unlockFinish passphrase disk =>
    match unlockKey disk passphrase with
    | .error _ => { s.clearMaster with state := .locked }.finish c (.error .unlockFailed)
    | .ok key =>
      { s.clearMaster.setMaster key with generation := disk.generation, state := .unlocked }.finish c
        (.ok ())

/-- A failing operation on files: the lock, a read or a write. A write that fails leaves the
file as it was, also when the staging file has been removed by another read. Where an
unlock fails so, the attempts are rate-limited. -/
def fail (s : State) (c : ℕ) : State :=
  match s.pc c with
  | .acquire _ _ | .importFile _ _ | .importRead _ _ | .rotateRead _ _ _ | .unlockRead _
  | .unlockFinish _ _ => s.finish c (.error .operationFailed)
  | .read _ _ => s.put c (.release false (.error .operationFailed))
  | .write rotation _ | .verify rotation _ => s.put c (.release rotation (.error .operationFailed))
  | .rotateAcquire _ _ => s.endRotation c (.error .operationFailed)
  | .rotateCheck _ _ => s.put c (.release true (.error .operationFailed))
  | _ => s

def State.lock (s : State) : State :=
  { s.clearMaster with
    state := if s.state = .uninitialized then .uninitialized else .locked
    locks := s.locks + 1 }

/-- A step of the store. -/
def step (s : State) : Event → State
  | .call c operation =>
    match s.pc c with
    | .idle =>
      match start o s operation with
      | .error e => s.refuse c e
      | .ok pc => s.begin c pc
    | _ => s
  | .next c => advance o size s c
  | .fault c => fail s c
  | .lock => s.lock
  | .time now => { s with now := now }

/-! ### The documents that a store deals with -/

/-- The documents that a call holds. -/
def Pc.documents : Pc → List VaultDisk
  | .compute _ _ disk | .importCheck _ _ disk | .rotatePrepare _ _ _ disk | .unlockFinish _ disk => [disk]
  | .write _ next | .verify _ next => [next]
  | .settle _ next verified => [next, verified]
  | .rotateAcquire disk next | .rotateCheck disk next => [disk, next]
  | _ => []

/-- The mutation that a call is about to make. -/
def Pc.mutation : Pc → Option Mutation
  | .acquire m _ | .read m _ | .compute m _ _ => some m
  | .importRead items _ | .importCheck items _ _ => some (.importSecrets items)
  | _ => none

/-- The file and every document held satisfy a property, and every mutation is ready. The
property may depend on the numbers drawn so far. -/
structure Documents (D : ℕ → VaultDisk → Prop) (s : State) : Prop where
  disk : D s.random s.disk
  pending : ∀ c, ∀ d ∈ (s.pc c).documents, D s.random d
  ready : ∀ c, ∀ m ∈ (s.pc c).mutation, m.Ready o

/-- The property survives reading, mutating and rotating in a state where the condition
`C` allows the step. -/
structure Kept (D : ℕ → VaultDisk → Prop) (C : State → Event → Prop) : Prop where
  mono : ∀ {n n' d}, n ≤ n' → D n d → D n' d
  read : ∀ {n d d'}, D n d → readDisk o size d = .ok d' → D n d'
  mutate : ∀ {s c m key disk next}, C s (.next c) → s.pc c = .compute m key disk →
    disk.generation = s.generation → m.Ready o → D s.random disk →
    m.apply o disk (s.buffers key) s.random s.now = .ok next → D (s.random + m.draws) next
  rotate : ∀ {s c passphrase vaultId key disk next}, C s (.next c) →
    s.pc c = .rotatePrepare passphrase vaultId key disk → D s.random disk →
    rotateDocument o disk (s.buffers key) passphrase vaultId s.random s.now = .ok next →
    D (s.random + rotationDraws disk) next

variable {o size}
variable {D : ℕ → VaultDisk → Prop} {C : State → Event → Prop} {s s' : State} {c : ℕ} {pc : Pc}
  {outcome : Except SecretError Unit}

/-- A step that leaves the file and the drawn numbers. -/
theorem Documents.quiet (h : Documents o D s) (hpc : s'.pc = Function.update s.pc c pc)
    (hdisk : s'.disk = s.disk) (hrandom : s'.random = s.random)
    (hdocs : ∀ d ∈ pc.documents, D s.random d) (hready : ∀ m ∈ pc.mutation, m.Ready o) :
    Documents o D s' := by
  refine ⟨by rw [hdisk, hrandom]; exact h.disk, fun c' => ?_, fun c' => ?_⟩
  · rw [hpc, hrandom]
    by_cases hc : c' = c
    · subst hc; rw [Function.update_self]; exact hdocs
    · rw [Function.update_of_ne hc]; exact h.pending c'
  · rw [hpc]
    by_cases hc : c' = c
    · subst hc; rw [Function.update_self]; exact hready
    · rw [Function.update_of_ne hc]; exact h.ready c'

/-- A call that goes on with a mutation. -/
theorem Documents.mutating (h : Documents o D s) (hpc : s'.pc = Function.update s.pc c pc)
    (hdisk : s'.disk = s.disk) (hrandom : s'.random = s.random) (hdocs : pc.documents = [])
    (hready : ∀ m ∈ pc.mutation, m.Ready o) : Documents o D s' := by
  refine h.quiet hpc hdisk hrandom (fun d hd => ?_) hready
  rw [hdocs] at hd; cases hd

/-- A call that goes on with documents. -/
theorem Documents.holding (h : Documents o D s) (hpc : s'.pc = Function.update s.pc c pc)
    (hdisk : s'.disk = s.disk) (hrandom : s'.random = s.random)
    (hdocs : ∀ d ∈ pc.documents, D s.random d) (hmutation : pc.mutation = none) : Documents o D s' := by
  refine h.quiet hpc hdisk hrandom hdocs fun m hm => ?_
  rw [hmutation] at hm; cases hm

/-- A call that goes on without documents. -/
theorem Documents.drop (h : Documents o D s) (hpc : s'.pc = Function.update s.pc c pc)
    (hdisk : s'.disk = s.disk) (hrandom : s'.random = s.random) (hdocs : pc.documents = [])
    (hmutation : pc.mutation = none) : Documents o D s' := by
  refine h.mutating hpc hdisk hrandom hdocs fun m hm => ?_
  rw [hmutation] at hm; cases hm

/-- A call that has drawn numbers for a new document. -/
theorem Documents.draw (h : Documents o D s) (hk : Kept o size D C) {n : ℕ} (hn : s.random ≤ n)
    (hpc : s'.pc = Function.update s.pc c pc) (hdisk : s'.disk = s.disk) (hrandom : s'.random = n)
    (hdocs : ∀ d ∈ pc.documents, D n d) (hmutation : pc.mutation = none) : Documents o D s' := by
  refine ⟨by rw [hdisk, hrandom]; exact hk.mono hn h.disk, fun c' => ?_, fun c' => ?_⟩
  · rw [hpc, hrandom]
    by_cases hc : c' = c
    · subst hc; rw [Function.update_self]; exact hdocs
    · rw [Function.update_of_ne hc]; exact fun d hd => hk.mono hn (h.pending c' d hd)
  · rw [hpc]
    by_cases hc : c' = c
    · subst hc
      rw [Function.update_self, hmutation]
      exact fun m hm => absurd hm (Option.not_mem_none m)
    · rw [Function.update_of_ne hc]; exact h.ready c'

/-- A call that has read the file. -/
theorem Documents.reading (h : Documents o D s) (hk : Kept o size D C) {disk : VaultDisk}
    (hread : readDisk o size s.disk = .ok disk) (hpc : s'.pc = Function.update s.pc c pc)
    (hdisk : s'.disk = s.disk) (hrandom : s'.random = s.random)
    (hdocs : ∀ d ∈ pc.documents, d = disk ∨ d ∈ (s.pc c).documents)
    (hmutation : pc.mutation = none ∨ pc.mutation = (s.pc c).mutation) : Documents o D s' := by
  refine h.quiet hpc hdisk hrandom (fun d hd => ?_) fun m hm => ?_
  · rcases hdocs d hd with rfl | hd
    · exact hk.read h.disk hread
    · exact h.pending c d hd
  · rcases hmutation with hnone | hsame
    · rw [hnone] at hm; cases hm
    · exact h.ready c m (hsame ▸ hm)

theorem mutateRecords_ok {m : Mutation} (h : s.mutateRecords m = .ok pc) :
    ∃ key, s.requireMasterKey = .ok key ∧ pc = .acquire m key := by
  obtain ⟨key, hkey, h⟩ := Checks.bind_ok.1 h
  exact ⟨key, hkey, (Checks.pure_ok.1 h).symm⟩

/-- **What a call has when it begins to wait.** -/
theorem start_ok {operation : Operation} (h : start o s operation = .ok pc) :
    (∃ m key, m.Ready o ∧ s.requireMasterKey = .ok key ∧ pc = .acquire m key) ∨
    (∃ newPassphrase vaultId key, s.requireMasterKey = .ok key ∧
      pc = .rotateRead newPassphrase vaultId key) ∨
    (∃ payload key, s.requireMasterKey = .ok key ∧ pc = .importFile payload key) ∨
    ∃ passphrase, operation = .unlock passphrase ∧ pc = .unlockRead passphrase := by
  cases operation with
  | createSecret input id slot =>
    simp only [start, Checks.bind_ok] at h
    obtain ⟨m, hm, h⟩ := h
    obtain ⟨key, hkey, hpc⟩ := mutateRecords_ok h
    exact Or.inl ⟨m, key, createSecret_ready hm, hkey, hpc⟩
  | replaceSecret projectId ref value displayLabel =>
    simp only [start, Checks.bind_ok] at h
    obtain ⟨m, hm, h⟩ := h
    obtain ⟨key, hkey, hpc⟩ := mutateRecords_ok h
    exact Or.inl ⟨m, key, replaceSecret_ready hm, hkey, hpc⟩
  | deleteSecret projectId ref =>
    simp only [start, Checks.bind_ok] at h
    obtain ⟨m, hm, h⟩ := h
    obtain ⟨key, hkey, hpc⟩ := mutateRecords_ok h
    exact Or.inl ⟨m, key, deleteSecret_ready hm, hkey, hpc⟩
  | rotateSecret projectId ref =>
    simp only [start, Checks.bind_ok] at h
    obtain ⟨m, hm, h⟩ := h
    obtain ⟨key, hkey, hpc⟩ := mutateRecords_ok h
    exact Or.inl ⟨m, key, rotateSecret_ready hm, hkey, hpc⟩
  | rotateVaultProtection newPassphrase vaultId =>
    simp only [start, Checks.bind_ok, Checks.pure_ok] at h
    obtain ⟨_, -, key, hkey, rfl⟩ := h
    exact Or.inr (Or.inl ⟨newPassphrase, vaultId, key, hkey, rfl⟩)
  | importSecretsEncrypted projectId payload =>
    simp only [start, Checks.bind_ok, Checks.pure_ok] at h
    obtain ⟨_, -, key, hkey, rfl⟩ := h
    exact Or.inr (Or.inr (Or.inl ⟨payload, key, hkey, rfl⟩))
  | unlock passphrase =>
    simp only [start, Checks.pure_ok] at h
    exact Or.inr (Or.inr (Or.inr ⟨passphrase, rfl, h.symm⟩))

theorem documents_advance (hk : Kept o size D C) (hC : C s (.next c)) (h : Documents o D s) :
    Documents o D (advance o size s c) := by
  have hdocs := h.pending c
  have hready := h.ready c
  unfold advance
  cases hpc : s.pc c with
  | idle => exact h
  | acquire m key =>
    rw [hpc] at hready
    simp only
    split_ifs
    · exact h.drop rfl rfl rfl rfl rfl
    · exact h.mutating rfl rfl rfl rfl hready
  | read m key =>
    simp only
    split
    · exact h.drop rfl rfl rfl rfl rfl
    next disk hread =>
    refine h.reading hk hread rfl rfl rfl (fun d hd => Or.inl (List.mem_singleton.1 hd)) (Or.inr ?_)
    rw [hpc]; rfl
  | compute m key disk =>
    rw [hpc] at hdocs hready
    simp only
    split_ifs with hgeneration
    · exact h.drop rfl rfl rfl rfl rfl
    split
    · exact h.drop rfl rfl rfl rfl rfl
    next next happly =>
    split_ifs
    · exact h.drop rfl rfl rfl rfl rfl
    · refine h.draw hk (Nat.le_add_right _ m.draws) rfl rfl rfl (fun d hd => ?_) rfl
      obtain rfl := List.mem_singleton.1 hd
      exact hk.mutate hC hpc (not_not.1 hgeneration) (hready m rfl) (hdocs _ List.mem_cons_self) happly
  | write rotation next =>
    rw [hpc] at hdocs
    simp only
    split_ifs
    · exact h.drop rfl rfl rfl rfl rfl
    · -- the file is replaced by a document that the call holds
      have hnext : D s.random next := hdocs _ List.mem_cons_self
      have hreplaced : Documents o D { s with disk := next, wrote := Function.update s.wrote c true } :=
        ⟨hnext, h.pending, h.ready⟩
      refine hreplaced.holding rfl rfl rfl (fun d hd => ?_) rfl
      obtain rfl := List.mem_singleton.1 hd
      exact hnext
  | verify rotation next =>
    simp only
    split
    · exact h.drop rfl rfl rfl rfl rfl
    next verified hread =>
    refine h.reading hk hread rfl rfl rfl (fun d hd => ?_) (Or.inl rfl)
    rw [hpc]
    rcases List.mem_cons.1 hd with rfl | hd
    · exact Or.inr List.mem_cons_self
    · exact Or.inl (List.mem_singleton.1 hd)
  | settle rotation next verified =>
    simp only
    split_ifs
    · exact h.drop rfl rfl rfl rfl rfl
    · exact h.drop rfl rfl rfl rfl rfl
    · exact h.drop rfl rfl rfl rfl rfl
  | release rotation outcome =>
    simp only
    split_ifs
    · exact h.drop rfl rfl rfl rfl rfl
    · exact h.drop rfl rfl rfl rfl rfl
  | importFile payload key =>
    simp only
    split
    · exact h.drop rfl rfl rfl rfl rfl
    next items hitems =>
    refine h.mutating rfl rfl rfl rfl fun m hm => ?_
    obtain rfl := Option.some.inj hm
    exact decodePayload_ready hitems
  | importRead items key =>
    simp only
    split
    · exact h.drop rfl rfl rfl rfl rfl
    next disk hread =>
    refine h.reading hk hread rfl rfl rfl (fun d hd => Or.inl (List.mem_singleton.1 hd)) (Or.inr ?_)
    rw [hpc]; rfl
  | importCheck items key disk =>
    rw [hpc] at hready
    simp only
    split_ifs
    · exact h.drop rfl rfl rfl rfl rfl
    split
    · exact h.drop rfl rfl rfl rfl rfl
    · exact h.mutating rfl rfl rfl rfl hready
  | rotateRead passphrase vaultId key =>
    simp only
    split
    · exact h.drop rfl rfl rfl rfl rfl
    next disk hread =>
    exact h.reading hk hread rfl rfl rfl (fun d hd => Or.inl (List.mem_singleton.1 hd)) (Or.inl rfl)
  | rotatePrepare passphrase vaultId key disk =>
    rw [hpc] at hdocs
    simp only
    split
    · exact h.drop rfl rfl rfl rfl rfl
    next next hrotate =>
    have hdisk : D s.random disk := hdocs _ List.mem_cons_self
    have hle := Nat.le_add_right s.random (rotationDraws disk)
    refine h.draw hk hle rfl rfl rfl (fun d hd => ?_) rfl
    rcases List.mem_cons.1 hd with rfl | hd
    · exact hk.mono hle hdisk
    · obtain rfl := List.mem_singleton.1 hd
      exact hk.rotate hC hpc hdisk hrotate
  | rotateAcquire disk next =>
    rw [hpc] at hdocs
    simp only
    split_ifs
    · exact h.drop rfl rfl rfl rfl rfl
    · exact h.holding rfl rfl rfl hdocs rfl
  | rotateCheck disk next =>
    rw [hpc] at hdocs
    simp only
    split
    · exact h.drop rfl rfl rfl rfl rfl
    split_ifs
    · exact h.drop rfl rfl rfl rfl rfl
    · exact h.holding rfl rfl rfl (fun d hd => hdocs d (List.mem_cons_of_mem _ hd)) rfl
  | rotateEnd outcome => exact h.drop rfl rfl rfl rfl rfl
  | unlockRead passphrase =>
    simp only
    split
    · exact h.drop rfl rfl rfl rfl rfl
    next disk hread =>
    exact h.reading hk hread rfl rfl rfl (fun d hd => Or.inl (List.mem_singleton.1 hd)) (Or.inl rfl)
  | unlockFinish passphrase disk =>
    simp only
    split
    · exact h.drop rfl rfl rfl rfl rfl
    · exact h.drop rfl rfl rfl rfl rfl

theorem documents_fail (h : Documents o D s) : Documents o D (fail s c) := by
  unfold fail
  split <;> first | exact h | exact h.drop rfl rfl rfl rfl rfl

/-- **What the steps keep of the documents.** -/
theorem documents_step (hk : Kept o size D C) {e : Event} (hC : C s e) (h : Documents o D s) :
    Documents o D (step o size s e) := by
  cases e with
  | call c operation =>
    unfold step
    simp only
    split
    · split
      · exact ⟨h.disk, h.pending, h.ready⟩
      next pc hstart =>
      rcases start_ok hstart with ⟨m, key, hm, -, rfl⟩ | ⟨_, _, key, -, rfl⟩ | ⟨_, key, -, rfl⟩ |
        ⟨passphrase, -, rfl⟩
      · have hready : ∀ m' ∈ (Pc.acquire m key).mutation, m'.Ready o := by
          intro m' hm'
          obtain rfl := Option.some.inj hm'
          exact hm
        exact h.mutating rfl rfl rfl rfl hready
      all_goals exact h.drop rfl rfl rfl rfl rfl
    · exact h
  | next c => exact documents_advance hk hC h
  | fault c => exact documents_fail h
  | lock => exact ⟨h.disk, h.pending, h.ready⟩
  | time now => exact ⟨h.disk, h.pending, h.ready⟩

end OfflineWebArchiver.VaultStore
