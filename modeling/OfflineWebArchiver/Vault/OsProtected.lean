import OfflineWebArchiver.Lib.Run

/-!
# The OS-protected key and its vault

`OsProtectedSecretStore`: `initialize`, `unlock` and `lock` of any number of stores of one project,
interleaved at their `await`s. Every step may fail, and a process may stop before any of them.
The OS encryption is faithful, so the key file is the key that has been written to it, and the
vault the key that unwraps it; a key is named by the `initialize` that has generated it. Nothing
is taken from the vault lock: the steps of two calls may come in any order.

* `step`: a call begins, goes on, fails or stops.
* `Allowed`: what is in the two files when one of them is written or the key file removed, and
  when a call ends early.
* `step_invariant`: what every allowed step keeps.
-/

namespace OfflineWebArchiver.OsProtected

inductive ErrorCode
  | SECRET_ALREADY_EXISTS | SECRET_STORE_UNINITIALIZED | SECRET_UNLOCK_FAILED
deriving DecidableEq

inductive Outcome
  | ok
  /-- The call has found something that it does not accept. -/
  | refused (error : ErrorCode)
  /-- Something that it needs has failed. -/
  | failed
deriving DecidableEq

/-- Where a call stands, at an `await`. -/
inductive Pc (ι : Type)
  | idle
  /-- `pathExists` of the key file -/
  | checking
  /-- `encryptStringAsync`, and `atomicWrite` up to its `rename` -/
  | encrypting
  /-- `atomicWrite` of the key file, after its `rename` -/
  | keyWritten
  /-- `delegate.initialize`: the lock of the vault -/
  | delegating
  /-- `readDisk` -/
  | reading
  /-- `atomicWriteJson` up to its `rename` -/
  | writing
  /-- After the `rename`: `readDisk`, and the release of the lock. -/
  | written
  /-- `rm` of the key file, after the vault has not been initialized. -/
  | removing (outcome : Outcome)
  /-- `readProtectedKey` -/
  | readingKey
  | decrypting (key : ι)
  /-- `atomicWrite` of the key that has been encrypted anew, up to its `rename` -/
  | refreshing (key : ι)
  /-- `delegate.unlock` -/
  | unlocking (key : ι)
  | settled (outcome : Outcome)
  | stopped
deriving DecidableEq

/-- The call is an `initialize` under way. -/
def Pc.initializing {ι : Type} : Pc ι → Bool
  | .checking | .encrypting | .keyWritten | .delegating | .reading | .writing | .written
  | .removing _ => true
  | _ => false

inductive Operation
  | initializeStore | unlock | lock
deriving DecidableEq

structure State (ι : Type) where
  keyFile : Option ι
  vaultFile : Option ι
  pc : ι → Pc ι
  /-- The call is an `unlock` that began when there was a vault. -/
  onVault : ι → Bool

inductive Event (ι : Type)
  | begin (i : ι) (operation : Operation)
  /-- What the call awaits is done; for `decryptStringAsync`, whether the key is to be encrypted
  anew. -/
  | goOn (i : ι) (shouldReEncrypt : Bool)
  | fail (i : ι)
  /-- The process of the call stops. -/
  | stop (i : ι)
deriving DecidableEq

variable {ι : Type} [DecidableEq ι]

def State.put (s : State ι) (i : ι) (pc : Pc ι) : State ι :=
  { s with pc := Function.update s.pc i pc }

def begin (s : State ι) (i : ι) : Operation → State ι
  | .initializeStore => s.put i .checking
  | .unlock =>
    { s with onVault := Function.update s.onVault i s.vaultFile.isSome }.put i .readingKey
  | .lock => s.put i (.settled .ok)

def goOn (s : State ι) (i : ι) (shouldReEncrypt : Bool) : State ι :=
  match s.pc i with
  | .checking =>
    if s.keyFile.isSome then s.put i (.settled (.refused .SECRET_ALREADY_EXISTS))
    else s.put i .encrypting
  | .encrypting => { s with keyFile := some i }.put i .keyWritten
  | .keyWritten => s.put i .delegating
  | .delegating => s.put i .reading
  | .reading =>
    if s.vaultFile.isSome then s.put i (.removing (.refused .SECRET_ALREADY_EXISTS))
    else s.put i .writing
  | .writing => { s with vaultFile := some i }.put i .written
  | .written => s.put i (.settled .ok)
  | .removing outcome => { s with keyFile := none }.put i (.settled outcome)
  | .readingKey =>
    match s.keyFile with
    | none => s.put i (.settled (.refused .SECRET_STORE_UNINITIALIZED))
    | some key => s.put i (.decrypting key)
  | .decrypting key => if shouldReEncrypt then s.put i (.refreshing key) else s.put i (.unlocking key)
  | .refreshing key => { s with keyFile := some key }.put i (.unlocking key)
  | .unlocking key =>
    match s.vaultFile with
    | none => s.put i (.settled (.refused .SECRET_STORE_UNINITIALIZED))
    | some wrapped =>
      if wrapped = key then s.put i (.settled .ok)
      else s.put i (.settled (.refused .SECRET_UNLOCK_FAILED))
  | .idle | .settled _ | .stopped => s

/-- What the call awaits fails; a failed `rm` is ignored. -/
def fail (s : State ι) (i : ι) : State ι :=
  match s.pc i with
  | .delegating | .reading | .writing | .written => s.put i (.removing .failed)
  | .removing outcome => s.put i (.settled outcome)
  | .checking | .encrypting | .keyWritten | .readingKey | .decrypting _ | .refreshing _
  | .unlocking _ => s.put i (.settled .failed)
  | .idle | .settled _ | .stopped => s

def step (s : State ι) : Event ι → State ι
  | .begin i operation => if s.pc i = .idle then begin s i operation else s
  | .goOn i shouldReEncrypt => goOn s i shouldReEncrypt
  | .fail i => fail s i
  | .stop i =>
    match s.pc i with
    | .idle | .settled _ => s
    | _ => s.put i .stopped

/-! ### The condition on a step -/

/-- A call that ends leaves no key of its own without a vault. -/
def Clean (s : State ι) (i : ι) : Prop := s.keyFile = some i → s.vaultFile = some i

instance (s : State ι) (i : ι) : Decidable (Clean s i) :=
  inferInstanceAs (Decidable (_ = _ → _ = _))

/-- What a call that goes on may find. -/
def Finds (s : State ι) (i : ι) : Pc ι → Prop
  | .encrypting | .removing _ => s.vaultFile = none
  | .writing => s.keyFile = some i ∧ s.vaultFile = none
  | .refreshing key => s.keyFile = some key
  | _ => True

instance (s : State ι) (i : ι) : (pc : Pc ι) → Decidable (Finds s i pc)
  | .encrypting | .removing _ => inferInstanceAs (Decidable (s.vaultFile = none))
  | .writing => inferInstanceAs (Decidable (s.keyFile = some i ∧ s.vaultFile = none))
  | .refreshing key => inferInstanceAs (Decidable (s.keyFile = some key))
  | .idle | .checking | .keyWritten | .delegating | .reading | .written | .readingKey
  | .decrypting _ | .unlocking _ | .settled _ | .stopped => .isTrue trivial

/-- The failures after which `initialize` leaves the key file as it is. -/
def Pc.keeps : Pc ι → Bool
  | .keyWritten | .removing _ => true
  | _ => false

/-- **The condition** on a step: the key file is written and removed only while there is no
vault; the vault is written only while there is none and the key file holds its key; a key is
encrypted anew only while the key file holds it; and a call that stops, or fails without removing
the key file, leaves no key of its own without a vault. -/
def Allowed (s : State ι) : Event ι → Prop
  | .goOn i _ => Finds s i (s.pc i)
  | .fail i => (s.pc i).keeps = true → Clean s i
  | .stop i => Clean s i
  | .begin _ _ => True

instance (s : State ι) : (e : Event ι) → Decidable (Allowed s e)
  | .goOn i _ => inferInstanceAs (Decidable (Finds s i (s.pc i)))
  | .fail i => inferInstanceAs (Decidable ((s.pc i).keeps = true → Clean s i))
  | .stop i => inferInstanceAs (Decidable (Clean s i))
  | .begin _ _ => .isTrue trivial

/-! ### What every step keeps -/

/-- The call has written its key and has not given it up. -/
def Pc.holds : Pc ι → Bool
  | .keyWritten | .delegating | .reading | .writing | .written | .removing _ => true
  | _ => false

/-- Where an `unlock` of a vault may stand. -/
def Pc.serves (vault : ι) : Pc ι → Prop
  | .readingKey | .settled .ok | .settled .failed | .stopped => True
  | .decrypting key | .refreshing key | .unlocking key => key = vault
  | _ => False

structure Invariant (s : State ι) : Prop where
  paired : ∀ key, s.vaultFile = some key → s.keyFile = some key
  owned : ∀ key, s.keyFile = some key → s.vaultFile = some key ∨ (s.pc key).holds = true
  unlocks : ∀ i, s.onVault i = true → ∃ vault, s.vaultFile = some vault ∧ (s.pc i).serves vault
  fresh : ∀ i, s.pc i = .idle → s.onVault i = false
  written : ∀ i, s.pc i = .written → s.vaultFile = some i

/-- A vault keeps its key. -/
def Keeps (s s' : State ι) : Prop := ∀ key, s.vaultFile = some key → s'.vaultFile = some key

variable {s : State ι} {i j key : ι} {pc : Pc ι}

@[simp] theorem put_pc_self : (s.put i pc).pc i = pc := Function.update_self ..

theorem put_pc_ne (h : j ≠ i) : (s.put i pc).pc j = s.pc j := Function.update_of_ne h ..

/-- **A call moves on** without a write. -/
theorem Invariant.put (hs : Invariant s) (hidle : pc ≠ .idle) (hwritten : pc ≠ .written)
    (howned : s.keyFile = some i → s.vaultFile = some i ∨ pc.holds = true)
    (hunlocks : ∀ vault, s.vaultFile = some vault → s.onVault i = true → (s.pc i).serves vault →
      pc.serves vault) : Invariant (s.put i pc) := by
  refine ⟨hs.paired, fun key hkey => ?_, fun j hj => ?_, fun j hj => ?_, fun j hj => ?_⟩
  · by_cases h : key = i
    · subst h; rw [put_pc_self]; exact howned hkey
    · rw [put_pc_ne h]; exact hs.owned key hkey
  · obtain ⟨vault, hvault, hserves⟩ := hs.unlocks j hj
    refine ⟨vault, hvault, ?_⟩
    by_cases h : j = i
    · subst h; rw [put_pc_self]; exact hunlocks vault hvault hj hserves
    · rw [put_pc_ne h]; exact hserves
  · by_cases h : j = i
    · subst h; rw [put_pc_self] at hj; exact absurd hj hidle
    · rw [put_pc_ne h] at hj; exact hs.fresh j hj
  · by_cases h : j = i
    · subst h; rw [put_pc_self] at hj; exact absurd hj hwritten
    · rw [put_pc_ne h] at hj; exact hs.written j hj

/-- An `initialize` moves on, and holds on to its key. -/
theorem Invariant.put_initialize (hs : Invariant s) (hidle : pc ≠ .idle) (hwritten : pc ≠ .written)
    (hserves : ∀ vault, ¬ (s.pc i).serves vault)
    (howned : s.keyFile = some i → s.vaultFile = some i ∨ pc.holds = true) :
    Invariant (s.put i pc) :=
  hs.put hidle hwritten howned fun vault _ _ h => absurd h (hserves vault)

/-- A call that holds no key moves on. -/
theorem Invariant.put_plain (hs : Invariant s) (hidle : pc ≠ .idle) (hwritten : pc ≠ .written)
    (hholds : (s.pc i).holds = false)
    (hunlocks : ∀ vault, s.vaultFile = some vault → s.onVault i = true → (s.pc i).serves vault →
      pc.serves vault) : Invariant (s.put i pc) := by
  refine hs.put hidle hwritten (fun h => ?_) hunlocks
  refine .inl ((hs.owned i h).resolve_right fun h => ?_)
  rw [hholds] at h
  cases h

theorem begin_invariant (hs : Invariant s) (hpc : s.pc i = .idle) (operation : Operation) :
    Invariant (begin s i operation) := by
  have hfresh := hs.fresh i hpc
  have hplain : ∀ pc : Pc ι, pc ≠ .idle → pc ≠ .written → Invariant (s.put i pc) := by
    intro pc hidle hwritten
    refine hs.put_plain hidle hwritten (by rw [hpc]; rfl) fun vault _ hon => ?_
    rw [hfresh] at hon
    cases hon
  cases operation with
  | initializeStore => exact hplain _ (by simp) (by simp)
  | lock => exact hplain _ (by simp) (by simp)
  | unlock =>
    have hput := hplain .readingKey (by simp) (by simp)
    refine ⟨hput.paired, hput.owned, fun j hj => ?_, fun j hj => ?_, hput.written⟩
    · have hj : Function.update s.onVault i s.vaultFile.isSome j = true := hj
      by_cases h : j = i
      · subst h
        rw [Function.update_self] at hj
        obtain ⟨vault, hvault⟩ := Option.isSome_iff_exists.1 hj
        refine ⟨vault, hvault, ?_⟩
        rw [show (begin s j .unlock).pc j = .readingKey from put_pc_self]
        trivial
      · rw [Function.update_of_ne h] at hj
        exact hput.unlocks j hj
    · have hji : j ≠ i := by
        rintro rfl
        rw [show (begin s j .unlock).pc j = .readingKey from put_pc_self] at hj
        cases hj
      exact (Function.update_of_ne hji ..).trans (hput.fresh j hj)

omit [DecidableEq ι] in
/-- Without a vault no `unlock` has begun on one. -/
theorem Invariant.off (hs : Invariant s) (hnone : s.vaultFile = none) (i : ι) :
    s.onVault i = false := by
  by_contra h
  obtain ⟨vault, hvault, -⟩ := hs.unlocks i (by simpa using h)
  rw [hnone] at hvault
  cases hvault

/-- **The key file is written**, while there is no vault. -/
theorem Invariant.writeKey (hs : Invariant s) (hnone : s.vaultFile = none) :
    Invariant ({ s with keyFile := some i }.put i .keyWritten) := by
  refine ⟨fun key h => ?_, fun key h => ?_, fun j hj => ?_, fun j hj => ?_,
    fun j hj => ?_⟩
  · have h : s.vaultFile = some key := h
    rw [hnone] at h
    cases h
  · cases h
    exact .inr (by rw [put_pc_self]; rfl)
  · have hj : s.onVault j = true := hj
    rw [hs.off hnone] at hj
    cases hj
  · exact hs.off hnone j
  · have hji : j ≠ i := by
      rintro rfl
      rw [put_pc_self] at hj
      cases hj
    rw [put_pc_ne hji] at hj
    exact hs.written j hj

/-- **The vault is written**, for the key in the key file. -/
theorem Invariant.writeVault (hs : Invariant s) (hkey : s.keyFile = some i)
    (hnone : s.vaultFile = none) :
    Invariant ({ s with vaultFile := some i }.put i .written) := by
  refine ⟨fun key h => ?_, fun key h => ?_, fun j hj => ?_, fun j hj => ?_,
    fun j hj => ?_⟩
  · cases h
    exact hkey
  · have h : s.keyFile = some key := h
    rw [hkey] at h
    exact .inl h
  · have hj : s.onVault j = true := hj
    rw [hs.off hnone] at hj
    cases hj
  · exact hs.off hnone j
  · by_cases hji : j = i
    · subst hji
      rfl
    · rw [put_pc_ne hji] at hj
      have hj := hs.written j hj
      rw [hnone] at hj
      cases hj

/-- **The key file is removed**, while there is no vault. -/
theorem Invariant.removeKey (hs : Invariant s) (hnone : s.vaultFile = none) (outcome : Outcome) :
    Invariant ({ s with keyFile := none }.put i (.settled outcome)) := by
  refine ⟨fun key h => ?_, fun key h => (by cases h), fun j hj => ?_, fun j hj => ?_,
    fun j hj => ?_⟩
  · have h : s.vaultFile = some key := h
    rw [hnone] at h
    cases h
  · have hj : s.onVault j = true := hj
    rw [hs.off hnone] at hj
    cases hj
  · exact hs.off hnone j
  · have hji : j ≠ i := by
      rintro rfl
      rw [put_pc_self] at hj
      cases hj
    rw [put_pc_ne hji] at hj
    exact hs.written j hj

/-- **A call goes on.** -/
theorem goOn_invariant (hs : Invariant s) {shouldReEncrypt : Bool} (h : Finds s i (s.pc i)) :
    Invariant (goOn s i shouldReEncrypt) ∧ Keeps s (goOn s i shouldReEncrypt) := by
  have hsame : ∀ {s' : State ι}, Invariant s' → s'.vaultFile = s.vaultFile →
      Invariant s' ∧ Keeps s s' := fun hs' hv => ⟨hs', fun key hkey => hv.trans hkey⟩
  have howned : ∀ pc : Pc ι, pc.holds = true →
      s.keyFile = some i → s.vaultFile = some i ∨ pc.holds = true := fun _ h _ => .inr h
  unfold goOn
  cases hpc : s.pc i with
  | idle => exact hsame hs rfl
  | settled outcome => exact hsame hs rfl
  | stopped => exact hsame hs rfl
  | checking =>
    dsimp only
    split_ifs
    · exact hsame (hs.put_plain (by simp) (by simp) (by rw [hpc]; rfl) (by rw [hpc]; simp [Pc.serves])) rfl
    · exact hsame (hs.put_plain (by simp) (by simp) (by rw [hpc]; rfl) (by rw [hpc]; simp [Pc.serves])) rfl
  | encrypting =>
    rw [hpc] at h
    exact hsame (hs.writeKey h) rfl
  | keyWritten =>
    exact hsame (hs.put_initialize (by simp) (by simp) (by rw [hpc]; simp [Pc.serves]) (howned _ rfl)) rfl
  | delegating =>
    exact hsame (hs.put_initialize (by simp) (by simp) (by rw [hpc]; simp [Pc.serves]) (howned _ rfl)) rfl
  | reading =>
    dsimp only
    split_ifs
    · exact hsame (hs.put_initialize (by simp) (by simp) (by rw [hpc]; simp [Pc.serves]) (howned _ rfl)) rfl
    · exact hsame (hs.put_initialize (by simp) (by simp) (by rw [hpc]; simp [Pc.serves]) (howned _ rfl)) rfl
  | writing =>
    rw [hpc] at h
    refine ⟨hs.writeVault h.1 h.2, fun key hkey => ?_⟩
    rw [h.2] at hkey
    cases hkey
  | written =>
    refine hsame (hs.put_initialize (by simp) (by simp) (by rw [hpc]; simp [Pc.serves])
      fun _ => .inl (hs.written i hpc)) rfl
  | removing outcome =>
    rw [hpc] at h
    exact hsame (hs.removeKey h outcome) rfl
  | readingKey =>
    dsimp only
    split
    · rename_i hnone
      refine hsame (hs.put_plain (by simp) (by simp) (by rw [hpc]; rfl) fun vault hvault _ _ => ?_) rfl
      rw [hs.paired vault hvault] at hnone
      cases hnone
    · rename_i key hkey
      refine hsame (hs.put_plain (by simp) (by simp) (by rw [hpc]; rfl) fun vault hvault _ _ => ?_) rfl
      rw [hs.paired vault hvault] at hkey
      exact (Option.some.inj hkey).symm
  | decrypting key =>
    dsimp only
    split_ifs
    · refine hsame (hs.put_plain (by simp) (by simp) (by rw [hpc]; rfl) fun vault _ _ hserves => ?_) rfl
      rw [hpc] at hserves
      exact hserves
    · refine hsame (hs.put_plain (by simp) (by simp) (by rw [hpc]; rfl) fun vault _ _ hserves => ?_) rfl
      rw [hpc] at hserves
      exact hserves
  | refreshing key =>
    rw [hpc] at h
    -- the key file holds this key already
    have hkey : s.keyFile = some key := h
    have hput : Invariant (s.put i (.unlocking key)) := by
      refine hs.put_plain (by simp) (by simp) (by rw [hpc]; rfl) fun vault _ _ hserves => ?_
      rw [hpc] at hserves
      exact hserves
    dsimp only
    rw [← hkey]
    exact hsame hput rfl
  | unlocking key =>
    dsimp only
    split
    · rename_i hnone
      refine hsame (hs.put_plain (by simp) (by simp) (by rw [hpc]; rfl) fun vault hvault _ _ => ?_) rfl
      rw [hnone] at hvault
      cases hvault
    · rename_i wrapped hwrapped
      split_ifs with heq
      · exact hsame (hs.put_plain (by simp) (by simp) (by rw [hpc]; rfl) fun _ _ _ _ => trivial) rfl
      · refine hsame (hs.put_plain (by simp) (by simp) (by rw [hpc]; rfl) fun vault hvault _ hserves => ?_) rfl
        rw [hpc] at hserves
        rw [hwrapped] at hvault
        exact absurd ((Option.some.inj hvault).trans hserves.symm) heq

/-- A call that leaves the key file as it is ends. -/
theorem Invariant.put_end (hs : Invariant s) (hclean : Clean s i) (hidle : pc ≠ .idle)
    (hwritten : pc ≠ .written)
    (hserves : ∀ vault, (s.pc i).serves vault → pc.serves vault) : Invariant (s.put i pc) :=
  hs.put hidle hwritten (fun h => .inl (hclean h)) fun vault _ _ h => hserves vault h

/-- **A call fails.** -/
theorem fail_invariant (hs : Invariant s) (h : (s.pc i).keeps = true → Clean s i) :
    Invariant (fail s i) := by
  have hremoving : (∀ vault, ¬ (s.pc i).serves vault) →
      Invariant (s.put i (.removing .failed)) :=
    fun hserves => hs.put_initialize (by simp) (by simp) hserves fun _ => .inr rfl
  have hsettled : (s.pc i).holds = false → Invariant (s.put i (.settled .failed)) :=
    fun hholds => hs.put_plain (by simp) (by simp) hholds fun _ _ _ _ => trivial
  unfold fail
  cases hpc : s.pc i with
  | idle => exact hs
  | settled outcome => exact hs
  | stopped => exact hs
  | delegating => exact hremoving (by rw [hpc]; simp [Pc.serves])
  | reading => exact hremoving (by rw [hpc]; simp [Pc.serves])
  | writing => exact hremoving (by rw [hpc]; simp [Pc.serves])
  | written => exact hremoving (by rw [hpc]; simp [Pc.serves])
  | removing outcome =>
    refine hs.put_end (h (by rw [hpc]; rfl)) (by simp) (by simp) fun vault hserves => ?_
    rw [hpc] at hserves
    exact hserves.elim
  | keyWritten =>
    exact hs.put_end (h (by rw [hpc]; rfl)) (by simp) (by simp) fun _ _ => trivial
  | _ => exact hsettled (by rw [hpc]; rfl)

/-- **Every step that the condition allows keeps the invariant, and the vault.** -/
theorem step_invariant (hs : Invariant s) {e : Event ι} (h : Allowed s e) :
    Invariant (step s e) ∧ Keeps s (step s e) := by
  have hput : ∀ (i : ι) (pc : Pc ι), Keeps s (s.put i pc) := fun _ _ _ hkey => hkey
  cases e with
  | begin i operation =>
    simp only [step]
    split_ifs with hpc
    · refine ⟨begin_invariant hs hpc operation, ?_⟩
      cases operation <;> exact fun _ hkey => hkey
    · exact ⟨hs, fun _ hkey => hkey⟩
  | goOn i shouldReEncrypt => exact goOn_invariant hs h
  | fail i =>
    refine ⟨fail_invariant hs h, ?_⟩
    show Keeps s (fail s i)
    unfold fail
    split <;> exact fun _ hkey => hkey
  | stop i =>
    have hstop : Invariant (s.put i .stopped) :=
      hs.put_end h (by simp) (by simp) fun _ _ => trivial
    simp only [step]
    split
    · exact ⟨hs, fun _ hkey => hkey⟩
    · exact ⟨hs, fun _ hkey => hkey⟩
    · exact ⟨hstop, hput i .stopped⟩

end OfflineWebArchiver.OsProtected
