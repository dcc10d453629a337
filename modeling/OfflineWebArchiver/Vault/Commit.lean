import OfflineWebArchiver.Vault.Store

/-!
# Commits

Between the acquisition and the release of the vault lock a call is alone with the file.

* `Committing`: what relates a call to the file and to its outcome.
* `committing_step`: every step keeps it, as long as the file is readable and no read fails
  that verifies a commit. A call that throws has then left the file as it was.
* `step_disk`: what changes the file.
-/

namespace OfflineWebArchiver.VaultStore

/-- The call has been called and has not returned. -/
def Pc.active : Pc → Bool
  | .idle => false
  | _ => true

/-- The call has the vault lock. -/
def Pc.inside : Pc → Bool
  | .read _ _ | .compute _ _ _ | .write _ _ | .verify _ _ | .settle _ _ _ | .release _ _
  | .rotateCheck _ _ => true
  | _ => false

/-- The call has replaced the file and has not failed since. -/
def Pc.written : Pc → Bool
  | .verify _ _ | .settle _ _ _ | .release _ (.ok ()) | .rotateEnd (.ok ()) => true
  | _ => false

/-- What the verification of a commit finds. -/
def Pc.Fine (disk : VaultDisk) : Pc → Prop
  | .verify _ next => disk = next
  | .settle _ next verified => verified.generation = next.generation
  | _ => True

structure Committing (s : State) : Prop where
  held : ∀ c, (s.pc c).inside = true → s.holder = some c
  fine : ∀ c, (s.pc c).Fine s.disk
  wrote : ∀ c, s.wrote c = true → (s.pc c).written = true ∨ s.result c = some (.ok ())
  finished : ∀ c, s.result c ≠ none → s.pc c = .idle

variable {o : StoreOptions} {size : VaultDisk → ℕ} {s s' : State} {c : ℕ} {old pc : Pc}
  {outcome : Except SecretError Unit} {e : Event}

theorem Pc.active_ne (h : old.active = true) : old ≠ .idle := by
  rintro rfl
  cases h

/-- A call that throws has left the file as it was. -/
theorem Committing.clean (h : Committing s) {error : SecretError}
    (hresult : s.result c = some (.error error)) : s.wrote c = false := by
  rw [Bool.eq_false_iff]
  intro hwrote
  rcases h.wrote c hwrote with hwritten | hok
  · rw [h.finished c (by rw [hresult]; exact Option.some_ne_none _)] at hwritten
    cases hwritten
  · rw [hresult] at hok
    cases hok

/-- Only one call has the lock. -/
theorem Committing.alone (h : Committing s) (hc : (s.pc c).inside = true) {c' : ℕ} (hne : c' ≠ c) :
    (s.pc c').inside = false := by
  rw [Bool.eq_false_iff]
  intro hc'
  exact hne (Option.some.inj ((h.held c' hc').symm.trans (h.held c hc)))

/-- No outcome is there before a call is done. -/
theorem Committing.pending (h : Committing s) (hold : s.pc c = old) (hactive : old.active = true) :
    s.result c = none := by
  by_contra hne
  exact Pc.active_ne hactive (hold.symm.trans (h.finished c hne))

theorem Committing.written (h : Committing s) (hold : s.pc c = old) (hactive : old.active = true)
    (hwrote : s.wrote c = true) : old.written = true := by
  rcases h.wrote c hwrote with hw | hok
  · exact hold ▸ hw
  · rw [h.pending hold hactive] at hok
    cases hok

/-- A step of one call that leaves the file. -/
theorem Committing.move (h : Committing s) (hpc : s'.pc = Function.update s.pc c pc)
    (hdisk : s'.disk = s.disk) (hwrote : s'.wrote = s.wrote)
    (hheld : pc.inside = true → s'.holder = some c)
    (hother : ∀ c' ≠ c, (s.pc c').inside = true → s'.holder = some c') (hfine : pc.Fine s.disk)
    (hwritten : s.wrote c = true → pc.written = true ∨ s'.result c = some (.ok ()))
    (hresult : ∀ c' ≠ c, s'.result c' = s.result c') (hdone : s'.result c ≠ none → pc = .idle) :
    Committing s' := by
  refine ⟨fun c' hc' => ?_, fun c' => ?_, fun c' hc' => ?_, fun c' hc' => ?_⟩
  · rw [hpc] at hc'
    by_cases hcc : c' = c
    · subst hcc; rw [Function.update_self] at hc'; exact hheld hc'
    · rw [Function.update_of_ne hcc] at hc'; exact hother c' hcc hc'
  · rw [hpc, hdisk]
    by_cases hcc : c' = c
    · subst hcc; rw [Function.update_self]; exact hfine
    · rw [Function.update_of_ne hcc]; exact h.fine c'
  · rw [hwrote] at hc'
    rw [hpc]
    by_cases hcc : c' = c
    · subst hcc; rw [Function.update_self]; exact hwritten hc'
    · rw [Function.update_of_ne hcc, hresult c' hcc]; exact h.wrote c' hc'
  · rw [hpc]
    by_cases hcc : c' = c
    · subst hcc; rw [Function.update_self]; exact hdone hc'
    · rw [Function.update_of_ne hcc]; exact h.finished c' (hresult c' hcc ▸ hc')

/-- A call that goes on. -/
theorem Committing.goOn (h : Committing s) (hold : s.pc c = old) (hactive : old.active = true)
    (hpc : s'.pc = Function.update s.pc c pc) (hdisk : s'.disk = s.disk) (hwrote : s'.wrote = s.wrote)
    (hresult : s'.result = s.result) (hheld : pc.inside = true → s'.holder = some c)
    (hother : ∀ c' ≠ c, (s.pc c').inside = true → s'.holder = some c') (hfine : pc.Fine s.disk)
    (hwritten : old.written = true → pc.written = true) : Committing s' := by
  refine h.move hpc hdisk hwrote hheld hother hfine (fun hw => ?_) (fun _ _ => by rw [hresult])
    fun hne => ?_
  · exact Or.inl (hwritten (h.written hold hactive hw))
  · rw [hresult, h.pending hold hactive] at hne
    exact absurd rfl hne

/-- A call that returns or throws. -/
theorem Committing.done (h : Committing s) (hold : s.pc c = old) (hactive : old.active = true)
    (hpc : s'.pc = Function.update s.pc c .idle) (hdisk : s'.disk = s.disk) (hwrote : s'.wrote = s.wrote)
    (hresult : s'.result = Function.update s.result c (some outcome))
    (hother : ∀ c' ≠ c, (s.pc c').inside = true → s'.holder = some c')
    (hwritten : old.written = true → outcome = .ok ()) : Committing s' := by
  refine h.move hpc hdisk hwrote nofun hother trivial (fun hw => ?_)
    (fun c' hne => by rw [hresult, Function.update_of_ne hne]) fun _ => rfl
  rw [hresult, Function.update_self]
  exact Or.inr (congrArg some (hwritten (h.written hold hactive hw)))

/-- The commit. -/
theorem Committing.replace (h : Committing s) {rotation : Bool} {next : VaultDisk}
    (hold : s.pc c = .write rotation next)
    (hpc : s'.pc = Function.update s.pc c (.verify rotation next)) (hdisk : s'.disk = next)
    (hholder : s'.holder = s.holder) (hwrote : s'.wrote = Function.update s.wrote c true)
    (hresult : s'.result = s.result) : Committing s' := by
  have hin : (s.pc c).inside = true := by rw [hold]; rfl
  refine ⟨fun c' hc' => ?_, fun c' => ?_, fun c' hc' => ?_, fun c' hc' => ?_⟩
  · rw [hholder]
    rw [hpc] at hc'
    by_cases hcc : c' = c
    · subst hcc; exact h.held c' hin
    · rw [Function.update_of_ne hcc] at hc'; exact h.held c' hc'
  · rw [hpc, hdisk]
    by_cases hcc : c' = c
    · subst hcc; rw [Function.update_self]; rfl
    · -- no other call is about to verify a commit
      rw [Function.update_of_ne hcc]
      have hout := h.alone hin hcc
      have hfine := h.fine c'
      cases hpc' : s.pc c' with
      | verify _ _ => rw [hpc'] at hout; cases hout
      | settle _ _ _ => rw [hpc'] at hfine; exact hfine
      | _ => trivial
  · rw [hwrote] at hc'
    rw [hpc, hresult]
    by_cases hcc : c' = c
    · subst hcc; rw [Function.update_self]; exact Or.inl rfl
    · rw [Function.update_of_ne hcc] at hc' ⊢; exact h.wrote c' hc'
  · rw [hresult] at hc'
    have hidle := h.finished c' hc'
    by_cases hcc : c' = c
    · rw [hcc, hold] at hidle; cases hidle
    · rw [hpc, Function.update_of_ne hcc]; exact hidle

/-- The beginning of a call. -/
theorem Committing.begin (h : Committing s) (hinside : pc.inside = false) (hfine : ∀ d, pc.Fine d) :
    Committing (s.begin c pc) := by
  refine ⟨fun c' hc' => ?_, fun c' => ?_, fun c' hc' => ?_, fun c' hc' => ?_⟩
  · rw [State.begin_pc] at hc'
    by_cases hcc : c' = c
    · subst hcc; rw [Function.update_self, hinside] at hc'; cases hc'
    · rw [Function.update_of_ne hcc] at hc'; exact h.held c' hc'
  · rw [State.begin_pc]
    by_cases hcc : c' = c
    · subst hcc; rw [Function.update_self]; exact hfine _
    · rw [Function.update_of_ne hcc]; exact h.fine c'
  · rw [State.begin_wrote] at hc'
    rw [State.begin_pc, State.begin_result]
    by_cases hcc : c' = c
    · subst hcc; rw [Function.update_self] at hc'; cases hc'
    · rw [Function.update_of_ne hcc] at hc' ⊢; rw [Function.update_of_ne hcc]; exact h.wrote c' hc'
  · rw [State.begin_result] at hc'
    rw [State.begin_pc]
    by_cases hcc : c' = c
    · subst hcc; rw [Function.update_self] at hc'; exact absurd rfl hc'
    · rw [Function.update_of_ne hcc] at hc' ⊢; exact h.finished c' hc'

/-- A call that throws before it begins to wait. -/
theorem Committing.refuse (h : Committing s) (hidle : s.pc c = .idle) {error : SecretError} :
    Committing (s.refuse c error) := by
  have hwrote : (s.refuse c error).wrote = Function.update s.wrote c false := rfl
  have hresult : (s.refuse c error).result = Function.update s.result c (some (.error error)) := rfl
  refine ⟨h.held, h.fine, fun c' hc' => ?_, fun c' hc' => ?_⟩
  · rw [hwrote] at hc'
    rw [hresult]
    by_cases hcc : c' = c
    · subst hcc; rw [Function.update_self] at hc'; cases hc'
    · rw [Function.update_of_ne hcc] at hc' ⊢; exact h.wrote c' hc'
  · rw [hresult] at hc'
    by_cases hcc : c' = c
    · subst hcc; exact hidle
    · rw [Function.update_of_ne hcc] at hc'; exact h.finished c' hc'

/-- The calls that have the lock, when one of them releases it. -/
theorem Committing.release (h : Committing s) (hc : (s.pc c).inside = true) {holder : Option ℕ} :
    ∀ c' ≠ c, (s.pc c').inside = true → holder = some c' := by
  intro c' hne hc'
  rw [h.alone hc hne] at hc'
  cases hc'

/-- The calls that have the lock, when it is free. -/
theorem Committing.enter (h : Committing s) (hfree : ¬s.holder.isSome = true) {holder : Option ℕ} :
    ∀ c' ≠ c, (s.pc c').inside = true → holder = some c' := by
  intro c' _ hc'
  rw [h.held c' hc'] at hfree
  exact absurd rfl hfree

theorem committing_advance (h : Committing s) (hread : readDisk o size s.disk = .ok s.disk) :
    Committing (advance o size s c) := by
  have hfine := h.fine c
  have hown := h.held c
  have hsame : ∀ c' ≠ c, (s.pc c').inside = true → s.holder = some c' := fun c' _ => h.held c'
  unfold advance
  cases hpc : s.pc c with
  | idle => exact h
  | acquire m key =>
    simp only
    split_ifs with hholder
    · exact h.done hpc rfl rfl rfl rfl rfl hsame nofun
    · exact h.goOn hpc rfl rfl rfl rfl rfl (fun _ => rfl) (h.enter hholder) trivial nofun
  | read m key =>
    simp only [hread]
    exact h.goOn hpc rfl rfl rfl rfl rfl (fun _ => hown (by rw [hpc]; rfl)) hsame trivial nofun
  | compute m key disk =>
    have hheld : s.holder = some c := hown (by rw [hpc]; rfl)
    simp only
    split_ifs
    · exact h.goOn hpc rfl rfl rfl rfl rfl (fun _ => hheld) hsame trivial nofun
    split
    · exact h.goOn hpc rfl rfl rfl rfl rfl (fun _ => hheld) hsame trivial nofun
    split_ifs
    · exact h.goOn hpc rfl rfl rfl rfl rfl (fun _ => hheld) hsame trivial nofun
    · exact h.goOn hpc rfl rfl rfl rfl rfl (fun _ => hheld) hsame trivial nofun
  | write rotation next =>
    simp only
    split_ifs
    · exact h.goOn hpc rfl rfl rfl rfl rfl (fun _ => hown (by rw [hpc]; rfl)) hsame trivial nofun
    · exact h.replace hpc rfl rfl rfl rfl rfl
  | verify rotation next =>
    rw [hpc] at hfine
    simp only [hread]
    refine h.goOn hpc rfl rfl rfl rfl rfl (fun _ => hown (by rw [hpc]; rfl)) hsame ?_ fun _ => rfl
    exact congrArg VaultDisk.generation hfine
  | settle rotation next verified =>
    have hheld : s.holder = some c := hown (by rw [hpc]; rfl)
    rw [hpc] at hfine
    have hgeneration : verified.generation = next.generation := hfine
    simp only
    rw [if_neg (not_not.2 hgeneration)]
    split_ifs
    · exact h.goOn hpc rfl rfl rfl rfl rfl (fun _ => hheld) hsame trivial fun _ => rfl
    · exact h.goOn hpc rfl rfl rfl rfl rfl (fun _ => hheld) hsame trivial fun _ => rfl
  | release rotation outcome =>
    have hin : (s.pc c).inside = true := by rw [hpc]; rfl
    have hok : (Pc.release rotation outcome).written = true → outcome = .ok () := by
      intro hw
      cases outcome with
      | ok => rfl
      | error => cases hw
    simp only
    split_ifs
    · refine h.goOn hpc rfl rfl rfl rfl rfl nofun (h.release hin) trivial fun hw => ?_
      rw [hok hw]; rfl
    · exact h.done hpc rfl rfl rfl rfl rfl (h.release hin) hok
  | importFile payload key =>
    simp only
    split
    · exact h.done hpc rfl rfl rfl rfl rfl hsame nofun
    · exact h.goOn hpc rfl rfl rfl rfl rfl nofun hsame trivial nofun
  | importRead items key =>
    simp only [hread]
    exact h.goOn hpc rfl rfl rfl rfl rfl nofun hsame trivial nofun
  | importCheck items key disk =>
    simp only
    split_ifs
    · exact h.done hpc rfl rfl rfl rfl rfl hsame nofun
    split
    · exact h.done hpc rfl rfl rfl rfl rfl hsame nofun
    · exact h.goOn hpc rfl rfl rfl rfl rfl nofun hsame trivial nofun
  | rotateRead passphrase vaultId key =>
    simp only [hread]
    exact h.goOn hpc rfl rfl rfl rfl rfl nofun hsame trivial nofun
  | rotatePrepare passphrase vaultId key disk =>
    simp only
    split
    · exact h.done hpc rfl rfl rfl rfl rfl hsame nofun
    · exact h.goOn hpc rfl rfl rfl rfl rfl nofun hsame trivial nofun
  | rotateAcquire disk next =>
    simp only
    split_ifs with hholder
    · exact h.done hpc rfl rfl rfl rfl rfl hsame nofun
    · exact h.goOn hpc rfl rfl rfl rfl rfl (fun _ => rfl) (h.enter hholder) trivial nofun
  | rotateCheck disk next =>
    have hheld : s.holder = some c := hown (by rw [hpc]; rfl)
    simp only [hread]
    split_ifs
    · exact h.goOn hpc rfl rfl rfl rfl rfl (fun _ => hheld) hsame trivial nofun
    · exact h.goOn hpc rfl rfl rfl rfl rfl (fun _ => hheld) hsame trivial nofun
  | rotateEnd outcome =>
    refine h.done hpc rfl rfl rfl rfl rfl hsame fun hw => ?_
    cases outcome with
    | ok => rfl
    | error => cases hw
  | unlockRead passphrase =>
    simp only [hread]
    exact h.goOn hpc rfl rfl rfl rfl rfl nofun hsame trivial nofun
  | unlockFinish passphrase disk =>
    simp only
    split
    · exact h.done hpc rfl rfl rfl rfl rfl hsame nofun
    · exact h.done hpc rfl rfl rfl rfl rfl hsame nofun

/-- A failing read verifies a commit. -/
def Pc.verifying : Pc → Bool
  | .verify _ _ => true
  | _ => false

theorem committing_fail (h : Committing s) (hverify : (s.pc c).verifying = false) :
    Committing (fail s c) := by
  have hown := h.held c
  have hsame : ∀ c' ≠ c, (s.pc c').inside = true → s.holder = some c' := fun c' _ => h.held c'
  unfold fail
  cases hpc : s.pc c with
  | acquire | importFile | importRead | rotateRead | unlockRead | unlockFinish | rotateAcquire =>
    exact h.done hpc rfl rfl rfl rfl rfl hsame nofun
  | read | write | rotateCheck =>
    exact h.goOn hpc rfl rfl rfl rfl rfl (fun _ => hown (by rw [hpc]; rfl)) hsame trivial nofun
  | verify rotation next =>
    rw [hpc] at hverify
    cases hverify
  | _ => exact h

/-- **What a step keeps of the commits.** -/
theorem committing_step (h : Committing s) (hread : readDisk o size s.disk = .ok s.disk)
    (hverify : ∀ c, e = .fault c → (s.pc c).verifying = false) : Committing (step o size s e) := by
  cases e with
  | call c operation =>
    unfold step
    simp only
    split
    next hidle =>
      split
      · exact h.refuse hidle
      next pc hstart =>
      rcases start_ok hstart with ⟨m, key, -, -, rfl⟩ | ⟨_, _, key, -, rfl⟩ | ⟨_, key, -, rfl⟩ |
        ⟨passphrase, -, rfl⟩
      all_goals exact h.begin rfl fun _ => trivial
    · exact h
  | next c => exact committing_advance h hread
  | fault c => exact committing_fail h (hverify c rfl)
  | lock => exact ⟨h.held, h.fine, h.wrote, h.finished⟩
  | time now => exact ⟨h.held, h.fine, h.wrote, h.finished⟩

/-- **Only a commit changes the file**, and the call that makes it has then written. -/
theorem step_disk (o : StoreOptions) (size : VaultDisk → ℕ) (s : State) (e : Event) :
    (step o size s e).disk = s.disk ∨
      ∃ c, e = .next c ∧ (step o size s e).wrote c = true ∧
        size (step o size s e).disk ≤ maxVaultBytes := by
  cases e with
  | call c operation =>
    unfold step
    simp only
    split
    · split <;> exact Or.inl rfl
    · exact Or.inl rfl
  | next c =>
    change (advance o size s c).disk = s.disk ∨ ∃ c', Event.next c = .next c' ∧
      (advance o size s c).wrote c' = true ∧ size (advance o size s c).disk ≤ maxVaultBytes
    unfold advance
    cases hpc : s.pc c with
    | write rotation next =>
      simp only
      split_ifs with hsize
      · exact Or.inl rfl
      · exact Or.inr ⟨c, rfl, Function.update_self .., not_lt.1 hsize⟩
    | settle rotation next verified =>
      simp only
      split_ifs <;> exact Or.inl rfl
    | release rotation outcome =>
      simp only
      split_ifs <;> exact Or.inl rfl
    | compute m key disk =>
      simp only
      split_ifs
      · exact Or.inl rfl
      split
      · exact Or.inl rfl
      split_ifs <;> exact Or.inl rfl
    | idle | rotateEnd => exact Or.inl rfl
    | acquire | rotateAcquire =>
      simp only
      split_ifs <;> exact Or.inl rfl
    | rotateCheck disk next =>
      simp only
      split
      · exact Or.inl rfl
      split_ifs <;> exact Or.inl rfl
    | importCheck items key disk =>
      simp only
      split_ifs
      · exact Or.inl rfl
      split <;> exact Or.inl rfl
    | _ =>
      simp only
      split <;> exact Or.inl rfl
  | fault c =>
    left
    change (fail s c).disk = s.disk
    unfold fail
    split <;> rfl
  | lock => exact Or.inl rfl
  | time now => exact Or.inl rfl

/-- **An unlocked vault** with nothing pending. -/
structure Unlocked (o : StoreOptions) (size : VaultDisk → ℕ) (s : State) : Prop where
  good : s.disk.Good o.projectId o.backend
  small : size s.disk ≤ maxVaultBytes
  drawn : ∀ n ∈ s.disk.nonces, n < s.random
  key : ∃ b < s.fresh, s.masterKey = some b ∧ s.buffers b = s.disk.masterKey
  unlocked : s.state = .unlocked
  generation : s.generation = s.disk.generation
  idle : ∀ c, s.pc c = .idle
  unused : ∀ c, s.wrote c = false ∧ s.result c = none
  begun : ∀ c, s.begun c ≤ s.locks

theorem Unlocked.committing (h : Unlocked o size s) : Committing s := by
  refine ⟨fun c hc => ?_, fun c => ?_, fun c hc => ?_, fun c _ => h.idle c⟩
  · rw [h.idle c] at hc; cases hc
  · rw [h.idle c]; trivial
  · rw [(h.unused c).1] at hc; cases hc

theorem Unlocked.documents (h : Unlocked o size s) {D : ℕ → VaultDisk → Prop} (hD : D s.random s.disk) :
    Documents o D s := by
  refine ⟨hD, fun c d hd => ?_, fun c m hm => ?_⟩
  · rw [h.idle c] at hd; cases hd
  · rw [h.idle c] at hm; cases hm

end OfflineWebArchiver.VaultStore
