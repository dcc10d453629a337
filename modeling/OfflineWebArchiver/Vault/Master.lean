import OfflineWebArchiver.Vault.Commit

/-!
# The master key of the store

What a part of a call does to the state of the store and to its master key.

* `Turn`, `advance_turn`, `fail_turn`: the six kinds of parts.
* `Guarded`, `guarded_step`: an unlocked store has a master key, and a rotating one a call
  that rotates.
-/

namespace OfflineWebArchiver.VaultStore

/-- The call has prepared a rotation and has not ended it. -/
def Pc.rotates : Pc → Bool
  | .rotateAcquire _ _ | .rotateCheck _ _ | .rotateEnd _ => true
  | .write rotation _ | .verify rotation _ | .settle rotation _ _ | .release rotation _ => rotation
  | _ => false

/-- The call may set a master key yet. -/
def Pc.installs : Pc → Bool
  | .rotateRead _ _ _ | .rotatePrepare _ _ _ _ | .unlockRead _ | .unlockFinish _ _ => true
  | pc => pc.rotates

/-- The call goes on with `pc`, and no call begins. -/
structure Frame (s s' : State) (c : ℕ) (pc : Pc) : Prop where
  pc : s'.pc = Function.update s.pc c pc
  begun : s'.begun = s.begun
  locks : s'.locks = s.locks

/-- What a part of a call does. -/
inductive Turn (s s' : State) (c : ℕ) : Prop
  | goOn {pc : Pc} (frame : Frame s s' c pc) (state : s'.state = s.state)
      (master : s'.masterKey = s.masterKey) (rotates : (s.pc c).rotates = true → pc.rotates = true)
      (installs : pc.installs = true → (s.pc c).installs = true)
  /-- A rotation has made its document. -/
  | prepare {pc : Pc} (frame : Frame s s' c pc) (state : s'.state = .rotating)
      (master : s'.masterKey = s.masterKey) (rotates : pc.rotates = true)
      (installs : (s.pc c).installs = true)
  /-- A rotation takes the new master key over. -/
  | install {pc : Pc} (frame : Frame s s' c pc) (state : s'.state = s.state)
      (master : s'.masterKey ≠ none) (settle : ∃ next verified, s.pc c = .settle true next verified ∧
        verified.generation = next.generation)
      (rotates : pc.rotates = true)
  | endRotation (frame : Frame s s' c .idle)
      (state : s'.state = if s.masterKey = none then .locked else .unlocked)
      (master : s'.masterKey = s.masterKey)
  | unlock (frame : Frame s s' c .idle) (state : s'.state = .unlocked) (master : s'.masterKey ≠ none)
      (finish : ∃ passphrase disk key, s.pc c = .unlockFinish passphrase disk ∧
        unlockKey disk passphrase = .ok key)
  /-- An unlock fails. -/
  | relock (frame : Frame s s' c .idle) (state : s'.state = .locked) (master : s'.masterKey = none)

variable {o : StoreOptions} {size : VaultDisk → ℕ} {s s' : State} {c : ℕ} {old pc : Pc}
  {outcome : Except SecretError Unit} {e : Event}

theorem Pc.installs_of_rotates (h : pc.rotates = true) : pc.installs = true := by
  cases pc with
  | rotateRead | rotatePrepare | unlockRead | unlockFinish => rfl
  | _ => exact h

/-- A part that leaves the state and the key alone. -/
theorem Turn.of_eq (hold : s.pc c = old) (hpc : s'.pc = Function.update s.pc c pc)
    (hbegun : s'.begun = s.begun) (hlocks : s'.locks = s.locks) (hstate : s'.state = s.state)
    (hmaster : s'.masterKey = s.masterKey) (hrotates : old.rotates = true → pc.rotates = true)
    (hinstalls : pc.installs = true → old.installs = true) : Turn s s' c :=
  .goOn ⟨hpc, hbegun, hlocks⟩ hstate hmaster (hold ▸ hrotates) (hold ▸ hinstalls)

theorem Turn.endRotation_of (s : State) (c : ℕ) : Turn s (s.endRotation c outcome) c :=
  .endRotation ⟨rfl, rfl, rfl⟩ rfl rfl

/-- **What the next part of a call does.** -/
theorem advance_turn (o : StoreOptions) (size : VaultDisk → ℕ) (s : State) (c : ℕ) :
    advance o size s c = s ∨ Turn s (advance o size s c) c := by
  unfold advance
  cases hpc : s.pc c with
  | idle => exact Or.inl rfl
  | settle rotation next verified =>
    right
    simp only
    split_ifs with hgeneration hrotation
    · exact .of_eq hpc rfl rfl rfl rfl rfl id id
    · subst hrotation
      exact .install ⟨rfl, rfl, rfl⟩ rfl (Option.some_ne_none _) ⟨next, verified, hpc, not_not.1 hgeneration⟩ rfl
    · exact .of_eq hpc rfl rfl rfl rfl rfl id id
  | rotatePrepare passphrase vaultId key disk =>
    right
    simp only
    split
    · exact .endRotation_of s c
    · exact .prepare ⟨rfl, rfl, rfl⟩ rfl rfl rfl (by rw [hpc]; rfl)
  | rotateAcquire disk next =>
    right
    simp only
    split_ifs
    · exact .endRotation_of s c
    · exact .of_eq hpc rfl rfl rfl rfl rfl id id
  | rotateEnd outcome => exact Or.inr (.endRotation_of s c)
  | unlockFinish passphrase disk =>
    right
    simp only
    split
    · exact .relock ⟨rfl, rfl, rfl⟩ rfl rfl
    next key hkey =>
    exact .unlock ⟨rfl, rfl, rfl⟩ rfl (Option.some_ne_none _) ⟨passphrase, disk, key, hpc, hkey⟩
  | release rotation outcome =>
    right
    simp only
    split_ifs with hrotation
    · exact .of_eq hpc rfl rfl rfl rfl rfl (fun _ => rfl) fun _ => hrotation
    · exact .of_eq hpc rfl rfl rfl rfl rfl (fun h => absurd h hrotation) nofun
  | rotateCheck disk next =>
    right
    simp only
    split
    · exact .of_eq hpc rfl rfl rfl rfl rfl id id
    split_ifs
    · exact .of_eq hpc rfl rfl rfl rfl rfl id id
    · exact .of_eq hpc rfl rfl rfl rfl rfl id id
  | write rotation next | acquire m key =>
    right
    simp only
    split_ifs
    · exact .of_eq hpc rfl rfl rfl rfl rfl id id
    · exact .of_eq hpc rfl rfl rfl rfl rfl id id
  | compute m key disk =>
    right
    simp only
    split_ifs
    · exact .of_eq hpc rfl rfl rfl rfl rfl id id
    split
    · exact .of_eq hpc rfl rfl rfl rfl rfl id id
    split_ifs
    · exact .of_eq hpc rfl rfl rfl rfl rfl id id
    · exact .of_eq hpc rfl rfl rfl rfl rfl id id
  | importCheck items key disk =>
    right
    simp only
    split_ifs
    · exact .of_eq hpc rfl rfl rfl rfl rfl id id
    split
    · exact .of_eq hpc rfl rfl rfl rfl rfl id id
    · exact .of_eq hpc rfl rfl rfl rfl rfl id id
  | rotateRead passphrase vaultId key | unlockRead passphrase =>
    right
    simp only
    split
    · exact .of_eq hpc rfl rfl rfl rfl rfl id fun _ => rfl
    · exact .of_eq hpc rfl rfl rfl rfl rfl id id
  | _ =>
    right
    simp only
    split
    · exact .of_eq hpc rfl rfl rfl rfl rfl id id
    · exact .of_eq hpc rfl rfl rfl rfl rfl id id

/-- What a failing operation does. -/
theorem fail_turn (s : State) (c : ℕ) : fail s c = s ∨ Turn s (fail s c) c := by
  unfold fail
  cases hpc : s.pc c with
  | rotateAcquire => exact Or.inr (.endRotation_of s c)
  | acquire | importFile | importRead | read | write | verify | rotateCheck =>
    exact Or.inr (.of_eq hpc rfl rfl rfl rfl rfl id id)
  | rotateRead | unlockRead | unlockFinish =>
    exact Or.inr (.of_eq hpc rfl rfl rfl rfl rfl id fun _ => rfl)
  | _ => exact Or.inl rfl

/-! ### The state and the key -/

structure Guarded (s : State) : Prop where
  initialized : s.state ≠ .uninitialized
  unlocked : s.state = .unlocked → s.masterKey ≠ none
  rotating : s.state = .rotating → ∃ c, (s.pc c).rotates = true
  begun : ∀ c, s.begun c ≤ s.locks

/-- The calls that rotate go on rotating, but for the one that takes a turn. -/
theorem Guarded.rotating_of (h : Guarded s) (frame : Frame s s' c pc)
    (hrotates : (s.pc c).rotates = true → pc.rotates = true) (hstate : s.state = .rotating) :
    ∃ c', (s'.pc c').rotates = true := by
  obtain ⟨c', hc'⟩ := h.rotating hstate
  refine ⟨c', ?_⟩
  rw [frame.pc]
  by_cases hcc : c' = c
  · subst hcc; rw [Function.update_self]; exact hrotates hc'
  · rw [Function.update_of_ne hcc]; exact hc'

theorem guarded_turn (h : Guarded s) (ht : Turn s s' c) : Guarded s' := by
  have hbegun : ∀ {pc}, Frame s s' c pc → ∀ c', s'.begun c' ≤ s'.locks := by
    intro pc frame c'
    rw [frame.begun, frame.locks]
    exact h.begun c'
  cases ht with
  | goOn frame state master rotates installs =>
    refine ⟨by rw [state]; exact h.initialized, fun hs => ?_, fun hs => ?_, hbegun frame⟩
    · rw [master]; exact h.unlocked (state ▸ hs)
    · exact h.rotating_of frame rotates (state ▸ hs)
  | @prepare pc frame state master rotates installs =>
    refine ⟨by rw [state]; decide, fun hs => ?_, fun _ => ⟨c, ?_⟩, hbegun frame⟩
    · rw [state] at hs; cases hs
    · rw [frame.pc, Function.update_self]; exact rotates
  | install frame state master settle rotates =>
    refine ⟨by rw [state]; exact h.initialized, fun _ => master, fun hs => ?_, hbegun frame⟩
    exact h.rotating_of frame (fun _ => rotates) (state ▸ hs)
  | endRotation frame state master =>
    by_cases hkey : s.masterKey = none
    · rw [if_pos hkey] at state
      refine ⟨by rw [state]; decide, fun hs => ?_, fun hs => ?_, hbegun frame⟩
      · rw [state] at hs; cases hs
      · rw [state] at hs; cases hs
    · rw [if_neg hkey] at state
      refine ⟨by rw [state]; decide, fun _ => by rw [master]; exact hkey, fun hs => ?_, hbegun frame⟩
      rw [state] at hs; cases hs
  | unlock frame state master finish =>
    refine ⟨by rw [state]; decide, fun _ => master, fun hs => ?_, hbegun frame⟩
    rw [state] at hs; cases hs
  | relock frame state master =>
    refine ⟨by rw [state]; decide, fun hs => ?_, fun hs => ?_, hbegun frame⟩
    · rw [state] at hs; cases hs
    · rw [state] at hs; cases hs

theorem Guarded.begin (h : Guarded s) (hidle : s.pc c = .idle) : Guarded (s.begin c pc) := by
  refine ⟨h.initialized, h.unlocked, fun hs => ?_, fun c' => ?_⟩
  · obtain ⟨c', hc'⟩ := h.rotating hs
    have hcc : c' ≠ c := by
      rintro rfl
      rw [hidle] at hc'
      cases hc'
    exact ⟨c', by rw [State.begin_pc, Function.update_of_ne hcc]; exact hc'⟩
  · rw [State.begin_begun]
    by_cases hcc : c' = c
    · subst hcc; rw [Function.update_self]; exact le_rfl
    · rw [Function.update_of_ne hcc]; exact h.begun c'

theorem Guarded.lock (h : Guarded s) : Guarded s.lock := by
  have hstate : s.lock.state = .locked := if_neg h.initialized
  refine ⟨by rw [hstate]; decide, fun hs => ?_, fun hs => ?_, fun c => ?_⟩
  · rw [hstate] at hs; cases hs
  · rw [hstate] at hs; cases hs
  · exact Nat.le_succ_of_le (h.begun c)

/-- **What every step keeps of the state and the key.** -/
theorem guarded_step (h : Guarded s) : Guarded (step o size s e) := by
  cases e with
  | call c operation =>
    unfold step
    simp only
    split
    next hidle =>
      split
      · exact ⟨h.initialized, h.unlocked, h.rotating, h.begun⟩
      · exact h.begin hidle
    · exact h
  | next c =>
    change Guarded (advance o size s c)
    rcases advance_turn o size s c with hsame | hturn
    · rw [hsame]; exact h
    · exact guarded_turn h hturn
  | fault c =>
    change Guarded (fail s c)
    rcases fail_turn s c with hsame | hturn
    · rw [hsame]; exact h
    · exact guarded_turn h hturn
  | lock => exact h.lock
  | time now => exact ⟨h.initialized, h.unlocked, h.rotating, h.begun⟩

end OfflineWebArchiver.VaultStore
