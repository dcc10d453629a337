import OfflineWebArchiver.Service.Sharing

/-!
# A project stays open while commands use it

* `project_sharing_run`: in every run whose steps are all `Allowed` no command fails because
  another one has opened or closed the project, every storage operation runs on the open
  connection, and a project that a command has kept open stays open.
-/

namespace OfflineWebArchiver.Service.Sharing

variable {ι : Type} [DecidableEq ι] {wrapper : ι → Wrapper} {s s₀ : State ι} {i j : ι}
  {es : List (Event ι)}

/-- No project is open and no command has begun. -/
structure Start (s : State ι) : Prop where
  current : s.current = none
  lock : s.lock = none
  idle : ∀ i, s.pc i = .idle
  calm : ∀ i, s.disturbed i = false
  kept : s.kept = false

/-- What the commands may rely on. -/
structure Served (s : State ι) : Prop where
  /-- No command has failed on a project that is not open, locked or opened anew. -/
  calm : ∀ i, s.disturbed i = false
  /-- A storage operation runs on the connection of the open project. -/
  connection : ∀ i opened k lockedOut, s.pc i = .inside opened (some k) lockedOut →
    s.current = some k ∧ s.connected k = true
  /-- A project that a successful command keeps open is open. -/
  kept : s.kept = true → s.current.isSome

omit [DecidableEq ι] in
theorem Start.invariant (h : Start s) : Invariant s := by
  refine ⟨?_, ?_, ?_, fun i => ?_, h.calm, fun hk => ?_⟩
  · refine Lock.sound_of_free h.lock fun i k hk => ?_
    have hk : (s.pc i).owned = some k := hk
    rw [h.idle i] at hk
    cases hk
  · intro k hk
    rw [h.current] at hk
    cases hk
  · intro k hk
    rw [h.lock] at hk
    cases hk
  · rw [h.idle i]
    trivial
  · rw [h.kept] at hk
    cases hk

omit [DecidableEq ι] in
theorem Invariant.served (hs : Invariant s) : Served s := by
  refine ⟨hs.calm, fun i opened k lockedOut hpc => ?_, hs.kept⟩
  obtain ⟨g, hg, hconn, -, hused, -⟩ := hs.inside hpc
  obtain rfl : k = g := Option.some.inj (hused.resolve_left (by simp))
  exact ⟨hg, hconn⟩

/-- **A project stays open while commands use it**, in every run whose steps meet the
condition, for any number of commands and any outcomes of what they do. -/
theorem project_sharing_run (hstart : Start s₀)
    (hmeets : Run.Meets (step wrapper) s₀ (Allowed wrapper) es) (n : ℕ) :
    Served (Run.stAt (step wrapper) s₀ es n) := by
  have hinv : ∀ n, Invariant (Run.stAt (step wrapper) s₀ es n) := by
    refine Run.stAt_induction hstart.invariant fun n e he hs => ?_
    exact step_invariant hs (hmeets n e he)
  exact (hinv n).served

/-! ### Steps that are not allowed -/

/-! ### Two runs -/

/-- Three commands: `session.open`, and two that only read the queue. -/
inductive Caller
  | login
  | first
  | second
deriving DecidableEq

instance : Fintype Caller where
  elems := ⟨([.login, .first, .second] : List Caller), by decide⟩
  complete c := by cases c <;> decide

def callerWrapper : Caller → Wrapper
  | .login => .sessionProject true
  | _ => .openProject

def closedProject : State Caller where
  current := none
  lock := none
  connected _ := false
  fresh := 0
  changes := 0
  pc _ := .idle
  disturbed _ := false
  kept := false

/-- What a call does that opens the project, up to its handler. -/
def opens (c : Caller) : List (Event Caller) := [.enter c, .validated c true, .acquire c, .prepared c true]

/-- The session is opened and kept; then two commands overlap. -/
def keptRun : List (Event Caller) :=
  opens .login ++ [.use .login, .finish .login, .leave .login true, .enter .first,
    .enter .second, .use .first, .use .second, .proceed .first, .finish .first,
    .leave .first true, .proceed .second, .finish .second, .leave .second true]

theorem closedProject_start : Start closedProject :=
  ⟨rfl, rfl, fun _ => rfl, fun _ => rfl, rfl⟩

/-- The two commands share the project that the session keeps open. -/
theorem project_sharing_run_keptRun :
    Served (Run.stAt (step callerWrapper) closedProject keptRun keptRun.length) ∧
      (Run.stAt (step callerWrapper) closedProject keptRun keptRun.length).kept = true ∧
      ∀ c, (Run.stAt (step callerWrapper) closedProject keptRun keptRun.length).pc c = .settled true :=
  ⟨project_sharing_run closedProject_start (by decide) _, by decide, by decide⟩

/-- The first command opens the project; the second one enters before the first one closes. -/
def closedUnderRun : List (Event Caller) :=
  opens .first ++ [.enter .second, .use .first, .finish .first, .leave .first true,
    .locked .first true, .use .second]

/-- Two commands begin while no project is open. -/
def lockedOutRun : List (Event Caller) :=
  [.enter .first, .enter .second, .validated .first true, .validated .second true,
    .acquire .first, .acquire .second]

/-- The first command opens the project, a session is opened meanwhile and is to keep it. -/
def closedKeptRun : List (Event Caller) :=
  opens .first ++ [.enter .login, .use .login, .finish .login, .leave .login true,
    .leave .first true, .locked .first true, .closed .first true]

/-- A command fails because another one has closed the project, or because another one has
just locked it, and a project that was to stay open is closed. -/
theorem overlapping_disturbed :
    (Run.stAt (step callerWrapper) closedProject closedUnderRun closedUnderRun.length).disturbed
        .second = true ∧
      (Run.stAt (step callerWrapper) closedProject lockedOutRun lockedOutRun.length).disturbed
        .second = true ∧
      (Run.stAt (step callerWrapper) closedProject closedKeptRun closedKeptRun.length).kept = true ∧
      (Run.stAt (step callerWrapper) closedProject closedKeptRun closedKeptRun.length).current = none ∧
      ¬∀ n, Served (Run.stAt (step callerWrapper) closedProject closedUnderRun n) := by
  refine ⟨by decide, by decide, by decide, by decide, fun hserved => ?_⟩
  have hcalm := (hserved closedUnderRun.length).calm .second
  exact absurd hcalm (by decide)

end OfflineWebArchiver.Service.Sharing
