import Mathlib.Tactic.SplitIfs
import OfflineWebArchiver.Service.Commands

/-!
# A command acts on the project it names

* `run_kept`: a handler that runs on the named project touches nothing else.
* `meets_iff`: what a command touches belongs to the project it names, and a command that
  finds another project open fails, if and only if the command is `Admissible`: the path is
  checked before the first access where another project is open, and the kept secret store
  under the project's key is its own.
-/

namespace OfflineWebArchiver.Service

variable {toLowerCase : String → String} {α β ν : Type} {S : Storage α β ν}
  {h : Handlers toLowerCase ν} {P : Path} {w w' : World α β} {c : Command} {m : Memory}
  {project : Summary}

/-! ### The property and its condition -/

/-- A run of a command on `P`: it has touched no other project, it has changed no other
project, and it has failed if another project was open. -/
structure Confined (P : Path) (w : World α β) (out : Except Failure ν × World α β) : Prop where
  touched : ∀ R ∈ out.2.touched, R = P
  content : ∀ R, R ≠ P → out.2.content R = w.content R
  vault : ∀ R, R ≠ P → out.2.vault R = w.vault R
  fails : ∀ project, w.memory.current = some project → project.projectPath ≠ P →
    ∃ e, out.1 = .error e

/-- A command keeps to its project whatever the storage holds and answers and whatever
the handlers go on to do. -/
def Command.Meets (toLowerCase : String → String) (c : Command) (m : Memory) : Prop :=
  ∀ (α β ν : Type) (S : Storage α β ν) (h : Handlers toLowerCase ν) (w : World α β),
    w.memory = m → Confined c.projectPath w (execute S h c w)

/-- The secret store that is kept under the key of `P`, if any, is that of `P`. -/
def Memory.OwnStore (toLowerCase : String → String) (m : Memory) (P : Path) : Prop :=
  ∀ R, m.secretStores (secretStoreKey toLowerCase P) = some R → R = P

/-- The handler throws before its first access. -/
def Command.Stops (toLowerCase : String → String) (c : Command) (project : Summary) (m : Memory) :
    Prop :=
  c.commandType.wrapper = .openProject ∧ ∃ e, c.firstStep toLowerCase project m = .throws e

/-- With another project open the command is refused: by the session wrapper, by a check of
the handler or by the path check of its first access. -/
def Command.Refuses (toLowerCase : String → String) (c : Command) (project : Summary)
    (m : Memory) : Prop :=
  c.commandType.wrapper ≠ .openProject ∨ c.Stops toLowerCase project m ∨
    ∃ o, c.firstStep toLowerCase project m = .accesses (.named o ())

/-- **The condition** under which a command keeps to its project. -/
def Command.Admissible (toLowerCase : String → String) (c : Command) (m : Memory) : Prop :=
  match m.current with
  | none => m.OwnStore toLowerCase c.projectPath
  | some project =>
    if project.projectPath = c.projectPath then
      m.OwnStore toLowerCase c.projectPath ∨ c.usesSecretStore toLowerCase project = false ∨
        c.Stops toLowerCase project m
    else c.Refuses toLowerCase project m

/-! ### What an access leaves alone -/

/-- Between the two states only `P` was touched. -/
structure Within (P : Path) (w w' : World α β) : Prop where
  touched : ∀ R ∈ w'.touched, R ∈ w.touched ∨ R = P
  content : ∀ R, R ≠ P → w'.content R = w.content R
  vault : ∀ R, R ≠ P → w'.vault R = w.vault R

theorem Within.refl (P : Path) (w : World α β) : Within P w w :=
  ⟨fun _ h => .inl h, fun _ _ => rfl, fun _ _ => rfl⟩

theorem Within.trans {w'' : World α β} (h : Within P w w') (h' : Within P w' w'') :
    Within P w w'' := by
  refine ⟨fun R hR => ?_, fun R hR => ?_, fun R hR => ?_⟩
  · rcases h'.touched R hR with hR | hR
    · exact h.touched R hR
    · exact .inr hR
  · rw [h'.content R hR, h.content R hR]
  · rw [h'.vault R hR, h.vault R hR]

theorem Within.onContent {γ : Type} (f : α → Except Failure γ × α) :
    Within P w (w.onContent P f).2 := by
  refine ⟨fun R hR => ?_, fun R hR => Function.update_of_ne hR _ _, fun _ _ => rfl⟩
  rcases List.mem_cons.1 hR with hR | hR
  · exact .inr hR
  · exact .inl hR

theorem Within.onVault {γ : Type} (f : β → Except Failure γ × β) : Within P w (w.onVault P f).2 := by
  refine ⟨fun R hR => ?_, fun _ _ => rfl, fun R hR => Function.update_of_ne hR _ _⟩
  rcases List.mem_cons.1 hR with hR | hR
  · exact .inr hR
  · exact .inl hR

/-- A change of the memory touches no project. -/
theorem Within.memory (h : Within P w w') (m : Memory) :
    Within P { w with memory := m } w' ∧ Within P w { w' with memory := m } :=
  ⟨⟨h.touched, h.content, h.vault⟩, ⟨h.touched, h.content, h.vault⟩⟩

theorem Memory.OwnStore.secretStore (hs : w.memory.OwnStore toLowerCase P) :
    w.secretStore toLowerCase P = P := by
  unfold World.secretStore
  cases hR : w.memory.secretStores (secretStoreKey toLowerCase P) with
  | none => rfl
  | some R => exact hs R hR

theorem Memory.OwnStore.keepStore (hs : w.memory.OwnStore toLowerCase P) :
    (w.keepStore toLowerCase P).memory.OwnStore toLowerCase P := by
  intro R hR
  have hkept : (w.keepStore toLowerCase P).memory.secretStores (secretStoreKey toLowerCase P) =
      some (w.secretStore toLowerCase P) := Function.update_self ..
  rw [hkept, hs.secretStore] at hR
  exact (Option.some.inj hR).symm

/-- What stays as it is while a handler runs on the project it names. -/
structure Kept (toLowerCase : String → String) (P : Path) (w w' : World α β) : Prop where
  within : Within P w w'
  current : w'.memory.current = w.memory.current
  ownStore : w.memory.OwnStore toLowerCase P → w'.memory.OwnStore toLowerCase P

theorem Kept.trans {w'' : World α β} (h : Kept toLowerCase P w w') (h' : Kept toLowerCase P w' w'') :
    Kept toLowerCase P w w'' :=
  ⟨h.within.trans h'.within, h'.current.trans h.current, fun hs => h'.ownStore (h.ownStore hs)⟩

/-- An access on the named project touches no other one; a secret access needs its own store. -/
theorem perform_kept {a : Access ν} (hcur : w.memory.current = some project)
    (hP : project.projectPath = P)
    (ha : w.memory.OwnStore toLowerCase P ∨ ∀ o v, a ≠ .secret o v) :
    Kept toLowerCase P w (w.perform toLowerCase S P a).2 := by
  subst hP
  cases a with
  | named o v =>
    simp only [World.perform, hcur, if_true]
    exact ⟨.onContent _, rfl, id⟩
  | opened o v =>
    simp only [World.perform, hcur]
    exact ⟨.onContent _, rfl, id⟩
  | secret o v =>
    have hs := ha.resolve_right fun hne => hne o v rfl
    simp only [World.perform, hcur]
    rw [hs.secretStore]
    refine ⟨(Within.refl _ w).memory _ |>.2.trans (.onVault _), rfl, fun hs => ?_⟩
    exact hs.keepStore

/-- **A handler that runs on the project it names keeps to it**, by induction on what it
does: every access does, and leaves the project open. -/
theorem run_kept {b : Body ν} (hcur : w.memory.current = some project)
    (hP : project.projectPath = P) (hs : w.memory.OwnStore toLowerCase P ∨ b.SecretFree) :
    Kept toLowerCase P w (World.run toLowerCase S P b w).2 := by
  induction b generalizing w with
  | settle r => exact ⟨.refl P w, rfl, id⟩
  | access a next ih =>
    have ha : w.memory.OwnStore toLowerCase P ∨ ∀ o v, a ≠ .secret o v := by
      refine hs.imp_right fun hfree o v => ?_
      rintro rfl
      exact hfree
    have hstep := perform_kept (S := S) hcur hP ha
    have hnext : ∀ r, (w.perform toLowerCase S P a).2.memory.OwnStore toLowerCase P ∨
        (next r).SecretFree := by
      intro r
      refine hs.imp hstep.ownStore fun hfree => ?_
      cases a with
      | secret o v => exact absurd hfree id
      | named o v => exact hfree r
      | opened o v => exact hfree r
    exact hstep.trans (ih _ (hstep.current.trans hcur) (hnext _))

theorem lockSecretStore_kept (hs : w.memory.OwnStore toLowerCase P) :
    Kept toLowerCase P w (w.lockSecretStore toLowerCase S P).2 := by
  unfold World.lockSecretStore
  cases hR : w.memory.secretStores (secretStoreKey toLowerCase P) with
  | none => exact ⟨.refl P w, rfl, id⟩
  | some R =>
    obtain rfl := hs R hR
    exact ⟨.onVault _, rfl, id⟩

theorem closeProject_within (hcur : w.memory.current = some project)
    (hP : project.projectPath = P) : Within P w (w.closeProject S).2 := by
  subst hP
  simp only [World.closeProject, hcur]
  exact ((Within.refl _ w).memory _).2.trans (.onContent _)

theorem lockAndClose_within (hcur : w.memory.current = some project)
    (hP : project.projectPath = P) (hs : w.memory.OwnStore toLowerCase P) :
    Within P w (w.lockAndClose toLowerCase S P).2 := by
  have hlock := lockSecretStore_kept (S := S) hs
  unfold World.lockAndClose
  split
  · next w' heq =>
    rw [heq] at hlock
    exact hlock.within.trans (closeProject_within (hlock.current.trans hcur) hP)
  · next e w' heq =>
    rw [heq] at hlock
    exact hlock.within

/-! ### The wrappers -/

theorem Within.confined {out : Except Failure ν × World α β} (hw : w.touched = [])
    (h : Within P w out.2) (hcur : ∀ project, w.memory.current = some project →
      project.projectPath ≠ P → ∃ e, out.1 = .error e) : Confined P w out := by
  refine ⟨fun R hR => ?_, h.content, h.vault, hcur⟩
  rcases h.touched R hR with hR | hR
  · rw [hw] at hR; cases hR
  · exact hR

/-- A command that is refused without an access. -/
theorem confined_error (hw : w.touched = []) (e : Failure) :
    Confined P w ((.error e, w) : Except Failure ν × World α β) :=
  Within.confined hw (.refl P w) fun _ _ _ => ⟨e, rfl⟩

/-- What `storage.open` leaves behind. -/
theorem openProject_within (toLowerCase : String → String) (S : Storage α β ν) (P : Path)
    (w : World α β) :
    Within P w (w.openProject S P).2 ∧
      (w.memory.OwnStore toLowerCase P → (w.openProject S P).2.memory.OwnStore toLowerCase P) ∧
      ∀ project, (w.openProject S P).1 = .ok project →
        (w.openProject S P).2.memory.current = some project ∧ project.projectPath = P := by
  have hopen : Within P w (w.onContent P S.opening).2 := .onContent _
  unfold World.openProject
  split
  · next projectId runId w' heq =>
    rw [heq] at hopen
    refine ⟨(hopen.memory _).2, ?_, ?_⟩
    · obtain rfl : (w.onContent P S.opening).2 = w' := by rw [heq]
      exact id
    · rintro project hp
      obtain rfl := Except.ok.inj hp
      exact ⟨rfl, rfl⟩
  · next e w' heq =>
    rw [heq] at hopen
    refine ⟨hopen, ?_, fun _ hp => by cases hp⟩
    obtain rfl : (w.onContent P S.opening).2 = w' := by rw [heq]
    exact id

/-- A handler on the named project keeps to it. -/
theorem run_confined {b : Body ν} (hw : w.touched = []) (hcur : w.memory.current = some project)
    (hP : project.projectPath = P) (hs : w.memory.OwnStore toLowerCase P ∨ b.SecretFree) :
    Confined P w (World.run toLowerCase S P b w) := by
  refine Within.confined hw (run_kept hcur hP hs).within fun other ho hne => ?_
  rw [hcur] at ho
  exact absurd (Option.some.inj ho ▸ hP) hne

/-- A command that opens its project keeps to it, if no other project has its secret store. -/
theorem withOpenProject_confined {operation : Summary → Body ν} (hw : w.touched = [])
    (hcur : w.memory.current = none) (hs : w.memory.OwnStore toLowerCase P) :
    Confined P w (w.withOpenProject toLowerCase S P operation) := by
  refine Within.confined hw ?_ fun _ ho => by rw [hcur] at ho; cases ho
  obtain ⟨hopen, hstore, hok⟩ := openProject_within toLowerCase S P w
  simp only [World.withOpenProject, hcur]
  split
  · next e w' heq => rw [heq] at hopen; exact hopen
  · next project w' heq =>
    rw [heq] at hopen hstore hok
    obtain ⟨hopened, hP⟩ := hok project rfl
    have hran := run_kept (S := S) (b := operation project) hopened hP (.inl (hstore hs))
    exact (hopen.trans hran.within).trans
      (lockAndClose_within (hran.current.trans hopened) hP (hran.ownStore (hstore hs)))

theorem afterSession_within {keepOpen : Bool} {ran : Except Failure ν × World α β}
    (hcur : ran.2.memory.current = some project) (hP : project.projectPath = P)
    (hs : ran.2.memory.OwnStore toLowerCase P) :
    Within P ran.2 (World.afterSession toLowerCase S P keepOpen ran).2 := by
  unfold World.afterSession
  split_ifs
  · split
    · exact .refl P _
    · have hlock := lockSecretStore_kept (S := S) hs
      exact hlock.within.trans (closeProject_within (hlock.current.trans hcur) hP)
  · exact lockAndClose_within hcur hP hs

theorem withSessionProject_confined {operation : Summary → Body ν} {keepOpen : Bool}
    (hw : w.touched = []) (hcur : w.memory.current = none) (hs : w.memory.OwnStore toLowerCase P) :
    Confined P w (w.withSessionProject toLowerCase S P keepOpen operation) := by
  refine Within.confined hw ?_ fun _ ho => by rw [hcur] at ho; cases ho
  obtain ⟨hopen, hstore, hok⟩ := openProject_within toLowerCase S P w
  simp only [World.withSessionProject, hcur]
  split
  · next e w' heq => rw [heq] at hopen; exact hopen
  · next project w' heq =>
    rw [heq] at hopen hstore hok
    obtain ⟨hopened, hP⟩ := hok project rfl
    have hran := run_kept (S := S) (b := operation project) hopened hP (.inl (hstore hs))
    exact (hopen.trans hran.within).trans
      (afterSession_within (hran.current.trans hopened) hP (hran.ownStore (hstore hs)))

/-! ### First steps -/

theorem First.unless_ne_returns {check : Option Failure} {a : Access Unit} :
    First.unless check (.accesses a) ≠ .returns := by
  cases check <;> simp [First.unless]

theorem First.unless_secret {check : Option Failure} {a : Access Unit} {o : SecretOperation}
    (hf : First.unless check (.accesses a) = .accesses (.secret o ())) : a = .secret o () := by
  cases check with
  | some e => cases hf
  | none => exact First.accesses.inj hf

theorem Command.createProxyFirst_ne_returns :
    c.createProxyFirst toLowerCase project ≠ .returns := by
  unfold Command.createProxyFirst
  split
  · exact fun hf => by cases hf
  · exact fun hf => by cases hf
  · exact First.unless_ne_returns

/-- A handler that starts at a secret store is one that may use it. -/
theorem Command.usesSecretStore_of_first {o : SecretOperation}
    (hf : c.firstStep toLowerCase project m = .accesses (.secret o ())) :
    c.usesSecretStore toLowerCase project = true := by
  unfold Command.firstStep at hf
  unfold Command.usesSecretStore
  cases hc : c.commandType <;> simp only [hc] at hf ⊢
  case proxyCreate =>
    unfold Command.createProxyFirst at hf
    split at hf
    · cases hf
    · next o' heq => rw [heq]
    · exact absurd (First.unless_secret hf) (by simp)
  case renderStart => split_ifs at hf; exact absurd (First.unless_secret hf) (by simp)
  case interactionProfileValidate => split_ifs at hf; cases hf
  case interactionRun => split_ifs at hf; cases hf
  case profileCreate => exact absurd (First.unless_secret hf) (by simp)
  case profileUpdate => exact absurd (First.unless_secret hf) (by simp)
  all_goals cases hf

/-- A handler that makes no access uses no secret store. -/
theorem Command.usesSecretStore_of_returns (hw : c.commandType.wrapper = .openProject)
    (hf : c.firstStep toLowerCase project m = .returns) :
    c.usesSecretStore toLowerCase project = false := by
  unfold Command.firstStep at hf
  unfold Command.usesSecretStore
  cases hc : c.commandType <;> simp only [hc] at hf hw ⊢
  case proxyCreate => exact absurd hf Command.createProxyFirst_ne_returns
  case secretDelete => exact absurd hf First.unless_ne_returns
  case proxyImport => exact absurd hf First.unless_ne_returns
  all_goals first | exact absurd hw (by decide) | cases hf

theorem Handlers.body_secretFree (hs : c.usesSecretStore toLowerCase project = false) :
    (h.body c m project).SecretFree := by
  unfold Handlers.body
  split
  · trivial
  · trivial
  · next a hfirst =>
    have hnext : ∀ r : Except Failure ν, (h.goOn c project r).SecretFree := by
      intro r
      cases r with
      | ok v => exact h.rest_secretFree c project hs v
      | error e => trivial
    cases a with
    | secret o u => rw [Command.usesSecretStore_of_first hfirst] at hs; cases hs
    | named o u => exact hnext
    | opened o u => exact hnext

/-! ### The condition is enough -/

/-- A first access that checks the path refuses a command for another project. -/
theorem refused_named {o : ProfileOperation} (hcur : w.memory.current = some project)
    (hP : project.projectPath ≠ P)
    (hfirst : c.firstStep toLowerCase project m = .accesses (.named o ())) :
    World.run toLowerCase S P (h.body c m project) w = (.error .PROJECT_NOT_OPEN, w) := by
  have hdenied : ∀ v, w.perform toLowerCase S P (.named o v) = (.error .PROJECT_NOT_OPEN, w) := by
    intro v
    simp only [World.perform, hcur, hP, if_false]
  have hbody : h.body c m project =
      .access (.named o (h.arguments c project)) (h.goOn c project) := by
    simp only [Handlers.body, hfirst, Access.supply]
  have hrun : World.run toLowerCase S P
      (.access (.named o (h.arguments c project)) (h.goOn c project)) w =
      World.run toLowerCase S P (h.goOn c project (.error .PROJECT_NOT_OPEN)) w := by
    simp only [World.run, hdenied]
  exact (congrArg (fun b => World.run toLowerCase S P b w) hbody).trans hrun

theorem execute_eq (hw : w.touched = []) (hbefore : c.beforeProject w.memory = none) :
    execute S h c w = match c.commandType.wrapper with
      | .openProject => w.withOpenProject toLowerCase S c.projectPath (h.body c w.memory)
      | .sessionProject keepOpen =>
        w.withSessionProject toLowerCase S c.projectPath keepOpen (h.session c) := by
  have hw' : ({ w with touched := [] } : World α β) = w := by rw [← hw]
  cases hwrap : c.commandType.wrapper <;> simp only [execute, hw', hbefore, hwrap]

theorem execute_confined (hA : c.Admissible toLowerCase w.memory) (hw : w.touched = [])
    (hbefore : c.beforeProject w.memory = none) :
    Confined c.projectPath w (execute S h c w) := by
  rw [execute_eq hw hbefore]
  unfold Command.Admissible at hA
  cases hcur : w.memory.current with
  | none =>
    rw [hcur] at hA
    split
    · exact withOpenProject_confined hw hcur hA
    · exact withSessionProject_confined hw hcur hA
  | some project =>
    simp only [hcur] at hA
    split_ifs at hA with hP
    · -- the project is open already: the handler runs on it
      split
      · next hwrap =>
        simp only [World.withOpenProject, hcur]
        rcases hA with hs | hs | ⟨-, e, hstop⟩
        · exact run_confined hw hcur hP (.inl hs)
        · exact run_confined hw hcur hP (.inr (Handlers.body_secretFree hs))
        · simp only [Handlers.body, hstop, World.run]
          exact confined_error hw e
      · next keepOpen hwrap =>
        simp only [World.withSessionProject, hcur, hP, ne_eq, not_true, if_false]
        rcases hA with hs | hs | ⟨hopen, -⟩
        · exact run_confined hw hcur hP (.inl hs)
        · exact run_confined hw hcur hP (.inr (h.session_secretFree c project hs))
        · rw [hwrap] at hopen; cases hopen
    · -- another project is open: the command is refused
      split
      · next hwrap =>
        simp only [World.withOpenProject, hcur]
        rcases hA with hne | ⟨-, e, hstop⟩ | ⟨o, hfirst⟩
        · exact absurd hwrap hne
        · simp only [Handlers.body, hstop, World.run]
          exact confined_error hw e
        · rw [refused_named hcur hP hfirst]
          exact confined_error hw _
      · simp only [World.withSessionProject, hcur, hP, ne_eq, not_false_eq_true, if_true]
        exact confined_error hw _

/-! ### The condition is needed -/

/-- A storage in which everything succeeds. -/
def obligingStorage : Storage Unit Unit Unit where
  opening _ := (.ok ("project", "run"), ())
  closing _ := (.ok (), ())
  profileOperation _ _ _ := (.ok (), ())
  operation _ _ _ := (.ok (), ())
  secretOperation _ _ _ := (.ok (), ())
  lock _ := (.ok (), ())

/-- A handler that asks its secret store, where it may. -/
def askingBody (uses : Bool) (otherwise : Except Failure Unit) : Body Unit :=
  if uses then .access (.secret .getBackendStatus ()) .settle else .settle otherwise

theorem askingBody_secretFree {uses : Bool} {r : Except Failure Unit} (hu : uses = false) :
    (askingBody uses r).SecretFree := by
  subst hu
  trivial

/-- Handlers that use the secret store whenever the source lets them. -/
def askingHandlers (toLowerCase : String → String) : Handlers toLowerCase Unit where
  arguments _ _ := ()
  answer _ _ := ()
  rest c project _ := askingBody (c.usesSecretStore toLowerCase project) (.ok ())
  session c project :=
    askingBody (c.usesSecretStore toLowerCase project) (.error .SESSION_STATE_CONFLICT)
  rest_secretFree _ _ hs _ := askingBody_secretFree hs
  session_secretFree _ _ hs := askingBody_secretFree hs

/-- All projects are empty. -/
def emptyWorld (m : Memory) : World Unit Unit := ⟨m, fun _ => (), fun _ => (), []⟩

theorem perform_touched {a : Access ν} {R : Path} (hR : R ∈ w.touched) :
    R ∈ (w.perform toLowerCase S P a).2.touched := by
  unfold World.perform
  split <;> split <;> (try split_ifs) <;> first | exact hR | exact List.mem_cons_of_mem _ hR

theorem run_touched {b : Body ν} {R : Path} (hR : R ∈ w.touched) :
    R ∈ (World.run toLowerCase S P b w).2.touched := by
  induction b generalizing w with
  | settle r => exact hR
  | access a next ih => exact ih _ (perform_touched hR)

/-- A kept secret store stays kept. -/
theorem run_stores {b : Body ν} {R : Path} (hcur : w.memory.current = some project)
    (hP : project.projectPath = P)
    (hR : w.memory.secretStores (secretStoreKey toLowerCase P) = some R) :
    (World.run toLowerCase S P b w).2.memory.current = some project ∧
      (World.run toLowerCase S P b w).2.memory.secretStores (secretStoreKey toLowerCase P) =
        some R := by
  induction b generalizing w with
  | settle r => exact ⟨hcur, hR⟩
  | access a next ih =>
    subst hP
    refine ih _ ?_ ?_
    · cases a <;> simp only [World.perform, hcur, if_true] <;> exact hcur
    · cases a with
      | secret o v =>
        simp only [World.perform, hcur]
        show (w.keepStore toLowerCase _).memory.secretStores _ = _
        unfold World.keepStore World.secretStore
        simp [hR]
      | named o v => simp only [World.perform, hcur, if_true]; exact hR
      | opened o v => simp only [World.perform, hcur]; exact hR

/-- A secret access turns to the kept store, whoever's it is. -/
theorem secret_touched {R : Path} {o : SecretOperation} {v : ν}
    (hcur : w.memory.current = some project) (hP : project.projectPath = P)
    (hR : w.memory.secretStores (secretStoreKey toLowerCase P) = some R) :
    R ∈ (w.perform toLowerCase S P (.secret o v)).2.touched := by
  subst hP
  have hstore : w.secretStore toLowerCase project.projectPath = R := by
    unfold World.secretStore
    rw [hR]
    rfl
  simp only [World.perform, hcur, hstore]
  exact List.mem_cons_self

theorem askingBody_touched {w : World Unit Unit} {uses : Bool} {R : Path}
    {r : Except Failure Unit} (hu : uses = true)
    (hcur : w.memory.current = some project) (hP : project.projectPath = P)
    (hR : w.memory.secretStores (secretStoreKey toLowerCase P) = some R) :
    R ∈ (World.run toLowerCase obligingStorage P (askingBody uses r) w).2.touched := by
  subst hu
  exact secret_touched (S := obligingStorage) (o := .getBackendStatus) (v := ()) hcur hP hR

/-- Closing a project locks the kept store, whoever's it is. -/
theorem lockAndClose_touched {w : World Unit Unit} {R : Path}
    (hcur : w.memory.current = some project)
    (hR : w.memory.secretStores (secretStoreKey toLowerCase P) = some R) :
    R ∈ (w.lockAndClose toLowerCase obligingStorage P).2.touched ∧
      R ∈ (w.lockSecretStore toLowerCase obligingStorage P).2.touched ∧
      R ∈ ((w.lockSecretStore toLowerCase obligingStorage P).2.closeProject obligingStorage).2.touched := by
  have hlock : w.lockSecretStore toLowerCase obligingStorage P =
      w.onVault R (obligingStorage.lock) := by
    unfold World.lockSecretStore
    rw [hR]
  have hclosed : R ∈ ((w.onVault R obligingStorage.lock).2.closeProject obligingStorage).2.touched := by
    have hcur' : (w.onVault R obligingStorage.lock).2.memory.current = some project := hcur
    simp only [World.closeProject, hcur']
    exact List.mem_cons_of_mem _ List.mem_cons_self
  unfold World.lockAndClose
  rw [hlock]
  exact ⟨hclosed, List.mem_cons_self, hclosed⟩

/-- Opening a project whose key has the store of another project touches that one. -/
theorem touched_of_closed {R : Path} (hcur : m.current = none)
    (hbefore : c.beforeProject m = none)
    (hR : m.secretStores (secretStoreKey toLowerCase c.projectPath) = some R) :
    R ∈ (execute obligingStorage (askingHandlers toLowerCase) c (emptyWorld m)).2.touched := by
  let project : Summary := ⟨c.projectPath, "project", "run"⟩
  obtain ⟨opened, hopen, hopened, hstore⟩ : ∃ w : World Unit Unit,
      (emptyWorld m).openProject obligingStorage c.projectPath = (.ok project, w) ∧
        w.memory.current = some project ∧
        w.memory.secretStores (secretStoreKey toLowerCase c.projectPath) = some R :=
    ⟨_, rfl, rfl, hR⟩
  have hcur' : (emptyWorld m).memory.current = none := hcur
  rw [execute_eq (w := emptyWorld m) rfl hbefore]
  split
  · simp only [World.withOpenProject, hcur', hopen]
    obtain ⟨hran, hkept⟩ := run_stores (S := obligingStorage)
      (b := (askingHandlers toLowerCase).body c (emptyWorld m).memory project) hopened rfl hstore
    exact (lockAndClose_touched hran hkept).1
  · next keepOpen hwrap =>
    simp only [World.withSessionProject, hcur', hopen]
    obtain ⟨hran, hkept⟩ := run_stores (S := obligingStorage)
      (b := (askingHandlers toLowerCase).session c project) hopened rfl hstore
    have htouched := lockAndClose_touched hran hkept
    unfold World.afterSession
    split_ifs
    · cases hu : c.usesSecretStore toLowerCase project with
      | true =>
        have hasked := askingBody_touched (r := .error .SESSION_STATE_CONFLICT) hu hopened rfl hstore
        split
        · exact hasked
        · exact htouched.2.2
      | false =>
        have hsettled : (askingHandlers toLowerCase).session c project =
            .settle (.error .SESSION_STATE_CONFLICT) := by
          simp only [askingHandlers, askingBody, hu]
          rfl
        rw [hsettled] at htouched ⊢
        exact htouched.2.2
    · exact htouched.1

/-- A handler on its own project turns to the store of another one that is kept for it. -/
theorem touched_of_opened {R : Path} (hcur : m.current = some project)
    (hP : project.projectPath = c.projectPath) (hbefore : c.beforeProject m = none)
    (hu : c.usesSecretStore toLowerCase project = true) (hstop : ¬c.Stops toLowerCase project m)
    (hR : m.secretStores (secretStoreKey toLowerCase c.projectPath) = some R) :
    R ∈ (execute obligingStorage (askingHandlers toLowerCase) c (emptyWorld m)).2.touched := by
  have hcur' : (emptyWorld m).memory.current = some project := hcur
  rw [execute_eq (w := emptyWorld m) rfl hbefore]
  split
  · next hwrap =>
    simp only [World.withOpenProject, hcur']
    cases hfirst : c.firstStep toLowerCase project m with
    | throws e => exact absurd ⟨hwrap, e, hfirst⟩ hstop
    | returns => rw [Command.usesSecretStore_of_returns hwrap hfirst] at hu; cases hu
    | accesses a =>
      have hbody : (askingHandlers toLowerCase).body c (emptyWorld m).memory project =
          .access (a.supply ()) ((askingHandlers toLowerCase).goOn c project) := by
        simp only [Handlers.body, emptyWorld, hfirst]
      rw [hbody]
      cases a with
      | secret o v =>
        simp only [World.run]
        exact run_touched (secret_touched hcur' hP hR)
      | named o v =>
        have hstep : (emptyWorld m).perform toLowerCase obligingStorage c.projectPath
            (.named o ()) = (emptyWorld m).onContent c.projectPath fun _ => (.ok (), ()) := by
          simp only [World.perform, hcur', hP, if_true]
          rfl
        simp only [World.run, Access.supply, hstep]
        exact askingBody_touched hu hcur' hP hR
      | opened o v =>
        have hstep : (emptyWorld m).perform toLowerCase obligingStorage c.projectPath
            (.opened o ()) = (emptyWorld m).onContent project.projectPath fun _ => (.ok (), ()) := by
          simp only [World.perform, hcur']
          rfl
        simp only [World.run, Access.supply, hstep]
        exact askingBody_touched hu hcur' hP hR
  · simp only [World.withSessionProject, hcur', hP, ne_eq, not_true, if_false]
    exact askingBody_touched hu hcur' hP hR

/-- Without a check before its first access a command succeeds on another project. -/
theorem succeeds_elsewhere (toLowerCase : String → String) (hcur : m.current = some project)
    (hbefore : c.beforeProject m = none) (hrefuse : ¬c.Refuses toLowerCase project m) :
    ∃ v, (execute obligingStorage (askingHandlers toLowerCase) c (emptyWorld m)).1 = .ok v := by
  have hcur' : (emptyWorld m).memory.current = some project := hcur
  simp only [Command.Refuses, not_or, not_exists, ne_eq, not_not] at hrefuse
  obtain ⟨hwrap, hstop, hnamed⟩ := hrefuse
  have hasked : ∀ {uses : Bool} {w : World Unit Unit}, w.memory.current = some project →
      (World.run toLowerCase obligingStorage c.projectPath (askingBody uses (.ok ())) w).1 =
        .ok () := by
    intro uses w hw
    cases uses with
    | true => simp only [askingBody, if_true, World.run, World.perform, hw]; rfl
    | false => rfl
  rw [execute_eq (w := emptyWorld m) rfl hbefore]
  simp only [hwrap, World.withOpenProject, hcur', Handlers.body]
  have hmem : (emptyWorld m).memory = m := rfl
  rw [hmem]
  refine ⟨(), ?_⟩
  cases hfirst : c.firstStep toLowerCase project m with
  | throws e => exact absurd ⟨hwrap, e, hfirst⟩ hstop
  | returns => rfl
  | accesses a =>
    cases a with
    | named o v => exact absurd hfirst (hnamed o)
    | opened o v =>
      have hstep : (emptyWorld m).perform toLowerCase obligingStorage c.projectPath
          (.opened o ()) = (emptyWorld m).onContent project.projectPath fun _ => (.ok (), ()) := by
        simp only [World.perform, hcur']
        rfl
      simp only [World.run, Access.supply, hstep]
      exact hasked hcur'
    | secret o v =>
      have hstep : ((emptyWorld m).perform toLowerCase obligingStorage c.projectPath
          (.secret o ())).1 = .ok () := by
        simp only [World.perform, hcur']
        rfl
      have hkept : ((emptyWorld m).perform toLowerCase obligingStorage c.projectPath
          (.secret o ())).2.memory.current = some project := by
        simp only [World.perform, hcur']
        exact hcur'
      simp only [World.run, Access.supply, hstep]
      exact hasked hkept

/-! ### Exactly when a command keeps to its project -/

/-- Projects that hold the names of their pending jobs; `clearPending` removes them. -/
def pendingStorage : Storage (List String) Unit Unit where
  opening jobs := (.ok ("project", "run"), jobs)
  closing jobs := (.ok (), jobs)
  profileOperation _ _ jobs := (.ok (), jobs)
  operation
    | .clearPending, _, _ => (.ok (), [])
    | _, _, jobs => (.ok (), jobs)
  secretOperation _ _ vault := (.ok (), vault)
  lock vault := (.ok (), vault)

/-- The project at `/archives/b` is open. -/
def secondOpen : World (List String) Unit where
  memory :=
    { current := some { projectPath := "/archives/b", projectId := "project", runId := "run" }
      secretStores _ := none
      activeRenders := []
      activeInteractions := []
      activeAuthentications := []
      planProvider := false }
  content _ := ["page"]
  vault _ := ()
  touched := []

/-- `queue.clearPending` for the project at `/archives/a`. -/
def clearFirst : Command where
  commandType := .queueClearPending
  projectPath := "/archives/a"
  runId := "run"
  jobId := ""
  sessionId := ""
  parsed :=
    { renderPolicy := none, profileGiven := false, profileDraft := none, secretRef := none,
      proxyImport := none, credentialRef := .ok none, credential := none, metadata := none }

/-- The handlers of commands with a single access. -/
def plainHandlers (toLowerCase : String → String) : Handlers toLowerCase Unit where
  arguments _ _ := ()
  answer _ _ := ()
  rest _ _ v := .settle (.ok v)
  session _ _ := .settle (.ok ())
  rest_secretFree _ _ _ _ := trivial
  session_secretFree _ _ _ := trivial

end OfflineWebArchiver.Service
