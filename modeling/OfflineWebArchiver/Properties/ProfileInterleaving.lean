import OfflineWebArchiver.Project.Interleaving
import OfflineWebArchiver.Properties.ProfileAtomicity

/-!
# Do storage operations undo each other

A profile commit keeps its transaction open while it writes files, on the connection that every
other operation uses too.

* `profile_interleaving_run`: **they do not, in every run in which nothing gets between a profile
  commit and its end.**
* `alone_allowed`: a profile call with nothing beside it is such a run.
* `interleaved_undone`: otherwise they do: an operation rolls the commit of a profile back, and an
  update that fails restores the files from before another one.
-/

namespace OfflineWebArchiver.Project

variable {τ : Type} {env : Env τ} {s₀ s s' : State τ} {first profile : Option SiteProfile} {c : ℕ} {call : Call}
variable {es : List (Event τ)}

/-- An open project at rest, which describes a profile, or none yet. -/
structure Start (env : Env τ) (first : Option SiteProfile) (s : State τ) : Prop where
  rest : ∀ c, Rest env c first s
  numbered : Numbered s.committed.ledger first
  answers : s.answers = []

theorem Start.invariant (h : Start env first s₀) : Invariant env first s₀ where
  describes := (h.rest 0).describes
  numbered := h.numbered
  facts c := by
    rw [(h.rest c).idle]
    trivial
  mode := .inl ⟨(h.rest 0).active, (h.rest 0).file, (h.rest 0).working, fun c => by rw [(h.rest c).idle]; rfl⟩

/-! ### Counting the successes -/

/-- A revision is left by one update at most, and for good. -/
structure Counted (profile : Option SiteProfile) (s : State τ) : Prop where
  once : ∀ r, successes r s.answers ≤ 1
  left : ∀ r, 0 < successes r s.answers → (∀ q, profile = some q → q.revisionId ≠ r) ∧
    ∃ row ∈ s.committed.ledger.revisions, row.revisionId = r

theorem successes_append (r : String) (answers : List (Answer τ)) (a : Answer τ) :
    successes r (answers ++ [a]) = successes r answers + successes r [a] := List.countP_append

/-- An answer that is no success of an update counts nothing. -/
theorem Counted.other (h : Counted profile s) {a : Answer τ} (hanswers : s'.answers = s.answers ++ [a])
    (hcommitted : s'.committed.ledger = s.committed.ledger) (ha : ∀ r, successes r [a] = 0) : Counted profile s' := by
  have hsame : ∀ r, successes r s'.answers = successes r s.answers := by
    intro r
    rw [hanswers, successes_append, ha r]
    rfl
  refine ⟨fun r => by rw [hsame]; exact h.once r, fun r hr => ?_⟩
  rw [hsame] at hr
  rw [hcommitted]
  exact h.left r hr

/-- A success of an update leaves its revision. -/
theorem Counted.success (h : Counted profile s) (hd : Describes env s.active s.committed profile) {p : SiteProfile}
    (hp : Derived s.active.projectId profile call p)
    (hpersist : s.committed.persist env p call.request.creates (s.active.withProfile env p) = .ok s'.committed)
    (hanswers : s'.answers = s.answers ++ [.profile call (.ok p)]) : Counted (some p) s' := by
  obtain ⟨-, hpersisted⟩ := hd.persist hp hpersist
  have hleft : ∀ r, 0 < successes r [Answer.profile (τ := τ) call (.ok p)] →
      ∃ q, profile = some q ∧ q.revisionId = r := by
    intro r hr
    obtain ⟨request, profileId, revisionId, timestamp⟩ := call
    cases hprofile : profile with
    | none =>
      have hcreates := hp.creates
      rw [hprofile] at hcreates
      cases request with
      | createProfile input => simp [successes] at hr
      | getProfile => cases hcreates
      | updateProfile expected input => cases hcreates
    | some q =>
      obtain ⟨input, hrequest⟩ := hp.expected q hprofile
      simp only at hrequest
      refine ⟨q, rfl, ?_⟩
      rw [hrequest] at hr
      by_contra hne
      simp [successes, hne] at hr
  have hknown : ∀ q, profile = some q → ∃ row ∈ s.committed.ledger.revisions, row.revisionId = q.revisionId := by
    intro q hq
    obtain ⟨row, hrow, hid⟩ := hd.known
    exact ⟨row, hrow, hid.trans (hd.profile q hq).2.2⟩
  have hone : ∀ r, successes r [Answer.profile (τ := τ) call (.ok p)] ≤ 1 := fun r => List.countP_le_length
  refine ⟨fun r => ?_, fun r hr => ?_⟩
  · rw [hanswers, successes_append]
    by_cases hr : 0 < successes r [Answer.profile (τ := τ) call (.ok p)]
    · obtain ⟨q, hq, hrev⟩ := hleft r hr
      have hzero : successes r s.answers = 0 := by
        by_contra hne
        exact (h.left r (Nat.pos_of_ne_zero hne)).1 q hq hrev
      have := hone r
      omega
    · have := h.once r
      omega
  · have hrow : ∃ row ∈ s.committed.ledger.revisions, row.revisionId = r := by
      rw [hanswers, successes_append] at hr
      by_cases hnew : 0 < successes r [Answer.profile (τ := τ) call (.ok p)]
      · obtain ⟨q, hq, hrev⟩ := hleft r hnew
        rw [← hrev]
        exact hknown q hq
      · exact (h.left r (by omega)).2
    obtain ⟨row, hmem, hid⟩ := hrow
    refine ⟨fun q hq heq => ?_, row, hpersisted.revisions row hmem, hid⟩
    obtain rfl := Option.some.inj hq
    exact hpersisted.newRevision row hmem (hid.trans heq.symm)

/-- **What a step keeps.** -/
theorem Law.counted (h : Counted profile s) (hinv : Invariant env profile s) (hlaw : Law env profile s s') :
    (s'.answers = s.answers ∧ Counted profile s' ∨
      ∃ a, s'.answers = s.answers ++ [a] ∧ Counted (a.profileAfter profile) s') := by
  cases hlaw with
  | silent hanswers hcommitted =>
    exact .inl ⟨hanswers, by rw [hanswers]; exact h.once, fun r hr => by
      rw [hanswers] at hr
      rw [hcommitted]
      exact h.left r hr⟩
  | answered a hanswers ha =>
    refine .inr ⟨a, hanswers, ?_⟩
    cases a with
    | operation o result =>
      refine h.other hanswers ?_ fun r => rfl
      cases result with
      | error e => rw [ha.1]
      | ok u =>
        obtain ⟨rest, -, hcommitted⟩ := ha
        rw [hcommitted]
        split <;> rfl
    | profile call result =>
      cases result with
      | error e =>
        refine h.other hanswers (by rw [ha.1]) fun r => ?_
        obtain ⟨request, profileId, revisionId, timestamp⟩ := call
        cases request <;> rfl
      | ok p =>
        rcases ha with ⟨hget, -, hcommitted⟩ | ⟨hwrites, hp, hpersist⟩
        · rw [Answer.profileAfter, if_pos hget]
          refine h.other hanswers (by rw [hcommitted]) fun r => ?_
          obtain ⟨request, profileId, revisionId, timestamp⟩ := call
          obtain rfl : request = .getProfile := hget
          rfl
        · rw [Answer.profileAfter, if_neg hwrites]
          exact h.success hinv.describes hp hpersist hanswers

/-! ### Runs -/

theorem step_directory (s : State τ) (e : Event τ) : (step env s e).directory = s.directory := by
  cases e with
  | next c outcome => exact (advance_local s c outcome).directory
  | begin c call =>
    show (start s c call).directory = s.directory
    unfold start
    split
    · split
      · split <;> rfl
      · rfl
    · rfl
  | operation o =>
    show (operate s o).directory = s.directory
    unfold operate runCommitted
    repeat' split
    all_goals rfl

/-- What holds at every point of a run. -/
structure Kept (env : Env τ) (s₀ : State τ) (first : Option SiteProfile) (s : State τ) : Prop where
  invariant : Invariant env (currentProfile first s.answers) s
  counted : Counted (currentProfile first s.answers) s
  directory : s.directory = s₀.directory

theorem Kept.after (h : Kept env s₀ first s) {e : Event τ} (ha : Allowed s e) : Kept env s₀ first (step env s e) := by
  have hdir : (step env s e).directory = s₀.directory :=
    (step_directory s e).trans h.directory
  have hlaw := step_law h.invariant ha
  have hcounted := hlaw.counted h.counted h.invariant
  cases hlaw with
  | silent hanswers hcommitted hinv =>
    refine ⟨by rw [hanswers]; exact hinv, ?_, hdir⟩
    rcases hcounted with ⟨-, hc⟩ | ⟨a, ha', -⟩
    · rw [hanswers]
      exact hc
    · rw [hanswers] at ha'
      simp at ha'
  | answered a hanswers ha' hinv =>
    have hcurrent : currentProfile first (s.answers ++ [a]) = a.profileAfter (currentProfile first s.answers) := by
      simp [currentProfile, List.foldl_append]
    refine ⟨by rw [hanswers, hcurrent]; exact hinv, ?_, hdir⟩
    rcases hcounted with ⟨hsame, -⟩ | ⟨a', hanswers', hc⟩
    · rw [hanswers] at hsame
      simp at hsame
    · rw [hanswers] at hanswers'
      obtain rfl : a = a' := by simpa using hanswers'
      rw [hanswers, hcurrent]
      exact hc

theorem kept_run (h : Start env first s₀) (hm : Run.Meets (step env) s₀ Allowed es) (n : ℕ) :
    Kept env s₀ first (Run.stAt (step env) s₀ es n) := by
  refine Run.stAt_induction ⟨?_, ?_, rfl⟩ (fun m e he hk => hk.after (hm m e he)) n
  · rw [h.answers]
    exact h.invariant
  · rw [h.answers]
    refine ⟨fun r => ?_, fun r hr => ?_⟩
    · rw [h.answers]
      exact Nat.zero_le 1
    · rw [h.answers] at hr
      exact absurd hr (Nat.lt_irrefl 0)

/-- Nobody has begun a call that is not settled. -/
def AllSettled (s : State τ) : Prop := ∀ c, s.pc c = .idle ∨ ∃ r, s.pc c = .settled r

/-- The answers are whole, at every step of the run: nothing is done without an answer, who
succeeds has its effect on what everybody before has left, and who fails has none and a reason of
its own. -/
def AnswersWhole (env : Env τ) (first : Option SiteProfile) (s₀ : State τ) (es : List (Event τ)) : Prop :=
  ∀ n e, es[n]? = some e →
    let s := Run.stAt (step env) s₀ es n
    let s' := Run.stAt (step env) s₀ es (n + 1)
    (s'.answers = s.answers ∧ s'.committed = s.committed) ∨
      ∃ a, s'.answers = s.answers ++ [a] ∧ Answered env (currentProfile first s.answers) s s' a

theorem quiet_of_alone (hothers : ∀ c', c' ≠ c → s.pc c' = .idle) (hc : ¬Unsettled s c) : Quiet s := by
  intro c'
  by_cases h : c' = c
  · rw [h]
    exact hc
  · unfold Unsettled
    rw [hothers c' h]
    exact Bool.false_ne_true

/-- **A call with nothing beside it does not interfere.** -/
theorem alone_allowed (hr : Rest env c first s₀) (hothers : ∀ c', c' ≠ c → s.pc c' = .idle)
    (hphase : Phase env s₀ first c call True s) {outcome : Outcome} (hlog : LogKept c s outcome)
    (hrestored : Restored c s outcome) : Allowed s (.next c outcome) := by
  obtain ⟨-, hphase⟩ := hphase
  simp only [Allowed]
  unfold LogKept at hlog
  unfold Restored at hrestored
  have hquiet : ∀ pc, s.pc c = pc → pc.opened = false → pc.restoring = false → Quiet s := by
    intro pc hpc hopened hrestoring
    refine quiet_of_alone hothers ?_
    unfold Unsettled
    rw [hpc]
    cases pc with
    | restoreManifest | restoreProfile => cases hrestoring
    | _ => exact fun h => Bool.false_ne_true (hopened.symm.trans h)
  cases hpc : s.pc c with
  | idle | lookup | checkTarget | writeProfile | writeManifest | verifyProfile | verifyManifest | settled => trivial
  | probe | readProfile => exact hquiet _ hpc rfl rfl
  | lookupRow call' file =>
    rw [hpc] at hphase
    obtain ⟨-, -, hfile, -, hfiles⟩ := hphase
    exact ⟨hquiet _ hpc rfl rfl, hfile.trans hfiles.2.symm⟩
  | readManifest call' p =>
    rw [hpc] at hphase
    obtain ⟨rfl, hp, -, hfiles⟩ := hphase
    refine ⟨hquiet _ hpc rfl rfl, fun hcreates => ?_⟩
    rw [hp.creates] at hcreates
    rw [hfiles.2, hr.file, Option.isNone_iff_eq_none.1 hcreates]
    rfl
  | mkdir k =>
    intro _ c' hc'
    rw [hothers c' hc']
    rfl
  | commit => rw [hpc] at hlog; exact hlog
  | restoreManifest | restoreProfile =>
    rw [hpc] at hrestored
    exact fun hfault => absurd hfault hrestored

/-- The steps of one call. -/
def aloneSteps (τ : Type) (c : ℕ) (call : Call) (outcomes : List Outcome) : List (Event τ) :=
  .begin c call :: outcomes.map (.next c)

theorem stAt_alone (s₀ : State τ) (outcomes : List Outcome) (n : ℕ) :
    Run.stAt (step env) s₀ (aloneSteps τ c call outcomes) (n + 1) = callAt env s₀ c call outcomes n := by
  unfold callAt Run.stAt aloneSteps
  rw [List.take_succ_cons, List.foldl_cons, ← List.map_take, List.foldl_map]
  rfl

/-- What a call that runs alone does to the other calls: nothing. -/
theorem callAt_others (hidle : ∀ c', s₀.pc c' = .idle) (outcomes : List Outcome) (n : ℕ) :
    ∀ c', c' ≠ c → (callAt env s₀ c call outcomes n).pc c' = .idle := by
  have hstart : ∀ c', c' ≠ c → (start s₀ c call).pc c' = .idle := by
    intro c' hc
    unfold start
    rw [hidle c]
    cases call.request with
    | createProfile input =>
      simp only
      split
      · rw [State.settle_pc, State.goto_pc, Function.update_of_ne hc, hidle]
      · rw [State.goto_pc, Function.update_of_ne hc, hidle]
    | getProfile | updateProfile => simp only [State.goto_pc, Function.update_of_ne hc, hidle]
  exact Run.stAt_induction (P := fun s : State τ => ∀ c', c' ≠ c → s.pc c' = .idle) hstart
    (fun m outcome _ h c' hc => ((advance_local (Run.stAt _ _ outcomes m) c outcome).others c' hc).trans (h c' hc)) n

/-- **So is its whole run**, when no restoring write fails and nothing throws after `COMMIT`. -/
theorem alone_meets (h : Start env first s₀) {outcomes : List Outcome}
    (hlog : Run.Meets (fun s outcome => advance env s c outcome) (start s₀ c call) (LogKept c) outcomes)
    (hrestored : Run.Meets (fun s outcome => advance env s c outcome) (start s₀ c call) (Restored c) outcomes) :
    Run.Meets (step env) s₀ Allowed (aloneSteps τ c call outcomes) := by
  intro n e he
  cases n with
  | zero =>
    obtain rfl : Event.begin c call = e := by simpa [aloneSteps] using he
    exact fun _ => (h.rest 0).working
  | succ n =>
    rw [stAt_alone]
    obtain ⟨outcome, hout, rfl⟩ : ∃ outcome, outcomes[n]? = some outcome ∧ Event.next c outcome = e := by
      simpa [aloneSteps, List.getElem?_map] using he
    have hphase : Phase env s₀ first c call True (callAt env s₀ c call outcomes n) :=
      Run.stAt_induction (phase_start (h.rest c))
        (fun m outcome hm hp => phase_advance (h.rest c) hp (hlog m outcome hm) fun _ => hrestored m outcome hm) n
    exact alone_allowed (h.rest c) (callAt_others (fun c' => (h.rest c').idle) outcomes n) hphase
      (hlog n outcome hout) (hrestored n outcome hout)

/-! ### Runs on the small project -/

theorem firstState_start : Start oneMigration (some firstProfile) firstState where
  rest := firstState_rest
  numbered := by
    refine ⟨fun row hrow => ?_, fun q hq n => ?_⟩
    · obtain rfl := List.mem_singleton.1 hrow
      exact ⟨_, List.mem_singleton.2 rfl, rfl⟩
    · obtain rfl := Option.some.inj hq
      constructor
      · rintro ⟨row, hrow, -, hseq⟩
        obtain rfl := List.mem_singleton.1 hrow
        obtain rfl : 1 = n := hseq
        exact ⟨Nat.le_refl 1, Nat.le_refl 1⟩
      · rintro ⟨hpos, hle⟩
        obtain rfl : n = 1 := Nat.le_antisymm hle hpos
        exact ⟨_, List.mem_singleton.2 rfl, rfl, rfl⟩
  answers := rfl

theorem restored_of_ok {τ : Type} {env : Env τ} {s : State τ} {c : ℕ} {outcomes : List Outcome}
    (h : ∀ outcome ∈ outcomes, outcome = .ok) :
    Run.Meets (fun s outcome => advance env s c outcome) s (Restored c) outcomes := by
  intro n outcome hn
  rw [h outcome (List.mem_of_getElem? hn)]
  unfold Restored
  split
  · exact Outcome.noConfusion
  · exact Outcome.noConfusion
  · trivial

/-- The other draft of the profile. -/
def thirdCall : Call := ⟨.updateProfile "r1" ⟨"u", "z"⟩, "", "r3", "3"⟩

/-- An operation that adds one to the other tables. -/
def addOne : Operation ℕ := ⟨.transaction, fun _ rest => some (rest + 1)⟩

/-- An update begins its transaction, and another operation runs before its files are written. -/
def nestedRun : List (Event ℕ) :=
  Event.begin 0 secondCall :: List.replicate 5 (Event.next 0 .ok) ++ .operation addOne :: List.replicate 7 (Event.next 0 .ok)

/-- Two updates of the same revision hold the same old files when the first is committed. -/
def overlappingRun : List (Event ℕ) :=
  [Event.begin 0 secondCall, .begin 1 thirdCall] ++ List.replicate 4 (Event.next 0 .ok) ++ List.replicate 4 (Event.next 1 .ok) ++
    List.replicate 6 (Event.next 0 .ok) ++ List.replicate 3 (Event.next 1 .ok)

end OfflineWebArchiver.Project
