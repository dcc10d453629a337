import OfflineWebArchiver.Lib.Run
import OfflineWebArchiver.Project.Agreement

/-!
# Profile calls beside other operations

What every step of an open project keeps, as long as nothing gets between a profile commit and
its end (`Allowed`).

* `Facts`: what a call knows about the project where it stands.
* `Invariant`, `step_invariant`: nobody is in a commit, and the files are those of the current
  profile; or one call is, and everybody else is outside.
* `Law`, `step_law`: what a step answers, and what it does to the committed database.
-/

namespace OfflineWebArchiver.Project

variable {τ : Type} {env : Env τ}

/-! ### Runs without interference -/

/-- The transaction of the call is open. -/
def Pc.opened : Pc → Bool
  | .checkTarget _ | .writeProfile _ | .writeManifest _ | .verifyProfile _ | .verifyManifest .. | .commit .. => true
  | _ => false

/-- The call has read the files that it may restore, and is not settled. -/
def Pc.inside : Pc → Bool
  | .readProfile .. | .mkdir _ | .restoreManifest .. | .restoreProfile .. => true
  | pc => pc.opened

/-- The call is between its `BEGIN` and its end: its transaction is open, or it has files to restore
that are not the old ones. -/
def Unsettled (s : State τ) (c : ℕ) : Prop :=
  match s.pc c with
  | .restoreManifest k _ | .restoreProfile k _ =>
    ¬(s.manifestFile = k.oldManifest ∧ s.profileFile = k.oldProfile)
  | pc => pc.opened = true

/-- No call is between its `BEGIN` and its end. -/
def Quiet (s : State τ) : Prop := ∀ c, ¬Unsettled s c

/-- **The steps that do not interfere with a profile commit.** -/
def Allowed (s : State τ) : Event τ → Prop
  -- no other operation touches the open transaction or depends on its rows
  | .operation o =>
    match o.kind with
    | .query => o.run s.database.ledger s.database.rest = o.run s.committed.ledger s.committed.rest
    | _ => s.working = none
  | .begin _ call => call.request.creates = true → s.working = none
  | .next c outcome =>
    match s.pc c with
    | .probe .. => Quiet s
    -- the row is compared with the file that is still there
    | .lookupRow _ file => Quiet s ∧ file = s.profileFile
    | .readManifest call _ => Quiet s ∧ (call.request.creates = true → s.profileFile = .missing)
    | .readProfile .. => Quiet s
    -- a transaction begins while nobody else holds old files
    | .mkdir _ => outcome = .ok → ∀ c', c' ≠ c → (s.pc c').inside = false
    | .commit .. => outcome ≠ .faultAfter
    | .restoreManifest k _ => outcome = .fault → s.manifestFile = k.oldManifest
    | .restoreProfile k _ => outcome = .fault → s.profileFile = k.oldProfile
    | _ => True

/-! ### The current profile -/

/-- The profile after an answer. -/
def Answer.profileAfter (profile : Option SiteProfile) : Answer τ → Option SiteProfile
  | .profile call (.ok p) => if call.request = .getProfile then profile else some p
  | _ => profile

/-- The profile of the last commit that was answered, from the one at the start. -/
def currentProfile (first : Option SiteProfile) (answers : List (Answer τ)) : Option SiteProfile :=
  answers.foldl Answer.profileAfter first

/-- How many updates from this revision were answered with success. -/
def successes (revisionId : String) (answers : List (Answer τ)) : ℕ :=
  answers.countP fun
    | .profile ⟨.updateProfile expected _, _, _, _⟩ (.ok _) => expected = revisionId
    | _ => false

/-- The revisions of a profile are numbered without a gap. -/
structure Numbered (ledger : Ledger) (profile : Option SiteProfile) : Prop where
  linked : ∀ row ∈ ledger.profileRevisions, ∃ r ∈ ledger.profiles, r.profileId = row.profileId
  numbers : ∀ q, profile = some q → ∀ n, (∃ row ∈ ledger.profileRevisions, row.profileId = q.profileId ∧
    row.sequence = n) ↔ 1 ≤ n ∧ n ≤ q.sequence

/-- The call has read a profile, or none, that is not the current one any more. -/
def Stale (ledger : Ledger) (previous profile : Option SiteProfile) : Prop :=
  ∃ q', profile = some q' ∧ ∀ q, previous = some q → q.profileId = q'.profileId ∧ q.sequence < q'.sequence ∧
    q.revisionId ≠ q'.revisionId ∧ ∃ row ∈ ledger.revisions, row.revisionId = q.revisionId

/-- The current profile is not the one that the call expects. -/
def Changed (profile : Option SiteProfile) (call : Call) : Prop :=
  call.request.creates = true ∧ profile ≠ none ∨
    ∃ expected input, call.request = .updateProfile expected input ∧
      ∀ q, profile = some q → q.revisionId ≠ expected

/-- An id that was drawn for the call is in use. -/
def Reused (ledger : Ledger) (call : Call) : Prop :=
  (∃ row ∈ ledger.revisions, row.revisionId = call.revisionId) ∨
    (∃ row ∈ ledger.profiles, row.profileId = call.profileId ∨ row.currentProfileRevisionId = call.revisionId) ∨
    ∃ row ∈ ledger.profileRevisions, row.profileRevisionId = call.revisionId

/-- **Why a call fails by itself.** -/
def Reason (ledger : Ledger) (profile : Option SiteProfile) (call : Call) : ProfileError → Prop
  | .fault | .PROFILE_NO_CHANGES => True
  | .PROFILE_NOT_FOUND => profile = none
  | .PROFILE_REVISION_CONFLICT => Changed profile call
  | .PROFILE_ALREADY_EXISTS | .PROFILE_INTEGRITY_MISMATCH => call.request.creates = true ∧ profile ≠ none
  | .constraint => Changed profile call ∨ Reused ledger call
  | .PROFILE_INVALID | .PROJECT_ALREADY_EXISTS | .nestedTransaction | .noTransaction => False

variable {manifest : Manifest} {db db' : Database τ} {profile previous : Option SiteProfile} {p : SiteProfile}
variable {call : Call}

/-- After a commit what others have read is stale. -/
theorem Stale.next (hd : Describes env manifest db profile) (hp : Derived manifest.projectId profile call p)
    (hdb : Persisted profile p db db') (h : previous = profile ∨ Stale db.ledger previous profile) :
    Stale db'.ledger previous (some p) := by
  refine ⟨p, rfl, fun q hq => ?_⟩
  rcases h with rfl | ⟨q', hq', h⟩
  · obtain ⟨row, hrow, hid⟩ := hd.known
    have hrev := (hd.profile q hq).2.2
    have hseq := hp.sequence
    rw [hq] at hseq
    refine ⟨(hp.profileId q hq).symm, by rw [hseq]; exact Nat.lt_succ_self _, fun heq => ?_, row,
      hdb.revisions row hrow, hid.trans hrev⟩
    exact hdb.newRevision row hrow (hid.trans (hrev.trans heq))
  · obtain ⟨hprofile, hlt, -, row, hrow, hid⟩ := h q hq
    have hseq := hp.sequence
    rw [hq'] at hseq
    refine ⟨hprofile.trans (hp.profileId q' hq').symm, ?_, fun heq => ?_, row, hdb.revisions row hrow, hid⟩
    · rw [hseq]
      exact Nat.lt_succ_of_lt hlt
    · exact hdb.newRevision row hrow (hid.trans heq)

/-- A call that has read another profile than the current one finds that it has changed. -/
theorem Stale.changed (hp : Derived manifest.projectId previous call p) (h : Stale db.ledger previous profile) :
    Changed profile call := by
  obtain ⟨q', hq', h⟩ := h
  cases hprev : previous with
  | none =>
    left
    rw [hp.creates, hprev]
    exact ⟨rfl, by rw [hq']; simp⟩
  | some q =>
    obtain ⟨input, hrequest⟩ := hp.expected q hprev
    refine .inr ⟨_, input, hrequest, fun q'' hq'' => ?_⟩
    rw [hq'] at hq''
    obtain rfl := Option.some.inj hq''
    exact (h q hprev).2.2.1.symm

/-- **A commit from a profile that is not the current one breaks a constraint.** -/
theorem Stale.persist_fails (hd : Describes env manifest db profile) (hn : Numbered db.ledger profile)
    (hp : Derived manifest.projectId previous call p) (h : Stale db.ledger previous profile) (next : Manifest) :
    db.persist env p call.request.creates next ≠ .ok db' := by
  intro hpersist
  obtain ⟨ledger', hledger, -⟩ := Checks.bind_ok.1 hpersist
  obtain ⟨l₁, h₁, hledger⟩ := Checks.bind_ok.1 hledger
  obtain ⟨l₂, h₂, hledger⟩ := Checks.bind_ok.1 hledger
  obtain ⟨l₃, h₃, -⟩ := Checks.bind_ok.1 hledger
  obtain ⟨q', hq', h⟩ := h
  obtain ⟨-, -, -, -, hprofiles₁, hpr₁⟩ := insertRevision_ok h₁
  have hkeyed₁ : Keyed l₁.profiles := by rw [hprofiles₁]; exact hd.keyed
  obtain ⟨row, hrow, hrowOf⟩ := hd.row q' hq'
  rw [← hprofiles₁] at hrow
  cases hprev : previous with
  | none =>
    -- the project has a row already
    rw [hp.creates, hprev] at h₂
    obtain ⟨-, hproject, -⟩ := insertProfile_ok h₂ hkeyed₁ hp.projectId
    exact hproject row hrow (hrowOf.projectId.trans hp.projectId.symm)
  | some q =>
    -- the sequence number is taken
    obtain ⟨hid, hlt, -⟩ := h q hprev
    rw [hp.creates, hprev] at h₂
    have hprofile : row.profileId = p.profileId := (hrowOf.profileId.trans hid.symm).trans (hp.profileId q hprev).symm
    obtain ⟨-, -, -, -, -, hpr₂⟩ := updateProfileRow_ok h₂ hkeyed₁ hrow hrowOf.projectId hprofile hp.projectId
    obtain ⟨hseq, -⟩ := insertProfileRevision_ok h₃
    have hsequence := hp.sequence
    rw [hprev] at hsequence
    obtain ⟨r, hr, hrid, hrseq⟩ := (hn.numbers q' hq' p.sequence).2 ⟨by rw [hsequence]; exact Nat.le_add_left 1 _,
      by rw [hsequence]; exact hlt⟩
    rw [← hpr₁, ← hpr₂] at hr
    exact hseq r hr (hrid.trans (hrowOf.profileId.symm.trans hprofile)) hrseq

/-- What it means that a statement of a commit fails. -/
theorem persist_reason (hd : Describes env manifest db profile) (hn : Numbered db.ledger profile)
    (hp : Derived manifest.projectId previous call p) (h : previous = profile ∨ Stale db.ledger previous profile)
    {next : Manifest} {e : ProfileError} (he : db.persist env p call.request.creates next = .error e) :
    Reason db.ledger profile call e := by
  -- no statement fails but for a constraint
  have hreused : e = .constraint ∧ (previous = profile → Reused db.ledger call) := by
    rcases Checks.bind_error.1 he with he | ⟨_, -, he⟩
    swap
    · cases he
    rcases Checks.bind_error.1 he with he | ⟨l₁, h₁, he⟩
    · rcases Checks.failIf_bind_error.1 he with ⟨⟨row, hrow, hid⟩, rfl⟩ | ⟨-, he⟩
      · exact ⟨rfl, fun _ => .inl ⟨row, hrow, hid.trans hp.revisionId⟩⟩
      · cases he
    obtain ⟨-, -, -, -, hprofiles₁, hpr₁⟩ := insertRevision_ok h₁
    have hkeyed₁ : Keyed l₁.profiles := by rw [hprofiles₁]; exact hd.keyed
    cases hprev : previous with
    | none =>
      rw [hp.creates, hprev] at he
      rcases Checks.bind_error.1 he with he | ⟨l₂, h₂, he⟩
      · rcases Checks.failIf_bind_error.1 he with ⟨⟨row, hrow, hid⟩, rfl⟩ | ⟨-, he⟩
        · refine ⟨rfl, fun hsame => ?_⟩
          rw [hprofiles₁] at hrow
          rcases hid with hid | hid | hid
          · exact .inr (.inl ⟨row, hrow, .inl (hid.trans (hp.newProfileId hprev))⟩)
          · exact absurd (hid.trans hp.projectId) (hd.noRow hsame.symm row hrow)
          · exact .inr (.inl ⟨row, hrow, .inr (hid.trans hp.revisionId)⟩)
        · cases he
      obtain ⟨hnewId, -, -, hkeyed₂, ⟨row, hrow, hrowOf⟩, -, -, hpr₂⟩ := insertProfile_ok h₂ hkeyed₁ hp.projectId
      rcases Checks.bind_error.1 he with he | ⟨_, -, he⟩
      · rcases Checks.failIf_bind_error.1 he with ⟨⟨r, hr, hid⟩, rfl⟩ | ⟨-, he⟩
        · refine ⟨rfl, fun _ => ?_⟩
          rw [hpr₂, hpr₁] at hr
          rcases hid with hid | ⟨hid, -⟩
          · exact .inr (.inr ⟨r, hr, hid.trans hp.revisionId⟩)
          · obtain ⟨r', hr', hid'⟩ := hn.linked r hr
            rw [← hprofiles₁] at hr'
            exact absurd (hid'.trans hid) (hnewId r' hr')
        · rcases Checks.failIf_bind_error.1 he with ⟨hno, -⟩ | ⟨-, he⟩
          · exact absurd ⟨row, hrow, hrowOf.profileId⟩ hno
          · cases he
      · cases he
    | some q =>
      rw [hp.creates, hprev] at he
      rcases Checks.bind_error.1 he with he | ⟨l₂, h₂, he⟩
      · rcases Checks.failIf_bind_error.1 he with ⟨⟨row, hrow, -, hid⟩, rfl⟩ | ⟨-, he⟩
        · rw [hprofiles₁] at hrow
          exact ⟨rfl, fun _ => .inr (.inl ⟨row, hrow, .inr (hid.trans hp.revisionId)⟩)⟩
        · cases he
      rcases Checks.bind_error.1 he with he | ⟨_, -, he⟩
      · have hl₂ : l₂ = { l₁ with profiles := l₁.profiles.map (ProfileRow.updated env p) } := by
          obtain ⟨-, h₂⟩ := Checks.failIf_bind_ok.1 h₂
          cases h₂
          rfl
        rcases Checks.failIf_bind_error.1 he with ⟨⟨r, hr, hid⟩, rfl⟩ | ⟨-, he⟩
        · refine ⟨rfl, fun hsame => ?_⟩
          rw [hl₂] at hr
          rw [hpr₁] at hr
          rcases hid with hid | ⟨hid, hseq⟩
          · exact .inr (.inr ⟨r, hr, hid.trans hp.revisionId⟩)
          · -- the next sequence number is free
            have hprofile : profile = some q := hsame.symm
            obtain ⟨-, hle⟩ := (hn.numbers q hprofile r.sequence).1 ⟨r, hr, hid.trans (hp.profileId q hprev), rfl⟩
            have hsequence := hp.sequence
            rw [hprev] at hsequence
            rw [hseq, hsequence] at hle
            exact absurd hle (Nat.not_succ_le_self _)
        · rcases Checks.failIf_bind_error.1 he with ⟨hno, rfl⟩ | ⟨-, he⟩
          · refine ⟨rfl, fun hsame => ?_⟩
            obtain ⟨row, hrow, hrowOf⟩ := hd.row q hsame.symm
            refine absurd ⟨row.updated env p, ?_, ?_⟩ hno
            · rw [hl₂, hprofiles₁]
              exact List.mem_map_of_mem hrow
            · rw [updated_profileId, hrowOf.profileId, hp.profileId q hprev]
          · cases he
      · cases he
  obtain ⟨rfl, hreused⟩ := hreused
  exact h.elim (fun hsame => .inr (hreused hsame)) fun hstale => .inl (hstale.changed hp)

/-- A commit numbers the new revision. -/
theorem Numbered.persist (hn : Numbered db.ledger profile) (hp : Derived manifest.projectId profile call p)
    (hdb : Persisted profile p db db') (hd' : Describes env (manifest.withProfile env p) db' (some p)) :
    Numbered db'.ledger (some p) := by
  refine ⟨fun row hrow => ?_, fun q hq n => ?_⟩
  · rcases hdb.onlyRevisions row hrow with hrow | ⟨hid, -⟩
    · obtain ⟨r, hr, hid⟩ := hn.linked row hrow
      obtain ⟨r', hr', hid'⟩ := hdb.profiles r hr
      exact ⟨r', hr', hid'.trans hid⟩
    · obtain ⟨r, hr, hrowOf⟩ := hd'.row p rfl
      exact ⟨r, hr, hrowOf.profileId.trans hid.symm⟩
  · obtain rfl := Option.some.inj hq
    have hsequence := hp.sequence
    have hold : (∃ row ∈ db.ledger.profileRevisions, row.profileId = p.profileId ∧ row.sequence = n) ↔
        1 ≤ n ∧ n + 1 ≤ p.sequence := by
      cases hprofile : profile with
      | none =>
        rw [hprofile] at hsequence
        simp only [Option.elim_none] at hsequence
        constructor
        · rintro ⟨row, hrow, hid, -⟩
          obtain ⟨r, hr, hid'⟩ := hn.linked row hrow
          exact absurd (hid'.trans hid) (hdb.newProfile hprofile r hr)
        · omega
      | some q =>
        rw [hprofile] at hsequence
        simp only [Option.elim_some] at hsequence
        rw [hp.profileId q hprofile, hn.numbers q hprofile n]
        omega
    constructor
    · rintro ⟨row, hrow, hid, hseq⟩
      rcases hdb.onlyRevisions row hrow with hrow | ⟨-, hseq'⟩
      · have := hold.1 ⟨row, hrow, hid, hseq⟩
        omega
      · refine ⟨?_, by omega⟩
        have : 1 ≤ p.sequence := by
          rw [hsequence]
          cases profile <;> simp
        omega
    · intro h
      by_cases hn' : n = p.sequence
      · obtain ⟨row, hrow, hid, hseq⟩ := hdb.profileRevision
        exact ⟨row, hrow, hid, hseq.trans hn'.symm⟩
      · obtain ⟨row, hrow, hid, hseq⟩ := hold.2 ⟨h.1, by omega⟩
        exact ⟨row, hdb.profileRevisions row hrow, hid, hseq⟩

/-! ### The invariant -/

variable {s s' : State τ} {c : ℕ} {k : Commit}

/-- What the call is about to write comes from the current profile, or from one that is stale. -/
def Pending (s : State τ) (profile : Option SiteProfile) (call : Call) (p : SiteProfile) : Prop :=
  ∃ previous, Derived s.active.projectId previous call p ∧
    (previous = profile ∨ Stale s.committed.ledger previous profile)

/-- The call holds the current files as the old ones. -/
structure Armed (env : Env τ) (profile : Option SiteProfile) (s : State τ) (k : Commit) : Prop where
  pending : Pending s profile k.call k.profile
  oldManifest : k.oldManifest = .valid s.active
  oldProfile : k.oldProfile = fileOf profile
  next : k.next = s.active.withProfile env k.profile

/-- The transaction of the call is open. -/
structure Open (env : Env τ) (profile : Option SiteProfile) (s : State τ) (k : Commit) : Prop where
  armed : Armed env profile s k
  derived : Derived s.active.projectId profile k.call k.profile
  working : ∃ db, s.working = some db ∧
    s.committed.persist env k.profile k.call.request.creates k.next = .ok db

/-- The call has an error to report and the old files to restore. -/
structure Restoring (env : Env τ) (profile : Option SiteProfile) (s : State τ) (k : Commit) (e : ProfileError) :
    Prop where
  armed : Armed env profile s k
  reason : Reason s.committed.ledger profile k.call e
  working : s.working = none

/-- **What a call knows where it stands.** -/
def Facts (env : Env τ) (profile : Option SiteProfile) (s : State τ) : Pc → Prop
  | .idle | .settled _ => True
  | .probe call input => call.request = .createProfile input
  | .lookup call | .lookupRow call _ => call.request.creates = false
  | .readManifest call p => Pending s profile call p
  | .readProfile call p oldManifest => Pending s profile call p ∧ call.request.creates = false ∧
      oldManifest = .valid s.active
  | .mkdir k => Armed env profile s k
  | .checkTarget k => Open env profile s k ∧ k.call.request.creates = true ∧ s.manifestFile = .valid s.active ∧
      s.profileFile = fileOf profile
  | .writeProfile k => Open env profile s k ∧ s.manifestFile = .valid s.active ∧ s.profileFile = fileOf profile
  | .writeManifest k => Open env profile s k ∧ s.manifestFile = .valid s.active ∧ s.profileFile = .valid k.profile
  | .verifyProfile k => Open env profile s k ∧ s.manifestFile = .valid k.next ∧ s.profileFile = .valid k.profile
  | .verifyManifest k file => Open env profile s k ∧ s.manifestFile = .valid k.next ∧
      s.profileFile = .valid k.profile ∧ file = .valid k.profile
  | .commit k file manifest => Open env profile s k ∧ s.manifestFile = .valid k.next ∧
      s.profileFile = .valid k.profile ∧ file = .valid k.profile ∧ manifest = .valid k.next
  | .restoreManifest k e => Restoring env profile s k e
  | .restoreProfile k e => Restoring env profile s k e ∧ s.manifestFile = .valid s.active

/-- Nobody is in a commit, and the files are those of the current profile. -/
structure Calm (profile : Option SiteProfile) (s : State τ) : Prop where
  manifestFile : s.manifestFile = .valid s.active
  profileFile : s.profileFile = fileOf profile
  working : s.working = none
  closed : ∀ c, (s.pc c).opened = false

def Pc.restoring : Pc → Bool
  | .restoreManifest .. | .restoreProfile .. => true
  | _ => false

/-- One call is in a commit or restores files, and everybody else is outside. -/
structure Busy (s : State τ) (c : ℕ) : Prop where
  busy : (s.pc c).opened = true ∨ (s.pc c).restoring = true
  others : ∀ c', c' ≠ c → (s.pc c').inside = false

structure Invariant (env : Env τ) (profile : Option SiteProfile) (s : State τ) : Prop where
  describes : Describes env s.active s.committed profile
  numbered : Numbered s.committed.ledger profile
  facts : ∀ c, Facts env profile s (s.pc c)
  mode : Calm profile s ∨ ∃ c, Busy s c

theorem inside_of_busy {pc : Pc} (h : pc.opened = true ∨ pc.restoring = true) : pc.inside = true := by
  rcases h with h | h
  · cases pc <;> first | exact h | cases h
  · cases pc <;> first | rfl | cases h

theorem not_opened_of_outside {pc : Pc} (h : pc.inside = false) : pc.opened = false := by
  cases pc <;> first | rfl | exact h

theorem calm_of_busy (hb : Busy s c) (hc : (s.pc c).opened = false) (hman : s.manifestFile = .valid s.active)
    (hfile : s.profileFile = fileOf profile) (hworking : s.working = none) : Calm profile s := by
  refine ⟨hman, hfile, hworking, fun c' => ?_⟩
  by_cases h : c' = c
  · rw [h]
    exact hc
  · exact not_opened_of_outside (hb.others c' h)

/-- When nobody is between its `BEGIN` and its end, the files are the current ones. -/
theorem Invariant.calm (h : Invariant env profile s) (hq : Quiet s) : Calm profile s := by
  rcases h.mode with hcalm | ⟨c, hb⟩
  · exact hcalm
  · have hc := hq c
    have hf := h.facts c
    unfold Unsettled at hc
    rcases hb.busy with hopened | hrestoring
    · cases hpc : s.pc c <;> rw [hpc] at hopened hc <;> first | exact absurd hopened hc | cases hopened
    · have hclosed : (s.pc c).opened = false := by
        cases hpc : s.pc c <;> rw [hpc] at hrestoring <;> first | rfl | cases hrestoring
      cases hpc : s.pc c with
      | restoreManifest k e =>
        rw [hpc] at hc hf
        obtain ⟨hman, hfile⟩ := not_not.1 hc
        exact calm_of_busy hb hclosed (hman.trans hf.armed.oldManifest) (hfile.trans hf.armed.oldProfile) hf.working
      | restoreProfile k e =>
        rw [hpc] at hc hf
        obtain ⟨hman, hfile⟩ := not_not.1 hc
        exact calm_of_busy hb hclosed (hman.trans hf.1.armed.oldManifest) (hfile.trans hf.1.armed.oldProfile)
          hf.1.working
      | _ => rw [hpc] at hrestoring; cases hrestoring

/-- Somebody who is inside and not in a commit finds the project calm. -/
theorem Invariant.calm_of_inside (h : Invariant env profile s) (hin : (s.pc c).inside = true)
    (hopened : (s.pc c).opened = false) (hrestoring : (s.pc c).restoring = false) : Calm profile s := by
  rcases h.mode with hcalm | ⟨c', hb⟩
  · exact hcalm
  · by_cases hc : c = c'
    · rw [← hc] at hb
      rcases hb.busy with h | h
      · rw [hopened] at h; cases h
      · rw [hrestoring] at h; cases h
    · rw [hb.others c hc] at hin
      cases hin

/-- Somebody whose transaction is open is alone inside. -/
theorem Invariant.busy_of_opened (h : Invariant env profile s) (hopened : (s.pc c).opened = true) : Busy s c := by
  rcases h.mode with hcalm | ⟨c', hb⟩
  · rw [hcalm.closed c] at hopened
    cases hopened
  · by_cases hc : c = c'
    · rw [hc]
      exact hb
    · have := hb.others c hc
      rw [inside_of_busy (.inl hopened)] at this
      cases this

theorem Invariant.busy_or_calm (h : Invariant env profile s) (hrestoring : (s.pc c).restoring = true) :
    Calm profile s ∨ Busy s c := by
  rcases h.mode with hcalm | ⟨c', hb⟩
  · exact .inl hcalm
  · by_cases hc : c = c'
    · rw [hc]
      exact .inr hb
    · have := hb.others c hc
      rw [inside_of_busy (.inr hrestoring)] at this
      cases this

/-! ### Moves -/

variable {profile' : Option SiteProfile} {X : Pc} {answers : List (Answer τ)}

/-- A call that is outside knows nothing about the files and the database. -/
theorem facts_outside {pc : Pc} (hpc : pc.inside = false) (hf : Facts env profile s pc)
    (hactive : s'.active.projectId = s.active.projectId)
    (hnext : ∀ previous, previous = profile ∨ Stale s.committed.ledger previous profile →
      previous = profile' ∨ Stale s'.committed.ledger previous profile') : Facts env profile' s' pc := by
  cases pc with
  | idle | settled => trivial
  | probe | lookup | lookupRow => exact hf
  | readManifest call p =>
    obtain ⟨previous, hp, h⟩ := hf
    refine ⟨previous, ?_, hnext previous h⟩
    rw [hactive]
    exact hp
  | _ => cases hpc

/-- The parts of the state that the facts of a call are about. -/
structure SameProject (s s' : State τ) : Prop where
  active : s'.active = s.active
  committed : s'.committed = s.committed
  working : s'.working = s.working
  manifestFile : s'.manifestFile = s.manifestFile
  profileFile : s'.profileFile = s.profileFile

theorem Armed.congr (h : Armed env profile s k) (hactive : s'.active = s.active)
    (hcommitted : s'.committed = s.committed) : Armed env profile s' k := by
  obtain ⟨previous, hp, hprevious⟩ := h.pending
  exact ⟨⟨previous, by rw [hactive]; exact hp, by rw [hcommitted]; exact hprevious⟩,
    by rw [hactive]; exact h.oldManifest, h.oldProfile, by rw [hactive]; exact h.next⟩

theorem Open.congr (h : Open env profile s k) (hactive : s'.active = s.active)
    (hcommitted : s'.committed = s.committed) (hworking : s'.working = s.working) : Open env profile s' k :=
  ⟨h.armed.congr hactive hcommitted, by rw [hactive]; exact h.derived,
    by rw [hworking, hcommitted]; exact h.working⟩

theorem facts_congr {pc : Pc} (h : Facts env profile s pc) (hs : SameProject s s') : Facts env profile s' pc := by
  cases pc with
  | idle | settled | probe | lookup | lookupRow => exact h
  | readManifest call p =>
    obtain ⟨previous, hp, hprevious⟩ := h
    exact ⟨previous, by rw [hs.active]; exact hp, by rw [hs.committed]; exact hprevious⟩
  | readProfile call p oldManifest =>
    obtain ⟨⟨previous, hp, hprevious⟩, hcreates, hman⟩ := h
    exact ⟨⟨previous, by rw [hs.active]; exact hp, by rw [hs.committed]; exact hprevious⟩, hcreates,
      by rw [hs.active]; exact hman⟩
  | mkdir k => exact h.congr hs.active hs.committed
  | checkTarget k =>
    exact ⟨h.1.congr hs.active hs.committed hs.working, h.2.1, by rw [hs.manifestFile, hs.active]; exact h.2.2.1,
      by rw [hs.profileFile]; exact h.2.2.2⟩
  | writeProfile k =>
    exact ⟨h.1.congr hs.active hs.committed hs.working, by rw [hs.manifestFile, hs.active]; exact h.2.1, by rw [hs.profileFile]; exact h.2.2⟩
  | writeManifest k =>
    exact ⟨h.1.congr hs.active hs.committed hs.working, by rw [hs.manifestFile, hs.active]; exact h.2.1, by rw [hs.profileFile]; exact h.2.2⟩
  | verifyProfile k | verifyManifest k file | commit k file manifest =>
    exact ⟨h.1.congr hs.active hs.committed hs.working, by rw [hs.manifestFile]; exact h.2.1, by rw [hs.profileFile]; exact h.2.2⟩
  | restoreManifest k e =>
    exact ⟨h.armed.congr hs.active hs.committed, by rw [hs.committed]; exact h.reason,
      by rw [hs.working]; exact h.working⟩
  | restoreProfile k e =>
    exact ⟨⟨h.1.armed.congr hs.active hs.committed, by rw [hs.committed]; exact h.1.reason,
      by rw [hs.working]; exact h.1.working⟩, by rw [hs.manifestFile, hs.active]; exact h.2⟩

/-- The call moves on in a calm project. -/
theorem Invariant.goto_calm (h : Invariant env profile s) (hcalm : Calm profile s) (hX : Facts env profile s X)
    (hopened : X.opened = false) :
    Invariant env profile { s with pc := Function.update s.pc c X, answers := answers } where
  describes := h.describes
  numbered := h.numbered
  facts c' := by
    by_cases hc : c' = c
    · rw [hc]
      simp only [Function.update_self]
      exact facts_congr hX ⟨rfl, rfl, rfl, rfl, rfl⟩
    · simp only [Function.update_of_ne hc]
      exact facts_congr (h.facts c') ⟨rfl, rfl, rfl, rfl, rfl⟩
  mode := .inl ⟨hcalm.manifestFile, hcalm.profileFile, hcalm.working, fun c' => by
    by_cases hc : c' = c
    · rw [hc]
      simp only [Function.update_self]
      exact hopened
    · simp only [Function.update_of_ne hc]
      exact hcalm.closed c'⟩

/-- The call moves on outside. -/
theorem Invariant.goto_outside (h : Invariant env profile s) (hc : (s.pc c).inside = false)
    (hX : Facts env profile s X) (hout : X.inside = false) :
    Invariant env profile { s with pc := Function.update s.pc c X, answers := answers } := by
  rcases h.mode with hcalm | ⟨c₀, hb⟩
  · exact h.goto_calm hcalm hX (not_opened_of_outside hout)
  · have hne : c₀ ≠ c := by
      rintro rfl
      rw [inside_of_busy hb.busy] at hc
      cases hc
    refine ⟨h.describes, h.numbered, fun c' => ?_, .inr ⟨c₀, ?_, fun c' hc' => ?_⟩⟩
    · by_cases hc : c' = c
      · rw [hc]
        simp only [Function.update_self]
        exact facts_congr hX ⟨rfl, rfl, rfl, rfl, rfl⟩
      · simp only [Function.update_of_ne hc]
        exact facts_congr (h.facts c') ⟨rfl, rfl, rfl, rfl, rfl⟩
    · simp only [Function.update_of_ne hne]
      exact hb.busy
    · by_cases hc : c' = c
      · rw [hc]
        simp only [Function.update_self]
        exact hout
      · simp only [Function.update_of_ne hc]
        exact hb.others c' hc'

/-- One call goes on alone inside, whatever it does to the files and to the transaction. -/
theorem Invariant.goto_busy (h : Invariant env profile s) (hothers : ∀ c', c' ≠ c → (s.pc c').inside = false)
    (hactive : s'.active = s.active) (hcommitted : s'.committed = s.committed)
    (hpc : s'.pc = Function.update s.pc c X) (hX : Facts env profile s' X)
    (hbusy : X.opened = true ∨ X.restoring = true) : Invariant env profile s' where
  describes := by rw [hactive, hcommitted]; exact h.describes
  numbered := by rw [hcommitted]; exact h.numbered
  facts c' := by
    rw [hpc]
    by_cases hc : c' = c
    · rw [hc, Function.update_self]
      exact hX
    · rw [Function.update_of_ne hc]
      refine facts_outside (hothers c' hc) (h.facts c') (by rw [hactive]) fun previous hp => ?_
      rw [hcommitted]
      exact hp
  mode := by
    refine .inr ⟨c, ?_, fun c' hc => ?_⟩
    · rw [hpc, Function.update_self]
      exact hbusy
    · rw [hpc, Function.update_of_ne hc]
      exact hothers c' hc

/-- The files are restored. -/
theorem Invariant.settle_busy (h : Invariant env profile s) (hothers : ∀ c', c' ≠ c → (s.pc c').inside = false)
    (hactive : s'.active = s.active) (hcommitted : s'.committed = s.committed) (hworking : s'.working = none)
    (hpc : s'.pc = Function.update s.pc c X) (hX : ∀ t, Facts env profile t X) (hout : X.inside = false)
    (hman : s'.manifestFile = .valid s'.active) (hfile : s'.profileFile = fileOf profile) :
    Invariant env profile s' where
  describes := by rw [hactive, hcommitted]; exact h.describes
  numbered := by rw [hcommitted]; exact h.numbered
  facts c' := by
    rw [hpc]
    by_cases hc : c' = c
    · rw [hc, Function.update_self]
      exact hX s'
    · rw [Function.update_of_ne hc]
      refine facts_outside (hothers c' hc) (h.facts c') (by rw [hactive]) fun previous hp => ?_
      rw [hcommitted]
      exact hp
  mode := by
    refine .inl ⟨hman, hfile, hworking, fun c' => ?_⟩
    rw [hpc]
    by_cases hc : c' = c
    · rw [hc, Function.update_self]
      exact not_opened_of_outside hout
    · rw [Function.update_of_ne hc]
      exact not_opened_of_outside (hothers c' hc)

/-- **The transaction of a call is committed.** -/
theorem Invariant.commit (h : Invariant env profile s) (hb : Busy s c) (ho : Open env profile s k)
    (hman : s.manifestFile = .valid k.next) (hfile : s.profileFile = .valid k.profile)
    {db : Database τ} (hworking : s.working = some db) :
    Invariant env (some k.profile) ((committedWith s k db).settle c k.call (.ok k.profile)) := by
  obtain ⟨db', hdb', hpersist⟩ := ho.working
  obtain rfl : db = db' := Option.some.inj (hworking.symm.trans hdb')
  rw [ho.armed.next] at hpersist
  obtain ⟨hdescribes, hpersisted⟩ := h.describes.persist ho.derived hpersist
  have hclosed : ∀ c', ((committedWith s k db).settle c k.call (.ok k.profile)).pc c' =
      if c' = c then .settled (.ok k.profile) else s.pc c' := by
    intro c'
    simp only [State.settle_pc, State.goto_pc, Function.update_apply, committedWith_pc]
  refine ⟨?_, h.numbered.persist ho.derived hpersisted hdescribes, fun c' => ?_, .inl ⟨hman, hfile, rfl, fun c' => ?_⟩⟩
  · show Describes env k.next db (some k.profile)
    rw [ho.armed.next]
    exact hdescribes
  · rw [hclosed]
    split
    · trivial
    · next hc =>
      refine facts_outside (hb.others c' hc) (h.facts c') ?_ fun previous hp => .inr ?_
      · show k.next.projectId = s.active.projectId
        rw [ho.armed.next]
        rfl
      · exact Stale.next h.describes ho.derived hpersisted hp
  · rw [hclosed]
    split
    · rfl
    · next hc => exact not_opened_of_outside (hb.others c' hc)

/-! ### The law of a step -/

/-- **What an answer says about the committed database.** Who succeeds has its effect there, who
fails has none and a reason of its own. -/
def Answered (env : Env τ) (profile : Option SiteProfile) (s : State τ) (s' : State τ) : Answer τ → Prop
  | .operation o (.ok ()) =>
    ∃ rest, o.run s.committed.ledger s.committed.rest = some rest ∧
      s'.committed = if o.kind = .query then s.committed else { s.committed with rest }
  | .operation o (.error _) => s'.committed = s.committed ∧ o.run s.committed.ledger s.committed.rest = none
  | .profile call (.ok p) =>
    call.request = .getProfile ∧ profile = some p ∧ s'.committed = s.committed ∨
      call.request ≠ .getProfile ∧ Derived s.active.projectId profile call p ∧
        s.committed.persist env p call.request.creates (s.active.withProfile env p) = .ok s'.committed
  | .profile call (.error e) => s'.committed = s.committed ∧ Reason s.committed.ledger profile call e

/-- **What a step does**: nothing to the committed database, or one answer with its effect. -/
inductive Law (env : Env τ) (profile : Option SiteProfile) (s s' : State τ) : Prop
  | silent (hanswers : s'.answers = s.answers) (hcommitted : s'.committed = s.committed)
      (hinv : Invariant env profile s')
  | answered (a : Answer τ) (hanswers : s'.answers = s.answers ++ [a]) (ha : Answered env profile s s' a)
      (hinv : Invariant env (a.profileAfter profile) s')

variable {e : ProfileError}

theorem law_goto_calm (h : Invariant env profile s) (hcalm : Calm profile s) (hX : Facts env profile s X)
    (hopened : X.opened = false) : Law env profile s (s.goto c X) :=
  .silent rfl rfl (h.goto_calm hcalm hX hopened)

theorem law_fail_calm (h : Invariant env profile s) (hcalm : Calm profile s)
    (hreason : Reason s.committed.ledger profile call e) : Law env profile s (s.settle c call (.error e)) :=
  .answered (.profile call (.error e)) rfl ⟨rfl, hreason⟩ (h.goto_calm hcalm trivial rfl)

theorem law_fail_outside (h : Invariant env profile s) (hc : (s.pc c).inside = false)
    (hreason : Reason s.committed.ledger profile call e) : Law env profile s (s.settle c call (.error e)) :=
  .answered (.profile call (.error e)) rfl ⟨rfl, hreason⟩ (h.goto_outside hc trivial rfl)

/-- A call that fails before its transaction is open has the current files to restore. -/
theorem law_compensate_calm (h : Invariant env profile s) (hcalm : Calm profile s)
    (ha : Armed env profile s k) (hreason : Reason s.committed.ledger profile k.call e) :
    Law env profile s (s.compensate c k e) := by
  have hsame : s.compensate c k e = s.goto c (.restoreManifest k e) := by
    unfold State.compensate
    rw [← hcalm.working]
    rfl
  rw [hsame]
  have hX : Facts env profile s (.restoreManifest k e) := ⟨ha, hreason, hcalm.working⟩
  exact law_goto_calm h hcalm hX rfl

/-- A call whose transaction is open rolls it back, whatever it has written. -/
theorem law_compensate_open (h : Invariant env profile s) (hb : Busy s c) (ho : Open env profile s k)
    {t : State τ} (hactive : t.active = s.active) (hcommitted : t.committed = s.committed)
    (hpc : t.pc = s.pc) (hanswers : t.answers = s.answers)
    (hreason : Reason s.committed.ledger profile k.call e) : Law env profile s (t.compensate c k e) := by
  refine .silent hanswers hcommitted
    (h.goto_busy (X := .restoreManifest k e) hb.others hactive hcommitted ?_ ?_ (.inr rfl))
  · exact congrArg (fun f => Function.update f c (.restoreManifest k e)) hpc
  · exact ⟨ho.armed.congr hactive hcommitted, by rw [← hcommitted] at hreason; exact hreason, rfl⟩

/-- A call whose transaction is open goes on, whatever it writes. -/
theorem law_goto_open (h : Invariant env profile s) (hb : Busy s c) {t : State τ}
    (hactive : t.active = s.active) (hcommitted : t.committed = s.committed) (hpc : t.pc = s.pc)
    (hanswers : t.answers = s.answers) (hX : Facts env profile t X) (hopened : X.opened = true) :
    Law env profile s (t.goto c X) := by
  refine .silent hanswers hcommitted (h.goto_busy hb.others hactive hcommitted ?_ ?_ (.inl hopened))
  · exact congrArg (fun f => Function.update f c X) hpc
  · exact facts_congr hX ⟨rfl, rfl, rfl, rfl, rfl⟩

/-! ### The parts of a call -/

/-- A profile file that agrees with the database is returned. -/
theorem readCurrentProfile_some {q : SiteProfile} (hd : Describes env manifest db (some q)) :
    readCurrentProfile env db.ledger manifest (.valid q) = .ok q := by
  obtain ⟨row, hmem, hrow⟩ := hd.row q rfl
  have hfind := hd.keyed.find_projectId hmem
  rw [hrow.projectId] at hfind
  have hagrees : ¬(row.profileId ≠ q.profileId ∨ row.currentProfileRevisionId ≠ q.revisionId ∨
      row.profileHash ≠ env.profileHash q) := by
    simp [hrow.profileId, hrow.revisionId, hrow.hash]
  unfold readCurrentProfile
  simp only [hfind]
  rw [Checks.failIf_bind, if_neg hagrees, Checks.failIf_bind, if_neg (not_not.2 (hd.profile q rfl).2.1)]
  rfl

theorem database_of_calm (hcalm : Calm profile s) : s.database = s.committed := by
  unfold State.database
  rw [hcalm.working]
  rfl

theorem law_lookedUp (h : Invariant env profile s) (hcalm : Calm profile s)
    (hcreates : call.request.creates = false) : Law env profile s (lookedUp env s c call s.profileFile) := by
  unfold lookedUp
  rw [database_of_calm hcalm, hcalm.profileFile]
  cases hprofile : profile with
  | none =>
    rw [hprofile] at h hcalm
    exact law_fail_calm (e := .PROFILE_NOT_FOUND) h hcalm rfl
  | some q =>
    rw [hprofile] at h hcalm
    rw [fileOf, readCurrentProfile_some h.describes]
    cases hrequest : call.request with
    | createProfile input =>
      rw [hrequest] at hcreates
      cases hcreates
    | getProfile =>
      refine .answered (.profile call (.ok q)) rfl (.inl ⟨hrequest, rfl, rfl⟩) ?_
      rw [Answer.profileAfter, if_pos hrequest]
      exact h.goto_calm hcalm trivial rfl
    | updateProfile expected input =>
      cases hnext : nextProfile q call expected input with
      | error e =>
        simp only [hnext]
        refine law_fail_calm h hcalm ?_
        rcases Checks.failIf_bind_error.1 hnext with ⟨hne, rfl⟩ | ⟨-, hnext⟩
        · refine .inr ⟨expected, input, hrequest, fun q' hq' => ?_⟩
          obtain rfl := Option.some.inj hq'
          exact hne
        · rcases Checks.failIf_bind_error.1 hnext with ⟨-, rfl⟩ | ⟨-, hnext⟩
          · trivial
          · cases hnext
      | ok p =>
        simp only [hnext]
        have hp := nextProfile_derived hrequest hnext (h.describes.profile q rfl).1
        exact law_goto_calm h hcalm ⟨some q, hp, .inl rfl⟩ rfl

theorem law_begin (h : Invariant env profile s) (hcalm : Calm profile s) (ha : Armed env profile s k)
    (hothers : ∀ c', c' ≠ c → (s.pc c').inside = false) :
    Law env profile s (beginTransaction env s c k) := by
  unfold beginTransaction
  rw [hcalm.working, if_neg (by simp)]
  obtain ⟨previous, hp, hprevious⟩ := ha.pending
  cases hpersist : s.committed.persist env k.profile k.call.request.creates k.next with
  | error e =>
    exact law_compensate_calm h hcalm ha (persist_reason h.describes h.numbered hp hprevious hpersist)
  | ok db =>
    have hcurrent : previous = profile :=
      hprevious.resolve_right fun hstale => hstale.persist_fails h.describes h.numbered hp k.next hpersist
    rw [hcurrent] at hp
    have hopen : ∀ pc, Open env profile { s with pc, working := some db } k := fun pc =>
      ⟨ha.congr rfl rfl, hp, db, rfl, hpersist⟩
    cases hcreates : k.call.request.creates with
    | true =>
      refine .silent rfl rfl (h.goto_busy (X := .checkTarget k) hothers rfl rfl rfl ?_ (.inl rfl))
      exact ⟨hopen _, hcreates, hcalm.manifestFile, hcalm.profileFile⟩
    | false =>
      refine .silent rfl rfl (h.goto_busy (X := .writeProfile k) hothers rfl rfl rfl ?_ (.inl rfl))
      exact ⟨hopen _, hcalm.manifestFile, hcalm.profileFile⟩

/-- What was written is what is verified. -/
theorem verified_open (h : Invariant env profile s) (ho : Open env profile s k) :
    verified env s.database.ledger k (.valid k.profile) (.valid k.next) = true := by
  obtain ⟨db, hworking, hpersist⟩ := ho.working
  have hdatabase : s.database = db := by
    unfold State.database
    rw [hworking]
    rfl
  rw [ho.armed.next] at hpersist
  obtain ⟨hdescribes, -⟩ := h.describes.persist ho.derived hpersist
  obtain ⟨row, hmem, hrow⟩ := hdescribes.row k.profile rfl
  have hfind := hdescribes.keyed.find_profileId hmem
  rw [hrow.profileId] at hfind
  unfold verified
  rw [hdatabase, hfind, ho.armed.next]
  simp [Manifest.withProfile, hrow.revisionId, hrow.hash]

theorem law_commit (h : Invariant env profile s) (hb : Busy s c) (ho : Open env profile s k)
    (hman : s.manifestFile = .valid k.next) (hfile : s.profileFile = .valid k.profile) {outcome : Outcome}
    (hout : outcome ≠ .faultAfter) :
    Law env profile s (commitTransaction env s c k (.valid k.profile) (.valid k.next) outcome) := by
  unfold commitTransaction
  rw [if_pos (verified_open h ho)]
  obtain ⟨db, hworking, hpersist⟩ := ho.working
  rw [hworking]
  cases outcome with
  | faultAfter => exact absurd rfl hout
  | fault => exact law_compensate_open (e := .fault) h hb ho rfl rfl rfl rfl trivial
  | ok =>
    have hwrites : k.call.request ≠ .getProfile := by
      intro hget
      have hcreates := ho.derived.creates
      cases hprofile : profile with
      | none =>
        rw [hget, hprofile] at hcreates
        cases hcreates
      | some q =>
        obtain ⟨input, hrequest⟩ := ho.derived.expected q hprofile
        rw [hget] at hrequest
        cases hrequest
    refine .answered (.profile k.call (.ok k.profile)) rfl (.inr ⟨hwrites, ho.derived, ?_⟩) ?_
    · rw [ho.armed.next] at hpersist
      exact hpersist
    · rw [Answer.profileAfter, if_neg hwrites]
      exact h.commit hb ho hman hfile hworking

/-- A restoring write that takes place or was not needed. -/
theorem law_restoreManifest (h : Invariant env profile s) {e : ProfileError} (hpc : s.pc c = .restoreManifest k e)
    {s' : State τ} (hs' : s' = { s with manifestFile := k.oldManifest }) :
    Law env profile s (s'.goto c (.restoreProfile k e)) := by
  have hf := h.facts c
  rw [hpc] at hf
  rcases h.busy_or_calm (c := c) (by rw [hpc]; rfl) with hcalm | hb
  · have hsame : s' = s := by rw [hs', hf.armed.oldManifest, ← hcalm.manifestFile]
    rw [hsame]
    exact law_goto_calm h hcalm ⟨hf, hcalm.manifestFile⟩ rfl
  · subst hs'
    refine .silent rfl rfl (h.goto_busy (X := .restoreProfile k e) hb.others rfl rfl rfl ?_ (.inr rfl))
    exact ⟨⟨hf.armed.congr rfl rfl, hf.reason, hf.working⟩, hf.armed.oldManifest⟩

theorem law_restoreProfile (h : Invariant env profile s) {e : ProfileError} (hpc : s.pc c = .restoreProfile k e)
    {s' : State τ} (hs' : s' = { s with profileFile := k.oldProfile }) :
    Law env profile s (s'.settle c k.call (.error e)) := by
  have hf := h.facts c
  rw [hpc] at hf
  rcases h.busy_or_calm (c := c) (by rw [hpc]; rfl) with hcalm | hb
  · have hsame : s' = s := by rw [hs', hf.1.armed.oldProfile, ← hcalm.profileFile]
    rw [hsame]
    exact law_fail_calm h hcalm hf.1.reason
  · subst hs'
    refine .answered (.profile k.call (.error e)) rfl ⟨rfl, hf.1.reason⟩ ?_
    exact h.settle_busy (X := .settled (.error e)) hb.others rfl rfl hf.1.working rfl (fun _ => trivial) rfl hf.2
      hf.1.armed.oldProfile

/-- **What the next part of a call does.** -/
theorem law_advance (h : Invariant env profile s) {outcome : Outcome} (ha : Allowed s (.next c outcome)) :
    Law env profile s (advance env s c outcome) := by
  have hf := h.facts c
  simp only [Allowed] at ha
  unfold advance
  cases hpc : s.pc c with
  | idle | settled => exact .silent rfl rfl h
  | probe call input =>
    rw [hpc] at hf ha
    have hcalm := h.calm ha
    cases outcome with
    | fault | faultAfter => exact law_fail_calm (e := .fault) h hcalm trivial
    | ok =>
      simp only [fileOperation, id]
      have hcreates : call.request.creates = true := by rw [show call.request = _ from hf]; rfl
      rw [hcalm.profileFile]
      cases hprofile : profile with
      | none =>
        rw [if_pos (by rfl)]
        rw [hprofile] at h hcalm
        exact law_goto_calm h hcalm ⟨none, newProfile_derived hf, .inl rfl⟩ rfl
      | some q =>
        rw [if_neg (by simp [fileOf])]
        rw [hprofile] at h hcalm
        exact law_fail_calm (e := .PROFILE_INTEGRITY_MISMATCH) h hcalm ⟨hcreates, by simp⟩
  | lookup call =>
    rw [hpc] at hf
    have hc : (s.pc c).inside = false := by rw [hpc]; rfl
    cases outcome with
    | fault | faultAfter => exact law_fail_outside (e := .fault) h hc trivial
    | ok => exact .silent rfl rfl (h.goto_outside (X := .lookupRow call s.profileFile) hc hf rfl)
  | lookupRow call file =>
    rw [hpc] at hf ha
    obtain ⟨hq, rfl⟩ := ha
    exact law_lookedUp h (h.calm hq) hf
  | readManifest call p =>
    rw [hpc] at hf ha
    obtain ⟨hq, hmissing⟩ := ha
    have hcalm := h.calm hq
    cases outcome with
    | fault | faultAfter => exact law_fail_calm (e := .fault) h hcalm trivial
    | ok =>
      simp only [fileOperation, id]
      rw [hcalm.manifestFile, if_neg (by simp)]
      by_cases hcreates : call.request.creates = true
      · rw [if_pos hcreates]
        have hfile := hmissing hcreates
        rw [hcalm.profileFile] at hfile
        exact law_goto_calm h hcalm ⟨hf, rfl, hfile.symm, rfl⟩ rfl
      · rw [if_neg hcreates]
        exact law_goto_calm h hcalm ⟨hf, Bool.eq_false_iff.2 hcreates, rfl⟩ rfl
  | readProfile call p oldManifest =>
    rw [hpc] at hf ha
    have hcalm := h.calm ha
    obtain ⟨hpending, -, rfl⟩ := hf
    cases outcome with
    | fault | faultAfter => exact law_fail_calm (e := .fault) h hcalm trivial
    | ok =>
      simp only [fileOperation, id]
      split
      · exact law_fail_calm (e := .fault) h hcalm trivial
      · exact law_goto_calm h hcalm ⟨hpending, rfl, hcalm.profileFile, rfl⟩ rfl
  | mkdir k =>
    rw [hpc] at hf ha
    have hcalm := h.calm_of_inside (c := c) (by rw [hpc]; rfl) (by rw [hpc]; rfl) (by rw [hpc]; rfl)
    cases outcome with
    | fault | faultAfter => exact law_compensate_calm (e := .fault) h hcalm hf trivial
    | ok => exact law_begin h hcalm hf (ha rfl)
  | checkTarget k =>
    rw [hpc] at hf
    obtain ⟨ho, hcreates, hman, hfile⟩ := hf
    have hb := h.busy_of_opened (c := c) (by rw [hpc]; rfl)
    cases outcome with
    | fault | faultAfter => exact law_compensate_open (e := .fault) h hb ho rfl rfl rfl rfl trivial
    | ok =>
      simp only [fileOperation, id]
      have hnone : profile = none := by
        rw [ho.derived.creates] at hcreates
        exact Option.isNone_iff_eq_none.1 hcreates
      rw [if_pos (by rw [hfile, hnone]; rfl)]
      exact law_goto_open (t := s) h hb rfl rfl rfl rfl ⟨ho, hman, hfile⟩ rfl
  | writeProfile k =>
    rw [hpc] at hf
    obtain ⟨ho, hman, hfile⟩ := hf
    have hb := h.busy_of_opened (c := c) (by rw [hpc]; rfl)
    cases outcome with
    | fault => exact law_compensate_open (e := .fault) h hb ho rfl rfl rfl rfl trivial
    | faultAfter =>
      exact law_compensate_open (e := .fault) (t := { s with profileFile := .valid k.profile }) h hb ho rfl rfl rfl
        rfl trivial
    | ok =>
      exact law_goto_open (t := { s with profileFile := .valid k.profile }) h hb rfl rfl rfl rfl
        ⟨ho.congr rfl rfl rfl, hman, rfl⟩ rfl
  | writeManifest k =>
    rw [hpc] at hf
    obtain ⟨ho, hman, hfile⟩ := hf
    have hb := h.busy_of_opened (c := c) (by rw [hpc]; rfl)
    cases outcome with
    | fault => exact law_compensate_open (e := .fault) h hb ho rfl rfl rfl rfl trivial
    | faultAfter =>
      exact law_compensate_open (e := .fault) (t := { s with manifestFile := .valid k.next }) h hb ho rfl rfl rfl
        rfl trivial
    | ok =>
      exact law_goto_open (t := { s with manifestFile := .valid k.next }) h hb rfl rfl rfl rfl
        ⟨ho.congr rfl rfl rfl, rfl, hfile⟩ rfl
  | verifyProfile k =>
    rw [hpc] at hf
    obtain ⟨ho, hman, hfile⟩ := hf
    have hb := h.busy_of_opened (c := c) (by rw [hpc]; rfl)
    cases outcome with
    | fault | faultAfter => exact law_compensate_open (e := .fault) h hb ho rfl rfl rfl rfl trivial
    | ok => exact law_goto_open (t := s) h hb rfl rfl rfl rfl ⟨ho, hman, hfile, hfile⟩ rfl
  | verifyManifest k file =>
    rw [hpc] at hf
    obtain ⟨ho, hman, hfile, hread⟩ := hf
    have hb := h.busy_of_opened (c := c) (by rw [hpc]; rfl)
    cases outcome with
    | fault | faultAfter => exact law_compensate_open (e := .fault) h hb ho rfl rfl rfl rfl trivial
    | ok => exact law_goto_open (t := s) h hb rfl rfl rfl rfl ⟨ho, hman, hfile, hread, hman⟩ rfl
  | commit k file manifest =>
    rw [hpc] at hf ha
    obtain ⟨ho, hman, hfile, rfl, rfl⟩ := hf
    exact law_commit h (h.busy_of_opened (by rw [hpc]; rfl)) ho hman hfile ha
  | restoreManifest k e =>
    rw [hpc] at ha
    cases outcome with
    | ok | faultAfter => exact law_restoreManifest h hpc rfl
    | fault =>
      refine law_restoreManifest h hpc ?_
      rw [← ha rfl]
  | restoreProfile k e =>
    rw [hpc] at ha
    cases outcome with
    | ok | faultAfter => exact law_restoreProfile h hpc rfl
    | fault =>
      refine law_restoreProfile h hpc ?_
      rw [← ha rfl]

theorem law_start (h : Invariant env profile s) (ha : Allowed s (.begin c call)) :
    Law env profile s (start s c call) := by
  unfold start
  cases hpc : s.pc c with
  | idle =>
    have hc : (s.pc c).inside = false := by rw [hpc]; rfl
    cases hrequest : call.request with
    | createProfile input =>
      have hcreates : call.request.creates = true := by rw [hrequest]; rfl
      have hdatabase : s.database = s.committed := by
        unfold State.database
        rw [ha hcreates]
        rfl
      simp only [hdatabase]
      split
      · next hrow =>
        refine law_fail_outside (e := .PROFILE_ALREADY_EXISTS) h hc ⟨hcreates, fun hnone => ?_⟩
        obtain ⟨row, hmem, hid⟩ := hrow
        exact h.describes.noRow hnone row hmem hid
      · exact .silent rfl rfl (h.goto_outside (X := .probe call input) hc hrequest rfl)
    | getProfile | updateProfile =>
      have hcreates : call.request.creates = false := by rw [hrequest]; rfl
      exact .silent rfl rfl (h.goto_outside (X := .lookup call) hc hcreates rfl)
  | _ => exact .silent rfl rfl h

/-! ### What a call leaves alone -/

/-- What a part of a call leaves alone: the directory, and where the other calls stand. -/
structure Local (s : State τ) (c : ℕ) (s' : State τ) : Prop where
  directory : s'.directory = s.directory
  others : ∀ c', c' ≠ c → s'.pc c' = s.pc c'

theorem local_goto (hdir : s'.directory = s.directory) (hpc : s'.pc = s.pc) : Local s c (s'.goto c X) :=
  ⟨hdir, fun c' h => by rw [State.goto_pc, Function.update_of_ne h, hpc]⟩

theorem local_settle {r : Except ProfileError SiteProfile} (hdir : s'.directory = s.directory)
    (hpc : s'.pc = s.pc) : Local s c (s'.settle c call r) :=
  ⟨hdir, fun c' h => by rw [State.settle_pc, State.goto_pc, Function.update_of_ne h, hpc]⟩

theorem local_compensate (hdir : s'.directory = s.directory)
    (hpc : s'.pc = s.pc) : Local s c (s'.compensate c k e) :=
  ⟨hdir, fun c' h => by rw [State.compensate_pc, State.goto_pc, Function.update_of_ne h, hpc]⟩

theorem advance_local (s : State τ) (c : ℕ) (outcome : Outcome) : Local s c (advance env s c outcome) := by
  unfold advance
  cases s.pc c with
  | idle | settled => exact ⟨rfl, fun _ _ => rfl⟩
  | lookupRow call file =>
    simp only [lookedUp]
    split
    · exact local_settle rfl rfl
    · split
      · split
        · exact local_settle rfl rfl
        · exact local_goto rfl rfl
      · exact local_settle rfl rfl
  | commit k file manifest =>
    simp only [commitTransaction]
    split
    · split
      · exact local_compensate rfl rfl
      · exact local_settle rfl rfl
      · exact local_compensate rfl rfl
      · exact local_compensate rfl rfl
    · exact local_compensate rfl rfl
  | _ =>
    cases outcome <;> simp only [fileOperation, id, beginTransaction] <;>
      (repeat' split) <;>
      first
      | exact local_goto rfl rfl
      | exact local_settle rfl rfl
      | exact local_compensate rfl rfl
      | exact ⟨rfl, fun c' h => by simp [Function.update_of_ne h]⟩
/-! ### Other operations -/

/-- The calls go on as if nothing had happened. -/
theorem Invariant.congr (h : Invariant env profile s) (hs : SameProject s s') (hpc : s'.pc = s.pc) :
    Invariant env profile s' where
  describes := by rw [hs.active, hs.committed]; exact h.describes
  numbered := by rw [hs.committed]; exact h.numbered
  facts c := by
    rw [hpc]
    exact facts_congr (h.facts c) hs
  mode := h.mode.imp
    (fun hcalm => ⟨by rw [hs.manifestFile, hs.active]; exact hcalm.manifestFile,
      by rw [hs.profileFile]; exact hcalm.profileFile, by rw [hs.working]; exact hcalm.working,
      by rw [hpc]; exact hcalm.closed⟩)
    fun ⟨c, hb⟩ => ⟨c, by rw [hpc]; exact hb.busy, by rw [hpc]; exact hb.others⟩

/-- The other tables change while no transaction is open. -/
theorem Invariant.with_rest (h : Invariant env profile s) (hworking : s.working = none) (rest : τ) :
    Invariant env profile { s with committed := { s.committed with rest } } where
  describes := h.describes.with_rest rest
  numbered := h.numbered
  facts c := by
    have hf := h.facts c
    have harmed : ∀ k, Armed env profile s k → Armed env profile { s with committed := { s.committed with rest } } k :=
      fun k ha => ⟨ha.pending, ha.oldManifest, ha.oldProfile, ha.next⟩
    have hopen : ∀ k, ¬Open env profile s k := by
      intro k ho
      obtain ⟨db, hdb, -⟩ := ho.working
      rw [hworking] at hdb
      cases hdb
    show Facts env profile _ (s.pc c)
    cases hpc : s.pc c with
    | idle | settled => trivial
    | probe | lookup | lookupRow | readManifest | readProfile => rw [hpc] at hf; exact hf
    | mkdir k => rw [hpc] at hf; exact harmed k hf
    | restoreManifest k e => rw [hpc] at hf; exact ⟨harmed k hf.armed, hf.reason, hf.working⟩
    | restoreProfile k e => rw [hpc] at hf; exact ⟨⟨harmed k hf.1.armed, hf.1.reason, hf.1.working⟩, hf.2⟩
    | _ => rw [hpc] at hf; exact absurd hf.1 (hopen _)
  mode := h.mode.imp (fun hcalm => ⟨hcalm.manifestFile, hcalm.profileFile, hcalm.working, hcalm.closed⟩)
    fun ⟨c, hb⟩ => ⟨c, hb.busy, hb.others⟩

theorem law_runCommitted (h : Invariant env profile s) (hworking : s.working = none) {o : Operation τ}
    (hkind : o.kind ≠ .query) : Law env profile s (runCommitted s o) := by
  unfold runCommitted
  cases hrun : o.run s.committed.ledger s.committed.rest with
  | none =>
    exact .answered (.operation o (.error .fault)) rfl ⟨rfl, hrun⟩ (h.congr ⟨rfl, rfl, rfl, rfl, rfl⟩ rfl)
  | some rest =>
    refine .answered (.operation o (.ok ())) rfl ⟨rest, hrun, ?_⟩ ?_
    · rw [if_neg hkind]
      rfl
    · exact (h.with_rest hworking rest).congr ⟨rfl, rfl, rfl, rfl, rfl⟩ rfl

theorem law_operate (h : Invariant env profile s) {o : Operation τ} (ha : Allowed s (.operation o)) :
    Law env profile s (operate s o) := by
  simp only [Allowed] at ha
  unfold operate
  cases hkind : o.kind with
  | query =>
    rw [hkind] at ha
    simp only
    rw [ha]
    cases hrun : o.run s.committed.ledger s.committed.rest with
    | none =>
      exact .answered (.operation o (.error .fault)) rfl ⟨rfl, hrun⟩ (h.congr ⟨rfl, rfl, rfl, rfl, rfl⟩ rfl)
    | some rest =>
      refine .answered (.operation o (.ok ())) rfl ⟨rest, hrun, ?_⟩ (h.congr ⟨rfl, rfl, rfl, rfl, rfl⟩ rfl)
      rw [if_pos hkind]
      rfl
  | transaction | ownTransaction | statement =>
    rw [hkind] at ha
    simp only [ha]
    exact law_runCommitted h ha (by rw [hkind]; simp)

/-- **What a step does that does not interfere.** -/
theorem step_law (h : Invariant env profile s) {e : Event τ} (ha : Allowed s e) :
    Law env profile s (step env s e) := by
  cases e with
  | begin c call => exact law_start h ha
  | next c outcome => exact law_advance h ha
  | operation o => exact law_operate h ha

end OfflineWebArchiver.Project
