import OfflineWebArchiver.Lib.Run
import OfflineWebArchiver.Project.Agreement

/-!
# Is a profile commit atomic

One call of `createProfile` or `updateProfile`, with nothing beside it, in which any file
operation may fail and which may stop anywhere.

* `Phase`, `phase_advance`: where a call stands determines the three copies.
* `profile_commit_run`: **an error that is compensated leaves the old revision, a stop leaves
  the old or the new one, or a directory that is refused or in which a created profile file is
  left over.**
* `stopped_update_refused`: an update that stops between its two files.
-/

namespace OfflineWebArchiver.Project

variable {τ : Type} {env : Env τ} {s₀ s : State τ} {old : Option SiteProfile} {c : ℕ} {call : Call}
variable {clean : Prop} {k : Commit} {outcome : Outcome}

/-- An open project that describes a profile, or none yet, before the call. -/
structure Rest (env : Env τ) (c : ℕ) (old : Option SiteProfile) (s : State τ) : Prop where
  settled : Settled env s.disk old
  working : s.working = none
  active : s.manifestFile = .valid s.active
  idle : s.pc c = .idle

theorem Rest.describes (h : Rest env c old s₀) : Describes env s₀.active s₀.committed old := by
  obtain ⟨manifest, db, hman, hdb, hdescribes⟩ := h.settled.describes
  obtain rfl := Option.some.inj hdb
  obtain rfl := ManifestFile.valid.inj (h.active.symm.trans hman)
  exact hdescribes

theorem Rest.file (h : Rest env c old s₀) : s₀.profileFile = fileOf old := h.settled.file

/-! ### The phases of the call -/

/-- What the call is about to commit. -/
structure Intends (s₀ : State τ) (env : Env τ) (old : Option SiteProfile) (call : Call) (k : Commit) : Prop where
  same : k.call = call
  derived : Derived s₀.active.projectId old call k.profile
  oldManifest : k.oldManifest = s₀.manifestFile
  oldProfile : k.oldProfile = s₀.profileFile
  next : k.next = s₀.active.withProfile env k.profile

/-- The database is the old one and no transaction is open. -/
structure OldDatabase (s₀ s : State τ) : Prop where
  committed : s.committed = s₀.committed
  working : s.working = none
  active : s.active = s₀.active

/-- The two files are as before the call. -/
def OldFiles (s₀ s : State τ) : Prop :=
  s.manifestFile = s₀.manifestFile ∧ s.profileFile = s₀.profileFile

/-- Each file is the old one or that of the commit, whose revision is new. -/
def SomeFiles (s₀ s : State τ) (env : Env τ) (p : SiteProfile) : Prop :=
  (s.manifestFile = s₀.manifestFile ∨ s.manifestFile = .valid (s₀.active.withProfile env p)) ∧
    (s.profileFile = s₀.profileFile ∨ s.profileFile = .valid p) ∧
    (OldFiles s₀ s ∨ ∀ row ∈ s₀.committed.ledger.revisions, row.revisionId ≠ p.revisionId)

/-- The transaction of the commit is open. -/
structure InTransaction (s₀ s : State τ) (env : Env τ) (old : Option SiteProfile) (call : Call) (k : Commit) :
    Prop where
  intends : Intends s₀ env old call k
  committed : s.committed = s₀.committed
  active : s.active = s₀.active
  working : ∃ db, s.working = some db ∧
    s₀.committed.persist env k.profile call.request.creates k.next = .ok db

/-- **Where the call stands determines the three copies.** `clean` says that no write that
restores a file fails. -/
def Phase (env : Env τ) (s₀ : State τ) (old : Option SiteProfile) (c : ℕ) (call : Call) (clean : Prop)
    (s : State τ) : Prop :=
  s.directory = s₀.directory ∧
  match s.pc c with
  | .idle => False
  | .probe call' input => call' = call ∧ call.request = .createProfile input ∧ old = none ∧ OldDatabase s₀ s ∧
      OldFiles s₀ s
  | .lookup call' => call' = call ∧ call.request.creates = false ∧ OldDatabase s₀ s ∧ OldFiles s₀ s
  | .lookupRow call' file => call' = call ∧ call.request.creates = false ∧ file = s₀.profileFile ∧
      OldDatabase s₀ s ∧ OldFiles s₀ s
  | .readManifest call' p => call' = call ∧ Derived s₀.active.projectId old call p ∧ OldDatabase s₀ s ∧
      OldFiles s₀ s
  | .readProfile call' p oldManifest => call' = call ∧ Derived s₀.active.projectId old call p ∧
      oldManifest = s₀.manifestFile ∧ OldDatabase s₀ s ∧ OldFiles s₀ s
  | .mkdir k => Intends s₀ env old call k ∧ OldDatabase s₀ s ∧ OldFiles s₀ s
  | .checkTarget k | .writeProfile k => InTransaction s₀ s env old call k ∧ OldFiles s₀ s
  | .writeManifest k => InTransaction s₀ s env old call k ∧ s.manifestFile = s₀.manifestFile ∧
      s.profileFile = .valid k.profile
  | .verifyProfile k | .verifyManifest k _ | .commit k _ _ => InTransaction s₀ s env old call k ∧
      s.manifestFile = .valid k.next ∧ s.profileFile = .valid k.profile
  | .restoreManifest k _ => Intends s₀ env old call k ∧ OldDatabase s₀ s ∧ SomeFiles s₀ s env k.profile
  | .restoreProfile k _ => Intends s₀ env old call k ∧ OldDatabase s₀ s ∧ SomeFiles s₀ s env k.profile ∧
      (clean → s.manifestFile = s₀.manifestFile)
  | .settled (.error _) => OldDatabase s₀ s ∧ (clean → OldFiles s₀ s) ∧
      (OldFiles s₀ s ∨ ∃ p, Derived s₀.active.projectId old call p ∧ SomeFiles s₀ s env p)
  | .settled (.ok p) => call.request = .getProfile ∧ OldDatabase s₀ s ∧ OldFiles s₀ s ∨
      Derived s₀.active.projectId old call p ∧
        s₀.committed.persist env p call.request.creates (s₀.active.withProfile env p) = .ok s.committed ∧
        s.working = none ∧ s.manifestFile = .valid (s₀.active.withProfile env p) ∧ s.profileFile = .valid p

/-! ### Steps -/

theorem OldFiles.some (h : OldFiles s₀ s) (p : SiteProfile) : SomeFiles s₀ s env p :=
  ⟨.inl h.1, .inl h.2, .inl h⟩

theorem phase_settle_error (hdir : s.directory = s₀.directory) (hdb : OldDatabase s₀ s) (hfiles : OldFiles s₀ s)
    (call' : Call) (e : ProfileError) : Phase env s₀ old c call clean (s.settle c call' (.error e)) := by
  refine ⟨hdir, ?_⟩
  simp only [State.settle_pc, State.goto_pc, Function.update_self]
  exact ⟨⟨hdb.committed, hdb.working, hdb.active⟩, fun _ => hfiles, .inl hfiles⟩

/-- The `catch` block, whatever is on disk. -/
theorem phase_compensate (hdir : s.directory = s₀.directory) (hk : Intends s₀ env old call k)
    (hcommitted : s.committed = s₀.committed) (hactive : s.active = s₀.active)
    (hfiles : SomeFiles s₀ s env k.profile) (e : ProfileError) :
    Phase env s₀ old c call clean (s.compensate c k e) := by
  refine ⟨hdir, ?_⟩
  simp only [State.compensate_pc, State.goto_pc, Function.update_self]
  exact ⟨hk, ⟨hcommitted, rfl, hactive⟩, hfiles⟩

/-- The revision of a commit is new when its transaction is open. -/
theorem InTransaction.newRevision (h : InTransaction s₀ s env old call k) (hr : Rest env c old s₀) :
    ∀ row ∈ s₀.committed.ledger.revisions, row.revisionId ≠ k.profile.revisionId := by
  obtain ⟨db, -, hpersist⟩ := h.working
  rw [h.intends.next] at hpersist
  exact (hr.describes.persist h.intends.derived hpersist).2.newRevision

theorem phase_begin (hdir : s.directory = s₀.directory) (hk : Intends s₀ env old call k)
    (hdb : OldDatabase s₀ s) (hfiles : OldFiles s₀ s) :
    Phase env s₀ old c call clean (beginTransaction env s c k) := by
  unfold beginTransaction
  rw [hdb.working, hdb.committed, hk.same]
  rw [if_neg (by simp)]
  cases hp : s₀.committed.persist env k.profile call.request.creates k.next with
  | error e => exact phase_compensate hdir hk hdb.committed hdb.active (hfiles.some _) e
  | ok db =>
    refine ⟨hdir, ?_⟩
    simp only [State.goto_pc, Function.update_self]
    cases call.request.creates with
    | true => exact ⟨⟨hk, hdb.committed, hdb.active, db, rfl, hp⟩, hfiles⟩
    | false => exact ⟨⟨hk, hdb.committed, hdb.active, db, rfl, hp⟩, hfiles⟩

theorem phase_lookedUp (hr : Rest env c old s₀) (hdir : s.directory = s₀.directory)
    (hcreates : call.request.creates = false) (hdb : OldDatabase s₀ s) (hfiles : OldFiles s₀ s) :
    Phase env s₀ old c call clean (lookedUp env s c call s₀.profileFile) := by
  unfold lookedUp
  cases hread : readCurrentProfile env s.database.ledger s.active s₀.profileFile with
  | error e => exact phase_settle_error hdir hdb hfiles call e
  | ok previous =>
    have hold : old = some previous := by
      rw [hr.file] at hread
      cases old with
      | none => cases hread
      | some q =>
        simp only [fileOf, readCurrentProfile] at hread
        split at hread
        · cases hread
        · obtain ⟨-, hread⟩ := Checks.failIf_bind_ok.1 hread
          obtain ⟨-, hread⟩ := Checks.failIf_bind_ok.1 hread
          cases hread
          rfl
    cases hrequest : call.request with
    | createProfile input =>
      rw [hrequest] at hcreates
      cases hcreates
    | getProfile =>
      refine ⟨hdir, ?_⟩
      simp only [State.settle_pc, State.goto_pc, Function.update_self]
      exact .inl ⟨hrequest, ⟨hdb.committed, hdb.working, hdb.active⟩, hfiles⟩
    | updateProfile expected input =>
      cases hnext : nextProfile previous call expected input with
      | error e =>
        simp only [hnext]
        exact phase_settle_error hdir hdb hfiles call e
      | ok p =>
        simp only [hnext]
        refine ⟨hdir, ?_⟩
        simp only [State.goto_pc, Function.update_self]
        refine ⟨trivial, ?_, ⟨hdb.committed, hdb.working, hdb.active⟩, hfiles⟩
        rw [hold]
        exact nextProfile_derived hrequest hnext (hr.describes.profile previous hold).1

theorem phase_commit (hr : Rest env c old s₀) (hdir : s.directory = s₀.directory)
    (ht : InTransaction s₀ s env old call k) (hman : s.manifestFile = .valid k.next)
    (hfile : s.profileFile = .valid k.profile) (profile : ProfileFile) (manifest : ManifestFile)
    (hout : outcome ≠ .faultAfter) :
    Phase env s₀ old c call clean (commitTransaction env s c k profile manifest outcome) := by
  have hfiles : SomeFiles s₀ s env k.profile :=
    ⟨.inr (by rw [hman, ht.intends.next]), .inr hfile, .inr (ht.newRevision hr)⟩
  have hcomp : ∀ e, Phase env s₀ old c call clean (s.compensate c k e) :=
    phase_compensate hdir ht.intends ht.committed ht.active hfiles
  unfold commitTransaction
  split
  · obtain ⟨db, hworking, hpersist⟩ := ht.working
    rw [hworking]
    cases outcome with
    | fault => exact hcomp _
    | faultAfter => exact absurd rfl hout
    | ok =>
      refine ⟨hdir, ?_⟩
      simp only [State.settle_pc, State.goto_pc, Function.update_self]
      rw [ht.intends.next] at hpersist hman
      exact .inr ⟨ht.intends.derived, hpersist, rfl, hman, hfile⟩
  · exact hcomp _

/-- Nothing throws after `COMMIT`: the log does not. -/
def LogKept (c : ℕ) (s : State τ) (outcome : Outcome) : Prop :=
  match s.pc c with
  | .commit .. => outcome ≠ .faultAfter
  | _ => True

/-- A write that restores a file takes place. -/
def Restored (c : ℕ) (s : State τ) (outcome : Outcome) : Prop :=
  match s.pc c with
  | .restoreManifest .. | .restoreProfile .. => outcome ≠ .fault
  | _ => True

/-- **A step keeps to the phases.** -/
theorem phase_advance (hr : Rest env c old s₀) (h : Phase env s₀ old c call clean s)
    (hlog : LogKept c s outcome) (hrestored : clean → Restored c s outcome) : Phase env s₀ old c call clean (advance env s c outcome) := by
  obtain ⟨hdir, hphase⟩ := h
  unfold advance
  unfold LogKept at hlog
  unfold Restored at hrestored
  cases hpc : s.pc c with
  | idle => rw [hpc] at hphase; exact hphase.elim
  | settled r => exact ⟨hdir, hphase⟩
  | probe call' input =>
    rw [hpc] at hphase
    obtain ⟨rfl, hrequest, hold, hdb, hfiles⟩ := hphase
    have hfail : ∀ e, Phase env s₀ old c call' clean (s.settle c call' (.error e)) :=
      phase_settle_error hdir hdb hfiles call'
    cases outcome with
    | fault | faultAfter => exact hfail _
    | ok =>
      simp only [fileOperation, id]
      split
      · refine ⟨hdir, ?_⟩
        simp only [State.goto_pc, Function.update_self]
        refine ⟨trivial, ?_, ⟨hdb.committed, hdb.working, hdb.active⟩, hfiles⟩
        rw [hold, hdb.active]
        exact newProfile_derived hrequest
      · exact hfail _
  | lookup call' =>
    rw [hpc] at hphase
    obtain ⟨rfl, hcreates, hdb, hfiles⟩ := hphase
    cases outcome with
    | fault | faultAfter => exact phase_settle_error hdir hdb hfiles call' _
    | ok =>
      refine ⟨hdir, ?_⟩
      simp only [fileOperation, id, State.goto_pc, Function.update_self]
      exact ⟨trivial, hcreates, hfiles.2, ⟨hdb.committed, hdb.working, hdb.active⟩, hfiles⟩
  | lookupRow call' file =>
    rw [hpc] at hphase
    obtain ⟨rfl, hcreates, rfl, hdb, hfiles⟩ := hphase
    exact phase_lookedUp hr hdir hcreates hdb hfiles
  | readManifest call' p =>
    rw [hpc] at hphase
    obtain ⟨rfl, hp, hdb, hfiles⟩ := hphase
    have hfail : ∀ e, Phase env s₀ old c call' clean (s.settle c call' (.error e)) :=
      phase_settle_error hdir hdb hfiles call'
    cases outcome with
    | fault | faultAfter => exact hfail _
    | ok =>
      simp only [fileOperation, id]
      split
      · exact hfail _
      split
      · next hcreates =>
        refine ⟨hdir, ?_⟩
        simp only [State.goto_pc, Function.update_self]
        have hnone : old = none := by
          rw [hp.creates] at hcreates
          exact Option.isNone_iff_eq_none.1 hcreates
        refine ⟨⟨rfl, hp, hfiles.1, ?_, by rw [hdb.active]⟩, ⟨hdb.committed, hdb.working, hdb.active⟩, hfiles⟩
        rw [hr.file, hnone]
        rfl
      · refine ⟨hdir, ?_⟩
        simp only [State.goto_pc, Function.update_self]
        exact ⟨trivial, hp, hfiles.1, ⟨hdb.committed, hdb.working, hdb.active⟩, hfiles⟩
  | readProfile call' p oldManifest =>
    rw [hpc] at hphase
    obtain ⟨rfl, hp, rfl, hdb, hfiles⟩ := hphase
    have hfail : ∀ e, Phase env s₀ old c call' clean (s.settle c call' (.error e)) :=
      phase_settle_error hdir hdb hfiles call'
    cases outcome with
    | fault | faultAfter => exact hfail _
    | ok =>
      simp only [fileOperation, id]
      split
      · exact hfail _
      · refine ⟨hdir, ?_⟩
        simp only [State.goto_pc, Function.update_self]
        exact ⟨⟨rfl, hp, rfl, hfiles.2, by rw [hdb.active]⟩, ⟨hdb.committed, hdb.working, hdb.active⟩, hfiles⟩
  | mkdir k =>
    rw [hpc] at hphase
    obtain ⟨hk, hdb, hfiles⟩ := hphase
    cases outcome with
    | fault | faultAfter => exact phase_compensate hdir hk hdb.committed hdb.active (hfiles.some _) _
    | ok => exact phase_begin hdir hk hdb hfiles
  | checkTarget k =>
    rw [hpc] at hphase
    obtain ⟨ht, hfiles⟩ := hphase
    have hfail : ∀ e, Phase env s₀ old c call clean (s.compensate c k e) :=
      phase_compensate hdir ht.intends ht.committed ht.active (hfiles.some _)
    cases outcome with
    | fault | faultAfter => exact hfail _
    | ok =>
      simp only [fileOperation, id]
      split
      · refine ⟨hdir, ?_⟩
        simp only [State.goto_pc, Function.update_self]
        exact ⟨⟨ht.intends, ht.committed, ht.active, ht.working⟩, hfiles⟩
      · exact hfail _
  | writeProfile k =>
    rw [hpc] at hphase
    obtain ⟨ht, hfiles⟩ := hphase
    cases outcome with
    | fault => exact phase_compensate hdir ht.intends ht.committed ht.active (hfiles.some _) _
    | faultAfter =>
      have hsome : SomeFiles s₀ { s with profileFile := .valid k.profile } env k.profile :=
        ⟨.inl hfiles.1, .inr rfl, .inr (ht.newRevision hr)⟩
      exact phase_compensate (s := { s with profileFile := .valid k.profile }) hdir ht.intends ht.committed
        ht.active hsome _
    | ok =>
      refine ⟨hdir, ?_⟩
      simp only [fileOperation, State.goto_pc, Function.update_self]
      exact ⟨⟨ht.intends, ht.committed, ht.active, ht.working⟩, hfiles.1, rfl⟩
  | writeManifest k =>
    rw [hpc] at hphase
    obtain ⟨ht, hman, hfile⟩ := hphase
    cases outcome with
    | fault =>
      refine phase_compensate hdir ht.intends ht.committed ht.active ?_ _
      exact ⟨.inl hman, .inr hfile, .inr (ht.newRevision hr)⟩
    | faultAfter =>
      have hsome : SomeFiles s₀ { s with manifestFile := .valid k.next } env k.profile :=
        ⟨.inr (by rw [← ht.intends.next]), .inr hfile, .inr (ht.newRevision hr)⟩
      exact phase_compensate (s := { s with manifestFile := .valid k.next }) hdir ht.intends ht.committed
        ht.active hsome _
    | ok =>
      refine ⟨hdir, ?_⟩
      simp only [fileOperation, State.goto_pc, Function.update_self]
      exact ⟨⟨ht.intends, ht.committed, ht.active, ht.working⟩, rfl, hfile⟩
  | verifyProfile k =>
    rw [hpc] at hphase
    obtain ⟨ht, hman, hfile⟩ := hphase
    have hfiles : SomeFiles s₀ s env k.profile :=
      ⟨.inr (by rw [hman, ht.intends.next]), .inr hfile, .inr (ht.newRevision hr)⟩
    cases outcome with
    | fault | faultAfter => exact phase_compensate hdir ht.intends ht.committed ht.active hfiles _
    | ok =>
      refine ⟨hdir, ?_⟩
      simp only [fileOperation, id, State.goto_pc, Function.update_self]
      exact ⟨⟨ht.intends, ht.committed, ht.active, ht.working⟩, hman, hfile⟩
  | verifyManifest k profile =>
    rw [hpc] at hphase
    obtain ⟨ht, hman, hfile⟩ := hphase
    have hfiles : SomeFiles s₀ s env k.profile :=
      ⟨.inr (by rw [hman, ht.intends.next]), .inr hfile, .inr (ht.newRevision hr)⟩
    cases outcome with
    | fault | faultAfter => exact phase_compensate hdir ht.intends ht.committed ht.active hfiles _
    | ok =>
      refine ⟨hdir, ?_⟩
      simp only [fileOperation, id, State.goto_pc, Function.update_self]
      exact ⟨⟨ht.intends, ht.committed, ht.active, ht.working⟩, hman, hfile⟩
  | commit k profile manifest =>
    rw [hpc] at hphase hlog
    obtain ⟨ht, hman, hfile⟩ := hphase
    exact phase_commit hr hdir ht hman hfile profile manifest hlog
  | restoreManifest k e =>
    rw [hpc] at hphase hrestored
    obtain ⟨hk, hdb, hman, hfile, hnew⟩ := hphase
    have hnext : Phase env s₀ old c call clean
        ({ s with manifestFile := k.oldManifest }.goto c (.restoreProfile k e)) := by
      refine ⟨hdir, ?_⟩
      simp only [State.goto_pc, Function.update_self]
      refine ⟨hk, ⟨hdb.committed, hdb.working, hdb.active⟩, ⟨.inl hk.oldManifest, hfile, ?_⟩, fun _ => hk.oldManifest⟩
      exact hnew.imp (fun h => ⟨hk.oldManifest, h.2⟩) id
    cases outcome with
    | ok | faultAfter => exact hnext
    | fault =>
      refine ⟨hdir, ?_⟩
      simp only [fileOperation, State.goto_pc, Function.update_self]
      exact ⟨hk, ⟨hdb.committed, hdb.working, hdb.active⟩, ⟨hman, hfile, hnew⟩, fun hc => absurd rfl (hrestored hc)⟩
  | restoreProfile k e =>
    rw [hpc] at hphase hrestored
    obtain ⟨hk, hdb, ⟨hman, hfile, hnew⟩, hclean⟩ := hphase
    have hnext : Phase env s₀ old c call clean
        ({ s with profileFile := k.oldProfile }.settle c k.call (.error e)) := by
      refine ⟨hdir, ?_⟩
      simp only [State.settle_pc, State.goto_pc, Function.update_self]
      refine ⟨⟨hdb.committed, hdb.working, hdb.active⟩, fun hc => ⟨hclean hc, hk.oldProfile⟩,
        .inr ⟨k.profile, hk.derived, hman, .inl hk.oldProfile, ?_⟩⟩
      exact hnew.imp (fun h => ⟨h.1, hk.oldProfile⟩) id
    cases outcome with
    | ok | faultAfter => exact hnext
    | fault =>
      refine ⟨hdir, ?_⟩
      simp only [fileOperation, State.settle_pc, State.goto_pc, Function.update_self]
      exact ⟨⟨hdb.committed, hdb.working, hdb.active⟩, fun hc => absurd rfl (hrestored hc),
        .inr ⟨k.profile, hk.derived, hman, hfile, hnew⟩⟩

/-! ### What is on disk -/

/-- The old database with the old files is the old project. -/
theorem Rest.settled_old (hr : Rest env c old s₀) (hdir : s.directory = s₀.directory) (hdb : s.committed = s₀.committed)
    (hfiles : OldFiles s₀ s) : Settled env s.disk old := by
  have hsame : s.disk = s₀.disk := by
    unfold State.disk
    rw [hdir, hdb, hfiles.1, hfiles.2]
  rw [hsame]
  exact hr.settled

/-- What a call leaves whose files are not both the old ones, while its transaction is not
committed: a directory that nobody can open, or, when it creates the profile and has not
replaced the manifest, the old project and a profile file that nothing refers to. -/
def Divergent (env : Env τ) (old : Option SiteProfile) (d : Disk τ) : Prop :=
  (∀ o d', openProject env o d ≠ (d', .ok ())) ∨
    old = none ∧ ∀ o lock, acquireProjectLock o d.lock = .ok lock →
      ∃ d', openProject env o d = (d', .ok ()) ∧ Settled env { d' with profile := .missing } none

theorem Rest.divergent (hr : Rest env c old s₀) (hdir : s.directory = s₀.directory)
    (hdb : s.committed = s₀.committed) {p : SiteProfile} (hp : Derived s₀.active.projectId old call p)
    (hfiles : SomeFiles s₀ s env p) (hnot : ¬OldFiles s₀ s) :
    Divergent env old s.disk := by
  obtain ⟨hman, hfile, hnew⟩ := hfiles
  replace hnew := hnew.resolve_left hnot
  rcases hman with hman | hman
  · have hp' : s.profileFile = .valid p := hfile.resolve_left fun h => hnot ⟨hman, h⟩
    cases hold : old with
    | some q =>
      left
      have hdescribes := hr.describes
      rw [hold] at hdescribes
      have hrefused : Refused env s.disk := hdescribes.profile_refused (hp.profileId q hold) hnew
        (hman.trans hr.active) (congrArg some hdb) hp'
      exact fun o d' => hrefused.not_opened o
    | none =>
      right
      have hs := hr.settled
      rw [hold] at hs
      have hleft : Settled env { s.disk with profile := .missing } none := by
        refine ⟨?_, ?_, ?_, ⟨s₀.active, s₀.committed, hman.trans hr.active, congrArg some hdb, ?_⟩, rfl⟩
        · rw [show s.disk.isDirectory = s₀.disk.isDirectory by unfold State.disk; rw [hdir]]
          exact hs.isDirectory
        · rw [show s.disk.missingDirectories = s₀.disk.missingDirectories by unfold State.disk; rw [hdir]]
          exact hs.directories
        · rw [show s.disk.integrity = s₀.disk.integrity by unfold State.disk; rw [hdir]]
          exact hs.integrity
        · have hdescribes := hr.describes
          rw [hold] at hdescribes
          exact hdescribes
      exact ⟨rfl, fun o lock hacq => hleft.opens_leftover hacq⟩
  · have hrefused : Refused env s.disk := hr.describes.manifest_refused hnew hman (congrArg some hdb)
    exact .inl fun o d' => hrefused.not_opened o

/-- A commit leaves the new project. -/
theorem Rest.settled_new (hr : Rest env c old s₀) (hdir : s.directory = s₀.directory) {p : SiteProfile}
    (hp : Derived s₀.active.projectId old call p)
    (hpersist : s₀.committed.persist env p call.request.creates (s₀.active.withProfile env p) = .ok s.committed)
    (hman : s.manifestFile = .valid (s₀.active.withProfile env p)) (hfile : s.profileFile = .valid p) :
    Settled env s.disk (some p) := by
  have hs := hr.settled
  refine ⟨?_, ?_, ?_, ⟨_, s.committed, hman, rfl, (hr.describes.persist hp hpersist).1⟩, hfile⟩
  · rw [show s.disk.isDirectory = s₀.disk.isDirectory by unfold State.disk; rw [hdir]]
    exact hs.isDirectory
  · rw [show s.disk.missingDirectories = s₀.disk.missingDirectories by unfold State.disk; rw [hdir]]
    exact hs.directories
  · rw [show s.disk.integrity = s₀.disk.integrity by unfold State.disk; rw [hdir]]
    exact hs.integrity

/-! ### Runs -/

/-- The call has begun to replace the files, and is not settled. -/
def Pc.exposed : Pc → Bool
  | .writeManifest .. | .verifyProfile .. | .verifyManifest .. | .commit .. | .restoreManifest ..
  | .restoreProfile .. => true
  | _ => false

/-- The state after `n` file operations of the call. -/
def callAt (env : Env τ) (s₀ : State τ) (c : ℕ) (call : Call) (outcomes : List Outcome) (n : ℕ) : State τ :=
  Run.stAt (fun s outcome => advance env s c outcome) (start s₀ c call) outcomes n

theorem phase_start (hr : Rest env c old s₀) : Phase env s₀ old c call clean (start s₀ c call) := by
  have hdb : OldDatabase s₀ s₀ := ⟨rfl, hr.working, rfl⟩
  have hfiles : OldFiles s₀ s₀ := ⟨rfl, rfl⟩
  unfold start
  rw [hr.idle]
  cases hrequest : call.request with
  | createProfile input =>
    simp only
    split
    · exact phase_settle_error rfl hdb hfiles call _
    · next hno =>
      refine ⟨rfl, ?_⟩
      simp only [State.goto_pc, Function.update_self]
      refine ⟨trivial, hrequest, ?_, ⟨rfl, hr.working, rfl⟩, hfiles⟩
      cases hold : old with
      | none => rfl
      | some q =>
        obtain ⟨row, hmem, hrow⟩ := hr.describes.row q hold
        refine absurd ⟨row, ?_, hrow.projectId⟩ hno
        rw [State.database, hr.working]
        exact hmem
  | getProfile | updateProfile =>
    refine ⟨rfl, ?_⟩
    simp only [State.goto_pc, Function.update_self]
    refine ⟨trivial, ?_, ⟨rfl, hr.working, rfl⟩, hfiles⟩
    rw [hrequest]
    rfl

/-- A call that has not returned has not committed. -/
theorem Phase.uncommitted (h : Phase env s₀ old c call clean s) (hr : Rest env c old s₀)
    (hnot : ∀ p, s.pc c ≠ .settled (.ok p)) :
    s.committed = s₀.committed ∧
      (OldFiles s₀ s ∨ ∃ p, Derived s₀.active.projectId old call p ∧ SomeFiles s₀ s env p) := by
  obtain ⟨-, h⟩ := h
  cases hpc : s.pc c with
  | idle => rw [hpc] at h; exact h.elim
  | probe | readProfile =>
    rw [hpc] at h
    exact ⟨h.2.2.2.1.committed, .inl h.2.2.2.2⟩
  | lookup | readManifest =>
    rw [hpc] at h
    exact ⟨h.2.2.1.committed, .inl h.2.2.2⟩
  | lookupRow =>
    rw [hpc] at h
    exact ⟨h.2.2.2.1.committed, .inl h.2.2.2.2⟩
  | mkdir =>
    rw [hpc] at h
    exact ⟨h.2.1.committed, .inl h.2.2⟩
  | checkTarget | writeProfile =>
    rw [hpc] at h
    exact ⟨h.1.committed, .inl h.2⟩
  | writeManifest k =>
    rw [hpc] at h
    obtain ⟨ht, hman, hfile⟩ := h
    exact ⟨ht.committed, .inr ⟨_, ht.intends.derived, .inl hman, .inr hfile, .inr (ht.newRevision hr)⟩⟩
  | verifyProfile | verifyManifest | commit =>
    rw [hpc] at h
    obtain ⟨ht, hman, hfile⟩ := h
    rw [ht.intends.next] at hman
    exact ⟨ht.committed, .inr ⟨_, ht.intends.derived, .inr hman, .inr hfile, .inr (ht.newRevision hr)⟩⟩
  | restoreManifest k e =>
    rw [hpc] at h
    exact ⟨h.2.1.committed, .inr ⟨_, h.1.derived, h.2.2⟩⟩
  | restoreProfile k e =>
    rw [hpc] at h
    exact ⟨h.2.1.committed, .inr ⟨_, h.1.derived, h.2.2.1⟩⟩
  | settled r =>
    cases r with
    | ok p => exact absurd hpc (hnot p)
    | error e =>
      rw [hpc] at h
      exact ⟨h.1.committed, h.2.2⟩

/-- Before it replaces a file the call has not touched them. -/
theorem Phase.unexposed (h : Phase env s₀ old c call clean s) (hnot : ∀ r, s.pc c ≠ .settled r)
    (hexposed : (s.pc c).exposed = false) : OldFiles s₀ s := by
  obtain ⟨-, h⟩ := h
  cases hpc : s.pc c with
  | idle => rw [hpc] at h; exact h.elim
  | settled r => exact absurd hpc (hnot r)
  | probe | readProfile => rw [hpc] at h; exact h.2.2.2.2
  | lookup | readManifest => rw [hpc] at h; exact h.2.2.2
  | lookupRow => rw [hpc] at h; exact h.2.2.2.2
  | mkdir => rw [hpc] at h; exact h.2.2
  | checkTarget | writeProfile => rw [hpc] at h; exact h.2
  | writeManifest | verifyProfile | verifyManifest | commit | restoreManifest | restoreProfile =>
    rw [hpc] at hexposed
    cases hexposed

/-- **A profile commit is atomic for whoever opens the project afterwards.** A call that returns
leaves the new revision. A call that throws before its `COMMIT`, and whose restoring writes take
place, leaves the old one. A stop leaves the old one until the profile file is replaced, and then
either the old one, when both files are the old ones again, or a divergent directory. -/
theorem profile_commit_run (hr : Rest env c old s₀) {outcomes : List Outcome}
    (hlog : Run.Meets (fun s outcome => advance env s c outcome) (start s₀ c call) (LogKept c) outcomes) (n : ℕ) :
    (∀ p, (callAt env s₀ c call outcomes n).pc c = .settled (.ok p) → call.request ≠ .getProfile →
      Opens env (callAt env s₀ c call outcomes n).disk (some p)) ∧
    (∀ e, (callAt env s₀ c call outcomes n).pc c = .settled (.error e) →
      Run.Meets (fun s outcome => advance env s c outcome) (start s₀ c call) (Restored c) outcomes →
      Opens env (callAt env s₀ c call outcomes n).disk old) ∧
    ((∀ r, (callAt env s₀ c call outcomes n).pc c ≠ .settled r) →
      ((callAt env s₀ c call outcomes n).pc c).exposed = false →
      Opens env (callAt env s₀ c call outcomes n).disk old) ∧
    ((∀ p, (callAt env s₀ c call outcomes n).pc c ≠ .settled (.ok p)) →
      (OldFiles s₀ (callAt env s₀ c call outcomes n) → Opens env (callAt env s₀ c call outcomes n).disk old) ∧
      (¬OldFiles s₀ (callAt env s₀ c call outcomes n) →
        Divergent env old (callAt env s₀ c call outcomes n).disk)) := by
  have hphase : Phase env s₀ old c call
      (Run.Meets (fun s outcome => advance env s c outcome) (start s₀ c call) (Restored c) outcomes)
      (callAt env s₀ c call outcomes n) :=
    Run.stAt_induction (phase_start hr)
      (fun m outcome hm h => phase_advance hr h (hlog m outcome hm) fun hclean => hclean m outcome hm) n
  generalize callAt env s₀ c call outcomes n = s at hphase ⊢
  have hkept : ∀ hnot : (∀ p, s.pc c ≠ .settled (.ok p)), OldFiles s₀ s → Opens env s.disk old := fun hnot hfiles =>
    (hr.settled_old hphase.1 (hphase.uncommitted hr hnot).1 hfiles).opens
  refine ⟨fun p hpc hwrites => ?_, fun e hpc hrestored => ?_, fun hnot hexposed => ?_, fun hnot => ⟨hkept hnot, ?_⟩⟩
  · obtain ⟨hdir, hphase⟩ := hphase
    rw [hpc] at hphase
    rcases hphase with ⟨hget, -⟩ | ⟨hp, hpersist, -, hman, hfile⟩
    · exact absurd hget hwrites
    · exact (hr.settled_new hdir hp hpersist hman hfile).opens
  · have hfiles : OldFiles s₀ s := by
      obtain ⟨-, hphase⟩ := hphase
      rw [hpc] at hphase
      exact hphase.2.1 hrestored
    exact hkept (fun p h => by rw [hpc] at h; cases h) hfiles
  · exact hkept (fun p => hnot (.ok p)) (hphase.unexposed hnot hexposed)
  · intro hfiles
    obtain ⟨hcommitted, hsome⟩ := hphase.uncommitted hr hnot
    obtain ⟨p, hp, hsome⟩ := hsome.resolve_left hfiles
    exact hr.divergent hphase.1 hcommitted hp hsome hfiles

/-! ### A small project with a profile -/

def oneMigration : Env ℕ where
  migrations := [⟨"001_create_project", 1, "a"⟩]
  numbered := by
    intro i h
    match i, h with
    | 0, _ => rfl
  exec _ rest := some rest
  profileHash profile := profile.revisionId
  applicationVersion := "1"
  formatVersion := "1"
  minimumApplicationVersion := "1"

def firstProfile : SiteProfile :=
  { profileId := "f", projectId := "p", revisionId := "r1", sequence := 1, createdAt := "1", updatedAt := "1",
    baseUrl := "u", draft := "x" }

def firstManifest : Manifest :=
  { formatVersion := "1", applicationVersion := "1", projectId := "p", name := "n", slug := "s", createdAt := "0",
    lastOpenedAt := "1", baseUrl := some "u", revisionId := "r1", runId := "u", schemaVersion := 1,
    scopePolicy := true, crawlQueue := false, proxies := false, ready := true, lastValidatedAt := "1",
    minimumApplicationVersion := "1" }

def firstLedger : Ledger where
  metadata := some
    { projectId := "p", projectName := "n", projectSlug := "s", formatVersion := "1", schemaVersion := 1,
      createdAt := "0", lastOpenedAt := "1", currentRevisionId := "r1", currentRunId := "u" }
  revisions := [⟨"r1", "p", 1, "1"⟩]
  profiles := [⟨"f", "p", "r1", 1, "1", "1", "r1"⟩]
  profileRevisions := [⟨"r1", "f", 1, "1", firstProfile, "r1"⟩]

def firstDatabase : Database ℕ :=
  { applied := [⟨"001_create_project", 1, "a"⟩], userVersion := 1, ledger := firstLedger, events := [],
    sessions := 1, rest := 0 }

def firstState : State ℕ where
  directory :=
    { isDirectory := true, missingDirectories := [], manifest := .missing, database := none, integrity := true,
      profile := .missing, backups := [], lock := .missing }
  committed := firstDatabase
  working := none
  manifestFile := .valid firstManifest
  profileFile := .valid firstProfile
  active := firstManifest
  pc _ := .idle
  answers := []

/-- The draft of the profile is changed. -/
def secondCall : Call := ⟨.updateProfile "r1" ⟨"u", "y"⟩, "", "r2", "2"⟩

theorem firstDatabase_describes : Describes oneMigration firstManifest firstDatabase (some firstProfile) where
  metadata := ⟨_, rfl, ⟨rfl, rfl, rfl, rfl, rfl, rfl⟩, ⟨rfl, rfl, rfl, rfl, Nat.one_pos⟩⟩
  current := rfl
  keyed := List.pairwise_singleton _ _
  known := ⟨_, List.mem_singleton.2 rfl, rfl⟩
  scopePolicy := rfl
  noRow h := by cases h
  row p h := by
    cases h
    exact ⟨_, List.mem_singleton.2 rfl, rfl, rfl, rfl, rfl⟩
  profile p h := by
    cases h
    exact ⟨rfl, rfl, rfl⟩

theorem firstState_rest (c : ℕ) : Rest oneMigration c (some firstProfile) firstState where
  settled := ⟨rfl, rfl, rfl, ⟨_, _, rfl, rfl, firstDatabase_describes⟩, rfl⟩
  working := rfl
  active := rfl
  idle := rfl

theorem logKept_of_ok {outcomes : List Outcome} (h : ∀ outcome ∈ outcomes, outcome = .ok) :
    Run.Meets (fun s outcome => advance env s c outcome) s (LogKept c) outcomes := by
  intro n outcome hn
  rw [h outcome (List.mem_of_getElem? hn)]
  unfold LogKept
  split
  · exact Outcome.noConfusion
  · trivial

/-- The update runs to its end. -/
theorem secondCall_opens : Opens oneMigration
    (callAt oneMigration firstState 0 secondCall (List.replicate 10 .ok) 10).disk
    (some { firstProfile with draft := "y", revisionId := "r2", sequence := 2, updatedAt := "2" }) :=
  (profile_commit_run (firstState_rest 0) (logKept_of_ok fun _ h => List.eq_of_mem_replicate h) 10).1 _
    (by decide) (by decide)

/-- The process stops when the update has replaced the profile file. -/
theorem stopped_update_refused : Rest oneMigration 0 (some firstProfile) firstState ∧
    (∀ o, ∃ lock, acquireProjectLock o
      (callAt oneMigration firstState 0 secondCall (List.replicate 6 .ok) 6).disk.lock = .ok lock) ∧
    ∀ o d', openProject oneMigration o
      (callAt oneMigration firstState 0 secondCall (List.replicate 6 .ok) 6).disk ≠ (d', .ok ()) := by
  have hrefused : Refused oneMigration
      (callAt oneMigration firstState 0 secondCall (List.replicate 6 .ok) 6).disk := by
    unfold Refused
    decide
  exact ⟨firstState_rest 0, fun o => ⟨_, rfl⟩, fun o d' => hrefused.not_opened o⟩

end OfflineWebArchiver.Project
