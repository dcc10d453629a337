import OfflineWebArchiver.Lib.Sorting
import OfflineWebArchiver.Properties.CaptureReplay
import OfflineWebArchiver.Properties.ReplayEvidence
import OfflineWebArchiver.Replay.Selected

/-!
# Identities in the store

A row is read with the identity that its own columns have. The query policy of the capture is not
stored, and the stored headers are cut already.

* `snapshotFromRow_captureRow_iff`: the row of a capture reads back when its identity is the
  identity of its own fields.
* `capturesAt_rows`: every stored row is the row of a capture.
* `stableIdentity_iff`: **identities are stable under storage if and only if no header is cut
  before a blank**, and a URL keeps its identity unless it is refused.
-/

namespace OfflineWebArchiver

open Replay Checks

section Identities

variable {env : ReplayEnv} {input c : ReplayCaptureInput} {identity : ReplayRequestIdentity} {value' : JsString}
  {row : ReplaySnapshotRow} {s : ReplayStore} {id : String} {owned : Bool}

/-! ### Rows -/

/-- The request that the columns of a capture's row describe. -/
def storedRequest (identity : ReplayRequestIdentity) : ReplayRequestIdentityInput where
  projectId := identity.projectId
  runId := identity.runId
  projectRevisionId := identity.projectRevisionId
  method := .get
  url := identity.normalizedUrl
  headers := identity.selectedHeaders

/-- The row of a capture reads back when its identity is the identity of its own fields. -/
theorem snapshotFromRow_captureRow_iff (hlower : KeepsLowerCase env.unicode)
    (hnamed : canonicalReplayRequestIdentity env input.identityInput = .ok identity) (id : String) :
    (∃ d, snapshotFromRow env (captureRow env input id identity) = .ok d) ↔
      canonicalReplayRequestIdentity env (storedRequest identity) = .ok identity := by
  have hnames := canonicalReplayRequestIdentity_ok hnamed
  have hrequest : storedRequest identity =
      { projectId := input.projectId, runId := input.runId, projectRevisionId := input.projectRevisionId, method := .get,
        url := identity.normalizedUrl, headers := identity.selectedHeaders } := by
    unfold storedRequest
    rw [hnames.projectId, hnames.runId, hnames.projectRevisionId]
    rfl
  rw [hrequest]
  constructor
  · rintro ⟨d, hd⟩
    have hfrom := snapshotFromRow_ok hd
    have hidentity := hfrom.identity
    rw [ReplayRequestIdentity.key_inj hfrom.key] at hidentity
    exact hidentity
  · intro hagain
    have hselected : parseHeaders identity.selectedHeaders = .ok identity.selectedHeaders := by
      rw [hnames.headers]
      exact parseHeaders_selected hlower input.requestHeaders
    refine ⟨_, bind_ok.2 ⟨_, hselected, bind_ok.2 ⟨_, parseHeaders_sanitized hlower input.responseHeaders,
      bind_ok.2 ⟨identity, requestIdentity_ok.2 hagain, failIf_bind_ok.2 ⟨not_not.2 rfl, rfl⟩⟩⟩⟩⟩

/-- An identity is the identity of its own fields when no cut leaves a blank at the end. -/
theorem storedRequest_iff (hlower : KeepsLowerCase env.unicode) (hreparses : Reparses env input.url)
    (hnamed : canonicalReplayRequestIdentity env input.identityInput = .ok identity) :
    canonicalReplayRequestIdentity env (storedRequest identity) = .ok identity ↔ CutsClean env input.requestHeaders := by
  have hnames := canonicalReplayRequestIdentity_ok hnamed
  have hheaders : identity.selectedHeaders = selectReplayMatchHeaders env input.requestHeaders := hnames.headers
  constructor
  · intro hagain
    have hselected := (canonicalReplayRequestIdentity_ok hagain).headers
    rw [← selectReplayMatchHeaders_again_iff hlower, ← hheaders]
    exact hselected.symm
  · intro hclean
    have hagain := canonicalReplayRequestIdentity_again hlower hreparses ((cutsClean_iff hlower).1 hclean) hnamed
    rw [hnames.method] at hagain
    exact hagain

/-! ### The store -/

/-- A capture stores the row of its identity or nothing. -/
theorem capture_rows : ∀ row ∈ (capture env input id owned s).2.rows,
    row ∈ s.rows ∨ ∃ identity, canonicalReplayRequestIdentity env input.identityInput = .ok identity ∧
      row = captureRow env input id identity := by
  unfold capture
  cases hchecks : captureChecks env input owned with
  | error e => exact fun row hrow => .inl hrow
  | ok identity =>
    cases hstore : storeBody env input s with
    | error e => exact fun row hrow => .inl hrow
    | ok u =>
      have hrows : ∀ row ∈ (u.insertOrIgnore (captureRow env input id identity)).rows,
          row ∈ s.rows ∨ row = captureRow env input id identity := by
        intro row hrow
        rw [← (storeBody_ok hstore).2.1]
        rcases insertOrIgnore_rows u (captureRow env input id identity) with heq | ⟨heq, -⟩
        · exact .inl (heq ▸ hrow)
        · rw [heq] at hrow
          exact (List.mem_append.1 hrow).imp_right List.mem_singleton.1
      have hnamed := (captureChecks_ok hchecks).1
      simp only
      cases (u.insertOrIgnore (captureRow env input id identity)).rowAt (captureRow env input id identity).slot with
      | none => exact fun row hrow => (hrows row hrow).imp_right fun heq => ⟨identity, hnamed, heq⟩
      | some _ => exact fun row hrow => (hrows row hrow).imp_right fun heq => ⟨identity, hnamed, heq⟩

/-- Every row is the row of a capture. -/
def RowsNamed (env : ReplayEnv) (s : ReplayStore) : Prop :=
  ∀ row ∈ s.rows, ∃ c id identity, canonicalReplayRequestIdentity env c.identityInput = .ok identity ∧
    row = captureRow env c id identity

/-- **Every stored row is the row of a capture.** -/
theorem capturesAt_rows (env : ReplayEnv) (es : List CaptureEvent) (n : ℕ) : RowsNamed env (capturesAt env es n).store := by
  have hstart : RowsNamed env CaptureLog.start.store := by
    intro row hrow
    cases hrow
  refine Run.stAt_induction (P := fun l : CaptureLog => RowsNamed env l.store) hstart (fun m e _ ih => ?_) n
  generalize Run.stAt (CaptureLog.step env) .start es m = l at *
  have hstep : (l.step env e).store = (capture env e.input e.id e.owned l.store).2 := by
    unfold CaptureLog.step
    cases capture env e.input e.id e.owned l.store with
    | mk result store => cases result <;> rfl
  rw [hstep]
  intro row hrow
  rcases capture_rows row hrow with hold | ⟨identity, hnamed, rfl⟩
  · exact ih row hold
  · exact ⟨e.input, e.id, identity, hnamed, rfl⟩

/-- The rows of a request are all read or all refused, since the key determines what is read. -/
theorem lookup_integrity (hlower : KeepsLowerCase env.unicode)
    (hnamed : canonicalReplayRequestIdentity env input.identityInput = .ok identity)
    (hagain : canonicalReplayRequestIdentity env (storedRequest identity) = .ok identity) (es : List CaptureEvent)
    (n : ℕ) : lookup env input.identityInput (capturesAt env es n).store ≠ .miss .integrityFailure := by
  have hrows : ∀ row ∈ (capturesAt env es n).store.rowsOf identity.request, ∃ d, snapshotFromRow env row = .ok d := by
    intro row hrow
    obtain ⟨hmem, hrequest⟩ := mem_rowsOf.1 hrow
    obtain ⟨c, id, found, hfound, rfl⟩ := capturesAt_rows env es n row hmem
    obtain rfl : found = identity := ReplayRequestIdentity.key_inj (congrArg RequestKey.key hrequest)
    exact (snapshotFromRow_captureRow_iff hlower hfound id).2 hagain
  unfold lookup
  simp only [hnamed]
  cases hsnapshots : ((capturesAt env es n).store.rowsOf identity.request).mapM (snapshotFromRow env) with
  | error e =>
    obtain ⟨row, hrow, herror⟩ := mapM_error hsnapshots
    obtain ⟨d, hd⟩ := hrows row hrow
    cases herror.symm.trans hd
  | ok snapshots =>
    simp only
    split_ifs
    · simp
    · simp
    · cases snapshots <;> simp

/-! ### URLs -/

/-- The parameters of a URL that its identity has. -/
def identifying (env : ReplayEnv) (ignoredKeys : List JsString) (query : Headers) : Headers :=
  query.filter fun p => !(DEFAULT_REPLAY_TRACKING_KEYS ++ ignoredKeys.map env.unicode.lower).contains
    (env.unicode.lower p.1)

/-- Two URLs that differ in the order of their parameters, and in parameters that are ignored. -/
def SameButIgnored (env : ReplayEnv) (ignoredKeys : List JsString) (value value' : JsString) : Prop :=
  ∃ url url', env.parseUrl value = some url ∧ env.parseUrl value' = some url' ∧ url'.protocol = url.protocol ∧
    url'.username = url.username ∧ url'.password = url.password ∧ url'.base = url.base ∧
    (identifying env ignoredKeys url'.query).Perm (identifying env ignoredKeys url.query)

/-- The URL has a parameter that may hold a secret; ignored or not, such a URL is refused. -/
def CarriesSecret (env : ReplayEnv) (value : JsString) : Prop :=
  ∃ url, env.parseUrl value = some url ∧ url.query.any (Replay.isSensitiveQueryKey ·.1) = true

theorem keptParameters_perm {ignoredKeys : List JsString} {query query' : Headers}
    (h : (identifying env ignoredKeys query').Perm (identifying env ignoredKeys query)) :
    keptParameters env query' ignoredKeys = keptParameters env query ignoredKeys := by
  refine Sorting.mergeSort_eq_of_perm parameterNotAfter_trans parameterNotAfter_total (fun a _ b _ hab hba => ?_) h
  rw [parameterNotAfter_iff] at hab hba
  rcases hab with hab | ⟨hkey, hab⟩
  · rcases hba with hba | ⟨hkey, -⟩
    · exact absurd ((jsLt_asymm hab).symm.trans hba) Bool.false_ne_true
    · rw [hkey, jsLt_irrefl] at hab
      cases hab
  · rcases hba with hba | ⟨-, hba⟩
    · rw [hkey, jsLt_irrefl] at hba
      cases hba
    · by_contra hne
      rcases jsLt_total (fun h => hne (Prod.ext hkey h)) with hlt | hlt
      · exact Bool.false_ne_true (hba.symm.trans hlt)
      · exact Bool.false_ne_true (hab.symm.trans hlt)

/-- A URL that differs in order and in ignored parameters is normalized alike, unless it is
refused. -/
theorem normalizeReplayUrlInternal_variant {value normalized : JsString} {ignoredKeys : List JsString}
    (hvariant : SameButIgnored env ignoredKeys value value')
    (h : normalizeReplayUrlInternal env value ignoredKeys = .ok normalized) :
    normalizeReplayUrlInternal env value' ignoredKeys = .ok normalized ↔ ¬CarriesSecret env value' := by
  obtain ⟨url, url', hparse, hparse', hprotocol, husername, hpassword, hbase, hperm⟩ := hvariant
  obtain ⟨parsed, hparsed, hhttp, hnoUser, hnoPassword, -, rfl⟩ := normalizeReplayUrlInternal_ok.1 h
  obtain rfl := Option.some.inj (hparse.symm.trans hparsed)
  constructor
  · rintro hsame ⟨other, hother, hsecret⟩
    obtain ⟨parsed', hparsed', -, -, -, hnone, -⟩ := normalizeReplayUrlInternal_ok.1 hsame
    obtain rfl := Option.some.inj (hother.symm.trans hparsed')
    exact Bool.false_ne_true (hnone.symm.trans hsecret)
  · intro hsecret
    refine normalizeReplayUrlInternal_ok.2 ⟨url', hparse', hprotocol ▸ hhttp, husername.trans hnoUser,
      hpassword.trans hnoPassword, ?_, ?_⟩
    · by_contra hany
      exact hsecret ⟨url', hparse', by simpa using hany⟩
    · unfold ReplayEnv.withQuery
      rw [keptParameters_perm hperm, hbase]

/-! ### Identities -/

/-- The identity of a captured request is stable: its rows read back under its key, its URL is
normalized, and so is the same URL with other ignored parameters; two keys are equal just when
the requests are. -/
structure StableIdentity (env : ReplayEnv) (input : ReplayCaptureInput) (identity : ReplayRequestIdentity)
    (value' : JsString) : Prop where
  readsBack : ∀ id, ∃ d, snapshotFromRow env (captureRow env input id identity) = .ok d ∧ d.identity.key = identity.key
  found : ∀ es n, lookup env input.identityInput (capturesAt env es n).store ≠ .miss .integrityFailure
  idempotent : normalizeReplayUrlInternal env identity.normalizedUrl input.ignoredKeys = .ok identity.normalizedUrl
  variant : normalizeReplayUrlInternal env value' input.ignoredKeys = .ok identity.normalizedUrl
  keys : ∀ a b i j, canonicalReplayRequestIdentity env a = .ok i → canonicalReplayRequestIdentity env b = .ok j →
    (i.key = j.key ↔ a.projectId = b.projectId ∧ a.runId = b.runId ∧ a.projectRevisionId = b.projectRevisionId ∧
      a.method = b.method ∧
      normalizeReplayUrlInternal env a.url a.ignoredKeys = normalizeReplayUrlInternal env b.url b.ignoredKeys ∧
      selectReplayMatchHeaders env a.headers = selectReplayMatchHeaders env b.headers)

/-- Two keys are equal just when scope, method, normalized URL and selected headers are. -/
theorem key_eq_iff {a b : ReplayRequestIdentityInput} {i j : ReplayRequestIdentity}
    (ha : canonicalReplayRequestIdentity env a = .ok i) (hb : canonicalReplayRequestIdentity env b = .ok j) :
    i.key = j.key ↔ a.projectId = b.projectId ∧ a.runId = b.runId ∧ a.projectRevisionId = b.projectRevisionId ∧
      a.method = b.method ∧
      normalizeReplayUrlInternal env a.url a.ignoredKeys = normalizeReplayUrlInternal env b.url b.ignoredKeys ∧
      selectReplayMatchHeaders env a.headers = selectReplayMatchHeaders env b.headers := by
  have hi := canonicalReplayRequestIdentity_ok ha
  have hj := canonicalReplayRequestIdentity_ok hb
  rw [hi.url, hj.url, ← hi.headers, ← hj.headers, ← hi.projectId, ← hj.projectId, ← hi.runId, ← hj.runId,
    ← hi.projectRevisionId, ← hj.projectRevisionId, ← hi.method, ← hj.method, Except.ok.injEq]
  constructor
  · intro hkey
    obtain rfl := ReplayRequestIdentity.key_inj hkey
    exact ⟨rfl, rfl, rfl, rfl, rfl, rfl⟩
  · rintro ⟨hproject, hrun, hrevision, hmethod, hurl, hheaders⟩
    exact congrArg ReplayRequestIdentity.key
      (by cases i; cases j; simp only [ReplayRequestIdentity.mk.injEq]; exact ⟨hproject, hrun, hrevision, hmethod, hurl, hheaders⟩)

/-- **Identities are stable under storage if and only if no header is cut before a blank**; the URL
with other ignored parameters has the identity unless it may hold a secret, and is refused. -/
theorem stableIdentity_iff (hlower : KeepsLowerCase env.unicode) (hreparses : Reparses env input.url)
    (hnamed : canonicalReplayRequestIdentity env input.identityInput = .ok identity)
    (hvariant : SameButIgnored env input.ignoredKeys input.url value') :
    StableIdentity env input identity value' ↔ CutsClean env input.requestHeaders ∧ ¬CarriesSecret env value' := by
  have hurl := (canonicalReplayRequestIdentity_ok hnamed).url
  rw [← storedRequest_iff hlower hreparses hnamed, ← normalizeReplayUrlInternal_variant hvariant hurl]
  constructor
  · intro h
    obtain ⟨d, hd, -⟩ := h.readsBack ""
    exact ⟨(snapshotFromRow_captureRow_iff hlower hnamed "").1 ⟨d, hd⟩, h.variant⟩
  · rintro ⟨hagain, hsame⟩
    refine ⟨fun id => ?_, lookup_integrity hlower hnamed hagain,
      normalizeReplayUrlInternal_again (List.Subset.refl _) hreparses hurl, hsame, fun a b i j => key_eq_iff⟩
    obtain ⟨d, hd⟩ := (snapshotFromRow_captureRow_iff hlower hnamed id).2 hagain
    exact ⟨d, hd, (snapshotFromRow_ok hd).key⟩

end Identities

/-! ### A sample -/

namespace Sample

/-- A captured page whose request has one selected header. -/
def acceptCapture (accept : JsString) : ReplayCaptureInput :=
  { Replay.Sample.response "http://a.test/" 200 with requestHeaders := [("accept".toList, accept)] }

def acceptIdentity (accept : JsString) : ReplayRequestIdentity where
  projectId := "p".toList
  runId := "r".toList
  projectRevisionId := "v".toList
  method := .get
  normalizedUrl := "http://a.test/".toList
  selectedHeaders := [("accept".toList, accept)]

/-- The header has 513 units, and its cut ends with the blank before the last one. -/
def longAccept : JsString := List.replicate 511 'a' ++ " b".toList

/-- What is stored of it. -/
def cutAccept : JsString := List.replicate 511 'a' ++ " ".toList

def cutCapture : CaptureEvent where
  input := acceptCapture longAccept
  id := "1"
  owned := true

/-- **A header that is cut before a blank**: the row is stored under its key, and every lookup of
the request reports it as an integrity failure. -/
theorem cut_header_lost :
    (canonicalReplayRequestIdentity Replay.Sample.env (acceptCapture longAccept).identityInput).toOption =
        some (acceptIdentity cutAccept) ∧
      (capturesAt Replay.Sample.env [cutCapture] 1).store.rows =
        [captureRow Replay.Sample.env (acceptCapture longAccept) "1" (acceptIdentity cutAccept)] ∧
      (lookup Replay.Sample.env (acceptCapture longAccept).identityInput
        (capturesAt Replay.Sample.env [cutCapture] 1).store matches .miss .integrityFailure) = true := by
  refine ⟨by decide +kernel, by decide +kernel, by decide +kernel⟩

theorem acceptCapture_named : canonicalReplayRequestIdentity Replay.Sample.env
    (acceptCapture "text/html".toList).identityInput = .ok (acceptIdentity "text/html".toList) := by
  have hnamed : (canonicalReplayRequestIdentity Replay.Sample.env
      (acceptCapture "text/html".toList).identityInput).toOption = some (acceptIdentity "text/html".toList) := by decide +kernel
  generalize canonicalReplayRequestIdentity Replay.Sample.env _ = result at *
  cases result with
  | error _ => cases hnamed
  | ok _ =>
    cases hnamed
    rfl

/-- The identity of a page is stable, and its URL with a tracking parameter has it. -/
theorem stableIdentity_page : StableIdentity Replay.Sample.env (acceptCapture "text/html".toList)
    (acceptIdentity "text/html".toList) "http://a.test/?utm_source=x".toList := by
  have hurl : Replay.Sample.env.parseUrl "http://a.test/?utm_source=x".toList = some
      ⟨"http:".toList, [], [], "http://a.test".toList, "http://a.test/".toList, [("utm_source".toList, "x".toList)]⟩ := by
    decide
  have hvariant : SameButIgnored Replay.Sample.env [] "http://a.test/".toList "http://a.test/?utm_source=x".toList :=
    ⟨⟨"http:".toList, [], [], "http://a.test".toList, "http://a.test/".toList, []⟩, _, by decide, hurl, rfl, rfl, rfl, rfl,
      by decide⟩
  have hselected : selectReplayMatchHeaders Replay.Sample.env [("accept".toList, "text/html".toList)] =
      [("accept".toList, "text/html".toList)] := by decide +kernel
  refine (stableIdentity_iff Replay.Sample.keepsLowerCase sample_reparses acceptCapture_named hvariant).2 ⟨?_, ?_⟩
  · rw [cutsClean_iff Replay.Sample.keepsLowerCase]
    intro entry hentry
    change entry ∈ selectReplayMatchHeaders Replay.Sample.env [("accept".toList, "text/html".toList)] at hentry
    rw [hselected, List.mem_singleton] at hentry
    subst hentry
    refine ⟨fun c hc => ?_, fun c hc => ?_⟩
    · obtain rfl : 't' = c := by simpa using hc
      decide
    · obtain rfl : 'l' = c := by simpa using hc
      decide
  · rintro ⟨url, hparse, hsecret⟩
    obtain rfl := Option.some.inj (hurl.symm.trans hparse)
    exact absurd hsecret (by decide)

end Sample

end OfflineWebArchiver
