import OfflineWebArchiver.Replay.Calls

/-!
# A stored response is found again

The row of a capture holds the normalized URL and the selected headers of its request, from which
the identity is computed again when the row is read.

* `normalizeReplayUrlInternal_again`: a normalized URL is normalized.
* `snapshotFromRow_captureRow`: the row of a capture reads back.
* `lookup_alone`, `readBody_alone`: **the only capture of a request is found, with its body.**
-/

namespace OfflineWebArchiver.Replay

open Checks

variable {env : ReplayEnv}

/-- A URL with other parameters is parsed into itself and these parameters. -/
def Reparses (env : ReplayEnv) (value : JsString) : Prop :=
  ∀ url query, env.parseUrl value = some url → query ⊆ url.query →
    ∃ url', env.parseUrl (env.withQuery url query) = some url' ∧ url'.protocol = url.protocol ∧
      url'.username = [] ∧ url'.password = [] ∧ url'.base = url.base ∧ url'.query = query

/-! ### URLs -/

theorem parameterNotAfter_iff {a b : JsString × JsString} :
    parameterNotAfter a b = true ↔ jsLt a.1 b.1 = true ∨ a.1 = b.1 ∧ jsLt b.2 a.2 = false := by
  unfold parameterNotAfter
  simp

theorem jsNotAfter_trans {a b c : JsString} (hab : jsLt b a = false) (hbc : jsLt c b = false) : jsLt c a = false := by
  by_contra hca
  rw [Bool.not_eq_false] at hca
  by_cases hsame : b = a
  · rw [hsame] at hbc
    exact Bool.false_ne_true (hbc.symm.trans hca)
  · rcases jsLt_total hsame with hlt | hlt
    · exact Bool.false_ne_true (hab.symm.trans hlt)
    · exact Bool.false_ne_true (hbc.symm.trans (jsLt_trans hca hlt))

theorem parameterNotAfter_trans (a b c : JsString × JsString) (hab : parameterNotAfter a b = true)
    (hbc : parameterNotAfter b c = true) : parameterNotAfter a c = true := by
  rw [parameterNotAfter_iff] at *
  rcases hab with hab | ⟨hab, hab'⟩
  · rcases hbc with hbc | ⟨hbc, -⟩
    · exact .inl (jsLt_trans hab hbc)
    · exact .inl (hbc ▸ hab)
  · rcases hbc with hbc | ⟨hbc, hbc'⟩
    · exact .inl (hab ▸ hbc)
    · exact .inr ⟨hab.trans hbc, jsNotAfter_trans hab' hbc'⟩

theorem parameterNotAfter_total (a b : JsString × JsString) :
    (parameterNotAfter a b || parameterNotAfter b a) = true := by
  rw [Bool.or_eq_true, parameterNotAfter_iff, parameterNotAfter_iff]
  by_cases hkey : a.1 = b.1
  · by_cases hlt : jsLt b.2 a.2 = false
    · exact .inl (.inr ⟨hkey, hlt⟩)
    · exact .inr (.inr ⟨hkey.symm, jsLt_asymm (by simpa using hlt)⟩)
  · rcases jsLt_total hkey with hlt | hlt
    · exact .inl (.inl hlt)
    · exact .inr (.inl hlt)

/-- The parameters that a normalized URL keeps. -/
def keptParameters (env : ReplayEnv) (query : Headers) (ignoredKeys : List JsString) : Headers :=
  (query.filter fun p => !(DEFAULT_REPLAY_TRACKING_KEYS ++ ignoredKeys.map env.unicode.lower).contains
    (env.unicode.lower p.1)).mergeSort parameterNotAfter

/-- What a normalized URL is. -/
theorem normalizeReplayUrlInternal_ok {value normalized : JsString} {ignoredKeys : List JsString} :
    normalizeReplayUrlInternal env value ignoredKeys = .ok normalized ↔
      ∃ url, env.parseUrl value = some url ∧ isHttp url.protocol = true ∧ url.username = [] ∧ url.password = [] ∧
        url.query.any (isSensitiveQueryKey ·.1) = false ∧
        normalized = env.withQuery url (keptParameters env url.query ignoredKeys) := by
  unfold normalizeReplayUrlInternal
  cases env.parseUrl value with
  | none => simp
  | some url =>
    simp only [Option.some.injEq, exists_eq_left']
    constructor
    · intro h
      split_ifs at h with hhttp hcredentials hsensitive
      rw [not_or, not_not, not_not] at hcredentials
      exact ⟨by simpa using hhttp, hcredentials.1, hcredentials.2, by simpa using hsensitive, (Except.ok.inj h).symm⟩
    · rintro ⟨hhttp, husername, hpassword, hsensitive, rfl⟩
      rw [hhttp, husername, hpassword, hsensitive]
      rfl

theorem mem_keptParameters {query : Headers} {ignoredKeys : List JsString} {p : JsString × JsString} :
    p ∈ keptParameters env query ignoredKeys ↔ p ∈ query ∧
      (!(DEFAULT_REPLAY_TRACKING_KEYS ++ ignoredKeys.map env.unicode.lower).contains (env.unicode.lower p.1)) = true := by
  unfold keptParameters
  rw [List.mem_mergeSort, List.mem_filter]

/-- What was kept is kept, in the order in which it is, when fewer keys are ignored. -/
theorem keptParameters_again (query : Headers) {ignoredKeys fewer : List JsString} (hfewer : fewer ⊆ ignoredKeys) :
    keptParameters env (keptParameters env query ignoredKeys) fewer = keptParameters env query ignoredKeys := by
  have hsorted : (keptParameters env query ignoredKeys).Pairwise (fun a b => parameterNotAfter a b = true) :=
    List.pairwise_mergeSort parameterNotAfter_trans parameterNotAfter_total _
  have hall : ∀ p ∈ keptParameters env query ignoredKeys,
      (!(DEFAULT_REPLAY_TRACKING_KEYS ++ fewer.map env.unicode.lower).contains (env.unicode.lower p.1)) = true := by
    intro p hp
    have hnot := (mem_keptParameters.1 hp).2
    simp only [List.contains_eq_mem, List.mem_append, Bool.not_eq_true', decide_eq_false_iff_not, not_or] at hnot ⊢
    exact ⟨hnot.1, fun hmem => hnot.2 (List.map_subset _ hfewer hmem)⟩
  generalize keptParameters env query ignoredKeys = kept at *
  unfold keptParameters
  rw [List.filter_eq_self.2 hall, List.mergeSort_of_pairwise hsorted]

/-- **A normalized URL is normalized**, also when fewer keys are ignored. -/
theorem normalizeReplayUrlInternal_again {value normalized : JsString} {ignoredKeys fewer : List JsString}
    (hfewer : fewer ⊆ ignoredKeys) (hreparses : Reparses env value)
    (h : normalizeReplayUrlInternal env value ignoredKeys = .ok normalized) :
    normalizeReplayUrlInternal env normalized fewer = .ok normalized := by
  obtain ⟨url, hparse, hhttp, husername, hpassword, hsensitive, rfl⟩ := normalizeReplayUrlInternal_ok.1 h
  obtain ⟨url', hparse', hprotocol, husername', hpassword', hbase, hquery⟩ :=
    hreparses url (keptParameters env url.query ignoredKeys) hparse fun p hp => (mem_keptParameters.1 hp).1
  refine normalizeReplayUrlInternal_ok.2 ⟨url', hparse', hprotocol ▸ hhttp, husername', hpassword', ?_, ?_⟩
  · rw [hquery, List.any_eq_false]
    intro p hp
    exact List.any_eq_false.1 hsensitive p (mem_keptParameters.1 hp).1
  · unfold ReplayEnv.withQuery
    rw [hquery, keptParameters_again _ hfewer, hbase]

/-- No parameter of the URL is ignored by the capture alone. -/
def IgnoresNothingElse (env : ReplayEnv) (value : JsString) (ignoredKeys : List JsString) : Prop :=
  ∀ url, env.parseUrl value = some url → ∀ p ∈ url.query,
    env.unicode.lower p.1 ∈ ignoredKeys.map env.unicode.lower → env.unicode.lower p.1 ∈ DEFAULT_REPLAY_TRACKING_KEYS

theorem normalizeReplayUrlInternal_ignored {value : JsString} {ignoredKeys : List JsString}
    (h : IgnoresNothingElse env value ignoredKeys) :
    normalizeReplayUrlInternal env value ignoredKeys = normalizeReplayUrlInternal env value [] := by
  unfold normalizeReplayUrlInternal
  cases hparse : env.parseUrl value with
  | none => rfl
  | some url =>
    have hfilter : (url.query.filter fun p => !(DEFAULT_REPLAY_TRACKING_KEYS ++ ignoredKeys.map env.unicode.lower).contains
        (env.unicode.lower p.1)) =
        url.query.filter fun p => !(DEFAULT_REPLAY_TRACKING_KEYS ++ ([] : List JsString).map env.unicode.lower).contains
          (env.unicode.lower p.1) := by
      refine List.filter_congr fun p hp => ?_
      have himp := h url hparse p hp
      simp only [List.contains_eq_mem, List.mem_append, List.map_nil, List.not_mem_nil, or_false]
      by_cases hdefault : env.unicode.lower p.1 ∈ DEFAULT_REPLAY_TRACKING_KEYS
      · simp [hdefault]
      · have hnot : env.unicode.lower p.1 ∉ ignoredKeys.map env.unicode.lower := fun hmem => hdefault (himp hmem)
        simp only [hdefault, hnot, or_false]
    simp only [hfilter]

/-! ### Rows -/

theorem parseHeaders_of_short {record : Headers}
    (h : ∀ entry ∈ record, utf16Length entry.1 ≤ 128 ∧ utf16Length entry.2 ≤ 4096) :
    parseHeaders record = .ok record := by
  unfold parseHeaders
  rw [if_neg]
  intro hany
  obtain ⟨entry, hentry, hlong⟩ := List.any_eq_true.1 hany
  have hshort := h entry hentry
  simp only [Bool.or_eq_true, decide_eq_true_eq] at hlong
  omega

theorem parseHeaders_selected (hlower : KeepsLowerCase env.unicode) (headers : Headers) :
    parseHeaders (selectReplayMatchHeaders env headers) = .ok (selectReplayMatchHeaders env headers) := by
  refine parseHeaders_of_short fun entry hentry => ?_
  have hselected := (selectReplayMatchHeaders_spec hlower headers).2.2 entry hentry
  have hall : ∀ name ∈ SELECTED_REPLAY_HEADERS, utf16Length name ≤ 128 := by decide
  have hname := List.contains_iff_mem.1 (Bool.and_eq_true_iff.1 hselected.allowed).1
  exact ⟨hall _ hname, hselected.short.trans (by omega)⟩

theorem parseHeaders_sanitized (hlower : KeepsLowerCase env.unicode) (headers : Headers) :
    parseHeaders (sanitizeReplayResponseHeaders env headers) = .ok (sanitizeReplayResponseHeaders env headers) := by
  refine parseHeaders_of_short fun entry hentry => ?_
  have hclean := sanitizeReplayResponseHeaders_clean hlower hentry
  have hall : ∀ name ∈ SAFE_REPLAY_RESPONSE_HEADERS, utf16Length name ≤ 128 := by decide
  have hsafe : SAFE_REPLAY_RESPONSE_HEADERS.contains entry.1 = true := by
    have hknown := (Bool.or_eq_false_iff.1 hclean.known).1
    simpa using hknown
  exact ⟨hall _ (List.contains_iff_mem.1 hsafe), hclean.value ▸ utf16Length_cleanHeaderValue entry.2⟩

theorem replayScopeValue_nonempty {value found : JsString} {label : String}
    (h : replayScopeValue value label = .ok found) : value ≠ [] := by
  rintro rfl
  cases h

theorem canonicalReplayRequestIdentity_scope {request : ReplayRequestIdentityInput} {identity : ReplayRequestIdentity}
    (h : canonicalReplayRequestIdentity env request = .ok identity) : request.projectId ≠ [] := by
  obtain ⟨projectId, hproject, -⟩ := bind_ok.1 h
  exact replayScopeValue_nonempty hproject

theorem replayScopeValue_self {value found : JsString} {label : String} (h : replayScopeValue value label = .ok found) :
    replayScopeValue found label = .ok found := by
  obtain rfl := replayScopeValue_ok h
  exact h

variable {s : ReplayStore} {row : ReplaySnapshotRow} {d : ReplaySnapshotDescriptor} {input : ReplayCaptureInput}
  {identity : ReplayRequestIdentity} {id : String} {owned : Bool}

/-- An identity is computed again from its own fields. -/
theorem canonicalReplayRequestIdentity_again (hlower : KeepsLowerCase env.unicode) {request : ReplayRequestIdentityInput}
    (hreparses : Reparses env request.url)
    (htrimmed : ∀ entry ∈ selectReplayMatchHeaders env request.headers, Trimmed entry.2)
    (h : canonicalReplayRequestIdentity env request = .ok identity) :
    canonicalReplayRequestIdentity env
      { projectId := identity.projectId, runId := identity.runId, projectRevisionId := identity.projectRevisionId,
        method := identity.method, url := identity.normalizedUrl, headers := identity.selectedHeaders } =
      .ok identity := by
  unfold canonicalReplayRequestIdentity at h ⊢
  obtain ⟨projectId, hproject, h⟩ := bind_ok.1 h
  obtain ⟨runId, hrun, h⟩ := bind_ok.1 h
  obtain ⟨projectRevisionId, hrevision, h⟩ := bind_ok.1 h
  obtain ⟨normalizedUrl, hurl, h⟩ := bind_ok.1 h
  obtain rfl := pure_ok.1 h
  refine bind_ok.2 ⟨_, replayScopeValue_self hproject, bind_ok.2 ⟨_, replayScopeValue_self hrun,
    bind_ok.2 ⟨_, replayScopeValue_self hrevision, bind_ok.2 ⟨_, normalizeReplayUrlInternal_again (List.nil_subset _) hreparses hurl, ?_⟩⟩⟩⟩
  rw [selectReplayMatchHeaders_again hlower htrimmed]
  rfl

/-- **The row of a capture reads back**, when no cut has left a selected header with a blank at the
end. -/
theorem snapshotFromRow_captureRow (hlower : KeepsLowerCase env.unicode) (id : String)
    (hreparses : Reparses env input.url)
    (htrimmed : ∀ entry ∈ selectReplayMatchHeaders env input.requestHeaders, Trimmed entry.2)
    (h : canonicalReplayRequestIdentity env input.identityInput = .ok identity) :
    ∃ d, snapshotFromRow env (captureRow env input id identity) = .ok d ∧ d.identity = identity := by
  have hnames := canonicalReplayRequestIdentity_ok h
  have hagain := canonicalReplayRequestIdentity_again hlower hreparses htrimmed h
  rw [hnames.projectId, hnames.runId, hnames.projectRevisionId, hnames.method] at hagain
  have hselected : parseHeaders identity.selectedHeaders = .ok identity.selectedHeaders := by
    rw [hnames.headers]
    exact parseHeaders_selected hlower input.requestHeaders
  refine ⟨_, bind_ok.2 ⟨_, hselected, bind_ok.2 ⟨_, parseHeaders_sanitized hlower input.responseHeaders,
    bind_ok.2 ⟨identity, requestIdentity_ok.2 hagain, failIf_bind_ok.2 ⟨not_not.2 rfl, rfl⟩⟩⟩⟩, rfl⟩

/-! ### Captures -/

/-- The body file of a capture has the length and the digest of the body. -/
theorem storeBody_bytes {u : ReplayStore} (h : storeBody env input s = .ok u) :
    ∃ bytes, u.files (bodyPath (env.sha256 input.body)) = some bytes ∧
      bytes.length = input.body.length ∧ env.sha256 bytes = env.sha256 input.body := by
  unfold storeBody at h
  simp only at h
  cases hfile : s.files (bodyPath (env.sha256 input.body)) with
  | some existing =>
    rw [hfile] at h
    simp only at h
    split_ifs at h with hother
    cases h
    rw [not_or, not_not, not_not] at hother
    exact ⟨existing, hfile, hother⟩
  | none =>
    rw [hfile] at h
    cases h
    exact ⟨input.body, Function.update_self .., rfl, rfl⟩

/-- A capture that stores its row has its body file. -/
theorem capture_stored (hnew : captureRow env input id identity ∉ s.rows)
    (h : captureRow env input id identity ∈ (capture env input id owned s).2.rows) :
    input.body.length ≤ MAX_REPLAY_BODY_BYTES ∧
      ∃ bytes, (capture env input id owned s).2.files (bodyPath (env.sha256 input.body)) = some bytes ∧
        bytes.length = input.body.length ∧ env.sha256 bytes = env.sha256 input.body := by
  unfold capture at h ⊢
  cases hchecks : captureChecks env input owned with
  | error e =>
    rw [hchecks] at h
    exact absurd h hnew
  | ok found =>
    rw [hchecks] at h
    simp only at h ⊢
    cases hstore : storeBody env input s with
    | error e =>
      rw [hstore] at h
      exact absurd h hnew
    | ok u =>
      obtain ⟨bytes, hfile, hbytes⟩ := storeBody_bytes hstore
      refine ⟨(captureChecks_ok hchecks).2.2.2.1, bytes, ?_, hbytes⟩
      simp only
      cases (u.insertOrIgnore (captureRow env input id found)).rowAt (captureRow env input id found).slot with
      | none => exact (congrFun (insertOrIgnore_files _ _) _).trans hfile
      | some row => exact (congrFun (insertOrIgnore_files _ _) _).trans hfile

/-! ### Lookups -/

theorem eq_singleton_of_nodup {α : Type} {l : List α} {a : α} (hnodup : l.Nodup) (h : ∀ b, b ∈ l ↔ b = a) : l = [a] :=
  List.perm_singleton.1 ((List.perm_ext_iff_of_nodup hnodup (List.nodup_singleton a)).2 fun b =>
    (h b).trans List.mem_singleton.symm)

/-- **The only capture of a request is found.** -/
theorem lookup_alone {request : ReplayRequestIdentityInput}
    (hidentity : canonicalReplayRequestIdentity env request = .ok identity) (hrow : row ∈ s.rows)
    (hrequest : row.request = identity.request)
    (halone : ∀ other ∈ s.rows, other.request = identity.request → other = row)
    (hsnapshot : snapshotFromRow env row = .ok d) : lookup env request s = .matched d := by
  have hrows : s.rowsOf identity.request = [row] := by
    refine eq_singleton_of_nodup ?_ fun other => ?_
    · exact ((List.mergeSort_perm _ _).nodup_iff).2 (List.Nodup.of_map _ s.ids |>.filter _)
    · rw [mem_rowsOf]
      refine ⟨fun h => halone other h.1 h.2, ?_⟩
      rintro rfl
      exact ⟨hrow, hrequest⟩
  have hone : [row].mapM (snapshotFromRow env) = .ok [d] := mapM_ok.2 (.cons hsnapshot .nil)
  unfold lookup
  simp only [hidentity, hrows, hone]
  rfl

/-- **The body of a row is read**, when its file holds bytes of its length and digest. -/
theorem readBody_alone {bytes : List UInt8} (hrow : row ∈ s.rows) (hsnapshot : snapshotFromRow env row = .ok d)
    (hscope : row.projectId ≠ []) (hdigest : isDigestText row.bodySha256 = true)
    (hpath : row.bodyRelativePath = bodyPath row.bodySha256) (hfile : s.files row.bodyRelativePath = some bytes)
    (hlength : bytes.length = row.bodyBytes) (hsize : row.bodyBytes ≤ MAX_REPLAY_BODY_BYTES)
    (hsame : env.sha256 bytes = row.bodySha256) : readBody env d true s = .ok bytes := by
  have hfrom := snapshotFromRow_ok hsnapshot
  have hnames := canonicalReplayRequestIdentity_ok hfrom.identity
  have hfind : s.rows.find? (·.snapshotId == d.snapshotId) = some row := by
    cases hfound : s.rows.find? (·.snapshotId == d.snapshotId) with
    | none =>
      have hnot := List.find?_eq_none.1 hfound row hrow
      rw [hfrom.snapshotId] at hnot
      exact absurd (beq_self_eq_true _) hnot
    | some other =>
      have hid := List.find?_some hfound
      rw [hfrom.snapshotId] at hid
      exact congrArg some (List.inj_on_of_nodup_map s.ids (List.mem_of_find?_eq_some hfound) hrow (beq_iff_eq.1 hid))
  have hvalidated : readValidatedBody env d s = .ok bytes := by
    unfold readValidatedBody
    rw [hfrom.bodySha256, hfrom.bodyBytes, hfrom.bodyRelativePath, hfile, if_neg]
    · simp [hlength, hsame]
    · rw [hnames.projectId]
      simp [hscope, hdigest, hpath, hsize]
  unfold readBody
  rw [hfind, hnames.projectId, hnames.runId, hnames.projectRevisionId, hfrom.key, hfrom.bodySha256, hfrom.bodyBytes,
    hfrom.bodyRelativePath, hvalidated]
  simp

end OfflineWebArchiver.Replay
