import OfflineWebArchiver.Assets.Served
import OfflineWebArchiver.Properties.Sample
import OfflineWebArchiver.Properties.TransferBounds

/-!
# A restarted download

A download that restarts from offset 0 keeps what it knew of the earlier representation: the
expected size, unless the server has ignored the range, and the validators.

* `storeResponse_served`: when the body of a response is accepted, and what is recorded of it.
* `record_transfer`: what a download from offset 0 records.
* `restarted_fresh_iff`: **it records what a fresh one does if and only if the final response
  says itself what is stored.**
-/

namespace OfflineWebArchiver.Assets

open Procedure Checks

section Restart

variable {env : DownloadEnv} {allowed : String → Bool} {other : DownloadPorts Served} {input : AssetDownloadInput}
  {target : TransferTarget} {st : TransferState} {w : Served} {response : AssetNetworkResponse} {m : ResponseMetadata}

/-! ### The body -/

variable {Q : ℤ → Served → Prop} {R : DownloadThrown → Served → Prop} {N : Served → Prop}

theorem wp_writeRest_done (bytes : Chunk) (filePosition : ℤ) (n : ℕ) :
    wp (writeRest (servedPorts allowed other) bytes filePosition n bytes.length) Q R N w ↔ Q bytes.length w := by
  cases n with
  | zero => exact Iff.rfl
  | succ n =>
    rw [writeRest, if_neg (by omega)]
    exact Iff.rfl

/-- The file takes a chunk at once. -/
theorem wp_writeChunk (bytes : Chunk) (filePosition : ℤ) :
    wp (writeChunk (servedPorts allowed other) bytes filePosition) Q R N w ↔ Q bytes.length w := by
  unfold writeChunk
  cases hlength : bytes.length with
  | zero => exact Iff.rfl
  | succ n =>
    rw [writeRest, if_pos (by omega)]
    simp only [served_write, wp_bind, wp_pure, wp_raiseIf]
    have hall : (0 : ℤ) + ((bytes.length : ℤ) - 0) = bytes.length := by omega
    rw [hall, wp_writeRest_done, hlength]
    exact ⟨fun h => h.2 (by omega), fun h => ⟨fun hnone => by omega, fun _ => h⟩⟩

/-- Every chunk stays within the limit and within what is expected. -/
def Within (maximumBytes : ℤ) (expectedBytes : Option ℤ) : ℤ → List Chunk → Prop
  | _, [] => True
  | written, chunk :: chunks =>
    written + chunk.length ≤ maximumBytes ∧ (∀ size ∈ expectedBytes, written + chunk.length ≤ size) ∧
      Within maximumBytes expectedBytes (written + chunk.length) chunks

theorem bodyLength_cons (chunk : Chunk) (chunks : List Chunk) :
    bodyLength (chunk :: chunks) = chunk.length + bodyLength chunks := by
  unfold bodyLength
  rw [List.map_cons, List.sum_cons]

theorem bodyLength_nonneg (chunks : List Chunk) : 0 ≤ bodyLength chunks := by
  induction chunks with
  | nil => exact le_rfl
  | cons chunk chunks ih =>
    rw [bodyLength_cons]
    omega

/-- The limits at every chunk are the limits at the end. -/
theorem within_iff {maximumBytes written : ℤ} {expectedBytes : Option ℤ} {chunks : List Chunk} (h : written ≤ maximumBytes)
    (hsize : ∀ size ∈ expectedBytes, size = written + bodyLength chunks) :
    Within maximumBytes expectedBytes written chunks ↔ written + bodyLength chunks ≤ maximumBytes := by
  induction chunks generalizing written with
  | nil => simpa [Within, bodyLength] using h
  | cons chunk chunks ih =>
    have hnonneg := bodyLength_nonneg chunks
    rw [bodyLength_cons] at hsize ⊢
    rw [Within]
    constructor
    · rintro ⟨hchunk, -, hrest⟩
      have hall := (ih hchunk fun size hmem => by rw [hsize size hmem]; omega).1 hrest
      omega
    · intro hall
      have hchunk : written + chunk.length ≤ maximumBytes := by omega
      refine ⟨hchunk, fun size hmem => ?_, (ih hchunk fun size hmem => ?_).2 (by omega)⟩
      · rw [hsize size hmem]
        omega
      · rw [hsize size hmem]
        omega

/-- A chunk is stored when it stays within the limits. -/
theorem storeChunk_served (chunk : Chunk) (written checkpointAt : ℤ) :
    wp (storeChunk input (servedPorts allowed other) target st chunk written checkpointAt)
      (fun stored t => stored.1 = written + chunk.length ∧ t.replies = w.replies ∧
        written + chunk.length ≤ target.maximumBytes ∧ ∀ size ∈ st.expectedBytes, written + chunk.length ≤ size)
      (fun _ _ => ¬(written + chunk.length ≤ target.maximumBytes ∧
        ∀ size ∈ st.expectedBytes, written + chunk.length ≤ size))
      (fun _ => False) w := by
  unfold storeChunk throwIfAborted
  simp only [wp_bind, wp_read, wp_raiseIf, wp_writeChunk, wp_pure, wp_ite]
  refine ⟨fun h => (by cases h), fun _ => ⟨fun hover => ?_, fun hfits => ?_⟩⟩
  · rintro ⟨hmax, hsize⟩
    rcases hover with hover | hover
    · omega
    · obtain ⟨size, hmem, hlt⟩ := (Option.any_eq_true _ _).1 hover
      have := hsize size hmem
      simp at hlt
      omega
  · rw [not_or] at hfits
    have hmax : written + chunk.length ≤ target.maximumBytes := by omega
    have hsize : ∀ size ∈ st.expectedBytes, written + chunk.length ≤ size := by
      intro size hmem
      by_contra hlt
      exact hfits.2 ((Option.any_eq_true _ _).2 ⟨size, hmem, by simpa using hlt⟩)
    refine ⟨fun _ => ?_, fun _ => ⟨trivial, trivial, hmax, hsize⟩⟩
    unfold saveProgress checkpoint
    simp only [servedPorts, wp_bind, wp_pure, wp_modify, wp_ite]
    exact ⟨fun _ => ⟨trivial, trivial, hmax, hsize⟩, fun _ => ⟨trivial, trivial, hmax, hsize⟩⟩

/-- A body is stored when it ends and its chunks stay within the limits. -/
theorem storeBody_served (ending : Result DownloadThrown Unit) (chunks : List Chunk) (written checkpointAt : ℤ) :
    wp (storeBody input (servedPorts allowed other) target st ending chunks written checkpointAt)
      (fun stored t => stored.1 = written + bodyLength chunks ∧ t.replies = w.replies ∧
        Within target.maximumBytes st.expectedBytes written chunks ∧ ending = .returned ())
      (fun _ _ => ¬(Within target.maximumBytes st.expectedBytes written chunks ∧ ending = .returned ()))
      (fun _ => ¬(Within target.maximumBytes st.expectedBytes written chunks ∧ ending = .returned ())) w := by
  induction chunks generalizing written checkpointAt w with
  | nil =>
    rw [storeBody]
    simp only [servedPorts, wp_bind, wp_pure, wp_ofResult]
    cases ending with
    | returned _ => exact ⟨by simp [bodyLength], rfl, trivial, rfl⟩
    | threw e => exact fun h => by cases h.2
    | pending => exact fun h => by cases h.2
  | cons chunk chunks ih =>
    rw [storeBody, wp_bind]
    change wp (catching _ _ >>= _) _ _ _ w
    rw [wp_bind, wp_catching]
    refine wp_mono (storeChunk_served chunk written checkpointAt) (fun stored t ht => ?_) (fun e t ht => ?_)
      fun t ht => ht.elim
    · obtain ⟨hwritten, hreplies, hfits⟩ := ht
      refine wp_mono (ih stored.1 stored.2) (fun next u hu => ?_) (fun _ _ hu => ?_) fun _ hu => ?_
      · rw [bodyLength_cons, ← Int.add_assoc, ← hwritten]
        exact ⟨hu.1, hu.2.1.trans hreplies, ⟨hfits.1, hfits.2, hwritten ▸ hu.2.2.1⟩, hu.2.2.2⟩
      · exact fun h => hu ⟨hwritten ▸ h.1.2.2, h.2⟩
      · exact fun h => hu ⟨hwritten ▸ h.1.2.2, h.2⟩
    · -- the body is left and the error thrown again
      change ¬_
      exact fun h => ht ⟨h.1.1, h.1.2.1⟩

/-- What is recorded of a response by a download that knew the validators in `st`. -/
def recordedOf (st : TransferState) (response : AssetNetworkResponse) (m : ResponseMetadata) : RecordedAsset :=
  ⟨bodyLength response.chunks, m.validator.or st.validator, some (m.etag.or st.etag),
    some (m.lastModified.or st.lastModified)⟩

/-- The progress that a transfer saves is what is recorded of it. -/
theorem wp_saveProgress {Q : Unit → Served → Prop} {R : DownloadThrown → Served → Prop} {N : Served → Prop} (written : ℤ) :
    wp (saveProgress input (servedPorts allowed other) target st written) Q R N w ↔
      Q () { w with saved := some (progressInput input target st written) } := by
  unfold saveProgress checkpoint
  simp only [served_saveAssetProgress, served_saveArtifactCheckpoint, wp_bind, wp_modify, wp_ite, wp_pure]
  by_cases h : input.recovery = true
  · simp [h]
  · simp [h]

/-- The body of a response to a download from offset 0 is accepted when it ends, is within the
limit and has the expected size. -/
theorem receiveBody_served (hoffset : st.offset = 0) (hmax : 1 ≤ target.maximumBytes) :
    let accepted := response.ending = .returned () ∧ bodyLength response.chunks ≤ target.maximumBytes ∧
      ∀ size ∈ st.expectedBytes, size = bodyLength response.chunks
    wp (receiveBody input (servedPorts allowed other) target st response)
      (fun _ t => accepted ∧ t.saved.map (·.recorded) =
        some ⟨bodyLength response.chunks, st.validator, some st.etag, some st.lastModified⟩)
      (fun _ _ => ¬accepted) (fun _ => ¬accepted) w := by
  intro accepted
  have hfits : (∀ size ∈ st.expectedBytes, size = bodyLength response.chunks) →
      (Within target.maximumBytes st.expectedBytes 0 response.chunks ↔
        bodyLength response.chunks ≤ target.maximumBytes) := by
    intro hall
    have hiff : Within target.maximumBytes st.expectedBytes 0 response.chunks ↔
        0 + bodyLength response.chunks ≤ target.maximumBytes := within_iff (by omega) (by simpa using hall)
    rwa [Int.zero_add] at hiff
  unfold receiveBody
  simp only [served_openFile, served_truncate, served_close, served_sync, wp_bind, wp_pure, wp_ensuring, hoffset]
  refine wp_mono (storeBody_served response.ending response.chunks 0 st.checkpointAt) (fun stored t ht => ?_)
    (fun _ t ht haccepted => ?_) fun t ht haccepted => ?_
  · obtain ⟨written, checkpointAt⟩ := stored
    obtain ⟨hwritten, -, hwithin, hending⟩ := ht
    rw [Int.zero_add] at hwritten
    simp only at hwritten
    subst hwritten
    simp only [wp_raiseIf, wp_saveProgress]
    refine ⟨fun hwrong haccepted => ?_, fun hright => ?_⟩
    · obtain ⟨size, hmem, hne⟩ := (Option.any_eq_true _ _).1 hwrong
      rw [decide_eq_true_eq] at hne
      exact hne (haccepted.2.2 size hmem).symm
    · have hall : ∀ size ∈ st.expectedBytes, size = bodyLength response.chunks := by
        intro size hmem
        by_contra hne
        exact hright ((Option.any_eq_true _ _).2 ⟨size, hmem, by simpa using Ne.symm hne⟩)
      exact ⟨⟨hending, (hfits hall).1 hwithin, hall⟩, rfl⟩
  · exact ht ⟨(hfits haccepted.2.2).2 haccepted.2.1, haccepted.1⟩
  · exact ht ⟨(hfits haccepted.2.2).2 haccepted.2.1, haccepted.1⟩

theorem storeResponse_served (hoffset : st.offset = 0) (hmax : 1 ≤ target.maximumBytes) :
    let accepted := response.ending = .returned () ∧ bodyLength response.chunks ≤ target.maximumBytes ∧
      ∀ size ∈ declaredBytes 0 st.expectedBytes response.status m, size = bodyLength response.chunks
    wp (storeResponse input (servedPorts allowed other) target st response m)
      (fun _ t => accepted ∧ t.saved.map (·.recorded) = some (recordedOf st response m))
      (fun _ _ => ¬accepted) (fun _ => ¬accepted) w := by
  intro accepted
  unfold storeResponse
  rw [hoffset, wp_bind, wp_raiseIf]
  refine ⟨fun hover haccepted => ?_, fun _ => receiveBody_served rfl hmax⟩
  obtain ⟨size, hmem, hlt⟩ := (Option.any_eq_true _ _).1 hover
  have hsize := haccepted.2.2 size hmem
  simp only [decide_eq_true_eq] at hlt
  omega

/-! ### A response -/

theorem wp_drain {Q : Unit → Served → Prop} {R : DownloadThrown → Served → Prop} {N : Served → Prop}
    (ending : Result DownloadThrown Unit) (chunks : List Chunk) :
    wp (drain (servedPorts allowed other) ending chunks) Q R N w ↔ Ends Q R N (ending, w) := by
  induction chunks with
  | nil =>
    rw [drain]
    simp only [served_nextChunk, wp_bind, wp_pure, wp_ofResult]
  | cons chunk chunks ih =>
    rw [drain]
    simp only [served_nextChunk, wp_bind, wp_pure, ih]

/-- A redirect is followed to its target. -/
theorem followRedirect_served (permit : ℕ) :
    wp (followRedirect env (servedPorts allowed other) st permit response)
      (fun st' t => t = w ∧ ∃ nextUrl, redirectTarget env allowed st.finalUrl st.redirectChain response = some nextUrl ∧
        st' = { st with redirectChain := st.redirectChain ++ [st.finalUrl], finalUrl := nextUrl })
      (fun _ _ => redirectTarget env allowed st.finalUrl st.redirectChain response = none)
      (fun _ => redirectTarget env allowed st.finalUrl st.redirectChain response = none) w := by
  unfold followRedirect redirectTarget
  rw [wp_bind, wp_drain]
  cases hending : response.ending with
  | threw e => exact rfl
  | pending => exact rfl
  | returned u =>
    rw [ends_returned]
    cases hlocation : header env response.headers "location" with
    | none => exact rfl
    | some location =>
      simp only [wp_bind, wp_raiseIf, wp_orRaise, wp_check, served_authorizeUrl, served_release, wp_pure, wp_modify]
      refine ⟨fun hfull => if_pos hfull, fun hroom => ⟨fun resolved hresolved => ⟨fun nextUrl hsafe => ?_, fun e hsafe => ?_⟩,
        fun hunresolved => ?_⟩⟩
      · rw [if_neg hroom, hresolved]
        have hok : safeUrl env.toAssetEnv resolved = .ok nextUrl := by
          unfold ofAsset at hsafe
          cases hs : safeUrl env.toAssetEnv resolved with
          | ok url => rw [hs] at hsafe; cases hsafe; rfl
          | error e => rw [hs] at hsafe; cases hsafe
        simp only [Option.map_some, hok]
        refine ⟨fun hblocked => ?_, fun hallowed => ?_⟩
        · simp [hblocked]
        · simp only [Bool.not_eq_false] at hallowed
          simp [hallowed]
      · rw [if_neg hroom, hresolved]
        have herror : ∃ e', safeUrl env.toAssetEnv resolved = .error e' := by
          unfold ofAsset at hsafe
          cases hs : safeUrl env.toAssetEnv resolved with
          | ok url => rw [hs] at hsafe; cases hsafe
          | error e' => exact ⟨e', rfl⟩
        obtain ⟨e', he'⟩ := herror
        simp only [Option.map_some, he']
      · rw [if_neg hroom, hunresolved]
        rfl

/-- At offset 0 only an initial `206` has to have a range. -/
theorem decideRange_start (hoffset : st.offset = 0) (status : ℤ) (m : ResponseMetadata) :
    decideRange st status m =
      if status = 206 then
        match m.contentRange.filter (·.start = 0) with
        | none => .error (failed .rangeInvalid "The initial Asset response returned an invalid Content-Range")
        | some range => .ok (.follows range.total)
      else .ok (.follows st.expectedBytes) := by
  unfold decideRange
  have hzero : ¬(0 : ℤ) < st.offset := by omega
  refine (if_neg fun h => hzero h.1).trans ((if_neg fun h => hzero h.1).trans ?_)
  cases m.contentRange.filter (·.start = 0) <;> rfl

/-- The body of a successful response from the start, when `expectedBytes` are expected of it. -/
theorem follows_served (hoffset : st.offset = 0) (hmax : 1 ≤ target.maximumBytes)
    (hsuccessful : 200 ≤ response.status ∧ response.status < 300) (hm : readHeaders env response = .ok m)
    (hrange : response.status = 206 → ∃ range, m.contentRange = some range ∧ range.start = 0) {expectedBytes : Option ℤ}
    (hexpected : declaredBytes 0 expectedBytes response.status m = expectedSize st.expectedBytes response.status m) :
    wp (storeResponse input (servedPorts allowed other) target
        { st with contentType := m.contentType, expectedBytes } response m)
      (fun _ t => ∃ m, readHeaders env response = .ok m ∧ Fits target.maximumBytes st.expectedBytes response m ∧
        t.saved.map (·.recorded) = some (recordedOf st response m))
      (fun _ _ => ∀ m, readHeaders env response = .ok m → ¬Fits target.maximumBytes st.expectedBytes response m)
      (fun _ => ∀ m, readHeaders env response = .ok m → ¬Fits target.maximumBytes st.expectedBytes response m) w := by
  have hstored : wp (storeResponse input (servedPorts allowed other) target
      { st with contentType := m.contentType, expectedBytes } response m) _ _ _ w := storeResponse_served hoffset hmax
  simp only [hexpected] at hstored
  have hfits : (∃ m, readHeaders env response = .ok m ∧ Fits target.maximumBytes st.expectedBytes response m) →
      response.ending = .returned () ∧ bodyLength response.chunks ≤ target.maximumBytes ∧
        ∀ size ∈ expectedSize st.expectedBytes response.status m, size = bodyLength response.chunks := by
    rintro ⟨m', hm', hfits⟩
    obtain rfl := Except.ok.inj (hm.symm.trans hm')
    exact ⟨hfits.ending, hfits.bounded, hfits.size⟩
  refine wp_mono hstored (fun _ t ht => ?_) (fun _ t ht m' hm' hf => ht (hfits ⟨m', hm', hf⟩))
    fun t ht m' hm' hf => ht (hfits ⟨m', hm', hf⟩)
  obtain ⟨⟨hending, hbounded, hsize⟩, hsaved⟩ := ht
  exact ⟨m, hm, ⟨hsuccessful, hrange, hending, hbounded, hsize⟩, hsaved⟩

/-- A successful response from the start. -/
theorem handleSuccess_served (hoffset : st.offset = 0) (hmax : 1 ≤ target.maximumBytes) (permit : ℕ)
    (hsuccessful : 200 ≤ response.status ∧ response.status < 300) :
    wp (handleSuccess env input (servedPorts allowed other) target st permit response)
      (fun next t => (∃ st', next = .inr st') ∧ ∃ m, readHeaders env response = .ok m ∧
        Fits target.maximumBytes st.expectedBytes response m ∧
        t.saved.map (·.recorded) = some (recordedOf st response m))
      (fun _ _ => ∀ m, readHeaders env response = .ok m → ¬Fits target.maximumBytes st.expectedBytes response m)
      (fun _ => ∀ m, readHeaders env response = .ok m → ¬Fits target.maximumBytes st.expectedBytes response m) w := by
  unfold handleSuccess
  rw [wp_bind, wp_check]
  refine ⟨fun m hm => ?_, fun e herror m hm => by rw [herror] at hm; cases hm⟩
  have hzero : ({ st with contentType := m.contentType } : TransferState).offset = 0 := hoffset
  rw [wp_bind, wp_check, decideRange_start hzero response.status m]
  by_cases hpartial : response.status = 206
  · rw [if_pos hpartial]
    cases hrange : m.contentRange.filter (·.start = 0) with
    | none =>
      refine ⟨fun _ h => (by cases h), fun _ _ m' hm' hfits => ?_⟩
      obtain rfl := Except.ok.inj (hm.symm.trans hm')
      obtain ⟨range, hsome, hzero⟩ := hfits.range hpartial
      rw [hsome] at hrange
      simp [hzero] at hrange
    | some range =>
      refine ⟨fun decision hdecision => ?_, fun _ h => (by cases h)⟩
      obtain rfl := Except.ok.inj hdecision
      obtain ⟨hsome, hzero⟩ := (Option.filter_eq_some_iff).1 hrange
      have hexpected : declaredBytes 0 range.total response.status m =
          expectedSize st.expectedBytes response.status m := by
        unfold expectedSize
        rw [if_pos hpartial, hsome, Option.bind_some]
      rw [wp_bind]
      exact wp_mono (follows_served hoffset hmax hsuccessful hm (fun _ => ⟨range, hsome, by simpa using hzero⟩) hexpected)
        (fun st' t ht => ⟨⟨st', rfl⟩, ht⟩) (fun _ _ h => h) fun _ h => h
  · rw [if_neg hpartial]
    refine ⟨fun decision hdecision => ?_, fun _ h => (by cases h)⟩
    obtain rfl := Except.ok.inj hdecision
    have hexpected : declaredBytes 0 st.expectedBytes response.status m =
        expectedSize st.expectedBytes response.status m := by
      unfold expectedSize
      rw [if_neg hpartial]
    rw [wp_bind]
    exact wp_mono (follows_served hoffset hmax hsuccessful hm (fun h => absurd h hpartial) hexpected)
      (fun st' t ht => ⟨⟨st', rfl⟩, ht⟩) (fun _ _ h => h) fun _ h => h

/-- What a response that is no redirect comes to, for a download from offset 0. -/
theorem handleResponse_served (hoffset : st.offset = 0) (hmax : 1 ≤ target.maximumBytes) (permit : ℕ)
    (hfinal : isAssetRedirectStatus response.status = false) :
    wp (handleResponse env input (servedPorts allowed other) target st permit response)
      (fun next t => (∃ st', next = .inr st') ∧ ∃ m, readHeaders env response = .ok m ∧
        Fits target.maximumBytes st.expectedBytes response m ∧
        t.saved.map (·.recorded) = some (recordedOf st response m))
      (fun _ _ => ∀ m, readHeaders env response = .ok m → ¬Fits target.maximumBytes st.expectedBytes response m)
      (fun _ => ∀ m, readHeaders env response = .ok m → ¬Fits target.maximumBytes st.expectedBytes response m) w := by
  unfold handleResponse
  rw [if_neg (by simp [hfinal])]
  by_cases hrejected : response.status = 416
  · have hno : ∀ m, ¬Fits target.maximumBytes st.expectedBytes response m := by
      intro m hfits
      have := hfits.successful
      omega
    rw [if_pos hrejected, wp_map]
    unfold rejectedRange
    rw [wp_bind, wp_drain]
    cases response.ending with
    | threw e => exact fun m _ => hno m
    | pending => exact fun m _ => hno m
    | returned u =>
      rw [ends_returned, wp_bind, wp_raiseIf]
      exact ⟨fun _ m _ => hno m, fun h => absurd (Or.inl hoffset) h⟩
  · rw [if_neg hrejected]
    by_cases hfailed : response.status < 200 ∨ 300 ≤ response.status
    · have hno : ∀ m, ¬Fits target.maximumBytes st.expectedBytes response m := by
        intro m hfits
        have := hfits.successful
        omega
      rw [if_pos hfailed, wp_bind, wp_drain]
      cases response.ending with
      | threw e => exact fun m _ => hno m
      | pending => exact fun m _ => hno m
      | returned u => exact fun m _ => hno m
    · rw [if_neg hfailed]
      exact handleSuccess_served hoffset hmax permit (by omega)

/-! ### The download from offset 0 -/

/-- The download accepts the final response, and this is what it records. -/
def Records (env : DownloadEnv) (allowed : String → Bool) (maximumBytes : ℤ) (st : TransferState)
    (replies : List (Except String AssetNetworkResponse)) (x : RecordedAsset) : Prop :=
  ∃ response m, finalResponse env allowed st.finalUrl st.redirectChain replies = some response ∧
    readHeaders env response = .ok m ∧ Fits maximumBytes st.expectedBytes response m ∧ x = recordedOf st response m

theorem records_cons {url : String} (hurl : allowed st.finalUrl = true) {maximumBytes : ℤ}
    (horigin : env.originOf st.finalUrl = some url) {rest : List (Except String AssetNetworkResponse)} {x : RecordedAsset} :
    Records env allowed maximumBytes st (.ok response :: rest) x ↔
      if isAssetRedirectStatus response.status then
        ∃ nextUrl, redirectTarget env allowed st.finalUrl st.redirectChain response = some nextUrl ∧
          Records env allowed maximumBytes
            { st with redirectChain := st.redirectChain ++ [st.finalUrl], finalUrl := nextUrl } rest x
      else ∃ m, readHeaders env response = .ok m ∧ Fits maximumBytes st.expectedBytes response m ∧
        x = recordedOf st response m := by
  unfold Records
  rw [finalResponse, if_pos ⟨hurl, by simp [horigin]⟩]
  by_cases hredirect : isAssetRedirectStatus response.status = true
  · rw [if_pos hredirect, if_pos hredirect]
    cases redirectTarget env allowed st.finalUrl st.redirectChain response with
    | none => simp
    | some nextUrl => simp [recordedOf]
  · rw [if_neg hredirect, if_neg hredirect]
    simp

section Rounds

variable {β : Type} {R : DownloadThrown → Served → Prop} {N : Served → Prop}

theorem wp_sendRequest {Q : AssetNetworkResponse → Served → Prop} (origin : String) (permit : ℕ) :
    wp (sendRequest env input (servedPorts allowed other) st origin permit) Q R N w ↔
      match w.replies with
      | [] => N w
      | .error message :: rest => R (failedRetryable .networkFailed message) { w with replies := rest }
      | .ok response :: rest => Q response { w with replies := rest } := by
  obtain ⟨replies, saved⟩ := w
  unfold sendRequest throwIfAborted
  simp only [served_request, served_observeResponse, served_release, wp_bind, wp_pure, wp_catching, wp_modify, wp_read,
    wp_raiseIf, wp_raise]
  rcases replies with _ | ⟨_ | response, rest⟩
  · exact Iff.rfl
  · exact ⟨fun h => h.2 Bool.false_ne_true, fun h => ⟨fun hfalse => (by cases hfalse), fun _ => h⟩⟩
  · exact Iff.rfl

variable {Q : TransferState ⊕ TransferState → Served → Prop}

/-- A round asks for the URL when it is allowed and `new URL` takes it. -/
theorem wp_round :
    wp (transferRound env input (servedPorts allowed other) target st) Q R N w ↔
      (allowed st.finalUrl = false → R (failed .scopeBlocked "The Asset URL is not authorized") w) ∧
        (¬allowed st.finalUrl = false →
          (∀ origin, env.originOf st.finalUrl = some origin →
            wp (sendRequest env input (servedPorts allowed other) st origin 0) (fun response t =>
              wp (handleResponse env input (servedPorts allowed other) target st 0 response) Q
                (fun e t => R (streamFailure e) t) N t) R N w) ∧
          (env.originOf st.finalUrl = none → R invalidUrl w)) := by
  unfold transferRound throwIfAborted
  simp only [served_authorizeUrl, served_acquire, served_release, wp_bind, wp_read, wp_raiseIf, wp_pure, wp_orRaise,
    wp_ensuring, wp_catching, wp_modify, wp_raise]
  exact ⟨fun h => h.2 Bool.false_ne_true, fun h => ⟨fun hfalse => (by cases hfalse), fun _ => h⟩⟩

theorem wp_round_blocked (h : ¬(allowed st.finalUrl = true ∧ (env.originOf st.finalUrl).isSome)) (hR : ∀ e, R e w) :
    wp (transferRound env input (servedPorts allowed other) target st) Q R N w := by
  refine wp_round.2 ⟨fun _ => hR _, fun hallowed => ⟨fun origin horigin => ?_, fun _ => hR _⟩⟩
  exact absurd ⟨by simpa using hallowed, by simp [horigin]⟩ h

theorem wp_round_open (hallowed : allowed st.finalUrl = true) {origin : String}
    (horigin : env.originOf st.finalUrl = some origin) :
    wp (transferRound env input (servedPorts allowed other) target st) Q R N w ↔
      wp (sendRequest env input (servedPorts allowed other) st origin 0) (fun response t =>
        wp (handleResponse env input (servedPorts allowed other) target st 0 response) Q
          (fun e t => R (streamFailure e) t) N t) R N w := by
  rw [wp_round, hallowed, horigin]
  simp

end Rounds

/-- **A download from offset 0** ends with the final response. -/
theorem transfer_served (hmax : 1 ≤ target.maximumBytes) {n : ℕ} (replies : List (Except String AssetNetworkResponse))
    (saved : Option SaveProgressInput) (hoffset : st.offset = 0) (hn : replies.length < n) :
    wp (transfer env input (servedPorts allowed other) target n st)
      (fun _ t => ∃ x, Records env allowed target.maximumBytes st replies x ∧ t.saved.map (·.recorded) = some x)
      (fun _ _ => ∀ x, ¬Records env allowed target.maximumBytes st replies x)
      (fun _ => ∀ x, ¬Records env allowed target.maximumBytes st replies x) ⟨replies, saved⟩ := by
  induction replies generalizing st n with
  | nil =>
    obtain ⟨n, rfl⟩ : ∃ k, n = k + 1 := ⟨n - 1, by omega⟩
    have hnone : ∀ x, ¬Records env allowed target.maximumBytes st [] x := by
      rintro x ⟨r, m, hr, -⟩
      simp [finalResponse] at hr
    unfold transfer
    rw [rounds, wp_bind]
    by_cases hopen : allowed st.finalUrl = true ∧ (env.originOf st.finalUrl).isSome
    · obtain ⟨origin, horigin⟩ := Option.isSome_iff_exists.1 hopen.2
      rw [wp_round_open hopen.1 horigin, wp_sendRequest]
      exact hnone
    · exact wp_round_blocked hopen fun _ => hnone
  | cons reply rest ih =>
    obtain ⟨n, rfl⟩ : ∃ k, n = k + 1 := ⟨n - 1, by omega⟩
    have hrest : rest.length < n := by simpa using hn
    unfold transfer
    rw [rounds, wp_bind]
    by_cases hopen : allowed st.finalUrl = true ∧ (env.originOf st.finalUrl).isSome
    · obtain ⟨origin, horigin⟩ := Option.isSome_iff_exists.1 hopen.2
      rw [wp_round_open hopen.1 horigin, wp_sendRequest]
      cases reply with
      | error message =>
        rintro x ⟨r, m, hr, -⟩
        simp [finalResponse] at hr
      | ok response =>
        simp only [records_cons hopen.1 horigin]
        by_cases hredirect : isAssetRedirectStatus response.status = true
        · -- the rest of the download is that of a redirect
          simp only [if_pos hredirect]
          unfold handleResponse
          rw [if_pos hredirect, wp_map]
          refine wp_mono (followRedirect_served 0) (fun st' t ht => ?_) (fun _ _ hnone => ?_) fun _ hnone => ?_
          · obtain ⟨rfl, nextUrl, htarget, rfl⟩ := ht
            have hgo : wp (transfer env input (servedPorts allowed other) target n
                { st with redirectChain := st.redirectChain ++ [st.finalUrl], finalUrl := nextUrl }) _ _ _ ⟨rest, saved⟩ :=
              ih hoffset hrest
            refine wp_mono hgo (fun _ u hu => ?_) (fun _ _ hu => ?_) fun _ hu => ?_
            · obtain ⟨x, hx, hsaved⟩ := hu
              exact ⟨x, ⟨nextUrl, htarget, hx⟩, hsaved⟩
            · rintro x ⟨url, hurl, hx⟩
              obtain rfl := Option.some.inj (htarget.symm.trans hurl)
              exact hu x hx
            · rintro x ⟨url, hurl, hx⟩
              obtain rfl := Option.some.inj (htarget.symm.trans hurl)
              exact hu x hx
          · simp [hnone]
          · simp [hnone]
        · simp only [if_neg hredirect]
          refine wp_mono (handleResponse_served hoffset hmax 0 (by simpa using hredirect)) (fun next t ht => ?_)
            (fun _ _ hno => ?_) fun _ hno => ?_
          · obtain ⟨⟨st', rfl⟩, m, hm, hfits, hsaved⟩ := ht
            exact ⟨_, ⟨m, hm, hfits, rfl⟩, hsaved⟩
          · rintro x ⟨m, hm, hfits, -⟩
            exact hno m hm hfits
          · rintro x ⟨m, hm, hfits, -⟩
            exact hno m hm hfits
    · have hblocked : ∀ x, ¬Records env allowed target.maximumBytes st (reply :: rest) x := by
        rintro x ⟨r, m, hr, -⟩
        cases reply with
        | error message => simp [finalResponse] at hr
        | ok response =>
          rw [finalResponse, if_neg hopen] at hr
          cases hr
      exact wp_round_blocked hopen fun _ => hblocked

/-- What a download from offset 0 records. -/
theorem record_transfer (st : TransferState) (hoffset : st.offset = 0) (hmax : 1 ≤ target.maximumBytes) {n : ℕ} (hn : 22 ≤ n) (x : RecordedAsset) :
    record (transfer env input (servedPorts allowed other) target n st w) = some x ↔
      Records env allowed target.maximumBytes st w.replies x := by
  have hstable : transfer env input (servedPorts allowed other) target n st =
      transfer env input (servedPorts allowed other) target (max 22 (w.replies.length + 1)) st := by
    rw [transfer_stable hn, transfer_stable (Nat.le_max_left 22 _)]
  rw [hstable]
  have hserved : wp (transfer env input (servedPorts allowed other) target (max 22 (w.replies.length + 1)) st) _ _ _ w :=
    transfer_served hmax w.replies w.saved hoffset
      (lt_of_lt_of_le (Nat.lt_succ_self w.replies.length) (Nat.le_max_right 22 _))
  rw [wp] at hserved
  unfold record
  rcases hrun : transfer env input (servedPorts allowed other) target (max 22 (w.replies.length + 1)) st w with
    ⟨_ | _ | _, t⟩
  · rw [hrun] at hserved
    obtain ⟨y, hy, hsaved⟩ := hserved
    change t.saved.map _ = some x ↔ _
    rw [hsaved]
    constructor
    · intro h
      obtain rfl := Option.some.inj h
      exact hy
    · rintro ⟨r, m, hr, hm, hfits, rfl⟩
      obtain ⟨r', m', hr', hm', -, rfl⟩ := hy
      obtain rfl := Option.some.inj (hr.symm.trans hr')
      obtain rfl := Except.ok.inj (hm.symm.trans hm')
      rfl
  · rw [hrun] at hserved
    exact ⟨fun h => (by cases h), fun h => absurd h (hserved x)⟩
  · rw [hrun] at hserved
    exact ⟨fun h => (by cases h), fun h => absurd h (hserved x)⟩

/-! ### Restarts -/

/-- A download that has stood at an offset starts again: with another request, or with the response
that has ignored the range, which is then read from offset 0. -/
inductive Restarts (env : DownloadEnv) (allowed : String → Bool) (other : DownloadPorts Served) (input : AssetDownloadInput)
    (target : TransferTarget) (st : TransferState) (w : Served) : TransferState → Served → Prop
  | requested {st' : TransferState} {w' : Served} (hbefore : st.restarted = false) (hafter : st'.restarted = true)
      (hround : transferRound env input (servedPorts allowed other) target st w = (.returned (.inl st'), w')) :
      Restarts env allowed other input target st w st' w'
  | ignored {response : AssetNetworkResponse} {rest : List (Except String AssetNetworkResponse)}
      (hbefore : st.restarted = false) (hoffset : 0 < st.offset) (hstatus : response.status = 200)
      (hreplies : w.replies = .ok response :: rest) :
      Restarts env allowed other input target st w { st with restarted := true, offset := 0, expectedBytes := none } w

/-- The same place in a download that has started with nothing stored. -/
def TransferState.fresh (st : TransferState) : TransferState :=
  { st with offset := 0, expectedBytes := none, validator := none, etag := none, lastModified := none
            restarted := false, checkpointAt := 0 }

/-- The final response, when it is complete, says itself what is stored: its size, or it has the
stored one, and every validator that is stored. -/
def SaysItself (env : DownloadEnv) (allowed : String → Bool) (maximumBytes : ℤ) (st : TransferState)
    (replies : List (Except String AssetNetworkResponse)) : Prop :=
  ∀ response m, finalResponse env allowed st.finalUrl st.redirectChain replies = some response →
    readHeaders env response = .ok m → Complete maximumBytes response m →
    (∀ size ∈ st.expectedBytes, response.status = 206 ∨ m.contentLength.isSome ∨ size = bodyLength response.chunks) ∧
      (st.validator = none ∨ m.validator.isSome) ∧ (st.etag = none ∨ m.etag.isSome) ∧
      (st.lastModified = none ∨ m.lastModified.isSome)

/-- A stored size only matters to a response that declares none. -/
theorem fits_iff {maximumBytes : ℤ} {stored : Option ℤ} : Fits maximumBytes stored response m ↔
    Complete maximumBytes response m ∧
      ∀ size ∈ stored, response.status = 206 ∨ m.contentLength.isSome ∨ size = bodyLength response.chunks := by
  have hsame : response.status = 206 ∨ m.contentLength.isSome →
      expectedSize stored response.status m = expectedSize none response.status m := by
    unfold expectedSize declaredBytes
    rintro ( hpartial | hlength)
    · simp only [if_pos hpartial]
    · obtain ⟨length, hsome⟩ := Option.isSome_iff_exists.1 hlength
      by_cases hpartial : response.status = 206
      · simp only [if_pos hpartial]
      · simp only [if_neg hpartial, hsome, if_pos (Or.inl hpartial)]
  by_cases hdeclares : response.status = 206 ∨ m.contentLength.isSome
  · have heq := hsame hdeclares
    constructor
    · intro h
      exact ⟨⟨h.successful, h.range, h.ending, h.bounded, heq ▸ h.size⟩, fun _ _ => or_assoc.1 (.inl hdeclares)⟩
    · rintro ⟨h, -⟩
      exact ⟨h.successful, h.range, h.ending, h.bounded, heq ▸ h.size⟩
  · rw [not_or] at hdeclares
    have hnone : m.contentLength = none := by simpa using hdeclares.2
    have hexpected : ∀ expectedBytes, expectedSize expectedBytes response.status m = expectedBytes := by
      intro expectedBytes
      unfold expectedSize declaredBytes
      rw [if_neg hdeclares.1, hnone]
    constructor
    · intro h
      refine ⟨⟨h.successful, h.range, h.ending, h.bounded, fun size hmem => ?_⟩, fun size hmem => ?_⟩
      · rw [hexpected] at hmem
        cases hmem
      · exact .inr (.inr (h.size size (by rwa [hexpected])))
    · rintro ⟨h, hsize⟩
      refine ⟨h.successful, h.range, h.ending, h.bounded, fun size hmem => ?_⟩
      rw [hexpected] at hmem
      rcases hsize size hmem with hpartial | hlength | hlast
      · exact absurd hpartial hdeclares.1
      · exact absurd hlength hdeclares.2
      · exact hlast

theorem or_eq_self_iff {a b : Option String} : a.or b = a ↔ b = none ∨ a.isSome := by
  cases a with
  | none => simp
  | some a => simp

/-- **From offset 0** a download records what a fresh one does if and only if the final response
says itself what is stored. -/
theorem record_fresh_iff (hoffset : st.offset = 0) (hmax : 1 ≤ target.maximumBytes) {n : ℕ} (hn : 22 ≤ n) :
    record (transfer env input (servedPorts allowed other) target n st w) =
        record (transfer env input (servedPorts allowed other) target n st.fresh w) ↔
      SaysItself env allowed target.maximumBytes st w.replies := by
  constructor
  · intro hsame response m hfinal hm hcomplete
    have hfresh : Records env allowed target.maximumBytes st.fresh w.replies (recordedOf st.fresh response m) :=
      ⟨response, m, hfinal, hm, hcomplete, rfl⟩
    have hrun : record (transfer env input (servedPorts allowed other) target n st.fresh w) = some _ :=
      (record_transfer st.fresh rfl hmax hn _).2 hfresh
    rw [← hsame, record_transfer st hoffset hmax hn] at hrun
    obtain ⟨response', m', hfinal', hm', hfits, heq⟩ := hrun
    obtain rfl := Option.some.inj (hfinal.symm.trans hfinal')
    obtain rfl := Except.ok.inj (hm.symm.trans hm')
    simp only [recordedOf, TransferState.fresh, Option.or_none, RecordedAsset.mk.injEq, Option.some.injEq, true_and] at heq
    obtain ⟨hvalidator, hetag, hmodified⟩ := heq
    exact ⟨(fits_iff.1 hfits).2, or_eq_self_iff.1 hvalidator.symm, or_eq_self_iff.1 hetag.symm,
      or_eq_self_iff.1 hmodified.symm⟩
  · intro hsays
    refine Option.ext fun x => ?_
    rw [record_transfer st hoffset hmax hn, record_transfer st.fresh rfl hmax hn]
    unfold Records
    refine exists_congr fun response => exists_congr fun m => ?_
    refine and_congr_right fun hfinal => and_congr_right fun hm => ?_
    have hsame : Complete target.maximumBytes response m → recordedOf st response m = recordedOf st.fresh response m := by
      intro hcomplete
      obtain ⟨-, hvalidator, hetag, hmodified⟩ := hsays response m hfinal hm hcomplete
      simp only [recordedOf, TransferState.fresh, Option.or_none, or_eq_self_iff.2 hvalidator, or_eq_self_iff.2 hetag,
        or_eq_self_iff.2 hmodified]
    constructor
    · rintro ⟨hfits, rfl⟩
      have hcomplete := (fits_iff.1 hfits).1
      exact ⟨hcomplete, hsame hcomplete⟩
    · rintro ⟨hcomplete, rfl⟩
      exact ⟨fits_iff.2 ⟨hcomplete, ( hsays response m hfinal hm hcomplete).1⟩, (hsame hcomplete).symm⟩

theorem record_eq_iff {α : Type} {m : Procedure Served DownloadThrown α} {x : Option RecordedAsset} :
    record (m w) = x ↔ wp m (fun _ t => t.saved.map (·.recorded) = x) (fun _ _ => none = x) (fun _ => none = x) w := by
  unfold record wp
  rcases m w with ⟨_ | _ | _, t⟩
  · exact Iff.rfl
  · exact Iff.rfl
  · exact Iff.rfl

/-- A response that ignores the range is read as one from offset 0 is. -/
theorem wp_handleIgnored {Q : TransferState ⊕ TransferState → Served → Prop} {R : DownloadThrown → Served → Prop}
    {N : Served → Prop} (hbefore : st.restarted = false) (hoffset : 0 < st.offset) (hstatus : response.status = 200)
    (permit : ℕ) :
    wp (handleResponse env input (servedPorts allowed other) target st permit response) Q R N w ↔
      wp (handleResponse env input (servedPorts allowed other) target
        { st with restarted := true, offset := 0, expectedBytes := none } permit response) Q R N w := by
  have hignored : ∀ contentType m, decideRange { st with contentType } response.status m = .ok .ignored := by
    intro contentType m
    unfold decideRange
    simp [hstatus, hoffset, hbefore]
  have hfollows : ∀ contentType m, decideRange { st with contentType, restarted := true, offset := 0, expectedBytes := none }
      response.status m = .ok (.follows none) := by
    intro contentType m
    rw [decideRange_start rfl, if_neg (by omega)]
  have hplain : isAssetRedirectStatus response.status = false := by
    rw [hstatus]
    decide
  have hrange : ¬response.status = 416 := by omega
  have hsuccessful : ¬(response.status < 200 ∨ 300 ≤ response.status) := by omega
  unfold handleResponse
  simp only [hplain, hrange, hsuccessful, Bool.false_eq_true, if_false]
  unfold handleSuccess restart truncatePartial
  simp only [wp_bind, wp_check, hignored, hfollows, Except.ok.injEq, reduceCtorEq, false_implies, implies_true, and_true,
    forall_eq', served_openFile, served_truncate, served_close, wp_pure]

/-- A download whose range is ignored records what it would from offset 0, of no expected size. -/
theorem record_ignored (hbefore : st.restarted = false) (hoffset : 0 < st.offset) (hstatus : response.status = 200)
    {rest : List (Except String AssetNetworkResponse)} (hreplies : w.replies = .ok response :: rest) {n : ℕ} (hn : 22 ≤ n) :
    record (transfer env input (servedPorts allowed other) target n st w) =
      record (transfer env input (servedPorts allowed other) target n
        { st with restarted := true, offset := 0, expectedBytes := none } w) := by
  obtain ⟨k, rfl⟩ : ∃ k, n = k + 1 := ⟨n - 1, by omega⟩
  have hround : ∀ {Q : TransferState ⊕ TransferState → Served → Prop} {R : DownloadThrown → Served → Prop}
      {N : Served → Prop}, wp (transferRound env input (servedPorts allowed other) target st) Q R N w ↔
        wp (transferRound env input (servedPorts allowed other) target
          { st with restarted := true, offset := 0, expectedBytes := none }) Q R N w := by
    intro Q R N
    rw [wp_round, wp_round]
    refine and_congr_right fun _ => imp_congr_right fun _ => and_congr_left fun _ => ?_
    refine forall_congr' fun origin => imp_congr_right fun _ => ?_
    rw [wp_sendRequest, wp_sendRequest, hreplies]
    exact wp_handleIgnored hbefore hoffset hstatus 0
  have hiff : ∀ x, record (transfer env input (servedPorts allowed other) target (k + 1) st w) = x ↔
      record (transfer env input (servedPorts allowed other) target (k + 1)
        { st with restarted := true, offset := 0, expectedBytes := none } w) = x := by
    intro x
    rw [record_eq_iff, record_eq_iff]
    unfold transfer
    rw [rounds, rounds, wp_bind, wp_bind]
    exact hround
  exact (hiff _).2 rfl

/-- **A restarted download records what a fresh download of the same responses does if and only if
the final response says itself what is stored.** -/
theorem restarted_fresh_iff {st' : TransferState} {w' : Served} (hmax : 1 ≤ target.maximumBytes) {n : ℕ} (hn : 22 ≤ n)
    (h : Restarts env allowed other input target st w st' w') :
    record (transfer env input (servedPorts allowed other) target n st w) =
        record (transfer env input (servedPorts allowed other) target n st'.fresh w') ↔
      SaysItself env allowed target.maximumBytes st' w'.replies := by
  cases h with
  | requested hbefore hafter hround =>
    have hoffset : st'.offset = 0 := by
      rcases transferRound_yields.apply hround st' rfl with ⟨-, -, hsame⟩ | ⟨-, -, -, hzero⟩
      · rw [hbefore, hafter] at hsame
        cases hsame
      · exact hzero
    have hrest : transfer env input (servedPorts allowed other) target n st w =
        transfer env input (servedPorts allowed other) target n st' w' := by
      obtain ⟨k, rfl⟩ : ∃ k, n = k + 1 := ⟨n - 1, by omega⟩
      have hleft : roundsLeft st' ≤ 20 := by
        unfold roundsLeft
        rw [hafter]
        simp
      have hstable : transfer env input (servedPorts allowed other) target k st' =
          transfer env input (servedPorts allowed other) target (k + 1) st' :=
        transfer_enough (by omega) (by omega)
      rw [← hstable]
      unfold transfer
      rw [rounds, bind_returned hround]
    rw [hrest]
    exact record_fresh_iff hoffset hmax hn
  | ignored hbefore hoffset hstatus hreplies =>
    rw [record_ignored hbefore hoffset hstatus hreplies hn]
    exact record_fresh_iff rfl hmax hn

end Restart

/-! ### An interrupted download -/

namespace Sample

/-- The URLs of one site, and the numbers of one digit. -/
def env : DownloadEnv where
  toEnv := OfflineWebArchiver.Sample.quickEnv
  unicode := { nfc := id, lower := List.map Char.toLower }
  parseUrl value :=
    some { protocol := "https:", username := "", password := "", searchParams := [], text := fun _ => value }
  originOf _ := some "https://a.test"
  resolveUrl location _ := some location
  integerOf text := match text.toList with
    | [c] => if c.isDigit then some (c.toNat - '0'.toNat : ℕ) else none
    | _ => none

/-- The calls around a transfer, which these runs do not get to. -/
def ports : DownloadPorts Served where
  aborted _ := false
  now _ := ""
  authorizeUrl _ := hang
  acquire _ := hang
  release _ w := w
  request _ := hang
  observeResponse _ := hang
  nextChunk := hang
  cancelBody := hang
  heartbeat := hang
  saveArtifactCheckpoint _ := hang
  saveCompletedOutputs _ _ _ := hang
  ensureAssetSource _ := hang
  beginAssetDownload _ := hang
  saveAssetProgress _ := hang
  assertAssetFinalizationOwnership _ := hang
  getAssetContent _ _ := hang
  finalizeAssetDownload _ := hang
  markAssetInterrupted _ := hang
  hashFile _ _ := hang
  preparePartial _ _ _ := hang
  exists_ _ := hang
  openFile _ := hang
  truncate _ := hang
  write _ _ _ _ := hang
  sync := hang
  close := hang
  promote _ _ := hang
  remove _ := hang
  acquireContentLock _ := hang
  releaseContentLock := hang

def input : AssetDownloadInput where
  asset :=
    { identity := { originalUrl := "https://a.test/a", normalizedUrl := "https://a.test/a", identityHash := "" }
      assetType := .binary, pageJobId := "j", projectId := "p", runId := "r", projectRevisionId := "v"
      relationKind := "image" }
  lease := { projectId := "p", runId := "r", jobId := "j", leaseToken := "t", fencingGeneration := 2, ownerId := "w" }
  reservation :=
    { workerId := "w", runId := "r", job := { jobId := "j", url := "https://a.test/" }, origin := "https://a.test"
      proxy := none, startedAtMs := 0, halfOpenProbe := false }
  recovery := false
  maximumBytes := none
  checkpointIntervalBytes := none
  operationId := "o"

def target : TransferTarget where
  assetSourceId := "s"
  partialRelativePath := "temp/assets/s.2.part"
  maximumBytes := 1000
  checkpointInterval := 1000

/-- Five bytes of ten are stored. -/
def interrupted : TransferState where
  offset := 5
  expectedBytes := some 10
  validator := some "v1"
  etag := some "v1"
  lastModified := none
  contentType := none
  finalUrl := "https://a.test/a"
  redirectChain := []
  statusCode := 200
  restarted := false
  checkpointAt := 5

def response (status : ℤ) (chunks : List Chunk) : AssetNetworkResponse where
  status := status
  headers := []
  chunks := chunks
  ending := .returned ()

/-- The asset has three bytes by now, and the server does not write its size. -/
def server : Served where
  replies := [.ok (response 416 []), .ok (response 200 [[1, 2, 3]])]
  saved := none

/-- The server after the range. -/
def restartedServer : Served := { server with replies := [.ok (response 200 [[1, 2, 3]])] }

def restartedState : TransferState := { interrupted with offset := 0, restarted := true }

theorem restarts : Restarts env (fun _ => true) ports input target interrupted server restartedState restartedServer :=
  .requested rfl rfl rfl

/-- **The size of the earlier representation rejects a complete response**: a restarted download
does not record what a fresh one does. -/
theorem stale_size_rejects : Restarts env (fun _ => true) ports input target interrupted server restartedState
      restartedServer ∧
    record (transfer env input (servedPorts (fun _ => true) ports) target 22 interrupted server) = none ∧
    record (transfer env input (servedPorts (fun _ => true) ports) target 22 restartedState.fresh restartedServer) =
      some ⟨3, none, some none, some none⟩ :=
  ⟨restarts, rfl, rfl⟩

/-- The restarted download of `interrupted`, as the condition decides it. -/
theorem interrupted_restarts :
    record (transfer env input (servedPorts (fun _ => true) ports) target 22 interrupted server) =
        record (transfer env input (servedPorts (fun _ => true) ports) target 22 restartedState.fresh restartedServer) ↔
      SaysItself env (fun _ => true) 1000 restartedState restartedServer.replies :=
  restarted_fresh_iff (by decide) (by decide) restarts

end Sample

end OfflineWebArchiver.Assets
