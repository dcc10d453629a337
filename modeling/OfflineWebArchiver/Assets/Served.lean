import OfflineWebArchiver.Assets.Transfer

/-!
# A download from a server

The transfer against a server whose replies are given, with a store that takes what it is given:
so the outcome depends on the replies and on what the download starts with.

* `servedPorts`: the ports of the transfer.
* `finalResponse`: the first reply that is not a redirect, when the redirects before it can be
  followed.
* `complete`: a response that a download from the start can accept.
-/

namespace OfflineWebArchiver.Assets

open Procedure Checks

/-- The replies that are still to come, and the progress that was saved last. A reply is a failed
request or a response; after the last the server is silent. -/
structure Served where
  replies : List (Except String AssetNetworkResponse)
  saved : Option SaveProgressInput

/-- `network.request`. -/
def serve : Procedure Served DownloadThrown AssetNetworkResponse := fun w =>
  match w.replies with
  | [] => (.pending, w)
  | .error message :: rest => (.threw (.error message), { w with replies := rest })
  | .ok response :: rest => (.returned response, { w with replies := rest })

/-- The ports of a transfer from this server. `other` are those of the rest of a download. -/
def servedPorts (allowed : String → Bool) (other : DownloadPorts Served) : DownloadPorts Served :=
  { other with
    aborted := fun _ => false
    authorizeUrl := fun url => pure ⟨allowed url, none⟩
    acquire := fun _ => pure 0
    release := fun _ w => w
    request := fun _ => serve
    observeResponse := fun _ => pure ()
    nextChunk := pure ()
    cancelBody := pure ()
    heartbeat := pure ()
    saveArtifactCheckpoint := fun _ => pure ()
    saveAssetProgress := fun progress => Procedure.modify fun w => { w with saved := some progress }
    openFile := fun _ => pure ()
    truncate := fun _ => pure ()
    write := fun _ _ length _ => pure length
    sync := pure ()
    close := pure () }

section

variable (allowed : String → Bool) (other : DownloadPorts Served)

@[simp] theorem served_authorizeUrl (url : String) :
    (servedPorts allowed other).authorizeUrl url = pure ⟨allowed url, none⟩ := rfl

@[simp] theorem served_acquire (origin : String) : (servedPorts allowed other).acquire origin = pure 0 := rfl

@[simp] theorem served_release (permit : ℕ) (w : Served) : (servedPorts allowed other).release permit w = w := rfl

@[simp] theorem served_request (request : AssetNetworkRequest) :
    (servedPorts allowed other).request request = serve := rfl

@[simp] theorem served_observeResponse (observed : Scheduler.OriginResponseObservation) :
    (servedPorts allowed other).observeResponse observed = pure () := rfl

@[simp] theorem served_nextChunk : (servedPorts allowed other).nextChunk = pure () := rfl

@[simp] theorem served_saveArtifactCheckpoint (c : ArtifactCheckpoint) :
    (servedPorts allowed other).saveArtifactCheckpoint c = pure () := rfl

@[simp] theorem served_saveAssetProgress (progress : SaveProgressInput) :
    (servedPorts allowed other).saveAssetProgress progress =
      Procedure.modify fun w => { w with saved := some progress } := rfl

@[simp] theorem served_openFile (path : String) : (servedPorts allowed other).openFile path = pure () := rfl

@[simp] theorem served_truncate (length : ℤ) : (servedPorts allowed other).truncate length = pure () := rfl

@[simp] theorem served_write (bytes : Chunk) (bufferOffset length position : ℤ) :
    (servedPorts allowed other).write bytes bufferOffset length position = pure length := rfl

@[simp] theorem served_sync : (servedPorts allowed other).sync = pure () := rfl

@[simp] theorem served_close : (servedPorts allowed other).close = pure () := rfl

end

/-- What a transfer has recorded: the size and the validators. -/
structure RecordedAsset where
  bytesWritten : ℤ
  validator : Option String
  etag : Nullish String
  lastModified : Nullish String
  deriving DecidableEq

def SaveProgressInput.recorded (i : SaveProgressInput) : RecordedAsset :=
  ⟨i.bytesWritten, i.validator, i.etag, i.lastModified⟩

/-- What is recorded of the bytes that a transfer has accepted. -/
def record {α : Type} (run : Result DownloadThrown α × Served) : Option RecordedAsset :=
  match run.1 with
  | .returned _ => run.2.saved.map (·.recorded)
  | _ => none

variable (env : DownloadEnv) (allowed : String → Bool)

/-- The URL that a redirect leads to. -/
def redirectTarget (url : String) (chain : List String) (response : AssetNetworkResponse) : Option String :=
  match response.ending, header env response.headers "location" with
  | .returned (), some location =>
    if 20 ≤ chain.length then none
    else
      match (env.resolveUrl location url).map (safeUrl env.toAssetEnv) with
      | some (.ok nextUrl) => if allowed nextUrl then some nextUrl else none
      | _ => none
  | _, _ => none

/-- The response after the redirects, for a download that has come to `url` by `chain`. -/
def finalResponse : String → List String → List (Except String AssetNetworkResponse) → Option AssetNetworkResponse
  | url, chain, .ok response :: rest =>
    if allowed url = true ∧ (env.originOf url).isSome then
      if isAssetRedirectStatus response.status then
        match redirectTarget env allowed url chain response with
        | some nextUrl => finalResponse nextUrl (chain ++ [url]) rest
        | none => none
      else some response
    else none
  | _, _, _ => none

/-- The bytes of a body. -/
def bodyLength (chunks : List Chunk) : ℤ := (chunks.map fun chunk => (chunk.length : ℤ)).sum

/-- What a response of the status declares, when `stored` bytes are expected before. -/
def expectedSize (stored : Option ℤ) (status : ℤ) (m : ResponseMetadata) : Option ℤ :=
  declaredBytes 0 (if status = 206 then m.contentRange.bind (·.total) else stored) status m

/-- A successful response with its whole body. When `stored` bytes are expected of a response that
declares no size, it has as many. -/
structure Fits (maximumBytes : ℤ) (stored : Option ℤ) (response : AssetNetworkResponse) (m : ResponseMetadata) :
    Prop where
  successful : 200 ≤ response.status ∧ response.status < 300
  range : response.status = 206 → ∃ range, m.contentRange = some range ∧ range.start = 0
  ending : response.ending = .returned ()
  bounded : bodyLength response.chunks ≤ maximumBytes
  size : ∀ size ∈ expectedSize stored response.status m, size = bodyLength response.chunks

/-- **A complete, correct response**: it is well formed, ends, and has the size that it declares. -/
abbrev Complete (maximumBytes : ℤ) (response : AssetNetworkResponse) (m : ResponseMetadata) : Prop :=
  Fits maximumBytes none response m

end OfflineWebArchiver.Assets
