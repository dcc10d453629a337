import OfflineWebArchiver.Archive.Sample
import OfflineWebArchiver.Lib.Sha256
import OfflineWebArchiver.Replay.Handlers
import OfflineWebArchiver.Replay.Headers

/-!
# Sample requests

The platform on plain ASCII requests, and one policy.
-/

namespace OfflineWebArchiver.Replay.Sample

/-- The parameters of a query without percent escapes. -/
def parameters (search : JsString) : Headers :=
  if search.length ≤ 1 then []
  else ((search.drop 1).splitOn '&').map fun p => (p.takeWhile (· != '='), (p.dropWhile (· != '=')).drop 1)

/-- The query of parameters that need no escapes. -/
def searchText (query : Headers) : JsString :=
  if query = [] then [] else '?' :: List.intercalate ['&'] (query.map fun p => p.1 ++ '=' :: p.2)

def parseUrl (value : JsString) : Option ParsedUrl :=
  (OfflineWebArchiver.Sample.parseUrl value).map fun url =>
    { protocol := url.protocol
      username := url.username
      password := url.password
      origin := url.origin
      base := url.origin ++ url.pathname
      query := parameters url.search }

/-- ASCII bytes as text. -/
def decodeText (bytes : List UInt8) : JsString := bytes.map fun b => Char.ofNat b.toNat

def env : ReplayEnv where
  unicode := OfflineWebArchiver.Sample.ascii
  parseUrl := parseUrl
  searchText := searchText
  decodeText := decodeText
  sha256 := Sha256.digestChars

theorem toLower_of_isLower {c : Char} (h : c.isLower = true) : c.toLower = c := by
  unfold Char.isLower at h
  unfold Char.toLower
  rw [dif_neg]
  rintro ⟨-, hle⟩
  simp only [Bool.and_eq_true, decide_eq_true_eq] at h
  exact absurd (UInt32.le_trans h.1 hle) (by decide)

theorem keepsLowerCase : KeepsLowerCase env.unicode := by
  intro s hs
  refine (List.map_congr_left fun c hc => ?_).trans (List.map_id s)
  rcases hs c hc with hlower | rfl
  · exact toLower_of_isLower hlower
  · rfl

def policy : NetworkReplayPolicy where
  projectId := "p".toList
  runId := "r".toList
  projectRevisionId := "v".toList
  runtimeOrigin := "http://127.0.0.1:1".toList
  strictOffline := true

def request (method url : String) : BrowserRequest where
  method := method.toList
  url := url.toList
  headers := []
  resourceType := "fetch".toList

/-- Nothing is stored. -/
def ports : ReplayPorts where
  lookup _ := some (.miss .noCapture)
  readBody _ := none
  fulfils _ := true

def quiet : Listener := ⟨fun _ => false, none, fun _ => "2026-01-01T12:00:00.000Z"⟩

/-- `onEvent` throws. -/
def throwing : Listener := { quiet with throws := fun _ => true }

/-- A captured response with an empty JSON body. -/
def response (url : String) (status : ℤ) : ReplayCaptureInput where
  projectId := "p".toList
  runId := "r".toList
  projectRevisionId := "v".toList
  originalUrl := url.toList
  method := "GET".toList
  url := url.toList
  requestHeaders := []
  status := status
  responseHeaders := [("content-type".toList, "application/json".toList)]
  contentType := "application/json".toList
  body := []
  capturedAt := "2026-01-01T12:00:00.000Z".toList
  pageId := none
  workerId := none
  ignoredKeys := []

end OfflineWebArchiver.Replay.Sample
