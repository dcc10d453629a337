import OfflineWebArchiver.Lib.Sha256
import OfflineWebArchiver.Persistence.Step

/-!
# A small project

One project with one run, and its calls with everything but what matters fixed. The
runs that refute a property of the store are written with it.
-/

namespace OfflineWebArchiver.Sample

def env : Env where
  sha256 := Sha256.digest
  validateCanonicalRelativePath := .ok

/-- `env`, with digests that reduce quickly. -/
def quickEnv : Env := { env with sha256 := fun bytes => String.ofList (Sha256.digestChars bytes) }

/-- Runs of `env` are evaluated as runs of `quickEnv`. -/
theorem env_eq : env = quickEnv := by
  have hsha : Sha256.digest = fun bytes => String.ofList (Sha256.digestChars bytes) :=
    funext Sha256.digest_eq
  unfold quickEnv env
  rw [hsha]

def project : Project where
  projectId := "p"
  runs := ["r"]
  runsNodup := by decide
  projectRevisions := ["rev"]
  profiles := [⟨"prof", "prev", 1⟩]

/-- Noon of the first of January 2026, and `m` minutes later. -/
def minute (m : ℕ) : Timestamp :=
  "2026-01-01T12:" ++ String.ofList [Nat.digitChar (m / 10), Nat.digitChar (m % 10)] ++ ":00.000Z"

/-- A call at minute `m`, whose fresh ids begin with `name`. -/
def event (m : ℕ) (name : String) (op : Op) : Event where
  op := op
  clock _ := minute m
  ids n := name ++ String.ofList [Nat.digitChar n]

/-- 64 times the same digit. -/
def digits (c : Char) : String := String.ofList (List.replicate 64 c)

/-- Enqueue the page whose identity hash repeats `c`. -/
def enqueue (c : Char) (maxAttempts : ℤ) (key : String) : Op := .enqueue
  { projectId := "p", runId := "r", projectRevisionId := "rev"
    scopeDecision :=
      { decisionId := digits 'd', engineVersion := 1, profileId := "prof", profileRevisionId := "prev"
        eligible := true, shouldQueue := true, reasonCodes := [], normalizedUrl := some "u"
        identityUrl := some "u", identityHash := some (digits c), displayUrl := some "u", depth := 0
        matchedRuleIds := [] }
    sourceContext :=
      { parentJobId := none, safeSourceUrl := none, discoveryType := .seed, sourceDepth := none }
    requestedPriority := none, maxAttempts, maxPages := none, idempotencyKey := key
    operationId := key, correlationId := key }

def claimNext (key : String) : Op := .claimNext
  { projectId := "p", runId := "r", claimedBy := "w", idempotencyKey := key, operationId := key
    correlationId := key }

/-- A lease for five seconds. -/
def claimWithLease (ownerId key : String) : Op := .claimNextWithLease
  { projectId := "p", runId := "r", ownerId, leaseDurationMs := 5000, idempotencyKey := key
    operationId := key, correlationId := key }

def recover (m : ℕ) (key : String) : Op := .recover
  { projectId := "p", runId := "r", evaluationTime := minute m, limit := 10
    confirmation := "APPLY-RECOVERY", idempotencyKey := key, operationId := key, correlationId := key }

def complete (jobId claimToken key : String) (m : ℕ) : Op := .complete
  { projectId := "p", runId := "r", jobId, claimToken, completionKey := key
    resultSummary := .queueTest none none, completedAt := minute m, idempotencyKey := key
    operationId := key, correlationId := key }

/-- What a lease holder presents. -/
def holder (jobId leaseToken : String) (fencingGeneration : ℕ) (ownerId operationId : String) :
    LeaseHolder :=
  ⟨"p", "r", jobId, leaseToken, fencingGeneration, ownerId, operationId⟩

def requestPause (key : String) : Op := .requestPause ⟨"p", "r", key⟩

def acknowledgePause (h : LeaseHolder) : Op := .acknowledgePause ⟨h, h.operationId⟩

def resumeRun (key : String) : Op := .resumeRun ⟨"p", "r", key, key⟩

def setRunState (state : CrawlRunState) (key : String) : Op := .setRunState ⟨"p", "r", state, key, key⟩

end OfflineWebArchiver.Sample
