import Mathlib.Logic.Function.Basic

/-!
# Projects behind the application service

The service keeps one project open at a time and one secret store for each project it has
used. A handler turns to them by accesses; what it does between two of them is left open
(`Body`), so that every handler of the source is one.

* `World.perform`: an access, with the path check of the profile operations and without a
  check elsewhere.
* `World.withOpenProject`, `World.withSessionProject`: the two wrappers.

Paths are compared after `path.resolve`; `secretStoreKey` then drops the case of letters.
A lookup counts as touching a project whatever it finds there.
-/

namespace OfflineWebArchiver.Service

abbrev Path := String

/-- What `storage.getCurrent()` returns. -/
structure Summary where
  projectPath : Path
  projectId : String
  runId : String
deriving DecidableEq

inductive Failure
  | PROJECT_NOT_OPEN
  | SESSION_PROJECT_MISMATCH
  | SESSION_STATE_CONFLICT
  | QUEUE_RUN_NOT_FOUND
  | BROWSER_BUSY
  | INTERACTION_BROWSER_FAILED
  | INTERACTION_PLAN_INVALID
  | ELEMENT_PICKER_NOT_ACTIVE
  | PROXY_SECRET_INVALID
  /-- Thrown by an operation of the storage or a secret store, or by a parser. -/
  | thrown (code : String)
deriving DecidableEq

/-- The operations that compare the path they are given with the open project. -/
inductive ProfileOperation
  | createProfile | getProfile | updateProfile | validateStoredProfile | compareProfiles
deriving DecidableEq

/-- The operations that run on whatever project is open. -/
inductive Operation
  | getRenderStatus | getRenderResult | listRenderEvents | recordRenderEvent
  | commitRenderResult | recordRenderFailure
  | getInteractionProfile | saveInteractionTrace | getInteractionTrace | listInteractionTraces
  | createSession | getSession | listSessions | updateSession | deleteSession
  | createProxy | getProxy | listProxies | updateProxy | deleteProxy | importProxies
  | enqueue | enqueueBatch | hasIdentity | countIdentities | complete | fail | scheduleRetry
  | releaseDueRetries | skip | block | get | list | getStatistics | getHistory | clearPending
  | claimNextWithLease | claimJobWithLease | heartbeatLease | renewLease | releaseLease
  | listLeases | getLease | saveJobCheckpoint | getLatestJobCheckpoint | listJobCheckpoints
  | saveArtifactCheckpoint | validateArtifactCheckpoint | saveCompletedOutputs
  | inspectRecovery | recover | getRecoveryReport
  | requestPause | getPauseStatus | acknowledgePause | resumeRun | getRunControlState
  | getRunState | setRunState
deriving DecidableEq

inductive SecretOperation
  | getBackendStatus | getCapability | listSecretMetadata | getSecretMetadata | hasSecret
  | createSecret | replaceSecret | deleteSecret | withSecret | lock
deriving DecidableEq

/-- An access, with its arguments. -/
inductive Access (ν : Type)
  /-- A profile operation, with the path that the command names. -/
  | named (operation : ProfileOperation) (arguments : ν)
  | opened (operation : Operation) (arguments : ν)
  /-- An operation of the secret store of the open project. -/
  | secret (operation : SecretOperation) (arguments : ν)

/-- What a handler does: it settles, or makes an access and goes on with its outcome. -/
inductive Body (ν : Type)
  | settle (result : Except Failure ν)
  | access (a : Access ν) (next : Except Failure ν → Body ν)

/-- The handler never turns to a secret store. -/
def Body.SecretFree {ν : Type} : Body ν → Prop
  | .settle _ => True
  | .access (.secret _ _) _ => False
  | .access (.named _ _) next => ∀ r, (next r).SecretFree
  | .access (.opened _ _) next => ∀ r, (next r).SecretFree

/-- A session with an open authentication browser. -/
structure ActiveAuthentication where
  sessionId : String
  projectPath : Path
  /-- The browser has the interaction capability. -/
  interaction : Bool
deriving DecidableEq

/-- What the service keeps in memory. -/
structure Memory where
  current : Option Summary
  /-- The kept secret stores: the project each was created for, by key. -/
  secretStores : String → Option Path
  activeRenders : List String
  activeInteractions : List String
  activeAuthentications : List ActiveAuthentication
  /-- An interaction plan provider is configured. -/
  planProvider : Bool

/-- `activeAuthentications.get(sessionId)` -/
def Memory.activeAuthenticationFor (m : Memory) (sessionId : String) : Option ActiveAuthentication :=
  m.activeAuthentications.find? (·.sessionId = sessionId)

/-- The service and all projects: `content` is the database and the files of the project at
a path, `vault` its secret store. `touched` records the projects that a command turns to. -/
structure World (α β : Type) where
  memory : Memory
  content : Path → α
  vault : Path → β
  touched : List Path

/-- The storage and the secret stores. -/
structure Storage (α β ν : Type) where
  /-- `storage.open`: the ids of the opened project and its new content. -/
  opening : α → Except Failure (String × String) × α
  /-- `storage.close`: the project is closed also where this fails. -/
  closing : α → Except Failure Unit × α
  profileOperation : ProfileOperation → ν → α → Except Failure ν × α
  operation : Operation → ν → α → Except Failure ν × α
  secretOperation : SecretOperation → ν → β → Except Failure ν × β
  lock : β → Except Failure Unit × β

/-- The key of a project's secret store; the paths of two projects may share it. -/
def secretStoreKey (toLowerCase : String → String) (projectPath : Path) : String :=
  toLowerCase projectPath

variable {α β ν : Type} (toLowerCase : String → String) (S : Storage α β ν)

namespace World

variable (w : World α β)

/-- Run `f` on the content of a project. -/
def onContent {γ : Type} (path : Path) (f : α → Except Failure γ × α) : Except Failure γ × World α β :=
  ((f (w.content path)).1,
   { w with content := Function.update w.content path (f (w.content path)).2
            touched := path :: w.touched })

/-- Run `f` on the secret store of a project. -/
def onVault {γ : Type} (path : Path) (f : β → Except Failure γ × β) : Except Failure γ × World α β :=
  ((f (w.vault path)).1,
   { w with vault := Function.update w.vault path (f (w.vault path)).2
            touched := path :: w.touched })

def setCurrent (current : Option Summary) : World α β :=
  { w with memory := { w.memory with current } }

/-- The project whose store `getOrCreateSecretStore` returns. -/
def secretStore (projectPath : Path) : Path :=
  (w.memory.secretStores (secretStoreKey toLowerCase projectPath)).getD projectPath

/-- Keep the store that `getOrCreateSecretStore` returns. -/
def keepStore (projectPath : Path) : World α β :=
  { w with memory := { w.memory with
      secretStores := Function.update w.memory.secretStores (secretStoreKey toLowerCase projectPath)
        (some (w.secretStore toLowerCase projectPath)) } }

/-- One access of a handler whose command names `projectPath`. -/
def perform (projectPath : Path) : Access ν → Except Failure ν × World α β
  | .named o v =>
    match w.memory.current with
    | some project =>
      if project.projectPath = projectPath then w.onContent projectPath (S.profileOperation o v)
      else (.error .PROJECT_NOT_OPEN, w)
    | none => (.error .PROJECT_NOT_OPEN, w)
  | .opened o v =>
    match w.memory.current with
    | some project => w.onContent project.projectPath (S.operation o v)
    | none => (.error .PROJECT_NOT_OPEN, w)
  | .secret o v =>
    match w.memory.current with
    | some project =>
      (w.keepStore toLowerCase project.projectPath).onVault
        (w.secretStore toLowerCase project.projectPath) (S.secretOperation o v)
    | none => (.error .PROJECT_NOT_OPEN, w)

/-- Run a handler. -/
def run (projectPath : Path) : Body ν → World α β → Except Failure ν × World α β
  | .settle r, w => (r, w)
  | .access a next, w =>
    run projectPath (next (w.perform toLowerCase S projectPath a).1)
      (w.perform toLowerCase S projectPath a).2

/-- `storage.open` with no project open. -/
def openProject (projectPath : Path) : Except Failure Summary × World α β :=
  match w.onContent projectPath S.opening with
  | (.ok (projectId, runId), w) =>
    (.ok { projectPath, projectId, runId }, w.setCurrent (some { projectPath, projectId, runId }))
  | (.error e, w) => (.error e, w)

def closeProject : Except Failure Unit × World α β :=
  match w.memory.current with
  | some project => (w.setCurrent none).onContent project.projectPath S.closing
  | none => (.error .PROJECT_NOT_OPEN, w)

/-- `secretStores.get(secretStoreKey(projectPath))?.lock()` -/
def lockSecretStore (projectPath : Path) : Except Failure Unit × World α β :=
  match w.memory.secretStores (secretStoreKey toLowerCase projectPath) with
  | some path => w.onVault path S.lock
  | none => (.ok (), w)

/-- Lock the secret store, then close; a lock that fails leaves the project open. -/
def lockAndClose (projectPath : Path) : Except Failure Unit × World α β :=
  match w.lockSecretStore toLowerCase S projectPath with
  | (.ok (), w) => w.closeProject S
  | (.error e, w) => (.error e, w)

/-- The result of a `finally` block that ended with `last`. -/
def finallyResult (result : Except Failure ν) (last : Except Failure Unit) : Except Failure ν :=
  match last with
  | .ok () => result
  | .error e => .error e

def withOpenProject (projectPath : Path) (operation : Summary → Body ν) :
    Except Failure ν × World α β :=
  match w.memory.current with
  | some project => run toLowerCase S projectPath (operation project) w
  | none =>
    match w.openProject S projectPath with
    | (.error e, w) => (.error e, w)
    | (.ok project, w) =>
      let ran := run toLowerCase S projectPath (operation project) w
      let last := ran.2.lockAndClose toLowerCase S projectPath
      (finallyResult ran.1 last.1, last.2)

/-- What `withSessionProject` does after an operation on a project it has opened. -/
def afterSession (projectPath : Path) (keepOpen : Bool) (ran : Except Failure ν × World α β) :
    Except Failure ν × World α β :=
  if keepOpen then
    match ran.1 with
    | .ok v => (.ok v, ran.2)
    -- both failures are swallowed here, so the project is closed also if the lock fails
    | .error e => (.error e, ((ran.2.lockSecretStore toLowerCase S projectPath).2.closeProject S).2)
  else
    let last := ran.2.lockAndClose toLowerCase S projectPath
    (finallyResult ran.1 last.1, last.2)

def withSessionProject (projectPath : Path) (keepOpen : Bool) (operation : Summary → Body ν) :
    Except Failure ν × World α β :=
  match w.memory.current with
  | some project =>
    if project.projectPath ≠ projectPath then (.error .SESSION_PROJECT_MISMATCH, w)
    else run toLowerCase S projectPath (operation project) w
  | none =>
    match w.openProject S projectPath with
    | (.error e, w) => (.error e, w)
    | (.ok project, w) =>
      afterSession toLowerCase S projectPath keepOpen (run toLowerCase S projectPath (operation project) w)

end World

end OfflineWebArchiver.Service

/-!
## The commands of the application service

The commands that name a project and run through `withOpenProject` or `withSessionProject`.
For each one this module has what its handler does up to its first access; what follows is
an arbitrary `Body` (`Handlers.rest`, `Handlers.session`), free of secrets where the source
uses no secret store.

* `Command.firstStep`: the checks of a handler and its first access.
* `execute`: a command, from the checks before its wrapper to the result of the wrapper.
-/

namespace OfflineWebArchiver.Service

inductive CommandType
  | renderStart | renderGetStatus | renderGetResult | renderGetEvents | renderCancel
  | interactionProfileGet | interactionProfileValidate | interactionPlanValidate | interactionRun
  | interactionTraceList | interactionTraceInspect
  | secretBackendStatus | secretList | secretVaultLock | secretDelete
  | sessionOpen | sessionReauthenticate | sessionSave | sessionGet | sessionList | sessionValidate
  | sessionRestore | sessionDelete | sessionSetProxyAffinity
  | otpStart | otpProvide | otpResend | otpCancel | otpStatus
  | proxyCreate | proxyGet | proxyList | proxyUpdate | proxyEnable | proxyDisable | proxyDelete
  | proxyImport | proxyTest | proxyEligibility
  | profileCreate | profileGet | profileUpdate | profileValidate | profileCompare
  | scopeEvaluate | scopeExplain | scopePreviewNormalization | scopeEvaluateBatch
  | queueEnqueue | queueEnqueueBatch | queueClaimNext | queueComplete | queueFail
  | queueScheduleRetry | queueReleaseDueRetries | queueSkip | queueBlock | queueGet | queueList
  | queueGetStatistics | queueGetHistory | queueClearPending
  | recoveryInspect | recoveryRecover | recoveryGetReport | recoveryHeartbeat
  | recoveryRenewLease | recoveryReleaseLease
  | checkpointSave | checkpointGetLatest | checkpointList
  | artifactCheckpointSave | artifactCheckpointValidate
  | runRequestPause | runGetPauseStatus | runAcknowledgePause | runResume | runGetControlState
  | leaseList | leaseShow
deriving DecidableEq

/-- The wrapper of a command; a session wrapper with its `keepOpen`. -/
inductive Wrapper
  | openProject
  | sessionProject (keepOpen : Bool)
deriving DecidableEq

def CommandType.wrapper : CommandType → Wrapper
  | .sessionOpen | .sessionReauthenticate | .sessionSave
  | .otpStart | .otpProvide | .otpResend | .otpCancel | .otpStatus => .sessionProject true
  | .sessionGet | .sessionList | .sessionValidate | .sessionRestore | .sessionDelete
  | .sessionSetProxyAffinity => .sessionProject false
  | _ => .openProject

example : CommandType.profileUpdate.wrapper = .openProject := by decide

/-- A parsed secret reference. -/
structure SecretRef where
  projectId : String
  serialized : String
deriving DecidableEq

/-- What the pure functions that handlers call on the payload make of it. -/
structure Parsed where
  /-- `renderPolicy` throws. -/
  renderPolicy : Option Failure
  /-- The payload of `interaction.profile.validate` has a profile. -/
  profileGiven : Bool
  /-- `createDefaultSiteProfileDraft` or `parseLoginFlow` throws. -/
  profileDraft : Option Failure
  /-- `parseSecretRef(command.payload.ref)` throws. -/
  secretRef : Option Failure
  /-- `parseProxyImport` throws. -/
  proxyImport : Option Failure
  /-- The `credentialRef` of a proxy draft: undefined, null or a reference, or it is invalid. -/
  credentialRef : Except Failure (Option (Option SecretRef))
  /-- The credential of a proxy command, and whether `normalizeProxyCredential` rejects it. -/
  credential : Option (Option Failure)
  /-- `buildMetadata` throws. -/
  metadata : Option Failure

structure Command where
  commandType : CommandType
  projectPath : Path
  runId : String
  jobId : String
  sessionId : String
  parsed : Parsed

/-- How a handler starts. -/
inductive First
  | throws (e : Failure)
  /-- It settles without an access. -/
  | returns
  | accesses (a : Access Unit)

/-- Go on unless the check throws. -/
def First.unless (check : Option Failure) (first : First) : First :=
  match check with
  | some e => .throws e
  | none => first

namespace Command

variable (toLowerCase : String → String) (c : Command) (project : Summary)

/-- The check of `assertProxySecretReference` before its access. -/
def proxySecretReference (ref : SecretRef) : Except Failure (Option SecretOperation) :=
  if ref.projectId ≠ toLowerCase project.projectId then .error .PROXY_SECRET_INVALID
  else .ok (some .getSecretMetadata)

/-- The access of `acquireCredential`, if it makes one. -/
def acquireCredential : Except Failure (Option SecretOperation) :=
  match c.parsed.credentialRef, c.parsed.credential with
  | .error e, _ => .error e
  | .ok (some (some _)), some _ => .error .PROXY_SECRET_INVALID
  | .ok _, some (some e) => .error e
  | .ok _, some none => .ok (some .createSecret)
  | .ok (some (some ref)), none => proxySecretReference toLowerCase project ref
  | .ok _, none => .ok none

/-- `proxy.create`: the credential, then the metadata, then the row. -/
def createProxyFirst : First :=
  match c.acquireCredential toLowerCase project with
  | .error e => .throws e
  | .ok (some o) => .accesses (.secret o ())
  | .ok none => .unless c.parsed.metadata (.accesses (.opened .createProxy ()))

/-- The checks of a handler under `withOpenProject` and its first access. -/
def firstStep (m : Memory) : First :=
  match c.commandType with
  | .renderStart =>
    if project.runId ≠ c.runId then .throws .QUEUE_RUN_NOT_FOUND
    else if c.jobId ∈ m.activeRenders then .throws .BROWSER_BUSY
    else .unless c.parsed.renderPolicy (.accesses (.named .getProfile ()))
  | .renderGetStatus | .renderCancel => .accesses (.opened .getRenderStatus ())
  | .renderGetResult => .accesses (.opened .getRenderResult ())
  | .renderGetEvents => .accesses (.opened .listRenderEvents ())
  | .interactionProfileGet => .accesses (.opened .getInteractionProfile ())
  | .interactionProfileValidate =>
    if c.parsed.profileGiven then .returns else .accesses (.opened .getInteractionProfile ())
  | .interactionPlanValidate => .returns
  | .interactionRun =>
    if project.runId ≠ c.runId then .throws .QUEUE_RUN_NOT_FOUND
    else if c.jobId ∈ m.activeInteractions then .throws .INTERACTION_BROWSER_FAILED
    else if !m.planProvider then .throws .INTERACTION_PLAN_INVALID
    else .accesses (.opened .getInteractionProfile ())
  | .interactionTraceList => .accesses (.opened .listInteractionTraces ())
  | .interactionTraceInspect => .accesses (.opened .getInteractionTrace ())
  | .secretBackendStatus => .accesses (.secret .getBackendStatus ())
  | .secretList => .accesses (.secret .listSecretMetadata ())
  | .secretVaultLock => .accesses (.secret .lock ())
  | .secretDelete => .unless c.parsed.secretRef (.accesses (.secret .deleteSecret ()))
  | .proxyCreate => c.createProxyFirst toLowerCase project
  | .proxyList => .accesses (.opened .listProxies ())
  | .proxyImport => .unless c.parsed.proxyImport (.accesses (.opened .listProxies ()))
  | .proxyGet | .proxyUpdate | .proxyEnable | .proxyDisable | .proxyDelete | .proxyTest
  | .proxyEligibility => .accesses (.opened .getProxy ())
  | .profileCreate => .unless c.parsed.profileDraft (.accesses (.named .createProfile ()))
  | .profileGet => .accesses (.named .getProfile ())
  | .profileUpdate => .unless c.parsed.profileDraft (.accesses (.named .updateProfile ()))
  | .profileValidate => .accesses (.named .validateStoredProfile ())
  | .profileCompare => .accesses (.named .compareProfiles ())
  | .scopeEvaluate | .scopeExplain | .scopePreviewNormalization | .scopeEvaluateBatch
  | .queueEnqueue | .queueEnqueueBatch => .accesses (.named .getProfile ())
  | .queueClaimNext => .accesses (.opened .claimNextWithLease ())
  | .queueComplete | .queueFail | .queueGet => .accesses (.opened .get ())
  | .queueScheduleRetry => .accesses (.opened .scheduleRetry ())
  | .queueReleaseDueRetries => .accesses (.opened .releaseDueRetries ())
  | .queueSkip => .accesses (.opened .skip ())
  | .queueBlock => .accesses (.opened .block ())
  | .queueList => .accesses (.opened .list ())
  | .queueGetStatistics => .accesses (.opened .getStatistics ())
  | .queueGetHistory => .accesses (.opened .getHistory ())
  | .queueClearPending => .accesses (.opened .clearPending ())
  | .recoveryInspect => .accesses (.opened .inspectRecovery ())
  | .recoveryRecover => .accesses (.opened .recover ())
  | .recoveryGetReport => .accesses (.opened .getRecoveryReport ())
  | .recoveryHeartbeat => .accesses (.opened .heartbeatLease ())
  | .recoveryRenewLease => .accesses (.opened .renewLease ())
  | .recoveryReleaseLease => .accesses (.opened .releaseLease ())
  | .checkpointSave => .accesses (.opened .saveJobCheckpoint ())
  | .checkpointGetLatest => .accesses (.opened .getLatestJobCheckpoint ())
  | .checkpointList => .accesses (.opened .listJobCheckpoints ())
  | .artifactCheckpointSave => .accesses (.opened .saveArtifactCheckpoint ())
  | .artifactCheckpointValidate => .accesses (.opened .validateArtifactCheckpoint ())
  | .runRequestPause => .accesses (.opened .requestPause ())
  | .runGetPauseStatus => .accesses (.opened .getPauseStatus ())
  | .runAcknowledgePause => .accesses (.opened .acknowledgePause ())
  | .runResume => .accesses (.opened .resumeRun ())
  | .runGetControlState => .accesses (.opened .getRunControlState ())
  | .leaseList => .accesses (.opened .listLeases ())
  | .leaseShow => .accesses (.opened .getLease ())
  -- the commands under `withSessionProject` have no step of their own here
  | .sessionOpen | .sessionReauthenticate | .sessionSave | .sessionGet | .sessionList
  | .sessionValidate | .sessionRestore | .sessionDelete | .sessionSetProxyAffinity
  | .otpStart | .otpProvide | .otpResend | .otpCancel | .otpStatus => .returns

/-- The checks of a command before its wrapper. -/
def beforeProject (m : Memory) : Option Failure :=
  match c.commandType with
  -- `assertAuthenticationSlot`: the id of a session that is opened is fresh
  | .sessionOpen =>
    if m.activeAuthentications ≠ [] then some .SESSION_STATE_CONFLICT else none
  | .sessionReauthenticate =>
    if m.activeAuthentications.any (·.sessionId ≠ c.sessionId) then some .SESSION_STATE_CONFLICT
    else none
  | .sessionSetProxyAffinity =>
    if (m.activeAuthenticationFor c.sessionId).isSome then some .SESSION_STATE_CONFLICT else none
  | .sessionSave =>
    match m.activeAuthenticationFor c.sessionId with
    | none => some .SESSION_STATE_CONFLICT
    | some active => if active.projectPath ≠ c.projectPath then some .SESSION_STATE_CONFLICT else none
  | .otpStart | .otpProvide | .otpResend | .otpCancel | .otpStatus =>
    match m.activeAuthenticationFor c.sessionId with
    | none => some .SESSION_STATE_CONFLICT
    | some active =>
      if active.projectPath ≠ c.projectPath then some .SESSION_STATE_CONFLICT
      else if !active.interaction then some .ELEMENT_PICKER_NOT_ACTIVE
      else none
  | _ => none

/-- The handler may turn to a secret store. -/
def usesSecretStore : Bool :=
  match c.commandType with
  | .secretBackendStatus | .secretList | .secretVaultLock | .secretDelete
  | .proxyDelete | .proxyImport | .proxyTest | .proxyEligibility
  | .sessionOpen | .sessionReauthenticate | .sessionSave | .sessionValidate | .sessionRestore
  | .sessionDelete | .otpProvide => true
  | .proxyCreate | .proxyUpdate =>
    match c.acquireCredential toLowerCase project with
    | .ok (some _) => true
    | _ => false
  | _ => false

end Command

/-- The handlers after their first steps, and the arguments they pass. -/
structure Handlers (toLowerCase : String → String) (ν : Type) where
  arguments : Command → Summary → ν
  /-- The result of a handler that makes no access. -/
  answer : Command → Summary → ν
  rest : Command → Summary → ν → Body ν
  session : Command → Summary → Body ν
  rest_secretFree : ∀ c project, c.usesSecretStore toLowerCase project = false →
    ∀ v, (rest c project v).SecretFree
  session_secretFree : ∀ c project, c.usesSecretStore toLowerCase project = false →
    (session c project).SecretFree

variable {toLowerCase : String → String} {α β ν : Type}

/-- An access with the arguments `v`. -/
def Access.supply (v : ν) : Access Unit → Access ν
  | .named o _ => .named o v
  | .opened o _ => .opened o v
  | .secret o _ => .secret o v

/-- A handler after its first access. No handler catches what that access throws. -/
def Handlers.goOn (h : Handlers toLowerCase ν) (c : Command) (project : Summary) :
    Except Failure ν → Body ν
  | .ok v => h.rest c project v
  | .error e => .settle (.error e)

/-- A handler under `withOpenProject`. -/
def Handlers.body (h : Handlers toLowerCase ν) (c : Command) (m : Memory) (project : Summary) : Body ν :=
  match c.firstStep toLowerCase project m with
  | .throws e => .settle (.error e)
  | .returns => .settle (.ok (h.answer c project))
  | .accesses a => .access (a.supply (h.arguments c project)) (h.goOn c project)

/-- Execute one command. -/
def execute (S : Storage α β ν) (h : Handlers toLowerCase ν) (c : Command) (w : World α β) :
    Except Failure ν × World α β :=
  let w := { w with touched := [] }
  match c.beforeProject w.memory with
  | some e => (.error e, w)
  | none =>
    match c.commandType.wrapper with
    | .openProject => w.withOpenProject toLowerCase S c.projectPath (h.body c w.memory)
    | .sessionProject keepOpen =>
      w.withSessionProject toLowerCase S c.projectPath keepOpen (h.session c)

end OfflineWebArchiver.Service
