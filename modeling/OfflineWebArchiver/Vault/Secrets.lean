import Mathlib.Data.List.Forall2
import Mathlib.Data.List.Infix
import OfflineWebArchiver.Base.JsString
import OfflineWebArchiver.Base.Time
import OfflineWebArchiver.Lib.Checks

/-!
# Secret references and metadata

The identifiers of secrets, their textual references, and the checks that the reader of a
vault makes on the metadata of a record.

* `parseSecretRef_serialize`: a reference reads back as what it was made of.
* `metadataFromDisk_ok`: what the reader accepts, and what it returns.
* `SecretMetadata.Valid`: metadata that the reader returns unchanged.
-/

namespace OfflineWebArchiver

inductive SecretKind
  | proxyCredential | authenticationCredential | sessionStorage | apiCredential
  | portableExportKey | genericProjectSecret
deriving DecidableEq

inductive SecretScopeType
  | application | project | proxy | profile | session | loginFlow
deriving DecidableEq

inductive SecretBackend
  | portableVault | osProtected | memoryTest
deriving DecidableEq

inductive SecretLifecycleState
  | active | rotationRequired | disabled | deleted | migrationRequired
deriving DecidableEq

inductive SecretExportPolicy
  | allowed | forbidden
deriving DecidableEq

inductive SecretMigrationState
  | current | migrationRequired
deriving DecidableEq

/-- `SecretStoreErrorCode`, and the `AuthenticationFailure` of a decryption. -/
inductive SecretError
  | referenceInvalid | referenceVersionUnsupported | referenceProjectMismatch | scopeInvalid
  | metadataInvalid | valueInvalid | valueTooLarge | notFound | alreadyExists | storeLocked
  | storeUninitialized | storeBusy | unlockFailed | tamperDetected | formatUnsupported | kdfInvalid
  | importFailed | operationFailed | authenticationFailure
deriving DecidableEq

structure SecretScope where
  scopeType : SecretScopeType
  projectId : JsString
  scopeId : JsString
deriving DecidableEq

structure SecretMetadata where
  ref : JsString
  secretId : JsString
  projectId : JsString
  scope : SecretScope
  kind : SecretKind
  backend : SecretBackend
  createdAt : Timestamp
  updatedAt : Timestamp
  lastRotatedAt : Option Timestamp
  version : ℕ
  lifecycleState : SecretLifecycleState
  displayLabel : Option JsString
  secureExportPolicy : SecretExportPolicy
  keySlotId : JsString
  migrationState : SecretMigrationState
deriving DecidableEq

/-! ### Identifiers -/

/-- `toLowerCase` on the ASCII texts that the identifiers are compared with. -/
def toLowerCase (s : JsString) : JsString := s.map Char.toLower

def hexDigits : JsString := "0123456789abcdefABCDEF".toList

/-- What `UUID_PATTERN` allows at a place: `h` stands for a hexadecimal digit, `v` for the
version and `n` for the variant. -/
def uuidUnits (place : Char) : JsString :=
  if place = 'h' then hexDigits
  else if place = 'v' then "12345".toList
  else if place = 'n' then "89abAB".toList
  else ['-']

def uuidPlaces : JsString := "hhhhhhhh-hhhh-vhhh-nhhh-hhhhhhhhhhhh".toList

/-- `UUID_PATTERN.test(value)`. -/
def isUuid (s : JsString) : Bool :=
  s.length == 36 && (uuidPlaces.zip s).all fun (place, c) => (uuidUnits place).contains c

/-- The needle occurs in the text. -/
def hasInfix (needle s : JsString) : Bool := s.tails.any needle.isPrefixOf

/-- `/[A-Za-z0-9]/`. -/
def isAlphanumeric (c : Char) : Bool :=
  c.isDigit || ('a' ≤ c && c ≤ 'z') || ('A' ≤ c && c ≤ 'Z')

/-- `SAFE_SCOPE_ID_PATTERN.test(value)`. -/
def isSafeIdentifier : JsString → Bool
  | [] => false
  | c :: rest =>
    isAlphanumeric c && rest.length ≤ 127 &&
      rest.all fun c => isAlphanumeric c || c ∈ "._:-".toList

/-- `SAFE_LABEL_PATTERN.test(value)`. -/
def isSafeLabel : JsString → Bool
  | [] => false
  | c :: rest =>
    isAlphanumeric c && rest.length ≤ 119 &&
      rest.all fun c => isAlphanumeric c || c ∈ " ._:-".toList

/-- The words that a label must not contain. -/
def sensitiveWords : List JsString :=
  ["password", "passphrase", "token", "secret", "cookie", "authorization", "apikey", "api-key",
    "api_key", "api key"].map String.toList

/-! ### References -/

structure ParsedSecretRef where
  serialized : JsString
  projectId : JsString
  secretId : JsString
deriving DecidableEq

def serializeSecretRef (projectId secretId : JsString) : Except SecretError JsString :=
  if !isUuid projectId then throw .scopeInvalid
  else if !isUuid secretId then throw .referenceInvalid
  else pure ("secret://v1/project/".toList ++ toLowerCase projectId ++ '/' :: toLowerCase secretId)

/-- `/^secret:\/\/v(\d+)\/project\/([^/]+)\/([^/]+)$/`. -/
def matchSecretRef (value : JsString) : Option (JsString × JsString × JsString) := do
  let rest ← "secret://v".toList.isPrefixOf? value
  let version := rest.takeWhile Char.isDigit
  let rest ← "/project/".toList.isPrefixOf? (rest.dropWhile Char.isDigit)
  let projectId := rest.takeWhile (· ≠ '/')
  match rest.dropWhile (· ≠ '/') with
  | '/' :: secretId =>
    if version = [] ∨ projectId = [] ∨ secretId = [] ∨ '/' ∈ secretId then none
    else some (version, projectId, secretId)
  | _ => none

def parseSecretRef (value : JsString) : Except SecretError ParsedSecretRef :=
  if 256 < utf16Length value ∨ value.any isControl then throw .referenceInvalid
  else
    match matchSecretRef value with
    | none => throw .referenceInvalid
    | some (version, projectId, secretId) =>
      if version ≠ ['1'] then throw .referenceVersionUnsupported
      else if hasInfix ['.', '.'] projectId ∨ hasInfix ['.', '.'] secretId then throw .referenceInvalid
      else do
        let serialized ← serializeSecretRef projectId secretId
        if serialized ≠ toLowerCase value then throw .referenceInvalid
        else pure ⟨serialized, toLowerCase projectId, toLowerCase secretId⟩

def createSecretId (secretId : JsString) : Except SecretError JsString :=
  if !isUuid secretId then throw .referenceInvalid else pure (toLowerCase secretId)

def assertSafeIdentifier (value : JsString) : Except SecretError Unit :=
  if !isSafeIdentifier value then throw .scopeInvalid else pure ()

def assertValidSecretScope (scope : SecretScope) : Except SecretError Unit := do
  if !isUuid scope.projectId then throw .scopeInvalid
  else
    assertSafeIdentifier scope.scopeId
    if scope.scopeType = .project ∧ scope.scopeId ≠ scope.projectId then throw .scopeInvalid
    else pure ()

def assertValidSecretLabel : Option JsString → Except SecretError Unit
  | none => pure ()
  | some label =>
    if !isSafeLabel label ∨ sensitiveWords.any (hasInfix · (toLowerCase label)) then throw .metadataInvalid
    else pure ()

def isTimestamp (value : Timestamp) : Bool := (parseUtc value).isSome

/-- The checks on identity and time stamps. -/
def SecretMetadata.identityOk (value : SecretMetadata) (parsed : ParsedSecretRef)
    (projectId : JsString) : Bool :=
  parsed.projectId == projectId && parsed.secretId == toLowerCase value.secretId &&
    toLowerCase value.projectId == projectId && isTimestamp value.createdAt &&
    isTimestamp value.updatedAt && value.lastRotatedAt.all isTimestamp &&
    decide (1 ≤ value.version) && decide (value.version ≤ 1000000)

/-- `metadataFromDisk` on a value of the right types. -/
def metadataFromDisk (value : SecretMetadata) (projectId : JsString) (backend : SecretBackend)
    (expectedSourceBackend : Option SecretBackend) : Except SecretError SecretMetadata := do
  let parsed ← parseSecretRef value.ref
  if !value.identityOk parsed projectId then throw .metadataInvalid
  else if expectedSourceBackend.any (value.backend ≠ ·) then throw .metadataInvalid
  else
    assertValidSecretScope value.scope
    if toLowerCase value.scope.projectId ≠ projectId then throw .scopeInvalid
    else
      assertValidSecretLabel value.displayLabel
      if !isSafeIdentifier value.keySlotId then throw .metadataInvalid
      else do
        let secretId ← createSecretId value.secretId
        pure { value with
          ref := parsed.serialized
          secretId := secretId
          projectId := projectId
          backend := backend }

variable {p q s v : JsString} {c : Char} {m m' : SecretMetadata} {backend : SecretBackend}

/-! ### What an identifier is made of -/

/-- A test of the characters of identifiers is made place by place. -/
theorem uuidUnits_all {p : Char → Char → Bool}
    (h : uuidPlaces.all (fun place => (uuidUnits place).all (p place)) = true)
    {place : Char} (hplace : place ∈ uuidPlaces) (hc : c ∈ uuidUnits place) : p place c = true :=
  List.all_eq_true.1 (List.all_eq_true.1 h place hplace) c hc

/-- The characters of an identifier, with what the reader of references asks of them. -/
theorem uuidUnits_spec {place : Char} (hplace : place ∈ uuidPlaces) (hc : c ∈ uuidUnits place) :
    c ≠ '/' ∧ c ≠ '.' ∧ isControl c = false ∧ c.toNat < 0x10000 ∧
      c.toLower ∈ uuidUnits place ∧ c.toLower.toLower = c.toLower :=
  of_decide_eq_true (uuidUnits_all (p := fun place c => decide (c ≠ '/' ∧ c ≠ '.' ∧
    isControl c = false ∧ c.toNat < 0x10000 ∧ c.toLower ∈ uuidUnits place ∧
      c.toLower.toLower = c.toLower)) (by decide) hplace hc)

theorem isUuid_iff : isUuid s = true ↔
    List.Forall₂ (fun place c => c ∈ uuidUnits place) uuidPlaces s := by
  have hlen : uuidPlaces.length = 36 := by decide
  rw [List.forall₂_iff_zip, isUuid, Bool.and_eq_true, beq_iff_eq, hlen, eq_comm, List.all_eq_true]
  simp

/-- Every character of an identifier stands at one of the places. -/
theorem isUuid_place (h : isUuid s = true) (hc : c ∈ s) :
    ∃ place ∈ uuidPlaces, c ∈ uuidUnits place := by
  obtain ⟨i, hi, rfl⟩ := List.getElem_of_mem hc
  have hall := List.forall₂_iff_get.1 (isUuid_iff.1 h)
  have hplace : i < uuidPlaces.length := by rw [hall.1]; exact hi
  exact ⟨_, List.getElem_mem hplace, hall.2 i hplace hi⟩

theorem isUuid_mem (h : isUuid s = true) (hc : c ∈ s) :
    c ≠ '/' ∧ c ≠ '.' ∧ isControl c = false ∧ c.toNat < 0x10000 ∧ c.toLower.toLower = c.toLower := by
  obtain ⟨place, hplace, hc⟩ := isUuid_place h hc
  have hspec := uuidUnits_spec hplace hc
  exact ⟨hspec.1, hspec.2.1, hspec.2.2.1, hspec.2.2.2.1, hspec.2.2.2.2.2⟩

theorem isUuid_toLowerCase (h : isUuid s = true) : isUuid (toLowerCase s) = true := by
  refine isUuid_iff.2 (List.forall₂_map_right_iff.2 ?_)
  have hall := isUuid_iff.1 h
  refine List.forall₂_iff_zip.2 ⟨hall.length_eq, fun {place c} hmem => ?_⟩
  have hc := (List.forall₂_iff_zip.1 hall).2 hmem
  exact (uuidUnits_spec (List.of_mem_zip hmem).1 hc).2.2.2.2.1

theorem toLowerCase_idem (h : isUuid s = true) : toLowerCase (toLowerCase s) = toLowerCase s := by
  unfold toLowerCase
  rw [List.map_map]
  exact List.map_congr_left fun c hc => (isUuid_mem h hc).2.2.2.2

theorem isUuid_length (h : isUuid s = true) : s.length = 36 := by
  rw [isUuid, Bool.and_eq_true, beq_iff_eq] at h
  exact h.1

theorem isUuid_ne_nil (h : isUuid s = true) : s ≠ [] := by
  rintro rfl
  cases isUuid_length h

/-- No dots in an identifier. -/
theorem isUuid_hasInfix (h : isUuid s = true) : hasInfix ['.', '.'] s = false := by
  rw [hasInfix, List.any_eq_false]
  intro t ht hpre
  obtain ⟨front, hfront⟩ := (List.mem_tails _ _).1 ht
  cases t with
  | nil => cases hpre
  | cons c t =>
    simp only [List.isPrefixOf, Bool.and_eq_true, beq_iff_eq] at hpre
    have hmem : c ∈ s := by rw [← hfront]; simp
    exact (isUuid_mem h hmem).2.1 hpre.1.symm

/-! ### References read back -/

theorem matchSecretRef_serialize (hp : isUuid p = true) (hs : isUuid s = true) :
    matchSecretRef ("secret://v1/project/".toList ++ p ++ '/' :: s) = some (['1'], p, s) := by
  have hno : ∀ c ∈ p, decide (c ≠ '/') = true := fun c hc => by simpa using (isUuid_mem hp hc).1
  have hslash : '/' ∉ s := fun hmem => (isUuid_mem hs hmem).1 rfl
  have htake : (p ++ '/' :: s).takeWhile (fun c => decide (c ≠ '/')) = p := by
    rw [List.takeWhile_append_of_pos hno]; simp
  have hdrop : (p ++ '/' :: s).dropWhile (fun c => decide (c ≠ '/')) = '/' :: s := by
    rw [List.dropWhile_append_of_pos hno]; simp
  have hone : "secret://v".toList.isPrefixOf? ("secret://v1/project/".toList ++ p ++ '/' :: s) =
      some ("1/project/".toList ++ (p ++ '/' :: s)) := by
    simp [List.isPrefixOf?]
  have htwo : "/project/".toList.isPrefixOf?
      (("1/project/".toList ++ (p ++ '/' :: s)).dropWhile Char.isDigit) = some (p ++ '/' :: s) := by
    simp [List.isPrefixOf?, Char.isDigit]
  have hversion : ("1/project/".toList ++ (p ++ '/' :: s)).takeWhile Char.isDigit = ['1'] := by
    simp [Char.isDigit]
  unfold matchSecretRef
  rw [hone, Option.bind_eq_bind, Option.bind_some, htwo]
  simp only [Option.bind_some, hversion, htake, hdrop]
  rw [if_neg]
  simp [isUuid_ne_nil hp, isUuid_ne_nil hs, hslash]

/-- **A reference reads back** as the identifiers that it was made of, in lower case. -/
theorem parseSecretRef_serialize (hp : isUuid p = true) (hs : isUuid s = true) {ref : JsString}
    (href : serializeSecretRef p s = .ok ref) :
    parseSecretRef ref = .ok ⟨ref, toLowerCase p, toLowerCase s⟩ := by
  have hp' := isUuid_toLowerCase hp
  have hs' := isUuid_toLowerCase hs
  have hserial : ∀ {p s}, isUuid p = true → isUuid s = true → serializeSecretRef p s =
      .ok ("secret://v1/project/".toList ++ toLowerCase p ++ '/' :: toLowerCase s) := by
    intro p s hp hs
    rw [serializeSecretRef, hp, hs]
    rfl
  obtain rfl := Except.ok.inj ((hserial hp hs).symm.trans href)
  have hlower : toLowerCase ("secret://v1/project/".toList ++ toLowerCase p ++ '/' :: toLowerCase s) =
      "secret://v1/project/".toList ++ toLowerCase p ++ '/' :: toLowerCase s := by
    have hone : toLowerCase "secret://v1/project/".toList = "secret://v1/project/".toList := by decide
    have happ : ∀ a b : JsString, toLowerCase (a ++ b) = toLowerCase a ++ toLowerCase b :=
      fun a b => List.map_append
    have hcons : ∀ a : JsString, toLowerCase ('/' :: a) = '/' :: toLowerCase a := fun a => rfl
    rw [happ, happ, hcons, hone, toLowerCase_idem hp, toLowerCase_idem hs]
  have hlength : ∀ {t : JsString}, isUuid t = true → utf16Length t = 36 := by
    intro t ht
    have hmap : t.map (fun c => if c.toNat < 0x10000 then 1 else 2) = t.map fun _ => 1 :=
      List.map_congr_left fun c hc => if_pos (isUuid_mem ht hc).2.2.2.1
    rw [utf16Length, hmap, List.map_const', isUuid_length ht]
    decide
  have hsize : ¬256 < utf16Length ("secret://v1/project/".toList ++ toLowerCase p ++ '/' :: toLowerCase s) := by
    have happ : ∀ a b : JsString, utf16Length (a ++ b) = utf16Length a + utf16Length b :=
      fun a b => by simp [utf16Length]
    have hcons : ∀ a : JsString, utf16Length ('/' :: a) = 1 + utf16Length a := fun a => by
      simp [utf16Length]
    have hone : utf16Length "secret://v1/project/".toList = 20 := by decide
    rw [happ, happ, hcons, hone, hlength hp', hlength hs']
    omega
  have hcontrol : ("secret://v1/project/".toList ++ toLowerCase p ++ '/' :: toLowerCase s).any isControl =
      false := by
    have hnone : ∀ {t : JsString}, isUuid t = true → t.any isControl = false :=
      fun ht => List.any_eq_false.2 fun c hc => by simp [(isUuid_mem ht hc).2.2.1]
    rw [List.any_append, List.any_append, List.any_cons, hnone hp', hnone hs']
    decide
  unfold parseSecretRef
  rw [if_neg (by rw [hcontrol]; simpa using hsize), matchSecretRef_serialize hp' hs']
  simp only [isUuid_hasInfix hp', isUuid_hasInfix hs', hserial hp' hs', toLowerCase_idem hp,
    toLowerCase_idem hs, hlower]
  simp [bind, Except.bind, pure, Except.pure]

/-- What `parseSecretRef` returns is a reference again. -/
theorem parseSecretRef_ok {parsed : ParsedSecretRef} (h : parseSecretRef v = .ok parsed) :
    parseSecretRef parsed.serialized = .ok parsed := by
  unfold parseSecretRef at h
  split_ifs at h
  split at h
  · cases h
  next version projectId secretId _ =>
  split_ifs at h
  obtain ⟨serialized, hserial, h⟩ := Checks.bind_ok.1 h
  split_ifs at h
  obtain rfl := Checks.pure_ok.1 h
  have hserial' := hserial
  unfold serializeSecretRef at hserial'
  obtain ⟨hp, hserial'⟩ := Checks.guard_ok.1 hserial'
  obtain ⟨hs, -⟩ := Checks.guard_ok.1 hserial'
  exact parseSecretRef_serialize (by simpa using hp) (by simpa using hs) hserial

/-! ### Metadata -/

/-- **What the reader accepts**, and what it returns. -/
theorem metadataFromDisk_ok {value : SecretMetadata} {expected : Option SecretBackend} :
    metadataFromDisk value p backend expected = .ok m ↔
      ∃ parsed, parseSecretRef value.ref = .ok parsed ∧ value.identityOk parsed p = true ∧
        expected.any (value.backend ≠ ·) = false ∧ assertValidSecretScope value.scope = .ok () ∧
        toLowerCase value.scope.projectId = p ∧ assertValidSecretLabel value.displayLabel = .ok () ∧
        isSafeIdentifier value.keySlotId = true ∧ isUuid value.secretId = true ∧
        m = { value with
          ref := parsed.serialized
          secretId := toLowerCase value.secretId
          projectId := p
          backend := backend } := by
  have hid : ∀ {t}, createSecretId value.secretId = .ok t ↔
      isUuid value.secretId = true ∧ toLowerCase value.secretId = t := by
    intro t
    rw [createSecretId, Checks.guard_ok, Checks.pure_ok]
    simp
  unfold metadataFromDisk
  simp only [Checks.bind_ok, Checks.guard_ok, Checks.pure_ok, hid]
  constructor
  · rintro ⟨parsed, hparsed, hident, hback, _, hscope, hproject, _, hlabel, hslot, t, ⟨huuid, rfl⟩, rfl⟩
    exact ⟨parsed, hparsed, by simpa using hident, by simpa using hback, hscope, by simpa using hproject,
      hlabel, by simpa using hslot, huuid, rfl⟩
  · rintro ⟨parsed, hparsed, hident, hback, hscope, hproject, hlabel, hslot, huuid, rfl⟩
    exact ⟨parsed, hparsed, by simpa using hident, by simpa using hback, (), hscope, by simpa using hproject,
      (), hlabel, by simpa using hslot, _, ⟨huuid, rfl⟩, rfl⟩

/-- Metadata that the reader of a vault returns unchanged. -/
def SecretMetadata.Valid (p : JsString) (backend : SecretBackend) (m : SecretMetadata) : Prop :=
  metadataFromDisk m p backend (some backend) = .ok m

/-- **The fields that an operation sets anew** keep the metadata valid when they pass the
reader's checks themselves. -/
theorem SecretMetadata.Valid.update (h : m.Valid p backend) {updatedAt : Timestamp}
    {lastRotatedAt : Option Timestamp} {version : ℕ} {displayLabel : Option JsString}
    {keySlotId : JsString} (hupdated : isTimestamp updatedAt = true)
    (hrotated : lastRotatedAt.all isTimestamp = true) (hversion : 1 ≤ version ∧ version ≤ 1000000)
    (hlabel : assertValidSecretLabel displayLabel = .ok ())
    (hslot : isSafeIdentifier keySlotId = true) :
    SecretMetadata.Valid p backend { m with
      updatedAt := updatedAt
      lastRotatedAt := lastRotatedAt
      version := version
      displayLabel := displayLabel
      keySlotId := keySlotId } := by
  obtain ⟨parsed, hparsed, hident, hback, hscope, hproject, -, -, huuid, hm⟩ := metadataFromDisk_ok.1 h
  refine metadataFromDisk_ok.2 ⟨parsed, hparsed, ?_, hback, hscope, hproject, hlabel, hslot, huuid, ?_⟩
  · simp only [SecretMetadata.identityOk, Bool.and_eq_true, beq_iff_eq, decide_eq_true_eq] at hident ⊢
    obtain ⟨⟨⟨⟨⟨⟨⟨h1, h2⟩, h3⟩, h4⟩, -⟩, -⟩, -⟩, -⟩ := hident
    exact ⟨⟨⟨⟨⟨⟨⟨h1, h2⟩, h3⟩, h4⟩, hupdated⟩, hrotated⟩, hversion.1⟩, hversion.2⟩
  · have href : m.ref = parsed.serialized := congrArg SecretMetadata.ref hm
    have hid : m.secretId = toLowerCase m.secretId := congrArg SecretMetadata.secretId hm
    have hpid : m.projectId = p := congrArg SecretMetadata.projectId hm
    have hb : m.backend = backend := congrArg SecretMetadata.backend hm
    rw [← href, ← hid, ← hpid, ← hb]

theorem SecretMetadata.Valid.checks (h : m.Valid p backend) :
    isTimestamp m.updatedAt = true ∧ m.lastRotatedAt.all isTimestamp = true ∧ 1 ≤ m.version ∧
      m.version ≤ 1000000 ∧ assertValidSecretLabel m.displayLabel = .ok () ∧
      isSafeIdentifier m.keySlotId = true := by
  obtain ⟨parsed, -, hident, -, -, -, hlabel, hslot, -, -⟩ := metadataFromDisk_ok.1 h
  simp only [SecretMetadata.identityOk, Bool.and_eq_true, decide_eq_true_eq] at hident
  obtain ⟨⟨⟨⟨-, hupdated⟩, hrotated⟩, hlow⟩, hhigh⟩ := hident
  exact ⟨hupdated, hrotated, hlow, hhigh, hlabel, hslot⟩

/-- What the reader returns for an import is valid in the vault. -/
theorem metadataFromDisk_valid {value : SecretMetadata} (hp : toLowerCase p = p)
    (h : metadataFromDisk value p backend none = .ok m) : m.Valid p backend := by
  obtain ⟨parsed, hparsed, hident, -, hscope, hproject, hlabel, hslot, huuid, rfl⟩ :=
    metadataFromDisk_ok.1 h
  have hidem := toLowerCase_idem huuid
  refine metadataFromDisk_ok.2 ⟨parsed, parseSecretRef_ok hparsed, ?_, ?_, hscope, hproject, hlabel, hslot,
    isUuid_toLowerCase huuid, ?_⟩
  · simp only [SecretMetadata.identityOk, Bool.and_eq_true, beq_iff_eq, hidem, hp] at hident ⊢
    obtain ⟨⟨⟨⟨⟨⟨⟨h1, h2⟩, h3⟩, h4⟩, h5⟩, h6⟩, h7⟩, h8⟩ := hident
    exact ⟨⟨⟨⟨⟨⟨⟨h1, h2⟩, trivial⟩, h4⟩, h5⟩, h6⟩, h7⟩, h8⟩
  · simp
  · simp only [hidem]

end OfflineWebArchiver
