import Mathlib.Data.List.Sort
import Mathlib.Data.Rat.Defs
import OfflineWebArchiver.Base.LowerCase
import OfflineWebArchiver.Base.Time
import OfflineWebArchiver.Lib.Checks
import OfflineWebArchiver.Vault.Secrets

/-!
# Proxy configurations

What the proxy manager accepts as a configuration, and what it makes of it.

* `normalizeProxyHost`, `normalizeProxyProtocol`, `normalizeProxyPort`: the endpoint.
* `normalizeProxyDraft`: a configuration with all its defaults, or the first check that fails.
* `canonicalProxyIdentity`: the text of an endpoint.
* `deriveImportedProxyId`: the identifier of a proxy that is imported without one.
-/

namespace OfflineWebArchiver.ProxyManager

inductive ProxyOperationErrorCode
  | configInvalid | protocolUnsupported | secretInvalid | importInvalid | notFound | alreadyExists
  | revisionConflict
deriving DecidableEq

structure ProxyOperationError where
  code : ProxyOperationErrorCode
  message : String
deriving DecidableEq

/-- `invalid(message)`. -/
def invalid (message : String) : ProxyOperationError := ⟨.configInvalid, message⟩

inductive ProxyProtocol
  | http | https | socks5
deriving DecidableEq

def ProxyProtocol.text : ProxyProtocol → Text
  | .http => asciiUnits "http"
  | .https => asciiUnits "https"
  | .socks5 => asciiUnits "socks5"

/-- A value of the language. A number is `none` when it is not finite; an object has one field
for each of its keys. -/
inductive JsValue
  | null
  | bool (b : Bool)
  | number (q : Option ℚ)
  | text (t : Text)
  | array (items : List JsValue)
  | object (fields : List (Text × JsValue))

/-- A value, or `undefined`. -/
abbrev Unknown := Option JsValue

/-- What the proxy manager uses of its platform. -/
structure ProxyEnv where
  /-- `toLowerCase`. -/
  lower : Text → Text
  lowerCase : LowerCase lower
  /-- `Number(text)`, where it is finite. -/
  number : Text → Option ℚ
  /-- `JSON.parse`, where it does not throw. -/
  jsonParse : Text → Option JsValue
  jsonParse_blank : ∀ text, trimUnits text = [] → jsonParse text = none
  /-- `String(value)`. -/
  string : JsValue → Text

/-- `ProxyDraft`, as `normalizeProxyDraft` returns it. -/
structure ProxyDraft where
  id : Option Text
  label : Option Text
  protocol : ProxyProtocol
  host : Text
  port : ℤ
  bypass : List Text
  credentialRef : Option Text
  weight : ℤ
  priority : ℤ
  maxConcurrency : ℤ
  enabled : Bool
deriving DecidableEq

structure ProxyCredential where
  username : Text
  password : Text
deriving DecidableEq

/-! ### Patterns -/

/-- `/[A-Za-z0-9]/`. -/
def isAlnumUnit (c : CodeUnit) : Bool :=
  (unit '0' ≤ c && c ≤ unit '9') || (unit 'A' ≤ c && c ≤ unit 'Z') || (unit 'a' ≤ c && c ≤ unit 'z')

/-- A first unit that is a letter or a digit, and at most `n` more of them and of `extra`. -/
def matchesSafeText (extra : Text) (n : ℕ) : Text → Bool
  | [] => false
  | c :: rest => isAlnumUnit c && rest.length ≤ n && rest.all fun c => isAlnumUnit c || extra.contains c

/-- `IDENTIFIER_PATTERN`. -/
def isIdentifierText (t : Text) : Bool := matchesSafeText (asciiUnits "._:-") 127 t

/-- `SAFE_LABEL_PATTERN`. -/
def isLabelText (t : Text) : Bool := matchesSafeText (asciiUnits " ._:-") 119 t

/-- `/[a-z0-9.-]/i`. -/
def isHostUnit (c : CodeUnit) : Bool := isAlnumUnit c || c == unit '.' || c == unit '-'

/-- `SAFE_HOST_PATTERN`. -/
def isHostText (t : Text) : Bool :=
  1 ≤ t.length && t.length ≤ 253 && t.all isHostUnit && t.head?.all isAlnumUnit && t.getLast?.all isAlnumUnit

/-- `/[0-9a-f:]/i`. -/
def isIpv6Unit (c : CodeUnit) : Bool :=
  (unit '0' ≤ c && c ≤ unit '9') || (unit 'A' ≤ c && c ≤ unit 'F') || (unit 'a' ≤ c && c ≤ unit 'f') ||
    c == unit ':'

/-- `IPV6_PATTERN`. -/
def isIpv6Text (t : Text) : Bool := 2 ≤ t.length && t.length ≤ 45 && t.all isIpv6Unit

/-- `SAFE_BYPASS_PATTERN`: a host, perhaps behind `*.`. -/
def isBypassText (t : Text) : Bool :=
  isHostText t || ((asciiUnits "*.").isPrefixOf t && isHostText (t.drop 2))

/-- `text.includes(needle)`. -/
def includes (t needle : Text) : Bool := t.tails.any needle.isPrefixOf

/-- The words that a label must not contain, in lower case. -/
def labelWords : List String :=
  ["password", "passphrase", "token", "secret", "cookie", "authorization", "credential", "username"]

/-- The test for `labelWords`, without regard to case. -/
def isSensitiveLabel (t : Text) : Bool := labelWords.any fun w => includes (t.map lowerUnit) (asciiUnits w)

/-- `SAFE_IMPORT_FIELDS`. -/
def safeImportFields : List Text :=
  ["id", "label", "protocol", "host", "port", "bypass", "credentialRef", "username", "password",
    "weight", "priority", "maxConcurrency", "enabled"].map asciiUnits

/-! ### Single fields -/

/-- `assertSafeString(value, label, maximum)`; the text. -/
def assertSafeString (value : Unknown) (label : String) (maximum : ℕ) : Except ProxyOperationError Text :=
  match value with
  | some (.text t) =>
    if t = [] ∨ maximum < t.length ∨ t.any isControlUnit then .error (invalid (label ++ " is invalid"))
    else .ok t
  | _ => .error (invalid (label ++ " is invalid"))

variable (env : ProxyEnv)

/-- The host without its brackets. -/
def stripBrackets (host : Text) : Text :=
  if host.head? = some (unit '[') ∧ host.getLast? = some (unit ']') then host.tail.dropLast else host

/-- The host without a final dot. -/
def stripFinalDot (host : Text) : Text :=
  if host.getLast? = some (unit '.') then host.dropLast else host

def normalizeProxyHost (value : Unknown) : Except ProxyOperationError Text := do
  let value ← assertSafeString value "The Proxy host" 253
  let host := stripFinalDot (stripBrackets (env.lower (trimUnits value)))
  Checks.failIf (invalid "The Proxy host is invalid")
    (host = [] ∨ unit '/' ∈ host ∨ unit '@' ∈ host ∨ unit '#' ∈ host ∨ unit '?' ∈ host)
  if unit ':' ∈ host then
    Checks.failIf (invalid "The Proxy host is not a valid IPv6 literal")
      (isIpv6Text host = false ∨ includes host (asciiUnits ":::") ∨ includes host (asciiUnits "::") = false)
    return host
  Checks.failIf (invalid "The Proxy host is invalid")
    (isHostText host = false ∨ includes host (asciiUnits "..") ∨
      (host.splitOn (unit '.')).any fun part => 63 < part.length)
  return host

def normalizeProxyProtocol (value : Unknown) : Except ProxyOperationError ProxyProtocol :=
  match value with
  | some (.text t) =>
    let protocol := env.lower (trimUnits t)
    if protocol = asciiUnits "http" then .ok .http
    else if protocol = asciiUnits "https" then .ok .https
    else if protocol = asciiUnits "socks5" then .ok .socks5
    else .error ⟨.protocolUnsupported, "The Proxy protocol is unsupported"⟩
  | _ => .error (invalid "The Proxy protocol is invalid")

/-- A number that is an integer between two bounds. -/
def boundedInteger? (value : Unknown) (minimum maximum : ℤ) : Option ℤ :=
  match value with
  | some (.number (some q)) => if q.isInt ∧ minimum ≤ q.num ∧ q.num ≤ maximum then some q.num else none
  | _ => none

def normalizeProxyPort (value : Unknown) : Except ProxyOperationError ℤ :=
  match boundedInteger? value 1 65535 with
  | some port => .ok port
  | none => .error (invalid "The Proxy port is invalid")

def normalizeProxyId (value : Unknown) : Except ProxyOperationError Text := do
  let id ← assertSafeString value "The Proxy identifier" 128
  Checks.failIf (invalid "The Proxy identifier is invalid") (isIdentifierText (trimUnits id) = false)
  return trimUnits id

/-- `candidate["id"] === undefined ? {} : { id: normalizeProxyId(candidate["id"]) }`. -/
def normalizeOptionalId (value : Unknown) : Except ProxyOperationError (Option Text) :=
  match value with
  | none => .ok none
  | value => some <$> normalizeProxyId value

def normalizeLabel (value : Unknown) : Except ProxyOperationError (Option Text) :=
  match value with
  | none | some .null => .ok none
  | value => do
    let value ← assertSafeString value "The Proxy label" 120
    let label := trimUnits value
    Checks.failIf (invalid "The Proxy label must be non-sensitive")
      (isLabelText label = false ∨ isSensitiveLabel label)
    return some label

/-- One entry of a bypass list. -/
def normalizeBypassEntry (entry : JsValue) : Except ProxyOperationError Text := do
  let entry ← assertSafeString entry "The Proxy bypass host" 253
  let item := env.lower (trimUnits entry)
  Checks.failIf (invalid "The Proxy bypass list contains an invalid host")
    (isBypassText item = false ∨ includes item (asciiUnits ".."))
  return item

def normalizeBypass (value : Unknown) : Except ProxyOperationError (List Text) :=
  match value with
  | none | some .null => .ok []
  | some (.array items) => do
    Checks.failIf (invalid "The Proxy bypass list is invalid") (100 < items.length)
    let normalized ← items.mapM (normalizeBypassEntry env)
    return normalized.eraseDups.insertionSort fun a b => textLt b a = false
  | _ => .error (invalid "The Proxy bypass list is invalid")

def normalizeBoundedInteger (value : Unknown) (label : String) (minimum maximum fallback : ℤ) :
    Except ProxyOperationError ℤ :=
  match value with
  | none => .ok fallback
  | value =>
    match boundedInteger? value minimum maximum with
    | some n => .ok n
    | none => .error (invalid (label ++ " is invalid"))

/-- The reference of a credential: `parseSecretRef(value).serialized`, or `null`. -/
def normalizeCredentialRef (value : Unknown) : Except ProxyOperationError (Option Text) :=
  match value with
  | none | some .null => .ok none
  | some (.text t) =>
    match parseSecretRef (scalarsOf t) with
    | .ok parsed => .ok (some (unitsOf parsed.serialized))
    | .error _ => .error ⟨.secretInvalid, "The Proxy credential reference is invalid"⟩
  | _ => .error ⟨.secretInvalid, "The Proxy credential reference is invalid"⟩

def normalizeEnabled (value : Unknown) : Except ProxyOperationError Bool :=
  match value with
  | none => .ok true
  | some (.bool b) => .ok b
  | _ => .error (invalid "The Proxy enabled flag is invalid")

/-! ### Configurations -/

/-- `candidate[key]`. -/
def field (candidate : List (Text × JsValue)) (key : String) : Unknown := candidate.lookup (asciiUnits key)

/-- `normalizeProxyDraft` on an object. The checks stand in the order in which they throw. -/
def normalizeProxyFields (candidate : List (Text × JsValue)) : Except ProxyOperationError ProxyDraft := do
  Checks.failIf ⟨.importInvalid, "The Proxy configuration contains an unsupported field"⟩
    (candidate.any fun entry => !safeImportFields.contains entry.1)
  let protocol ← normalizeProxyProtocol env (field candidate "protocol")
  let host ← normalizeProxyHost env (field candidate "host")
  let port ← normalizeProxyPort (field candidate "port")
  let credentialRef ← normalizeCredentialRef (field candidate "credentialRef")
  let id ← normalizeOptionalId (field candidate "id")
  let label ← normalizeLabel (field candidate "label")
  let bypass ← normalizeBypass env (field candidate "bypass")
  let weight ← normalizeBoundedInteger (field candidate "weight") "The Proxy weight" 1 1000 1
  let priority ← normalizeBoundedInteger (field candidate "priority") "The Proxy priority" 0 1000 0
  let maxConcurrency ←
    normalizeBoundedInteger (field candidate "maxConcurrency") "The Proxy maximum concurrency" 1 1000 1
  let enabled ← normalizeEnabled (field candidate "enabled")
  return { id, label, protocol, host, port, bypass, credentialRef, weight, priority, maxConcurrency, enabled }

/-- `normalizeProxyDraft(value, { requireId })`. -/
def normalizeProxyDraft (value : Unknown) (requireId : Bool) : Except ProxyOperationError ProxyDraft :=
  match value with
  | some (.object candidate) => do
    let draft ← normalizeProxyFields env candidate
    Checks.failIf (invalid "The Proxy identifier is required") (requireId = true ∧ draft.id = none)
    return draft
  | _ => .error (invalid "The Proxy configuration is invalid")

/-! ### Identities -/

/-- The decimal digits of an integer. -/
def integerText (n : ℤ) : Text :=
  (if n < 0 then [unit '-'] else []) ++ (Nat.toDigits 10 n.natAbs).map unit

/-- What stands for the host in a URL. -/
def urlHost (host : Text) : Text := if unit ':' ∈ host then unit '[' :: host ++ [unit ']'] else host

/-- `canonicalProxyIdentity({ protocol, host, port })`. -/
def canonicalProxyIdentity (protocol : ProxyProtocol) (host : Text) (port : ℤ) :
    Except ProxyOperationError Text := do
  let protocol ← normalizeProxyProtocol env (some (.text protocol.text))
  let host ← normalizeProxyHost env (some (.text host))
  let port ← normalizeProxyPort (some (.number (some port)))
  return protocol.text ++ asciiUnits "://" ++ urlHost host ++ unit ':' :: integerText port

/-- `.replace(/[^A-Za-z0-9]+/g, "-")`; the flag says that the unit in front was replaced. -/
def hyphenate : Bool → Text → Text
  | _, [] => []
  | inRun, c :: t =>
    if isAlnumUnit c then c :: hyphenate false t
    else if inRun then hyphenate true t
    else unit '-' :: hyphenate true t

/-- `.replace(/^-|-$/g, "")`. -/
def stripHyphens (t : Text) : Text :=
  let t := if t.head? = some (unit '-') then t.tail else t
  if t.getLast? = some (unit '-') then t.dropLast else t

def deriveImportedProxyId (draft : ProxyDraft) : Except ProxyOperationError Text := do
  let identity ← canonicalProxyIdentity env draft.protocol draft.host draft.port
  let derived := asciiUnits "proxy-" ++ (stripHyphens (hyphenate false identity)).take 112
  normalizeProxyId (some (.text derived))

end OfflineWebArchiver.ProxyManager
