import Mathlib.Tactic.IntervalCases
import OfflineWebArchiver.Archive.PathSafety
import OfflineWebArchiver.Base.JsOrder

/-!
# URLs of the scope engine

A URL is the record of the parts of its serialization. The parser, the setters that parse again and the
public suffix list come from the platform.

* `validateRawUrl`: the texts that are not parsed at all.
* `uppercaseEscapes`: the one spelling of an escape.
* `uppercaseEscapes_idem`: **it is settled at once.**
-/

namespace OfflineWebArchiver.Scope

structure Url where
  protocol : JsString
  username : JsString
  password : JsString
  hostname : JsString
  /-- Empty for the port of the scheme. -/
  port : JsString
  pathname : JsString
  /-- With its `?`; empty where there is none. -/
  query : JsString
  /-- With its `#`; empty where there is none. -/
  fragment : JsString
  deriving DecidableEq

/-- What the scope engine takes from the platform. -/
structure ScopeEnv where
  /-- `toLowerCase()` -/
  lower : JsString → JsString
  /-- `trim()` -/
  trim : JsString → JsString
  /-- `new URL(value, base)`, or `none` where it throws. -/
  parseUrl : JsString → Option JsString → Option Url
  /-- The host that a text is parsed into, or `none` where `url.hostname = value` changes nothing. -/
  parseHost : JsString → Option JsString
  /-- The path that `url.pathname = value` leaves. -/
  parsePath : JsString → JsString
  domainToASCII : JsString → JsString
  /-- `searchParams.entries()` of a search. -/
  searchParams : JsString → List (JsString × JsString)
  /-- `search` after these parameters were appended to an empty one. -/
  searchText : List (JsString × JsString) → JsString
  /-- `getDomain(hostname, { allowPrivateDomains: true, detectSpecialUse: true })` -/
  getDomain : JsString → Option JsString
  /-- `sha256(value)`, in hexadecimal. -/
  sha256 : JsString → JsString

def Url.origin (url : Url) : JsString :=
  url.protocol ++ "//".toList ++ url.hostname ++ (if url.port = [] then [] else ':' :: url.port)

/-- `href` of a URL without credentials. -/
def Url.href (url : Url) : JsString := url.origin ++ url.pathname ++ url.query ++ url.fragment

/-- `search`, which is empty for a `?` alone. -/
def Url.search (url : Url) : JsString := if url.query = ['?'] then [] else url.query

/-- `hash`, which is empty for a `#` alone. -/
def Url.hash (url : Url) : JsString := if url.fragment = ['#'] then [] else url.fragment

def isHttp (url : Url) : Bool := url.protocol == "http:".toList || url.protocol == "https:".toList

/-- `SCOPE_LIMITS.urlLength`. -/
def urlLengthLimit : ℕ := 8192

inductive ScopeReasonCode
  | urlAccepted | urlInvalid | urlTooLong | urlControlCharacter | urlBackslashConfusion
  | urlInvalidPercentEncoding | urlCredentialsForbidden | schemeNotAllowed | domainDenied | domainNotAllowed
  | pathDenied | pathNotAllowed | queryDenied | sensitiveQueryRemoved | depthLimitReached | pageLimitReached
  | knownIdentity | privateNetworkNotAllowed | profileAuthorizationIncomplete | profileRevisionMismatch
  | sensitiveFragmentRemoved | depthInvalid | pageCountInvalid
  deriving DecidableEq

def ScopeReasonCode.text : ScopeReasonCode → String
  | .urlAccepted => "URL_ACCEPTED"
  | .urlInvalid => "URL_INVALID"
  | .urlTooLong => "URL_TOO_LONG"
  | .urlControlCharacter => "URL_CONTROL_CHARACTER"
  | .urlBackslashConfusion => "URL_BACKSLASH_CONFUSION"
  | .urlInvalidPercentEncoding => "URL_INVALID_PERCENT_ENCODING"
  | .urlCredentialsForbidden => "URL_CREDENTIALS_FORBIDDEN"
  | .schemeNotAllowed => "SCHEME_NOT_ALLOWED"
  | .domainDenied => "DOMAIN_DENIED"
  | .domainNotAllowed => "DOMAIN_NOT_ALLOWED"
  | .pathDenied => "PATH_DENIED"
  | .pathNotAllowed => "PATH_NOT_ALLOWED"
  | .queryDenied => "QUERY_DENIED"
  | .sensitiveQueryRemoved => "SENSITIVE_QUERY_REMOVED"
  | .depthLimitReached => "DEPTH_LIMIT_REACHED"
  | .pageLimitReached => "PAGE_LIMIT_REACHED"
  | .knownIdentity => "KNOWN_IDENTITY"
  | .privateNetworkNotAllowed => "PRIVATE_NETWORK_NOT_ALLOWED"
  | .profileAuthorizationIncomplete => "PROFILE_AUTHORIZATION_INCOMPLETE"
  | .profileRevisionMismatch => "PROFILE_REVISION_MISMATCH"
  | .sensitiveFragmentRemoved => "SENSITIVE_FRAGMENT_REMOVED"
  | .depthInvalid => "DEPTH_INVALID"
  | .pageCountInvalid => "PAGE_COUNT_INVALID"

/-- What the engine throws: a `ScopeEngineError` with the code `PROFILE_INVALID`, the `TypeError`
of the URL parser, or the error of the schema. -/
inductive ScopeThrown
  | profileInvalid (message : String)
  | invalidUrl
  | schema
  deriving DecidableEq

/-- `validateRawUrl(value)`. -/
def validateRawUrl (value : JsString) : Option ScopeReasonCode :=
  if urlLengthLimit < utf16Length value then some .urlTooLong
  else if value.any isControl then some .urlControlCharacter
  else if value.contains '\\' then some .urlBackslashConfusion
  else if hasInvalidPercent value then some .urlInvalidPercentEncoding
  else none

/-- `uppercaseEscapes(value)`. -/
def uppercaseEscapes : JsString → JsString
  | [] => []
  | '%' :: a :: b :: rest =>
    if (hexDigit a).isSome && (hexDigit b).isSome then '%' :: a.toUpper :: b.toUpper :: uppercaseEscapes rest
    else '%' :: uppercaseEscapes (a :: b :: rest)
  | c :: rest => c :: uppercaseEscapes rest

example : uppercaseEscapes "/a%2fB%zz%e".toList = "/a%2FB%zz%e".toList := by decide

theorem mem_hexDigits {c : Char} (h : (hexDigit c).isSome = true) : c ∈ "0123456789abcdefABCDEF".toList := by
  unfold hexDigit at h
  simp only [Char.le_def, UInt32.le_iff_toNat_le] at h
  have hval : c = Char.ofNat c.toNat := (Char.ofNat_toNat c).symm
  have hcases : (48 ≤ c.toNat ∧ c.toNat ≤ 57) ∨ (97 ≤ c.toNat ∧ c.toNat ≤ 102) ∨ (65 ≤ c.toNat ∧ c.toNat ≤ 70) := by
    split_ifs at h with h1 h2 h3
    · exact .inl h1
    · exact .inr (.inl h2)
    · exact .inr (.inr h3)
    · cases h
  rw [hval]
  rcases hcases with ⟨hlow, hhigh⟩ | ⟨hlow, hhigh⟩ | ⟨hlow, hhigh⟩
  · interval_cases c.toNat <;> decide
  · interval_cases c.toNat <;> decide
  · interval_cases c.toNat <;> decide

theorem toUpper_hexDigit {c : Char} (h : (hexDigit c).isSome = true) :
    (hexDigit c.toUpper).isSome = true ∧ c.toUpper.toUpper = c.toUpper := by
  have hall : ("0123456789abcdefABCDEF".toList.all fun c =>
      (hexDigit c.toUpper).isSome && c.toUpper.toUpper == c.toUpper) = true := by decide
  have hfound := List.all_eq_true.1 hall c (mem_hexDigits h)
  rwa [Bool.and_eq_true, beq_iff_eq] at hfound

theorem uppercaseEscapes_head (c : Char) (rest : JsString) : ∃ after, uppercaseEscapes (c :: rest) = c :: after := by
  rw [uppercaseEscapes.eq_def]
  split
  · exact absurd ‹_› (List.cons_ne_nil _ _)
  · rename_i heq
    cases heq
    split_ifs <;> exact ⟨_, rfl⟩
  · rename_i heq
    cases heq
    exact ⟨_, rfl⟩

/-- What does not begin an escape stays. -/
theorem uppercaseEscapes_kept (c : Char) (rest : JsString)
    (h : ∀ a b tail, c = '%' → rest = a :: b :: tail → ((hexDigit a).isSome && (hexDigit b).isSome) = false) :
    uppercaseEscapes (c :: rest) = c :: uppercaseEscapes rest := by
  rw [uppercaseEscapes.eq_def]
  split
  · exact absurd ‹_› (List.cons_ne_nil _ _)
  · rename_i a b tail heq
    cases heq
    rw [if_neg (by rw [h a b tail rfl rfl]; exact Bool.false_ne_true)]
  · rename_i heq
    cases heq
    rfl

/-- **The spelling of escapes is settled at once.** -/
theorem uppercaseEscapes_idem (text : JsString) : uppercaseEscapes (uppercaseEscapes text) = uppercaseEscapes text := by
  fun_induction uppercaseEscapes text with
  | case1 => rfl
  | case2 a b rest hescape ih =>
    rw [Bool.and_eq_true] at hescape
    obtain ⟨ha, haUpper⟩ := toUpper_hexDigit hescape.1
    obtain ⟨hb, hbUpper⟩ := toUpper_hexDigit hescape.2
    rw [uppercaseEscapes, ha, hb, haUpper, hbUpper, ih]
    rfl
  | case3 a b rest hescape ih =>
    rw [uppercaseEscapes_kept _ _ ?_, ih]
    -- The first character after the `%` is kept, and the second one too if the first is a digit.
    intro x y tail _ hrest
    obtain ⟨after, hafter⟩ := uppercaseEscapes_head a (b :: rest)
    have hx : x = a := by
      rw [hafter] at hrest
      exact (List.cons.inj hrest).1.symm
    subst hx
    rw [Bool.not_eq_true] at hescape
    by_cases hdigit : (hexDigit x).isSome = true
    · have hnot : x ≠ '%' := by
        rintro rfl
        exact absurd hdigit (by decide)
      obtain ⟨second, hsecond⟩ := uppercaseEscapes_head b rest
      rw [uppercaseEscapes_kept x (b :: rest) fun _ _ _ hpercent => absurd hpercent hnot, hsecond] at hrest
      have hy : y = b := (List.cons.inj (List.cons.inj hrest).2).1.symm
      rw [hy]
      exact hescape
    · rw [Bool.not_eq_true] at hdigit
      rw [hdigit, Bool.false_and]
  | case4 c rest hother ih =>
    rw [uppercaseEscapes_kept _ _ ?_, ih]
    rintro a b tail rfl hrest
    -- A `%` that begins no escape here has at most one character after it.
    match rest, hother, hrest with
    | [], _, hrest => cases hrest
    | [x], _, hrest =>
      have hkept := uppercaseEscapes_kept x [] fun _ _ _ _ htail => absurd htail (List.cons_ne_nil _ _).symm
      rw [hkept, uppercaseEscapes] at hrest
      cases hrest
    | x :: y :: zs, hother, _ => exact absurd rfl (hother x y zs rfl)

/-- `ordinalCompare(left, right) <= 0`. -/
def ordinalNotAfter (left right : JsString) : Bool := !jsLt right left

/-- The comparison of `sortPairs`, as "not after": by key, then by value. Sorting keeps the order
of pairs that agree, as their index does. -/
def pairNotAfter (left right : JsString × JsString) : Bool :=
  jsLt left.1 right.1 || (left.1 == right.1 && !jsLt right.2 left.2)

/-- `sortPairs(pairs)`. -/
def sortPairs (pairs : List (JsString × JsString)) : List (JsString × JsString) := pairs.mergeSort pairNotAfter

end OfflineWebArchiver.Scope
