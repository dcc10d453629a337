import OfflineWebArchiver.Lib.Checks
import OfflineWebArchiver.Scope.Url

/-!
# Hosts

* `canonicalHostname`: the spelling of a host under which rules are compared.
* `classifyHost`: the network that an address belongs to.
-/

namespace OfflineWebArchiver.Scope

/-- `[a-z0-9]` -/
def isLowerAlphanum (c : Char) : Bool := c.isLower || c.isDigit

/-- The number that decimal digits write. -/
def decimal (digits : JsString) : ℕ := digits.foldl (fun n c => 10 * n + (c.toNat - '0'.toNat)) 0

/-- `ipv4Bytes(host)`. -/
def ipv4Bytes (host : JsString) : Option (List ℕ) :=
  let parts := host.splitOn '.'
  if parts.length ≠ 4 ∨ (parts.any fun part => part = [] ∨ 3 < part.length ∨ !part.all Char.isDigit) = true then none
  else if parts.all (decimal · ≤ 255) then some (parts.map decimal)
  else none

/-- `text.split("::")`. -/
def splitDouble : JsString → List JsString
  | [] => [[]]
  | ':' :: ':' :: rest => [] :: splitDouble rest
  | c :: rest => (splitDouble rest).modifyHead (c :: ·)

/-- The words of one group of an IPv6 text. -/
def ipv6Part (part : JsString) : Option (List ℕ) :=
  match ipv4Bytes part with
  | some [a, b, c, d] => some [a * 256 + b, c * 256 + d]
  | _ =>
    if part ≠ [] ∧ part.length ≤ 4 ∧ part.all (fun c => c.isDigit || ('a' ≤ c && c ≤ 'f')) then
      some [part.foldl (fun n c => 16 * n + (hexDigit c).getD 0) 0]
    else none

/-- `parseSide(side)`. -/
def parseSide (side : JsString) : Option (List ℕ) :=
  if side = [] then some [] else ((side.splitOn ':').mapM ipv6Part).map List.flatten

variable (env : ScopeEnv)

/-- `ipv6Words(host)`. -/
def ipv6Words (host : JsString) : Option (List ℕ) :=
  let raw := (env.lower host).takeWhile (· != '%')
  if !raw.contains ':' then none
  else
    match splitDouble raw with
    | [whole] => do
      let words ← parseSide whole
      if words.length = 8 then some words else none
    | [left, right] => do
      let before ← parseSide left
      let after ← parseSide right
      if before.length + after.length < 8 then
        some (before ++ List.replicate (8 - before.length - after.length) 0 ++ after)
      else none
    | _ => none

inductive IpAddressClass
  | publicNetwork | loopback | privateNetwork | linkLocal | multicast | reserved | unspecified | invalid | unknownHostname
  deriving DecidableEq

/-- The class of an IPv4 address, by its first three bytes. -/
def classifyIpv4 (a b c : ℕ) : IpAddressClass :=
  if a = 0 then .unspecified
  else if a = 127 then .loopback
  else if a = 10 ∨ (a = 172 ∧ 16 ≤ b ∧ b ≤ 31) ∨ (a = 192 ∧ b = 168) then .privateNetwork
  else if a = 169 ∧ b = 254 then .linkLocal
  else if 224 ≤ a ∧ a ≤ 239 then .multicast
  else if 240 ≤ a ∨ (a = 192 ∧ b = 0 ∧ c = 2) ∨ (a = 198 ∧ b = 51 ∧ c = 100) ∨ (a = 203 ∧ b = 0 ∧ c = 113) then
    .reserved
  else .publicNetwork

/-- The class of an IPv6 address. The text of a mapped IPv4 address is read back as its bytes. -/
def classifyIpv6 (words : List ℕ) : IpAddressClass :=
  let word (n : ℕ) : ℕ := words.getD n 0
  if words.all (· == 0) then .unspecified
  else if (words.take 7).all (· == 0) && word 7 == 1 then .loopback
  else if word 0 / 0x200 = 0xfc00 / 0x200 then .privateNetwork
  else if word 0 / 0x40 = 0xfe80 / 0x40 then .linkLocal
  else if word 0 / 0x100 = 0xff then .multicast
  else if word 0 = 0x2001 ∧ word 1 = 0x0db8 then .reserved
  else if (words.take 5).all (· == 0) ∧ word 5 = 0xffff then
    classifyIpv4 (word 6 / 256) (word 6 % 256) (word 7 / 256)
  else .publicNetwork

/-- `hostnameValue.replace(/^\[|\]$/g, "")`. -/
def stripBrackets (host : JsString) : JsString :=
  let opened := match host with
    | '[' :: rest => rest
    | _ => host
  if opened.getLast? = some ']' then opened.dropLast else opened

/-- `classifyHost(hostnameValue)`. -/
def classifyHost (hostnameValue : JsString) : IpAddressClass :=
  let host := env.lower (stripBrackets hostnameValue)
  match ipv4Bytes host with
  | some bytes => classifyIpv4 (bytes.getD 0 0) (bytes.getD 1 0) (bytes.getD 2 0)
  | none =>
    match ipv6Words env host with
    | some words => classifyIpv6 words
    | none => if host.contains ':' then .invalid else .unknownHostname

/-- `value.startsWith("[") && value.endsWith("]") ? value.slice(1, -1) : value`. -/
def withoutBrackets (value : JsString) : JsString :=
  if value.head? = some '[' ∧ value.getLast? = some ']' then (value.drop 1).dropLast else value

/-- `value.replace(/\.$/, "")`. -/
def withoutDot (value : JsString) : JsString := if value.getLast? = some '.' then value.dropLast else value

/-- `canonicalHostname(value)`. -/
def canonicalHostname (value : JsString) : Except ScopeThrown JsString :=
  let host := withoutBrackets value
  if host.contains ':' then
    if ipv6Words env host = none then .error (.profileInvalid "A domain rule contains an invalid IPv6 address")
    else .ok (env.lower host)
  else
    let ascii := env.lower (env.domainToASCII (withoutDot host))
    if ascii = [] then .error (.profileInvalid "A domain rule contains an invalid hostname") else .ok ascii

/-- `host.includes(":") ? "[" + host + "]" : host` -/
def bracketed (host : JsString) : JsString := if host.contains ':' then '[' :: host ++ [']'] else host

/-- What `url.hostname = host.includes(":") ? "[" + host + "]" : host` leaves. -/
def setHostname (url : Url) (host : JsString) : Url :=
  { url with hostname := (env.parseHost (bracketed host)).getD url.hostname }

/-! ### Canonical hosts -/

section Canonical

variable {env : ScopeEnv} {text host : JsString}

/-- An address between brackets is read and kept. -/
theorem canonicalHostname_bracketed {address : JsString} (h : ':' ∈ address) :
    canonicalHostname env ('[' :: address ++ [']']) =
      if ipv6Words env address = none then
        .error (.profileInvalid "A domain rule contains an invalid IPv6 address")
      else .ok (env.lower address) := by
  have hopened : withoutBrackets ('[' :: address ++ [']']) = address := by
    unfold withoutBrackets
    rw [if_pos ⟨rfl, List.getLast?_concat⟩]
    simp
  unfold canonicalHostname
  simp only [hopened, List.contains_iff_mem.2 h, if_true]

theorem withoutBrackets_plain (h : text.head? ≠ some '[') : withoutBrackets text = text := by
  unfold withoutBrackets
  rw [if_neg fun hboth => h hboth.1]

/-- A text without brackets and without `:` goes through `domainToASCII`. -/
theorem canonicalHostname_name (hopen : '[' ∉ text) (hcolon : ':' ∉ text) :
    canonicalHostname env text =
      if env.lower (env.domainToASCII (withoutDot text)) = [] then
        .error (.profileInvalid "A domain rule contains an invalid hostname")
      else .ok (env.lower (env.domainToASCII (withoutDot text))) := by
  have hplain : withoutBrackets text = text :=
    withoutBrackets_plain fun hhead => hopen (List.mem_of_head? hhead)
  unfold canonicalHostname
  simp only [hplain, List.contains_iff_mem, hcolon, if_false]

end Canonical

end OfflineWebArchiver.Scope
