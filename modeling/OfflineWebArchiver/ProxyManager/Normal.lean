import OfflineWebArchiver.ProxyManager.Values

/-!
# Normal forms of an endpoint

What `normalizeProxyHost` returns it returns again, and so do the other checks of an endpoint.

* `normalizeProxyHost_ok`: the shape of a host, and that it is a fixed point.
* `normalizeProxyProtocol_text`, `normalizeProxyPort_int`: the other two parts.
* `Endpoint`: an accepted endpoint. `Endpoint.canonical`: its text.
* `Endpoint.identity_injective`: **different endpoints have different texts.**
-/

namespace OfflineWebArchiver.ProxyManager

open Checks

variable {env : ProxyEnv} {t host : Text} {c : CodeUnit}

/-! ### Units -/

@[simp] theorem unit_toNat_le {a : Char} (h : a.toNat < 65536) : unit a ≤ c ↔ a.toNat ≤ c.toNat := by
  rw [UInt16.le_iff_toNat_le, unit, Nat.toUInt16, UInt16.toNat_ofNat_of_lt' h]

@[simp] theorem le_unit_toNat {a : Char} (h : a.toNat < 65536) : c ≤ unit a ↔ c.toNat ≤ a.toNat := by
  rw [UInt16.le_iff_toNat_le, unit, Nat.toUInt16, UInt16.toNat_ofNat_of_lt' h]

theorem eq_unit {a : Char} (h : a.toNat < 65536) : c = unit a ↔ c.toNat = a.toNat := by
  rw [← UInt16.toNat_inj, unit, Nat.toUInt16, UInt16.toNat_ofNat_of_lt' h]

theorem isAlnumUnit_iff : isAlnumUnit c = true ↔
    48 ≤ c.toNat ∧ c.toNat ≤ 57 ∨ 65 ≤ c.toNat ∧ c.toNat ≤ 90 ∨ 97 ≤ c.toNat ∧ c.toNat ≤ 122 := by
  simp [isAlnumUnit, or_assoc]

theorem isHostUnit_iff : isHostUnit c = true ↔
    isAlnumUnit c = true ∨ c.toNat = 46 ∨ c.toNat = 45 := by
  simp [isHostUnit, eq_unit, or_assoc]

theorem isIpv6Unit_iff : isIpv6Unit c = true ↔
    48 ≤ c.toNat ∧ c.toNat ≤ 57 ∨ 65 ≤ c.toNat ∧ c.toNat ≤ 70 ∨ 97 ≤ c.toNat ∧ c.toNat ≤ 102 ∨ c.toNat = 58 := by
  simp [isIpv6Unit, eq_unit, or_assoc]

/-- Printable ASCII, without the space and without upper-case letters. -/
def IsPlain (c : CodeUnit) : Prop := 33 ≤ c.toNat ∧ c.toNat < 127 ∧ ¬(65 ≤ c.toNat ∧ c.toNat ≤ 90)

instance : DecidablePred IsPlain := fun _ => inferInstanceAs (Decidable (_ ∧ _))

/-- A unit that is no upper-case letter. -/
def NotUpper (c : CodeUnit) : Prop := ¬(65 ≤ c.toNat ∧ c.toNat ≤ 90)

theorem IsPlain.not_space (h : IsPlain c) : isSpaceUnit c = false := by
  unfold IsPlain at h
  simp [isSpaceUnit, UInt16.le_iff_toNat_le, ← UInt16.toNat_inj]
  omega

theorem IsPlain.not_control (h : IsPlain c) : isControlUnit c = false := by
  unfold IsPlain at h
  simp [isControlUnit, UInt16.le_iff_toNat_le, ← UInt16.toNat_inj]
  omega

theorem IsPlain.lowerUnit (h : IsPlain c) : lowerUnit c = c := by
  unfold IsPlain at h
  rw [OfflineWebArchiver.lowerUnit, if_neg]
  simp
  omega

theorem lowerUnit_notUpper (c : CodeUnit) : NotUpper (lowerUnit c) := by
  unfold OfflineWebArchiver.lowerUnit NotUpper
  split_ifs with h
  · simp only [Bool.and_eq_true, decide_eq_true_eq] at h
    rw [unit_toNat_le (by decide), le_unit_toNat (by decide)] at h
    have hc : 65 ≤ c.toNat ∧ c.toNat ≤ 90 := h
    rw [UInt16.toNat_add, show (32 : UInt16).toNat = 32 from rfl]
    omega
  · simp only [Bool.and_eq_true, decide_eq_true_eq] at h
    rw [unit_toNat_le (by decide), le_unit_toNat (by decide)] at h
    exact h

/-! ### Trimming and lower case -/

theorem trimUnits_of_not_space (h : ∀ c ∈ t, isSpaceUnit c = false) : trimUnits t = t := by
  have hdrop : ∀ {s : Text}, (∀ c ∈ s, isSpaceUnit c = false) → s.dropWhile isSpaceUnit = s := by
    intro s hs
    cases s with
    | nil => rfl
    | cons c rest => exact List.dropWhile_cons_of_neg (by simp [hs c (by simp)])
  unfold trimUnits
  rw [hdrop h, hdrop fun c hc => h c (List.mem_reverse.1 hc), List.reverse_reverse]

theorem trimUnits_plain (h : ∀ c ∈ t, IsPlain c) : trimUnits t = t :=
  trimUnits_of_not_space fun c hc => (h c hc).not_space

theorem lower_plain (h : ∀ c ∈ t, IsPlain c) : env.lower t = t := by
  obtain ⟨pieces, heq, hpieces⟩ := env.lowerCase t
  have hall : pieces = t.map fun c => [c] := by
    clear heq
    induction hpieces with
    | nil => rfl
    | @cons a _ _ _ hpiece _ ih =>
      have hplain : IsPlain a := h a (by simp)
      have hc := hplain
      rw [List.map_cons, ih fun c hc => h c (by simp [hc])]
      congr 1
      unfold IsPlain at hc
      cases hpiece with
      | ascii _ => rw [hplain.lowerUnit]
      | dotted => simp at hc
      | kelvin => simp at hc
      | other hhigh =>
        rw [UInt16.le_iff_toNat_le, show (0x80 : UInt16).toNat = 128 from rfl] at hhigh
        omega
  rw [heq, hall, ← List.flatMap_def, List.flatMap_singleton']

theorem lower_notUpper (h : c ∈ env.lower t) : NotUpper c := by
  obtain ⟨pieces, heq, hpieces⟩ := env.lowerCase t
  rw [heq] at h
  clear heq
  induction hpieces with
  | nil => simp at h
  | cons hpiece _ ih =>
    rw [List.flatten_cons, List.mem_append] at h
    rcases h with h | h
    · cases hpiece with
      | ascii _ => rw [List.mem_singleton.1 h]; exact lowerUnit_notUpper _
      | dotted =>
        simp only [List.mem_cons, List.not_mem_nil, or_false] at h
        unfold NotUpper
        rcases h with rfl | rfl <;> decide
      | kelvin => rw [List.mem_singleton.1 h]; unfold NotUpper; decide
      | other _ _ hd =>
        rw [List.mem_singleton.1 h]
        rw [UInt16.le_iff_toNat_le, show (0x80 : UInt16).toNat = 128 from rfl] at hd
        unfold NotUpper
        omega
    · exact ih h

theorem assertSafeString_plain {label : String} {maximum : ℕ} (hne : t ≠ []) (hlen : t.length ≤ maximum)
    (h : ∀ c ∈ t, IsPlain c) : assertSafeString (some (.text t)) label maximum = .ok t := by
  simp only [assertSafeString]
  rw [if_neg]
  rw [not_or, not_or]
  refine ⟨hne, not_lt.2 hlen, ?_⟩
  rw [List.any_eq_true]
  rintro ⟨c, hc, hcontrol⟩
  rw [(h c hc).not_control] at hcontrol
  cases hcontrol

/-! ### Hosts -/

/-- **An accepted host**: an IPv6 literal or a name. -/
structure IsHost (host : Text) : Prop where
  notUpper : ∀ c ∈ host, NotUpper c
  ne_nil : host ≠ []
  separators : unit '/' ∉ host ∧ unit '@' ∉ host ∧ unit '#' ∉ host ∧ unit '?' ∉ host
  literal : unit ':' ∈ host → isIpv6Text host = true ∧ includes host (asciiUnits ":::") = false ∧
    includes host (asciiUnits "::") = true
  name : unit ':' ∉ host → isHostText host = true ∧ includes host (asciiUnits "..") = false ∧
    ((host.splitOn (unit '.')).any fun part => 63 < part.length) = false

theorem stripBrackets_subset (h : c ∈ stripBrackets t) : c ∈ t := by
  unfold stripBrackets at h
  split_ifs at h
  · exact List.mem_of_mem_tail (List.mem_of_mem_dropLast h)
  · exact h

theorem stripFinalDot_subset (h : c ∈ stripFinalDot t) : c ∈ t := by
  unfold stripFinalDot at h
  split_ifs at h
  · exact List.mem_of_mem_dropLast h
  · exact h

theorem normalizeProxyHost_ok {value : Unknown} (h : normalizeProxyHost env value = .ok host) : IsHost host := by
  unfold normalizeProxyHost at h
  obtain ⟨value, -, h⟩ := bind_ok.1 h
  obtain ⟨hsafe, h⟩ := failIf_bind_ok.1 h
  have hupper : ∀ c ∈ stripFinalDot (stripBrackets (env.lower (trimUnits value))), NotUpper c :=
    fun c hc => lower_notUpper (stripBrackets_subset (stripFinalDot_subset hc))
  generalize stripFinalDot (stripBrackets (env.lower (trimUnits value))) = stripped at *
  simp only [not_or] at hsafe
  obtain ⟨hne, hslash, hat, hhash, hquery⟩ := hsafe
  split_ifs at h with hcolon
  · obtain ⟨hform, h⟩ := failIf_bind_ok.1 h
    obtain rfl := pure_ok.1 h
    simp only [not_or, Bool.not_eq_false, Bool.not_eq_true] at hform
    exact ⟨hupper, hne, ⟨hslash, hat, hhash, hquery⟩, fun _ => hform, fun hno => absurd hcolon hno⟩
  · obtain ⟨hform, h⟩ := failIf_bind_ok.1 h
    obtain rfl := pure_ok.1 h
    simp only [not_or, Bool.not_eq_false, Bool.not_eq_true] at hform
    exact ⟨hupper, hne, ⟨hslash, hat, hhash, hquery⟩, fun hyes => absurd hyes hcolon, fun _ => hform⟩

namespace IsHost

variable (h : IsHost host)
include h

/-- The units of a host: those of a name, and the colon. -/
theorem unit_cases (hc : c ∈ host) : isHostUnit c = true ∨ c = unit ':' := by
  by_cases hcolon : unit ':' ∈ host
  · have hall := (h.literal hcolon).1
    simp only [isIpv6Text, Bool.and_eq_true, List.all_eq_true] at hall
    rw [isHostUnit_iff, isAlnumUnit_iff, eq_unit (by decide)]
    have := isIpv6Unit_iff.1 (hall.2 c hc)
    have hchar : ':'.toNat = 58 := rfl
    omega
  · have hall := (h.name hcolon).1
    simp only [isHostText, Bool.and_eq_true, List.all_eq_true] at hall
    exact Or.inl (hall.1.1.2 c hc)

theorem plain (hc : c ∈ host) : IsPlain c := by
  have hupper := h.notUpper c hc
  have hcases := h.unit_cases hc
  rw [isHostUnit_iff, isAlnumUnit_iff, eq_unit (by decide), show ':'.toNat = 58 from rfl] at hcases
  unfold IsPlain NotUpper at *
  omega

theorem length_le : host.length ≤ 253 := by
  by_cases hcolon : unit ':' ∈ host
  · have hall := (h.literal hcolon).1
    simp only [isIpv6Text, Bool.and_eq_true, decide_eq_true_eq] at hall
    omega
  · have hall := (h.name hcolon).1
    simp only [isHostText, Bool.and_eq_true, decide_eq_true_eq] at hall
    exact hall.1.1.1.2

theorem stripBrackets : ProxyManager.stripBrackets host = host := by
  unfold ProxyManager.stripBrackets
  rw [if_neg]
  rintro ⟨hhead, -⟩
  have hcases := h.unit_cases (List.mem_of_head? hhead)
  rw [isHostUnit_iff, isAlnumUnit_iff] at hcases
  revert hcases
  decide

theorem stripFinalDot : ProxyManager.stripFinalDot host = host := by
  unfold ProxyManager.stripFinalDot
  rw [if_neg]
  intro hlast
  by_cases hcolon : unit ':' ∈ host
  · have hall := (h.literal hcolon).1
    simp only [isIpv6Text, Bool.and_eq_true, List.all_eq_true] at hall
    have := hall.2 _ (List.mem_of_getLast? hlast)
    revert this
    decide
  · have hall := (h.name hcolon).1
    simp only [isHostText, Bool.and_eq_true, hlast, Option.all_some] at hall
    have := hall.2
    revert this
    decide

/-- **A host is normalised already.** -/
theorem fixed : normalizeProxyHost env (some (.text host)) = .ok host := by
  have hplain : ∀ c ∈ host, IsPlain c := fun c hc => h.plain hc
  unfold normalizeProxyHost
  rw [assertSafeString_plain h.ne_nil h.length_le hplain, ok_bind, trimUnits_plain hplain, lower_plain hplain,
    h.stripBrackets, h.stripFinalDot, failIf_bind,
    if_neg (by simp only [not_or]; exact ⟨h.ne_nil, h.separators⟩)]
  split_ifs with hcolon
  · obtain ⟨h1, h2, h3⟩ := h.literal hcolon
    rw [failIf_bind, if_neg (by simp [h1, h2, h3])]
    rfl
  · obtain ⟨h1, h2, h3⟩ := h.name hcolon
    rw [failIf_bind, if_neg (by rw [h1, h2, h3]; decide)]
    rfl

end IsHost

/-! ### Protocols and ports -/

theorem asciiUnits_plain {s : String} (h : ((asciiUnits s).all fun c => decide (IsPlain c)) = true) :
    ∀ c ∈ asciiUnits s, IsPlain c :=
  fun c hc => of_decide_eq_true (List.all_eq_true.1 h c hc)

theorem protocol_plain (p : ProxyProtocol) : ∀ c ∈ p.text, IsPlain c := by
  cases p with
  | http => exact asciiUnits_plain rfl
  | https => exact asciiUnits_plain rfl
  | socks5 => exact asciiUnits_plain rfl

theorem normalizeProxyProtocol_text (p : ProxyProtocol) :
    normalizeProxyProtocol env (some (.text p.text)) = .ok p := by
  simp only [normalizeProxyProtocol]
  rw [trimUnits_plain (protocol_plain p), lower_plain (protocol_plain p)]
  cases p <;> rfl

theorem boundedInteger?_eq_some {value : Unknown} {low high n : ℤ} (h : boundedInteger? value low high = some n) :
    low ≤ n ∧ n ≤ high := by
  unfold boundedInteger? at h
  split at h
  · split_ifs at h with hq
    cases h
    exact hq.2
  · cases h

theorem boundedInteger?_int {low high n : ℤ} (hlow : low ≤ n) (hhigh : n ≤ high) :
    boundedInteger? (some (.number (some n))) low high = some n := by
  simp [boundedInteger?, Rat.isInt, hlow, hhigh]

theorem normalizeProxyPort_ok {value : Unknown} {n : ℤ} (h : normalizeProxyPort value = .ok n) : 1 ≤ n ∧ n ≤ 65535 := by
  unfold normalizeProxyPort at h
  split at h
  · cases h
    exact boundedInteger?_eq_some ‹_›
  · cases h

theorem normalizeProxyPort_int {n : ℤ} (h : 1 ≤ n ∧ n ≤ 65535) :
    normalizeProxyPort (some (.number (some n))) = .ok n := by
  unfold normalizeProxyPort
  rw [boundedInteger?_int h.1 h.2]

/-! ### Identities -/

/-- An accepted endpoint. -/
structure Endpoint where
  protocol : ProxyProtocol
  host : Text
  port : ℤ
  isHost : IsHost host
  isPort : 1 ≤ port ∧ port ≤ 65535

/-- The text that identifies an endpoint. -/
def Endpoint.identity (e : Endpoint) : Text :=
  e.protocol.text ++ asciiUnits "://" ++ urlHost e.host ++ unit ':' :: integerText e.port

theorem Endpoint.canonical (e : Endpoint) :
    canonicalProxyIdentity env e.protocol e.host e.port = .ok e.identity := by
  unfold canonicalProxyIdentity
  rw [normalizeProxyProtocol_text, ok_bind, e.isHost.fixed, ok_bind, normalizeProxyPort_int e.isPort, ok_bind]
  rfl

theorem integerText_injective {m n : ℤ} (hm : 0 ≤ m) (hn : 0 ≤ n) (h : integerText m = integerText n) : m = n := by
  unfold integerText at h
  rw [if_neg (not_lt.2 hm), if_neg (not_lt.2 hn), List.nil_append, List.nil_append] at h
  have hdigit : ∀ {k : ℕ} {c : Char}, c ∈ Nat.toDigits 10 k → 48 ≤ c.toNat ∧ c.toNat ≤ 57 := fun hc =>
    Char.isDigit_iff_toNat.1 (Nat.isDigit_of_mem_toDigits (by decide) (by decide) hc)
  have hback : ∀ k : ℕ, ((Nat.toDigits 10 k).map unit).map (fun u => Char.ofNat u.toNat) = Nat.toDigits 10 k := by
    intro k
    rw [List.map_map]
    refine (List.map_congr_left fun c hc => ?_).trans (List.map_id _)
    have hc := hdigit hc
    rw [Function.comp_apply, unit, Nat.toUInt16, UInt16.toNat_ofNat_of_lt' (show _ < 65536 by omega), Char.ofNat_toNat, id]
  have hchars := congrArg (List.map fun u => Char.ofNat u.toNat) h
  rw [hback, hback] at hchars
  have hvalue := congrArg (fun ds => Nat.ofDigitChars 10 ds 0) hchars
  simp only [Nat.ofDigitChars_toDigits (b := 10) (by decide) (by decide)] at hvalue
  omega

theorem unit_mem_digits {k : ℕ} {a : Char} (ha : ¬(48 ≤ a.toNat ∧ a.toNat ≤ 57)) (hlt : a.toNat < 65536) :
    unit a ∉ (Nat.toDigits 10 k).map unit := by
  intro hmem
  obtain ⟨c, hc, heq⟩ := List.mem_map.1 hmem
  have hdigit : 48 ≤ c.toNat ∧ c.toNat ≤ 57 :=
    Char.isDigit_iff_toNat.1 (Nat.isDigit_of_mem_toDigits (by decide) (by decide) hc)
  rw [eq_unit hlt, unit, Nat.toUInt16, UInt16.toNat_ofNat_of_lt' (show _ < 65536 by omega)] at heq
  omega

theorem IsHost.no_bracket (h : IsHost host) : unit '[' ∉ host := by
  intro hmem
  have := h.unit_cases hmem
  revert this
  decide

theorem urlHost_injective {host' : Text} (h : IsHost host) (h' : IsHost host') (heq : urlHost host = urlHost host') :
    host = host' := by
  unfold urlHost at heq
  split_ifs at heq with hcolon hcolon'
  · simpa using heq
  · exact absurd (heq ▸ List.mem_cons_self) h'.no_bracket
  · exact absurd (heq ▸ List.mem_cons_self) h.no_bracket
  · exact heq

/-- What stands in front of the first separator, and what stands behind it. -/
theorem append_separator_inj {a : CodeUnit} {x y z w : Text} (hx : a ∉ x) (hy : a ∉ y)
    (h : x ++ a :: z = y ++ a :: w) : x = y ∧ z = w := by
  induction x generalizing y with
  | nil =>
    cases y with
    | nil => exact ⟨rfl, List.tail_eq_of_cons_eq h⟩
    | cons b y => exact absurd (List.head_eq_of_cons_eq h) fun heq => hy (by simp [heq])
  | cons b x ih =>
    cases y with
    | nil => exact absurd (List.head_eq_of_cons_eq h) fun heq => hx (by simp [heq])
    | cons b' y =>
      rw [List.cons_append, List.cons_append, List.cons.injEq] at h
      obtain ⟨rfl, rfl⟩ := ih (fun hmem => hx (List.mem_cons_of_mem _ hmem))
        (fun hmem => hy (List.mem_cons_of_mem _ hmem)) h.2
      exact ⟨by rw [h.1], rfl⟩

/-- **Different endpoints have different texts.** -/
theorem Endpoint.identity_injective {e e' : Endpoint} (h : e.identity = e'.identity) :
    e.protocol = e'.protocol ∧ e.host = e'.host ∧ e.port = e'.port := by
  have hnocolon : ∀ p : ProxyProtocol, unit ':' ∉ p.text := fun p => by cases p <;> decide
  have hprotocol : ∀ {p p' : ProxyProtocol}, p.text = p'.text → p = p' := by
    intro p p'
    cases p <;> cases p' <;> decide
  have hcolon : asciiUnits "://" = unit ':' :: asciiUnits "//" := rfl
  unfold Endpoint.identity at h
  simp only [hcolon, List.append_assoc, List.cons_append] at h
  obtain ⟨hfirst, hrest⟩ := append_separator_inj (hnocolon _) (hnocolon _) h
  have hhosts := List.append_cancel_left hrest
  -- the last colon stands in front of the port
  have hreverse := congrArg List.reverse hhosts
  have hport : ∀ e : Endpoint, integerText e.port = (Nat.toDigits 10 e.port.natAbs).map unit := fun e => by
    unfold integerText
    rw [if_neg (by have := e.isPort; omega), List.nil_append]
  rw [hport, hport] at hreverse
  simp only [List.reverse_append, List.reverse_cons, List.append_assoc, List.singleton_append] at hreverse
  have hnodigit : ∀ k : ℕ, unit ':' ∉ ((Nat.toDigits 10 k).map unit).reverse := fun k hmem =>
    unit_mem_digits (by decide) (by decide) (List.mem_reverse.1 hmem)
  obtain ⟨hdigits, hback⟩ := append_separator_inj (hnodigit _) (hnodigit _) hreverse
  have hp := e.isPort
  have hp' := e'.isPort
  refine ⟨hprotocol hfirst, urlHost_injective e.isHost e'.isHost (List.reverse_inj.1 hback), ?_⟩
  apply integerText_injective (by omega) (by omega)
  rw [hport, hport, List.reverse_inj.1 hdigits]

end OfflineWebArchiver.ProxyManager
