import Mathlib.Algebra.Order.Field.Basic
import Mathlib.Algebra.Order.Ring.Unbundled.Rat
import Mathlib.Data.List.DropRight
import OfflineWebArchiver.Base.JsOrder
import OfflineWebArchiver.ProxyManager.Metadata
import OfflineWebArchiver.ProxyManager.Normal

/-!
# New records

What `normalizeProxyDraft` accepts it accepts again, so a record that `createProxyMetadata` makes
passes `assertProxyMetadata`.

* `normalizeProxyFields_ok`: **the parts of an accepted configuration**.
* `createProxyMetadata_ok`: the record that is made of it.
* `createProxyMetadata_valid`: **a new record is valid**.
-/

namespace OfflineWebArchiver.ProxyManager

open Checks

variable {env : ProxyEnv} {t : Text} {c : CodeUnit} {value : Unknown}

/-! ### Texts -/

/-- Trimming leaves nothing to trim. -/
theorem trimUnits_idem (t : Text) : trimUnits (trimUnits t) = trimUnits t := by
  have hright : ∀ s : Text, trimUnits s = (s.dropWhile isSpaceUnit).rdropWhile isSpaceUnit := fun s => rfl
  rw [hright t]
  set front := t.dropWhile isSpaceUnit with hfront
  have hdrop : (front.rdropWhile isSpaceUnit).dropWhile isSpaceUnit = front.rdropWhile isSpaceUnit := by
    cases hcut : front.rdropWhile isSpaceUnit with
    | nil => rfl
    | cons c rest =>
      -- the first unit of a prefix of `front` is the first unit of `front`
      obtain ⟨tail, htail⟩ := hcut ▸ List.rdropWhile_prefix isSpaceUnit front
      have hhead : ¬isSpaceUnit c = true := by
        have := List.head?_dropWhile_not isSpaceUnit t
        rw [← hfront, ← htail, List.cons_append, List.head?_cons] at this
        simpa using this
      exact List.dropWhile_cons_of_neg hhead
  rw [hright, hdrop, List.rdropWhile_idempotent]

theorem isHighSurrogate_iff : isHighSurrogate c = true ↔ 0xd800 ≤ c.toNat ∧ c.toNat ≤ 0xdbff := by
  simp [isHighSurrogate, UInt16.le_iff_toNat_le]

theorem isLowSurrogate_iff : isLowSurrogate c = true ↔ 0xdc00 ≤ c.toNat ∧ c.toNat ≤ 0xdfff := by
  simp [isLowSurrogate, UInt16.le_iff_toNat_le]

/-- A string of characters is read back from its code units. -/
theorem scalarsOf_unitsOf (s : JsString) : scalarsOf (unitsOf s) = s := by
  have hnat : ∀ {n : ℕ}, n < 65536 → n.toUInt16.toNat = n := fun h => UInt16.toNat_ofNat_of_lt' h
  induction s with
  | nil => rfl
  | cons d s ih =>
    have hvalid := toNat_not_surrogate d
    have hcons : unitsOf (d :: s) = (charUnits d).map Nat.toUInt16 ++ unitsOf s := by
      rw [unitsOf, codeUnits_cons, List.map_append, unitsOf]
    rw [hcons]
    unfold charUnits
    dsimp only
    split_ifs with hsmall
    · -- one unit, which is no surrogate
      have hhigh : isHighSurrogate d.toNat.toUInt16 = false := by
        rw [Bool.eq_false_iff, ne_eq, isHighSurrogate_iff, hnat hsmall]
        omega
      have hlow : isLowSurrogate d.toNat.toUInt16 = false := by
        rw [Bool.eq_false_iff, ne_eq, isLowSurrogate_iff, hnat hsmall]
        omega
      have hscalar : unitScalar d.toNat.toUInt16 = d := by
        rw [unitScalar, hhigh, hlow]
        simp [hnat hsmall]
      cases hrest : unitsOf s with
      | nil =>
        rw [hrest] at ih
        rw [List.map_singleton, List.append_nil, scalarsOf, hscalar, ← ih]
        rfl
      | cons low rest =>
        rw [hrest] at ih
        rw [List.map_singleton, List.singleton_append, scalarsOf, hhigh, Bool.false_and]
        simp [hscalar, ih]
    · -- a surrogate pair
      have hbig : 0x10000 ≤ d.toNat ∧ d.toNat < 0x110000 := by omega
      have hdiv := Nat.div_add_mod (d.toNat - 0x10000) 0x400
      have hhigh : isHighSurrogate (0xd800 + (d.toNat - 0x10000) / 0x400).toUInt16 = true := by
        rw [isHighSurrogate_iff, hnat (by omega)]
        omega
      have hlow : isLowSurrogate (0xdc00 + (d.toNat - 0x10000) % 0x400).toUInt16 = true := by
        rw [isLowSurrogate_iff, hnat (by omega)]
        omega
      have hvalue : 0x10000 + (0xd800 + (d.toNat - 0x10000) / 0x400 - 0xd800) * 0x400 +
          (0xdc00 + (d.toNat - 0x10000) % 0x400 - 0xdc00) = d.toNat := by omega
      simp only [List.map_cons, List.map_nil, List.cons_append, List.nil_append, scalarsOf, hhigh, hlow,
        Bool.and_self, ite_true]
      rw [hnat (by omega), hnat (by omega), hvalue, Char.ofNat_toNat, ih]

/-! ### Checks that accept what they return -/

theorem isAlnumUnit_not_control (h : isAlnumUnit c = true) : isControlUnit c = false := by
  rw [isAlnumUnit_iff] at h
  simp [isControlUnit, UInt16.le_iff_toNat_le, ← UInt16.toNat_inj]
  omega

theorem matchesSafeText_ok {extra : Text} {n : ℕ} (hextra : (extra.all fun c => !isControlUnit c) = true)
    (h : matchesSafeText extra n t = true) :
    t ≠ [] ∧ t.length ≤ n + 1 ∧ ∀ c ∈ t, isControlUnit c = false := by
  cases t with
  | nil => cases h
  | cons c rest =>
    simp only [matchesSafeText, Bool.and_eq_true, decide_eq_true_eq, List.all_eq_true, Bool.or_eq_true] at h
    obtain ⟨⟨hfirst, hlen⟩, hrest⟩ := h
    refine ⟨by simp, by simpa using hlen, fun d hd => ?_⟩
    rcases List.mem_cons.1 hd with rfl | hd
    · exact isAlnumUnit_not_control hfirst
    · rcases hrest d hd with halnum | hmem
      · exact isAlnumUnit_not_control halnum
      · simpa using List.all_eq_true.1 hextra d (List.contains_iff_mem.1 hmem)

theorem assertSafeString_text {label : String} {maximum : ℕ} (hne : t ≠ []) (hlen : t.length ≤ maximum)
    (h : ∀ c ∈ t, isControlUnit c = false) : assertSafeString (some (.text t)) label maximum = .ok t := by
  simp only [assertSafeString]
  rw [if_neg]
  rw [not_or, not_or, List.any_eq_true]
  refine ⟨hne, not_lt.2 hlen, ?_⟩
  rintro ⟨c, hc, hcontrol⟩
  rw [h c hc] at hcontrol
  cases hcontrol

theorem assertSafeString_ok {label : String} {maximum : ℕ} (h : assertSafeString value label maximum = .ok t) :
    value = some (.text t) ∧ t ≠ [] ∧ t.length ≤ maximum := by
  unfold assertSafeString at h
  split at h
  · split_ifs at h with hbad
    cases h
    simp only [not_or] at hbad
    exact ⟨rfl, hbad.1, not_lt.1 hbad.2.1⟩
  · cases h

theorem assertSafeString_control {label : String} {maximum : ℕ} (h : assertSafeString value label maximum = .ok t) :
    ∀ c ∈ t, isControlUnit c = false := by
  unfold assertSafeString at h
  split at h
  · split_ifs at h with hbad
    cases h
    simp only [not_or, List.any_eq_true, not_exists, not_and, Bool.not_eq_true] at hbad
    exact hbad.2.2
  · cases h

theorem normalizeProxyId_ok (h : normalizeProxyId value = .ok t) :
    trimUnits t = t ∧ isIdentifierText t = true := by
  unfold normalizeProxyId at h
  obtain ⟨raw, -, h⟩ := bind_ok.1 h
  obtain ⟨hform, h⟩ := failIf_bind_ok.1 h
  obtain rfl := pure_ok.1 h
  exact ⟨trimUnits_idem raw, by simpa using hform⟩

/-- An identifier is normalised already. -/
theorem normalizeProxyId_text (htrim : trimUnits t = t) (hform : isIdentifierText t = true) :
    normalizeProxyId (some (.text t)) = .ok t := by
  obtain ⟨hne, hlen, hcontrol⟩ := matchesSafeText_ok (by decide) hform
  unfold normalizeProxyId
  rw [assertSafeString_text hne hlen hcontrol, ok_bind, htrim, failIf_bind, if_neg (by simp [hform])]
  rfl

theorem normalizeOptionalId_ok {id : Text} (h : normalizeOptionalId value = .ok (some id)) :
    normalizeProxyId value = .ok id := by
  unfold normalizeOptionalId at h
  split at h
  · cases h
  · cases hnormal : normalizeProxyId value with
    | error e => rw [hnormal] at h; cases h
    | ok normal => rw [hnormal] at h; cases h; rfl

theorem normalizeLabel_fixed {label : Option Text} (h : normalizeLabel value = .ok label) :
    normalizeLabel (some (optionalText label)) = .ok label := by
  have hnone : normalizeLabel (some (optionalText none)) = .ok none := rfl
  unfold normalizeLabel at h
  split at h
  · cases h
    exact hnone
  · cases h
    exact hnone
  · obtain ⟨raw, -, h⟩ := bind_ok.1 h
    obtain ⟨hform, h⟩ := failIf_bind_ok.1 h
    obtain rfl := pure_ok.1 h
    rw [not_or, Bool.not_eq_false] at hform
    obtain ⟨hne, hlen, hcontrol⟩ := matchesSafeText_ok (by decide) hform.1
    change (assertSafeString (some (.text (trimUnits raw))) "The Proxy label" 120 >>= _) = _
    rw [assertSafeString_text hne hlen hcontrol, ok_bind, trimUnits_idem, failIf_bind,
      if_neg (by rw [not_or, Bool.not_eq_false]; exact hform)]
    rfl

theorem trimUnits_length_le (t : Text) : (trimUnits t).length ≤ t.length := by
  have hback := (List.dropWhile_sublist isSpaceUnit (l := (t.dropWhile isSpaceUnit).reverse)).length_le
  have hfront := (List.dropWhile_sublist isSpaceUnit (l := t)).length_le
  unfold trimUnits
  rw [List.length_reverse]
  rw [List.length_reverse] at hback
  omega

/-- Lower case that is plain has the length of the text. -/
theorem lower_length (h : ∀ c ∈ env.lower t, IsPlain c) : (env.lower t).length = t.length := by
  obtain ⟨pieces, heq, hpieces⟩ := env.lowerCase t
  rw [heq] at h ⊢
  clear heq
  induction hpieces with
  | nil => rfl
  | cons hpiece _ ih =>
    rw [List.flatten_cons, List.length_append, List.length_cons,
      ih fun c hc => h c (by rw [List.flatten_cons]; exact List.mem_append_right _ hc)]
    cases hpiece with
    | dotted => exact absurd (h 0x307 (by simp)) (by decide)
    | ascii _ => simp; omega
    | kelvin => simp; omega
    | other _ _ _ => simp; omega

theorem isHostUnit_plain (h : isHostUnit c = true) (hupper : NotUpper c) : IsPlain c := by
  rw [isHostUnit_iff, isAlnumUnit_iff] at h
  unfold IsPlain NotUpper at *
  omega

theorem isBypassText_plain (h : isBypassText t = true) (hupper : ∀ c ∈ t, NotUpper c) : ∀ c ∈ t, IsPlain c := by
  have hhost : ∀ {s : Text}, isHostText s = true → ∀ c ∈ s, isHostUnit c = true := by
    intro s hs
    simp only [isHostText, Bool.and_eq_true, List.all_eq_true] at hs
    exact hs.1.1.2
  intro c hc
  simp only [isBypassText, Bool.or_eq_true, Bool.and_eq_true] at h
  rcases h with h | ⟨hstar, h⟩
  · exact isHostUnit_plain (hhost h c hc) (hupper c hc)
  · obtain ⟨rest, rfl⟩ := List.isPrefixOf_iff_prefix.1 hstar
    rcases List.mem_append.1 hc with hc | hc
    · exact asciiUnits_plain rfl c hc
    · rw [show ((asciiUnits "*.") ++ rest).drop 2 = rest from rfl] at h
      exact isHostUnit_plain (hhost h c hc) (hupper c (List.mem_append_right _ hc))

/-- An entry of a bypass list is normalised already. -/
theorem normalizeBypassEntry_fixed {entry : JsValue} (h : normalizeBypassEntry env entry = .ok t) :
    normalizeBypassEntry env (.text t) = .ok t := by
  unfold normalizeBypassEntry at h
  obtain ⟨raw, hraw, h⟩ := bind_ok.1 h
  obtain ⟨hform, h⟩ := failIf_bind_ok.1 h
  obtain rfl := pure_ok.1 h
  rw [not_or, Bool.not_eq_false] at hform
  have hplain := isBypassText_plain hform.1 fun c hc => lower_notUpper hc
  have hlen : (env.lower (trimUnits raw)).length ≤ 253 := by
    have := trimUnits_length_le raw
    have := (assertSafeString_ok hraw).2.2
    rw [lower_length hplain]
    omega
  have hne : env.lower (trimUnits raw) ≠ [] := by
    intro hnil
    rw [hnil] at hform
    exact absurd hform.1 (by decide)
  unfold normalizeBypassEntry
  rw [assertSafeString_plain hne hlen hplain, ok_bind, trimUnits_plain hplain, lower_plain hplain, failIf_bind,
    if_neg (by rw [not_or, Bool.not_eq_false]; exact hform)]
  rfl

theorem eraseDups_length_le : ∀ l : List Text, l.eraseDups.length ≤ l.length
  | [] => le_rfl
  | a :: l => by
    have hfilter := List.length_filter_le (fun b => !b == a) l
    have := eraseDups_length_le (l.filter fun b => !b == a)
    rw [List.eraseDups_cons, List.length_cons, List.length_cons]
    omega
termination_by l => l.length
decreasing_by exact Nat.lt_succ_of_le (List.length_filter_le _ _)

/-- A normalised bypass list passes the checks again. -/
theorem normalizeBypass_fixed {bypass : List Text} (h : normalizeBypass env value = .ok bypass) :
    ∃ again, normalizeBypass env (some (.array (bypass.map .text))) = .ok again := by
  have hempty : ∃ again, normalizeBypass env (some (.array (([] : List Text).map .text))) = .ok again := ⟨[], rfl⟩
  unfold normalizeBypass at h
  split at h
  · cases h
    exact hempty
  · cases h
    exact hempty
  · obtain ⟨hlen, h⟩ := failIf_bind_ok.1 h
    obtain ⟨normalized, hall, h⟩ := bind_ok.1 h
    obtain rfl := pure_ok.1 h
    have hitems := (mapM_mem hall).2
    have hlength : normalized.length ≤ 100 := by
      rw [← (mapM_ok.1 hall).length_eq]
      exact not_lt.1 hlen
    set sorted := normalized.eraseDups.insertionSort fun a b => textLt b a = false with hsorted
    have hagain : (sorted.map JsValue.text).mapM (normalizeBypassEntry env) = .ok sorted := by
      refine mapM_ok.2 (List.forall₂_map_left_iff.2 (List.forall₂_same.2 fun t ht => ?_))
      rw [hsorted, List.mem_insertionSort, List.mem_eraseDups] at ht
      obtain ⟨entry, -, hentry⟩ := hitems t ht
      exact normalizeBypassEntry_fixed hentry
    have hshort : ¬100 < (sorted.map JsValue.text).length := by
      rw [List.length_map, hsorted, List.length_insertionSort]
      exact not_lt.2 ((eraseDups_length_le normalized).trans hlength)
    refine ⟨sorted.eraseDups.insertionSort fun a b => textLt b a = false, ?_⟩
    simp only [normalizeBypass]
    rw [failIf_bind, if_neg hshort, hagain, ok_bind]
    rfl
  · cases h

theorem normalizeBoundedInteger_ok {label : String} {low high fallback n : ℤ} (hfallback : low ≤ fallback ∧ fallback ≤ high)
    (h : normalizeBoundedInteger value label low high fallback = .ok n) : low ≤ n ∧ n ≤ high := by
  unfold normalizeBoundedInteger at h
  split at h
  · cases h
    exact hfallback
  · split at h
    · cases h
      exact boundedInteger?_eq_some ‹_›
    · cases h

theorem normalizeBoundedInteger_int {label : String} {low high fallback n : ℤ} (h : low ≤ n ∧ n ≤ high) :
    normalizeBoundedInteger (some (integerValue n)) label low high fallback = .ok n := by
  simp only [normalizeBoundedInteger, integerValue]
  rw [boundedInteger?_int h.1 h.2]

theorem normalizeCredentialRef_ok {ref : Text} (h : normalizeCredentialRef value = .ok (some ref)) :
    ∃ parsed, parseSecretRef (scalarsOf ref) = .ok parsed := by
  unfold normalizeCredentialRef at h
  split at h
  · cases h
  · cases h
  · split at h
    · next parsed hparsed =>
      cases h
      rw [scalarsOf_unitsOf]
      exact ⟨parsed, parseSecretRef_ok hparsed⟩
    · cases h
  · cases h

/-! ### Records -/

/-- **The parts of an accepted configuration.** -/
structure DraftParts (env : ProxyEnv) (draft : ProxyDraft) : Prop where
  isHost : IsHost draft.host
  isPort : 1 ≤ draft.port ∧ draft.port ≤ 65535
  id : ∀ id ∈ draft.id, trimUnits id = id ∧ isIdentifierText id = true
  label : normalizeLabel (some (optionalText draft.label)) = .ok draft.label
  bypass : ∃ again, normalizeBypass env (some (.array (draft.bypass.map .text))) = .ok again
  credentialRef : ∀ ref ∈ draft.credentialRef, ∃ parsed, parseSecretRef (scalarsOf ref) = .ok parsed
  weight : 1 ≤ draft.weight ∧ draft.weight ≤ 1000
  priority : 0 ≤ draft.priority ∧ draft.priority ≤ 1000
  maxConcurrency : 1 ≤ draft.maxConcurrency ∧ draft.maxConcurrency ≤ 1000

theorem normalizeProxyFields_ok {candidate : List (Text × JsValue)} {draft : ProxyDraft}
    (h : normalizeProxyFields env candidate = .ok draft) : DraftParts env draft := by
  unfold normalizeProxyFields at h
  obtain ⟨-, h⟩ := failIf_bind_ok.1 h
  obtain ⟨protocol, -, h⟩ := bind_ok.1 h
  obtain ⟨host, hhost, h⟩ := bind_ok.1 h
  obtain ⟨port, hport, h⟩ := bind_ok.1 h
  obtain ⟨credentialRef, href, h⟩ := bind_ok.1 h
  obtain ⟨id, hid, h⟩ := bind_ok.1 h
  obtain ⟨label, hlabel, h⟩ := bind_ok.1 h
  obtain ⟨bypass, hbypass, h⟩ := bind_ok.1 h
  obtain ⟨weight, hweight, h⟩ := bind_ok.1 h
  obtain ⟨priority, hpriority, h⟩ := bind_ok.1 h
  obtain ⟨maxConcurrency, hmax, h⟩ := bind_ok.1 h
  obtain ⟨enabled, -, h⟩ := bind_ok.1 h
  obtain rfl := pure_ok.1 h
  refine
    { isHost := normalizeProxyHost_ok hhost
      isPort := normalizeProxyPort_ok hport
      id := ?_
      label := normalizeLabel_fixed hlabel
      bypass := normalizeBypass_fixed hbypass
      credentialRef := ?_
      weight := normalizeBoundedInteger_ok (by decide) hweight
      priority := normalizeBoundedInteger_ok (by decide) hpriority
      maxConcurrency := normalizeBoundedInteger_ok (by decide) hmax }
  · rintro found rfl
    exact normalizeProxyId_ok (normalizeOptionalId_ok hid)
  · rintro found rfl
    exact normalizeCredentialRef_ok href

/-- **The record that is made of a configuration.** -/
theorem createProxyMetadata_ok {input : List (Text × JsValue)} {now : Timestamp} {made : ProxyMetadata}
    (h : createProxyMetadata env input now = .ok made) :
    ∃ draft, normalizeProxyFields env input = .ok draft ∧ draft.id = some made.id ∧
      made.label = draft.label ∧ made.protocol = draft.protocol ∧ made.host = draft.host ∧
      made.port = draft.port ∧ made.bypass = draft.bypass ∧ made.credentialRef = draft.credentialRef ∧
      made.weight = draft.weight ∧ made.priority = draft.priority ∧
      made.maxConcurrency = draft.maxConcurrency ∧ made.enabled = draft.enabled := by
  unfold createProxyMetadata at h
  obtain ⟨draft, hdraft, h⟩ := bind_ok.1 h
  obtain ⟨-, -, h⟩ := bind_ok.1 h
  obtain rfl := pure_ok.1 h
  simp only [normalizeProxyDraft] at hdraft
  obtain ⟨draft', hfields, hdraft⟩ := bind_ok.1 hdraft
  obtain ⟨hid, hdraft⟩ := failIf_bind_ok.1 hdraft
  obtain rfl := pure_ok.1 hdraft
  refine ⟨draft', hfields, ?_, rfl, rfl, rfl, rfl, rfl, rfl, rfl, rfl, rfl, rfl⟩
  cases hfound : draft'.id with
  | none => exact absurd ⟨trivial, hfound⟩ hid
  | some id => rfl

theorem operation_ok {α : Type} {x : Except ProxyOperationError α} {a : α} : operation x = .ok a ↔ x = .ok a := by
  cases x <;> simp [operation]

theorem check_bind_ok {ε α : Type} {x : Except ε Unit} {k : Unit → Except ε α} {a : α} :
    x >>= k = .ok a ↔ x = .ok () ∧ k () = .ok a := by
  rw [bind_ok]
  exact ⟨fun ⟨(), h⟩ => h, fun h => ⟨(), h⟩⟩

theorem assertOptionalTimestamp_ok {at? : Option Timestamp} {label : String} :
    assertOptionalTimestamp at? label = .ok () ↔ ∀ t ∈ at?, parseSafeTimestamp t ≠ none := by
  cases at? with
  | none => simp [assertOptionalTimestamp]
  | some t => simp [assertOptionalTimestamp, assertTimestamp, failIf_ok]

/-- **The part of a valid record that health checks write.** -/
structure HealthValid (proxy : ProxyMetadata) : Prop where
  disabled : proxy.enabled = false ↔ proxy.healthState = .disabled
  lastHealthCheckAt : ∀ t ∈ proxy.lastHealthCheckAt, parseSafeTimestamp t ≠ none
  lastSuccessAt : ∀ t ∈ proxy.lastSuccessAt, parseSafeTimestamp t ≠ none
  lastFailureAt : ∀ t ∈ proxy.lastFailureAt, parseSafeTimestamp t ≠ none
  cooldownUntil : ∀ t ∈ proxy.cooldownUntil, parseSafeTimestamp t ≠ none
  latencyMs : ∀ ms ∈ proxy.latencyMs, 0 ≤ ms ∧ ms ≤ 86400000
  successCount : 0 ≤ proxy.successCount
  failureCount : 0 ≤ proxy.failureCount
  consecutiveFailureCount : 0 ≤ proxy.consecutiveFailureCount
  revision : 1 ≤ proxy.revision
  successRate : 0 ≤ proxy.successRate ∧ proxy.successRate ≤ 1
  createdAt : parseSafeTimestamp proxy.createdAt ≠ none
  updatedAt : parseSafeTimestamp proxy.updatedAt ≠ none

theorem assertProxyHealth_ok {proxy : ProxyMetadata} : assertProxyHealth proxy = .ok () ↔ HealthValid proxy := by
  unfold assertProxyHealth assertTimestamp
  simp only [check_bind_ok, assertOptionalTimestamp_ok, failIf_ok, not_lt, not_or, not_and, not_exists]
  constructor
  · rintro ⟨h1, h2, h3, h4, h5, h6, h7, h8, h9, h10, h11, h12, h13, h14⟩
    refine ⟨⟨fun h => not_not.1 (h1 h), fun h => ?_⟩, h3, h4, h5, h6, fun ms hms => ?_, h8, h9, h10, h11, h12, h13, h14⟩
    · cases hen : proxy.enabled with
      | false => rfl
      | true => exact absurd h (h2 hen)
    · exact h7 ms hms
  · intro h
    refine ⟨fun hen => not_not.2 (h.disabled.1 hen), fun hen hst => ?_, h.lastHealthCheckAt, h.lastSuccessAt,
      h.lastFailureAt, h.cooldownUntil, fun ms hms => h.latencyMs ms hms, h.successCount, h.failureCount,
      h.consecutiveFailureCount, h.revision, h.successRate, h.createdAt, h.updatedAt⟩
    rw [h.disabled.2 hst] at hen
    cases hen

/-- The checks of a valid record, in three parts. -/
theorem assertProxyMetadata_ok {proxy : ProxyMetadata} : assertProxyMetadata env proxy = .ok () ↔
    assertProxyConfiguration env proxy = .ok () ∧
      (∀ ref ∈ proxy.credentialRef, ∃ parsed, parseSecretRef (scalarsOf ref) = .ok parsed) ∧ HealthValid proxy := by
  unfold assertProxyMetadata
  rw [check_bind_ok, operation_ok, ← assertProxyHealth_ok]
  refine and_congr_right fun _ => ?_
  cases proxy.credentialRef with
  | none => simp [operation_ok]
  | some ref =>
    cases hparse : parseSecretRef (scalarsOf ref) with
    | ok parsed => simp [hparse, operation_ok]
    | error e => simp [hparse, bind, Except.bind]

/-- A new record passes the checks of its configuration. -/
theorem DraftParts.configuration {draft : ProxyDraft} (h : DraftParts env draft) {proxy : ProxyMetadata}
    (hid : draft.id = some proxy.id) (hlabel : proxy.label = draft.label) (hhost : proxy.host = draft.host)
    (hport : proxy.port = draft.port) (hbypass : proxy.bypass = draft.bypass) (hweight : proxy.weight = draft.weight)
    (hpriority : proxy.priority = draft.priority) (hmax : proxy.maxConcurrency = draft.maxConcurrency) :
    assertProxyConfiguration env proxy = .ok () := by
  obtain ⟨htrim, hform⟩ := h.id proxy.id hid
  obtain ⟨again, hagain⟩ := h.bypass
  unfold assertProxyConfiguration
  rw [normalizeProxyId_text htrim hform, ok_bind, normalizeProxyProtocol_text, ok_bind, hhost, h.isHost.fixed, ok_bind,
    hport, integerValue, normalizeProxyPort_int h.isPort, ok_bind, hlabel, h.label, ok_bind, hbypass, hagain, ok_bind,
    hweight, normalizeBoundedInteger_int h.weight, ok_bind, hpriority, normalizeBoundedInteger_int h.priority, ok_bind,
    hmax, normalizeBoundedInteger_int h.maxConcurrency, ok_bind]
  rfl

/-- **A new record is valid.** -/
theorem createProxyMetadata_valid {input : List (Text × JsValue)} {now : Timestamp} {made : ProxyMetadata}
    (h : createProxyMetadata env input now = .ok made) : assertProxyMetadata env made = .ok () := by
  obtain ⟨draft, hfields, hid, hlabel, -, hhost, hport, hbypass, href, hweight, hpriority, hmax, -⟩ :=
    createProxyMetadata_ok h
  have hparts := normalizeProxyFields_ok hfields
  refine assertProxyMetadata_ok.2
    ⟨hparts.configuration hid hlabel hhost hport hbypass hweight hpriority hmax, href ▸ hparts.credentialRef, ?_⟩
  unfold createProxyMetadata at h
  obtain ⟨draft', -, h⟩ := bind_ok.1 h
  obtain ⟨_, hnow, h⟩ := bind_ok.1 h
  obtain rfl := pure_ok.1 h
  have hnow : parseSafeTimestamp now ≠ none := failIf_ok.1 hnow
  refine
    { disabled := ?_, lastHealthCheckAt := by simp, lastSuccessAt := by simp, lastFailureAt := by simp
      cooldownUntil := by simp, latencyMs := by simp, successCount := le_rfl, failureCount := le_rfl
      consecutiveFailureCount := le_rfl, revision := le_rfl, successRate := by simp
      createdAt := hnow, updatedAt := hnow }
  cases draft'.enabled <;> simp

end OfflineWebArchiver.ProxyManager
