import OfflineWebArchiver.ProxyManager.Records

/-!
# Derived identifiers

What `deriveImportedProxyId` keeps of an endpoint.

* `words`: the runs of letters and digits of a text.
* `hyphenate_eq`: the replacement joins the words with hyphens.
* `deriveImportedProxyId_eq`: **the identifier of an endpoint**.
-/

namespace OfflineWebArchiver.ProxyManager

open Checks

variable {env : ProxyEnv} {t : Text} {c : CodeUnit}

/-- The runs of letters and digits of a text. -/
def words (t : Text) : List Text := (t.splitOnP fun c => !isAlnumUnit c).filter (· ≠ [])

/-- The words of a text, joined with hyphens. -/
def hyphenated (ws : List Text) : Text := joinUnits [unit '-'] ws

@[simp] theorem words_nil : words [] = [] := rfl

theorem words_separator (x : Text) (hc : isAlnumUnit c = false) (y : Text) : words (x ++ c :: y) = words x ++ words y := by
  unfold words
  rw [List.splitOnP_append_cons x y (by simp [hc]), List.filter_append]

theorem words_cons_separator (hc : isAlnumUnit c = false) (y : Text) : words (c :: y) = words y :=
  words_separator [] hc y

/-- A text of letters and digits is one word. -/
theorem words_alnum (hne : t ≠ []) (h : ∀ c ∈ t, isAlnumUnit c = true) : words t = [t] := by
  unfold words
  rw [List.splitOnP_eq_singleton fun c hc => by simp [h c hc]]
  simp [hne]

theorem words_ne_nil (hc : c ∈ t) (halnum : isAlnumUnit c = true) : words t ≠ [] := by
  induction t with
  | nil => cases hc
  | cons d t ih =>
    cases hd : isAlnumUnit d with
    | true =>
      unfold words
      rw [List.splitOnP_cons_eq_if_modifyHead, if_neg (by simp [hd])]
      cases hsplit : t.splitOnP fun c => !isAlnumUnit c with
      | nil => exact absurd hsplit (List.splitOnP_ne_nil _ _)
      | cons first rest => simp
    | false =>
      rw [words_cons_separator hd]
      rcases List.mem_cons.1 hc with rfl | hc
      · rw [halnum] at hd; cases hd
      · exact ih hc

theorem hyphenated_cons (w : Text) (ws : List Text) :
    hyphenated (w :: ws) = w ++ if ws = [] then [] else unit '-' :: hyphenated ws := by
  cases ws with
  | nil => simp [hyphenated, joinUnits]
  | cons w' ws => simp [hyphenated, joinUnits]

/-- In a text that ends with a letter or a digit the replacement joins the words with hyphens; the
first word follows a hyphen when separators stand in front of it. -/
theorem hyphenate_split (hlast : t.getLast?.all isAlnumUnit = true) :
    hyphenate true t = hyphenated (words t) ∧
      ∀ first rest, (t.splitOnP fun c => !isAlnumUnit c) = first :: rest →
        hyphenate false t = first ++ if rest.filter (· ≠ []) = [] then [] else
          unit '-' :: hyphenated (rest.filter (· ≠ [])) := by
  induction t with
  | nil =>
    refine ⟨rfl, fun first rest h => ?_⟩
    rw [List.splitOnP_nil] at h
    obtain ⟨rfl, rfl⟩ := List.cons.inj h
    rfl
  | cons c t ih =>
    have htail : t.getLast?.all isAlnumUnit = true := by
      cases t with
      | nil => rfl
      | cons d t => rwa [List.getLast?_cons_cons] at hlast
    obtain ⟨ihTrue, ihFalse⟩ := ih htail
    cases hc : isAlnumUnit c with
    | true =>
      -- the unit is put in front of the first word
      cases hsplit : t.splitOnP fun c => !isAlnumUnit c with
      | nil => exact absurd hsplit (List.splitOnP_ne_nil _ _)
      | cons first rest =>
        have hcons : ((c :: t).splitOnP fun c => !isAlnumUnit c) = (c :: first) :: rest := by
          rw [List.splitOnP_cons_eq_if_modifyHead, if_neg (by simp [hc]), hsplit]
          rfl
        have hstep : ∀ b, hyphenate b (c :: t) = c :: hyphenate false t := fun b => by
          rw [hyphenate, if_pos hc]
        have hvalue := ihFalse first rest hsplit
        refine ⟨?_, fun first' rest' h => ?_⟩
        · rw [hstep, hvalue, words, hcons, List.filter_cons_of_pos (by simp), hyphenated_cons]
          rfl
        · rw [hcons] at h
          obtain ⟨rfl, rfl⟩ := List.cons.inj h
          rw [hstep, hvalue]
          rfl
    | false =>
      -- a separator: the rest holds a word, because the text ends with one
      have hcons : ((c :: t).splitOnP fun c => !isAlnumUnit c) = [] :: t.splitOnP fun c => !isAlnumUnit c := by
        rw [List.splitOnP_cons_eq_if_modifyHead, if_pos (by simp [hc])]
      have hwords : words t ≠ [] := by
        cases t with
        | nil => simp [hc] at hlast
        | cons d t =>
          rw [List.getLast?_eq_some_getLast (List.cons_ne_nil d t)] at htail
          exact words_ne_nil (List.getLast_mem _) htail
      refine ⟨?_, fun first rest h => ?_⟩
      · rw [hyphenate, if_neg (by simp [hc]), if_pos rfl, ihTrue, words_cons_separator hc]
      · rw [hcons] at h
        obtain ⟨rfl, rfl⟩ := List.cons.inj h
        rw [hyphenate, if_neg (by simp [hc]), if_neg (by simp), ihTrue]
        unfold words at hwords ⊢
        rw [List.nil_append, if_neg hwords]

/-- **The replacement joins the words with hyphens** when letters or digits stand at both ends. -/
theorem hyphenate_eq (hfirst : isAlnumUnit c = true) (hlast : (c :: t).getLast?.all isAlnumUnit = true) :
    hyphenate false (c :: t) = hyphenated (words (c :: t)) := by
  rw [← (hyphenate_split hlast).1, hyphenate, if_pos hfirst, hyphenate, if_pos hfirst]

theorem hyphenate_getLast (hc : isAlnumUnit c = true) (b : Bool) (t : Text) :
    (hyphenate b (t ++ [c])).getLast? = some c := by
  induction t generalizing b with
  | nil => simp [hyphenate, hc]
  | cons d t ih =>
    have hne : ∀ b, hyphenate b (t ++ [c]) ≠ [] := fun b hnil => by
      have := ih b
      rw [hnil] at this
      cases this
    have hstep : ∀ e b, (e :: hyphenate b (t ++ [c])).getLast? = some c := by
      intro e b
      rw [List.getLast?_cons, ih b]
      rfl
    rw [List.cons_append, hyphenate]
    split_ifs
    · exact hstep _ _
    · exact ih _
    · exact hstep _ _

/-! ### The words of an endpoint -/

/-- The words of an endpoint: its protocol, those of its host, and its port. -/
def endpointWords (protocol : ProxyProtocol) (host : Text) (port : ℤ) : List Text :=
  protocol.text :: (words host ++ [integerText port])

theorem protocol_alnum (p : ProxyProtocol) : ∀ c ∈ p.text, isAlnumUnit c = true := by
  have hall : p.text.all isAlnumUnit = true := by cases p <;> rfl
  exact List.all_eq_true.1 hall

theorem digits_alnum {n : ℕ} : ∀ c ∈ (Nat.toDigits 10 n).map unit, isAlnumUnit c = true := by
  intro c hc
  obtain ⟨d, hd, rfl⟩ := List.mem_map.1 hc
  have hdigit : 48 ≤ d.toNat ∧ d.toNat ≤ 57 :=
    Char.isDigit_iff_toNat.1 (Nat.isDigit_of_mem_toDigits (by decide) (by decide) hd)
  rw [isAlnumUnit_iff, unit, Nat.toUInt16, UInt16.toNat_ofNat_of_lt' (show _ < 65536 by omega)]
  omega

theorem integerText_digits {n : ℤ} (h : 0 ≤ n) : integerText n = (Nat.toDigits 10 n.natAbs).map unit := by
  unfold integerText
  rw [if_neg (not_lt.2 h), List.nil_append]

theorem integerText_ne_nil (n : ℤ) : integerText n ≠ [] := by
  unfold integerText
  simp [Nat.toDigits_ne_nil]

theorem words_urlHost (host : Text) : words (urlHost host) = words host := by
  unfold urlHost
  split_ifs
  · rw [List.cons_append, words_cons_separator (by decide), words_separator host (by decide), words_nil, List.append_nil]
  · rfl

theorem Endpoint.words_identity (e : Endpoint) : words e.identity = endpointWords e.protocol e.host e.port := by
  have hport := e.isPort
  have hdigits : ∀ c ∈ integerText e.port, isAlnumUnit c = true := by
    rw [integerText_digits (by omega)]
    exact digits_alnum
  have hprotocol : e.protocol.text ≠ [] := by cases e.protocol <;> decide
  have hsplit : e.identity = e.protocol.text ++ unit ':' :: unit '/' :: unit '/' ::
      (urlHost e.host ++ unit ':' :: integerText e.port) := by
    unfold Endpoint.identity
    rw [show asciiUnits "://" = [unit ':', unit '/', unit '/'] from rfl]
    simp
  rw [hsplit, words_separator _ (by decide), words_cons_separator (by decide), words_cons_separator (by decide),
    words_separator _ (by decide), words_urlHost, words_alnum hprotocol (protocol_alnum _),
    words_alnum (integerText_ne_nil _) hdigits]
  rfl

/-- The words of an endpoint, joined with hyphens. -/
def hyphenatedEndpoint (protocol : ProxyProtocol) (host : Text) (port : ℤ) : Text :=
  hyphenated (endpointWords protocol host port)

theorem stripHyphens_eq (hfirst : t.head?.all isAlnumUnit = true) (hlast : t.getLast?.all isAlnumUnit = true) :
    stripHyphens t = t := by
  have hhyphen : isAlnumUnit (unit '-') = false := by decide
  have hhead : t.head? ≠ some (unit '-') := fun h => by
    rw [h, Option.all_some, hhyphen] at hfirst
    cases hfirst
  have hend : t.getLast? ≠ some (unit '-') := fun h => by
    rw [h, Option.all_some, hhyphen] at hlast
    cases hlast
  unfold stripHyphens
  rw [if_neg hhead]
  exact if_neg hend

/-- What is kept of the identity of an endpoint. -/
theorem Endpoint.stripped (e : Endpoint) :
    stripHyphens (hyphenate false e.identity) = hyphenatedEndpoint e.protocol e.host e.port := by
  have hport := e.isPort
  -- the identity begins with a letter and ends with a digit
  obtain ⟨c, rest, hfront⟩ : ∃ c rest, e.protocol.text = c :: rest := by cases e.protocol <;> exact ⟨_, _, rfl⟩
  have hfirst : isAlnumUnit c = true := protocol_alnum e.protocol c (by rw [hfront]; exact List.mem_cons_self)
  have hidentity : e.identity = c :: (rest ++ asciiUnits "://" ++ urlHost e.host ++ unit ':' :: integerText e.port) := by
    unfold Endpoint.identity
    rw [hfront]
    simp
  obtain ⟨init, last, hback⟩ : ∃ init last, e.identity = init ++ [last] ∧ isAlnumUnit last = true := by
    have hne := integerText_ne_nil e.port
    refine ⟨e.protocol.text ++ asciiUnits "://" ++ urlHost e.host ++ unit ':' :: (integerText e.port).dropLast,
      (integerText e.port).getLast hne, ?_, ?_⟩
    · unfold Endpoint.identity
      rw [List.append_assoc _ (unit ':' :: _), List.cons_append, List.dropLast_append_getLast]
    · have hdigits : ∀ c ∈ integerText e.port, isAlnumUnit c = true := by
        rw [integerText_digits (by omega)]
        exact digits_alnum
      exact hdigits _ (List.getLast_mem hne)
  have hlast : e.identity.getLast?.all isAlnumUnit = true := by
    rw [hback.1, List.getLast?_concat]
    exact hback.2
  have hstrip : stripHyphens (hyphenate false e.identity) = hyphenate false e.identity := by
    apply stripHyphens_eq
    · rw [hidentity, hyphenate, if_pos hfirst]
      exact hfirst
    · rw [hback.1, hyphenate_getLast hback.2]
      exact hback.2
  rw [hstrip, hyphenatedEndpoint, ← e.words_identity]
  rw [hidentity] at hlast ⊢
  exact hyphenate_eq hfirst hlast

/-! ### Identifiers -/

/-- The identifier of an endpoint. -/
def endpointId (protocol : ProxyProtocol) (host : Text) (port : ℤ) : Text :=
  asciiUnits "proxy-" ++ (hyphenatedEndpoint protocol host port).take 112

theorem hyphenate_units (b : Bool) (t : Text) : ∀ c ∈ hyphenate b t, isAlnumUnit c = true ∨ c = unit '-' := by
  induction t generalizing b with
  | nil => simp [hyphenate]
  | cons d t ih =>
    intro c hc
    rw [hyphenate] at hc
    split_ifs at hc with hd
    · rcases List.mem_cons.1 hc with rfl | hc
      · exact Or.inl hd
      · exact ih _ c hc
    · exact ih _ c hc
    · rcases List.mem_cons.1 hc with rfl | hc
      · exact Or.inr rfl
      · exact ih _ c hc

theorem stripHyphens_subset (h : c ∈ stripHyphens t) : c ∈ t := by
  unfold stripHyphens at h
  dsimp only at h
  have htail : ∀ {d}, d ∈ (if t.head? = some (unit '-') then t.tail else t) → d ∈ t := by
    intro d hd
    split_ifs at hd
    · exact List.mem_of_mem_tail hd
    · exact hd
  by_cases hend : (if t.head? = some (unit '-') then t.tail else t).getLast? = some (unit '-')
  · rw [if_pos hend] at h
    exact htail (List.mem_of_mem_dropLast h)
  · rw [if_neg hend] at h
    exact htail h

/-- **The identifier of an endpoint**: the first 112 units of its words, joined with hyphens. -/
theorem Endpoint.deriveImportedProxyId_eq (e : Endpoint) {draft : ProxyDraft} (hprotocol : draft.protocol = e.protocol)
    (hhost : draft.host = e.host) (hport : draft.port = e.port) :
    deriveImportedProxyId env draft = .ok (endpointId e.protocol e.host e.port) := by
  have hunits : ∀ c ∈ (stripHyphens (hyphenate false e.identity)).take 112, isAlnumUnit c = true ∨ c = unit '-' :=
    fun c hc => hyphenate_units _ _ c (stripHyphens_subset (List.mem_of_mem_take hc))
  unfold deriveImportedProxyId
  rw [hprotocol, hhost, hport, e.canonical, ok_bind]
  rw [e.stripped] at hunits ⊢
  set kept := (hyphenatedEndpoint e.protocol e.host e.port).take 112 with hkept
  have hlen : kept.length ≤ 112 := by
    rw [hkept]
    exact List.length_take_le _ _
  have hcases : ∀ c ∈ asciiUnits "proxy-" ++ kept, isAlnumUnit c = true ∨ c = unit '-' := by
    intro c hc
    rcases List.mem_append.1 hc with hc | hc
    · have hall : ((asciiUnits "proxy-").all fun c => isAlnumUnit c || c == unit '-') = true := rfl
      simpa using List.all_eq_true.1 hall c hc
    · exact hunits c hc
  apply normalizeProxyId_text
  · refine trimUnits_of_not_space fun c hc => ?_
    have hc := hcases c hc
    rw [isAlnumUnit_iff, eq_unit (by decide), show '-'.toNat = 45 from rfl] at hc
    simp [isSpaceUnit, UInt16.le_iff_toNat_le, ← UInt16.toNat_inj]
    omega
  · rw [show asciiUnits "proxy-" ++ kept = unit 'p' :: (asciiUnits "roxy-" ++ kept) from rfl] at hcases ⊢
    simp only [isIdentifierText, matchesSafeText, Bool.and_eq_true, decide_eq_true_eq, List.all_eq_true,
      Bool.or_eq_true, List.length_append]
    refine ⟨⟨by decide, ?_⟩, fun c hc => ?_⟩
    · rw [show (asciiUnits "roxy-").length = 5 from rfl]
      omega
    · refine (hcases c (List.mem_cons_of_mem _ hc)).imp_right fun hc => ?_
      rw [hc]
      decide

end OfflineWebArchiver.ProxyManager
