import Mathlib.Data.List.TakeWhile
import OfflineWebArchiver.Html.Sample

/-!
# Writing and parsing a `srcset`

* `srcsetText`: image candidates as a page writes them.
* `parse_size`: a parse that finds `k` candidates leaves out `k - 1` separators.
* `srcset_roundTrip_iff`: **the parse of a written `srcset` finds its candidates
  exactly when every candidate but the last has a descriptor and no URL starts
  with a quote.**
-/

namespace OfflineWebArchiver

/-- A candidate that a page may write: a URL without white space that neither
begins nor ends with a comma, and a descriptor without white space and commas, or none. -/
structure ValidCandidate (c : SrcsetCandidate) : Prop where
  url_ne_nil : c.rawUrl ≠ []
  url_space : ∀ d ∈ c.rawUrl, isSpaceUnit d = false
  url_head : c.rawUrl.head? ≠ some (unit ',')
  url_last : c.rawUrl.getLast? ≠ some (unit ',')
  descriptors : ∀ d ∈ c.descriptors, isSpaceUnit d = false ∧ d ≠ unit ','

/-- The candidates joined with `,`, or with `, ` where the flag of the candidate says so. -/
def srcsetText : List (SrcsetCandidate × Bool) → Text
  | [] => []
  | [(c, _)] => serializeSrcsetCandidate c c.rawUrl
  | (c, spaced) :: next :: rest =>
    serializeSrcsetCandidate c c.rawUrl ++ asciiUnits (if spaced then ", " else ",") ++
      srcsetText (next :: rest)

/-- A comma right behind a URL would be part of the URL, so a space follows it. -/
def Separated (l : List (SrcsetCandidate × Bool)) : Prop :=
  ∀ p ∈ l.dropLast, p.1.descriptors = [] → p.2 = true

/-- The URL begins with `'` or `"`. -/
def startsQuoted (url : Text) : Bool := url.head?.any isQuote

variable {c : SrcsetCandidate} {value rest tail lead url : Text} {fuel : ℕ}

/-! ### One round -/

theorem srcsetUrl_plain (hne : url ≠ []) (hquote : startsQuoted url = false)
    (hspace : ∀ d ∈ url, isSpaceUnit d = false) (hrest : ∀ d ∈ rest.head?, isSpaceUnit d = true) :
    srcsetUrl (url ++ rest) = (url, rest) := by
  obtain ⟨d, t, rfl⟩ := List.exists_cons_of_ne_nil hne
  have hstop : rest.takeWhile (!isSpaceUnit ·) = [] ∧ rest.dropWhile (!isSpaceUnit ·) = rest := by
    cases rest with
    | nil => exact ⟨rfl, rfl⟩
    | cons e rest => simp [hrest e rfl]
  have hurl : ∀ e ∈ d :: t, (!isSpaceUnit e) = true := fun e he => by simp [hspace e he]
  have hquote : isQuote d = false := by simpa [startsQuoted] using hquote
  rw [List.cons_append, srcsetUrl, hquote, if_neg Bool.false_ne_true, ← List.cons_append,
    List.takeWhile_append_of_pos hurl, List.dropWhile_append_of_pos hurl, hstop.1, hstop.2,
    List.append_nil]

/-- What a round leaves out in front. -/
theorem dropWhile_lead (hlead : ∀ d ∈ lead, isSpaceUnit d = true) (hne : url ≠ [])
    (hspace : ∀ d ∈ url, isSpaceUnit d = false) (hhead : url.head? ≠ some (unit ',')) :
    (lead ++ (url ++ rest)).dropWhile (fun c => isSpaceUnit c || c == unit ',') = url ++ rest := by
  obtain ⟨d, t, rfl⟩ := List.exists_cons_of_ne_nil hne
  have hd : d ≠ unit ',' := by simpa using hhead
  rw [List.dropWhile_append_of_pos fun e he => by simp [hlead e he]]
  simp [hspace d List.mem_cons_self, hd]

/-- **A round on a URL that is read to the next white space.** -/
theorem parseSrcsetFrom_plain (hlead : ∀ d ∈ lead, isSpaceUnit d = true) (hne : url ≠ [])
    (hquote : startsQuoted url = false) (hspace : ∀ d ∈ url, isSpaceUnit d = false)
    (hhead : url.head? ≠ some (unit ',')) (hrest : ∀ d ∈ rest.head?, isSpaceUnit d = true) :
    parseSrcsetFrom (fuel + 1) (lead ++ (url ++ rest)) =
      ⟨url, trimUnits (rest.takeWhile (· != unit ','))⟩ ::
        parseSrcsetFrom fuel ((rest.dropWhile (· != unit ',')).drop 1) := by
  have hlen : 0 < url.length := List.length_pos_of_ne_nil hne
  have hnonempty : (url ++ rest).isEmpty = false := by
    cases url with
    | nil => exact absurd rfl hne
    | cons d t => rfl
  rw [parseSrcsetFrom]
  simp only [dropWhile_lead hlead hne hspace hhead, hnonempty, Bool.false_eq_true, if_false,
    srcsetUrl_plain hne hquote hspace hrest, hlen, if_true]

theorem trimUnits_descriptor {d : Text} (h : ∀ e ∈ d, isSpaceUnit e = false) :
    trimUnits (asciiUnits " " ++ d) = d := by
  have hnone : ∀ t : Text, (∀ e ∈ t, isSpaceUnit e = false) → t.dropWhile isSpaceUnit = t := by
    intro t ht
    cases t with
    | nil => rfl
    | cons e t => simp [ht e List.mem_cons_self]
  have hspace : (asciiUnits " " ++ d).dropWhile isSpaceUnit = d.dropWhile isSpaceUnit := rfl
  rw [trimUnits, hspace, hnone d h, hnone d.reverse fun e he => h e (List.mem_reverse.1 he),
    List.reverse_reverse]

/-- **A round on a candidate that a comma or the end follows.** -/
theorem parseSrcsetFrom_candidate (hc : ValidCandidate c) (hquote : startsQuoted c.rawUrl = false)
    (hlead : ∀ d ∈ lead, isSpaceUnit d = true) (htail : tail = [] ∨ c.descriptors ≠ [])
    (hcomma : ∀ d ∈ tail.head?, d = unit ',') :
    parseSrcsetFrom (fuel + 1) (lead ++ (serializeSrcsetCandidate c c.rawUrl ++ tail)) =
      c :: parseSrcsetFrom fuel (tail.drop 1) := by
  have hstop : tail.takeWhile (· != unit ',') = [] ∧ tail.dropWhile (· != unit ',') = tail := by
    cases tail with
    | nil => exact ⟨rfl, rfl⟩
    | cons d tail => simp [hcomma d rfl]
  by_cases hd : c.descriptors = []
  · obtain rfl := htail.resolve_right (absurd hd)
    have hself : (⟨c.rawUrl, []⟩ : SrcsetCandidate) = c := by rw [← hd]
    rw [serializeSrcsetCandidate, hd, List.length_nil, if_pos rfl,
      parseSrcsetFrom_plain hlead hc.url_ne_nil hquote hc.url_space hc.url_head (by simp)]
    exact congrArg (· :: parseSrcsetFrom fuel []) hself
  · have hlen : c.descriptors.length ≠ 0 := fun h => hd (List.length_eq_zero_iff.1 h)
    have hpass : ∀ d ∈ asciiUnits " " ++ c.descriptors, (d != unit ',') = true := by
      intro d hm
      rcases List.mem_append.1 hm with hm | hm
      · obtain rfl : d = unit ' ' := by simpa [asciiUnits] using hm
        decide
      · simpa using (hc.descriptors d hm).2
    rw [serializeSrcsetCandidate, if_neg hlen, List.append_assoc, List.append_assoc,
      parseSrcsetFrom_plain hlead hc.url_ne_nil hquote hc.url_space hc.url_head
        (by simp [asciiUnits]; decide),
      ← List.append_assoc, List.takeWhile_append_of_pos hpass, List.dropWhile_append_of_pos hpass,
      hstop.1, hstop.2, List.append_nil,
      trimUnits_descriptor fun d hm => (hc.descriptors d hm).1]

/-! ### What a parse leaves out -/

/-- The units that are no white space. -/
def inked (text : Text) : ℕ := text.countP (!isSpaceUnit ·)

def SrcsetCandidate.size (c : SrcsetCandidate) : ℕ := inked c.rawUrl + inked c.descriptors

theorem inked_append (s t : Text) : inked (s ++ t) = inked s + inked t := List.countP_append

theorem inked_sublist {s t : Text} (h : s.Sublist t) : inked s ≤ inked t := h.countP_le

theorem inked_eq_zero {s : Text} (h : ∀ d ∈ s, isSpaceUnit d = true) : inked s = 0 :=
  List.countP_eq_zero.2 fun d hd => by simp [h d hd]

theorem inked_comma (t : Text) : inked (unit ',' :: t) = inked t + 1 :=
  List.countP_cons_of_pos (by decide)

theorem trimUnits_inked (t : Text) : inked (trimUnits t) ≤ inked t := by
  refine inked_sublist ?_
  unfold trimUnits
  have hback := (List.dropWhile_sublist (p := isSpaceUnit)
    (l := (t.dropWhile isSpaceUnit).reverse)).reverse
  rw [List.reverse_reverse] at hback
  exact hback.trans (List.dropWhile_sublist _)

/-- The URL and the rest are in the text. -/
theorem srcsetUrl_inked (t : Text) : inked (srcsetUrl t).1 + inked (srcsetUrl t).2 ≤ inked t := by
  cases t with
  | nil => simp [srcsetUrl, inked]
  | cons d t =>
    rw [srcsetUrl]
    split
    · have hsplit := congrArg inked (List.takeWhile_append_dropWhile (p := (· != d)) (l := t))
      rw [inked_append] at hsplit
      have hdrop := inked_sublist (List.drop_sublist 1 (t.dropWhile (· != d)))
      have hcons := inked_sublist (List.sublist_cons_self d t)
      simp only
      omega
    · have hsplit := congrArg inked
        (List.takeWhile_append_dropWhile (p := (!isSpaceUnit ·)) (l := d :: t))
      rw [inked_append] at hsplit
      exact hsplit.le

/-- The candidates behind a comma are found only where there is one. -/
theorem inked_behind (t : Text) (h : (t.dropWhile (· != unit ',')).drop 1 ≠ []) :
    inked (t.takeWhile (· != unit ',')) + inked ((t.dropWhile (· != unit ',')).drop 1) + 1 =
      inked t := by
  have hsplit := congrArg inked (List.takeWhile_append_dropWhile (p := (· != unit ',')) (l := t))
  rw [inked_append] at hsplit
  cases hd : t.dropWhile (· != unit ',') with
  | nil => simp [hd] at h
  | cons e u =>
    have he : e = unit ',' := by
      have := List.head_dropWhile_not (p := (· != unit ',')) (l := t) (by simp [hd])
      simpa [hd] using this
    subst he
    rw [hd, inked_comma] at hsplit
    simp only [List.drop_succ_cons, List.drop_zero]
    omega

theorem parseSrcsetFrom_nil (fuel : ℕ) : parseSrcsetFrom fuel [] = [] := by
  cases fuel <;> rfl

/-- **A parse that finds `k` candidates leaves out `k - 1` separators.** -/
theorem parse_size (fuel : ℕ) (value : Text) (hne : parseSrcsetFrom fuel value ≠ []) :
    ((parseSrcsetFrom fuel value).map SrcsetCandidate.size).sum +
      (parseSrcsetFrom fuel value).length ≤ inked value + 1 := by
  induction fuel generalizing value with
  | zero => exact absurd rfl hne
  | succ fuel ih =>
    rw [parseSrcsetFrom] at hne ⊢
    set start := value.dropWhile fun c => isSpaceUnit c || c == unit ','
    have hstart : inked start ≤ inked value := inked_sublist (List.dropWhile_sublist _)
    simp only at hne ⊢
    by_cases hempty : start.isEmpty = true
    · simp [hempty] at hne
    rw [if_neg hempty] at hne ⊢
    set behind := ((srcsetUrl start).2.dropWhile (· != unit ',')).drop 1 with hbehind
    have hurl := srcsetUrl_inked start
    have htrim := trimUnits_inked ((srcsetUrl start).2.takeWhile (· != unit ','))
    have htake := inked_sublist (List.takeWhile_sublist (l := (srcsetUrl start).2) (· != unit ','))
    -- what the rounds behind the comma find
    have hrest : parseSrcsetFrom fuel behind = [] ∨
        inked ((srcsetUrl start).2.takeWhile (· != unit ',')) +
          (((parseSrcsetFrom fuel behind).map SrcsetCandidate.size).sum +
            (parseSrcsetFrom fuel behind).length) ≤ inked (srcsetUrl start).2 := by
      by_cases h : parseSrcsetFrom fuel behind = []
      · exact .inl h
      · have hb : behind ≠ [] := fun e => h (by rw [e]; exact parseSrcsetFrom_nil fuel)
        have := ih behind h
        have := inked_behind _ hb
        rw [← hbehind] at this
        exact .inr (by omega)
    by_cases hlen : (srcsetUrl start).1.length > 0
    · rw [if_pos hlen, List.map_cons, List.sum_cons, List.length_cons, SrcsetCandidate.size]
      rcases hrest with h | h
      · simp only [h, List.map_nil, List.sum_nil, List.length_nil]; omega
      · simp only; omega
    · rw [if_neg hlen] at hne ⊢
      rcases hrest with h | h
      · exact absurd h hne
      · omega

/-! ### The round trip -/

theorem serialize_inked (c : SrcsetCandidate) : inked (serializeSrcsetCandidate c c.rawUrl) = c.size := by
  unfold serializeSrcsetCandidate SrcsetCandidate.size
  by_cases h : c.descriptors.length = 0
  · rw [if_pos h, List.length_eq_zero_iff.1 h]; rfl
  · rw [if_neg h, inked_append, inked_append, inked_eq_zero (s := asciiUnits " ") (List.all_eq_true.1 rfl)]
    omega

/-- The text has its candidates and a separator between any two. -/
theorem srcsetText_inked (l : List (SrcsetCandidate × Bool)) (hne : l ≠ []) :
    inked (srcsetText l) + 1 = ((l.map (·.1)).map SrcsetCandidate.size).sum + l.length := by
  induction l with
  | nil => exact absurd rfl hne
  | cons p rest ih =>
    obtain ⟨c, spaced⟩ := p
    cases rest with
    | nil => simp [srcsetText, serialize_inked]
    | cons next rest =>
      have := ih (List.cons_ne_nil _ _)
      have hsep : inked (asciiUnits (if spaced then ", " else ",")) = 1 := by
        cases spaced <;> decide
      rw [srcsetText, inked_append, inked_append, serialize_inked, hsep]
      simp only [List.map_cons, List.sum_cons, List.length_cons] at this ⊢
      omega

/-- The text begins with the first URL. -/
theorem srcsetText_cons (c : SrcsetCandidate) (spaced : Bool) (rest : List (SrcsetCandidate × Bool)) :
    ∃ more, srcsetText ((c, spaced) :: rest) = c.rawUrl ++ more := by
  have hone : ∃ more, serializeSrcsetCandidate c c.rawUrl = c.rawUrl ++ more := by
    unfold serializeSrcsetCandidate
    split
    · exact ⟨[], (List.append_nil _).symm⟩
    · exact ⟨asciiUnits " " ++ c.descriptors, List.append_assoc ..⟩
  obtain ⟨more, hmore⟩ := hone
  cases rest with
  | nil => exact ⟨more, hmore⟩
  | cons next rest => exact ⟨_, by rw [srcsetText, hmore, List.append_assoc, List.append_assoc]⟩

/-- **A URL that begins with a quote is not found again**: the parse looks for the
closing quote and leaves the opening one out. -/
theorem not_parsed_of_quote {spaced : Bool} {l : List (SrcsetCandidate × Bool)}
    (hc : ValidCandidate c) (hquote : startsQuoted c.rawUrl = true)
    (hlead : ∀ d ∈ lead, isSpaceUnit d = true) :
    parseSrcsetFrom fuel (lead ++ srcsetText ((c, spaced) :: l)) ≠ c :: l.map (·.1) := by
  intro h
  obtain ⟨fuel, rfl⟩ : ∃ n, fuel = n + 1 := by
    cases fuel with
    | zero => cases h
    | succ n => exact ⟨n, rfl⟩
  have hink := srcsetText_inked ((c, spaced) :: l) (List.cons_ne_nil _ _)
  obtain ⟨more, hmore⟩ := srcsetText_cons c spaced l
  rw [hmore] at h hink
  obtain ⟨q, t, hurl⟩ := List.exists_cons_of_ne_nil hc.url_ne_nil
  have hq : isQuote q = true := by simpa [startsQuoted, hurl] using hquote
  have hmem : q ∈ c.rawUrl := by rw [hurl]; exact List.mem_cons_self
  have hqspace : (!isSpaceUnit q) = true := by simp [hc.url_space q hmem]
  rw [parseSrcsetFrom] at h
  simp only [dropWhile_lead hlead hc.url_ne_nil hc.url_space hc.url_head] at h
  rw [hurl, List.cons_append, if_neg (by simp)] at h
  have hsplit : srcsetUrl (q :: (t ++ more)) =
      ((t ++ more).takeWhile (· != q), ((t ++ more).dropWhile (· != q)).drop 1) := by
    rw [srcsetUrl, if_pos hq]
  rw [hsplit] at h
  simp only at h
  split_ifs at h with hlen
  · -- the URL that is found has no quote of this kind
    have hfirst := congrArg SrcsetCandidate.rawUrl (List.cons.inj h).1
    simp only at hfirst
    rw [← hfirst] at hmem
    have := List.mem_takeWhile_imp hmem
    simp at this
  · -- nothing is found, and the rest is too short
    have hsize := parse_size fuel _ (by rw [h]; exact List.cons_ne_nil _ _)
    have hdrop := inked_sublist ((List.drop_sublist 1 _).trans (List.dropWhile_sublist
      (p := (· != unit ',')) (l := ((t ++ more).dropWhile (· != q)).drop 1)))
    have hdrop' := inked_sublist ((List.drop_sublist 1 _).trans
      (List.dropWhile_sublist (p := (· != q)) (l := t ++ more)))
    have hq1 : inked (c.rawUrl ++ more) = inked (t ++ more) + 1 := by
      rw [hurl]; exact List.countP_cons_of_pos hqspace
    rw [h] at hsize
    simp only [List.map_cons, List.length_cons, List.length_map] at hsize hink
    omega

/-- A URL without a descriptor takes the comma behind it. -/
theorem not_parsed_of_comma {l : List SrcsetCandidate} (hc : ValidCandidate c)
    (hquote : startsQuoted c.rawUrl = false) (hlead : ∀ d ∈ lead, isSpaceUnit d = true)
    (hrest : ∀ d ∈ rest.head?, isSpaceUnit d = true) :
    parseSrcsetFrom fuel (lead ++ (c.rawUrl ++ unit ',' :: rest)) ≠ c :: l := by
  intro h
  obtain ⟨fuel, rfl⟩ : ∃ n, fuel = n + 1 := by
    cases fuel with
    | zero => cases h
    | succ n => exact ⟨n, rfl⟩
  obtain ⟨d, t, hurl⟩ := List.exists_cons_of_ne_nil hc.url_ne_nil
  have hspace : ∀ e ∈ c.rawUrl ++ [unit ','], isSpaceUnit e = false := by
    intro e he
    rcases List.mem_append.1 he with he | he
    · exact hc.url_space e he
    · obtain rfl := List.mem_singleton.1 he
      decide
  rw [show c.rawUrl ++ unit ',' :: rest = (c.rawUrl ++ [unit ',']) ++ rest by simp,
    parseSrcsetFrom_plain hlead (by simp) (by simpa [startsQuoted, hurl] using hquote) hspace
      (by simpa [hurl] using hc.url_head) hrest] at h
  have hfirst := congrArg SrcsetCandidate.rawUrl (List.cons.inj h).1
  simp at hfirst

/-- **The parse, candidate by candidate.** -/
theorem parseSrcsetFrom_iff {l : List (SrcsetCandidate × Bool)} (hv : ∀ p ∈ l, ValidCandidate p.1)
    (hsep : Separated l) (hlead : ∀ d ∈ lead, isSpaceUnit d = true)
    (hfuel : (lead ++ srcsetText l).length ≤ fuel) :
    parseSrcsetFrom fuel (lead ++ srcsetText l) = l.map (·.1) ↔
      (∀ p ∈ l.dropLast, p.1.descriptors ≠ []) ∧ ∀ p ∈ l, startsQuoted p.1.rawUrl = false := by
  induction l generalizing fuel lead with
  | nil =>
    have hdrop : lead.dropWhile (fun c => isSpaceUnit c || c == unit ',') = [] :=
      List.dropWhile_eq_nil_iff.2 fun d hd => by simp [hlead d hd]
    have hnil : parseSrcsetFrom fuel lead = [] := by
      cases fuel with
      | zero => rfl
      | succ fuel => simp [parseSrcsetFrom, hdrop]
    simp [srcsetText, hnil]
  | cons p l ih =>
    obtain ⟨c, spaced⟩ := p
    have hc : ValidCandidate c := hv _ List.mem_cons_self
    by_cases hquote : startsQuoted c.rawUrl = true
    · simp [hquote, not_parsed_of_quote hc hquote hlead]
    have hquote : startsQuoted c.rawUrl = false := by simpa using hquote
    obtain ⟨fuel, rfl⟩ : ∃ n, fuel = n + 1 := by
      obtain ⟨more, hmore⟩ := srcsetText_cons c spaced l
      have := List.length_pos_of_ne_nil hc.url_ne_nil
      rw [hmore] at hfuel
      simp only [List.length_append] at hfuel
      exact ⟨fuel - 1, by omega⟩
    cases l with
    | nil =>
      have hone : parseSrcsetFrom (fuel + 1) (lead ++ (serializeSrcsetCandidate c c.rawUrl ++ [])) =
          c :: parseSrcsetFrom fuel ([] : Text) := parseSrcsetFrom_candidate hc hquote hlead (.inl rfl) (by simp)
      simp only [List.append_nil] at hone
      simp [srcsetText, hone, parseSrcsetFrom_nil, hquote]
    | cons next l =>
      set spaces : Text := if spaced then asciiUnits " " else [] with hspaces
      have hsepText : asciiUnits (if spaced then ", " else ",") = unit ',' :: spaces := by
        cases spaced <;> rfl
      have htext : srcsetText ((c, spaced) :: next :: l) =
          serializeSrcsetCandidate c c.rawUrl ++ unit ',' :: (spaces ++ srcsetText (next :: l)) := by
        rw [srcsetText, hsepText, List.append_assoc, List.cons_append]
      have hlead' : ∀ d ∈ spaces, isSpaceUnit d = true := by
        rw [hspaces]; cases spaced <;> exact List.all_eq_true.1 rfl
      rw [htext] at hfuel ⊢
      by_cases hd : c.descriptors = []
      · -- the comma is read as part of the URL
        have hspaced : spaced = true := hsep (c, spaced) (by simp) hd
        have hno : (∀ p ∈ ((c, spaced) :: next :: l).dropLast, p.1.descriptors ≠ []) ↔ False :=
          iff_false_intro fun h => h (c, spaced) (by simp) hd
        rw [hno, false_and, iff_false, serializeSrcsetCandidate, hd, List.length_nil, if_pos rfl,
          List.map_cons]
        refine not_parsed_of_comma hc hquote hlead ?_
        rw [hspaces, hspaced]
        intro d he
        obtain rfl : unit ' ' = d := by simpa [asciiUnits] using he
        decide
      · -- the round ends at the comma, and the rest is parsed in the same way
        rw [parseSrcsetFrom_candidate hc hquote hlead (.inr hd) (by simp)]
        simp only [List.length_append, List.length_cons] at hfuel
        have hrest := @ih spaces fuel (fun p hp => hv p (List.mem_cons_of_mem _ hp))
          (fun p hp => hsep p (by rw [List.dropLast_cons_cons]; exact List.mem_cons_of_mem _ hp)) hlead'
          (by simp only [List.length_append]; omega)
        rw [List.drop_succ_cons, List.drop_zero, List.map_cons, List.cons.injEq, hrest,
          List.dropLast_cons_cons, List.forall_mem_cons, List.forall_mem_cons (a := (c, spaced))]
        simp [hd, hquote]

/-- **Writing and parsing a `srcset`.** The parse finds the candidates that were
written, and each URL is rewritten by itself and keeps its descriptor, exactly when
every candidate but the last has a descriptor and no URL begins with a quote. -/
theorem srcset_roundTrip_iff (l : List (SrcsetCandidate × Bool))
    (hv : ∀ p ∈ l, ValidCandidate p.1) (hsep : Separated l) :
    (parseSrcset (srcsetText l) = l.map (·.1) ∧
      ∀ env mappings site processed,
        (l.map (·.1)).mapM (fun c => processReference env mappings site c.rawUrl) = .ok processed →
        ∃ r, rewriteSrcset env mappings site (srcsetText l) = .ok r ∧
          r.output = joinUnits (asciiUnits ", ") (List.zipWith
            (fun c p => serializeSrcsetCandidate c p.output) (l.map (·.1)) processed) ∧
          r.observations = processed.map (·.observation)) ↔
      (∀ p ∈ l.dropLast, p.1.descriptors ≠ []) ∧ ∀ p ∈ l, startsQuoted p.1.rawUrl = false := by
  have hiff := @parseSrcsetFrom_iff [] (srcsetText l).length l hv hsep (by simp) le_rfl
  rw [List.nil_append] at hiff
  rw [← hiff]
  refine ⟨fun h => h.1, fun h => ⟨h, fun env mappings site processed hprocessed => ?_⟩⟩
  unfold rewriteSrcset
  simp only
  rw [show parseSrcset (srcsetText l) = l.map (·.1) from h, hprocessed]
  exact ⟨_, rfl, rfl, rfl⟩

namespace Sample

/-- Two images without descriptors. -/
def plainImages : List (SrcsetCandidate × Bool) :=
  [(⟨asciiUnits "a.png", []⟩, true), (⟨asciiUnits "b.png", []⟩, false)]

/-- The first image of `a.png, b.png` takes the comma, and the second one is its descriptor. -/
theorem plainImages_lost :
    srcsetText plainImages = asciiUnits "a.png, b.png" ∧
      parseSrcset (srcsetText plainImages) ≠ plainImages.map (·.1) := by decide

/-- Two images of different widths. -/
def wideImages : List (SrcsetCandidate × Bool) :=
  [(⟨asciiUnits "a.png", asciiUnits "1x"⟩, false), (⟨asciiUnits "b,c.png", []⟩, false)]

theorem wideImages_valid : ∀ p ∈ wideImages, ValidCandidate p.1 := by
  have hurls : wideImages.all (fun p => p.1.rawUrl.all fun d => !isSpaceUnit d) = true := by decide
  have hdescriptors : wideImages.all (fun p => p.1.descriptors.all fun d => !isSpaceUnit d && d != unit ',') = true := by
    decide
  have hends : ∀ p ∈ wideImages, p.1.rawUrl ≠ [] ∧ p.1.rawUrl.head? ≠ some (unit ',') ∧
      p.1.rawUrl.getLast? ≠ some (unit ',') := by decide
  intro p hp
  obtain ⟨hne, hhead, hlast⟩ := hends p hp
  have hurl := List.all_eq_true.1 hurls p hp
  have hdescriptor := List.all_eq_true.1 hdescriptors p hp
  exact ⟨hne, by simpa using hurl, hhead, hlast, by simpa using hdescriptor⟩

theorem wideImages_kept : parseSrcset (srcsetText wideImages) = wideImages.map (·.1) :=
  ((srcset_roundTrip_iff wideImages
    wideImages_valid (by unfold Separated; decide)).2 ⟨by decide, by decide⟩).1

end Sample

end OfflineWebArchiver
