import OfflineWebArchiver.Html.Tokenizer

/-!
# When the attribute scan ends

What the scan of a start tag does, told on the text that is left instead of on the cursor.

* `Dangling`: the attributes of the text end with a name that runs to its end.
* `attributes_halt`: the loop over the attributes halts if and only if the text that is
  left is not dangling.
* `parseTag_halts`, `parseTag_name`: the same for a tag, and the name that it gets.
-/

namespace OfflineWebArchiver

/-- A unit of a value that goes on: no quote, if the value is quoted, else no space and no `>`. -/
def inValue (quote : Option CodeUnit) (c : CodeUnit) : Bool :=
  match quote with
  | some quote => c != quote
  | none => !(isSpaceUnit c || c == unit '>')

/-- Behind the value of an attribute, from the value on. -/
def afterValue : Text → Text
  | [] => []
  | c :: t =>
    if isQuote c then (t.dropWhile (inValue (some c))).drop 1
    else (c :: t).dropWhile (inValue none)

/-- Behind an attribute, from its name on. -/
def afterAttribute (t : Text) : Text :=
  match (t.dropWhile fun c => !isDelimiter c).dropWhile isSpaceUnit with
  | [] => []
  | c :: rest => if c = unit '=' then afterValue (rest.dropWhile isSpaceUnit) else c :: rest

/-- **The attributes end with a name that runs to the end of the text.** The name has two
units at least. -/
inductive Dangling : Text → Prop
  | name {t : Text} (hlength : 2 ≤ t.length) (hname : ∀ c ∈ t, isDelimiter c = false) : Dangling t
  | separator {c : CodeUnit} {t : Text} (hc : isDelimiter c = true) (h : Dangling t) : Dangling (c :: t)
  | pass {c : CodeUnit} {t : Text} (hc : isDelimiter c = false)
      (h : Dangling (afterAttribute (c :: t))) : Dangling (c :: t)

/-- The name of a start tag, and the text behind the name. -/
def startTag (lower : Text → Text) (raw : Text) : Option (Text × Text) :=
  if !startsWithAt raw (asciiUnits "<") 0 || startsWithAt raw (asciiUnits "<!--") 0 ||
      startsWithAt raw (asciiUnits "<!") 0 || startsWithAt raw (asciiUnits "<?") 0 then none
  else
    let body := (raw.drop 1).dropWhile isSpaceUnit
    let name := lower (body.takeWhile isTagNameUnit)
    if body.head? = some (unit '/') ∨ name.length = 0 then none
    else some (name, body.dropWhile isTagNameUnit)

/-- The text ends within a name of the attributes of its start tag. -/
def EndsInName (lower : Text → Text) (raw : Text) : Prop :=
  ∃ name rest, startTag lower raw = some (name, rest) ∧ Dangling rest

variable {lower : Text → Text} {raw t u : Text} {c : CodeUnit} {start i j : ℕ}

/-! ### Dangling texts -/

theorem Dangling.of_all (hlength : 2 ≤ t.length) (hname : (t.all fun c => !isDelimiter c) = true) :
    Dangling t :=
  .name hlength fun c hc => by simpa using List.all_eq_true.1 hname c hc

theorem afterValue_suffix (t : Text) : afterValue t <:+ t := by
  cases t with
  | nil => exact List.suffix_refl _
  | cons c t =>
    rw [afterValue]
    split_ifs
    · exact ((List.drop_suffix 1 _).trans (List.dropWhile_suffix _)).trans (List.suffix_cons c t)
    · exact List.dropWhile_suffix _

theorem afterAttribute_suffix (t : Text) : afterAttribute t <:+ t := by
  have h : (t.dropWhile fun c => !isDelimiter c).dropWhile isSpaceUnit <:+ t :=
    (List.dropWhile_suffix _).trans (List.dropWhile_suffix _)
  rw [afterAttribute]
  split
  · exact List.nil_suffix
  · next c rest heq =>
    rw [heq] at h
    split_ifs
    · exact (((afterValue_suffix _).trans (List.dropWhile_suffix _)).trans
        (List.suffix_cons c rest)).trans h
    · exact h

theorem Dangling.length (h : Dangling t) : 2 ≤ t.length := by
  induction h with
  | name hlength _ => exact hlength
  | separator _ _ ih => rw [List.length_cons]; omega
  | pass _ _ ih => exact Nat.le_trans ih (afterAttribute_suffix _).length_le

theorem dangling_separator (hc : isDelimiter c = true) : Dangling (c :: t) ↔ Dangling t := by
  constructor
  · intro h
    cases h with
    | name _ hname => rw [hname c List.mem_cons_self] at hc; cases hc
    | separator _ h => exact h
    | pass hc' _ => rw [hc'] at hc; cases hc
  · exact .separator hc

/-- Separators in front do not matter. -/
theorem dangling_dropWhile {p : CodeUnit → Bool} (hp : ∀ c, p c = true → isDelimiter c = true) :
    Dangling (t.dropWhile p) ↔ Dangling t := by
  induction t with
  | nil => exact Iff.rfl
  | cons c t ih =>
    by_cases hc : p c = true
    · rw [List.dropWhile_cons_of_pos hc, ih, dangling_separator (hp c hc)]
    · rw [List.dropWhile_cons_of_neg hc]

/-- A name that ends is passed with its attribute. -/
theorem dangling_attribute (hc : isDelimiter c = false) (hd : ∃ d ∈ c :: t, isDelimiter d = true) :
    Dangling (c :: t) ↔ Dangling (afterAttribute (c :: t)) := by
  constructor
  · intro h
    cases h with
    | name _ hname =>
      obtain ⟨d, hd, hdel⟩ := hd
      rw [hname d hd] at hdel; cases hdel
    | separator hc' _ => rw [hc'] at hc; cases hc
    | pass _ h => exact h
  · exact .pass hc

/-- The same text, or two that are too short to matter. -/
def Alike (t u : Text) : Prop := t = u ∨ t.length ≤ 1 ∧ u.length ≤ 1

theorem Alike.dangling (h : Alike t u) : Dangling t ↔ Dangling u := by
  rcases h with rfl | ⟨ht, hu⟩
  · exact Iff.rfl
  · exact ⟨fun h => absurd h.length (by omega), fun h => absurd h.length (by omega)⟩

/-! ### Scans -/

theorem drop_eq_cons (h : raw.drop i = c :: t) : raw[i]? = some c ∧ raw.drop (i + 1) = t := by
  constructor
  · rw [← List.head?_drop, h, List.head?_cons]
  · rw [← List.tail_drop, h, List.tail_cons]

theorem drop_eq_nil (h : raw.drop i = []) : raw[i]? = none := by
  rw [← List.head?_drop, h, List.head?_nil]

/-- A scan for the first unit outside a class. -/
theorem scan_units {test : ℕ → Bool} {p : CodeUnit → Bool}
    (htest : ∀ k c, raw[k]? = some c → test k = p c)
    (hend : (∀ k, raw[k]? = none → test k = false) ∨ ∃ c ∈ raw.drop i, p c = false) :
    (Fueled.scan test i).Returns (i + ((raw.drop i).takeWhile p).length) := by
  induction hr : raw.drop i generalizing i with
  | nil =>
    rcases hend with hend | ⟨c, hc, -⟩
    · exact (Fueled.returns_scan_false (hend i (drop_eq_nil hr))).2 rfl
    · rw [hr] at hc; cases hc
  | cons c t ih =>
    obtain ⟨hi, hnext⟩ := drop_eq_cons hr
    by_cases hc : p c = true
    · have hend' : (∀ k, raw[k]? = none → test k = false) ∨ ∃ c ∈ raw.drop (i + 1), p c = false := by
        rcases hend with hend | ⟨d, hd, hpd⟩
        · exact Or.inl hend
        · rw [hr] at hd
          rcases List.mem_cons.1 hd with rfl | hd
          · rw [hc] at hpd; cases hpd
          · exact Or.inr ⟨d, hnext ▸ hd, hpd⟩
      rw [Fueled.returns_scan_true (by rw [htest i c hi, hc]), List.takeWhile_cons_of_pos hc,
        List.length_cons, ← Nat.add_assoc, Nat.add_right_comm]
      exact ih hend' hnext
    · rw [List.takeWhile_cons_of_neg hc]
      exact (Fueled.returns_scan_false (by rw [htest i c hi]; simpa using hc)).2 rfl

theorem drop_takeWhile (raw : Text) (i : ℕ) (p : CodeUnit → Bool) :
    raw.drop (i + ((raw.drop i).takeWhile p).length) = (raw.drop i).dropWhile p := by
  have h : (raw.drop i).takeWhile p ++ (raw.drop i).dropWhile p = raw.drop i :=
    List.takeWhile_append_dropWhile
  calc raw.drop (i + ((raw.drop i).takeWhile p).length)
      = ((raw.drop i).takeWhile p ++ (raw.drop i).dropWhile p).drop
          ((raw.drop i).takeWhile p).length := by rw [h, List.drop_drop]
    _ = (raw.drop i).dropWhile p := List.drop_left

theorem slice_takeWhile (raw : Text) (i : ℕ) (p : CodeUnit → Bool) :
    slice raw i (i + ((raw.drop i).takeWhile p).length) = (raw.drop i).takeWhile p := by
  have h : (raw.drop i).takeWhile p ++ (raw.drop i).dropWhile p = raw.drop i :=
    List.takeWhile_append_dropWhile
  calc slice raw i (i + ((raw.drop i).takeWhile p).length)
      = ((raw.drop i).takeWhile p ++ (raw.drop i).dropWhile p).take
          ((raw.drop i).takeWhile p).length := by rw [h, slice, Nat.add_sub_cancel_left]
    _ = (raw.drop i).takeWhile p := List.take_left

theorem scan_class (raw : Text) (p : CodeUnit → Bool) (i : ℕ) :
    (Fueled.scan (testAt raw p) i).Returns (i + ((raw.drop i).takeWhile p).length) :=
  scan_units (fun k c hk => by simp [testAt, hk]) (Or.inl fun k hk => by simp [testAt, hk])

theorem valueTest_of_lt {quote : Option CodeUnit} {k : ℕ} (hk : k < raw.length - 1)
    (hc : raw[k]? = some c) : valueTest raw quote k = inValue quote c := by
  cases quote with
  | none => simp [valueTest, inValue, hk, testAt, hc]
  | some q => simp [valueTest, inValue, hk, hc, bne]

theorem valueTest_of_le {quote : Option CodeUnit} {k : ℕ} (hk : raw.length - 1 ≤ k) :
    valueTest raw quote k = false := by
  simp [valueTest, Nat.not_lt.2 hk]

/-- The scan of a value stops before the last unit at the latest. -/
theorem scan_value (raw : Text) (quote : Option CodeUnit) (i : ℕ) :
    ∃ j, i ≤ j ∧ (Fueled.scan (valueTest raw quote) i).Returns j ∧
      (raw.drop j = (raw.drop i).dropWhile (inValue quote) ∨
        (raw.drop i).dropWhile (inValue quote) = [] ∧ (raw.drop j).length ≤ 1 ∧
          ∀ c ∈ raw.drop j, inValue quote c = true) := by
  induction hr : raw.drop i generalizing i with
  | nil =>
    have hi : raw.length ≤ i := List.drop_eq_nil_iff.1 hr
    exact ⟨i, Nat.le_refl i, (Fueled.returns_scan_false (valueTest_of_le (by omega))).2 rfl, Or.inl hr⟩
  | cons c t ih =>
    obtain ⟨hi, hnext⟩ := drop_eq_cons hr
    have hlen : (raw.drop i).length = t.length + 1 := by rw [hr, List.length_cons]
    rw [List.length_drop] at hlen
    by_cases hc : inValue quote c = true
    · by_cases hl : raw.length - 1 ≤ i
      · obtain rfl : t = [] := List.eq_nil_of_length_eq_zero (by omega)
        refine ⟨i, Nat.le_refl i, (Fueled.returns_scan_false (valueTest_of_le hl)).2 rfl,
          Or.inr ⟨?_, ?_, ?_⟩⟩
        · rw [List.dropWhile_cons_of_pos hc, List.dropWhile_nil]
        · rw [hr]; exact Nat.le_refl 1
        · intro d hd
          rw [hr] at hd
          rw [List.mem_singleton.1 hd]
          exact hc
      · obtain ⟨j, hij, hj, hrest⟩ := ih (i + 1) hnext
        have htest : valueTest raw quote i = true := by rw [valueTest_of_lt (by omega) hi, hc]
        refine ⟨j, by omega, (Fueled.returns_scan_true htest).2 hj, ?_⟩
        rw [List.dropWhile_cons_of_pos hc]
        exact hrest
    · have hstop : valueTest raw quote i = false := by
        by_cases hl : raw.length - 1 ≤ i
        · exact valueTest_of_le hl
        · rw [valueTest_of_lt (by omega) hi]; simpa using hc
      refine ⟨i, Nat.le_refl i, (Fueled.returns_scan_false hstop).2 rfl, Or.inl ?_⟩
      rw [hr, List.dropWhile_cons_of_neg hc]

/-! ### The attributes -/

/-- Behind the value: the closing quote is passed when it is there. -/
theorem value_rest {quote : Option CodeUnit} {k : ℕ}
    (h : raw.drop k = t.dropWhile (inValue quote) ∨ t.dropWhile (inValue quote) = [] ∧
      (raw.drop k).length ≤ 1 ∧ ∀ c ∈ raw.drop k, inValue quote c = true) :
    Alike (raw.drop (if quote.isSome ∧ raw[k]? = quote then k + 1 else k))
      (if quote.isSome then (t.dropWhile (inValue quote)).drop 1 else t.dropWhile (inValue quote)) := by
  cases quote with
  | none =>
    simp only [Option.isSome_none, Bool.false_eq_true, false_and, if_false]
    rcases h with h | ⟨hnil, hshort, -⟩
    · exact Or.inl h
    · rw [hnil]; exact Or.inr ⟨hshort, Nat.zero_le 1⟩
  | some q =>
    simp only [Option.isSome_some, true_and, if_true]
    rcases h with h | ⟨hnil, hshort, hother⟩
    · cases hd : t.dropWhile (inValue (some q)) with
      | nil =>
        rw [hd] at h
        rw [if_neg (by rw [drop_eq_nil h]; nofun), h]
        exact Or.inl rfl
      | cons d r =>
        have hdq : d = q := by
          have hstop := List.head?_dropWhile_not (inValue (some q)) t
          rw [hd] at hstop
          simpa [inValue] using hstop
        rw [hd] at h
        obtain ⟨hkd, hkr⟩ := drop_eq_cons h
        rw [if_pos (by rw [hkd, hdq]), hkr]
        exact Or.inl rfl
    · have hne : raw[k]? ≠ some q := by
        intro hkq
        have hmem : q ∈ raw.drop k := List.mem_of_mem_head? (by rw [List.head?_drop, hkq]; rfl)
        simpa [inValue] using hother q hmem
      rw [if_neg hne, hnil]
      exact Or.inr ⟨hshort, Nat.zero_le 1⟩

theorem parseValue_returns (raw : Text) (start : ℕ) (name : Text) (i : ℕ) :
    ∃ k item, i ≤ k ∧ (parseValue raw start name i).Returns (k, item) ∧
      Alike (raw.drop k) (afterValue ((raw.drop i).dropWhile isSpaceUnit)) := by
  have hj := scan_class raw isSpaceUnit i
  have hdrop := drop_takeWhile raw i isSpaceUnit
  set j := i + ((raw.drop i).takeWhile isSpaceUnit).length with hjdef
  rw [← hdrop]
  obtain ⟨k, hjk, hk, hrest⟩ := scan_value raw (raw[j]?.filter isQuote)
    (if (raw[j]?.filter isQuote).isSome then j + 1 else j)
  have hik : i ≤ k := by
    split_ifs at hjk <;> omega
  refine ⟨_, _, ?_, Fueled.returns_bind.2 ⟨j, hj, Fueled.returns_bind.2 ⟨k, hk,
    Fueled.returns_pure.2 rfl⟩⟩, ?_⟩
  · split_ifs <;> omega
  · have hlike := value_rest hrest
    cases hr : raw.drop j with
    | nil => simpa [drop_eq_nil hr, hr, afterValue] using hlike
    | cons c t =>
      obtain ⟨hc, hnext⟩ := drop_eq_cons hr
      by_cases hq : isQuote c = true
      · simpa [hc, Option.filter, hq, hnext, afterValue] using hlike
      · simpa [hc, Option.filter, hq, hr, afterValue] using hlike

/-- An attribute whose name ends. -/
theorem parseAttribute_returns (lower : Text → Text) (start : ℕ) (attributes : List HtmlAttribute)
    (hi : raw.drop i = c :: t)
    (hc : isDelimiter c = false) (hd : ∃ d ∈ c :: t, isDelimiter d = true) :
    ∃ k items, i < k ∧ (parseAttribute lower raw start i attributes).Returns (k, items) ∧
      Alike (raw.drop k) (afterAttribute (c :: t)) := by
  -- the name
  have hname : (Fueled.scan (fun cursor => !testAt raw isDelimiter cursor) i).Returns
      (i + ((raw.drop i).takeWhile fun c => !isDelimiter c).length) :=
    scan_units (fun k c hk => by simp [testAt, hk]) (Or.inr (by rw [hi]; simpa using hd))
  have hnameDrop := drop_takeWhile raw i (fun c => !isDelimiter c)
  have hpos : 0 < ((raw.drop i).takeWhile fun c => !isDelimiter c).length := by
    rw [hi, List.takeWhile_cons_of_pos (by simp [hc]), List.length_cons]
    exact Nat.succ_pos _
  set j := i + ((raw.drop i).takeWhile fun c => !isDelimiter c).length with hj
  -- the spaces behind it
  have hspace := scan_class raw isSpaceUnit j
  have hspaceDrop := drop_takeWhile raw j isSpaceUnit
  set m := j + ((raw.drop j).takeWhile isSpaceUnit).length with hm
  rw [hnameDrop, hi] at hspaceDrop
  by_cases heq : raw[m]? = some (unit '=')
  · obtain ⟨k, item, hmk, hvalue, hlike⟩ := parseValue_returns raw start
      (lower (slice raw i j)) (m + 1)
    refine ⟨k, attributes ++ [item], by omega, ?_, ?_⟩
    · refine Fueled.returns_bind.2 ⟨j, hname, ?_⟩
      rw [if_neg (by omega)]
      refine Fueled.returns_bind.2 ⟨m, hspace, ?_⟩
      rw [if_neg (by rw [heq]; exact fun h => h rfl)]
      exact Fueled.returns_bind.2 ⟨(k, item), hvalue, Fueled.returns_pure.2 rfl⟩
    · cases hr : raw.drop m with
      | nil => rw [drop_eq_nil hr] at heq; cases heq
      | cons d r =>
        obtain ⟨hd', hnext⟩ := drop_eq_cons hr
        obtain rfl := Option.some.inj (hd'.symm.trans heq)
        rw [afterAttribute, ← hspaceDrop, hr]
        simp only [if_true]
        rw [← hnext]
        exact hlike
  · refine ⟨m, attributes ++ [⟨lower (slice raw i j), none, none, none, none⟩], by omega, ?_,
      Or.inl ?_⟩
    · refine Fueled.returns_bind.2 ⟨j, hname, ?_⟩
      rw [if_neg (by omega)]
      refine Fueled.returns_bind.2 ⟨m, hspace, ?_⟩
      rw [if_pos heq]
      exact Fueled.returns_pure.2 rfl
    · rw [afterAttribute, ← hspaceDrop]
      cases hr : raw.drop m with
      | nil => rfl
      | cons d r =>
        have hne : d ≠ unit '=' := by
          rintro rfl
          exact heq (drop_eq_cons hr).1
        simp only [if_neg hne]

/-- At a separator that is neither a space nor `/` the cursor moves on. -/
theorem parseAttribute_separator (attributes : List HtmlAttribute) (hi : raw.drop i = c :: t)
    (hc : isDelimiter c = true) :
    (parseAttribute lower raw start i attributes).Returns (i + 1, attributes) := by
  have hstop : (fun cursor => !testAt raw isDelimiter cursor) i = false := by
    simp [testAt, (drop_eq_cons hi).1, hc]
  refine Fueled.returns_bind.2 ⟨i, (Fueled.returns_scan_false hstop).2 rfl, ?_⟩
  rw [if_pos rfl]
  exact Fueled.returns_pure.2 rfl

/-- A name that does not end is scanned for ever. -/
theorem parseAttribute_not_halts (attributes : List HtmlAttribute)
    (hname : ∀ d ∈ raw.drop i, isDelimiter d = false) :
    ¬(parseAttribute lower raw start i attributes).Halts := by
  intro h
  obtain ⟨j, hj, -⟩ := Fueled.halts_bind.1 h
  obtain ⟨hij, -, hstop⟩ := Fueled.returns_scan.1 hj
  cases hr : raw[j]? with
  | none => simp [testAt, hr] at hstop
  | some d =>
    have hmem : d ∈ raw.drop i := by
      rw [List.mem_iff_getElem?]
      exact ⟨j - i, by rw [List.getElem?_drop, Nat.add_sub_cancel' hij, hr]⟩
    simp [testAt, hr, hname d hmem] at hstop

/-- **The loop over the attributes** halts if and only if the text that is left is not
dangling. -/
theorem attributes_halt (lower : Text → Text) (raw : Text) (start i : ℕ)
    (attributes : List HtmlAttribute) :
    (Fueled.iterate (attributeRound lower raw start) (i, attributes)).Halts ↔
      ¬Dangling (raw.drop i) := by
  induction hk : raw.length - i using Nat.strongRecOn generalizing i attributes with
  | ind k ih =>
    have hshort : ∀ {j}, raw.length - 1 ≤ j → ¬Dangling (raw.drop j) := by
      intro j hj h
      have := h.length
      rw [List.length_drop] at this
      omega
    by_cases hlt : i < raw.length - 1
    swap
    · refine iff_of_true (Fueled.halts_iterate_of_inr (a := attributes) ?_) (hshort (by omega))
      rw [attributeRound, if_neg hlt]
      exact Fueled.returns_pure.2 rfl
    -- spaces and slashes
    have hskip := scan_class raw (fun c => isSpaceUnit c || c == unit '/') i
    have hdrop := drop_takeWhile raw i (fun c => isSpaceUnit c || c == unit '/')
    set j := i + ((raw.drop i).takeWhile fun c => isSpaceUnit c || c == unit '/').length with hj
    have hsame : Dangling (raw.drop j) ↔ Dangling (raw.drop i) := by
      rw [hdrop]
      refine dangling_dropWhile fun c hc => ?_
      rcases Bool.or_eq_true_iff.1 hc with hc | hc <;> simp [isDelimiter, hc]
    rw [← hsame]
    have hround : ∀ r, (attributeRound lower raw start (i, attributes)).Returns r ↔
        (if raw.length - 1 ≤ j then pure (.inr attributes) else do
          let next ← parseAttribute lower raw start j attributes
          pure (.inl next) : Fueled ((ℕ × List HtmlAttribute) ⊕ List HtmlAttribute)).Returns r := by
      intro r
      rw [attributeRound, if_pos hlt]
      exact (Fueled.bind_of_returns hskip).1 r
    by_cases hbreak : raw.length - 1 ≤ j
    · refine iff_of_true (Fueled.halts_iterate_of_inr (a := attributes) ?_) (hshort hbreak)
      rw [hround, if_pos hbreak]
      exact Fueled.returns_pure.2 rfl
    simp only [if_neg hbreak] at hround
    have hnext : ∀ {m items}, (parseAttribute lower raw start j attributes).Returns (m, items) →
        j < m → ((Fueled.iterate (attributeRound lower raw start) (i, attributes)).Halts ↔
          ¬Dangling (raw.drop m)) := by
      intro m items hm hjm
      have hn : Fueled.Next (attributeRound lower raw start) (i, attributes) (m, items) :=
        (hround _).2 (Fueled.returns_bind.2 ⟨(m, items), hm, Fueled.returns_pure.2 rfl⟩)
      rw [Fueled.halts_iterate_of_next hn]
      exact ih (raw.length - m) (by omega) m items rfl
    cases hr : raw.drop j with
    | nil =>
      have := List.drop_eq_nil_iff.1 hr
      omega
    | cons c t =>
      by_cases hc : isDelimiter c = true
      · rw [hnext (parseAttribute_separator attributes hr hc) (Nat.lt_succ_self j),
          (drop_eq_cons hr).2, dangling_separator hc]
      · have hc : isDelimiter c = false := by simpa using hc
        by_cases hd : ∃ d ∈ c :: t, isDelimiter d = true
        · obtain ⟨m, items, hjm, hm, hlike⟩ := parseAttribute_returns lower start attributes hr hc hd
          rw [hnext hm hjm, hlike.dangling, dangling_attribute hc hd]
        · -- the name runs to the end
          have hname : ∀ d ∈ c :: t, isDelimiter d = false := by
            intro d hd'
            by_contra hne
            exact hd ⟨d, hd', by simpa using hne⟩
          have hlen : (raw.drop j).length = t.length + 1 := by rw [hr, List.length_cons]
          rw [List.length_drop] at hlen
          refine iff_of_false (fun h => ?_) (not_not_intro (.name ?_ hname))
          · obtain ⟨r, hr'⟩ := (Fueled.halts_iterate.1 h).1
            obtain ⟨next, hn, -⟩ := Fueled.returns_bind.1 ((hround r).1 hr')
            exact parseAttribute_not_halts attributes (hr ▸ hname) hn.halts
          · rw [List.length_cons]; omega

/-! ### Tags -/

variable {text : Text} {stop : ℕ}

/-- The name that a token has as a start tag. -/
def HtmlToken.startName (token : HtmlToken) : Option Text :=
  if token.isStartTag then token.tagName else none

/-- A tag that is parsed and is no start tag. -/
theorem parsed_of_not_startTag {c : Fueled HtmlToken} {token : HtmlToken}
    (hstart : startTag lower raw = none) (hc : c = pure token) (htoken : token.startName = none) :
    (c.Halts ↔ ¬EndsInName lower raw) ∧
      ∀ token, c.Returns token → token.startName = (startTag lower raw).map (·.1) := by
  rw [hc, hstart]
  refine ⟨iff_of_true Fueled.halts_pure ?_, fun token' h => ?_⟩
  · rintro ⟨name, rest, h, -⟩
    rw [hstart] at h; cases h
  · rw [Fueled.returns_pure.1 h, htoken]
    rfl

/-- **A tag** is parsed if and only if it does not end in a name, and the token has the name
of the start tag. -/
theorem parseTag_spec (lower : Text → Text) (text : Text) (start stop : ℕ) :
    ((parseTag lower text start stop).Halts ↔ ¬EndsInName lower (slice text start stop)) ∧
      ∀ token, (parseTag lower text start stop).Returns token →
        token.startName = (startTag lower (slice text start stop)).map (·.1) := by
  unfold parseTag
  simp only []
  set raw := slice text start stop with hraw
  split_ifs with hguard
  · exact parsed_of_not_startTag (by rw [startTag, if_pos hguard]) rfl rfl
  have hspace := scan_class raw isSpaceUnit 1
  have hbody := drop_takeWhile raw 1 isSpaceUnit
  set i := 1 + ((raw.drop 1).takeWhile isSpaceUnit).length with hi
  have hhead : ((raw.drop 1).dropWhile isSpaceUnit).head? = raw[i]? := by rw [← hbody, List.head?_drop]
  rw [(Fueled.bind_of_returns hspace).2]
  simp only [(Fueled.bind_of_returns hspace).1]
  by_cases hend : raw[i]? = some (unit '/')
  · -- an end tag
    have hnone : startTag lower raw = none := by
      rw [startTag, if_neg hguard, if_pos (Or.inl (hhead.trans hend))]
    have hname := scan_class raw isTagNameUnit (i + 1)
    simp only [hend, BEq.rfl, if_true]
    rw [(Fueled.bind_of_returns hname).2]
    simp only [(Fueled.bind_of_returns hname).1]
    split_ifs
    · exact parsed_of_not_startTag hnone rfl rfl
    · exact parsed_of_not_startTag hnone rfl rfl
  have hname := scan_class raw isTagNameUnit i
  have hslice := slice_takeWhile raw i isTagNameUnit
  have hrest := drop_takeWhile raw i isTagNameUnit
  set m := i + ((raw.drop i).takeWhile isTagNameUnit).length with hm
  have hbeq : (raw[i]? == some (unit '/')) = false := by simpa using hend
  simp only [hbeq, Bool.false_eq_true, if_false]
  rw [(Fueled.bind_of_returns hname).2]
  simp only [(Fueled.bind_of_returns hname).1, hslice]
  split_ifs with hempty
  · refine parsed_of_not_startTag ?_ rfl rfl
    rw [startTag, if_neg hguard, if_pos (Or.inr (by rw [← hbody]; exact hempty))]
  have hsome : startTag lower raw = some (lower ((raw.drop i).takeWhile isTagNameUnit), raw.drop m) := by
    have hno : ¬(((raw.drop 1).dropWhile isSpaceUnit).head? = some (unit '/') ∨
        (lower (((raw.drop 1).dropWhile isSpaceUnit).takeWhile isTagNameUnit)).length = 0) := by
      rw [hhead, ← hbody]
      exact not_or.2 ⟨hend, hempty⟩
    rw [startTag, if_neg hguard, if_neg hno, ← hbody, hrest]
  have hhalts := attributes_halt lower raw start m []
  refine ⟨?_, fun token h => ?_⟩
  · rw [Fueled.halts_bind]
    constructor
    · rintro ⟨attributes, ha, -⟩ ⟨name, rest, heq, hd⟩
      rw [hsome] at heq
      obtain ⟨-, rfl⟩ := Prod.mk.inj (Option.some.inj heq)
      exact hhalts.1 ha.halts hd
    · intro hd
      obtain ⟨attributes, ha⟩ := hhalts.2 fun h => hd ⟨_, _, hsome, h⟩
      exact ⟨attributes, ha, Fueled.halts_pure⟩
  · obtain ⟨attributes, -, h⟩ := Fueled.returns_bind.1 h
    rw [Fueled.returns_pure.1 h, hsome]
    rfl

end OfflineWebArchiver
