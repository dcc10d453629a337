import OfflineWebArchiver.Html.TagScan

/-!
# Where tokens and values stand

* `HtmlAttribute.Located`: the value of an attribute stands where its range says.
* `parseTag_located`: the values of a tag stand in the tag, one behind the other.
-/

namespace OfflineWebArchiver

/-- An attribute of the text between `low` and `high`: without a value, or with the value that
stands in its range. -/
inductive HtmlAttribute.Located (text : Text) (low high : ℕ) : HtmlAttribute → Prop
  | bare (name : Text) : Located text low high ⟨name, none, none, none, none⟩
  | valued {first last : ℕ} (name : Text) (quote : Option CodeUnit) (hlow : low < first)
      (hle : first ≤ last) (hhigh : last ≤ high) :
      Located text low high ⟨name, some (slice text first last), some first, some last, quote⟩

/-- The value of `a` ends before that of `b` begins. -/
def HtmlAttribute.Before (a b : HtmlAttribute) : Prop :=
  ∀ i ∈ a.valueEnd, ∀ j ∈ b.valueStart, i < j

/-- **The attributes of a text between `low` and `high`**, one behind the other. -/
structure AttributesLocated (text : Text) (low high : ℕ) (attributes : List HtmlAttribute) : Prop where
  located : ∀ item ∈ attributes, item.Located text low high
  ordered : attributes.Pairwise HtmlAttribute.Before

variable {lower : Text → Text} {raw text name : Text} {start stop i j k low high : ℕ}
variable {attributes items : List HtmlAttribute} {item : HtmlAttribute}

/-! ### Ranges -/

theorem HtmlAttribute.Located.mono {low' high' : ℕ} (h : item.Located text low high)
    (hlow : low' ≤ low) (hhigh : high ≤ high') : item.Located text low' high' := by
  cases h with
  | bare name => exact .bare name
  | valued name quote h1 h2 h3 => exact .valued name quote (by omega) h2 (by omega)

theorem attributesLocated_nil : AttributesLocated text low high [] := ⟨by simp, .nil⟩

/-- One more attribute, from the end of the last one on. -/
theorem AttributesLocated.concat (h : AttributesLocated text low j attributes) (hjk : j ≤ k)
    (hlow : low ≤ j) (hitem : item.Located text j k) :
    AttributesLocated text low k (attributes ++ [item]) := by
  refine ⟨fun x hx => ?_, List.pairwise_append.2 ⟨h.ordered, List.pairwise_singleton _ _, ?_⟩⟩
  · rcases List.mem_append.1 hx with hx | hx
    · exact (h.located x hx).mono (Nat.le_refl _) hjk
    · rw [List.mem_singleton.1 hx]
      exact hitem.mono hlow (Nat.le_refl _)
  · intro a ha b hb e he f hf
    rw [List.mem_singleton.1 hb] at hf
    cases h.located a ha with
    | bare => cases he
    | valued _ _ _ _ hhigh =>
      cases hitem with
      | bare => cases hf
      | valued _ _ hfirst _ _ =>
        obtain rfl := Option.some.inj he
        obtain rfl := Option.some.inj hf
        omega

theorem AttributesLocated.mono {high' : ℕ} (h : AttributesLocated text low high attributes)
    (hhigh : high ≤ high') : AttributesLocated text low high' attributes :=
  ⟨fun x hx => (h.located x hx).mono (Nat.le_refl _) hhigh, h.ordered⟩

/-- A piece of a piece. -/
theorem slice_slice (hj : start + j ≤ stop) :
    slice (slice text start stop) i j = slice text (start + i) (start + j) := by
  rw [slice, slice, slice, List.drop_take, List.take_take, List.drop_drop]
  congr 1
  omega

/-! ### Scans -/

theorem testAt_lt {p : CodeUnit → Bool} (h : testAt raw p i = true) : i < raw.length := by
  cases hget : raw[i]? with
  | none => simp [testAt, hget] at h
  | some c => exact (List.getElem?_eq_some_iff.1 hget).1

theorem scan_testAt {p : CodeUnit → Bool} (hi : i ≤ raw.length)
    (h : (Fueled.scan (testAt raw p) i).Returns j) : i ≤ j ∧ j ≤ raw.length := by
  obtain ⟨hij, hpass, -⟩ := Fueled.returns_scan.1 h
  refine ⟨hij, ?_⟩
  rcases Nat.eq_or_lt_of_le hij with rfl | hlt
  · exact hi
  · have := testAt_lt (hpass (j - 1) (by omega) (by omega))
    omega

/-- The value ends before the last unit of the tag, or where it begins. -/
theorem scan_valueTest {quote : Option CodeUnit} (hi : i ≤ raw.length)
    (h : (Fueled.scan (valueTest raw quote) i).Returns j) : i ≤ j ∧ j ≤ raw.length := by
  obtain ⟨hij, hpass, -⟩ := Fueled.returns_scan.1 h
  refine ⟨hij, ?_⟩
  rcases Nat.eq_or_lt_of_le hij with rfl | hlt
  · exact hi
  · by_contra hlong
    have hlast := hpass (j - 1) (by omega) (by omega)
    rw [valueTest_of_le (by omega)] at hlast
    cases hlast

/-! ### Attributes -/

/-- A scan over units other than `>` stops at the closing one at the latest. -/
theorem scan_closed {p : CodeUnit → Bool} (hp : p (unit '>') = false)
    (hclosed : raw[raw.length - 1]? = some (unit '>')) (hi : i < raw.length)
    (h : (Fueled.scan (testAt raw p) i).Returns j) : j < raw.length := by
  obtain ⟨-, hpass, -⟩ := Fueled.returns_scan.1 h
  by_contra hlong
  have hlast := hpass (raw.length - 1) (by omega) (by omega)
  rw [testAt, hclosed, Option.any_some, hp] at hlast
  cases hlast

theorem parseValue_located (hi : i ≤ raw.length)
    (h : (parseValue raw start name i).Returns (k, item)) :
    i ≤ k ∧ k ≤ raw.length ∧ ∃ first last quote, i ≤ first ∧ first ≤ last ∧ last ≤ k ∧
      (raw[raw.length - 1]? = some (unit '>') → i < raw.length → first < raw.length) ∧
      item = ⟨name, some (slice raw first last), some (start + first), some (start + last), quote⟩ := by
  obtain ⟨j, hj, h⟩ := Fueled.returns_bind.1 h
  obtain ⟨last, hlast, h⟩ := Fueled.returns_bind.1 h
  obtain ⟨rfl, rfl⟩ := Prod.mk.inj (Fueled.returns_pure.1 h)
  obtain ⟨hij, hjn⟩ := scan_testAt hi hj
  -- the value begins behind its quote
  have hfirst : ∀ {quote : Option CodeUnit}, raw[j]?.filter isQuote = quote →
      j ≤ (if quote.isSome then j + 1 else j) ∧ (if quote.isSome then j + 1 else j) ≤ raw.length := by
    intro quote hquote
    split_ifs with hsome
    · obtain ⟨q, rfl⟩ := Option.isSome_iff_exists.1 hsome
      have hget := (Option.filter_eq_some_iff.1 hquote).1
      have := (List.getElem?_eq_some_iff.1 hget).1
      omega
    · omega
  obtain ⟨hle, hn⟩ := hfirst rfl
  obtain ⟨hlow, hhigh⟩ := scan_valueTest hn hlast
  have hstop : last ≤ (if (raw[j]?.filter isQuote).isSome ∧ raw[last]? = raw[j]?.filter isQuote
        then last + 1 else last) ∧
      (if (raw[j]?.filter isQuote).isSome ∧ raw[last]? = raw[j]?.filter isQuote
        then last + 1 else last) ≤ raw.length := by
    split_ifs with hclose
    · obtain ⟨hsome, heq⟩ := hclose
      obtain ⟨q, hq⟩ := Option.isSome_iff_exists.1 hsome
      have := (List.getElem?_eq_some_iff.1 (heq.trans hq)).1
      omega
    · omega
  refine ⟨by omega, hstop.2, _, last, _, by omega, hlow, hstop.1, fun hclosed hlt => ?_, rfl⟩
  have hjlt := scan_closed (by decide) hclosed hlt hj
  split_ifs with hsome
  · -- the quote is not the closing `>`
    obtain ⟨q, hq⟩ := Option.isSome_iff_exists.1 hsome
    obtain ⟨hget, hquote⟩ := Option.filter_eq_some_iff.1 hq
    by_contra hlong
    obtain rfl : j = raw.length - 1 := by omega
    obtain rfl := Option.some.inj (hget.symm.trans hclosed)
    cases hquote
  · exact hjlt

/-- **An attribute**: the cursor moves on, and what is added stands behind where it was. -/
theorem parseAttribute_located
    (h : (parseAttribute lower raw start i attributes).Returns (k, items)) :
    i < k ∧ k ≤ raw.length ∧ (items = attributes ∨ ∃ name, items = attributes ++
        [⟨name, none, none, none, none⟩] ∨
      ∃ first last quote, i < first ∧ first ≤ last ∧ last ≤ k ∧
        (raw[raw.length - 1]? = some (unit '>') → first < raw.length) ∧ items = attributes ++
        [⟨name, some (slice raw first last), some (start + first), some (start + last), quote⟩]) := by
  obtain ⟨j, hj, h⟩ := Fueled.returns_bind.1 h
  obtain ⟨hij, -, hstop⟩ := Fueled.returns_scan.1 hj
  have hjn : j < raw.length := testAt_lt (by simpa using hstop)
  split_ifs at h with hsame
  · obtain ⟨rfl, rfl⟩ := Prod.mk.inj (Fueled.returns_pure.1 h)
    exact ⟨by omega, by omega, Or.inl rfl⟩
  obtain ⟨m, hm, h⟩ := Fueled.returns_bind.1 h
  obtain ⟨hjm, hmn⟩ := scan_testAt (by omega) hm
  split_ifs at h with hequals
  · obtain ⟨rfl, rfl⟩ := Prod.mk.inj (Fueled.returns_pure.1 h)
    exact ⟨by omega, hmn, Or.inr ⟨_, Or.inl rfl⟩⟩
  · obtain ⟨⟨k', item⟩, hvalue, h⟩ := Fueled.returns_bind.1 h
    obtain ⟨rfl, rfl⟩ := Prod.mk.inj (Fueled.returns_pure.1 h)
    have hmlt : m < raw.length := by
      have hget : raw[m]? = some (unit '=') := by simpa using hequals
      exact (List.getElem?_eq_some_iff.1 hget).1
    obtain ⟨hmk, hkn, first, last, quote, hfirst, hle, hlast, hclosed, rfl⟩ :=
      parseValue_located (by omega) hvalue
    refine ⟨by omega, hkn, Or.inr ⟨_, Or.inr ⟨first, last, quote, by omega, hle, hlast, ?_, rfl⟩⟩⟩
    intro hgt
    refine hclosed hgt ?_
    -- the `=` is not the closing `>`
    by_contra hlong
    have hget : raw[m]? = some (unit '=') := by simpa using hequals
    obtain rfl : m = raw.length - 1 := by omega
    cases hget.symm.trans hgt

/-- The attributes that are parsed up to the cursor. -/
structure ParsedTo (text : Text) (start stop : ℕ) (state : ℕ × List HtmlAttribute) : Prop where
  cursor : start + state.1 ≤ stop
  attributes : AttributesLocated text start (start + state.1) state.2
  closed : text[stop - 1]? = some (unit '>') → ∀ item ∈ state.2, ∀ i ∈ item.valueStart, i < stop

theorem attributeRound_located (hstop : stop ≤ text.length) (hstart : start ≤ stop)
    {s s' : ℕ × List HtmlAttribute} (hs : ParsedTo text start stop s)
    (h : Fueled.Next (attributeRound lower (slice text start stop) start) s s') :
    ParsedTo text start stop s' := by
  obtain ⟨i, attributes⟩ := s
  obtain ⟨k, items⟩ := s'
  have hlen : (slice text start stop).length = stop - start := by
    rw [slice, List.length_take, List.length_drop]
    omega
  simp only [Fueled.Next, attributeRound] at h
  split_ifs at h with hlt
  swap
  · cases Fueled.returns_pure.1 h
  obtain ⟨j, hj, h⟩ := Fueled.returns_bind.1 h
  obtain ⟨hij, hjn⟩ := scan_testAt (by omega) hj
  split_ifs at h with hbreak
  · cases Fueled.returns_pure.1 h
  obtain ⟨⟨k', items'⟩, hnext, h⟩ := Fueled.returns_bind.1 h
  obtain ⟨rfl, rfl⟩ := Prod.mk.inj (Sum.inl.inj (Fueled.returns_pure.1 h))
  obtain ⟨hjk, hkn, hcases⟩ := parseAttribute_located hnext
  have hmono : AttributesLocated text start (start + j) attributes :=
    hs.attributes.mono (by simp only; omega)
  have hlast : (slice text start stop)[(slice text start stop).length - 1]? = text[stop - 1]? := by
    rw [hlen, slice, List.getElem?_take_of_lt (by omega), List.getElem?_drop]
    congr 1
    omega
  rw [hlast, hlen] at hcases
  rcases hcases with rfl | ⟨name, rfl | ⟨first, last, quote, hfirst, hle, hlast, hclosed, rfl⟩⟩
  · exact ⟨by simp only; omega, hmono.mono (by simp only; omega), hs.closed⟩
  · refine ⟨by simp only; omega, hmono.concat (by simp only; omega) (by omega) (.bare name), ?_⟩
    intro hgt x hx
    rcases List.mem_append.1 hx with hx | hx
    · exact hs.closed hgt x hx
    · rw [List.mem_singleton.1 hx]
      intro i hi
      cases hi
  · refine ⟨by simp only; omega, ?_, ?_⟩
    · rw [slice_slice (by omega)]
      exact hmono.concat (by simp only; omega) (by omega)
        (.valued name quote (by omega) (by omega) (by simp only; omega))
    · intro hgt x hx
      rcases List.mem_append.1 hx with hx | hx
      · exact hs.closed hgt x hx
      · rw [List.mem_singleton.1 hx]
        intro k hk
        obtain rfl := Option.some.inj hk
        have := hclosed hgt
        omega

/-- **The values of a tag stand in the tag**, one behind the other, and the token has the range of
the tag. In a tag that is closed they begin in front of its end. -/
theorem parseTag_located {token : HtmlToken} (hstop : stop ≤ text.length) (hstart : start < stop)
    (h : (parseTag lower text start stop).Returns token) :
    token.start = start ∧ token.stop = stop ∧ AttributesLocated text start stop token.attributes ∧
      (text[stop - 1]? = some (unit '>') →
        ∀ item ∈ token.attributes, ∀ i ∈ item.valueStart, i < stop) := by
  have hlen : (slice text start stop).length = stop - start := by
    rw [slice, List.length_take, List.length_drop]
    omega
  unfold parseTag at h
  simp only [] at h
  split_ifs at h
  · rw [Fueled.returns_pure.1 h]
    exact ⟨rfl, rfl, attributesLocated_nil, by simp⟩
  obtain ⟨i, hi, h⟩ := Fueled.returns_bind.1 h
  obtain ⟨-, hin⟩ := scan_testAt (by omega) hi
  obtain ⟨m, hm, h⟩ := Fueled.returns_bind.1 h
  have hname : (if ((slice text start stop)[i]? == some (unit '/')) = true then i + 1 else i) ≤
      (slice text start stop).length := by
    split_ifs with hslash
    · have hget : (slice text start stop)[i]? = some (unit '/') := by simpa using hslash
      have := (List.getElem?_eq_some_iff.1 hget).1
      omega
    · exact hin
  obtain ⟨-, hmn⟩ := scan_testAt hname hm
  generalize (if ((slice text start stop)[i]? == some (unit '/')) = true then i + 1 else i) =
    tagStart at h
  split_ifs at h
  · rw [Fueled.returns_pure.1 h]
    exact ⟨rfl, rfl, attributesLocated_nil, by simp⟩
  · rw [Fueled.returns_pure.1 h]
    exact ⟨rfl, rfl, attributesLocated_nil, by simp⟩
  obtain ⟨attributes, ha, h⟩ := Fueled.returns_bind.1 h
  rw [Fueled.returns_pure.1 h]
  have hinit : ParsedTo text start stop (m, []) :=
    ⟨by simp only; omega, attributesLocated_nil, by simp⟩
  obtain ⟨⟨k, items⟩, hitems, hend⟩ := Fueled.iterate_invariant
    (fun s s' hs hn => attributeRound_located hstop (by omega) hs hn) hinit ha
  -- the loop ends with what it has collected
  have hresult : attributes = items := by
    rw [attributeRound] at hend
    split_ifs at hend
    · obtain ⟨j, -, hend⟩ := Fueled.returns_bind.1 hend
      split_ifs at hend
      · exact Sum.inr.inj (Fueled.returns_pure.1 hend)
      · obtain ⟨next, -, hend⟩ := Fueled.returns_bind.1 hend
        cases Fueled.returns_pure.1 hend
    · exact Sum.inr.inj (Fueled.returns_pure.1 hend)
  rw [hresult]
  exact ⟨rfl, rfl, hitems.attributes.mono hitems.cursor, hitems.closed⟩

end OfflineWebArchiver
