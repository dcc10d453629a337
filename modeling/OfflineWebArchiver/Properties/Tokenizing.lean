import OfflineWebArchiver.Html.TagScan

/-!
# Does the tokenizer return

* `tokenizeHtml_halts_iff`: it does if and only if no tag that the scan meets ends in a name.
* `truncated_apostrophe_run`: texts on which it does not return.
-/

namespace OfflineWebArchiver

/-- The text of the tag at `start`. -/
def rawTag (text : Text) (start : ℕ) : Text := slice text start (findTagEnd text start)

/-- Where the scan stands at the start of a round. -/
inductive Visits (lower : Text → Text) (text : Text) : ℕ → Prop
  | start : Visits lower text 0
  | comment {cursor start : ℕ} (h : Visits lower text cursor)
      (hstart : indexOf text (asciiUnits "<") cursor = some start)
      (hcomment : startsWithAt text (asciiUnits "<!--") start = true) :
      Visits lower text (afterComment text start)
  | tag {cursor start : ℕ} (h : Visits lower text cursor)
      (hstart : indexOf text (asciiUnits "<") cursor = some start)
      (hcomment : startsWithAt text (asciiUnits "<!--") start = false) :
      Visits lower text (afterTag lower text (findTagEnd text start)
        ((startTag lower (rawTag text start)).map (·.1)))

/-- The scan meets a tag at `start`. -/
def TagAt (lower : Text → Text) (text : Text) (start : ℕ) : Prop :=
  ∃ cursor, Visits lower text cursor ∧ indexOf text (asciiUnits "<") cursor = some start ∧
    startsWithAt text (asciiUnits "<!--") start = false

variable {lower : Text → Text} {text : Text} {start cursor : ℕ} {tokens : List HtmlToken}

/-! ### Progress -/

/-- `findTagEnd` stops behind a `>` or at the end of the text. -/
theorem findTagEndFrom_spec (text : Text) (quote : Option CodeUnit) (index : ℕ) (rest : Text)
    (hrest : text.drop index = rest) (hindex : index ≤ text.length) :
    index ≤ findTagEndFrom text quote index rest ∧
      (findTagEndFrom text quote index rest = text.length ∨
        ∃ i, findTagEndFrom text quote index rest = i + 1 ∧ index ≤ i ∧ text[i]? = some (unit '>')) := by
  induction rest generalizing quote index with
  | nil => exact ⟨by cases quote <;> exact hindex, Or.inl (by cases quote <;> rfl)⟩
  | cons c rest ih =>
    obtain ⟨hc, hnext⟩ := drop_eq_cons hrest
    have hlt : index < text.length := (List.getElem?_eq_some_iff.1 hc).1
    have hstep : ∀ quote, index ≤ findTagEndFrom text quote (index + 1) rest ∧
        (findTagEndFrom text quote (index + 1) rest = text.length ∨
          ∃ i, findTagEndFrom text quote (index + 1) rest = i + 1 ∧ index ≤ i ∧
            text[i]? = some (unit '>')) := by
      intro quote
      obtain ⟨hle, hend⟩ := ih quote (index + 1) hnext hlt
      refine ⟨by omega, ?_⟩
      rcases hend with hend | ⟨i, hi, hle', hget⟩
      · exact Or.inl hend
      · exact Or.inr ⟨i, hi, by omega, hget⟩
    cases quote with
    | some q => exact hstep _
    | none =>
      rw [findTagEndFrom]
      split_ifs with hq hgt
      · exact hstep _
      · exact ⟨Nat.le_succ _, Or.inr ⟨index, rfl, Nat.le_refl _, by rw [hc, hgt]⟩⟩
      · exact hstep _

theorem findTagEnd_gt (h : start < text.length) : start < findTagEnd text start :=
  (findTagEndFrom_spec text none (start + 1) _ rfl h).1

theorem afterComment_gt (h : start < text.length) : start < afterComment text start := by
  unfold afterComment
  split
  · next e he => have := (indexOf_some he).1; omega
  · exact h

theorem afterTag_gt (lower : Text → Text) {stop : ℕ} (hstart : start < text.length) (hstop : start < stop)
    (name : Option Text) : start < afterTag lower text stop name := by
  cases name with
  | none => exact hstop
  | some name =>
    rw [afterTag]
    split_ifs
    · cases hi : indexOf (lower text) (asciiUnits "</" ++ name) stop with
      | none => exact hstart
      | some i => exact Nat.lt_of_lt_of_le hstop (indexOf_some hi).1
    · exact hstop

/-! ### The rounds -/

/-- What a round does. -/
theorem tagRound_next {s : ℕ × List HtmlToken}
    (h : Fueled.Next (tagRound lower text) (cursor, tokens) s) :
    ∃ start, indexOf text (asciiUnits "<") cursor = some start ∧
      (startsWithAt text (asciiUnits "<!--") start = true ∧ s.1 = afterComment text start ∨
        startsWithAt text (asciiUnits "<!--") start = false ∧
          s.1 = afterTag lower text (findTagEnd text start)
            ((startTag lower (rawTag text start)).map (·.1))) := by
  simp only [Fueled.Next, tagRound] at h
  split_ifs at h with hlt
  swap
  · cases Fueled.returns_pure.1 h
  split at h
  · cases Fueled.returns_pure.1 h
  next start hstart =>
  refine ⟨start, hstart, ?_⟩
  split_ifs at h with hcomment
  · obtain rfl := Sum.inl.inj (Fueled.returns_pure.1 h)
    exact Or.inl ⟨hcomment, rfl⟩
  · obtain ⟨token, htoken, h⟩ := Fueled.returns_bind.1 h
    obtain rfl := Sum.inl.inj (Fueled.returns_pure.1 h)
    have hname := (parseTag_spec lower text start (findTagEnd text start)).2 token htoken
    refine Or.inr ⟨by simpa using hcomment, ?_⟩
    exact congrArg (afterTag lower text (findTagEnd text start)) hname

/-- Every round moves the cursor on. -/
theorem tagRound_gt {s s' : ℕ × List HtmlToken} (h : Fueled.Next (tagRound lower text) s s') :
    s.1 < s'.1 ∧ s.1 < text.length := by
  obtain ⟨start, hstart, hcases⟩ := tagRound_next h
  obtain ⟨hle, hlt, -⟩ := indexOf_some hstart
  refine ⟨?_, by omega⟩
  rcases hcases with ⟨-, hs⟩ | ⟨-, hs⟩
  · have := afterComment_gt hlt
    omega
  · have := afterTag_gt lower hlt (findTagEnd_gt hlt)
      ((startTag lower (rawTag text start)).map (·.1))
    omega

/-- **A round** ends unless its tag ends in a name. -/
theorem tagRound_halts : (tagRound lower text (cursor, tokens)).Halts ↔
    ∀ start, indexOf text (asciiUnits "<") cursor = some start →
      startsWithAt text (asciiUnits "<!--") start = false → ¬EndsInName lower (rawTag text start) := by
  simp only [tagRound]
  split_ifs with hlt
  swap
  · refine iff_of_true Fueled.halts_pure fun start hstart => ?_
    obtain ⟨hle, hlt', -⟩ := indexOf_some hstart
    omega
  split
  · next hnone =>
    refine iff_of_true Fueled.halts_pure fun start hstart => ?_
    rw [hnone] at hstart; cases hstart
  next start hstart =>
  split_ifs with hcomment
  · refine iff_of_true Fueled.halts_pure fun start' hstart' hno => ?_
    obtain rfl := Option.some.inj (hstart.symm.trans hstart')
    rw [hcomment] at hno; cases hno
  · have hspec := (parseTag_spec lower text start (findTagEnd text start)).1
    rw [Fueled.halts_bind]
    constructor
    · rintro ⟨token, htoken, -⟩ start' hstart' -
      obtain rfl := Option.some.inj (hstart.symm.trans hstart')
      exact hspec.1 htoken.halts
    · intro h
      obtain ⟨token, htoken⟩ := hspec.2 (h start hstart (by simpa using hcomment))
      exact ⟨token, htoken, Fueled.halts_pure⟩

/-- **The tokenizer returns if and only if no tag that the scan meets ends in a name**: no
unclosed start tag has an attribute name of two or more units that runs to the end of the
text. -/
theorem tokenizeHtml_halts_iff (lower : Text → Text) (text : Text) :
    (∃ tokens, (tokenizeHtml lower text).Returns tokens) ↔
      ∀ start, TagAt lower text start → ¬EndsInName lower (rawTag text start) := by
  have hiff : (tokenizeHtml lower text).Halts ↔
      ∀ s, Relation.ReflTransGen (Fueled.Next (tagRound lower text)) (0, []) s →
        (tagRound lower text s).Halts :=
    Fueled.halts_iterate_iff (fun s => text.length - s.1) fun s s' h => by
      have := tagRound_gt h
      omega
  refine hiff.trans ⟨fun h start ⟨cursor, hvisit, hstart, hcomment⟩ => ?_, fun h s hs => ?_⟩
  · -- where the scan stands is reached, as every round before ends
    suffices ∃ tokens, Relation.ReflTransGen (Fueled.Next (tagRound lower text)) (0, []) (cursor, tokens) by
      obtain ⟨tokens, hreach⟩ := this
      exact tagRound_halts.1 (h _ hreach) start hstart hcomment
    clear hstart hcomment
    have hnext : ∀ {cursor start : ℕ} {tokens : List HtmlToken},
        Relation.ReflTransGen (Fueled.Next (tagRound lower text)) (0, []) (cursor, tokens) →
        indexOf text (asciiUnits "<") cursor = some start →
        ∃ s', Fueled.Next (tagRound lower text) (cursor, tokens) s' := by
      intro cursor start tokens hreach hstart
      obtain ⟨r, hr⟩ := h _ hreach
      cases r with
      | inl s' => exact ⟨s', hr⟩
      | inr result =>
        exfalso
        have hlt : cursor < text.length := by
          obtain ⟨hle, hlt, -⟩ := indexOf_some hstart
          omega
        rw [tagRound, if_pos hlt, hstart] at hr
        simp only [] at hr
        split_ifs at hr
        · cases Fueled.returns_pure.1 hr
        · obtain ⟨token, -, hr⟩ := Fueled.returns_bind.1 hr
          cases Fueled.returns_pure.1 hr
    induction hvisit with
    | start => exact ⟨[], .refl⟩
    | comment _ hstart hcomment ih =>
      obtain ⟨tokens, hreach⟩ := ih
      obtain ⟨⟨cursor', tokens'⟩, hn⟩ := hnext hreach hstart
      obtain ⟨start', hstart', hcases⟩ := tagRound_next hn
      obtain rfl := Option.some.inj (hstart.symm.trans hstart')
      rcases hcases with ⟨-, rfl⟩ | ⟨hno, -⟩
      · exact ⟨tokens', hreach.tail hn⟩
      · rw [hcomment] at hno; cases hno
    | tag _ hstart hcomment ih =>
      obtain ⟨tokens, hreach⟩ := ih
      obtain ⟨⟨cursor', tokens'⟩, hn⟩ := hnext hreach hstart
      obtain ⟨start', hstart', hcases⟩ := tagRound_next hn
      obtain rfl := Option.some.inj (hstart.symm.trans hstart')
      rcases hcases with ⟨hyes, -⟩ | ⟨-, rfl⟩
      · rw [hcomment] at hyes; cases hyes
      · exact ⟨tokens', hreach.tail hn⟩
  · have hvisit : Visits lower text s.1 := by
      induction hs with
      | refl => exact .start
      | tail _ hn ih =>
        obtain ⟨start, hstart, hcases⟩ := tagRound_next hn
        rcases hcases with ⟨hcomment, hs⟩ | ⟨hcomment, hs⟩
        · rw [hs]; exact .comment ih hstart hcomment
        · rw [hs]; exact .tag ih hstart hcomment
    obtain ⟨cursor, tokens⟩ := s
    exact tagRound_halts.2 fun start hstart hcomment => h start ⟨cursor, hvisit, hstart, hcomment⟩

/-! ### Texts that are scanned for ever -/

/-- `toLowerCase` on ASCII texts. -/
def lowerAscii (t : Text) : Text :=
  t.map fun c => if unit 'A' ≤ c && c ≤ unit 'Z' then c + 32 else c

/-- A text whose first tag ends in a name. -/
theorem not_halts_of_endsInName (start : ℕ) (hstart : indexOf text (asciiUnits "<") 0 = some start)
    (hcomment : startsWithAt text (asciiUnits "<!--") start = false)
    (h : EndsInName lower (rawTag text start)) : ¬(tokenizeHtml lower text).Halts := fun hhalts =>
  tagRound_halts.1 (Fueled.halts_iterate.1 hhalts).1 start hstart hcomment h

/-- A text that is cut off in an attribute name. -/
def truncated : Text := asciiUnits "<a bc"

/-- An apostrophe in a value without quotes: `findTagEnd` takes it for a quote that is
never closed, and the tag takes in the text behind it. -/
def apostrophe : Text := asciiUnits "<a href=it's>x yz"

/-- **No fuel is enough** for either text. -/
theorem truncated_apostrophe_run :
    (∀ n, (tokenizeHtml lowerAscii truncated).run n = none) ∧
      ∀ n, (tokenizeHtml lowerAscii apostrophe).run n = none := by
  constructor
  · refine Fueled.run_eq_none (not_halts_of_endsInName 0 (by decide) (by decide) ?_)
    refine ⟨asciiUnits "a", asciiUnits " bc", by decide, ?_⟩
    exact .separator (by decide) (.of_all (by decide) (by decide))
  · refine Fueled.run_eq_none (not_halts_of_endsInName 0 (by decide) (by decide) ?_)
    refine ⟨asciiUnits "a", asciiUnits " href=it's>x yz", by decide,
      .separator (by decide) (.pass (by decide) ?_)⟩
    -- behind the value: `>`, the attribute `x`, and the name `yz`
    change Dangling (asciiUnits ">x yz")
    refine .separator (by decide) (.pass (by decide) ?_)
    change Dangling (asciiUnits "yz")
    exact .of_all (by decide) (by decide)

end OfflineWebArchiver
