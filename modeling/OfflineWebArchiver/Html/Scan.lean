import OfflineWebArchiver.Html.Ranges
import OfflineWebArchiver.Properties.Tokenizing

/-!
# The scan as a relation

`Scan lower text cursor tokens`: from `cursor` on the scan reports `tokens`.

* `returns_scan_iff`: the loop of `tokenizeHtml` returns what the scan reports.
* `Scan.located`: the tokens lie one behind the other, and their values lie in them.
* `Scan.split`: behind each token the scan goes on where `afterTag` says.
* `Scan.mem_iff`: the tokens are the tags that the scan meets.
-/

namespace OfflineWebArchiver

/-- What the scan reports from `cursor` on. -/
inductive Scan (lower : Text → Text) (text : Text) : ℕ → List HtmlToken → Prop
  | done {cursor : ℕ} (h : cursor < text.length → indexOf text (asciiUnits "<") cursor = none) :
      Scan lower text cursor []
  | comment {cursor start : ℕ} {tokens : List HtmlToken}
      (hstart : indexOf text (asciiUnits "<") cursor = some start)
      (hcomment : startsWithAt text (asciiUnits "<!--") start = true)
      (h : Scan lower text (afterComment text start) tokens) : Scan lower text cursor tokens
  | tag {cursor start : ℕ} {token : HtmlToken} {tokens : List HtmlToken}
      (hstart : indexOf text (asciiUnits "<") cursor = some start)
      (hcomment : startsWithAt text (asciiUnits "<!--") start = false)
      (htoken : (parseTag lower text start (findTagEnd text start)).Returns token)
      (h : Scan lower text (afterTag lower text (findTagEnd text start) token.startName) tokens) :
      Scan lower text cursor (token :: tokens)

/-- **The tokens lie within the text from `low` on**, one behind the other, and the values of each
in it. -/
structure TokensLocated (text : Text) (low : ℕ) (tokens : List HtmlToken) : Prop where
  range : ∀ token ∈ tokens, low ≤ token.start ∧ token.start < token.stop ∧ token.stop ≤ text.length
  ordered : tokens.Pairwise fun a b => a.stop ≤ b.start
  attributes : ∀ token ∈ tokens, AttributesLocated text token.start token.stop token.attributes

variable {lower : Text → Text} {text : Text} {cursor start low : ℕ}
variable {token : HtmlToken} {tokens acc after : List HtmlToken}

/-! ### The loop -/

/-- What a round of the loop does. -/
theorem tagRound_cases {s : ℕ × List HtmlToken} :
    Fueled.Next (tagRound lower text) (cursor, acc) s ↔
      ∃ start, indexOf text (asciiUnits "<") cursor = some start ∧
        (startsWithAt text (asciiUnits "<!--") start = true ∧ s = (afterComment text start, acc) ∨
          startsWithAt text (asciiUnits "<!--") start = false ∧
            ∃ token, (parseTag lower text start (findTagEnd text start)).Returns token ∧
              s = (afterTag lower text (findTagEnd text start) token.startName, acc ++ [token])) := by
  simp only [Fueled.Next, tagRound]
  constructor
  · intro h
    split_ifs at h with hlt
    swap
    · cases Fueled.returns_pure.1 h
    split at h
    · cases Fueled.returns_pure.1 h
    next start hstart =>
    refine ⟨start, hstart, ?_⟩
    split_ifs at h with hcomment
    · exact Or.inl ⟨hcomment, Sum.inl.inj (Fueled.returns_pure.1 h)⟩
    · obtain ⟨token, htoken, h⟩ := Fueled.returns_bind.1 h
      exact Or.inr ⟨by simpa using hcomment, token, htoken, Sum.inl.inj (Fueled.returns_pure.1 h)⟩
  · rintro ⟨start, hstart, hcases⟩
    obtain ⟨hle, hlt, -⟩ := indexOf_some hstart
    rw [if_pos (by omega), hstart]
    simp only []
    rcases hcases with ⟨hcomment, rfl⟩ | ⟨hcomment, token, htoken, rfl⟩
    · rw [if_pos hcomment]
      exact Fueled.returns_pure.2 rfl
    · rw [if_neg (by rw [hcomment]; exact Bool.false_ne_true)]
      exact Fueled.returns_bind.2 ⟨token, htoken, Fueled.returns_pure.2 rfl⟩

/-- How the loop ends. -/
theorem tagRound_ends {result : List HtmlToken} :
    (tagRound lower text (cursor, acc)).Returns (.inr result) ↔
      result = acc ∧ (cursor < text.length → indexOf text (asciiUnits "<") cursor = none) := by
  rw [tagRound]
  split_ifs with hlt
  · cases hstart : indexOf text (asciiUnits "<") cursor with
    | none => simp [hlt]
    | some start =>
      simp only [hlt, forall_const, reduceCtorEq, and_false, iff_false]
      split_ifs
      · exact fun h => by cases Fueled.returns_pure.1 h
      · intro h
        obtain ⟨token, -, h⟩ := Fueled.returns_bind.1 h
        cases Fueled.returns_pure.1 h
  · simp [hlt]

/-- **The loop returns what the scan reports** behind what it has collected. -/
theorem returns_scan_iff :
    (Fueled.iterate (tagRound lower text) (cursor, acc)).Returns tokens ↔
      ∃ found, tokens = acc ++ found ∧ Scan lower text cursor found := by
  constructor
  · intro h
    obtain ⟨⟨cursor', acc'⟩, hreach, hend⟩ := Fueled.returns_iterate_iff.1 h
    obtain ⟨rfl, hnone⟩ := tagRound_ends.1 hend
    clear h hend
    -- the rounds that are left, from the last one back
    suffices ∀ s, Relation.ReflTransGen (Fueled.Next (tagRound lower text)) s (cursor', tokens) →
        ∃ found, tokens = s.2 ++ found ∧ Scan lower text s.1 found from this _ hreach
    intro s hs
    induction hs using Relation.ReflTransGen.head_induction_on with
    | refl => exact ⟨[], (List.append_nil _).symm, .done hnone⟩
    | @head s s' hn _ ih =>
      obtain ⟨cursor, acc⟩ := s
      obtain ⟨found, heq, hscan⟩ := ih
      obtain ⟨start, hstart, ⟨hcomment, rfl⟩ | ⟨hcomment, token, htoken, rfl⟩⟩ := tagRound_cases.1 hn
      · exact ⟨found, heq, .comment hstart hcomment hscan⟩
      · exact ⟨token :: found, by rw [heq, List.append_assoc, List.singleton_append],
          .tag hstart hcomment htoken hscan⟩
  · rintro ⟨found, rfl, hscan⟩
    induction hscan generalizing acc with
    | done h => exact Fueled.returns_iterate.2 (Or.inl (tagRound_ends.2 ⟨List.append_nil _, h⟩))
    | comment hstart hcomment _ ih =>
      exact Fueled.returns_iterate.2 (Or.inr ⟨_,
        tagRound_cases.2 ⟨_, hstart, Or.inl ⟨hcomment, rfl⟩⟩, ih⟩)
    | @tag cursor start token tokens hstart hcomment htoken _ ih =>
      rw [← List.singleton_append, ← List.append_assoc]
      exact Fueled.returns_iterate.2 (Or.inr ⟨_,
        tagRound_cases.2 ⟨_, hstart, Or.inr ⟨hcomment, token, htoken, rfl⟩⟩, ih⟩)

theorem tokenizeHtml_returns : (tokenizeHtml lower text).Returns tokens ↔ Scan lower text 0 tokens := by
  rw [tokenizeHtml, returns_scan_iff]
  simp

/-! ### Where the tokens lie -/

theorem findTagEnd_le (h : start < text.length) : findTagEnd text start ≤ text.length := by
  rcases (findTagEndFrom_spec text none (start + 1) _ rfl h).2 with hend | ⟨i, hi, -, hget⟩
  · exact Nat.le_of_eq hend
  · have := (List.getElem?_eq_some_iff.1 hget).1
    rw [findTagEnd, hi]
    omega

theorem afterTag_ge (lower : Text → Text) (hstop : start ≤ text.length) (name : Option Text) :
    start ≤ afterTag lower text start name := by
  cases name with
  | none => exact Nat.le_refl _
  | some name =>
    rw [afterTag]
    split_ifs
    · cases hi : indexOf (lower text) (asciiUnits "</" ++ name) start with
      | none => exact hstop
      | some i => exact (indexOf_some hi).1
    · exact Nat.le_refl _

/-- **Where the tokens of a scan lie.** -/
theorem Scan.located (h : Scan lower text cursor tokens) : TokensLocated text cursor tokens := by
  induction h with
  | done => exact ⟨by simp, .nil, by simp⟩
  | @comment cursor start tokens hstart _ _ ih =>
    obtain ⟨hle, hlt, -⟩ := indexOf_some hstart
    have := afterComment_gt hlt
    exact ⟨fun token hmem => ⟨by have := (ih.range token hmem).1; omega, (ih.range token hmem).2⟩,
      ih.ordered, ih.attributes⟩
  | @tag cursor start token tokens hstart _ htoken _ ih =>
    obtain ⟨hle, hlt, -⟩ := indexOf_some hstart
    have hgt := findTagEnd_gt hlt
    have hend := findTagEnd_le hlt
    have hafter := afterTag_ge lower hend token.startName
    obtain ⟨rfl, htstop, hattributes, -⟩ := parseTag_located hend hgt htoken
    refine ⟨?_, List.pairwise_cons.2 ⟨fun x hx => ?_, ih.ordered⟩, ?_⟩
    · intro x hx
      rcases List.mem_cons.1 hx with rfl | hx
      · exact ⟨hle, by omega, by omega⟩
      · have := ih.range x hx
        exact ⟨by omega, this.2⟩
    · have := (ih.range x hx).1
      omega
    · intro x hx
      rcases List.mem_cons.1 hx with rfl | hx
      · rw [htstop]
        exact hattributes
      · exact ih.attributes x hx

/-- A value begins in front of the end of its tag, unless the tag is the last one. -/
theorem Scan.closed (h : Scan lower text cursor tokens) :
    tokens.Pairwise fun a b => ∀ item ∈ a.attributes, ∀ i ∈ item.valueStart, i < b.start := by
  induction h with
  | done => exact .nil
  | comment _ _ _ ih => exact ih
  | @tag cursor start token tokens hstart _ htoken h ih =>
    refine List.pairwise_cons.2 ⟨fun x hx item hitem i hi => ?_, ih⟩
    obtain ⟨hle, hlt, -⟩ := indexOf_some hstart
    have hgt := findTagEnd_gt hlt
    have hend := findTagEnd_le hlt
    have hafter := afterTag_ge lower hend token.startName
    have hrange := h.located.range x hx
    obtain ⟨-, -, -, hclosed⟩ := parseTag_located hend hgt htoken
    rcases (findTagEndFrom_spec text none (start + 1) _ rfl hlt).2 with hlast | ⟨k, hk, -, hget⟩
    · -- no tag follows one that runs to the end of the text
      have : findTagEnd text start = text.length := hlast
      omega
    · have hk : findTagEnd text start = k + 1 := hk
      have := hclosed (by rw [hk, Nat.add_sub_cancel, hget]) item hitem i hi
      omega

/-- **Behind a token** the scan goes on where `afterTag` says. -/
theorem Scan.split {before : List HtmlToken}
    (h : Scan lower text cursor (before ++ token :: after)) :
    Scan lower text (afterTag lower text token.stop token.startName) after := by
  generalize htokens : before ++ token :: after = tokens at h
  induction h generalizing before with
  | done => simp at htokens
  | comment _ _ _ ih => exact ih htokens
  | @tag cursor start token' tokens hstart _ htoken h ih =>
    cases before with
    | cons b before => exact ih (List.cons.inj htokens).2
    | nil =>
      obtain ⟨rfl, rfl⟩ := List.cons.inj htokens
      obtain ⟨-, hlt, -⟩ := indexOf_some hstart
      rw [(parseTag_located (findTagEnd_le hlt) (findTagEnd_gt hlt) htoken).2.1]
      exact h

/-! ### The tags that the scan meets -/

/-- The scan passes every place that `Visits` names. -/
theorem Scan.visits (h : Scan lower text 0 tokens) (hvisit : Visits lower text cursor) :
    ∃ before after, tokens = before ++ after ∧ Scan lower text cursor after := by
  induction hvisit with
  | start => exact ⟨[], tokens, rfl, h⟩
  | comment _ hstart hcomment ih =>
    obtain ⟨before, after, rfl, hafter⟩ := ih
    cases hafter with
    | done hnone =>
      obtain ⟨hle, hlt, -⟩ := indexOf_some hstart
      cases hstart.symm.trans (hnone (by omega))
    | comment hstart' _ hafter =>
      obtain rfl := Option.some.inj (hstart.symm.trans hstart')
      exact ⟨before, after, rfl, hafter⟩
    | tag hstart' hno =>
      obtain rfl := Option.some.inj (hstart.symm.trans hstart')
      rw [hcomment] at hno; cases hno
  | @tag cursor start _ hstart hcomment ih =>
    obtain ⟨before, after, rfl, hafter⟩ := ih
    cases hafter with
    | done hnone =>
      obtain ⟨hle, hlt, -⟩ := indexOf_some hstart
      cases hstart.symm.trans (hnone (by omega))
    | comment hstart' hyes =>
      obtain rfl := Option.some.inj (hstart.symm.trans hstart')
      rw [hcomment] at hyes; cases hyes
    | @tag _ _ token tokens hstart' _ htoken hafter =>
      obtain rfl := Option.some.inj (hstart.symm.trans hstart')
      refine ⟨before ++ [token], tokens, by rw [List.append_assoc, List.singleton_append], ?_⟩
      rw [(parseTag_spec lower text start (findTagEnd text start)).2 token htoken] at hafter
      exact hafter

/-- What a token says of its tag. -/
structure HtmlToken.Of (lower : Text → Text) (text : Text) (start : ℕ) (token : HtmlToken) : Prop where
  begins : token.start = start
  ends : token.stop = findTagEnd text start
  named : token.startName = (startTag lower (rawTag text start)).map (·.1)

theorem HtmlToken.Of.of_returns (hlt : start < text.length)
    (h : (parseTag lower text start (findTagEnd text start)).Returns token) :
    token.Of lower text start := by
  obtain ⟨hstart, hstop, -, -⟩ := parseTag_located (findTagEnd_le hlt) (findTagEnd_gt hlt) h
  exact ⟨hstart, hstop, (parseTag_spec lower text start (findTagEnd text start)).2 token h⟩

theorem Scan.tagAt (h : Scan lower text cursor tokens) (hvisit : Visits lower text cursor) :
    ∀ token ∈ tokens, ∃ start, TagAt lower text start ∧ token.Of lower text start := by
  induction h with
  | done => intro token hmem; cases hmem
  | comment hstart hcomment _ ih => exact ih (hvisit.comment hstart hcomment)
  | @tag cursor start token tokens hstart hcomment htoken _ ih =>
    obtain ⟨-, hlt, -⟩ := indexOf_some hstart
    have hof := HtmlToken.Of.of_returns hlt htoken
    intro x hx
    rcases List.mem_cons.1 hx with rfl | hx
    · exact ⟨start, ⟨cursor, hvisit, hstart, hcomment⟩, hof⟩
    · exact ih (hof.named ▸ hvisit.tag hstart hcomment) x hx

/-- **The tokens are the tags that the scan meets.** -/
theorem Scan.mem_iff (h : Scan lower text 0 tokens) (start : ℕ) :
    TagAt lower text start ↔ ∃ token ∈ tokens, token.Of lower text start := by
  constructor
  · rintro ⟨cursor, hvisit, hstart, hcomment⟩
    obtain ⟨before, after, rfl, hafter⟩ := h.visits hvisit
    obtain ⟨hle, hlt, -⟩ := indexOf_some hstart
    cases hafter with
    | done hnone => cases hstart.symm.trans (hnone (by omega))
    | comment hstart' hyes =>
      obtain rfl := Option.some.inj (hstart.symm.trans hstart')
      rw [hcomment] at hyes; cases hyes
    | @tag _ _ token tokens hstart' _ htoken =>
      obtain rfl := Option.some.inj (hstart.symm.trans hstart')
      exact ⟨token, List.mem_append_right _ List.mem_cons_self, .of_returns hlt htoken⟩
  · rintro ⟨token, hmem, hof⟩
    obtain ⟨start', htag, hof'⟩ := h.tagAt .start token hmem
    rwa [← hof.begins, hof'.begins]

end OfflineWebArchiver
