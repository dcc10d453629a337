import OfflineWebArchiver.Html.Collect

/-!
# What the loop over a style sheet collects

* `cssReferences`: the references that the scan finds.
* `cssMove_gt`: every round moves the cursor on.
* `cssLoop_returns`: the loop ends, with an error or with the references rewritten.
* `cssLoop_separate`: its edits lie one behind the other.
-/

namespace OfflineWebArchiver

open Checks Splice

/-- The references from the cursor on, in at most `fuel` rounds. -/
def cssReferencesFrom (lower : Text → Text) (css : Text) : ℕ → ℕ → Option CodeUnit → List CssValue
  | 0, _, _ => []
  | fuel + 1, cursor, quote =>
    if cursor < css.length then
      match cssMove lower css cursor quote with
      | .next cursor quote => cssReferencesFrom lower css fuel cursor quote
      | .reference _ value cursor => value :: cssReferencesFrom lower css fuel cursor quote
    else []

/-- The references of a style sheet. A round moves on by one unit at least. -/
def cssReferences (lower : Text → Text) (css : Text) : List CssValue :=
  cssReferencesFrom lower css css.length 0 none

variable {env : RewriteEnv} {lower : Text → Text} {css : Text} {cursor cursor' start : ℕ}
variable {quote quote' : Option CodeUnit} {isImport : Bool} {value : CssValue}
variable {input : CssRewriteInput} {state state' : CssState}

/-! ### Moves -/

theorem skipSpaces_ge (css : Text) (cursor : ℕ) : cursor ≤ skipSpaces css cursor := Nat.le_add_right _ _

theorem length_takeWhile_drop (css : Text) (p : CodeUnit → Bool) {i : ℕ} (hi : i ≤ css.length) :
    i + ((css.drop i).takeWhile p).length ≤ css.length := by
  have := (List.takeWhile_sublist p (l := css.drop i)).length_le
  rw [List.length_drop] at this
  omega

/-- Where a value is found. It lies in the style sheet unless it is empty. -/
theorem scanCssReplacement_spec (h : scanCssReplacement css start = some value) :
    start ≤ value.valueStart ∧ value.valueStart ≤ value.valueEnd ∧ value.valueEnd ≤ value.stop ∧
      (value.valueStart < css.length → value.valueEnd ≤ css.length) := by
  have hskip := skipSpaces_ge css start
  unfold scanCssReplacement at h
  simp only [] at h
  split at h
  · split_ifs at h
    obtain rfl := Option.some.inj h
    exact ⟨by simp only; omega, Nat.le_add_right _ _, Nat.le_succ _,
      fun hlt => length_takeWhile_drop css _ (Nat.le_of_lt hlt)⟩
  · obtain rfl := Option.some.inj h
    exact ⟨hskip, Nat.le_add_right _ _, Nat.le_refl _,
      fun hlt => length_takeWhile_drop css _ (Nat.le_of_lt hlt)⟩

/-- A round that finds no reference moves the cursor on. -/
theorem cssMove_next (hlt : cursor < css.length)
    (h : cssMove lower css cursor quote = .next cursor' quote') : cursor < cursor' := by
  unfold cssMove at h
  split at h
  · cases hstop : indexOf css (asciiUnits "*/") (cursor + 2) with
    | none =>
      rw [hstop] at h
      obtain ⟨rfl, -⟩ := CssMove.next.inj h
      exact hlt
    | some stop =>
      rw [hstop] at h
      obtain ⟨rfl, -⟩ := CssMove.next.inj h
      have := (indexOf_some hstop).1
      omega
  · cases quote with
    | some q =>
      simp only [] at h
      split at h
      all_goals
        obtain ⟨rfl, -⟩ := CssMove.next.inj h
        omega
    | none =>
      simp only [] at h
      have hskip := skipSpaces_ge css (cursor + 3)
      split at h
      · obtain ⟨rfl, -⟩ := CssMove.next.inj h
        omega
      split at h
      · split at h
        · obtain ⟨rfl, -⟩ := CssMove.next.inj h
          omega
        split at h
        · obtain ⟨rfl, -⟩ := CssMove.next.inj h
          omega
        · cases h
      · split at h
        · cases h
        · obtain ⟨rfl, -⟩ := CssMove.next.inj h
          omega

/-- A reference stands behind the cursor, and the scan goes on behind it. -/
theorem cssMove_reference (h : cssMove lower css cursor quote = .reference isImport value cursor') :
    cursor < value.valueStart ∧ value.valueStart ≤ value.valueEnd ∧ value.valueEnd ≤ cursor' ∧
      (value.valueStart < css.length → value.valueEnd ≤ css.length) := by
  unfold cssMove at h
  split at h
  · split at h <;> cases h
  · cases quote with
    | some q =>
      simp only [] at h
      split at h <;> cases h
    | none =>
      simp only [] at h
      split at h
      · cases h
      split at h
      · split at h
        · cases h
        split at h
        · cases h
        · next v hv =>
          obtain ⟨-, rfl, rfl⟩ := CssMove.reference.inj h
          have hskip := skipSpaces_ge css (cursor + 3)
          have hscan := scanCssReplacement_spec hv
          exact ⟨by omega, hscan.2.1, by omega, hscan.2.2.2⟩
      · split at h
        · next v hv =>
          obtain ⟨-, rfl, rfl⟩ := CssMove.reference.inj h
          unfold cssImport at hv
          simp only [] at hv
          split_ifs at hv
          have hskip := skipSpaces_ge css (cursor + 7)
          have hscan := scanCssReplacement_spec hv
          exact ⟨by omega, hscan.2.1, hscan.2.2.1, hscan.2.2.2⟩
        · cases h

/-! ### Rounds -/

theorem rewriteCssReference_ok_iff :
    (∃ state', rewriteCssReference env input state isImport value = .ok state') ↔
      isReferenceText (slice input.css value.valueStart value.valueEnd) = true := by
  unfold rewriteCssReference
  simp only [bind_ok, pure_ok, processReference_ok]
  constructor
  · rintro ⟨_, _, ⟨h, -⟩, -⟩
    exact h
  · exact fun h => ⟨_, _, ⟨h, rfl⟩, rfl⟩

theorem rewriteCssReference_adds (h : rewriteCssReference env input state isImport value = .ok state') :
    isReferenceText (slice input.css value.valueStart value.valueEnd) = true ∧
      (∃ output, state'.replacements =
        state.replacements ++ [⟨value.valueStart, value.valueEnd, output⟩]) ∧
      state'.dependencies.length ≤ state.dependencies.length + 1 := by
  obtain ⟨processed, hprocessed, h⟩ := bind_ok.1 h
  obtain rfl := pure_ok.1 h
  obtain ⟨htext, rfl⟩ := processReference_ok.1 hprocessed
  refine ⟨htext, ⟨_, rfl⟩, ?_⟩
  rw [List.length_append]
  exact Nat.add_le_add_left (processResolved_pushed ..) _

theorem cssRound_next {s : ℕ × Option CodeUnit × CssState} :
    Fueled.Next (cssRound env input) (cursor, quote, state) s ↔ cursor < input.css.length ∧
      ((∃ cursor' quote', cssMove env.lower input.css cursor quote = .next cursor' quote' ∧
          s = (cursor', quote', state)) ∨
        ∃ isImport value cursor' state',
          cssMove env.lower input.css cursor quote = .reference isImport value cursor' ∧
          rewriteCssReference env input state isImport value = .ok state' ∧
          s = (cursor', quote, state')) := by
  rw [Fueled.Next, cssRound]
  split_ifs with hlt
  · cases hmove : cssMove env.lower input.css cursor quote with
    | next cursor' quote' => simp [hlt]
    | reference isImport value cursor' =>
      cases hrewrite : rewriteCssReference env input state isImport value with
      | error e => simp [hlt, hrewrite]
      | ok state' => simp [hlt, hrewrite]
  · simp [hlt]

/-- **The loop ends.** It has collected the references when they all pass the check. -/
theorem cssLoop_returns (env : RewriteEnv) (input : CssRewriteInput) (fuel cursor : ℕ)
    (quote : Option CodeUnit) (state : CssState) (hfuel : input.css.length - cursor ≤ fuel) :
    ∃ r, (Fueled.iterate (cssRound env input) (cursor, quote, state)).Returns r ∧
      ((∃ state', r = .ok state') ↔ ∀ v ∈ cssReferencesFrom env.lower input.css fuel cursor quote,
        isReferenceText (slice input.css v.valueStart v.valueEnd) = true) ∧
      ∀ state', r = .ok state' → state'.dependencies.length ≤
        state.dependencies.length + (cssReferencesFrom env.lower input.css fuel cursor quote).length := by
  induction fuel generalizing cursor quote state with
  | zero =>
    refine ⟨.ok state, Fueled.returns_iterate.2 (Or.inl ?_), by simp [cssReferencesFrom], ?_⟩
    · rw [cssRound, if_neg (by omega)]
      exact Fueled.returns_pure.2 rfl
    · rintro state' h
      obtain rfl := Except.ok.inj h
      exact Nat.le_add_right _ _
  | succ fuel ih =>
    rw [cssReferencesFrom]
    by_cases hlt : cursor < input.css.length
    swap
    · rw [if_neg hlt]
      refine ⟨.ok state, Fueled.returns_iterate.2 (Or.inl ?_), by simp, ?_⟩
      · rw [cssRound, if_neg hlt]
        exact Fueled.returns_pure.2 rfl
      · rintro state' h
        obtain rfl := Except.ok.inj h
        exact Nat.le_add_right _ _
    rw [if_pos hlt]
    cases hmove : cssMove env.lower input.css cursor quote with
    | next cursor' quote' =>
      have hgt := cssMove_next hlt hmove
      obtain ⟨r, hr, hok, hdeps⟩ := ih cursor' quote' state (by omega)
      exact ⟨r, Fueled.returns_iterate.2 (Or.inr ⟨_,
        cssRound_next.2 ⟨hlt, Or.inl ⟨cursor', quote', hmove, rfl⟩⟩, hr⟩), hok, hdeps⟩
    | reference isImport value cursor' =>
      obtain ⟨hstart, hle, hend, -⟩ := cssMove_reference hmove
      cases hrewrite : rewriteCssReference env input state isImport value with
      | error e =>
        refine ⟨.error e, Fueled.returns_iterate.2 (Or.inl ?_), ?_, by simp⟩
        · rw [cssRound, if_pos hlt, hmove]
          simp only [hrewrite]
          exact Fueled.returns_pure.2 rfl
        · simp only [reduceCtorEq, exists_false, List.mem_cons, forall_eq_or_imp, false_iff, not_and]
          intro htext
          obtain ⟨state', h⟩ := rewriteCssReference_ok_iff.2 htext
          cases hrewrite.symm.trans h
      | ok state' =>
        obtain ⟨htext, -, hadds⟩ := rewriteCssReference_adds hrewrite
        obtain ⟨r, hr, hok, hdeps⟩ := ih cursor' quote state' (by omega)
        refine ⟨r, Fueled.returns_iterate.2 (Or.inr ⟨_,
          cssRound_next.2 ⟨hlt, Or.inr ⟨isImport, value, cursor', state', hmove, hrewrite, rfl⟩⟩, hr⟩),
          ?_, fun st hst => ?_⟩
        · simp only [List.mem_cons, forall_eq_or_imp, htext, true_and]
          exact hok
        · have := hdeps st hst
          simp only [List.length_cons]
          omega

/-- The edits so far lie one behind the other, in front of the cursor. -/
structure CssCollected (css : Text) (s : ℕ × Option CodeUnit × CssState) : Prop where
  separate : Separate css.length s.2.2.replacements
  below : ∀ e ∈ s.2.2.replacements, e.stop ≤ s.1 ∧ e.start < s.1

theorem cssRound_collected {s s' : ℕ × Option CodeUnit × CssState} (hs : CssCollected input.css s)
    (h : Fueled.Next (cssRound env input) s s') : CssCollected input.css s' := by
  obtain ⟨cursor, quote, state⟩ := s
  have hbelow := hs.below
  simp only [] at hbelow
  obtain ⟨hlt, ⟨cursor', quote', hmove, rfl⟩ |
    ⟨isImport, value, cursor', state', hmove, hrewrite, rfl⟩⟩ := cssRound_next.1 h
  · have hgt := cssMove_next hlt hmove
    refine ⟨hs.separate, fun e he => ?_⟩
    have := hbelow e he
    simp only []
    omega
  · obtain ⟨hstart, hle, hend, hbound⟩ := cssMove_reference hmove
    obtain ⟨htext, ⟨output, hreplacements⟩, -⟩ := rewriteCssReference_adds hrewrite
    -- a text that passes the check is not empty
    have hin : value.valueStart < value.valueEnd ∧ value.valueStart < input.css.length := by
      have hne : slice input.css value.valueStart value.valueEnd ≠ [] := by
        intro hnil
        rw [hnil] at htext
        cases htext
      rw [slice, Ne, List.take_eq_nil_iff, List.drop_eq_nil_iff] at hne
      omega
    refine ⟨?_, ?_⟩
    · simp only [hreplacements]
      refine hs.separate.concat hle (hbound hin.2) fun x hx => ?_
      have := hbelow x hx
      simp only []
      omega
    · simp only [hreplacements]
      intro e he
      rcases List.mem_append.1 he with he | he
      · have := hbelow e he
        omega
      · obtain rfl := List.mem_singleton.1 he
        simp only []
        omega

/-- **The edits of the loop** lie within the style sheet, one behind the other. -/
theorem cssLoop_separate
    (h : (Fueled.iterate (cssRound env input) (0, none, {})).Returns (.ok state)) :
    Separate input.css.length state.replacements := by
  have hinit : CssCollected input.css (0, none, {}) := ⟨separate_nil, by simp⟩
  obtain ⟨⟨cursor, quote, found⟩, hfound, hend⟩ :=
    Fueled.iterate_invariant (fun s s' hs hn => cssRound_collected hs hn) hinit h
  -- the loop ends with what it has collected
  rw [cssRound] at hend
  split_ifs at hend
  · split at hend
    · cases Fueled.returns_pure.1 hend
    · split at hend <;> cases Fueled.returns_pure.1 hend
  · obtain rfl := Except.ok.inj (Sum.inr.inj (Fueled.returns_pure.1 hend))
    exact hfound.separate

end OfflineWebArchiver
